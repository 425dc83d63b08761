/-
  Muffle.Pattern.Node

  The structure of a pattern as it is written: characters, sets, places, groups, repetitions and
  assertions, with the flags that groups switch on and off. Characters stand by their numbers,
  since a pattern may name a number that is no character.
-/

namespace Muffle.Pattern

/-- A class of characters. -/
inductive Category where
  | digit
  | space
  | word
deriving DecidableEq, Repr

/-- A member of a set: a character, a range, or a class or its complement. -/
inductive SetItem where
  | one (code : Nat)
  | range (first last : Nat)
  | category (category : Category) (complement : Bool)
deriving DecidableEq, Repr

/-- A place between characters. -/
inductive Place where
  /-- The start of the text, or of a line when lines count. -/
  | start
  /-- The end of the text or the place before its last line break, or the end of a line. -/
  | stop
  | textStart
  | textStop
  | wordEdge
  | notWordEdge
deriving DecidableEq, Repr

/-- How a repetition gives characters back: it takes many first, few first, or never gives back. -/
inductive Greed where
  | greedy
  | lazy
  | possessive
deriving DecidableEq, Repr

/-- The flags of a pattern. -/
structure Flags where
  ignoreCase : Bool := false
  multiLine : Bool := false
  dotAll : Bool := false
  verbose : Bool := false
  ascii : Bool := false
  unicode : Bool := false
  template : Bool := false
deriving DecidableEq, Repr, Inhabited

namespace Flags

/-- The flags that stand in one of two sets. -/
def union (a b : Flags) : Flags :=
  { ignoreCase := a.ignoreCase || b.ignoreCase
    multiLine := a.multiLine || b.multiLine
    dotAll := a.dotAll || b.dotAll
    verbose := a.verbose || b.verbose
    ascii := a.ascii || b.ascii
    unicode := a.unicode || b.unicode
    template := a.template || b.template }

/-- The flags of the first set that do not stand in the second. -/
def without (a b : Flags) : Flags :=
  { ignoreCase := a.ignoreCase && !b.ignoreCase
    multiLine := a.multiLine && !b.multiLine
    dotAll := a.dotAll && !b.dotAll
    verbose := a.verbose && !b.verbose
    ascii := a.ascii && !b.ascii
    unicode := a.unicode && !b.unicode
    template := a.template && !b.template }

/-- Whether two sets share a flag. -/
def meets (a b : Flags) : Bool :=
  a.ignoreCase && b.ignoreCase || a.multiLine && b.multiLine || a.dotAll && b.dotAll ||
  a.verbose && b.verbose || a.ascii && b.ascii || a.unicode && b.unicode ||
  a.template && b.template

/-- The two flags that say which characters the classes hold; they exclude each other. -/
def alphabet : Flags := { ascii := true, unicode := true }

/-- The flags within a group that adds some and removes others. -/
def within (outer add remove : Flags) : Flags :=
  let kept := if add.meets alphabet then outer.without alphabet else outer
  (kept.union add).without remove

end Flags

/-- A part of a pattern. -/
inductive Node where
  | any
  | literal (code : Nat)
  | notLiteral (code : Nat)
  | set (complement : Bool) (items : List SetItem)
  | at (place : Place)
  | branch (alternatives : List (List Node))
  | group (index : Option Nat) (add remove : Flags) (body : List Node)
  | atomic (body : List Node)
  | repetition (greed : Greed) (least : Nat) (most : Option Nat) (body : List Node)
  | reference (group : Nat)
  | conditional (group : Nat) (yes no : List Node)
  | look (behind negative : Bool) (body : List Node)
deriving Inhabited

end Muffle.Pattern
