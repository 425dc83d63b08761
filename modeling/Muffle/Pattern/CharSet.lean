/-
  Muffle.Pattern.CharSet

  Sets of characters, with the flags worked in. When case is ignored a character is put into
  lower case before it is looked for, and the set holds the lower case of its members together
  with the variants that share an upper case with them. Ranges beyond the first plane are looked
  through a second time with the upper case of the character.
-/

import Muffle.Pattern.Node
import Muffle.Text.Alphanumeric
import Muffle.Text.Blank
import Muffle.Text.Case

namespace Muffle.Pattern

/-! ## Classes -/

/-- Whether a character is in a class, in ASCII or in all of Unicode. -/
def Category.holds (category : Category) (ascii : Bool) (c : Char) : Bool :=
  match category, ascii with
  | .digit, true => c.isDigit
  | .digit, false => Text.isDecimal c
  | .space, true => Text.isAsciiBlank c
  | .space, false => Text.isBlank c
  | .word, true => c.isAlphanum || c == '_'
  | .word, false => Text.isWord c

/-! ## Case -/

/-- What is done to a character before it is looked for in a set. -/
inductive Folding where
  | exact
  | ascii
  | unicode
deriving DecidableEq, Repr

/-- The folding that flags ask for. -/
def Flags.folding (f : Flags) : Folding :=
  if f.ignoreCase then if f.unicode then .unicode else .ascii else .exact

/-- A character after folding. -/
def Folding.apply : Folding → Char → Char
  | .exact, c => c
  | .ascii, c => c.toLower
  | .unicode, c => Text.lowerFirst c

/-- A code as a character, if it is one. -/
def charOf? (code : Nat) : Option Char :=
  let c := Char.ofNat code
  if c.toNat = code then some c else none

/-- A code after folding. -/
def Folding.applyCode (f : Folding) (code : Nat) : Nat :=
  match charOf? code with
  | some c => (f.apply c).toNat
  | none => code

/-- The codes that share an upper case with a code in lower case. -/
def variants (code : Nat) : List Nat :=
  match charOf? code with
  | some c => ((Text.caseVariants.images? c).getD []).map Char.toNat
  | none => []

/-- Whether a character has another case. -/
def hasCase (c : Char) : Bool :=
  let l := Text.lowerFirst c
  c != l || c != Text.upperFirst l

/-! ## Sets -/

/-- A set of characters. A character is in it if its folding is in a span, is one of the extra
    codes, has its upper case in a wide span, or is in a class; `complement` turns that round. -/
structure CharSet where
  complement : Bool := false
  folding : Folding := .exact
  spans : List (Nat × Nat) := []
  extra : List Nat := []
  wide : List (Nat × Nat) := []
  categories : List (Category × Bool) := []
  ascii : Bool := false

namespace CharSet

/-- Whether a code lies in one of some spans. -/
def inSpans (n : Nat) (spans : List (Nat × Nat)) : Bool :=
  spans.any fun s => s.1 ≤ n && n ≤ s.2

/-- Whether a folded character is a member, before the complement. -/
def hasFolded (s : CharSet) (c : Char) : Bool :=
  inSpans c.toNat s.spans || s.extra.contains c.toNat ||
  (!s.wide.isEmpty && inSpans (Text.upperFirst c).toNat s.wide) ||
  s.categories.any fun k => k.1.holds s.ascii c != k.2

/-- Whether a character is a member. -/
def contains (s : CharSet) (c : Char) : Bool :=
  s.hasFolded (s.folding.apply c) != s.complement

/-- The first plane ends here. -/
def planeEnd : Nat := 0xffff

/-- The lower case of the members of a range of the first plane, where it is another character,
    with the variants of all of them. -/
def rangeExtra (first last : Nat) : List Nat :=
  let images := (Text.lowerRuns.pairs.filter fun p => first ≤ p.1 && p.1 ≤ last).map Prod.snd
  let images := if first ≤ 0x130 && 0x130 ≤ last then 'i'.toNat :: images else images
  let shared := Text.caseVariants.filter fun v =>
    (first ≤ v.1 && v.1 ≤ last) || images.contains v.1
  images ++ shared.flatMap fun v => v.2.map Char.toNat

/-- A set with one more member. -/
def add (s : CharSet) : SetItem → CharSet
  | .category k complement => { s with categories := (k, complement) :: s.categories }
  | .one code =>
    match s.folding with
    | .exact => { s with spans := (code, code) :: s.spans }
    | .ascii =>
      let l := s.folding.applyCode code
      { s with spans := (l, l) :: s.spans }
    | .unicode =>
      let l := s.folding.applyCode code
      if planeEnd < l then { s with spans := (code, code) :: s.spans }
      else { s with spans := (l, l) :: s.spans, extra := variants l ++ s.extra }
  | .range first last =>
    match s.folding with
    | .exact => { s with spans := (first, last) :: s.spans }
    | .ascii =>
      let capitals := (List.range 26).map (· + 'A'.toNat)
      let images := (capitals.filter fun n => first ≤ n && n ≤ last).map (· + 32)
      { s with spans := (first, last) :: s.spans, extra := images ++ s.extra }
    | .unicode =>
      let images := if planeEnd < first then [] else rangeExtra first (min last planeEnd)
      { s with
        spans := (first, last) :: s.spans
        extra := images ++ s.extra
        wide := if planeEnd < last then (first, last) :: s.wide else s.wide }

/-- The set of items under flags. -/
def ofItems (flags : Flags) (complement : Bool) (items : List SetItem) : CharSet :=
  items.foldl add { complement := complement, folding := flags.folding, ascii := !flags.unicode }

/-- The set of one character under flags; a character without another case stands for itself. -/
def ofCode (flags : Flags) (complement : Bool) (code : Nat) : CharSet :=
  match flags.folding with
  | .exact => { complement := complement, spans := [(code, code)] }
  | .ascii =>
    let l := Folding.ascii.applyCode code
    { complement := complement, folding := .ascii, spans := [(l, l)] }
  | .unicode =>
    if (charOf? code).any hasCase then
      let l := Folding.unicode.applyCode code
      { complement := complement, folding := .unicode, spans := [(l, l)], extra := variants l }
    else { complement := complement, spans := [(code, code)] }

/-- The set of all characters, but for the line break if lines count. -/
def any (flags : Flags) : CharSet :=
  if flags.dotAll then { complement := true } else { complement := true, spans := [(10, 10)] }

end CharSet

end Muffle.Pattern
