/-
  Muffle.Registry

  The directives of one unit, innermost first. A directive that lies strictly inside one already
  there goes right before the first such one; every other directive goes to the end, so that of
  two which cross the later one counts as the outer one.
-/

import Muffle.Directive
import Muffle.Notice

namespace Muffle

/-- The directives of a unit in stored order. -/
structure Registry where
  unit : SourceUnit
  directives : List Directive := []

/-- Where a new directive goes. -/
inductive Registry.Place where
  /-- Right before the directive at `index`, which encloses it. -/
  | before (index : Nat) (encloser : Directive)
  /-- To the end; `crossing` is the first directive that it crosses, if any. -/
  | last (crossing : Option Directive)

namespace Registry

/-- Whether the range of a directive overlaps a new range that does not enclose it. -/
def crosses (d : Directive) (r : SourceRange) : Except Fault Bool := do
  if ← d.range.overlaps r then return !(← r.encloses d.range) else return false

/-- The first directive to cross: the one found so far, else `d` if it crosses. -/
def firstCrossing (r : SourceRange) (found : Option Directive) (d : Directive) :
    Except Fault (Option Directive) :=
  match found with
  | some c => .ok (some c)
  | none => do return if ← crosses d r then some d else none

/-- Finds the place for a range among the directives from `index` on. -/
def placeFrom (r : SourceRange) (crossing : Option Directive) (index : Nat) :
    List Directive → Except Fault Place
  | [] => .ok (.last crossing)
  | d :: rest => do
    if ← d.range.strictlyEncloses r then
      return .before index d
    else
      placeFrom r (← firstCrossing r crossing d) (index + 1) rest

/-- The place for a directive. -/
def place (g : Registry) (d : Directive) : Except Fault Place :=
  placeFrom d.range none 0 g.directives

/-- The registry with a directive put at a place. -/
def insertAt (g : Registry) (d : Directive) : Place → Registry
  | .before i _ => { g with directives := g.directives.insertIdx i d }
  | .last _ => { g with directives := g.directives ++ [d] }

/-- What there is to say about a directive that goes to a place. -/
def placeNotices (g : Registry) (d : Directive) : Place → List Notice
  | .before _ e => [.outOfOrder g.unit d.anchor e.anchor]
  | .last (some c) => [.overlapAsOuter g.unit d.anchor c.anchor]
  | .last none => []

/-- Adds a directive. -/
def register (g : Registry) (d : Directive) : Except Fault (Registry × List Notice) := do
  let p ← g.place d
  return (g.insertAt d p, g.placeNotices d p)

/-- The first of some directives that covers a message at a position. -/
def firstMatch (position message : Value) : List Directive → Except Fault (Option Directive)
  | [] => .ok none
  | d :: rest => do
    if ← d.appliesTo position message then return some d else firstMatch position message rest

/-- The innermost directive that covers a message at a position. -/
def find? (g : Registry) (position message : Value) : Except Fault (Option Directive) :=
  firstMatch position message g.directives

/-- The directives that are not among the used ones, in stored order. -/
def unused (g : Registry) (used : List Nat) : List Directive :=
  g.directives.filter fun d => !used.contains d.id

end Registry

end Muffle
