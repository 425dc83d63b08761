/-
  Muffle.SourceRange

  Ranges of positions in one source unit, both ends included. The end of a range never precedes
  its start. The relations between ranges compare their ends only; they fail if positions of
  different kinds meet.
-/

import Muffle.Value.Order

namespace Muffle

/-- The positions from `start` to `stop`. -/
structure SourceRange where
  start : Value
  stop : Value
deriving Inhabited, Repr

namespace SourceRange

/-- The range between two positions, unless the second precedes the first. -/
def make (start stop : Value) : Except Fault SourceRange := do
  if ← stop.less start then
    .error (.invertedRange start stop)
  else
    return ⟨start, stop⟩

/-! ## Relations -/

/-- Whether a position lies in the range; an absent position lies in none. -/
def contains (r : SourceRange) (position : Value) : Except Fault Bool :=
  match position with
  | .null => .ok false
  | p => do
    if ← r.start.lessEq p then p.lessEq r.stop else return false

/-- Whether `s` lies inside `r`. -/
def encloses (r s : SourceRange) : Except Fault Bool := do
  if ← r.start.lessEq s.start then s.stop.lessEq r.stop else return false

/-- Whether two ranges have the same ends. -/
def same (r s : SourceRange) : Bool :=
  r.start.same s.start && r.stop.same s.stop

/-- Whether `s` lies inside `r` and is another range. -/
def strictlyEncloses (r s : SourceRange) : Except Fault Bool := do
  return (← r.encloses s) && !r.same s

/-- Whether some position lies in both ranges. -/
def overlaps (r s : SourceRange) : Except Fault Bool := do
  if ← r.start.lessEq s.stop then s.start.lessEq r.stop else return false

/-! ## Union -/

/-- One span of syntax: a range, or a value that has a start and an end as its two parts. -/
inductive Span where
  | range (r : SourceRange)
  | parts (v : Value)
  /-- What stands in the place of spans and is nothing that can be gone through. -/
  | unlisted (kind : Kind)
deriving Repr

/-- The two ends of a span. -/
def Span.ends : Span → Except Fault (Value × Value)
  | .range r => .ok (r.start, r.stop)
  | .parts v => v.pair
  | .unlisted kind => .error (.notIterable kind)

/-- The better of what was found so far and a new value; null stands for nothing found. -/
def improve (choose : Value → Value → Except Fault Value) (found new : Value) :
    Except Fault Value :=
  match found with
  | .null => .ok new
  | found => choose found new

/-- The least start and the greatest end of spans, going on from those found so far. -/
def unionEnds (start stop : Value) : List Span → Except Fault (Value × Value)
  | [] => .ok (start, stop)
  | span :: rest => do
    let (s, e) ← span.ends
    let start ← improve Value.minimum start s
    let stop ← improve Value.maximum stop e
    unionEnds start stop rest

/-- The smallest range that covers every span; if all spans end before the least start, it is
    that start alone. -/
def union (spans : List Span) : Except Fault SourceRange := do
  let (start, stop) ← unionEnds .null .null spans
  match start with
  | .null => .error .emptySpans
  | start => make start (← Value.maximum stop start)

/-! ## Output -/

/-- The JSON form of a range. -/
def toJson (r : SourceRange) : Value :=
  .ofFields [("start", r.start), ("end", r.stop)]

/-- Whether both bounds have a text. -/
def isWritable (r : SourceRange) : Bool := r.start.isWritable && r.stop.isWritable

/-- A range in brackets, unless a bound is too long to be written. -/
def written (r : SourceRange) : Except Fault String := do
  return "[" ++ (← r.start.written) ++ ", " ++ (← r.stop.written) ++ "]"

end SourceRange

end Muffle
