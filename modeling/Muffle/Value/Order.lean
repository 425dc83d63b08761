/-
  Muffle.Value.Order

  The order of values, and the other operations on values that can fail. Numbers are ordered by
  what they amount to, texts by code points, tuples and lists item by item with a proper prefix
  first; all other pairs have no order. A value is a member of a set only if nothing inside it is
  a list, a map or a set.
-/

import Muffle.Fault

namespace Muffle.Value

/-! ## Text -/

/-- The text of a value; there is none where an integer in it is too long. -/
def written (v : Value) : Except Fault String :=
  if v.isWritable then .ok v.text else .error (.tooManyDigits 0)

/-! ## Order -/

mutual

/-- Whether a relation holds between two values. -/
def holds (r : Relation) : Value → Value → Except Fault Bool
  | .str s, .str t => .ok (r.admits (compare s t))
  | .tuple xs, .tuple ys => holdsItems r xs ys
  | .list xs, .list ys => holdsItems r xs ys
  | a, b =>
    match a.number?, b.number? with
    | some m, some n => .ok ((m.compare? n).any r.admits)
    | _, _ => .error (.notOrdered r a.kind b.kind)

/-- Whether a relation holds between two sequences: the first items that differ decide, and
    without any the shorter sequence is the smaller one. -/
def holdsItems (r : Relation) : List Value → List Value → Except Fault Bool
  | [], [] => .ok (r.admits .eq)
  | [], _ :: _ => .ok (r.admits .lt)
  | _ :: _, [] => .ok (r.admits .gt)
  | x :: xs, y :: ys => if same x y then holdsItems r xs ys else holds r x y

end

/-- Whether the first value is smaller. -/
abbrev less (a b : Value) : Except Fault Bool := holds .less a b

/-- Whether the first value is not greater. -/
abbrev lessEq (a b : Value) : Except Fault Bool := holds .lessEq a b

/-- The smaller of two values; the first if neither is. -/
def minimum (a b : Value) : Except Fault Value := do
  return if ← holds .less b a then b else a

/-- The greater of two values; the first if neither is. -/
def maximum (a b : Value) : Except Fault Value := do
  return if ← holds .greater b a then b else a

/-! ## Membership in sets -/

mutual

/-- The kind of the first part of a value that keeps it out of sets. -/
def obstacle? : Value → Option Kind
  | .list _ => some .list
  | .map _ => some .map
  | .tuple xs => obstacleIn? xs
  | .leaf kind _ _ => if ["set", endlessKind].contains kind then some (.leaf kind) else none
  | _ => none

/-- The kind of the first such part in a list. -/
def obstacleIn? : List Value → Option Kind
  | [] => none
  | x :: xs => (obstacle? x).or (obstacleIn? xs)

end

/-- Fails unless the value can be a member of a set. -/
def requireHashable (v : Value) : Except Fault Unit :=
  match v.obstacle? with
  | some k => .error (.notHashable k)
  | none => .ok ()

/-- Whether a value is the same as a member of a set. -/
def isMember (v : Value) (members : List Value) : Except Fault Bool := do
  v.requireHashable
  return members.any v.same

/-! ## Parts -/

/-- The parts of a value that can be gone through: the items of a sequence, the characters of a
    text, the keys of a map. -/
def parts? : Value → Option (List Value)
  | .tuple xs => some xs
  | .list xs => some xs
  | .str s => some (s.toList.map fun c => .str c.toString)
  | .map es => some (es.map Prod.fst)
  | _ => none

/-- The parts of a value. -/
def parts (v : Value) : Except Fault (List Value) :=
  match v.parts? with
  | some xs => .ok xs
  | none => .error (.notIterable v.kind)

/-- The two parts of a value that has exactly two. -/
def pair (v : Value) : Except Fault (Value × Value) :=
  match v.parts? with
  | none => .error (.notUnpackable v.kind)
  | some [a, b] => .ok (a, b)
  | some (_ :: _ :: _) => .error .tooManyValues
  | some xs => .error (.tooFewValues xs.length)

/-- The entry of a map with a name; the value has to be a map. -/
def field (v : Value) (name : String) : Except Fault Value :=
  match v with
  | .map es =>
    match lookupIn (.str name) es with
    | some x => .ok x
    | none => .error (.missingField (.str name))
  | .tuple _ => .error (.indexNotInteger .tuple)
  | .list _ => .error (.indexNotInteger .list)
  | .str _ => .error (.indexNotInteger .str)
  | v => .error (.notIndexable v.kind)

/-- The entry of a map with a name, or a default; the value has to be a map. -/
def fieldD (v : Value) (name : String) (default : Value) : Except Fault Value :=
  match v with
  | .map es => .ok ((lookupIn (.str name) es).getD default)
  | v => .error (.noOperation v.kind "get")

end Muffle.Value
