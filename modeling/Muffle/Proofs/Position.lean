/-
  Muffle.Proofs.Position

  Positions of one kind. A unit uses offsets, which are integers, or tuples of integers, and the
  two never meet. Both are read as coordinates under the lexicographic order: between positions
  of one kind the relations of `Value.holds` never fail, and they are the relations of that order.
-/

import Mathlib.Data.Int.Order.Basic
import Mathlib.Data.List.Lex
import Mathlib.Data.List.Nodup
import Mathlib.Order.Compare
import Mathlib.Order.Lattice
import Muffle.Value.Order

namespace Muffle

/-! ## Coordinates -/

/-- The integers of a position, under the lexicographic order. -/
@[ext]
structure Coordinates where
  items : List Int

namespace Coordinates

theorem items_injective : Function.Injective items := fun _ _ h => Coordinates.ext h

instance : LinearOrder Coordinates := LinearOrder.lift' items items_injective

theorem nil_lt_cons (y : Int) (ys : List Int) : Coordinates.mk [] < ⟨y :: ys⟩ :=
  List.Lex.nil

theorem cmp_nil_cons (y : Int) (ys : List Int) : cmp (Coordinates.mk []) ⟨y :: ys⟩ = .lt :=
  (cmp_eq_lt_iff _ _).mpr (nil_lt_cons y ys)

theorem cmp_cons_nil (x : Int) (xs : List Int) : cmp (Coordinates.mk (x :: xs)) ⟨[]⟩ = .gt :=
  (cmp_eq_gt_iff _ _).mpr (nil_lt_cons x xs)

/-- Coordinates are ordered by the first ones that differ. -/
theorem cons_lt_cons_iff {x y : Int} {xs ys : List Int} :
    Coordinates.mk (x :: xs) < ⟨y :: ys⟩ ↔ x < y ∨ x = y ∧ Coordinates.mk xs < ⟨ys⟩ :=
  List.cons_lt_cons_iff

/-- The first coordinates that differ decide. -/
theorem cmp_cons_cons (x y : Int) (xs ys : List Int) :
    cmp (Coordinates.mk (x :: xs)) ⟨y :: ys⟩ =
      if x = y then cmp (Coordinates.mk xs) ⟨ys⟩ else compare x y := by
  rcases lt_trichotomy x y with h | h | h
  · rw [if_neg h.ne, compare_lt_iff_lt.mpr h, cmp_eq_lt_iff, cons_lt_cons_iff]
    exact Or.inl h
  · subst h
    rw [if_pos rfl]
    rcases lt_trichotomy (Coordinates.mk xs) ⟨ys⟩ with h | h | h
    · rw [(cmp_eq_lt_iff _ _).mpr h, cmp_eq_lt_iff, cons_lt_cons_iff]
      exact Or.inr ⟨rfl, h⟩
    · rw [(cmp_eq_eq_iff _ _).mpr h, cmp_eq_eq_iff]
      rw [Coordinates.mk.injEq] at h ⊢
      rw [h]
    · rw [(cmp_eq_gt_iff _ _).mpr h, cmp_eq_gt_iff, cons_lt_cons_iff]
      exact Or.inr ⟨rfl, h⟩
  · rw [if_neg h.ne', compare_gt_iff_gt.mpr h, cmp_eq_gt_iff, cons_lt_cons_iff]
    exact Or.inl h

end Coordinates

/-! ## Kinds of positions -/

/-- The integer that a value amounts to; truth values count as zero and one. -/
def Value.integer? : Value → Option Int
  | .bool b => some (if b then 1 else 0)
  | .int i => some i
  | _ => none

/-- The coordinates of a position. -/
def Value.coordinates : Value → Coordinates
  | .tuple xs => ⟨xs.map fun x => x.integer?.getD 0⟩
  | v => ⟨[v.integer?.getD 0]⟩

/-- The two kinds of positions. -/
inductive PositionKind where
  | offset
  | tuple

/-- Whether a value is a position of a kind. -/
def PositionKind.Has : PositionKind → Value → Prop
  | .offset, v => v.integer?.isSome
  | .tuple, .tuple xs => ∀ x ∈ xs, x.integer?.isSome
  | .tuple, _ => False

/-- The same for the position of a diagnostic, which may be absent. -/
def PositionKind.HasOrNull (k : PositionKind) (v : Value) : Prop := v = .null ∨ k.Has v

/-- A value is a position of some kind, or absent. -/
def Value.IsPosition (v : Value) : Prop := ∃ k : PositionKind, k.HasOrNull v

namespace Value

variable {a b : Value} {i j : Int}

theorem holds_of_integer (r : Relation) (ha : a.integer? = some i) (hb : b.integer? = some j) :
    a.holds r b = .ok (r.admits (compare i j)) := by
  -- truth values and integers in all four combinations; the other values have no integer
  cases a <;> cases b <;> simp_all [integer?, holds, number?, Number.compare?]

theorem same_of_integer (ha : a.integer? = some i) (hb : b.integer? = some j) :
    a.same b = decide (i = j) := by
  have h : (compare i j == Ordering.eq) = decide (i = j) := by
    rw [Bool.eq_iff_iff, beq_iff_eq, decide_eq_true_iff, compare_eq_iff_eq]
  rw [← h]
  cases a <;> cases b <;> simp_all [integer?, same, number?, Number.same, Number.compare?]

theorem coordinates_of_integer (ha : a.integer? = some i) : a.coordinates = ⟨[i]⟩ := by
  cases a <;> simp_all [integer?, coordinates]

/-- Tuples of integers are compared like their coordinates. -/
theorem holdsItems_of_integers (r : Relation) :
    ∀ {xs ys : List Value}, (∀ x ∈ xs, x.integer?.isSome) → (∀ y ∈ ys, y.integer?.isSome) →
      holdsItems r xs ys = .ok (r.admits (cmp (tuple xs).coordinates (tuple ys).coordinates))
  | [], [], _, _ => by rw [holdsItems, cmp_self_eq_eq]
  | [], y :: ys, _, _ => by
    rw [holdsItems, coordinates, coordinates, List.map_nil, List.map_cons, Coordinates.cmp_nil_cons]
  | x :: xs, [], _, _ => by
    rw [holdsItems, coordinates, coordinates, List.map_nil, List.map_cons, Coordinates.cmp_cons_nil]
  | x :: xs, y :: ys, hx, hy => by
    obtain ⟨i, hi⟩ := Option.isSome_iff_exists.mp (hx x List.mem_cons_self)
    obtain ⟨j, hj⟩ := Option.isSome_iff_exists.mp (hy y List.mem_cons_self)
    have ih := holdsItems_of_integers r (fun z hz => hx z (List.mem_cons_of_mem _ hz))
      (fun z hz => hy z (List.mem_cons_of_mem _ hz))
    -- the first items decide, unless they are the same
    rw [holdsItems, same_of_integer hi hj, holds_of_integer r hi hj, ih]
    have hcmp : cmp (tuple (x :: xs)).coordinates (tuple (y :: ys)).coordinates =
        if i = j then cmp (tuple xs).coordinates (tuple ys).coordinates else compare i j := by
      rw [coordinates, coordinates, List.map_cons, List.map_cons, hi, hj, Option.getD_some,
        Option.getD_some, Coordinates.cmp_cons_cons]
      rfl
    rw [hcmp]
    by_cases h : i = j
    · rw [if_pos h, decide_eq_true h]
      rfl
    · rw [if_neg h, decide_eq_false h]
      rfl

/-- By induction on both lists; a shorter one is never the same as a longer one. -/
theorem sameItems_of_integers :
    ∀ {xs ys : List Value}, (∀ x ∈ xs, x.integer?.isSome) → (∀ y ∈ ys, y.integer?.isSome) →
      sameItems xs ys = decide ((tuple xs).coordinates = (tuple ys).coordinates)
  | [], [], _, _ => by simp [sameItems]
  | [], y :: ys, _, _ => by simp [sameItems, coordinates]
  | x :: xs, [], _, _ => by simp [sameItems, coordinates]
  | x :: xs, y :: ys, hx, hy => by
    obtain ⟨i, hi⟩ := Option.isSome_iff_exists.mp (hx x List.mem_cons_self)
    obtain ⟨j, hj⟩ := Option.isSome_iff_exists.mp (hy y List.mem_cons_self)
    have ih := sameItems_of_integers (fun z hz => hx z (List.mem_cons_of_mem _ hz))
      (fun z hz => hy z (List.mem_cons_of_mem _ hz))
    rw [sameItems, same_of_integer hi hj, ih]
    simp [coordinates, hi, hj]

end Value

/-! ## Positions of one kind are ordered by their coordinates -/

namespace PositionKind

variable {k : PositionKind} {a b : Value}

/-- Positions of one kind are compared as their coordinates are. -/
theorem Has.holds_eq (ha : k.Has a) (hb : k.Has b) (r : Relation) :
    a.holds r b = .ok (r.admits (cmp a.coordinates b.coordinates)) := by
  cases k with
  | offset =>
    obtain ⟨i, hi⟩ := Option.isSome_iff_exists.mp ha
    obtain ⟨j, hj⟩ := Option.isSome_iff_exists.mp hb
    rw [Value.holds_of_integer r hi hj, Value.coordinates_of_integer hi,
      Value.coordinates_of_integer hj, Coordinates.cmp_cons_cons, cmp_self_eq_eq]
    by_cases h : i = j
    · rw [if_pos h, compare_eq_iff_eq.mpr h]
    · rw [if_neg h]
  | tuple =>
    cases a <;> try contradiction
    cases b <;> try contradiction
    rw [Value.holds]
    exact Value.holdsItems_of_integers r ha hb

theorem Has.same_eq (ha : k.Has a) (hb : k.Has b) :
    a.same b = decide (a.coordinates = b.coordinates) := by
  cases k with
  | offset =>
    obtain ⟨i, hi⟩ := Option.isSome_iff_exists.mp ha
    obtain ⟨j, hj⟩ := Option.isSome_iff_exists.mp hb
    rw [Value.same_of_integer hi hj, Value.coordinates_of_integer hi,
      Value.coordinates_of_integer hj]
    simp
  | tuple =>
    cases a <;> try contradiction
    cases b <;> try contradiction
    rw [Value.same]
    exact Value.sameItems_of_integers ha hb

theorem Has.lessEq_eq (ha : k.Has a) (hb : k.Has b) :
    a.lessEq b = .ok (decide (a.coordinates ≤ b.coordinates)) := by
  rw [Value.lessEq, ha.holds_eq hb]
  congr 1
  rw [Bool.eq_iff_iff, decide_eq_true_iff, ← not_lt, ← cmp_eq_gt_iff]
  -- the relation admits all but one result of the comparison
  generalize cmp a.coordinates b.coordinates = o
  cases o <;> simp [Relation.admits]

theorem Has.kind_ne_null (ha : k.Has a) : a.kind ≠ .null := by
  cases a <;> cases k <;> simp_all [Has, Value.integer?, Value.kind]

/-- Two positions that were compared are of one kind. -/
theorem Has.kind_eq {l : PositionKind} (ha : k.Has a) (hb : l.Has b) {x : Bool}
    (h : a.lessEq b = .ok x) : k = l := by
  cases k <;> cases l
  case offset.offset | tuple.tuple => rfl
  -- a number and a tuple have no order
  case offset.tuple =>
    cases a <;> cases b <;>
      simp_all [Has, Value.integer?, Value.lessEq, Value.holds, Value.number?]
  case tuple.offset =>
    cases a <;> cases b <;>
      simp_all [Has, Value.integer?, Value.lessEq, Value.holds, Value.number?]

end PositionKind

end Muffle
