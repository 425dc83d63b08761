/-
  Muffle.Proofs.OrderedKind

  Values under a total order, whatever they are. Offsets, tuples of integers and texts are such
  kinds of values. Where all ends are of one kind, no comparison fails, and each relation of ranges
  is one of the keys of their ends; directives with such ranges can be registered in every order
  and looked up.
-/

import Mathlib.Data.String.Basic
import Mathlib.Order.Compare
import Muffle.Proofs.Registration

namespace Muffle

/-- A kind of values that are ordered like their keys. -/
structure OrderedKind where
  Has : Value → Prop
  Key : Type
  [order : LinearOrder Key]
  key : Value → Key
  holds_eq : ∀ {a b : Value}, Has a → Has b → ∀ r : Relation,
    a.holds r b = .ok (r.admits (cmp (key a) (key b)))
  same_iff : ∀ {a b : Value}, Has a → Has b → (a.same b = true ↔ key a = key b)

attribute [instance] OrderedKind.order

/-- Positions of one kind are ordered like their coordinates. -/
def PositionKind.ordered (k : PositionKind) : OrderedKind where
  Has := k.Has
  Key := Coordinates
  key := Value.coordinates
  holds_eq ha hb r := ha.holds_eq hb r
  same_iff ha hb := by rw [ha.same_eq hb, decide_eq_true_iff]

/-- A line and a column make a position. -/
theorem PositionKind.has_place (line column : Int) :
    PositionKind.tuple.ordered.Has (.tuple [.int line, .int column]) := by
  show PositionKind.tuple.Has (.tuple [.int line, .int column])
  simp [PositionKind.Has, Value.integer?]

/-- Texts are ordered by their code points. -/
def OrderedKind.texts : OrderedKind where
  Has v := ∃ s, v = .str s
  Key := String
  key := Value.text
  holds_eq := by
    rintro _ _ ⟨s, rfl⟩ ⟨t, rfl⟩ r
    rw [Value.holds, ← cmp_eq_compare]
    rfl
  same_iff := by
    rintro _ _ ⟨s, rfl⟩ ⟨t, rfl⟩
    exact beq_iff_eq

namespace Relation

variable {α : Type} [LinearOrder α]

theorem admits_less (x y : α) : Relation.less.admits (cmp x y) = decide (x < y) := by
  rw [admits, Bool.eq_iff_iff, beq_iff_eq, decide_eq_true_iff, cmp_eq_lt_iff]

theorem admits_greater (x y : α) : Relation.greater.admits (cmp x y) = decide (y < x) := by
  rw [admits, Bool.eq_iff_iff, beq_iff_eq, decide_eq_true_iff, cmp_eq_gt_iff]

theorem admits_lessEq (x y : α) : Relation.lessEq.admits (cmp x y) = decide (x ≤ y) := by
  rw [admits, Bool.eq_iff_iff, bne_iff_ne, decide_eq_true_iff, ne_eq, cmp_eq_gt_iff, not_lt]

end Relation

namespace OrderedKind

variable {k : OrderedKind} {a b : Value}

/-! ## Values -/

theorem ne_null (ha : k.Has a) : a ≠ .null := by
  rintro rfl
  have h := k.holds_eq ha ha .less
  cases h

theorem kind_ne_null (ha : k.Has a) : a.kind ≠ .null := by
  cases a with
  | null => exact absurd rfl (ne_null ha)
  | _ => nofun

theorem lessEq_eq (ha : k.Has a) (hb : k.Has b) :
    a.lessEq b = .ok (decide (k.key a ≤ k.key b)) := by
  rw [Value.lessEq, k.holds_eq ha hb, Relation.admits_lessEq]

end OrderedKind

/-! ## Ranges -/

namespace SourceRange

variable {k : OrderedKind}

/-- Both ends of a range are of a kind. -/
structure HasEnds (k : OrderedKind) (r : SourceRange) : Prop where
  start : k.Has r.start
  stop : k.Has r.stop

/-- A range with such ends that can be made. -/
structure Valid (k : OrderedKind) (r : SourceRange) : Prop extends HasEnds k r where
  made : make r.start r.stop = .ok r

/-- A range can be made exactly if its end does not precede its start. -/
theorem HasEnds.made_iff {r : SourceRange} (hr : r.HasEnds k) :
    make r.start r.stop = .ok r ↔ k.key r.start ≤ k.key r.stop := by
  rw [make, Value.less, k.holds_eq hr.stop hr.start, Relation.admits_less, ← not_lt]
  by_cases h : k.key r.stop < k.key r.start <;> simp [h]

theorem Valid.start_le_stop {r : SourceRange} (hr : r.Valid k) :
    k.key r.start ≤ k.key r.stop := hr.toHasEnds.made_iff.mp hr.made

end SourceRange

/-! ## Relations of ranges -/

/-- A comparison after which another one may follow. -/
theorem isOk_both {x y : Except Fault Bool} (hx : x.isOk = true) (hy : y.isOk = true) :
    (do if ← x then y else return false : Except Fault Bool).isOk = true := by
  obtain ⟨b, rfl⟩ := exists_of_isOk hx
  cases b with
  | true => exact hy
  | false => rfl

namespace SourceRange.HasEnds

variable {k : OrderedKind} {r s : SourceRange} {position : Value}

/-- The checks on ranges, each as the comparison of keys that it makes. -/
theorem encloses_eq (hr : r.HasEnds k) (hs : s.HasEnds k) :
    r.encloses s =
      .ok (decide (k.key r.start ≤ k.key s.start ∧ k.key s.stop ≤ k.key r.stop)) := by
  rw [encloses, OrderedKind.lessEq_eq hr.start hs.start, OrderedKind.lessEq_eq hs.stop hr.stop]
  by_cases h : k.key r.start ≤ k.key s.start <;> simp [h]

theorem same_iff (hr : r.HasEnds k) (hs : s.HasEnds k) :
    r.same s = true ↔ k.key r.start = k.key s.start ∧ k.key r.stop = k.key s.stop := by
  rw [same, Bool.and_eq_true, k.same_iff hr.start hs.start, k.same_iff hr.stop hs.stop]

theorem strictlyEncloses_eq (hr : r.HasEnds k) (hs : s.HasEnds k) :
    r.strictlyEncloses s =
      .ok (decide (k.key r.start ≤ k.key s.start ∧ k.key s.stop ≤ k.key r.stop) &&
        !r.same s) := by
  rw [strictlyEncloses, hr.encloses_eq hs]
  rfl

theorem overlaps_eq (hr : r.HasEnds k) (hs : s.HasEnds k) :
    r.overlaps s =
      .ok (decide (k.key r.start ≤ k.key s.stop ∧ k.key s.start ≤ k.key r.stop)) := by
  rw [overlaps, OrderedKind.lessEq_eq hr.start hs.stop, OrderedKind.lessEq_eq hs.start hr.stop]
  by_cases h : k.key r.start ≤ k.key s.stop <;> simp [h]

theorem contains_eq (hr : r.HasEnds k) (hp : k.Has position) :
    r.contains position =
      .ok (decide (k.key r.start ≤ k.key position ∧ k.key position ≤ k.key r.stop)) := by
  rw [contains_of_ne_null (OrderedKind.kind_ne_null hp), OrderedKind.lessEq_eq hr.start hp,
    OrderedKind.lessEq_eq hp hr.stop]
  by_cases h : k.key r.start ≤ k.key position <;> simp [h]

/-- Where a value of the kind is looked for, or none at all, there is an answer. -/
theorem isOk_contains (hr : r.HasEnds k) (hp : position = .null ∨ k.Has position) :
    (r.contains position).isOk = true := by
  rcases hp with rfl | hp
  · rfl
  · rw [hr.contains_eq hp]
    rfl

end SourceRange.HasEnds

/-! ## Registration and lookup -/

namespace Registry

variable {k : OrderedKind} {r : SourceRange}

theorem isOk_crosses {d : Directive} (hd : d.range.HasEnds k) (hr : r.HasEnds k) :
    (crosses d r).isOk = true := by
  rw [crosses, hr.encloses_eq hd]
  exact isOk_both (hd.overlaps_eq hr ▸ rfl) rfl

/-- In one ordered kind a place is always found. -/
theorem isOk_placeFrom (hr : r.HasEnds k) {ds : List Directive}
    (hds : ∀ d ∈ ds, d.range.HasEnds k) (crossing : Option Directive) (index : Nat) :
    (placeFrom r crossing index ds).isOk = true := by
  induction ds generalizing crossing index with
  | nil => rfl
  | cons d rest ih =>
    obtain ⟨hd, hrest⟩ := List.forall_mem_cons.mp hds
    rw [placeFrom, hd.strictlyEncloses_eq hr, ok_bind]
    split
    · rfl
    · obtain ⟨crossed, hcrossed⟩ := exists_of_isOk (isOk_crosses hd hr)
      cases crossing with
      | some c => exact ih hrest _ _
      | none =>
        rw [firstCrossing, hcrossed]
        exact ih hrest _ _

/-- In one ordered kind every registration succeeds. -/
theorem exists_register {g : Registry} {d : Directive} (hg : ∀ x ∈ g.directives, x.range.HasEnds k)
    (hd : d.range.HasEnds k) : ∃ g' ns, g.register d = .ok (g', ns) := by
  obtain ⟨p, hp⟩ := exists_of_isOk (isOk_placeFrom hd hg none 0)
  refine ⟨g.insertAt d p, g.placeNotices d p, ?_⟩
  rw [register, place, hp]
  rfl

/-- Directives with ranges of one kind can be registered one after the other. -/
theorem exists_registerAll {g : Registry} {ds : List Directive}
    (hg : ∀ x ∈ g.directives, x.range.HasEnds k) (hds : ∀ d ∈ ds, d.range.HasEnds k) :
    ∃ g', g.registerAll ds = .ok g' := by
  induction ds generalizing g with
  | nil => exact ⟨g, rfl⟩
  | cons d rest ih =>
    obtain ⟨hd, hrest⟩ := List.forall_mem_cons.mp hds
    obtain ⟨g₁, ns, hreg⟩ := exists_register hg hd
    have hg₁ : ∀ x ∈ g₁.directives, x.range.HasEnds k := by
      intro x hx
      rcases List.mem_cons.mp ((register_perm hreg).mem_iff.mp hx) with rfl | hx
      · exact hd
      · exact hg x hx
    obtain ⟨g', hg'⟩ := ih hg₁ hrest
    refine ⟨g', ?_⟩
    rw [registerAll, hreg]
    exact hg'

/-- In one ordered kind every lookup succeeds. -/
theorem isOk_firstMatch {ds : List Directive} {position : Value}
    (hds : ∀ d ∈ ds, d.range.HasEnds k) (hp : position = .null ∨ k.Has position)
    (message : String) : (firstMatch position (.str message) ds).isOk = true := by
  induction ds with
  | nil => rfl
  | cons d rest ih =>
    obtain ⟨hd, hrest⟩ := List.forall_mem_cons.mp hds
    obtain ⟨covered, hcovered⟩ := exists_of_isOk (hd.isOk_contains hp)
    have happlies : (d.appliesTo position (.str message)).isOk = true := by
      rw [Directive.appliesTo, hcovered, ok_bind]
      cases covered with
      | false => rfl
      | true => cases d.pattern <;> rfl
    obtain ⟨applies, happlies⟩ := exists_of_isOk happlies
    rw [firstMatch, happlies, ok_bind]
    cases applies with
    | true => rfl
    | false => exact ih hrest

end Registry

end Muffle
