/-
  Muffle.Proofs.Union

  The union of spans as a least upper bound. Two ranges are joined by the lower one of their starts
  and the higher one of their ends, and the union of some spans folds this operation over the
  ranges they mark. The result encloses each of these ranges and takes each end from one of them,
  so whatever encloses all of them encloses it. The end is raised to the start at last, which
  changes nothing unless each of the spans is inverted.
-/

import Mathlib.Data.List.Forall2
import Muffle.Proofs.Identical
import Muffle.Proofs.OrderedKind

namespace Muffle

/-! ## The lower one of two values -/

namespace Value

section Lower

variable {α : Type} [LinearOrder α] (key : Value → α)

/-- Of two values the one with the lower key, the first one if their keys are equal. -/
def lower (a b : Value) : Value := if key b < key a then b else a

theorem lower_eq_or (a b : Value) : lower key a b = a ∨ lower key a b = b :=
  (ite_eq_or_eq _ b a).symm

theorem key_lower (a b : Value) : key (lower key a b) = min (key a) (key b) := by
  unfold lower
  split
  · rename_i h
    exact (min_eq_right h.le).symm
  · rename_i h
    exact (min_eq_left (not_lt.mp h)).symm

/-- Of several values with the lowest key it is the first one, however they are put together. -/
theorem lower_assoc (a b c : Value) :
    lower key (lower key a b) c = lower key a (lower key b c) := by
  by_cases hab : key b < key a
  · by_cases hbc : key c < key b
    · simp [lower, hab, hbc, hbc.trans hab]
    · simp [lower, hab, hbc]
  · by_cases hbc : key c < key b
    · simp [lower, hab, hbc]
    · have hac : ¬key c < key a := not_lt.mpr ((not_lt.mp hab).trans (not_lt.mp hbc))
      simp [lower, hab, hbc, hac]

end Lower

end Value

namespace OrderedKind

variable {k : OrderedKind} {a b : Value}

/-- The smaller one of two values. -/
def least (k : OrderedKind) : Value → Value → Value := Value.lower k.key

/-- The greater one of two values. -/
def greatest (k : OrderedKind) : Value → Value → Value :=
  Value.lower fun v => OrderDual.toDual (k.key v)

theorem least_eq_or (a b : Value) : k.least a b = a ∨ k.least a b = b :=
  Value.lower_eq_or k.key a b

theorem greatest_eq_or (a b : Value) : k.greatest a b = a ∨ k.greatest a b = b :=
  Value.lower_eq_or (fun v => OrderDual.toDual (k.key v)) a b

theorem has_least (ha : k.Has a) (hb : k.Has b) : k.Has (k.least a b) := by
  rcases k.least_eq_or a b with h | h
  · rwa [h]
  · rwa [h]

theorem has_greatest (ha : k.Has a) (hb : k.Has b) : k.Has (k.greatest a b) := by
  rcases k.greatest_eq_or a b with h | h
  · rwa [h]
  · rwa [h]

theorem key_least (a b : Value) : k.key (k.least a b) = min (k.key a) (k.key b) :=
  Value.key_lower k.key a b

theorem key_greatest (a b : Value) : k.key (k.greatest a b) = max (k.key a) (k.key b) :=
  Value.key_lower (fun v => OrderDual.toDual (k.key v)) a b

/-- The smaller of two positions of one kind is found without fail. -/
theorem minimum_eq (ha : k.Has a) (hb : k.Has b) : a.minimum b = .ok (k.least a b) := by
  rw [Value.minimum, k.holds_eq hb ha, Relation.admits_less, least, Value.lower]
  by_cases h : k.key b < k.key a <;> simp [h]

/-- The greater of two positions of one kind is found without fail. -/
theorem maximum_eq (ha : k.Has a) (hb : k.Has b) : a.maximum b = .ok (k.greatest a b) := by
  rw [Value.maximum, k.holds_eq hb ha, Relation.admits_greater, greatest, Value.lower]
  by_cases h : k.key a < k.key b <;> simp [h]

end OrderedKind

namespace SourceRange

variable {k : OrderedKind} {r s t : SourceRange} {rs : List SourceRange}

/-! ## Enclosure -/

/-- A range encloses another if both comparisons succeed and hold. -/
theorem encloses_eq_ok_true_iff :
    r.encloses s = .ok true ↔
      r.start.lessEq s.start = .ok true ∧ s.stop.lessEq r.stop = .ok true := by
  rw [encloses, bind_eq_ok_iff]
  constructor
  · rintro ⟨b, hstart, hstop⟩
    cases b with
    | true => exact ⟨hstart, hstop⟩
    | false => cases hstop
  · rintro ⟨hstart, hstop⟩
    exact ⟨true, hstart, hstop⟩

theorem HasEnds.encloses_iff (hr : r.HasEnds k) (hs : s.HasEnds k) :
    r.encloses s = .ok true ↔
      k.key r.start ≤ k.key s.start ∧ k.key s.stop ≤ k.key r.stop := by
  rw [hr.encloses_eq hs, Except.ok.injEq, decide_eq_true_iff]

/-- Ranges that enclose each other are the same. -/
theorem HasEnds.same_of_encloses (hr : r.HasEnds k) (hs : s.HasEnds k)
    (h : r.encloses s = .ok true) (h' : s.encloses r = .ok true) : r.same s = true := by
  rw [hr.encloses_iff hs] at h
  rw [hs.encloses_iff hr] at h'
  exact (hr.same_iff hs).mpr ⟨le_antisymm h.1 h'.1, le_antisymm h'.2 h.2⟩

/-! ## Joining ranges -/

/-- The smallest range around two ranges. -/
def join (k : OrderedKind) (r s : SourceRange) : SourceRange :=
  ⟨k.least r.start s.start, k.greatest r.stop s.stop⟩

instance : Std.Associative (join k) where
  assoc r s t := by
    rw [join, join, join, join]
    exact congrArg₂ mk (Value.lower_assoc _ _ _ _) (Value.lower_assoc _ _ _ _)

theorem HasEnds.join (hr : r.HasEnds k) (hs : s.HasEnds k) : (r.join k s).HasEnds k :=
  ⟨OrderedKind.has_least hr.start hs.start, OrderedKind.has_greatest hr.stop hs.stop⟩

/-- The join of two ranges is a range. -/
theorem Valid.join (hr : r.Valid k) (hs : s.Valid k) : (r.join k s).Valid k := by
  have hends := hr.toHasEnds.join hs.toHasEnds
  refine ⟨hends, hends.made_iff.mpr ?_⟩
  calc
    k.key (r.join k s).start ≤ k.key r.start := (k.key_least _ _).trans_le (min_le_left _ _)
    _ ≤ k.key r.stop := hr.start_le_stop
    _ ≤ k.key (r.join k s).stop := (le_max_left _ _).trans_eq (k.key_greatest _ _).symm

theorem HasEnds.join_encloses_left (hr : r.HasEnds k) (hs : s.HasEnds k) :
    (r.join k s).encloses r = .ok true :=
  ((hr.join hs).encloses_iff hr).mpr ⟨(k.key_least _ _).trans_le (min_le_left _ _),
    (le_max_left _ _).trans_eq (k.key_greatest _ _).symm⟩

theorem HasEnds.join_encloses_right (hr : r.HasEnds k) (hs : s.HasEnds k) :
    (r.join k s).encloses s = .ok true :=
  ((hr.join hs).encloses_iff hs).mpr ⟨(k.key_least _ _).trans_le (min_le_right _ _),
    (le_max_right _ _).trans_eq (k.key_greatest _ _).symm⟩

theorem HasEnds.encloses_trans (hr : r.HasEnds k) (hs : s.HasEnds k) (ht : t.HasEnds k)
    (h : r.encloses s = .ok true) (h' : s.encloses t = .ok true) : r.encloses t = .ok true := by
  rw [hr.encloses_iff hs] at h
  rw [hs.encloses_iff ht] at h'
  exact (hr.encloses_iff ht).mpr ⟨h.1.trans h'.1, h'.2.trans h.2⟩

/-- What several ranges join to. -/
def joinAll (k : OrderedKind) (r : SourceRange) (rs : List SourceRange) : SourceRange :=
  rs.foldl (join k) r

/-- A range encloses some ranges and takes each of its ends from one of them. -/
structure Hull (rs : List SourceRange) (h : SourceRange) : Prop where
  encloses : ∀ s ∈ rs, h.encloses s = .ok true
  start : ∃ s ∈ rs, h.start = s.start
  stop : ∃ s ∈ rs, h.stop = s.stop

/-- No range that encloses them all encloses less, of whatever kind its own ends are. -/
theorem Hull.least {h : SourceRange} (hull : Hull rs h)
    (ht : ∀ s ∈ rs, t.encloses s = .ok true) : t.encloses h = .ok true := by
  obtain ⟨first, hfirst, hstart⟩ := hull.start
  obtain ⟨last, hlast, hstop⟩ := hull.stop
  rw [encloses_eq_ok_true_iff, hstart, hstop]
  exact ⟨(encloses_eq_ok_true_iff.mp (ht first hfirst)).1,
    (encloses_eq_ok_true_iff.mp (ht last hlast)).2⟩

/-- What holds of ranges and of what two of them join to holds of what several join to. -/
theorem joinAll_induction {P : SourceRange → Prop} (hjoin : ∀ r s, P r → P s → P (r.join k s))
    (hr : P r) (hrs : ∀ s ∈ rs, P s) : P (joinAll k r rs) := by
  induction rs generalizing r with
  | nil => exact hr
  | cons s rest ih =>
    obtain ⟨hs, hrest⟩ := List.forall_mem_cons.mp hrs
    exact ih (hjoin r s hr hs) hrest

theorem joinAll_encloses (hr : r.HasEnds k) (hrs : ∀ s ∈ rs, s.HasEnds k) :
    ∀ s ∈ r :: rs, (joinAll k r rs).encloses s = .ok true := by
  induction rs generalizing r with
  | nil =>
    intro s hs
    rw [List.mem_singleton.mp hs]
    exact (hr.encloses_iff hr).mpr ⟨le_refl _, le_refl _⟩
  | cons s rest ih =>
    obtain ⟨hs, hrest⟩ := List.forall_mem_cons.mp hrs
    have hjoined := hr.join hs
    have hall : (joinAll k (r.join k s) rest).HasEnds k :=
      joinAll_induction (fun _ _ => HasEnds.join) hjoined hrest
    -- `r` and `s` lie in what they join to, and that lies in the whole
    obtain ⟨hfirst, hothers⟩ := List.forall_mem_cons.mp (ih hjoined hrest)
    simp only [List.forall_mem_cons]
    exact ⟨hall.encloses_trans hjoined hr hfirst (hr.join_encloses_left hs),
      hall.encloses_trans hjoined hs hfirst (hr.join_encloses_right hs), hothers⟩

/-- An end that two joined ranges take from one of them, several ones take from one of them. -/
theorem exists_end_joinAll {position : SourceRange → Value}
    (hjoin : ∀ r s : SourceRange,
      position (r.join k s) = position r ∨ position (r.join k s) = position s) :
    ∃ s ∈ r :: rs, position (joinAll k r rs) = position s := by
  refine joinAll_induction (P := fun x => ∃ s ∈ r :: rs, position x = position s) ?_
    ⟨r, List.mem_cons_self, rfl⟩ fun s hs => ⟨s, List.mem_cons_of_mem r hs, rfl⟩
  rintro x y ⟨s, hs, hx⟩ ⟨t, ht, hy⟩
  rcases hjoin x y with h | h
  · exact ⟨s, hs, h.trans hx⟩
  · exact ⟨t, ht, h.trans hy⟩

theorem hull_joinAll (hr : r.HasEnds k) (hrs : ∀ s ∈ rs, s.HasEnds k) :
    Hull (r :: rs) (joinAll k r rs) where
  encloses := joinAll_encloses hr hrs
  start := exists_end_joinAll fun x y => k.least_eq_or x.start y.start
  stop := exists_end_joinAll fun x y => k.greatest_eq_or x.stop y.stop

/-- Ranges joined in two parts. -/
theorem joinAll_append (r s : SourceRange) (rs ss : List SourceRange) :
    joinAll k r (rs ++ s :: ss) = (joinAll k r rs).join k (joinAll k s ss) := by
  rw [joinAll, List.foldl_append, List.foldl_cons]
  exact List.foldl_assoc

/-! ## Raising the end -/

/-- A range whose end is raised to its start if it precedes it. -/
def raised (k : OrderedKind) (r : SourceRange) : SourceRange :=
  ⟨r.start, k.greatest r.stop r.start⟩

theorem HasEnds.valid_raised (hr : r.HasEnds k) : (r.raised k).Valid k := by
  have hends : (r.raised k).HasEnds k :=
    ⟨hr.start, OrderedKind.has_greatest hr.stop hr.start⟩
  refine ⟨hends, hends.made_iff.mpr ?_⟩
  exact (le_max_right _ _).trans_eq (k.key_greatest _ _).symm

theorem Valid.raised_eq (hr : r.Valid k) : r.raised k = r := by
  have hstop : k.greatest r.stop r.start = r.stop := if_neg (not_lt.mpr hr.start_le_stop)
  rw [raised, hstop]

/-! ## Spans -/

/-- A span has two ends, which are of a kind. -/
def Span.HasEnds (k : OrderedKind) (span : Span) : Prop :=
  ∃ s e, span.ends = .ok (s, e) ∧ k.Has s ∧ k.Has e

/-- A span goes from the start of a range to its end, be it the range itself or a value with these
    two parts. -/
def Span.Marks (span : Span) (r : SourceRange) : Prop := span.ends = .ok (r.start, r.stop)

variable {span : Span} {spans : List Span}

/-- A span marks a range that can be made. -/
def Span.Upright (k : OrderedKind) (span : Span) : Prop := ∃ r, span.Marks r ∧ r.Valid k

/-- A span marks a range that lies inside another one. -/
def Span.Within (r : SourceRange) (span : Span) : Prop :=
  ∃ s, span.Marks s ∧ r.encloses s = .ok true

theorem Span.Marks.within_iff (h : span.Marks s) : span.Within r ↔ r.encloses s = .ok true := by
  refine ⟨?_, fun hs => ⟨s, h, hs⟩⟩
  rintro ⟨s', h', hs'⟩
  have hsame := Except.ok.inj (h.symm.trans h')
  rw [Prod.mk.injEq] at hsame
  rwa [show s = s' from congrArg₂ mk hsame.1 hsame.2]

theorem improve_eq {choose : Value → Value → Except Fault Value} {found : Value}
    (hfound : k.Has found) (new : Value) : improve choose found new = choose found new := by
  cases found with
  | null => exact absurd rfl (OrderedKind.ne_null hfound)
  | _ => rfl

/-- Going through spans joins the ranges they mark. -/
theorem unionEnds_eq (h : List.Forall₂ Span.Marks spans rs) (hr : r.HasEnds k)
    (hrs : ∀ s ∈ rs, s.HasEnds k) :
    unionEnds r.start r.stop spans = .ok ((joinAll k r rs).start, (joinAll k r rs).stop) := by
  induction h generalizing r with
  | nil => rfl
  | cons hspan _ ih =>
    obtain ⟨hs, hrest⟩ := List.forall_mem_cons.mp hrs
    rw [unionEnds, hspan, ok_bind]
    dsimp only
    rw [improve_eq hr.start, OrderedKind.minimum_eq hr.start hs.start, ok_bind,
      improve_eq hr.stop, OrderedKind.maximum_eq hr.stop hs.stop, ok_bind]
    exact ih (hr.join hs) hrest

theorem union_eq (h : List.Forall₂ Span.Marks spans (r :: rs)) (hr : r.HasEnds k)
    (hrs : ∀ s ∈ rs, s.HasEnds k) : union spans = .ok ((joinAll k r rs).raised k) := by
  cases h with
  | cons hspan hrest =>
    rename_i span rest
    have hall : (joinAll k r rs).HasEnds k := joinAll_induction (fun _ _ => HasEnds.join) hr hrs
    have hends : unionEnds .null .null (span :: rest) =
        .ok ((joinAll k r rs).start, (joinAll k r rs).stop) := by
      rw [unionEnds, hspan]
      exact unionEnds_eq hrest hr hrs
    have hmake : union (span :: rest) = (do
        let stop ← Value.maximum (joinAll k r rs).stop (joinAll k r rs).start
        make (joinAll k r rs).start stop) := by
      rw [union, hends, ok_bind]
      dsimp only
      cases hstart : (joinAll k r rs).start with
      | null => exact absurd hstart (OrderedKind.ne_null hall.start)
      | _ => rfl
    rw [hmake, OrderedKind.maximum_eq hall.stop hall.start]
    exact hall.valid_raised.made

/-- Spans that mark ranges with some property mark a list of them. -/
theorem exists_marked {P : SourceRange → Prop} (h : ∀ span ∈ spans, ∃ r, span.Marks r ∧ P r) :
    ∃ rs, List.Forall₂ Span.Marks spans rs ∧ ∀ r ∈ rs, P r := by
  induction spans with
  | nil => exact ⟨[], .nil, nofun⟩
  | cons span rest ih =>
    obtain ⟨⟨r, hmarks, hr⟩, hrest⟩ := List.forall_mem_cons.mp h
    obtain ⟨rs, hall, hrs⟩ := ih hrest
    exact ⟨r :: rs, .cons hmarks hall, List.forall_mem_cons.mpr ⟨hr, hrs⟩⟩

/-- Some spans of one kind have a union, which is a range of that kind that can be made, even if
    each of them is inverted. -/
theorem exists_union (hne : spans ≠ []) (hspans : ∀ span ∈ spans, span.HasEnds k) :
    ∃ r, union spans = .ok r ∧ r.Valid k := by
  have hmarked : ∀ span ∈ spans, ∃ r : SourceRange, span.Marks r ∧ r.HasEnds k := by
    intro span hspan
    obtain ⟨s, e, hends, hs, he⟩ := hspans span hspan
    exact ⟨⟨s, e⟩, hends, hs, he⟩
  obtain ⟨rs, hmarks, hrs⟩ := exists_marked hmarked
  cases hmarks with
  | nil => exact absurd rfl hne
  | cons hspan hrest =>
    obtain ⟨hr, hrs⟩ := List.forall_mem_cons.mp hrs
    have hall := joinAll_induction (fun _ _ => HasEnds.join) hr hrs
    exact ⟨_, union_eq (.cons hspan hrest) hr hrs, hall.valid_raised⟩

/-- Upright spans mark some ranges, and their union is what these join to. -/
theorem exists_joinAll (hne : spans ≠ []) (hspans : ∀ span ∈ spans, span.Upright k) :
    ∃ r rs, List.Forall₂ Span.Marks spans (r :: rs) ∧ r.HasEnds k ∧ (∀ s ∈ rs, s.HasEnds k) ∧
      union spans = .ok (joinAll k r rs) := by
  obtain ⟨rs, hmarks, hrs⟩ := exists_marked hspans
  cases hmarks with
  | nil => exact absurd rfl hne
  | @cons _ r _ rs hspan hrest =>
    obtain ⟨hr, hrs⟩ := List.forall_mem_cons.mp hrs
    have hends : ∀ s ∈ rs, s.HasEnds k := fun s hs => (hrs s hs).toHasEnds
    have hall : (joinAll k r rs).Valid k := joinAll_induction (fun _ _ => Valid.join) hr hrs
    refine ⟨r, rs, .cons hspan hrest, hr.toHasEnds, hends, ?_⟩
    rw [union_eq (.cons hspan hrest) hr.toHasEnds hends, hall.raised_eq]

/-! ## The least upper bound -/

theorem forall_within_iff (h : List.Forall₂ Span.Marks spans rs) :
    (∀ span ∈ spans, span.Within t) ↔ ∀ s ∈ rs, t.encloses s = .ok true := by
  induction h with
  | nil => exact iff_of_true nofun nofun
  | cons hspan _ ih => rw [List.forall_mem_cons, List.forall_mem_cons, hspan.within_iff, ih]

/-- A range that lies around some spans and inside every other range that does. -/
structure LeastAround (spans : List Span) (r : SourceRange) : Prop where
  within : ∀ span ∈ spans, span.Within r
  least : ∀ t, (∀ span ∈ spans, span.Within t) → t.encloses r = .ok true

theorem leastAround_union (hne : spans ≠ []) (hspans : ∀ span ∈ spans, span.Upright k)
    (hr : union spans = .ok r) : LeastAround spans r ∧ r.HasEnds k := by
  obtain ⟨a, as, hmarks, ha, has, hunion⟩ := exists_joinAll hne hspans
  obtain rfl := Except.ok.inj (hunion.symm.trans hr)
  have hull := hull_joinAll ha has
  exact ⟨⟨(forall_within_iff hmarks).mpr hull.encloses,
    fun t ht => hull.least ((forall_within_iff hmarks).mp ht)⟩,
    joinAll_induction (fun _ _ => HasEnds.join) ha has⟩

variable {xs ys zs : List Span}

/-- Two lists of spans mark the same ranges, in whatever order and form and however often. -/
def SameMarks (xs ys : List Span) : Prop :=
  ∀ r, (∃ x ∈ xs, Span.Marks x r) ↔ ∃ y ∈ ys, Span.Marks y r

theorem SameMarks.symm (h : SameMarks xs ys) : SameMarks ys xs := fun r => (h r).symm

theorem SameMarks.forall_within (h : SameMarks xs ys) (hys : ∀ y ∈ ys, y.Upright k)
    (hxs : ∀ x ∈ xs, x.Within t) : ∀ y ∈ ys, y.Within t := by
  intro y hy
  obtain ⟨r, hr, -⟩ := hys y hy
  obtain ⟨x, hx, hxr⟩ := (h r).mpr ⟨y, hy, hr⟩
  exact hr.within_iff.mpr (hxr.within_iff.mp (hxs x hx))

/-- Lists that mark the same ranges have the same union. -/
theorem union_same (hx : xs ≠ []) (hy : ys ≠ []) (hxs : ∀ x ∈ xs, x.Upright k)
    (hys : ∀ y ∈ ys, y.Upright k) (hr : union xs = .ok r) (hs : union ys = .ok s)
    (h : SameMarks xs ys) : r.same s = true := by
  obtain ⟨hleast, hrends⟩ := leastAround_union hx hxs hr
  obtain ⟨hleast', hsends⟩ := leastAround_union hy hys hs
  -- each of the two lies around the spans of the other
  exact hrends.same_of_encloses hsends
    (hleast'.least r (h.forall_within hys hleast.within))
    (hleast.least s (h.symm.forall_within hxs hleast'.within))

/-- The union of two lists is that of their unions. -/
theorem union_append (hx : xs ≠ []) (hy : ys ≠ []) (hxs : ∀ x ∈ xs, x.Upright k)
    (hys : ∀ y ∈ ys, y.Upright k) (hr : union xs = .ok r) (hs : union ys = .ok s) :
    union (xs ++ ys) = union [.range r, .range s] := by
  obtain ⟨a, as, hmarks, ha, has, hunion⟩ := exists_joinAll hx hxs
  obtain ⟨b, bs, hmarks', hb, hbs, hunion'⟩ := exists_joinAll hy hys
  obtain rfl := Except.ok.inj (hunion.symm.trans hr)
  obtain rfl := Except.ok.inj (hunion'.symm.trans hs)
  have hboth : List.Forall₂ Span.Marks (xs ++ ys) (a :: (as ++ b :: bs)) :=
    List.rel_append hmarks hmarks'
  have hrest : ∀ s ∈ as ++ b :: bs, s.HasEnds k :=
    List.forall_mem_append.mpr ⟨has, List.forall_mem_cons.mpr ⟨hb, hbs⟩⟩
  have hpair : List.Forall₂ Span.Marks [.range (joinAll k a as), .range (joinAll k b bs)]
      [joinAll k a as, joinAll k b bs] := .cons rfl (.cons rfl .nil)
  have hleft : (joinAll k a as).HasEnds k := joinAll_induction (fun _ _ => HasEnds.join) ha has
  have hright : (joinAll k b bs).HasEnds k := joinAll_induction (fun _ _ => HasEnds.join) hb hbs
  rw [union_eq hboth ha hrest, union_eq hpair hleft (List.forall_mem_singleton.mpr hright),
    joinAll_append]
  rfl

/-- The union of some upright spans of one kind exists, encloses each of them and is enclosed by
    every range that does. Spans that mark the same ranges have the same union, and the union of
    two lists one after the other is that of their unions. Of spans that may be inverted it exists
    too, and it is not inverted. -/
theorem union_leastUpperBound (hx : xs ≠ []) (hy : ys ≠ []) (hz : zs ≠ [])
    (hxs : ∀ x ∈ xs, x.Upright k) (hys : ∀ y ∈ ys, y.Upright k) (hzs : ∀ z ∈ zs, z.HasEnds k) :
    ∃ r s t, union xs = .ok r ∧ union ys = .ok s ∧ union zs = .ok t ∧
      (∀ x ∈ xs, x.Within r) ∧ (∀ q, (∀ x ∈ xs, x.Within q) → q.encloses r = .ok true) ∧
      (SameMarks xs ys → r.same s = true) ∧ union (xs ++ ys) = union [.range r, .range s] ∧
      t.start.lessEq t.stop = .ok true := by
  obtain ⟨_, _, -, -, -, hr⟩ := exists_joinAll hx hxs
  obtain ⟨_, _, -, -, -, hs⟩ := exists_joinAll hy hys
  obtain ⟨t, ht, hvalid⟩ := exists_union hz hzs
  obtain ⟨hleast, -⟩ := leastAround_union hx hxs hr
  refine ⟨_, _, t, hr, hs, ht, hleast.within, hleast.least, union_same hx hy hxs hys hr hs,
    union_append hx hy hxs hys hr hs, ?_⟩
  rw [OrderedKind.lessEq_eq hvalid.start hvalid.stop, decide_eq_true hvalid.start_le_stop]

/-- A range and a pair of places in lines and columns; the same in another order and form, with a
    repetition; and a pair that is inverted. -/
theorem union_leastUpperBound_places :
    let place (line column : Int) : Value := .tuple [.int line, .int column]
    let pair (s e : Value) : Span := .parts (.tuple [s, e])
    let xs : List Span := [.range ⟨place 3 1, place 4 0⟩, pair (place 1 7) (place 3 9)]
    let ys : List Span := [.range ⟨place 1 7, place 3 9⟩, pair (place 3 1) (place 4 0),
      .parts (.list [place 1 7, place 3 9])]
    let zs : List Span := [pair (place 5 5) (place 2 2)]
    let k : OrderedKind := PositionKind.tuple.ordered
    (∀ x ∈ xs, x.Upright k) ∧ (∀ y ∈ ys, y.Upright k) ∧ (∀ z ∈ zs, z.HasEnds k) ∧
      SameMarks xs ys ∧ union xs = .ok ⟨place 1 7, place 4 0⟩ ∧
      union zs = .ok ⟨place 5 5, place 5 5⟩ ∧
      ∃ r s t, union xs = .ok r ∧ union ys = .ok s ∧ union zs = .ok t ∧
        (∀ x ∈ xs, x.Within r) ∧ (∀ q, (∀ x ∈ xs, x.Within q) → q.encloses r = .ok true) ∧
        (SameMarks xs ys → r.same s = true) ∧ union (xs ++ ys) = union [.range r, .range s] ∧
        t.start.lessEq t.stop = .ok true := by
  intro place pair xs ys zs k
  have hplace (line column : Int) : k.Has (place line column) := PositionKind.has_place line column
  let first : SourceRange := ⟨place 3 1, place 4 0⟩
  let second : SourceRange := ⟨place 1 7, place 3 9⟩
  have hfirst : first.Valid k := ⟨⟨hplace 3 1, hplace 4 0⟩, rfl⟩
  have hsecond : second.Valid k := ⟨⟨hplace 1 7, hplace 3 9⟩, rfl⟩
  have hxs : ∀ x ∈ xs, x.Upright k := by
    simp only [xs, List.forall_mem_cons]
    exact ⟨⟨first, rfl, hfirst⟩, ⟨second, rfl, hsecond⟩, nofun⟩
  have hys : ∀ y ∈ ys, y.Upright k := by
    simp only [ys, List.forall_mem_cons]
    exact ⟨⟨second, rfl, hsecond⟩, ⟨first, rfl, hfirst⟩, ⟨second, rfl, hsecond⟩, nofun⟩
  have hzs : ∀ z ∈ zs, z.HasEnds k := by
    simp only [zs, List.forall_mem_cons]
    exact ⟨⟨_, _, rfl, hplace 5 5, hplace 2 2⟩, nofun⟩
  have hsame : SameMarks xs ys := by
    intro r
    simp only [xs, ys, List.exists_mem_cons_iff, List.not_mem_nil, false_and, exists_false,
      or_false]
    -- what a span marks is all that counts
    change (Span.Marks (.range first) r ∨ Span.Marks (.range second) r) ↔
      Span.Marks (.range second) r ∨ Span.Marks (.range first) r ∨ Span.Marks (.range second) r
    tauto
  exact ⟨hxs, hys, hzs, hsame, rfl, rfl,
    union_leastUpperBound (List.cons_ne_nil _ _) (List.cons_ne_nil _ _) (List.cons_ne_nil _ _)
      hxs hys hzs⟩

end SourceRange

end Muffle
