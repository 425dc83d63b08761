/-
  Muffle.Proofs.Stream.Refused

  Which recorded directives are refused. The collector tries a directive only if no earlier one of
  the entry stands at its anchor, and refuses it exactly if its pattern is a text that is no
  pattern. What it has seen after some directives is what stands at their anchors, because anchors
  that are the same as one anchor are the same; so an entry has a refusal exactly if the first
  directive at some anchor has an invalid pattern.
-/

import Muffle.Proofs.Sameness
import Muffle.Proofs.Stream.Faults

namespace Muffle.Stream

variable [Pattern.Compiler] {c c' : Collector} {r : Recorded} {first : Nat}

/-! ## Invalid patterns -/

theorem directiveFor_noPattern (h : NoPattern r.pattern) (made : Nat) (d : Directive) :
    directiveFor made r ≠ .ok d := by
  obtain ⟨htruthy, text, reason, hpattern, hcompile⟩ := h
  intro hd
  obtain ⟨range, -, hmake⟩ := bind_eq_ok_iff.mp hd
  obtain ⟨filter, hfilter, -⟩ := bind_eq_ok_iff.mp hmake
  rw [if_pos htruthy, hpattern] at hfilter
  simp only [Directive.compilePattern, PatternFilter.compile, PatternFilter.compileText,
    hcompile] at hfilter
  cases hfilter

theorem noPattern_of_directiveFor {made : Nat} {p : InvalidPattern}
    (h : directiveFor made r = .error (.invalidPattern p)) : NoPattern r.pattern := by
  rcases failsAs_directiveFor made r _ h with hmalformed | hbad
  · cases hmalformed
  · cases hbad with
    | refused _ h => exact h

/-! ## One directive -/

/-- What is the same as an anchor that the collector has seen then, is the same as one that it had
    seen before or as that of the directive. -/
theorem gather_seen (h : gather first c r = .ok c') (v : Value) :
    c'.seen.any v.same = (c.seen.any v.same || v.same r.anchor) := by
  cases gather_cases h with
  | skipped hseen =>
    -- what is the same as the anchor is the same as what was seen in its place
    obtain ⟨seen, hmem, hsame⟩ := List.any_eq_true.mp hseen
    cases hv : v.same r.anchor with
    | false => rw [Bool.or_false]
    | true =>
      rw [Bool.or_true]
      exact List.any_eq_true.mpr ⟨seen, hmem, Value.same_trans hv hsame⟩
  | made => simp
  | refused => simp

/-- A directive is refused if it is the first one at its anchor and its pattern is no pattern. -/
theorem gather_errors (h : gather first c r = .ok c') :
    c'.errors ≠ [] ↔ c.errors ≠ [] ∨ c.seen.any r.anchor.same = false ∧ NoPattern r.pattern := by
  cases gather_cases h with
  | skipped hseen => simp [hseen]
  | made hfresh hd =>
    have hnot : ¬NoPattern r.pattern := fun hno => directiveFor_noPattern hno _ _ hd
    simp [hnot]
  | refused hfresh hp => simp [hfresh, noPattern_of_directiveFor hp]

/-! ## The directives of an entry -/

/-- One of some recorded directives is the first one at its anchor and has an invalid pattern,
    where the anchors `seen` had a directive before. -/
def RefusesAfter (seen : List Value) (rs : List Recorded) : Prop :=
  ∃ before r after, rs = before ++ r :: after ∧ seen.any r.anchor.same = false ∧
    (∀ b ∈ before, r.anchor.same b.anchor = false) ∧ NoPattern r.pattern

theorem not_refusesAfter_nil (seen : List Value) : ¬RefusesAfter seen [] := by
  rintro ⟨before, r, after, hnil, -⟩
  simp at hnil

/-- A refusal is one of the first item, or of a later one at an anchor that was not seen. -/
theorem refusesAfter_cons {seen seen' : List Value} {rs : List Recorded}
    (hseen : ∀ v : Value, seen'.any v.same = (seen.any v.same || v.same r.anchor)) :
    RefusesAfter seen (r :: rs) ↔
      seen.any r.anchor.same = false ∧ NoPattern r.pattern ∨ RefusesAfter seen' rs := by
  constructor
  · rintro ⟨before, s, after, hrs, hfresh, hfirst, hpattern⟩
    -- the refused item is the head just if nothing stands before it
    cases before with
    | nil =>
      obtain ⟨rfl, rfl⟩ := List.cons.inj hrs
      exact .inl ⟨hfresh, hpattern⟩
    | cons b before =>
      obtain ⟨rfl, rfl⟩ := List.cons.inj hrs
      refine .inr ⟨before, s, after, rfl, ?_, fun b hb => ?_, hpattern⟩
      · rw [hseen, hfresh, hfirst r List.mem_cons_self]
        rfl
      · exact hfirst b (List.mem_cons_of_mem _ hb)
  · rintro (⟨hfresh, hpattern⟩ | ⟨before, s, after, rfl, hfresh, hfirst, hpattern⟩)
    · exact ⟨[], r, rs, rfl, hfresh, fun b hb => absurd hb List.not_mem_nil, hpattern⟩
    · rw [hseen, Bool.or_eq_false_iff] at hfresh
      refine ⟨r :: before, s, after, rfl, hfresh.1, fun b hb => ?_, hpattern⟩
      rcases List.mem_cons.mp hb with rfl | hb
      · exact hfresh.2
      · exact hfirst b hb

/-- A collection has errors if it had some before or an item is refused at an anchor not seen
    before. -/
theorem gatherAll_errors {items : List Value} (h : gatherAll first c items = .ok c') :
    ∃ rs, items.mapM Recorded.read = .ok rs ∧
      (c'.errors ≠ [] ↔ c.errors ≠ [] ∨ RefusesAfter c.seen rs) := by
  induction items generalizing c with
  | nil =>
    cases h
    exact ⟨[], rfl, (or_iff_left (not_refusesAfter_nil _)).symm⟩
  | cons item rest ih =>
    obtain ⟨r, hread, h⟩ := bind_eq_ok_iff.mp h
    obtain ⟨c₁, hgather, h⟩ := bind_eq_ok_iff.mp h
    obtain ⟨rs, hrs, herrors⟩ := ih h
    refine ⟨r :: rs, ?_, ?_⟩
    · rw [List.mapM_cons, hread, ok_bind, hrs]
      rfl
    · rw [herrors, gather_errors hgather, or_assoc, refusesAfter_cons (gather_seen hgather)]

/-- In an entry the first directive at some anchor has an invalid pattern. -/
def RefusesFirst (data : Value) : Prop :=
  ∃ items rs, recordedItems data "directives" = .ok items ∧ items.mapM Recorded.read = .ok rs ∧
    ∃ before r after, rs = before ++ r :: after ∧
      (∀ b ∈ before, r.anchor.same b.anchor = false) ∧ NoPattern r.pattern

/-- An entry has a refused directive exactly if the first one at some anchor is invalid. -/
theorem play_errors {p : Policy} {stored : SourceUnit → Registry} {made : Nat} {data : Value}
    {ep : Episode} (h : play p stored made data = .ok ep) :
    ep.collector.errors ≠ [] ↔ RefusesFirst data := by
  obtain ⟨path, -, h⟩ := bind_eq_ok_iff.mp h
  obtain ⟨items, hitems, h⟩ := bind_eq_ok_iff.mp h
  obtain ⟨opened, hopening, h⟩ := bind_eq_ok_iff.mp h
  obtain ⟨c, hgather, hopening⟩ := bind_eq_ok_iff.mp hopening
  obtain ⟨g, -, hopening⟩ := bind_eq_ok_iff.mp hopening
  cases hopening
  obtain ⟨diagnostics, -, h⟩ := bind_eq_ok_iff.mp h
  obtain ⟨ds, -, h⟩ := bind_eq_ok_iff.mp h
  cases h
  -- the errors of the entry are those of its collection
  obtain ⟨rs, hrs, herrors⟩ := gatherAll_errors hgather
  rw [herrors]
  constructor
  · rintro (hnone | ⟨before, r, after, hsplit, -, hfirst, hpattern⟩)
    · exact absurd rfl hnone
    · exact ⟨items, rs, hitems, hrs, before, r, after, hsplit, hfirst, hpattern⟩
  · rintro ⟨items', rs', hitems', hrs', before, r, after, hsplit, hfirst, hpattern⟩
    cases hitems.symm.trans hitems'
    cases hrs.symm.trans hrs'
    exact .inr ⟨before, r, after, hsplit, rfl, hfirst, hpattern⟩

/-- A stream has a refused directive exactly if one of its entries has. -/
theorem episodes_errors {p : Policy} {stored : SourceUnit → Registry} {made : Nat}
    {units : List Value} {eps : List Episode} (h : episodes p stored made units = .ok eps) :
    (∃ ep ∈ eps, ep.collector.errors ≠ []) ↔ ∃ data ∈ units, RefusesFirst data := by
  induction units generalizing stored made eps with
  | nil =>
    cases h
    simp
  | cons data rest ih =>
    obtain ⟨ep, hplay, h⟩ := bind_eq_ok_iff.mp h
    obtain ⟨eps', hrest, h⟩ := bind_eq_ok_iff.mp h
    cases h
    simp only [List.exists_mem_cons_iff, play_errors hplay, ih hrest]

end Muffle.Stream
