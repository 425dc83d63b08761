/-
  Muffle.Proofs.Collector.BadPattern

  Bad patterns among the directives of a unit. A pattern that is refused costs its directive and
  nothing else: what becomes of directives at other anchors is the same as without it. A pattern
  that the compiler gives up on, whatever the fault, ends the collection at its directive; the
  anchor counts as seen by then, and nothing behind it is looked at.
-/

import Muffle.Pattern.Standard
import Muffle.Proofs.Collector.Bookkeeping

namespace Muffle.Collector

open Muffle.Stream (Recorded Collecting directiveFor gather)

variable {k : OrderedKind} {u : SourceUnit} {r : Recorded} {rs earlier : List Recorded}
  {c c' : Collector} {e e₀ : Engine} {f : Fault} {fault : Foreign}

section Compiled

variable [Pattern.Compiler]

/-! ## Where a collection ends -/

/-- Where the compiler gives up, the anchor is taken and nothing else is kept. -/
theorem add_stops (h : Handed k r) (hfresh : c.seen.any r.anchor.same = false)
    (hfailed : directiveFor e.made r = .error (.foreign fault)) :
    (add r.anchor r.spans r.pattern r.inMacroExpansion).on (c, e) =
      (.error (.foreign fault), ({ c with seen := c.seen ++ [r.anchor] }, e)) := by
  have hbuild := Stream.build_on r e
  rw [hfailed] at hbuild
  have hmember : (onEngine (Engine.Run.ofExcept (r.anchor.isMember c.seen))).run.run (c, e) =
      (.ok false, (c, e)) := by
    rw [isMember_eq h.anchor, hfresh]
    rfl
  have hseen (g : Collector → Collector) : (change g).run.run (c, e) = (.ok (), (g c, e)) := rfl
  unfold add
  refine (run_bind_of_ok (a := (c, e)) rfl).trans ?_
  refine (run_bind_of_ok hmember).trans ?_
  simp only [Bool.false_eq_true, if_false]
  refine (run_bind_of_ok (hseen _)).trans ?_
  -- only a refusal is handled, the fault goes on
  exact run_bind_of_error ((Stream.attempt_error hbuild).trans rfl)

/-- How the collection of some directives ends, where `earlier` came before: it is complete, or it
    is cut off by the first one at an anchor on whose pattern the compiler gives up. -/
inductive Ended (u : SourceUnit) (e : Engine) (earlier rs : List Recorded) :
    Except Fault Unit × (Collector × Engine) → Prop
  | complete {c : Collector} {e' : Engine} (hkept : Kept u c (earlier ++ rs))
      (hcollecting : Collecting e c e') : Ended u e earlier rs (.ok (), (c, e'))
  | cut (before : List Recorded) {after : List Recorded} {bad : Recorded} {fault : Foreign}
      {c : Collector} {e' : Engine} (hrs : rs = before ++ bad :: after)
      (hfirst : anchoredIn (earlier ++ before) bad.anchor = false)
      (hbad : GivenUp bad.pattern fault) (hkept : Kept u c (earlier ++ before))
      (hcollecting : Collecting e c e') :
      Ended u e earlier rs
        (.error (.foreign fault), ({ c with seen := c.seen ++ [bad.anchor] }, e'))

theorem Ended.cons {ended : Except Fault Unit × (Collector × Engine)}
    (h : Ended u e (earlier ++ [r]) rs ended) : Ended u e earlier (r :: rs) ended := by
  have hassoc (xs : List Recorded) : earlier ++ [r] ++ xs = earlier ++ r :: xs := by
    rw [List.append_assoc, List.singleton_append]
  cases h with
  | complete hkept hcollecting => exact .complete (hassoc rs ▸ hkept) hcollecting
  | @cut before after bad fault c e' hrs hfirst hbad hkept hcollecting =>
    exact .cut (r :: before) (congrArg (r :: ·) hrs) (hassoc before ▸ hfirst) hbad
      (hassoc before ▸ hkept) hcollecting

/-- The one way to fail for a directive that is handed over. -/
theorem gather_error {first : Nat} (h : Handed k r) (hfailed : gather first c r = .error f) :
    ∃ fault, f = .foreign fault ∧ c.seen.any r.anchor.same = false ∧
      directiveFor (first + c.collected.length) r = .error (.foreign fault) ∧
      GivenUp r.pattern fault := by
  cases hseen : c.seen.any r.anchor.same with
  | true =>
    rw [gather_of_seen first h hseen] at hfailed
    cases hfailed
  | false =>
    rw [gather_of_fresh h hseen] at hfailed
    cases tried h (first + c.collected.length) with
    | made d hmade =>
      rw [hmade] at hfailed
      cases hfailed
    | refused p hrefused =>
      rw [hrefused] at hfailed
      cases hfailed
    | failed fault hgivenUp hbad =>
      rw [hgivenUp] at hfailed
      exact ⟨fault, (Except.error.inj hfailed).symm, rfl, hgivenUp, hbad⟩

/-- By induction on the items: the collection goes on, or ends at the first text that the compiler
    gives up. -/
theorem addAll_ended (h : Collecting e₀ c e) (hc : Kept u c earlier)
    (hrs : ∀ r ∈ rs, ∃ k, Handed k r) : Ended u e₀ earlier rs ((addAll rs).on (c, e)) := by
  induction rs generalizing c e earlier with
  | nil => exact .complete (by rwa [List.append_nil]) h
  | cons r rest ih =>
    obtain ⟨⟨k, hr⟩, hrest⟩ := List.forall_mem_cons.mp hrs
    cases hstep : gather e₀.made c r with
    | ok c₁ =>
      -- collected, refused or skipped: the rest goes on from there
      have hadd := Stream.add_follows h r
      rw [hstep] at hadd
      obtain ⟨added, ⟨_, e₁⟩, hon, rfl, hcollecting⟩ := hadd
      have hrun : (addAll (r :: rest)).on (_, e) = (addAll rest).on (_, e₁) := run_bind_of_ok hon
      rw [hrun]
      exact (ih hcollecting (hc.gather hr hstep) hrest).cons
    | error f =>
      obtain ⟨fault, rfl, hfresh, hfailed, hbad⟩ := gather_error hr hstep
      rw [← h.made] at hfailed
      have hrun : (addAll (r :: rest)).on (c, e) =
          (.error (.foreign fault), ({ c with seen := c.seen ++ [r.anchor] }, e)) :=
        run_bind_of_error (add_stops hr hfresh hfailed)
      rw [hrun]
      refine .cut [] rfl ?_ hbad ?_ h
      · rw [List.append_nil, ← hc.knows, hfresh]
      · rwa [List.append_nil]

/-! ## Directives at other anchors -/

/-- Whether an anchor is another one. -/
def elsewhere (anchor other : Value) : Bool := !other.same anchor

/-- A directive without its identity. -/
def anonymous (d : Directive) : Directive := { d with id := 0 }

omit [Pattern.Compiler] in
/-- What came before matters only where it stands at an anchor of interest. -/
theorem firstsAfter_filter_congr {earlier' : List Recorded} {p : Value → Bool}
    (h : ∀ anchor, p anchor = true → anchoredIn earlier anchor = anchoredIn earlier' anchor) :
    (firstsAfter earlier rs).filter (fun r => p r.anchor) =
      (firstsAfter earlier' rs).filter (fun r => p r.anchor) := by
  induction rs generalizing earlier earlier' with
  | nil => rfl
  | cons r rest ih =>
    have hrest : (firstsAfter (earlier ++ [r]) rest).filter (fun r => p r.anchor) =
        (firstsAfter (earlier' ++ [r]) rest).filter (fun r => p r.anchor) :=
      ih fun anchor hp => by rw [anchoredIn_concat, anchoredIn_concat, h anchor hp]
    rw [firstsAfter, firstsAfter]
    cases hp : p r.anchor with
    | true =>
      rw [h r.anchor hp]
      split
      · exact hrest
      · rw [List.filter_cons, List.filter_cons, hp, hrest]
    | false =>
      -- the directive itself is of no interest, whether it is a first one or not
      have hdrop (xs : List Recorded) :
          (r :: xs).filter (fun r => p r.anchor) = xs.filter fun r => p r.anchor := by
        rw [List.filter_cons, hp]
        rfl
      split <;> split <;> simp only [hdrop, hrest]

omit [Pattern.Compiler] in
/-- An item matters only to later ones at its own anchor. -/
theorem firsts_elsewhere (before after : List Recorded) (r : Recorded) :
    (firsts (before ++ r :: after)).filter (fun x => elsewhere r.anchor x.anchor) =
      (firsts (before ++ after)).filter (fun x => elsewhere r.anchor x.anchor) := by
  have hsame : (firstsAfter (before ++ [r]) after).filter
        (fun x => elsewhere r.anchor x.anchor) =
      (firstsAfter before after).filter (fun x => elsewhere r.anchor x.anchor) := by
    refine firstsAfter_filter_congr fun anchor hp => ?_
    rw [elsewhere, Bool.not_eq_true'] at hp
    rw [anchoredIn_concat, hp, Bool.or_false]
  have hdrop (xs : List Recorded) :
      (r :: xs).filter (fun x => elsewhere r.anchor x.anchor) =
        xs.filter fun x => elsewhere r.anchor x.anchor :=
    List.filter_cons_of_neg (by simp [elsewhere, Value.same_refl])
  rw [firsts, firsts, firstsAfter_append, firstsAfter_append, List.filter_append,
    List.filter_append, List.nil_append, ← hsame, firstsAfter]
  split
  · rfl
  · rw [hdrop]

theorem invalid?_anchor {p : InvalidPattern} (h : invalid? r = some p) : p.anchor = r.anchor := by
  unfold invalid? at h
  split at h
  · split at h
    · cases h
    · split at h
      · cases h
        rfl
      · cases h
  · cases h

omit [Pattern.Compiler] in
theorem filterMap_filter {α β : Type} {g : α → Option β} {p : β → Bool} {q : α → Bool}
    (h : ∀ x y, g x = some y → p y = q x) (xs : List α) :
    (xs.filterMap g).filter p = (xs.filter q).filterMap g := by
  rw [List.filter_filterMap, List.filterMap_filter]
  refine List.filterMap_congr fun x _ => ?_
  cases hx : g x with
  | none => simp
  | some y => simp [h x y hx, Option.filter]

/-- The errors at some anchors come from the first items at these anchors. -/
theorem Kept.errors_filter (h : Kept u c rs) (p : Value → Bool) :
    c.errors.filter (fun x => p x.anchor) =
      ((firsts rs).filter fun r => p r.anchor).filterMap invalid? := by
  rw [h.errors]
  exact filterMap_filter (fun r x hx => by rw [invalid?_anchor hx]) _

theorem Kept.collected_filter (h : Kept u c rs) (p : Value → Bool) :
    List.Forall₂ StandsFor (c.collected.filter fun d => p d.anchor)
      (((firsts rs).filter fun r => p r.anchor).filter fun r => (invalid? r).isNone) := by
  rw [List.filter_comm]
  refine List.rel_filter (fun d r hstands => ?_) h.collected
  show p d.anchor = true ↔ p r.anchor = true
  rw [hstands.anchor]

theorem HasPattern.unique {recorded : Value} {a b : Option PatternFilter}
    (ha : HasPattern recorded a) (hb : HasPattern recorded b) : a = b := by
  cases a with
  | none =>
    cases b with
    | none => rfl
    | some g => exact absurd (ha.symm.trans hb.1) Bool.false_ne_true
  | some f =>
    cases b with
    | none => exact absurd (hb.symm.trans ha.1) Bool.false_ne_true
    | some g =>
      obtain ⟨text, program, source⟩ := f
      obtain ⟨-, rfl, hcompile, rfl⟩ := ha
      obtain ⟨text', program', source'⟩ := g
      obtain ⟨-, htext, hcompile', rfl⟩ := hb
      cases htext
      cases hcompile.symm.trans hcompile'
      rfl

/-- A recorded directive determines what it stands for, but for its identity. -/
theorem StandsFor.anonymous_eq {d d' : Directive} (h : StandsFor d r) (h' : StandsFor d' r) :
    anonymous d = anonymous d' := by
  have hrange := Except.ok.inj (h.range.symm.trans h'.range)
  have hpattern := h.pattern.unique h'.pattern
  have hanchor := h.anchor.trans h'.anchor.symm
  have hmacro := h.inMacroExpansion.trans h'.inMacroExpansion.symm
  rw [anonymous, anonymous, hrange, hpattern, hanchor, hmacro]

/-- Directives that stand for the same items differ by their numbers at most. -/
theorem map_anonymous_eq {ds ds' : List Directive} (h : List.Forall₂ StandsFor ds rs)
    (h' : List.Forall₂ StandsFor ds' rs) : ds.map anonymous = ds'.map anonymous := by
  induction h generalizing ds' with
  | nil =>
    cases h'
    rfl
  | cons hd _ ih =>
    cases h' with
    | cons hd' hrest => rw [List.map_cons, List.map_cons, hd.anonymous_eq hd', ih hrest]

/-- What becomes of the directives at other anchors is the same without a directive. -/
theorem Kept.same_elsewhere {before after : List Recorded} (h : Kept u c (before ++ r :: after))
    (h' : Kept u c' (before ++ after)) :
    (c.collected.filter fun d => elsewhere r.anchor d.anchor).map anonymous =
        (c'.collected.filter fun d => elsewhere r.anchor d.anchor).map anonymous ∧
      c.errors.filter (fun p => elsewhere r.anchor p.anchor) =
        c'.errors.filter fun p => elsewhere r.anchor p.anchor := by
  have hcollected := h.collected_filter (elsewhere r.anchor)
  have herrors := h.errors_filter (elsewhere r.anchor)
  rw [firsts_elsewhere] at hcollected herrors
  exact ⟨map_anonymous_eq hcollected (h'.collected_filter _),
    herrors.trans (h'.errors_filter _).symm⟩

/-! ## Bad patterns -/

/-- The collection of some directives fails exactly if the compiler gives up on the pattern of one
    of them that is the first one at its anchor, and it fails with the fault of the compiler. Up to
    there, or to the end, each first one is collected, or reported at its anchor and dropped; and
    of two collections that come to their end, one of them without a certain directive, both do the
    same at all other anchors. -/
theorem addAll_stops_iff (u : SourceUnit) (e : Engine) (hrs : ∀ r ∈ rs, ∃ k, Handed k r) :
    (((addAll rs).on ({ unit := u }, e)).1.isOk = false ↔
      ∃ r ∈ firsts rs, Unsupported r.pattern) ∧
    Ended u e [] rs ((addAll rs).on ({ unit := u }, e)) ∧
    ∀ before r after c e' c₀ e₀, rs = before ++ r :: after →
      (addAll rs).on ({ unit := u }, e) = (.ok (), (c, e')) →
      (addAll (before ++ after)).on ({ unit := u }, e) = (.ok (), (c₀, e₀)) →
      (c.collected.filter fun d => elsewhere r.anchor d.anchor).map anonymous =
          (c₀.collected.filter fun d => elsewhere r.anchor d.anchor).map anonymous ∧
        c.errors.filter (fun p => elsewhere r.anchor p.anchor) =
          c₀.errors.filter fun p => elsewhere r.anchor p.anchor := by
  have hended {rs : List Recorded} (hrs : ∀ r ∈ rs, ∃ k, Handed k r) :
      Ended u e [] rs ((addAll rs).on ({ unit := u }, e)) :=
    addAll_ended (Stream.collecting_start u e) (kept_fresh u) hrs
  -- a collection that comes to its end has kept the books of all its items
  have hkept {rs : List Recorded} {c : Collector} {e' : Engine} (hrs : ∀ r ∈ rs, ∃ k, Handed k r)
      (hon : (addAll rs).on ({ unit := u }, e) = (.ok (), (c, e'))) : Kept u c rs := by
    have h := hended hrs
    rw [hon] at h
    cases h with
    | complete hkept => exact hkept
  refine ⟨?_, hended hrs, ?_⟩
  · rw [(addAll_follows (Stream.collecting_start u e) rs).isOk_eq, ← Bool.not_eq_true,
      isOk_gatherEach e.made (knows_fresh u) hrs]
    simp only [not_forall, not_not, exists_prop]
  -- without one item the others are still handed over properly
  · rintro before r after c e' c₀ e₀ rfl hon hon₀
    refine (hkept hrs hon).same_elsewhere (hkept (fun x hx => hrs x ?_) hon₀)
    rcases List.mem_append.mp hx with hx | hx
    · exact List.mem_append_left _ hx
    · exact List.mem_append_right _ (List.mem_cons_of_mem _ hx)

end Compiled

/-- A directive with a pattern, for what stands between two offsets. -/
def recordedAt (anchor start stop : Int) (pattern : String) : Recorded where
  anchor := .int anchor
  spans := [.parts (.tuple [.int start, .int stop])]
  pattern := .str pattern
  inMacroExpansion := .bool false

theorem handed_recordedAt (anchor start stop : Int) (pattern : String) :
    Handed PositionKind.offset.ordered (recordedAt anchor start stop pattern) where
  anchor := rfl
  nonempty := nofun
  spans := List.forall_mem_singleton.mpr ⟨.int start, .int stop, rfl, rfl, rfl⟩
  pattern := .inr ⟨pattern, rfl⟩

/-- The directives at 1, 2 and 3, where the second one asks for too many repetitions: the first one
    is collected, the third one is not looked at, and nothing is reported. -/
theorem addAll_stops_iff_overgrown :
    let bad := recordedAt 2 0 9 "a\x7b4294967295\x7d"
    let rs := [recordedAt 1 0 9 "x", bad, recordedAt 3 0 9 "y"]
    (∀ r ∈ rs, ∃ k, Handed k r) ∧ bad ∈ firsts rs ∧ Unsupported bad.pattern ∧
      ∃ f s, (addAll rs).on ({ unit := ⟨"u"⟩ }, {}) = (.error f, s) ∧
        s.1.collected.map (·.anchor.text) = ["1"] ∧ s.1.errors.length = 0 ∧ s.2.sink = [] := by
  intro bad rs
  have hrs : ∀ r ∈ rs, ∃ k, Handed k r := by
    simp only [rs, List.forall_mem_cons]
    exact ⟨⟨_, handed_recordedAt _ _ _ _⟩, ⟨_, handed_recordedAt _ _ _ _⟩,
      ⟨_, handed_recordedAt _ _ _ _⟩, nofun⟩
  have hbad : Unsupported bad.pattern := by
    show Unsupported (.str _)
    decide +kernel
  have hfirst : bad ∈ firsts rs := .tail _ (.head _)
  obtain ⟨hstops, -, -⟩ := addAll_stops_iff ⟨"u"⟩ {} hrs
  let ran := (addAll rs).on ({ unit := ⟨"u"⟩ }, {})
  have hfailed : ran.1.isOk = false := hstops.mpr ⟨bad, hfirst, hbad⟩
  have hran : ran.2.1.collected.map (·.anchor.text) = ["1"] ∧ ran.2.1.errors.length = 0 ∧
      ran.2.2.sink = [] := by
    decide +kernel
  obtain ⟨f, hended⟩ := exists_eq_error hfailed
  exact ⟨hrs, hfirst, hbad, f, ran.2, hended, hran⟩

/-- A directive that asks for too many repetitions is neither collected nor reported: the fault
    leaves the collector. -/
theorem add_escapes :
    let bad := recordedAt 0 0 9 "a\x7b4294967295\x7d"
    Handed PositionKind.offset.ordered bad ∧
      ∃ f s, (add bad.anchor bad.spans bad.pattern bad.inMacroExpansion).on
          ({ unit := ⟨"u"⟩ }, {}) = (.error f, s) ∧
        s.1.collected.length = 0 ∧ s.1.errors.length = 0 ∧ s.2.sink = [] := by
  intro bad
  have hhanded : Handed PositionKind.offset.ordered bad := handed_recordedAt _ _ _ _
  have hbad : Unsupported bad.pattern := by
    show Unsupported (.str _)
    decide +kernel
  cases tried hhanded 0 with
  | made d _ _ _ hsupported => exact absurd hbad hsupported
  | refused p _ _ hsupported => exact absurd hbad hsupported
  | failed fault hfailed _ =>
    exact ⟨hhanded, .foreign fault, _, add_stops hhanded rfl hfailed, rfl, rfl, rfl⟩

end Muffle.Collector
