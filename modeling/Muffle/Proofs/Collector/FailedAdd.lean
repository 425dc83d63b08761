/-
  Muffle.Proofs.Collector.FailedAdd

  Calls of `add` that fail. The anchor is kept before the range and the pattern are made, so a
  directive that fails behind that point costs its anchor: nothing of it is collected or reported,
  the engine is as before, and yet every later directive at the anchor is skipped as a repetition.
  Only a failure of the anchor itself leaves the collector as it was.
-/

import Muffle.Pattern.Standard
import Muffle.Proofs.Collector.BadPattern

namespace Muffle

/-! ## Common values -/

mutual

/-- Whether a value is a common one: made of what JSON names and of tuples. The order and the
    sameness of common values are those of `Value.holds` and `Value.same`. Dates and bytes, which
    have an order of their own, are no common values, nor is the number that is not a number, which
    is the same as itself only if it is the very same object. -/
def Value.isCommon : Value → Bool
  | .float x => x != .nan
  | .tuple xs => Value.areCommon xs
  | .list xs => Value.areCommon xs
  | .map es => Value.entriesCommon es
  | .leaf .. => false
  | _ => true

/-- The same for items. -/
def Value.areCommon : List Value → Bool
  | [] => true
  | x :: xs => Value.isCommon x && Value.areCommon xs

/-- The same for entries. -/
def Value.entriesCommon : List (Value × Value) → Bool
  | [] => true
  | (k, v) :: es => Value.isCommon k && Value.isCommon v && Value.entriesCommon es

end

/-- The values at the ends of a span, or in the place of one, are common. -/
def SourceRange.Span.isCommon : SourceRange.Span → Bool
  | .range r => r.start.isCommon && r.stop.isCommon
  | .parts v => v.isCommon
  | .unlisted _ => true

/-- The anchor, the ends of the spans and the pattern of a directive are common values. -/
structure Stream.Recorded.IsCommon (r : Stream.Recorded) : Prop where
  anchor : r.anchor.isCommon = true
  spans : ∀ span ∈ r.spans, span.isCommon = true
  pattern : r.pattern.isCommon = true

namespace Collector

open Muffle.Stream (Recorded directiveFor)

variable {r again : Recorded} {rs : List Recorded} {c c' : Collector} {e e' : Engine} {f : Fault}

section Compiled

variable [Pattern.Compiler]

/-! ## One call -/

/-- Hands over one recorded directive. -/
def offer (r : Recorded) : Run (Option Directive) :=
  add r.anchor r.spans r.pattern r.inMacroExpansion

/-- A fault other than the refusal of a pattern. -/
def Other (f : Fault) : Prop := ∀ p, f ≠ .invalidPattern p

/-- What a call does, by the step that it gets to: it fails at the anchor, skips the anchor, fails
    behind it, reports a refused pattern, or collects the directive. -/
inductive Added (c : Collector) (e : Engine) (r : Recorded) :
    Except Fault (Option Directive) × (Collector × Engine) → Prop
  | unhashable {k : Kind} (hk : r.anchor.obstacle? = some k) :
      Added c e r (.error (.notHashable k), (c, e))
  | skipped (hhashable : r.anchor.obstacle? = none)
      (hseen : c.seen.any r.anchor.same = true) :
      Added c e r (.ok none, (c, e.withNotices [.duplicateSkipped c.unit r.anchor]))
  | failed {f : Fault} (hhashable : r.anchor.obstacle? = none)
      (hfresh : c.seen.any r.anchor.same = false) (hfailed : directiveFor e.made r = .error f)
      (hother : Other f) :
      Added c e r (.error f, ({ c with seen := c.seen ++ [r.anchor] }, e))
  | refused {p : InvalidPattern} {e' : Engine} (hhashable : r.anchor.obstacle? = none)
      (hfresh : c.seen.any r.anchor.same = false)
      (hrefused : directiveFor e.made r = .error (.invalidPattern p)) :
      Added c e r (.ok none,
        ({ c with seen := c.seen ++ [r.anchor], errors := c.errors ++ [p] }, e'))
  | made {d : Directive} {e' : Engine} (hhashable : r.anchor.obstacle? = none)
      (hfresh : c.seen.any r.anchor.same = false) (hmade : directiveFor e.made r = .ok d) :
      Added c e r (.ok (some d),
        ({ c with seen := c.seen ++ [r.anchor], collected := c.collected ++ [d] }, e'))

omit [Pattern.Compiler] in
theorem run_isMember (hhashable : r.anchor.obstacle? = none) :
    (onEngine (Engine.Run.ofExcept (r.anchor.isMember c.seen))).run.run (c, e) =
      (.ok (c.seen.any r.anchor.same), (c, e)) := by
  rw [isMember_eq hhashable]
  rfl

/-- A directive at an anchor that was seen is skipped, whatever else is wrong with it. -/
theorem offer_of_seen (hhashable : r.anchor.obstacle? = none)
    (hseen : c.seen.any r.anchor.same = true) :
    (offer r).on (c, e) = (.ok none, (c, e.withNotices [.duplicateSkipped c.unit r.anchor])) := by
  have hmember := run_isMember (c := c) (e := e) hhashable
  rw [hseen] at hmember
  unfold offer add
  refine (run_bind_of_ok (a := (c, e)) rfl).trans ?_
  exact (run_bind_of_ok hmember).trans rfl

omit [Pattern.Compiler] in
/-- What holds of the rest of a run holds of the run. -/
theorem of_run_bind {α β : Type} {P : Except Fault β × (Collector × Engine) → Prop} {x : Run α}
    {g : α → Run β} {a : α} {s s' : Collector × Engine} (hx : x.run.run s = (.ok a, s'))
    (h : P ((g a).run.run s')) : P ((x >>= g).run.run s) := by
  rw [run_bind_of_ok hx]
  exact h

omit [Pattern.Compiler] in
theorem of_run_bind_error {α β : Type} {P : Except Fault β × (Collector × Engine) → Prop}
    {x : Run α} {g : α → Run β} {s s' : Collector × Engine} (h : P (.error f, s'))
    (hx : x.run.run s = (.error f, s')) : P ((x >>= g).run.run s) := by
  rw [run_bind_of_error hx]
  exact h

/-- An offer is an addition whose failure is caught. -/
theorem offer_added (c : Collector) (e : Engine) (r : Recorded) :
    Added c e r ((offer r).on (c, e)) := by
  cases hobstacle : r.anchor.obstacle? with
  | some k =>
    have hmember : (onEngine (Engine.Run.ofExcept (r.anchor.isMember c.seen))).run.run (c, e) =
        (.error (.notHashable k), (c, e)) := by
      rw [Value.isMember, Value.requireHashable, hobstacle]
      rfl
    have hrun : (offer r).on (c, e) = (.error (.notHashable k), (c, e)) := by
      unfold offer add
      exact (run_bind_of_ok (a := (c, e)) rfl).trans (run_bind_of_error hmember)
    rw [hrun]
    exact .unhashable hobstacle
  | none =>
    cases hseen : c.seen.any r.anchor.same with
    | true =>
      rw [offer_of_seen hobstacle hseen]
      exact .skipped hobstacle hseen
    | false =>
      have hmember := run_isMember (c := c) (e := e) hobstacle
      rw [hseen] at hmember
      have hkeep (g : Collector → Collector) :
          (change g).run.run (c, e) = (.ok (), (g c, e)) := rfl
      have hbuild := Stream.build_on r e
      unfold offer add
      refine of_run_bind (P := Added c e r) (a := (c, e)) rfl ?_
      refine of_run_bind hmember ?_
      simp only [Bool.false_eq_true, if_false]
      -- the anchor is kept before the directive is tried, so every outcome has it
      refine of_run_bind (hkeep _) ?_
      cases hd : directiveFor e.made r with
      | ok d =>
        rw [hd] at hbuild
        exact of_run_bind (Stream.attempt_ok hbuild) (.made hobstacle hseen hd)
      | error f =>
        rw [hd] at hbuild
        cases f with
        | invalidPattern p =>
          exact of_run_bind (Stream.attempt_error hbuild) (.refused hobstacle hseen hd)
        | _ =>
          have hended := Added.failed hobstacle hseen hd fun p h => by cases h
          exact of_run_bind_error hended (Stream.attempt_error hbuild)

/-! ## Which calls fail -/

/-- The value stands in the place of a pattern and is neither absent nor a text. -/
def NotText (pattern : Value) : Prop :=
  pattern.truthy = true ∧ ∀ text, pattern ≠ .str text

/-- What makes a call fail: an anchor that cannot be the member of a set; or else, unless the
    anchor was seen, spans without a union, no text in the place of a pattern, or a text that the
    compiler gives up on. -/
inductive Stops (c : Collector) (r : Recorded) : Prop
  | anchor (hobstacle : r.anchor.obstacle? ≠ none)
  | spans (hhashable : r.anchor.obstacle? = none) (hfresh : c.seen.any r.anchor.same = false)
      (hspans : (SourceRange.union r.spans).isOk = false)
  | notText (hhashable : r.anchor.obstacle? = none) (hfresh : c.seen.any r.anchor.same = false)
      (hpattern : NotText r.pattern)
  | unsupported (hhashable : r.anchor.obstacle? = none)
      (hfresh : c.seen.any r.anchor.same = false) (hpattern : Unsupported r.pattern)

omit [Pattern.Compiler] in
theorem other_of_isMalformed (h : f.isMalformed = true) : Other f := by
  rintro p rfl
  cases h

theorem compile_notText {pattern : Value} (source : Value) (h : ∀ text, pattern ≠ .str text) :
    ∃ f, PatternFilter.compile pattern source = .error f ∧ Other f := by
  have hcompile : PatternFilter.compile pattern source = (do
      pattern.requireHashable
      .error .patternNotText) := by
    cases pattern with
    | str text => exact absurd rfl (h text)
    | _ => rfl
  rw [hcompile]
  cases hhash : pattern.requireHashable with
  | error f =>
    exact ⟨f, rfl, other_of_isMalformed (Value.failsMalformed_requireHashable pattern f hhash)⟩
  | ok _ => exact ⟨.patternNotText, rfl, nofun⟩

/-- A pattern that is no text is not refused but fails otherwise. -/
theorem compilePattern_notText (anchor : Value) {pattern : Value} (h : NotText pattern) :
    ∃ f, Directive.compilePattern anchor pattern = .error f ∧ Other f := by
  obtain ⟨htruthy, htext⟩ := h
  obtain ⟨f, hf, hother⟩ := compile_notText Directive.patternSource htext
  refine ⟨f, ?_, hother⟩
  cases pattern with
  | null => cases htruthy
  | _ =>
    simp only [Directive.compilePattern, hf]
    cases f with
    | invalidPattern p => exact absurd rfl (hother p)
    | _ => rfl

/-- With a range at hand only the pattern is left to fail. -/
theorem directiveFor_of_range {range : SourceRange} (h : SourceRange.union r.spans = .ok range)
    (made : Nat) :
    directiveFor made r =
      (Directive.compilePattern r.anchor (if r.pattern.truthy then r.pattern else .null)).map
        fun filter => ⟨made, r.anchor, range, filter, r.inMacroExpansion⟩ := by
  unfold directiveFor
  rw [h]
  rfl

theorem other_faultAt (anchor : Value) {text : String} {rejection : Pattern.Rejection}
    (hempty : text.isEmpty = false) (h : Pattern.Compiler.compile text = .error rejection) :
    Other (faultAt anchor text rejection) ↔ Unsupported (.str text) := by
  rw [unsupported_str, givesUp, h, hempty]
  cases rejection <;> simp [faultAt, Other]

/-- Spans and pattern decide whether a directive can be made. -/
theorem directiveFor_fails_iff (made : Nat) (r : Recorded) :
    (∃ f, directiveFor made r = .error f ∧ Other f) ↔
      (SourceRange.union r.spans).isOk = false ∨ NotText r.pattern ∨ Unsupported r.pattern := by
  -- the range is built before the pattern, so its failure hides that of the pattern
  cases hunion : SourceRange.union r.spans with
  | error f =>
    have hmade : directiveFor made r = .error f := by
      rw [directiveFor, hunion]
      rfl
    have hother := other_of_isMalformed (SourceRange.failsMalformed_union r.spans f hunion)
    exact iff_of_true ⟨f, hmade, hother⟩ (.inl rfl)
  | ok range =>
    have hmade := directiveFor_of_range hunion made
    have hspans : ¬(Except.ok range : Except Fault SourceRange).isOk = false := Bool.noConfusion
    rw [or_iff_right hspans, hmade]
    -- a pattern that counts as empty is taken for none
    cases htruthy : r.pattern.truthy with
    | false =>
      have hnotText : ¬NotText r.pattern := fun h => by simp [NotText, htruthy] at h
      refine iff_of_false ?_ (not_or.mpr ⟨hnotText, (supported_of_falsy htruthy).2⟩)
      rintro ⟨f, hf, -⟩
      cases hf
    | true =>
      rw [if_pos rfl]
      -- what is no text never reaches the compiler
      by_cases htext : ∃ text, r.pattern = .str text
      · obtain ⟨text, htext⟩ := htext
        have hnotText : ¬NotText r.pattern := fun h => h.2 text htext
        rw [htext, Value.truthy, Bool.not_eq_true'] at htruthy
        rw [or_iff_right hnotText, htext]
        cases hcompile : Pattern.Compiler.compile text with
        | ok program =>
          rw [compilePattern_ok hcompile, unsupported_str, givesUp, hcompile]
          refine iff_of_false ?_ (by simp)
          rintro ⟨f, hf, -⟩
          cases hf
        | error rejection =>
          rw [compilePattern_error hcompile, ← other_faultAt r.anchor htruthy hcompile]
          constructor
          · rintro ⟨f, hf, hother⟩
            cases hf
            exact hother
          · exact fun hother => ⟨_, rfl, hother⟩
      · have hnotText : NotText r.pattern := ⟨htruthy, not_exists.mp htext⟩
        obtain ⟨f, hf, hother⟩ := compilePattern_notText r.anchor hnotText
        rw [hf]
        exact iff_of_true ⟨f, rfl, hother⟩ (.inl hnotText)

theorem not_stops_of_seen (hhashable : r.anchor.obstacle? = none)
    (hseen : c.seen.any r.anchor.same = true) : ¬Stops c r := by
  rintro (hobstacle | ⟨-, hfresh⟩ | ⟨-, hfresh⟩ | ⟨-, hfresh⟩)
  · exact hobstacle hhashable
  all_goals exact Bool.noConfusion (hseen.symm.trans hfresh)

/-- At a fresh anchor an offer stops if the directive cannot be built, other than by a refusal. -/
theorem stops_iff_of_fresh (hhashable : r.anchor.obstacle? = none)
    (hfresh : c.seen.any r.anchor.same = false) (made : Nat) :
    Stops c r ↔ ∃ f, directiveFor made r = .error f ∧ Other f := by
  rw [directiveFor_fails_iff]
  constructor
  · rintro (hobstacle | ⟨-, -, h⟩ | ⟨-, -, h⟩ | ⟨-, -, h⟩)
    · exact absurd hhashable hobstacle
    · exact .inl h
    · exact .inr (.inl h)
    · exact .inr (.inr h)
  · rintro (h | h | h)
    · exact .spans hhashable hfresh h
    · exact .notText hhashable hfresh h
    · exact .unsupported hhashable hfresh h

/-- The exact condition of a failure. -/
theorem offer_fails_iff (c : Collector) (e : Engine) (r : Recorded) :
    ((offer r).on (c, e)).1.isOk = false ↔ Stops c r := by
  have hadded := offer_added c e r
  generalize (offer r).on (c, e) = ended at hadded
  cases hadded with
  | unhashable hk => exact iff_of_true rfl (.anchor (by simp [hk]))
  | skipped hhashable hseen =>
    exact iff_of_false Bool.noConfusion (not_stops_of_seen hhashable hseen)
  | failed hhashable hfresh hfailed hother =>
    exact iff_of_true rfl ((stops_iff_of_fresh hhashable hfresh e.made).mpr ⟨_, hfailed, hother⟩)
  | refused hhashable hfresh hrefused =>
    refine iff_of_false Bool.noConfusion ?_
    rw [stops_iff_of_fresh hhashable hfresh e.made, hrefused]
    rintro ⟨f, hf, hother⟩
    exact hother _ (Except.error.inj hf).symm
  | made hhashable hfresh hmade =>
    refine iff_of_false Bool.noConfusion ?_
    rw [stops_iff_of_fresh hhashable hfresh e.made, hmade]
    rintro ⟨f, hf, -⟩
    cases hf

/-! ## Anchors that are spent -/

theorem anchor_of_directiveFor {made : Nat} {d : Directive} (h : directiveFor made r = .ok d) :
    d.anchor = r.anchor := by
  obtain ⟨range, -, h⟩ := bind_eq_ok_iff.mp h
  obtain ⟨pattern, -, h⟩ := bind_eq_ok_iff.mp h
  cases h
  rfl

theorem anchor_of_refused {made : Nat} {p : InvalidPattern}
    (h : directiveFor made r = .error (.invalidPattern p)) : p.anchor = r.anchor := by
  cases hunion : SourceRange.union r.spans with
  | error f =>
    rw [directiveFor, hunion] at h
    have hmalformed := SourceRange.failsMalformed_union r.spans f hunion
    exact absurd (Except.error.inj h) (other_of_isMalformed hmalformed p)
  | ok range =>
    rw [directiveFor_of_range hunion] at h
    unfold Directive.compilePattern at h
    split at h
    · cases h
    · split at h
      · cases h
      · cases h
        rfl
      · rename_i hother _
        exact absurd (Except.error.inj h) (hother p)

/-- Nothing was collected or reported at an anchor since `c₀`, and whatever else is handed over
    there is skipped. -/
structure Spent (anchor : Value) (c₀ c : Collector) : Prop where
  unit : c.unit = c₀.unit
  seen : c.seen.any anchor.same = true
  collected : (c.collected.filter fun d => d.anchor.same anchor) =
    c₀.collected.filter fun d => d.anchor.same anchor
  errors : (c.errors.filter fun p => p.anchor.same anchor) =
    c₀.errors.filter fun p => p.anchor.same anchor

variable {anchor : Value} {c₀ : Collector}

omit [Pattern.Compiler] in
theorem Spent.seen_of_same (h : Spent anchor c₀ c) {v : Value} (hsame : v.same anchor = true) :
    c.seen.any v.same = true := by
  obtain ⟨seen, hmem, hseen⟩ := List.any_eq_true.mp h.seen
  exact List.any_eq_true.mpr ⟨seen, hmem, Value.same_trans hsame hseen⟩

omit [Pattern.Compiler] in
/-- A fresh directive is not one at a spent anchor. -/
theorem Spent.elsewhere (h : Spent anchor c₀ c) (hfresh : c.seen.any r.anchor.same = false) :
    r.anchor.same anchor = false := by
  rw [← Bool.not_eq_true]
  intro hsame
  exact Bool.noConfusion ((h.seen_of_same hsame).symm.trans hfresh)

omit [Pattern.Compiler] in
theorem any_concat_of_any {α : Type} {p : α → Bool} {xs : List α} (h : xs.any p = true) (x : α) :
    (xs ++ [x]).any p = true := by
  rw [List.any_append, h, Bool.true_or]

omit [Pattern.Compiler] in
theorem filter_concat_of_not {α : Type} {p : α → Bool} {xs : List α} {x : α} (h : p x = false) :
    (xs ++ [x]).filter p = xs.filter p := by
  simp [h]

/-- The step lemma: a spent anchor stays spent, whatever is offered. -/
theorem Spent.offer (h : Spent anchor c₀ c) (e : Engine) (r : Recorded) :
    Spent anchor c₀ ((offer r).on (c, e)).2.1 := by
  have hadded := offer_added c e r
  generalize (Collector.offer r).on (c, e) = ended at hadded
  cases hadded with
  | unhashable => exact h
  | skipped => exact h
  | failed => exact ⟨h.unit, any_concat_of_any h.seen _, h.collected, h.errors⟩
  | refused hhashable hfresh hrefused =>
    refine ⟨h.unit, any_concat_of_any h.seen _, h.collected, ?_⟩
    rw [← h.errors]
    exact filter_concat_of_not (by rw [anchor_of_refused hrefused, h.elsewhere hfresh])
  | made hhashable hfresh hmade =>
    refine ⟨h.unit, any_concat_of_any h.seen _, ?_, h.errors⟩
    rw [← h.collected]
    exact filter_concat_of_not (by rw [anchor_of_directiveFor hmade, h.elsewhere hfresh])

/-- Hands over directives in order, where the host passes over those that fail. -/
def offerEach : List Recorded → Run Unit
  | [] => pure ()
  | r :: rest => do
    tryCatch (do let _ ← offer r) fun _ => pure ()
    offerEach rest

theorem offerEach_cons (s : Collector × Engine) (r : Recorded) (rest : List Recorded) :
    (offerEach (r :: rest)).on s = (offerEach rest).on ((offer r).on s).2 := by
  have hoffer : (tryCatch (do let _ ← offer r) fun _ => pure () : Run Unit).run.run s =
      (.ok (), ((offer r).on s).2) := by
    rw [run_tryCatch, run_bind]
    show _ = (_, ((offer r).run.run s).2)
    rcases (offer r).run.run s with ⟨f | d, s'⟩ <;> rfl
  exact run_bind_of_ok hoffer

/-- The run lemma, by induction on the offers. -/
theorem Spent.offerEach (h : Spent anchor c₀ c) (e : Engine) (rs : List Recorded) :
    Spent anchor c₀ ((offerEach rs).on (c, e)).2.1 := by
  induction rs generalizing c e with
  | nil => exact h
  | cons r rest ih =>
    rw [offerEach_cons]
    exact ih (h.offer e r) _

/-! ## What a failed call leaves behind -/

omit [Pattern.Compiler] in
/-- A failed offer leaves its anchor spent. -/
theorem spent_of_failed (c : Collector) (r : Recorded) :
    Spent r.anchor c { c with seen := c.seen ++ [r.anchor] } where
  unit := rfl
  seen := by simp [Value.same_refl]
  collected := rfl
  errors := rfl

/-- With common values a call fails for one of the stated reasons only. A call that fails collects
    and reports nothing and does not touch the engine, whatever the fault. The collector is as
    before exactly if the anchor cannot be the member of a set. Any other anchor is spent: whatever
    else is handed over, nothing is collected or reported at the anchor, and a directive there is
    skipped as a repetition. -/
theorem failed_offer (c : Collector) (e : Engine) (r : Recorded) :
    (r.IsCommon → (((offer r).on (c, e)).1.isOk = false ↔ Stops c r)) ∧
    ∀ f c' e', (offer r).on (c, e) = (.error f, (c', e')) →
      e' = e ∧ c'.unit = c.unit ∧ c'.collected = c.collected ∧ c'.errors = c.errors ∧
      (c' = c ↔ r.anchor.obstacle? ≠ none) ∧
      (r.anchor.obstacle? = none → ∀ rs c₂ e₂, ((offerEach rs).on (c', e')).2 = (c₂, e₂) →
        Spent r.anchor c c₂ ∧
        ∀ again : Recorded, again.anchor.isCommon = true → again.anchor.obstacle? = none →
          again.anchor.same r.anchor = true →
          (offer again).on (c₂, e₂) =
            (.ok none, (c₂, e₂.withNotices [.duplicateSkipped c.unit again.anchor]))) := by
  refine ⟨fun _ => offer_fails_iff c e r, fun f c' e' hfailed => ?_⟩
  have hadded := offer_added c e r
  rw [hfailed] at hadded
  cases hadded with
  | unhashable hk =>
    have hobstacle : r.anchor.obstacle? ≠ none := by simp [hk]
    exact ⟨rfl, rfl, rfl, rfl, iff_of_true rfl hobstacle, fun h => absurd h hobstacle⟩
  | failed hhashable =>
    -- the anchor was entered before the failure, and nothing takes it out again
    have hgrown : ({ c with seen := c.seen ++ [r.anchor] } : Collector) ≠ c := by
      intro h
      have hlength := congrArg (fun c => c.seen.length) h
      simp at hlength
    refine ⟨rfl, rfl, rfl, rfl, iff_of_false hgrown (not_not_intro hhashable), ?_⟩
    intro _ rs c₂ e₂ hrest
    have hspent : Spent r.anchor c c₂ := by
      have h := (spent_of_failed c r).offerEach e rs
      rwa [hrest] at h
    refine ⟨hspent, fun again _ hagain hsame => ?_⟩
    rw [offer_of_seen hagain (hspent.seen_of_same hsame), hspent.unit]

end Compiled

/-- A directive without spans at 0, then one at 1, then one at 0 again: the last one is skipped,
    though nothing was collected at 0. -/
theorem failed_offer_noSpans :
    let bad := { recordedAt 0 0 9 "" with spans := [] }
    let s := ({ unit := ⟨"u"⟩ }, {})
    bad.IsCommon ∧ Stops s.1 bad ∧ ∃ f c' e', (offer bad).on s = (.error f, (c', e')) ∧ c' ≠ s.1 ∧
      ∃ c₂ e₂, ((offerEach [recordedAt 1 0 9 ""]).on (c', e')).2 = (c₂, e₂) ∧
        c₂.collected.map (·.anchor.text) = ["1"] ∧
        (offer (recordedAt 0 0 9 "")).on (c₂, e₂) =
          (.ok none, (c₂, e₂.withNotices [.duplicateSkipped ⟨"u"⟩ (.int 0)])) := by
  intro bad s
  obtain ⟨hstops, hleft⟩ := failed_offer s.1 s.2 bad
  have hcommon : bad.IsCommon := ⟨rfl, nofun, rfl⟩
  have hbad : Stops s.1 bad := .spans rfl rfl rfl
  obtain ⟨f, hended⟩ := exists_eq_error ((hstops hcommon).mpr hbad)
  obtain ⟨-, -, -, -, hsame, hspent⟩ := hleft f _ _ hended
  obtain ⟨-, hskipped⟩ := hspent rfl [recordedAt 1 0 9 ""] _ _ rfl
  refine ⟨hcommon, hbad, f, _, _, hended, fun h => hsame.mp h rfl, _, _, rfl, ?_, ?_⟩
  · decide +kernel
  · exact hskipped (recordedAt 0 0 9 "") rfl rfl rfl

/-- A directive at 0 is collected by a fresh collector, but not after one there without spans,
    though that one failed. -/
theorem offer_after_failure :
    let bad := { recordedAt 0 0 9 "" with spans := [] }
    let s : Collector × Engine := ({ unit := ⟨"u"⟩ }, {})
    let after := ((offer bad).on s).2
    ((offer bad).on s).1.isOk = false ∧ after.1.seen.length = 1 ∧
      ((offer (recordedAt 0 0 9 "")).on s).2.1.collected.length = 1 ∧
      ((offer (recordedAt 0 0 9 "")).on after).1.isOk = true ∧
      ((offer (recordedAt 0 0 9 "")).on after).2.1.collected.length = 0 := by
  decide +kernel

end Collector

end Muffle
