/-
  Muffle.Proofs.Collector.Bookkeeping

  What a collector keeps. Of the directives handed over only the first one at each anchor counts,
  whatever became of it; it is collected, or its pattern is refused and reported. Both lists are
  described by the first directives alone, and each directive that is handed over keeps this
  description, so all of them do. The engine sees nothing but the reports until the collection is
  finished; then the unit has exactly the directives that were collected.
-/

import Muffle.Pattern.Standard
import Muffle.Proofs.Stream.Refused
import Muffle.Proofs.Union

namespace Muffle.Collector

open Muffle.Stream (Recorded Collecting directiveFor gather)

variable {k : OrderedKind} {u : SourceUnit} {r : Recorded} {rs : List Recorded}
  {c c' : Collector} {first : Nat}

/-! ## The first directive at each anchor -/

/-- Whether one of some directives stands at an anchor. -/
def anchoredIn (earlier : List Recorded) (anchor : Value) : Bool :=
  earlier.any fun b => anchor.same b.anchor

/-- The directives that are the first ones at their anchors, where `earlier` came before. -/
def firstsAfter (earlier : List Recorded) : List Recorded → List Recorded
  | [] => []
  | r :: rest =>
    if anchoredIn earlier r.anchor then firstsAfter (earlier ++ [r]) rest
    else r :: firstsAfter (earlier ++ [r]) rest

/-- The directives that are the first ones at their anchors. -/
abbrev firsts (rs : List Recorded) : List Recorded := firstsAfter [] rs

theorem anchoredIn_concat (earlier : List Recorded) (r : Recorded) (anchor : Value) :
    anchoredIn (earlier ++ [r]) anchor =
      (anchoredIn earlier anchor || anchor.same r.anchor) := by
  simp [anchoredIn]

/-- Which items are the first at their anchors depends on all items before them. -/
theorem firstsAfter_append (earlier rs rs' : List Recorded) :
    firstsAfter earlier (rs ++ rs') =
      firstsAfter earlier rs ++ firstsAfter (earlier ++ rs) rs' := by
  induction rs generalizing earlier with
  | nil => rw [List.nil_append, List.append_nil, firstsAfter, List.nil_append]
  | cons x rest ih =>
    rw [List.cons_append, firstsAfter, firstsAfter, ih, List.append_assoc, List.singleton_append]
    split <;> rfl

theorem mem_of_mem_firstsAfter {earlier : List Recorded} (h : r ∈ firstsAfter earlier rs) :
    r ∈ rs := by
  induction rs generalizing earlier with
  | nil => cases h
  | cons x rest ih =>
    rw [firstsAfter] at h
    split at h
    · exact List.mem_cons_of_mem _ (ih h)
    · rcases List.mem_cons.mp h with rfl | h
      · exact List.mem_cons_self
      · exact List.mem_cons_of_mem _ (ih h)

section Compiled

variable [Pattern.Compiler]

/-! ## Directives handed over -/

/-- Collects directives in order. -/
def addAll : List Recorded → Run Unit
  | [] => pure ()
  | r :: rest => do
    let _ ← add r.anchor r.spans r.pattern r.inMacroExpansion
    addAll rest

/-- A directive as a host hands it over: its anchor can be the member of a set, it covers some
    spans of one kind, and its pattern is a text unless it counts as absent. -/
structure Handed (k : OrderedKind) (r : Recorded) : Prop where
  anchor : r.anchor.obstacle? = none
  nonempty : r.spans ≠ []
  spans : ∀ span ∈ r.spans, span.HasEnds k
  pattern : r.pattern.truthy = false ∨ ∃ text, r.pattern = .str text

/-- A text that the compiler gives up on, whatever for. -/
def Unsupported (pattern : Value) : Prop := ∃ fault, GivenUp pattern fault

/-- The account of a refused pattern of the directive at an anchor. -/
def refusalAt (anchor : Value) (text reason : String) : InvalidPattern where
  pattern := .str text
  reason := .str reason
  source := Directive.patternSource
  anchor := anchor
  located := true

/-- The fault of the directive at an anchor whose pattern is not compiled. -/
def faultAt (anchor : Value) (text : String) : Pattern.Rejection → Fault
  | .refused reason => .invalidPattern (refusalAt anchor text reason)
  | .failed fault => .foreign fault

/-- The account of a directive whose pattern is refused; the empty text is not tried. -/
def invalid? (r : Recorded) : Option InvalidPattern :=
  match r.pattern with
  | .str text =>
    if text.isEmpty then none
    else
      match Pattern.Compiler.compile text with
      | .error (.refused reason) => some (refusalAt r.anchor text reason)
      | _ => none
  | _ => none

/-- A pattern is what a recorded text compiles to; there is none if that is absent or empty. -/
def HasPattern (recorded : Value) : Option PatternFilter → Prop
  | none => recorded.truthy = false
  | some f => recorded.truthy = true ∧ recorded = .str f.text ∧
      Pattern.Compiler.compile f.text = .ok f.program ∧ f.source = Directive.patternSource

/-- The directive is what a recorded one stands for, whatever its identity is. -/
structure StandsFor (d : Directive) (r : Recorded) : Prop where
  anchor : d.anchor = r.anchor
  range : SourceRange.union r.spans = .ok d.range
  pattern : HasPattern r.pattern d.pattern
  inMacroExpansion : d.inMacroExpansion = r.inMacroExpansion

/-! ## One directive -/

/-- Whether the compiler gives up on a text. -/
def givesUp (text : String) : Bool :=
  match Pattern.Compiler.compile text with
  | .error (.failed _) => true
  | _ => false

theorem unsupported_str {text : String} :
    Unsupported (.str text) ↔ text.isEmpty = false ∧ givesUp text = true := by
  simp only [Unsupported, givenUp_str, exists_and_left, givesUp]
  refine and_congr_right fun _ => ?_
  rcases Pattern.Compiler.compile text with (_ | _) | _ <;> simp

instance (text : String) : Decidable (Unsupported (.str text)) :=
  decidable_of_iff _ unsupported_str.symm

theorem invalid?_str {text : String} (h : r.pattern = .str text)
    (htruthy : r.pattern.truthy = true) :
    invalid? r =
      match Pattern.Compiler.compile text with
      | .error (.refused reason) => some (refusalAt r.anchor text reason)
      | _ => none := by
  rw [h, Value.truthy, Bool.not_eq_true'] at htruthy
  rw [invalid?, h]
  dsimp only
  rw [if_neg (by rw [htruthy]; exact Bool.false_ne_true)]

/-- A pattern that counts as absent is not tried. -/
theorem supported_of_falsy (h : r.pattern.truthy = false) :
    invalid? r = none ∧ ¬Unsupported r.pattern := by
  constructor
  · rw [invalid?]
    split
    · rename_i text htext
      rw [htext, Value.truthy, Bool.not_eq_false'] at h
      rw [if_pos h]
    · rfl
  · rintro ⟨fault, htruthy, -⟩
    exact Bool.noConfusion (h.symm.trans htruthy)

/-- A text that compiles gives the directive its filter. -/
theorem compilePattern_ok {text : String} {program : Pattern.Program}
    (h : Pattern.Compiler.compile text = .ok program) (anchor : Value) :
    Directive.compilePattern anchor (.str text) =
      .ok (some ⟨text, program, Directive.patternSource⟩) := by
  simp [Directive.compilePattern, PatternFilter.compile, PatternFilter.compileText, h]

/-- A text that does not fails with the anchor, when it is refused, or as the compiler failed. -/
theorem compilePattern_error {text : String} {rejection : Pattern.Rejection}
    (h : Pattern.Compiler.compile text = .error rejection) (anchor : Value) :
    Directive.compilePattern anchor (.str text) = .error (faultAt anchor text rejection) := by
  cases rejection <;>
  simp [Directive.compilePattern, PatternFilter.compile, PatternFilter.compileText, h,
    PatternFilter.faultOf, InvalidPattern.at, refusalAt, faultAt]

/-- What becomes of a directive that is tried: it is made, refused, or fails otherwise. -/
inductive Tried (made : Nat) (r : Recorded) : Prop
  | made (d : Directive) (hmade : directiveFor made r = .ok d) (hstands : StandsFor d r)
      (hvalid : invalid? r = none) (hsupported : ¬Unsupported r.pattern)
  | refused (p : InvalidPattern)
      (hrefused : directiveFor made r = .error (.invalidPattern p))
      (hinvalid : invalid? r = some p) (hsupported : ¬Unsupported r.pattern)
  | failed (fault : Foreign) (hfailed : directiveFor made r = .error (.foreign fault))
      (hgivenUp : GivenUp r.pattern fault)

/-- The pattern alone decides what becomes of a directive with spans of one kind. -/
theorem tried (h : Handed k r) (made : Nat) : Tried made r := by
  -- the spans have a union, so only the pattern can fail
  obtain ⟨range, hrange, -⟩ := SourceRange.exists_union h.nonempty h.spans
  have hmake : directiveFor made r = (do
      let filter ← Directive.compilePattern r.anchor
        (if r.pattern.truthy then r.pattern else .null)
      return ⟨made, r.anchor, range, filter, r.inMacroExpansion⟩) := by
    rw [directiveFor, hrange]
    rfl
  cases htruthy : r.pattern.truthy with
  | false =>
    rw [htruthy] at hmake
    obtain ⟨hvalid, hsupported⟩ := supported_of_falsy htruthy
    exact .made _ hmake ⟨rfl, hrange, htruthy, rfl⟩ hvalid hsupported
  | true =>
    obtain ⟨text, htext⟩ := h.pattern.resolve_left (by rw [htruthy]; exact Bool.noConfusion)
    have hinvalid := invalid?_str htext htruthy
    have hgivenUp (fault : Foreign) : GivenUp r.pattern fault ↔
        Pattern.Compiler.compile text = .error (.failed fault) := by
      rw [GivenUp, htext]
      simpa using fun _ => htext ▸ htruthy
    rw [if_pos htruthy, htext] at hmake
    cases hcompile : Pattern.Compiler.compile text with
    | ok program =>
      rw [hcompile] at hinvalid
      rw [compilePattern_ok hcompile] at hmake
      refine .made _ hmake ⟨rfl, hrange, ⟨htruthy, htext, hcompile, rfl⟩, rfl⟩ hinvalid ?_
      simp [Unsupported, hgivenUp, hcompile]
    | error rejection =>
      rw [hcompile] at hinvalid
      rw [compilePattern_error hcompile] at hmake
      cases rejection with
      | refused reason =>
        exact .refused _ hmake hinvalid (by simp [Unsupported, hgivenUp, hcompile])
      | failed fault => exact .failed fault hmake ((hgivenUp fault).mpr hcompile)

/-! ## One more directive -/

/-- The collector has seen the anchors of some directives, and no others. -/
def Knows (c : Collector) (done : List Recorded) : Prop :=
  ∀ anchor : Value, c.seen.any anchor.same = anchoredIn done anchor

omit [Pattern.Compiler] in
theorem knows_fresh (u : SourceUnit) : Knows { unit := u } [] := fun _ => rfl

theorem Knows.gather {done : List Recorded} (hc : Knows c done) (h : gather first c r = .ok c') :
    Knows c' (done ++ [r]) := by
  intro anchor
  rw [Stream.gather_seen h, hc, anchoredIn_concat]

omit [Pattern.Compiler] in
theorem isMember_eq {v : Value} (h : v.obstacle? = none) (members : List Value) :
    v.isMember members = .ok (members.any v.same) := by
  rw [Value.isMember, Value.requireHashable, h]
  rfl

/-- A repeated anchor changes nothing. -/
theorem gather_of_seen (first : Nat) (h : Handed k r) (hseen : c.seen.any r.anchor.same = true) :
    gather first c r = .ok c := by
  rw [gather, isMember_eq h.anchor, hseen]
  rfl

/-- At a fresh anchor the item is collected, or its error, or the failure stops the collection. -/
theorem gather_of_fresh (h : Handed k r) (hfresh : c.seen.any r.anchor.same = false) :
    gather first c r =
      match directiveFor (first + c.collected.length) r with
      | .ok d =>
        .ok { c with seen := c.seen ++ [r.anchor], collected := c.collected ++ [d] }
      | .error (.invalidPattern p) =>
        .ok { c with seen := c.seen ++ [r.anchor], errors := c.errors ++ [p] }
      | .error f => .error f := by
  rw [gather, isMember_eq h.anchor, hfresh]
  rfl

/-- A fresh directive that is supported is collected or refused; another one stops the
    collection. -/
theorem isOk_gather_of_fresh (h : Handed k r) (hfresh : c.seen.any r.anchor.same = false) :
    (gather first c r).isOk = true ↔ ¬Unsupported r.pattern := by
  rw [gather_of_fresh h hfresh]
  cases tried h (first + c.collected.length) with
  | made d hmade _ _ hsupported =>
    rw [hmade]
    exact iff_of_true rfl hsupported
  | refused p hrefused _ hsupported =>
    rw [hrefused]
    exact iff_of_true rfl hsupported
  | failed fault hfailed hgivenUp =>
    rw [hfailed]
    exact iff_of_false Bool.noConfusion (not_not_intro ⟨fault, hgivenUp⟩)

/-- What the collector of a unit keeps of the directives that were handed over. -/
structure Kept (u : SourceUnit) (c : Collector) (done : List Recorded) : Prop where
  unit : c.unit = u
  knows : Knows c done
  collected : List.Forall₂ StandsFor c.collected
    ((firsts done).filter fun r => (invalid? r).isNone)
  errors : c.errors = (firsts done).filterMap invalid?

theorem kept_fresh (u : SourceUnit) : Kept u { unit := u } [] := ⟨rfl, knows_fresh u, .nil, rfl⟩

/-- The step lemma: the books stay those of the items so far. -/
theorem Kept.gather {done : List Recorded} (hc : Kept u c done) (hr : Handed k r)
    (h : gather first c r = .ok c') : Kept u c' (done ++ [r]) := by
  have hunit := (Stream.gather_unit h).trans hc.unit
  have hknows := hc.knows.gather h
  -- one more directive is one more first one, or none, as the collector has seen its anchor or not
  have hfirsts := firstsAfter_append [] done [r]
  rw [List.nil_append, firstsAfter, firstsAfter, ← hc.knows] at hfirsts
  cases hseen : c.seen.any r.anchor.same with
  | true =>
    rw [gather_of_seen first hr hseen] at h
    cases h
    rw [hseen, if_pos rfl, List.append_nil] at hfirsts
    exact ⟨hunit, hknows, by rw [firsts, hfirsts]; exact hc.collected,
      by rw [firsts, hfirsts]; exact hc.errors⟩
  | false =>
    rw [gather_of_fresh hr hseen] at h
    rw [hseen, if_neg Bool.false_ne_true] at hfirsts
    cases tried hr (first + c.collected.length) with
    | made d hmade hstands hvalid _ =>
      rw [hmade] at h
      cases h
      refine ⟨hunit, hknows, ?_, ?_⟩
      · rw [firsts, hfirsts, List.filter_append]
        exact List.rel_append hc.collected (by simp [hvalid, hstands])
      · rw [firsts, hfirsts, List.filterMap_append, ← hc.errors]
        simp [hvalid]
    | refused p hrefused hinvalid _ =>
      rw [hrefused] at h
      cases h
      refine ⟨hunit, hknows, ?_, ?_⟩
      · rw [firsts, hfirsts, List.filter_append]
        simpa [hinvalid] using hc.collected
      · rw [firsts, hfirsts, List.filterMap_append, ← hc.errors]
        simp [hinvalid]
    | failed fault hfailed _ =>
      rw [hfailed] at h
      cases h

/-! ## All directives -/

/-- The collector after some more directives. -/
def gatherEach (first : Nat) (c : Collector) : List Recorded → Except Fault Collector
  | [] => .ok c
  | r :: rest => do gatherEach first (← gather first c r) rest

/-- The collector at work gathers item by item, and the engine gains numbers and reports only. -/
theorem addAll_follows {e₀ e : Engine} (h : Collecting e₀ c e) (rs : List Recorded) :
    Follows ((addAll rs).on (c, e)) (gatherEach e₀.made c rs)
      fun c' _ s => s.1 = c' ∧ Collecting e₀ c' s.2 := by
  induction rs generalizing c e with
  | nil => exact ⟨(), (c, e), rfl, rfl, h⟩
  | cons r rest ih =>
    unfold addAll gatherEach
    refine (Stream.add_follows h r).bind fun c' _ s hs => ?_
    obtain ⟨c₁, e₁⟩ := s
    obtain ⟨rfl, h'⟩ := hs
    exact ih h'

/-- The run lemma. -/
theorem Kept.gatherEach {done : List Recorded} (hc : Kept u c done)
    (hrs : ∀ r ∈ rs, ∃ k, Handed k r) (h : gatherEach first c rs = .ok c') :
    Kept u c' (done ++ rs) := by
  induction rs generalizing c done with
  | nil =>
    cases h
    rwa [List.append_nil]
  | cons r rest ih =>
    obtain ⟨⟨k, hr⟩, hrest⟩ := List.forall_mem_cons.mp hrs
    obtain ⟨c₁, hstep, h⟩ := bind_eq_ok_iff.mp h
    have hall := ih (hc.gather hr hstep) hrest h
    rwa [List.append_assoc, List.singleton_append] at hall

/-- The collection comes to its end exactly if each first directive at an anchor is supported. -/
theorem isOk_gatherEach (first : Nat) {earlier : List Recorded} (hc : Knows c earlier)
    (hrs : ∀ r ∈ rs, ∃ k, Handed k r) :
    (gatherEach first c rs).isOk = true ↔
      ∀ r ∈ firstsAfter earlier rs, ¬Unsupported r.pattern := by
  induction rs generalizing c earlier with
  | nil => exact iff_of_true rfl nofun
  | cons r rest ih =>
    obtain ⟨⟨k, hr⟩, hrest⟩ := List.forall_mem_cons.mp hrs
    rw [gatherEach, firstsAfter, ← hc]
    cases hseen : c.seen.any r.anchor.same with
    | true =>
      have hstep := gather_of_seen first hr hseen
      rw [hstep, ok_bind, if_pos rfl]
      exact ih (hc.gather hstep) hrest
    | false =>
      rw [if_neg Bool.false_ne_true, List.forall_mem_cons, ← isOk_gather_of_fresh hr hseen]
      cases hstep : gather first c r with
      | error f => exact iff_of_false Bool.noConfusion fun h => Bool.noConfusion h.1
      | ok c₁ =>
        rw [ok_bind, ih (hc.gather hstep) hrest]
        exact (and_iff_right rfl).symm

/-- Only the first directives at their anchors have an effect. -/
theorem gatherEach_firstsAfter {earlier : List Recorded} (hc : Knows c earlier)
    (hrs : ∀ r ∈ rs, ∃ k, Handed k r) :
    gatherEach first c (firstsAfter earlier rs) = gatherEach first c rs := by
  induction rs generalizing c earlier with
  | nil => rfl
  | cons r rest ih =>
    obtain ⟨⟨k, hr⟩, hrest⟩ := List.forall_mem_cons.mp hrs
    rw [firstsAfter, ← hc]
    cases hseen : c.seen.any r.anchor.same with
    | true =>
      -- the directive is left out on one side only, but both sides know its anchor
      have hstep := gather_of_seen first hr hseen
      rw [if_pos rfl, gatherEach, hstep, ok_bind]
      exact ih (hc.gather hstep) hrest
    | false =>
      rw [if_neg Bool.false_ne_true, gatherEach, gatherEach]
      cases hstep : gather first c r with
      | error f => rfl
      | ok c₁ => exact ih (hc.gather hstep) hrest

/-- Directives have ranges of the kind of the spans that they stand for. -/
theorem hasEnds_of_standsFor (hrs : ∀ r ∈ rs, Handed k r) {ds : List Directive}
    (h : List.Forall₂ StandsFor ds rs) : ∀ d ∈ ds, d.range.HasEnds k := by
  induction h with
  | nil => exact nofun
  | cons hstands _ ih =>
    obtain ⟨hr, hrest⟩ := List.forall_mem_cons.mp hrs
    obtain ⟨range, hrange, hvalid⟩ := SourceRange.exists_union hr.nonempty hr.spans
    cases hstands.range.symm.trans hrange
    exact List.forall_mem_cons.mpr ⟨hvalid.toHasEnds, ih hrest⟩

/-! ## The end of the collection -/

omit [Pattern.Compiler] in
theorem finish_on (c : Collector) (e : Engine) :
    finish.on (c, e) =
      (((Engine.setDirectives c.unit c.collected).on e).1.map fun _ => c.collected,
        (c, ((Engine.setDirectives c.unit c.collected).on e).2)) := by
  have hset : (onEngine (Engine.setDirectives c.unit c.collected)).run.run (c, e) =
      (((Engine.setDirectives c.unit c.collected).on e).1,
        (c, ((Engine.setDirectives c.unit c.collected).on e).2)) := rfl
  have hfinish : finish.on (c, e) =
      (do let _ ← onEngine (Engine.setDirectives c.unit c.collected)
          return c.collected : Run (List Directive)).run.run (c, e) := rfl
  rw [hfinish, run_bind, hset]
  rcases (Engine.setDirectives c.unit c.collected).on e with ⟨f | os, e'⟩ <;> rfl

omit [Pattern.Compiler] in
/-- Where the unit had no directives it has exactly those that were collected, even if what waited
    for them cannot be decided; a range that cannot be written ends the registrations. -/
theorem finish_registers {e : Engine} (hempty : (e.registryD c.unit).directives = [])
    (hends : ∀ d ∈ c.collected, d.range.HasEnds k) :
    ((∀ d ∈ c.collected, d.range.isWritable = true) →
      ∃ g, (finish.on (c, e)).2.2.findRegistry c.unit = some g ∧ g.directives.Perm c.collected ∧
        ((∀ d ∈ e.waiting c.unit, (Engine.lookup (some g) d).isOk) →
          (finish.on (c, e)).1 = .ok c.collected)) ∧
    ((∃ d ∈ c.collected, d.range.isWritable = false) →
      (finish.on (c, e)).1 = .error (.tooManyDigits 0)) := by
  have hnone : ∀ x ∈ (e.registryD c.unit).directives, x.range.HasEnds k := by
    rw [hempty]
    exact nofun
  -- in one ordered kind every directive finds a place
  obtain ⟨g, hg⟩ := Registry.exists_registerAll hnone hends
  have hperm := Registry.registerAll_perm hg
  rw [hempty, List.nil_append] at hperm
  rw [finish_on]
  refine ⟨fun hw => ⟨g, Engine.findRegistry_setDirectives hg hw, hperm, fun hfound => ?_⟩,
    fun hw => ?_⟩
  · obtain ⟨e', hon, -⟩ := Engine.setDirectives_on hg hw hfound
    rw [hon]
    rfl
  -- a range that cannot be written stops the registration on its way
  · obtain ⟨g₁, hfails⟩ := Engine.setDirectives_on_error (Registry.enterAll_unwritable hg hw)
    obtain ⟨e', hon, -⟩ := hfails e rfl
    rw [hon]
    rfl

/-! ## The bookkeeping of a collector -/

omit [Pattern.Compiler] in
/-- While directives are collected the engine makes them and receives the reports. -/
theorem eq_of_collecting {e e' : Engine} (h : Collecting e c e') :
    e' = { e with
      sink := e.sink ++ c.errors.map (invalidReport c.unit)
      made := e.made + c.collected.length
      notices := e'.notices } := by
  obtain ⟨hregistries, hbacklogs, hused, hsink, hmade⟩ := h
  rw [← hregistries, ← hbacklogs, ← hused, ← hsink, ← hmade]

/-- A run of a fresh collector that comes to its end, as far as the engine goes. -/
theorem addAll_on {e : Engine} (h : gatherEach e.made { unit := u } rs = .ok c) :
    ∃ e', (addAll rs).on ({ unit := u }, e) = (.ok (), (c, e')) ∧ Collecting e c e' := by
  have hfollows := addAll_follows (Stream.collecting_start u e) rs
  rw [h] at hfollows
  obtain ⟨⟨⟩, ⟨_, e'⟩, hon, rfl, hcollecting⟩ := hfollows
  exact ⟨e', hon, hcollecting⟩

/-- Directives of one kind whose patterns are supported can all be handed over. Only the first ones
    at their anchors have an effect: those with a valid pattern, or with none, are collected in
    order, and the others are reported in order. The engine receives the reports and nothing else;
    when the collection is finished, a unit that had no directives has exactly those that were
    collected, unless a range of them is too long to be written, which ends the registrations. -/
theorem addAll_bookkeeping (u : SourceUnit) (e : Engine) (hrs : ∀ r ∈ rs, Handed k r)
    (hsupported : ∀ r ∈ rs, ¬Unsupported r.pattern) :
    ∃ c e', (addAll rs).on ({ unit := u }, e) = (.ok (), (c, e')) ∧
      (∃ ns, (addAll (firsts rs)).on ({ unit := u }, e) =
        (.ok (), (c, { e' with notices := ns }))) ∧
      List.Forall₂ StandsFor c.collected ((firsts rs).filter fun r => (invalid? r).isNone) ∧
      c.errors = (firsts rs).filterMap invalid? ∧
      e' = { e with
        sink := e.sink ++ c.errors.map (invalidReport u)
        made := e.made + c.collected.length
        notices := e'.notices } ∧
      ∀ e₁ : Engine, (e₁.registryD u).directives = [] →
        ((∀ d ∈ c.collected, d.range.isWritable = true) →
          ∃ g, (finish.on (c, e₁)).2.2.findRegistry u = some g ∧ g.directives.Perm c.collected ∧
            ((∀ d ∈ e₁.waiting u, (Engine.lookup (some g) d).isOk) →
              (finish.on (c, e₁)).1 = .ok c.collected)) ∧
        ((∃ d ∈ c.collected, d.range.isWritable = false) →
          (finish.on (c, e₁)).1 = .error (.tooManyDigits 0)) := by
  have hkinds : ∀ r ∈ rs, ∃ k, Handed k r := fun r hr => ⟨k, hrs r hr⟩
  have hfirsts : ∀ r ∈ firsts rs, ¬Unsupported r.pattern := fun r hr =>
    hsupported r (mem_of_mem_firstsAfter hr)
  -- the collection succeeds, and the firsts alone make the same one
  obtain ⟨c, hc⟩ := exists_of_isOk
    ((isOk_gatherEach e.made (knows_fresh u) hkinds).mpr hfirsts)
  obtain ⟨e', hon, hcollecting⟩ := addAll_on hc
  obtain ⟨e'', hon', hcollecting'⟩ := addAll_on (gatherEach_firstsAfter (knows_fresh u) hkinds ▸ hc)
  obtain ⟨rfl, -, hstands, herrors⟩ := (kept_fresh u).gatherEach hkinds hc
  have heq := eq_of_collecting hcollecting
  refine ⟨c, e', hon, ⟨e''.notices, ?_⟩, hstands, herrors, heq, fun e₁ hempty => ?_⟩
  · rw [hon', heq, eq_of_collecting hcollecting']
  · have hends := hasEnds_of_standsFor (fun r hr =>
      hrs r (mem_of_mem_firstsAfter (List.mem_of_mem_filter hr))) hstands
    exact finish_registers hempty hends

end Compiled

/-- Two directives at one anchor, written in two ways, and one at another: the first one is refused
    and counts nevertheless, so the second one is left out, and the third one is collected with the
    range around its spans. -/
theorem addAll_bookkeeping_duplicate :
    let span (s e : Int) : SourceRange.Span := .parts (.tuple [.int s, .int e])
    let rs : List Recorded := [⟨.int 1, [span 0 9], .str "(", .bool false⟩,
      ⟨.bool true, [span 0 9], .str "x", .bool false⟩,
      ⟨.int 2, [span 5 7, span 1 3], .str "", .bool true⟩]
    (∀ r ∈ rs, Handed PositionKind.offset.ordered r) ∧ (∀ r ∈ rs, ¬Unsupported r.pattern) ∧
      ∃ c e', (addAll rs).on ({ unit := ⟨"u"⟩ }, {}) = (.ok (), (c, e')) ∧
        c.collected.map (·.range.written.toOption) = [some "[1, 7]"] ∧
        c.errors.map (·.anchor.text) = ["1"] ∧
        e'.sink.map (·.position.text) = ["1"] ∧ e'.registries.length = 0 ∧
        ∃ g, (finish.on (c, e')).2.2.findRegistry ⟨"u"⟩ = some g ∧
          g.directives.Perm c.collected := by
  intro span rs
  have hspan (s e : Int) : (span s e).HasEnds PositionKind.offset.ordered :=
    ⟨.int s, .int e, rfl, rfl, rfl⟩
  have hrs : ∀ r ∈ rs, Handed PositionKind.offset.ordered r := by
    simp only [rs, List.forall_mem_cons]
    refine ⟨⟨rfl, nofun, ?_, .inr ⟨_, rfl⟩⟩, ⟨rfl, nofun, ?_, .inr ⟨_, rfl⟩⟩,
      ⟨rfl, nofun, ?_, .inl rfl⟩, nofun⟩ <;>
    simp only [List.forall_mem_cons] <;> simp [hspan]
  have hsupported : ∀ r ∈ rs, ¬Unsupported r.pattern := by
    simp only [rs, List.forall_mem_cons]
    exact ⟨by decide +kernel, by decide +kernel, by decide +kernel, nofun⟩
  obtain ⟨c, e', hon, -, -, -, hengine, hfinish⟩ := addAll_bookkeeping ⟨"u"⟩ {} hrs hsupported
  let ran := (addAll rs).on ({ unit := ⟨"u"⟩ }, {})
  have hstate : ran = (.ok (), (c, e')) := hon
  have hran : ran.2.1.collected.map (·.range.written.toOption) = [some "[1, 7]"] ∧
      (∀ d ∈ ran.2.1.collected, d.range.isWritable = true) ∧
      ran.2.1.errors.map (·.anchor.text) = ["1"] ∧
      ran.2.2.sink.map (·.position.text) = ["1"] ∧ ran.2.2.registries.length = 0 := by
    decide +kernel
  have hempty : (e'.registryD ⟨"u"⟩).directives = [] := by
    rw [hengine]
    rfl
  rw [hstate] at hran
  obtain ⟨hcollected, hwritable, herrors, hsink, hregistries⟩ := hran
  obtain ⟨g, hfind, hperm, -⟩ := (hfinish e' hempty).1 hwritable
  exact ⟨hrs, hsupported, c, e', hon, hcollected, herrors, hsink, hregistries, g, hfind, hperm⟩

end Muffle.Collector
