/-
  Muffle.Proofs.Engine.RegistrationOrder

  Where any two directives of a unit nest or lie apart, it makes no difference in which order they
  are registered. The stored orders differ, but every lookup gives the same directive, and this is
  all that a report takes from a registry. So two engines that are alike in this sense give the
  same answer to every diagnostic and are alike afterwards; this goes on however many diagnostics
  come, and even if some of them fail.
-/

import Muffle.Proofs.Nesting
import Muffle.Proofs.Engine.Usage

namespace Muffle.Engine

/-! ## Runs that go on after a failure -/

/-- Performs operations in order and goes on where one fails; its answer is missing then. -/
def performEach (p : Policy) : List Operation → Engine → List (Option Answer) × Engine
  | [], e => ([], e)
  | op :: ops, e =>
    let first := (perform p op).on e
    let rest := performEach p ops first.2
    (first.1.toOption :: rest.1, rest.2)

/-- The operation hands over a diagnostic at a position, or without one. -/
def Operation.Intercepts : Operation → Prop
  | .intercept _ position _ _ => position.IsPosition
  | .report d => d.position.IsPosition
  | _ => False

variable {p : Policy} {u : SourceUnit} {e e' e₂ e₂' : Engine} {g g₂ : Option Registry}
  {d : Diagnostic}

/-- An intercepted diagnostic has a position. -/
theorem Operation.Intercepts.position {op : Operation} (h : op.Intercepts)
    (hd : op.diagnostic? = some d) : d.position.IsPosition := by
  cases op with
  | report d₁ =>
    cases hd
    exact h
  | intercept u position severity message =>
    rw [Operation.diagnostic?, Option.map_eq_some_iff] at hd
    obtain ⟨s, -, rfl⟩ := hd
    exact h
  | register | setDirectives | flush | flushAll | reportUnused | emit => cases h

/-- A severity that cannot be read leaves the engine as it is. -/
theorem Operation.Intercepts.unreadable {op : Operation} (h : op.Intercepts)
    (hd : op.diagnostic? = none) (p : Policy) : ∃ f, ∀ e, (perform p op).on e = (.error f, e) := by
  cases op with
  | report d₁ => cases hd
  | intercept u position severity message =>
    rw [Operation.diagnostic?, Option.map_eq_none_iff] at hd
    refine ⟨.unknownSeverity severity, fun e => ?_⟩
    rw [Engine.perform, Engine.intercept, Severity.parse, hd]
    rfl
  | register | setDirectives | flush | flushAll | reportUnused | emit => cases h

/-! ## Engines that decide alike -/

/-- Two registries have the same directive for each diagnostic at a position. -/
structure SameLookups (g g₂ : Option Registry) : Prop where
  isSome_eq : g₂.isSome = g.isSome
  lookup_eq : ∀ d : Diagnostic, d.position.IsPosition →
    (lookup g₂ d).toOption = (lookup g d).toOption

theorem SameLookups.refl (g : Option Registry) : SameLookups g g := ⟨rfl, fun _ _ => rfl⟩

/-- Two engines differ in the stored order of directives only, and find the same ones. -/
structure Alike (e e₂ : Engine) : Prop where
  lookups : ∀ u, SameLookups (e.findRegistry u) (e₂.findRegistry u)
  stored : ∀ u, (e.registryD u).directives.Perm (e₂.registryD u).directives
  backlogs : e₂.backlogs = e.backlogs
  used : e₂.used = e.used
  sink : e₂.sink = e.sink

theorem Alike.refl (e : Engine) : Alike e e :=
  ⟨fun _ => .refl _, fun _ => .refl _, rfl, rfl, rfl⟩

theorem Alike.withNotices (h : Alike e e₂) (ns ns₂ : List Notice) :
    Alike (e.withNotices ns) (e₂.withNotices ns₂) :=
  ⟨h.lookups, h.stored, h.backlogs, h.used, h.sink⟩

theorem Alike.withSent (h : Alike e e₂) (d : Diagnostic) : Alike (e.withSent d) (e₂.withSent d) :=
  { h with sink := by rw [Engine.withSent, Engine.withSent, h.sink] }

theorem Alike.withWaiting (h : Alike e e₂) (d : Diagnostic) :
    Alike (e.withWaiting d) (e₂.withWaiting d) :=
  { h with
    backlogs := by
      rw [Engine.withWaiting, Engine.withWaiting, isWaiting_congr h.backlogs, h.backlogs] }

/-- The answers of two runs are the same, up to what a failure says, and the engines are alike. -/
def SameAnswers {α : Type} (x x₂ : Except Fault α × Engine) : Prop :=
  x₂.1.toOption = x.1.toOption ∧ Alike x.2 x₂.2

/-! ## One operation in both -/

/-- The same directive claims a diagnostic. -/
theorem SameLookups.claimant_eq (h : SameLookups g g₂) (hd : d.position.IsPosition) :
    claimant g₂ d = claimant g d := by
  have hlookup := h.lookup_eq d hd
  unfold claimant
  cases h₁ : lookup g d <;> cases h₂ : lookup g₂ d <;> simp_all [Except.toOption]

/-- A diagnostic is treated alike. -/
theorem SameLookups.release (hg : SameLookups g g₂) (hd : d.position.IsPosition)
    (h : Alike e e₂) : SameAnswers ((Engine.release g d).on e) ((Engine.release g₂ d).on e₂) := by
  have hlookup := hg.lookup_eq d hd
  have hclaimant := hg.claimant_eq hd
  have hpasses : passes g₂ d = passes g d := by rw [passes, passes, hclaimant]
  -- both lookups fail or both succeed, with the same directive
  cases hl : lookup g d with
  | error f =>
    cases hl₂ : lookup g₂ d with
    | ok c =>
      rw [hl, hl₂] at hlookup
      cases hlookup
    | error f₂ =>
      rw [release_on_error e hl, release_on_error e₂ hl₂]
      exact ⟨rfl, h⟩
  | ok c =>
    cases hl₂ : lookup g₂ d with
    | error f₂ =>
      rw [hl, hl₂] at hlookup
      cases hlookup
    | ok c₂ =>
      obtain ⟨e₁, hon, hs⟩ := release_on e (by rw [hl]; rfl)
      obtain ⟨e₃, hon₂, hs₂⟩ := release_on e₂ (by rw [hl₂]; rfl)
      rw [hon, hon₂]
      refine ⟨by rw [verdict, verdict, hclaimant], fun v => ?_, fun v => ?_, ?_, ?_, ?_⟩
      · rw [findRegistry_congr hs.registries, findRegistry_congr hs₂.registries]
        exact h.lookups v
      · rw [registryD_congr hs.registries, registryD_congr hs₂.registries]
        exact h.stored v
      · rw [hs.backlogs, hs₂.backlogs, h.backlogs]
      · simp only [hs.used, hs₂.used, h.used, List.filterMap_cons, List.filterMap_nil, hclaimant]
      · simp only [hs.sink, hs₂.sink, h.sink, List.filter_cons, List.filter_nil, hpasses]

/-- A report takes nothing from a registry but the lookup. -/
theorem Alike.report (h : Alike e e₂) (p : Policy) (hd : d.position.IsPosition) :
    SameAnswers ((report p d).on e) ((report p d).on e₂) := by
  cases hm : p.mayMuffle d.severity with
  | false =>
    rw [report_exempt hm, report_exempt hm]
    exact ⟨rfl, h.withSent d⟩
  | true =>
    cases hf : p.filteredBy? d with
    | error f =>
      rw [report_failed hm hf, report_failed hm hf]
      exact ⟨rfl, h⟩
    | ok r =>
      cases r with
      | some reason =>
        rw [report_filtered hm hf, report_filtered hm hf]
        exact ⟨rfl, h.withNotices _ _⟩
      | none =>
        rw [report_unfiltered hm hf, report_unfiltered hm hf, reportUnfiltered_eq,
          reportUnfiltered_eq, isWaiting_congr h.backlogs, ← Option.not_isSome, ← Option.not_isSome,
          (h.lookups d.unit).isSome_eq]
        split
        · exact ⟨rfl, h.withWaiting d⟩
        · exact (h.lookups d.unit).release hd h

/-- The step lemma. -/
theorem Alike.perform (h : Alike e e₂) (p : Policy) {op : Operation} (hop : op.Intercepts) :
    SameAnswers ((perform p op).on e) ((perform p op).on e₂) := by
  cases hd : op.diagnostic? with
  | none =>
    obtain ⟨f, hf⟩ := hop.unreadable hd p
    rw [hf, hf]
    exact ⟨rfl, h⟩
  | some d =>
    obtain ⟨hanswer, halike⟩ := h.report p (hop.position hd)
    rw [perform_diagnostic_eq hd, perform_diagnostic_eq hd]
    refine ⟨?_, halike⟩
    cases h₁ : ((Engine.report p d).on e).1 <;> cases h₂ : ((Engine.report p d).on e₂).1 <;>
      simp_all [Except.toOption, Except.map]

/-- The run lemma. -/
theorem Alike.performEach (h : Alike e e₂) (p : Policy) {ops : List Operation}
    (hops : ∀ op ∈ ops, op.Intercepts) :
    (performEach p ops e₂).1 = (performEach p ops e).1 ∧
      Alike (performEach p ops e).2 (performEach p ops e₂).2 := by
  induction ops generalizing e e₂ with
  | nil => exact ⟨rfl, h⟩
  | cons op ops ih =>
    obtain ⟨hop, hops⟩ := List.forall_mem_cons.mp hops
    obtain ⟨hfirst, h₁⟩ := h.perform p hop
    obtain ⟨hrest, h'⟩ := ih h₁ hops
    exact ⟨congrArg₂ List.cons hfirst hrest, h'⟩

/-- The same directives are unused, in whichever order. -/
theorem Alike.unusedOf_perm (h : Alike e e₂) (p : Policy) (u : SourceUnit) :
    (unusedOf p e u).Perm (unusedOf p e₂ u) := by
  cases hcheck : p.config.checkUnused.truthy with
  | true =>
    rw [unusedOf_eq hcheck, unusedOf_eq hcheck, unusedIn, unusedIn]
    simp only [isUsed, h.used]
    exact (h.stored u).filter _
  | false => simp [unusedOf, hcheck]

/-! ## Two orders of registration -/

section Orders

variable {k : PositionKind} {ss ss' : List Directive}

/-- The registrations of some directives, one after the other. -/
def registrations (u : SourceUnit) (ss : List Directive) : List Operation :=
  ss.map (.register u)

/-- The engine after some registrations that all have a place: the unit has the registry `g`, and
    the registrations as one call end there too, if all ranges can be written. -/
structure Entered (p : Policy) (u : SourceUnit) (ss : List Directive) (g : Registry)
    (e e' : Engine) : Prop where
  each : (Engine.performEach p (registrations u ss) e).2 = e'
  stored : Stored u g e e'
  atOnce : (∀ s ∈ ss, s.range.isWritable = true) → (registerAll u ss).on e = (.ok (), e')

/-- A directive that has a place is stored, and the rest follows. -/
theorem exists_entered_cons {s : Directive} {g g' : Registry} {ns : List Notice}
    (hreg : (e.registryD u).register s = .ok (g, ns))
    (hrest : ∀ e₁, Stored u g e e₁ → ∃ e', Entered p u ss g' e₁ e') :
    ∃ e', Entered p u (s :: ss) g' e e' := by
  obtain ⟨e₁, hon, hstored⟩ := register_on_stored hreg
  obtain ⟨e', hentered⟩ := hrest e₁ hstored
  refine ⟨e', ?_, hstored.trans hentered.stored, fun hw => ?_⟩
  · have hstep : ((Engine.perform p (.register u s)).on e).2 = e₁ := by
      rw [Engine.perform, on_bind, hon]
      cases s.range.written <;> rfl
    rw [registrations, List.map_cons, Engine.performEach, hstep]
    exact hentered.each
  · obtain ⟨hs, hw⟩ := List.forall_mem_cons.mp hw
    obtain ⟨text, htext⟩ := SourceRange.exists_written hs
    rw [htext] at hon
    rw [registerAll, on_bind_of_ok hon]
    exact hentered.atOnce hw

/-- All the directives can be entered, and nothing is decided by it. -/
theorem exists_entered {g : Registry} (hg : e.findRegistry u = some g) (hkind : g.OfKind k)
    (hss : ∀ s ∈ ss, s.range.OfKind k) (p : Policy) :
    ∃ e', Entered p u ss { g with directives := Registry.stored g.directives ss } e e' := by
  induction ss generalizing e g with
  | nil =>
    refine ⟨e, rfl, ⟨fun v => ?_, rfl, rfl, rfl⟩, fun _ => rfl⟩
    by_cases hv : v = u
    · rw [if_pos hv, hv, hg]
      rfl
    · rw [if_neg hv]
  | cons s rest ih =>
    obtain ⟨hs, hrest⟩ := List.forall_mem_cons.mp hss
    obtain ⟨ns, hreg⟩ := Registry.register_eq hkind hs
    have hD : e.registryD u = g := by rw [registryD, hg, Option.getD_some]
    refine exists_entered_cons (by rw [hD, hreg]) fun e₁ hstored =>
      ih hstored.find_self (hkind.insertInto hs) hrest

/-- Without a registry before, the first registration opens one. -/
theorem exists_entered_fresh (hfresh : e.findRegistry u = none)
    (hss : ∀ s ∈ ss, s.range.OfKind k) (hne : ss ≠ []) (p : Policy) :
    ∃ e', Entered p u ss ⟨u, Registry.stored [] ss⟩ e e' := by
  obtain ⟨s, rest, rfl⟩ := List.exists_cons_of_ne_nil hne
  obtain ⟨hs, hrest⟩ := List.forall_mem_cons.mp hss
  have hempty : ({ unit := u } : Registry).OfKind k := nofun
  obtain ⟨ns, hreg⟩ := Registry.register_eq hempty hs
  have hopened : (e.registryD u).register s = ({ unit := u } : Registry).register s := by
    rw [registryD_of_none hfresh]
  exact exists_entered_cons (hopened.trans hreg) fun e₁ hstored =>
    exists_entered hstored.find_self (hempty.insertInto hs) hrest p

/-- Nested ranges have one innermost that contains a position, so the order of registration does not
    show. -/
theorem sameLookups_of_perm (hperm : ss.Perm ss') (hss : ∀ s ∈ ss, s.range.OfKind k)
    (hnested : ss.Pairwise Directive.Nested) :
    SameLookups (some ⟨u, Registry.stored [] ss⟩) (some ⟨u, Registry.stored [] ss'⟩) where
  isSome_eq := rfl
  lookup_eq d := by
    rintro ⟨l, hl⟩
    have hself : (Registry.stored [] ss).Perm ss := Registry.stored_perm [] ss
    have hself' : (Registry.stored [] ss').Perm ss' := Registry.stored_perm [] ss'
    refine Registry.firstMatch_eq_of_perm (k := k) ((hself.trans hperm).trans hself'.symm) ?_
      (Registry.stored_innermostFirst .nil ss) (Registry.stored_innermostFirst .nil ss') ?_ hl
      d.message
    · exact fun s hs => hss s (hself.mem_iff.mp hs)
    · exact (hself.pairwise_iff Directive.Nested.symm).mpr hnested

/-- Engines that registered the same nested directives in different orders are alike. -/
theorem registrations_alike (hperm : ss.Perm ss') (hss : ∀ s ∈ ss, s.range.OfKind k)
    (hnested : ss.Pairwise Directive.Nested) (hfresh : e.findRegistry u = none) (p : Policy) :
    ∃ e₁ e₂, (performEach p (registrations u ss) e).2 = e₁ ∧
      (performEach p (registrations u ss') e).2 = e₂ ∧
      ((∀ s ∈ ss, s.range.isWritable = true) →
        (registerAll u ss).on e = (.ok (), e₁) ∧ (registerAll u ss').on e = (.ok (), e₂)) ∧
      Alike e₁ e₂ := by
  -- without directives nothing is registered, and there is no registry to compare
  by_cases hne : ss = []
  · subst hne
    rw [← hperm.nil_eq]
    exact ⟨e, e, rfl, rfl, fun _ => ⟨rfl, rfl⟩, .refl e⟩
  · have hne' : ss' ≠ [] := fun heq => hne (heq ▸ hperm).eq_nil
    have hss' : ∀ s ∈ ss', s.range.OfKind k := fun s hs => hss s (hperm.mem_iff.mpr hs)
    obtain ⟨e₁, hentered₁⟩ := exists_entered_fresh hfresh hss hne p
    obtain ⟨e₂, hentered₂⟩ := exists_entered_fresh hfresh hss' hne' p
    have h₁ := hentered₁.stored
    have h₂ := hentered₂.stored
    have hatOnce (hw : ∀ s ∈ ss, s.range.isWritable = true) :
        (registerAll u ss).on e = (.ok (), e₁) ∧ (registerAll u ss').on e = (.ok (), e₂) :=
      ⟨hentered₁.atOnce hw, hentered₂.atOnce fun s hs => hw s (hperm.mem_iff.mpr hs)⟩
    refine ⟨e₁, e₂, hentered₁.each, hentered₂.each, hatOnce, fun v => ?_, fun v => ?_, ?_, ?_, ?_⟩
    · rw [h₁.find, h₂.find]
      split
      · exact sameLookups_of_perm hperm hss hnested
      · exact .refl _
    · rw [registryD_of_find h₁.find, registryD_of_find h₂.find]
      split
      · have hself := Registry.stored_perm [] ss
        exact (hself.trans hperm).trans (Registry.stored_perm [] ss').symm
      · exact .refl _
    · rw [h₁.backlogs, h₂.backlogs]
    · rw [h₁.used, h₂.used]
    · rw [h₁.sink, h₂.sink]

/-- Directives of which any two nest or lie apart may be registered in any order: whatever
    diagnostics come afterwards, they get the same answers, the same directives are of use, the
    sink is the same, and the same directives are reported as unused. A registration whose range
    cannot be written fails after the directive is stored; the others are made all the same, and
    if there is none, the registrations can as well be made in one call. -/
theorem registerAll_order (p : Policy) (hperm : ss.Perm ss') (hss : ∀ s ∈ ss, s.range.OfKind k)
    (hnested : ss.Pairwise Directive.Nested) (hfresh : e.findRegistry u = none) :
    ∃ e₁ e₂, (performEach p (registrations u ss) e).2 = e₁ ∧
      (performEach p (registrations u ss') e).2 = e₂ ∧
      ((∀ s ∈ ss, s.range.isWritable = true) →
        (registerAll u ss).on e = (.ok (), e₁) ∧ (registerAll u ss').on e = (.ok (), e₂)) ∧
      ∀ ops, (∀ op ∈ ops, op.Intercepts) →
        ∃ answers f₁ f₂, performEach p ops e₁ = (answers, f₁) ∧
          performEach p ops e₂ = (answers, f₂) ∧ f₁.used = f₂.used ∧ f₁.sink = f₂.sink ∧
          ∀ v, ∃ ds₁ ds₂, ((reportUnused p v).on f₁).1 = .ok ds₁ ∧
            ((reportUnused p v).on f₂).1 = .ok ds₂ ∧ ds₁.Perm ds₂ := by
  obtain ⟨e₁, e₂, heach₁, heach₂, hatOnce, halike⟩ :=
    registrations_alike hperm hss hnested hfresh p
  refine ⟨e₁, e₂, heach₁, heach₂, hatOnce, fun ops hops => ?_⟩
  obtain ⟨hanswers, h⟩ := halike.performEach p hops
  refine ⟨(performEach p ops e₁).1, (performEach p ops e₁).2, (performEach p ops e₂).2, rfl,
    Prod.ext hanswers rfl, h.used.symm, h.sink.symm,
    fun v => ⟨_, _, ?_, ?_, h.unusedOf_perm p v⟩⟩
  · rw [reportUnused_on]
  · rw [reportUnused_on]

end Orders

/-- The stored orders differ, and so do the reports of what is unused; a position of another kind
    fails in both engines. -/
theorem registerAll_order_inner :
    let u : SourceUnit := ⟨"u"⟩
    let p : Policy := { config := { checkUnused := .bool true }, workDir := Path.ofText "/" }
    let outer := Directive.atOffsets 0 0 100
    let inner := Directive.atOffsets 1 10 20
    let far := Directive.atOffsets 2 200 300
    let ss := [outer, far, inner]
    let ss' := [far, outer, inner]
    let ops : List Operation := [.report (.warningAt u 15 "x"),
      .report ⟨u, .tuple [.int 1], .warning, .str "y"⟩, .report (.warningAt u 150 "z")]
    ss.Perm ss' ∧ (∀ s ∈ ss, s.range.OfKind .offset) ∧ ss.Pairwise Directive.Nested ∧
      (∀ s ∈ ss, s.range.isWritable = true) ∧ (∀ op ∈ ops, op.Intercepts) ∧
      ∃ e₁ e₂, (registerAll u ss).on {} = (.ok (), e₁) ∧ (registerAll u ss').on {} = (.ok (), e₂) ∧
        ∃ answers f₁ f₂, performEach p ops e₁ = (answers, f₁) ∧
          performEach p ops e₂ = (answers, f₂) ∧ answers.map Option.isSome = [true, false, true] ∧
          f₁.used = [1] ∧ f₁.used = f₂.used ∧ f₁.sink = f₂.sink ∧
          (unusedOf p f₁ u).map (·.id) = [0, 2] ∧ (unusedOf p f₂ u).map (·.id) = [2, 0] := by
  intro u p outer inner far ss ss' ops
  have hperm : ss.Perm ss' := .swap far outer [inner]
  have hss : ∀ s ∈ ss, s.range.OfKind .offset := by
    simp [ss, outer, inner, far, Directive.atOffsets, SourceRange.OfKind, PositionKind.Has,
      Value.integer?]
  have hnested : ss.Pairwise Directive.Nested := by decide
  have hoffset : ∀ i, (Value.int i).IsPosition := fun i => ⟨.offset, .inr rfl⟩
  have htuple : (Value.tuple [.int 1]).IsPosition :=
    ⟨.tuple, .inr (by simp [PositionKind.Has, Value.integer?])⟩
  have hops : ∀ op ∈ ops, op.Intercepts := by
    simp only [ops, List.forall_mem_cons]
    exact ⟨hoffset 15, htuple, hoffset 150, List.forall_mem_nil _⟩
  let run := performEach p ops ((registerAll u ss).on {}).2
  let run' := performEach p ops ((registerAll u ss').on {}).2
  have hanswers : run.1.map Option.isSome = [true, false, true] := by decide +kernel
  have hused : run.2.used = [1] := by decide +kernel
  have hunused : (unusedOf p run.2 u).map (·.id) = [0, 2] := by decide +kernel
  have hunused' : (unusedOf p run'.2 u).map (·.id) = [2, 0] := by decide +kernel
  have hwritable : ∀ s ∈ ss, s.range.isWritable = true := by
    simp only [ss, List.forall_mem_cons]
    exact ⟨rfl, rfl, rfl, List.forall_mem_nil _⟩
  obtain ⟨e₁, e₂, -, -, hatOnce, hrun⟩ := registerAll_order p hperm hss hnested (e := {}) rfl
  obtain ⟨hon₁, hon₂⟩ := hatOnce hwritable
  obtain ⟨answers, f₁, f₂, h₁, h₂, hsame, hsink, -⟩ := hrun ops hops
  have hstate₁ : ((registerAll u ss).on {}).2 = e₁ := by rw [hon₁]
  have hstate₂ : ((registerAll u ss').on {}).2 = e₂ := by rw [hon₂]
  have hrun₁ : run = (answers, f₁) := by rw [← h₁, ← hstate₁]
  have hrun₂ : run' = (answers, f₂) := by rw [← h₂, ← hstate₂]
  rw [hrun₁] at hanswers hused hunused
  rw [hrun₂] at hunused'
  exact ⟨hperm, hss, hnested, hwritable, hops, e₁, e₂, hon₁, hon₂, answers, f₁, f₂, h₁, h₂,
    hanswers, hused, hsame, hsink, hunused, hunused'⟩

end Muffle.Engine
