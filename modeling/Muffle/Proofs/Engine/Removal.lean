/-
  Muffle.Proofs.Engine.Removal

  A directive that ends unused has no effect. Two runs are compared: one as it was, and one in
  which some directives that ended unused were never set. The registries of the two runs differ in
  what they store, and in the order of it, since a directive that is missing cannot be inserted
  before; so different directives may claim a diagnostic. But whether any claims it is the same:
  the one that claimed it in the first run is of use, hence not missing, and so applies in the
  second run too.

  The first part is for whatever values the host passes, and says that the second run, as far as it
  succeeds, agrees with the first (`Performed.agree`). The second part is that with positions of
  the documented kinds it succeeds: what was compared in the first run is of one kind (`Orderly`),
  and the second run compares nothing else.
-/

import Muffle.Proofs.Engine.Ledger
import Muffle.Proofs.Engine.Orderly

namespace Muffle.Engine

/-- The operation without the directives that are to be left out. -/
def Operation.without (U : Directive → Bool) : Operation → Operation
  | .setDirectives u ss => .setDirectives u (ss.filter fun s => !U s)
  | op => op

/-- Directives come in sets, and no report names unused ones. -/
def Operation.InSets : Operation → Prop
  | .register .. | .reportUnused _ => False
  | _ => True

variable {p : Policy} {U : Directive → Bool} {e e' e₂ e₂' : Engine} {u : SourceUnit}
  {g g₂ : Option Registry} {d : Diagnostic} {ds : List Diagnostic}

/-! ## Engines that differ in unused directives -/

/-- The second registry has the directives of the first, but for those to leave out. -/
structure Lacks (U : Directive → Bool) (g g₂ : Option Registry) : Prop where
  isSome_eq : g₂.isSome = g.isSome
  mem_iff : ∀ s, s ∈ directivesIn g₂ ↔ s ∈ directivesIn g ∧ U s = false

/-- The second engine differs from the first only in that directives are missing, and in which
    directives were of use. -/
structure Thinned (U : Directive → Bool) (e e₂ : Engine) : Prop where
  lacks : ∀ u, Lacks U (e.findRegistry u) (e₂.findRegistry u)
  backlogs : e₂.backlogs = e.backlogs
  sink : e₂.sink = e.sink

/-- None of the directives to leave out is of use. -/
def Idle (U : Directive → Bool) (e : Engine) : Prop := ∀ s, U s = true → e.isUsed s = false

/-- What is idle at the end was idle before, because uses are only added. -/
theorem Idle.before (h : Idle U e') (hused : e.used <+: e'.used) : Idle U e := by
  intro s hs
  have hnot := h s hs
  rw [← Bool.not_eq_true, isUsed_iff] at hnot ⊢
  exact fun hmem => hnot (hused.subset hmem)

theorem Thinned.withoutWaiting (h : Thinned U e e₂) (u : SourceUnit) :
    Thinned U (e.withoutWaiting u) (e₂.withoutWaiting u) where
  lacks := h.lacks
  backlogs := by rw [Engine.withoutWaiting, Engine.withoutWaiting, h.backlogs]
  sink := h.sink

theorem Thinned.withWaiting (h : Thinned U e e₂) (d : Diagnostic) :
    Thinned U (e.withWaiting d) (e₂.withWaiting d) where
  lacks := h.lacks
  backlogs := by
    rw [Engine.withWaiting, Engine.withWaiting, isWaiting_congr h.backlogs, h.backlogs]
  sink := h.sink

theorem Thinned.withSent (h : Thinned U e e₂) (d : Diagnostic) :
    Thinned U (e.withSent d) (e₂.withSent d) where
  lacks := h.lacks
  backlogs := h.backlogs
  sink := by rw [Engine.withSent, Engine.withSent, h.sink]

/-- The same diagnostics wait. -/
theorem Thinned.waiting (h : Thinned U e e₂) (u : SourceUnit) : e₂.waiting u = e.waiting u :=
  waiting_congr h.backlogs u

/-! ## Decisions of both -/

/-- What claimed a diagnostic is of use, so it is not missing. -/
theorem Settled.not_missing (h : Settled g ds e e') (hi : Idle U e') (hd : d ∈ ds)
    {s : Directive} (hs : claimant g d = some s) : U s = false := by
  by_contra hU
  have hunused := hi s (by simpa using hU)
  have hused : s.id ∈ e'.used := by
    rw [h.used, List.mem_append]
    exact .inr (List.mem_map_of_mem (List.mem_filterMap.mpr ⟨d, hd, hs⟩))
  rw [isUsed_iff.mpr hused] at hunused
  cases hunused

/-- If what claims a diagnostic is not missing, it is claimed in both engines or in neither. -/
theorem Lacks.claimed_iff (h : Lacks U g g₂) (hl : (lookup g d).isOk) (hl₂ : (lookup g₂ d).isOk)
    (hkept : ∀ s, claimant g d = some s → U s = false) :
    (claimant g₂ d).isSome = (claimant g d).isSome := by
  cases hc : claimant g d with
  | some s =>
    -- it is stored in the second registry too, and applies
    have hfirst := claimant_eq_some_iff.mp hc
    have hmem : s ∈ directivesIn g₂ := (h.mem_iff s).mpr ⟨hfirst.mem, hkept s hc⟩
    cases hc₂ : claimant g₂ d with
    | some s₂ => rfl
    | none =>
      have hrefuses := (claimant_eq_none_iff hl₂).mp hc₂ s hmem
      rw [hfirst.applies] at hrefuses
      cases hrefuses
  | none =>
    cases hc₂ : claimant g₂ d with
    | none => rfl
    | some s₂ =>
      -- it is stored in the first registry too, where all refuse
      have hfirst := claimant_eq_some_iff.mp hc₂
      have hmem : s₂ ∈ directivesIn g := ((h.mem_iff s₂).mp hfirst.mem).1
      have hrefuses := (claimant_eq_none_iff hl).mp hc s₂ hmem
      rw [hfirst.applies] at hrefuses
      cases hrefuses

section Decisions

variable (h : Settled g ds e e') (h₂ : Settled g₂ ds e₂ e₂') (hg : Lacks U g g₂)
  (hi : Idle U e')

include h h₂ hg hi

/-- The same diagnostics pass with and without the idle directives. -/
theorem Settled.passes_eq : ∀ d ∈ ds, passes g₂ d = passes g d := by
  intro d hd
  have hclaimed := hg.claimed_iff (h.found d hd) (h₂.found d hd) fun s => h.not_missing hi hd
  rw [passes, passes, ← Option.not_isSome, ← Option.not_isSome, hclaimed]

/-- They get the same verdicts. -/
theorem Settled.verdict_eq : ∀ d ∈ ds, verdict g₂ d = verdict g d := by
  intro d hd
  have hclaimed := hg.claimed_iff (h.found d hd) (h₂.found d hd) fun s => h.not_missing hi hd
  rw [verdict, verdict, hclaimed]

/-- Decisions keep one engine the other without its idle directives. -/
theorem Settled.thinned (hT : Thinned U e e₂) : Thinned U e' e₂' where
  lacks u := by
    rw [findRegistry_congr h.registries, findRegistry_congr h₂.registries]
    exact hT.lacks u
  backlogs := h₂.backlogs.trans (hT.backlogs.trans h.backlogs.symm)
  sink := by
    rw [h₂.sink, h.sink, hT.sink, List.filter_congr (h.passes_eq h₂ hg hi)]

end Decisions

/-! ## One operation of both -/

/-- The engine between the registrations of a replay and its decisions. -/
theorem Replayed.settled {r : Registry} (h : Replayed u r e e') :
    Settled (some r) (e.waiting u) { e.withoutWaiting u with registries := e'.registries } e' :=
  ⟨h.found, h.sink, h.used, rfl, h.backlogs⟩

/-- Directives are entered in the same order when idle ones are left out. -/
theorem lacks_of_registerAll {ss : List Directive} {r r₂ : Registry} (hT : Thinned U e e₂)
    (hr : (e.registryD u).registerAll ss = .ok r)
    (hr₂ : (e₂.registryD u).registerAll (ss.filter fun s => !U s) = .ok r₂) :
    Lacks U (some r) (some r₂) where
  isSome_eq := rfl
  mem_iff s := by
    have hstored := (hT.lacks u).mem_iff s
    rw [directivesIn_findRegistry, directivesIn_findRegistry] at hstored
    show s ∈ r₂.directives ↔ s ∈ r.directives ∧ U s = false
    rw [(Registry.registerAll_perm hr).mem_iff, (Registry.registerAll_perm hr₂).mem_iff,
      List.mem_append, List.mem_append, hstored, List.mem_filter, Bool.not_eq_true', or_and_right]

/-- A replay gives the same verdicts in both. -/
theorem Replayed.thinned {ss : List Directive} {r r₂ : Registry} (h : Replayed u r e e')
    (h₂ : Replayed u r₂ e₂ e₂') (hr : (e.registryD u).registerAll ss = .ok r)
    (hr₂ : (e₂.registryD u).registerAll (ss.filter fun s => !U s) = .ok r₂)
    (hT : Thinned U e e₂) (hi : Idle U e') :
    (e₂.waiting u).map (verdict (some r₂)) = (e.waiting u).map (verdict (some r)) ∧
      Thinned U e' e₂' := by
  have hlacks := lacks_of_registerAll hT hr hr₂
  have hs₂ := h₂.settled
  rw [hT.waiting] at hs₂ ⊢
  refine ⟨List.map_congr_left (h.settled.verdict_eq hs₂ hlacks hi), ?_⟩
  refine h.settled.thinned hs₂ hlacks hi ⟨fun v => ?_, (hT.withoutWaiting u).backlogs, hT.sink⟩
  show Lacks U (e'.findRegistry v) (e₂'.findRegistry v)
  rw [h.find, h₂.find]
  split
  · exact hlacks
  · exact hT.lacks v

/-- A report in the second engine: it does the same as in the first, or it comes down to a release,
    as it does in the first. -/
theorem Reported.again {o : Outcome} (h : Reported p d e o e') (hT : Thinned U e e₂) :
    (∃ e₂', (report p d).on e₂ = (.ok o, e₂') ∧ Thinned U e' e₂') ∨
      o = verdict (e.findRegistry d.unit) d ∧ Settled (e.findRegistry d.unit) [d] e e' ∧
        (report p d).on e₂ = (release (e₂.findRegistry d.unit) d).on e₂ := by
  have hsome := (hT.lacks d.unit).isSome_eq
  have hwaits := isWaiting_congr hT.backlogs d.unit
  cases h with
  | exempt hm => exact .inl ⟨_, report_exempt hm e₂, hT.withSent d⟩
  | filtered hm reason hf =>
    exact .inl ⟨_, report_filtered hm hf e₂, hT.lacks, hT.backlogs, hT.sink⟩
  | held hm hf hdefers hw =>
    refine .inl ⟨_, ?_, hT.withWaiting d⟩
    rw [← Option.isNone_iff_eq_none, ← Option.not_isSome, ← hsome, ← hwaits] at hw
    rw [report_unfiltered hm hf, reportUnfiltered_eq, if_pos]
    simpa [hdefers] using hw
  | decided hm hf hw hs =>
    refine .inr ⟨rfl, hs, ?_⟩
    rw [← hsome, ← hwaits] at hw
    rw [report_unfiltered hm hf, reportUnfiltered_eq, if_neg]
    rw [Bool.and_eq_true, not_and]
    intro hdefers
    simp [hw hdefers, ← Option.not_isSome]

/-- A release sends the same in both. -/
theorem Released.agree {us : List SourceUnit} {ds₂ : List Diagnostic} (h : Released us e ds e')
    (hT : Thinned U e e₂) (hi : Idle U e') (h₂ : (flushUnits us).on e₂ = (.ok ds₂, e₂')) :
    ds₂ = ds ∧ Thinned U e' e₂' := by
  induction h generalizing e₂ ds₂ with
  | nil =>
    cases h₂
    exact ⟨rfl, hT⟩
  | @cons u us e e₁ e' more hs hrest ih =>
    obtain ⟨first, e₃, hfirst, h₂⟩ := on_bind_eq_ok_iff.mp h₂
    obtain ⟨more₂, e₄, hmore, h₂⟩ := on_bind_eq_ok_iff.mp h₂
    cases h₂
    obtain ⟨rfl, hs₂⟩ := flush_ok hfirst
    rw [hT.waiting] at hs₂
    have hi₁ : Idle U e₁ := hi.before hrest.used_extends
    have hpasses := hs.passes_eq hs₂ (hT.lacks u) hi₁
    obtain ⟨rfl, hT'⟩ := ih (hs.thinned hs₂ (hT.lacks u) hi₁ (hT.withoutWaiting u)) hi hmore
    rw [hT.waiting, List.filter_congr hpasses]
    exact ⟨rfl, hT'⟩

/-- Diagnostics are not removed. -/
theorem Operation.diagnostic?_without (op : Operation) :
    (op.without U).diagnostic? = op.diagnostic? := by
  cases op <;> rfl

/-- The step lemma: where both engines succeed, they give the same answer, and afterwards they
    still differ only in missing directives. -/
theorem Performed.agree {op : Operation} {a a₂ : Answer} (h : Performed p e op a e')
    (hsets : op.InSets) (hT : Thinned U e e₂) (hi : Idle U e')
    (h₂ : (perform p (op.without U)).on e₂ = (.ok a₂, e₂')) : a₂ = a ∧ Thinned U e' e₂' := by
  -- each operation is performed by both engines; the idle directives decide nothing
  cases h with
  | registered | unusedReported => cases hsets
  | @replayed u ss r _ hr hw hs =>
    obtain ⟨os, e₃, hset, h₂⟩ := on_bind_eq_ok_iff.mp h₂
    cases h₂
    obtain ⟨r₂, hr₂, -, rfl, hs₂⟩ := setDirectives_ok hset
    obtain ⟨hverdicts, hT'⟩ := hs.thinned hs₂ hr hr₂ hT hi
    exact ⟨congrArg Answer.outcomes hverdicts, hT'⟩
  | @reported _ d _ _ hd hr =>
    rw [← op.diagnostic?_without (U := U)] at hd
    obtain ⟨o₂, rfl, hreport⟩ := perform_diagnostic_ok hd h₂
    rcases hr.again hT with ⟨e₃, hsame, hT'⟩ | ⟨rfl, hs, hrelease⟩
    · rw [hsame] at hreport
      cases hreport
      exact ⟨rfl, hT'⟩
    · rw [hrelease] at hreport
      obtain ⟨rfl, hs₂⟩ := release_ok hreport
      have hlacks := hT.lacks d.unit
      have hverdict := hs.verdict_eq hs₂ hlacks hi d (List.mem_singleton_self d)
      exact ⟨congrArg Answer.outcome hverdict, hs.thinned hs₂ hlacks hi hT⟩
  | @released u _ hs =>
    obtain ⟨passed, e₃, hflush, h₂⟩ := on_bind_eq_ok_iff.mp h₂
    cases h₂
    obtain ⟨rfl, hs₂⟩ := flush_ok hflush
    rw [hT.waiting] at hs₂ ⊢
    have hpasses := hs.passes_eq hs₂ (hT.lacks u) hi
    rw [List.filter_congr hpasses]
    exact ⟨rfl, hs.thinned hs₂ (hT.lacks u) hi (hT.withoutWaiting u)⟩
  | releasedAll hr =>
    obtain ⟨passed, e₃, hflush, h₂⟩ := on_bind_eq_ok_iff.mp h₂
    cases h₂
    rw [flushAll, on_bind_of_ok (on_get e₂), hT.backlogs] at hflush
    obtain ⟨rfl, hT'⟩ := hr.agree hT hi hflush
    exact ⟨rfl, hT'⟩
  | emitted =>
    obtain ⟨_, e₃, hemit, h₂⟩ := on_bind_eq_ok_iff.mp h₂
    cases h₂
    cases hemit
    exact ⟨rfl, hT.withSent _⟩

/-! ## Positions of the documented kinds -/

/-- A lookup that succeeded among all directives succeeds among fewer. -/
theorem Lacks.lookup_isOk (h : Lacks U g g₂)
    (hkind : ∃ k, ∀ s ∈ directivesIn g, s.range.OfKind k) (hd : d.WellTyped)
    (hl : (lookup g d).isOk) : (lookup g₂ d).isOk := by
  obtain ⟨k, hk⟩ := hkind
  obtain ⟨⟨l, hpos⟩, m, hm⟩ := hd
  have hk₂ : ∀ s ∈ directivesIn g₂, s.range.OfKind k := fun s hs =>
    hk s ((h.mem_iff s).mp hs).1
  rw [lookup_eq] at hl ⊢
  cases hds : directivesIn g with
  | nil =>
    -- nothing is stored, in either registry
    have hnil : directivesIn g₂ = [] := by
      refine List.eq_nil_iff_forall_not_mem.mpr fun s hs => ?_
      have hs' := ((h.mem_iff s).mp hs).1
      rw [hds] at hs'
      cases hs'
    rw [hnil]
    rfl
  | cons s rest =>
    -- the position was looked for in the first range, so it is of the kind of them all
    rw [hds] at hl hk
    cases hc : Registry.firstMatch d.position d.message (s :: rest) with
    | error f => simp [hc, Except.isOk, Except.toBool] at hl
    | ok c =>
      have hpos' := Registry.hasOrNull_of_firstMatch (hk s List.mem_cons_self) hpos hc
      rw [hm, Registry.firstMatch_eq hpos' m hk₂]
      rfl

/-- A flush that succeeded does so without the idle directives. -/
theorem Orderly.flush_on (ho : Orderly e) (hT : Thinned U e e₂)
    (hs : Settled (e.findRegistry u) (e.waiting u) (e.withoutWaiting u) e') :
    ∃ passed e₂', (flush u).on e₂ = (.ok passed, e₂') := by
  have hl : ∀ d ∈ e₂.waiting u, (lookup (e₂.findRegistry u) d).isOk := by
    intro d hd
    rw [hT.waiting] at hd
    exact (hT.lacks u).lookup_isOk (ho.directivesIn u) (ho.waiting u d hd) (hs.found d hd)
  obtain ⟨e₃, hflush, -⟩ := Engine.flush_on hl
  exact ⟨_, e₃, hflush⟩

/-- So does a flush of several units. -/
theorem Released.again {us : List SourceUnit} (h : Released us e ds e') (ho : Orderly e)
    (hT : Thinned U e e₂) (hi : Idle U e') :
    ∃ ds₂ e₂', (flushUnits us).on e₂ = (.ok ds₂, e₂') := by
  induction h generalizing e₂ with
  | nil => exact ⟨[], e₂, rfl⟩
  | @cons u us e e₁ e' more hs hrest ih =>
    obtain ⟨first, e₃, hfirst⟩ := ho.flush_on hT hs
    obtain ⟨-, hs₂⟩ := flush_ok hfirst
    rw [hT.waiting] at hs₂
    have hT₁ := hs.thinned hs₂ (hT.lacks u) (hi.before hrest.used_extends) (hT.withoutWaiting u)
    obtain ⟨more₂, e₄, hmore⟩ := ih (ho.settled hs) hT₁ hi
    refine ⟨first ++ more₂, e₄, ?_⟩
    rw [flushUnits, on_bind_of_ok hfirst, on_bind_of_ok hmore]
    rfl

/-- An operation that succeeds succeeds without the missing directives too. -/
theorem Performed.again {op : Operation} {a : Answer} (h : Performed p e op a e')
    (hsets : op.InSets) (hop : op.WellTyped) (ho : Orderly e) (hT : Thinned U e e₂)
    (hi : Idle U e') : ∃ a₂ e₂', (perform p (op.without U)).on e₂ = (.ok a₂, e₂') := by
  have ho' : Orderly e' := ho.performed hop h
  cases h with
  | registered | unusedReported => cases hsets
  | @replayed u ss r _ hr hw hs =>
    -- all that the second engine registers is stored in the first one
    have hr' : e'.registryD u = r := by rw [registryD_of_find hs.find, if_pos rfl]
    obtain ⟨k, hk⟩ := ho'.registry u
    rw [hr'] at hk
    have hperm := Registry.registerAll_perm hr
    have hold : (e₂.registryD u).OfKind k := by
      intro s hmem
      rw [← directivesIn_findRegistry, (hT.lacks u).mem_iff, directivesIn_findRegistry] at hmem
      exact hk s (hperm.mem_iff.mpr (List.mem_append_left _ hmem.1))
    have hnew : ∀ s ∈ ss.filter fun s => !U s, s.range.OfKind k := fun s hmem =>
      hk s (hperm.mem_iff.mpr (List.mem_append_right _ (List.mem_of_mem_filter hmem)))
    obtain ⟨r₂, hr₂⟩ : ∃ r₂, (e₂.registryD u).registerAll (ss.filter fun s => !U s) = .ok r₂ :=
      ⟨_, Registry.registerAll_eq hold hnew⟩
    have hlacks := lacks_of_registerAll hT hr hr₂
    have hl : ∀ d ∈ e₂.waiting u, (lookup (some r₂) d).isOk := by
      intro d hd
      rw [hT.waiting] at hd
      exact hlacks.lookup_isOk ⟨k, hk⟩ (ho.waiting u d hd) (hs.found d hd)
    obtain ⟨e₃, hset, -⟩ := setDirectives_on hr₂
      (fun s hmem => hw s (List.mem_of_mem_filter hmem)) hl
    exact ⟨_, e₃, on_bind_of_ok hset _⟩
  | @reported _ d o _ hd hr =>
    have hreport : ∃ o₂ e₂', (report p d).on e₂ = (.ok o₂, e₂') := by
      rcases hr.again hT with ⟨e₃, hsame, -⟩ | ⟨-, hs, hrelease⟩
      · exact ⟨o, e₃, hsame⟩
      · have hl := (hT.lacks d.unit).lookup_isOk (ho.directivesIn d.unit) (hop.diagnostic d hd)
          (hs.found d (List.mem_singleton_self d))
        obtain ⟨e₃, hon, -⟩ := release_on e₂ hl
        exact ⟨_, e₃, hrelease.trans hon⟩
    obtain ⟨o₂, e₃, hreport⟩ := hreport
    exact ⟨.outcome o₂, e₃, perform_diagnostic_on ((op.diagnostic?_without).trans hd) hreport⟩
  | released hs =>
    obtain ⟨passed, e₃, hflush⟩ := ho.flush_on hT hs
    exact ⟨.forwarded passed, e₃, on_bind_of_ok hflush _⟩
  | releasedAll hr =>
    rw [← hT.backlogs] at hr
    obtain ⟨passed, e₃, hflush⟩ := hr.again ho hT hi
    refine ⟨.forwarded passed, e₃, on_bind_of_ok ?_ _⟩
    rw [flushAll, on_bind_of_ok (on_get e₂), hflush]
  | emitted => exact ⟨_, _, rfl⟩

/-! ## Whole runs -/

theorem performAll_used_extends {ops : List Operation} {answers : List Answer}
    (h : (performAll p ops).on e = (.ok answers, e')) : e.used <+: e'.used := by
  induction ops generalizing e answers with
  | nil =>
    cases h
    exact List.prefix_rfl
  | cons op ops ih =>
    obtain ⟨a, as, e₁, rfl, hop, hops⟩ := performAll_cons_ok h
    exact (perform_ok hop).used_extends.trans (ih hops)

/-- The run lemma, for whatever values: two runs that succeed give the same answers. -/
theorem performAll_agree {ops : List Operation} {answers answers₂ : List Answer}
    (h : (performAll p ops).on e = (.ok answers, e')) (hsets : ∀ op ∈ ops, op.InSets)
    (hT : Thinned U e e₂) (hi : Idle U e')
    (h₂ : (performAll p (ops.map (Operation.without U))).on e₂ = (.ok answers₂, e₂')) :
    answers₂ = answers ∧ Thinned U e' e₂' := by
  induction ops generalizing e e₂ answers answers₂ with
  | nil =>
    cases h
    cases h₂
    exact ⟨rfl, hT⟩
  | cons op ops ih =>
    obtain ⟨a, as, e₁, rfl, hop, hops⟩ := performAll_cons_ok h
    obtain ⟨a₂, as₂, e₃, rfl, hop₂, hops₂⟩ := performAll_cons_ok h₂
    obtain ⟨hsets₁, hsets⟩ := List.forall_mem_cons.mp hsets
    -- what is unused in the end is unused after the first operation
    have hi₁ : Idle U e₁ := hi.before (performAll_used_extends hops)
    obtain ⟨rfl, hT₁⟩ := (perform_ok hop).agree hsets₁ hT hi₁ hop₂
    obtain ⟨rfl, hT'⟩ := ih hops hsets hT₁ hops₂
    exact ⟨rfl, hT'⟩

/-- The run lemma for positions of the documented kinds: the second run succeeds. -/
theorem performAll_again {ops : List Operation} {answers : List Answer}
    (h : (performAll p ops).on e = (.ok answers, e')) (hsets : ∀ op ∈ ops, op.InSets)
    (htyped : ∀ op ∈ ops, op.WellTyped) (ho : Orderly e) (hT : Thinned U e e₂) (hi : Idle U e') :
    ∃ answers₂ e₂', (performAll p (ops.map (Operation.without U))).on e₂ = (.ok answers₂, e₂') := by
  induction ops generalizing e e₂ answers with
  | nil => exact ⟨[], e₂, rfl⟩
  | cons op ops ih =>
    obtain ⟨a, as, e₁, rfl, hop, hops⟩ := performAll_cons_ok h
    obtain ⟨hsets₁, hsets⟩ := List.forall_mem_cons.mp hsets
    obtain ⟨htyped₁, htyped⟩ := List.forall_mem_cons.mp htyped
    -- idle to the end is idle until now
    have hi₁ : Idle U e₁ := hi.before (performAll_used_extends hops)
    have hperformed := perform_ok hop
    obtain ⟨a₂, e₃, hop₂⟩ := hperformed.again hsets₁ htyped₁ ho hT hi₁
    obtain ⟨-, hT₁⟩ := hperformed.agree hsets₁ hT hi₁ hop₂
    obtain ⟨as₂, e₄, hops₂⟩ := ih hops hsets htyped (ho.performed htyped₁ hperformed) hT₁
    refine ⟨a₂ :: as₂, e₄, ?_⟩
    rw [List.map_cons, performAll, on_bind_of_ok hop₂, on_bind_of_ok hops₂]
    rfl

/-- The books do not mention what was set. -/
theorem ofRun_without (U : Directive → Bool) (ops : List Operation) (answers : List Answer) :
    Ledger.ofRun (ops.map (Operation.without U)) answers = Ledger.ofRun ops answers := by
  have hrecord : ∀ (l : Ledger) op a, l.record (op.without U) a = l.record op a := by
    intro l op a
    cases op <;> cases a <;> rfl
  rw [Ledger.ofRun, Ledger.ofRun, Ledger.recordAll, Ledger.recordAll, List.zip_map_left,
    List.foldl_map]
  exact congrArg (fun f => (ops.zip answers).foldl f {})
    (funext fun l => funext fun x => hrecord l x.1 x.2)

theorem thinned_empty (U : Directive → Bool) : Thinned U {} {} :=
  ⟨fun _ => ⟨rfl, fun _ => ⟨nofun, nofun⟩⟩, rfl, rfl⟩

/-- In a run in which directives come in sets, leave out some that end unused. With positions of
    the documented kinds the run still succeeds, and whenever it does, each diagnostic has the same
    first answer and the same place in the books, and the sink is the same. -/
theorem performAll_without {ops : List Operation} {answers : List Answer}
    (hsets : ∀ op ∈ ops, op.InSets) (h : (performAll p ops).on {} = (.ok answers, e))
    (hunused : ∀ s, U s = true → e.isUsed s = false) :
    let ops₂ := ops.map (Operation.without U)
    ((∀ op ∈ ops, op.WellTyped) →
      ∃ answers₂ e₂, (performAll p ops₂).on {} = (.ok answers₂, e₂)) ∧
    ∀ answers₂ e₂, (performAll p ops₂).on {} = (.ok answers₂, e₂) →
      answers₂ = answers ∧ Ledger.ofRun ops₂ answers₂ = Ledger.ofRun ops answers ∧
        e₂.sink = e.sink ∧ ∀ u, e₂.waiting u = e.waiting u := by
  intro ops₂
  refine ⟨fun htyped => ?_, fun answers₂ e₂ h₂ => ?_⟩
  · exact performAll_again h hsets htyped orderly_empty (thinned_empty U) hunused
  · obtain ⟨rfl, hT⟩ := performAll_agree h hsets (thinned_empty U) hunused h₂
    exact ⟨rfl, ofRun_without U ops answers₂, hT.sink, hT.waiting⟩

/-- Without the directive that encloses it, the claimant goes behind one that crosses it; then that
    one claims. -/
theorem performAll_without_encloser :
    let u : SourceUnit := ⟨"u"⟩
    let p : Policy := .deferring Severity.all
    let U : Directive → Bool := fun s => s.id == 0
    let encloser := Directive.atOffsets 0 0 40
    let crossing := Directive.atOffsets 1 5 60
    let inner := Directive.atOffsets 2 2 30
    let ops : List Operation :=
      [.report (.warningAt u 10 "x"), .setDirectives u [encloser, crossing, inner],
        .report (.warningAt u 70 "y"), .report (.warningAt ⟨"v"⟩ 1 "z"), .flushAll]
    ∃ answers e e₂, (performAll p ops).on {} = (.ok answers, e) ∧
      (∀ op ∈ ops, op.InSets) ∧ (∀ op ∈ ops, op.WellTyped) ∧
      (∀ s, U s = true → e.isUsed s = false) ∧
      (performAll p (ops.map (Operation.without U))).on {} = (.ok answers, e₂) ∧
      e.used = [2] ∧ e₂.used = [1] ∧ e₂.sink = e.sink ∧
      e.sink = [.warningAt u 70 "y", .warningAt ⟨"v"⟩ 1 "z"] := by
  intro u p U encloser crossing inner ops
  let run := (performAll p ops).on {}
  let answers : List Answer := [.outcome .deferred, .outcomes [.suppressed], .outcome .forwarded,
    .outcome .deferred, .forwarded [.warningAt ⟨"v"⟩ 1 "z"]]
  have hrun : run = (.ok answers, run.2) := Prod.ext rfl rfl
  have hsets : ∀ op ∈ ops, op.InSets := by simp [ops, Operation.InSets]
  have hreport : ∀ v i m, (Operation.report (.warningAt v i m)).WellTyped := by
    intro v i m
    refine ⟨fun d hd => ?_, nofun⟩
    cases hd
    exact ⟨⟨.offset, .inr rfl⟩, m, rfl⟩
  have hset : (Operation.setDirectives u [encloser, crossing, inner]).WellTyped := by
    refine ⟨nofun, fun x hx => ⟨.offset, ?_⟩⟩
    obtain ⟨s, hs, rfl⟩ := List.mem_map.mp hx
    simp only [List.mem_cons, List.not_mem_nil, or_false] at hs
    rcases hs with rfl | rfl | rfl <;> exact ⟨rfl, rfl⟩
  have htyped : ∀ op ∈ ops, op.WellTyped := by
    simp only [ops, List.forall_mem_cons]
    exact ⟨hreport u 10 "x", hset, hreport u 70 "y", hreport ⟨"v"⟩ 1 "z", ⟨nofun, nofun⟩,
      List.forall_mem_nil _⟩
  have hused : run.2.used = [2] := rfl
  have hunused : ∀ s, U s = true → run.2.isUsed s = false := by
    intro s hs
    have hid : s.id = 0 := by simpa [U] using hs
    rw [isUsed, hused, hid]
    rfl
  obtain ⟨hagain, hagree⟩ := performAll_without hsets hrun hunused
  obtain ⟨answers₂, e₂, hrun₂⟩ := hagain htyped
  obtain ⟨rfl, -, hsink, -⟩ := hagree _ _ hrun₂
  have hstate : ((performAll p (ops.map (Operation.without U))).on {}).2 = e₂ := by rw [hrun₂]
  have hused₂ : e₂.used = [1] := by
    rw [← hstate]
    rfl
  exact ⟨answers, run.2, e₂, hrun, hsets, htyped, hunused, hrun₂, hused, hused₂, hsink, rfl⟩

end Muffle.Engine
