/-
  Muffle.Proofs.Engine.Deferral

  Waiting makes no difference. A host may report the diagnostics of a unit first and set its
  directives afterwards, or set the directives first: the outcomes, the directives of use, the
  registries and, but for exempt diagnostics, the sink are the same.

  What severity and filters decide about a diagnostic depends on the policy alone; this is its
  screening. Before the directives are set, exactly what passes the screening waits, so the replay
  decides what the other run decides by the same registry, in the same order.
-/

import Muffle.Proofs.Engine.Operation

namespace Muffle

/-! ## Screening -/

/-- What severity and filters decide about a diagnostic; none if it is left to directives. -/
def Policy.screen (p : Policy) (d : Diagnostic) : Option Outcome :=
  if p.mayMuffle d.severity then
    match p.filteredBy? d with
    | .ok none => none
    | _ => some .suppressed
  else some .forwarded

/-- Filters can be asked about any text. -/
theorem PatternFilter.anyMatches_str (fs : List PatternFilter) (m : String) :
    ∃ b, PatternFilter.anyMatches fs (.str m) = .ok b := by
  induction fs with
  | nil => exact ⟨false, rfl⟩
  | cons f fs ih =>
    rw [PatternFilter.anyMatches]
    cases hf : f.matchesText m with
    | true => exact ⟨true, by rw [PatternFilter.matchesValue, hf]; rfl⟩
    | false =>
      obtain ⟨b, hb⟩ := ih
      exact ⟨b, by rw [PatternFilter.matchesValue, hf, hb]; rfl⟩

theorem Policy.filteredBy?_str (p : Policy) {d : Diagnostic} {m : String}
    (h : d.message = .str m) : ∃ r, p.filteredBy? d = .ok r := by
  rw [Policy.filteredBy?, h]
  by_cases hpath : p.matchesPath d.unit = true
  · exact ⟨_, if_pos hpath⟩
  · rw [if_neg hpath]
    obtain ⟨b, hb⟩ := PatternFilter.anyMatches_str p.config.globalFilters m
    rw [hb]
    exact ⟨_, rfl⟩

namespace Engine

variable {p : Policy} {u : SourceUnit} {k : PositionKind} {e e' : Engine} {d : Diagnostic}

/-- What the sink received of severities that may be muffled. -/
def muffleable (p : Policy) (e : Engine) : List Diagnostic :=
  e.sink.filter fun d => p.mayMuffle d.severity

/-- Between two engines at most exempt diagnostics were sent. -/
structure Aside (p : Policy) (e e' : Engine) : Prop where
  sink : muffleable p e' = muffleable p e
  used : e'.used = e.used
  registries : e'.registries = e.registries
  backlogs : e'.backlogs = e.backlogs

/-- A diagnostic that the screening decides leaves nothing behind that decisions read. -/
theorem report_screened {m : String} (hm : d.message = .str m) {o : Outcome}
    (h : p.screen d = some o) (e : Engine) :
    ∃ e', (report p d).on e = (.ok o, e') ∧ Aside p e e' := by
  obtain ⟨r, hr⟩ := p.filteredBy?_str hm
  cases hs : p.mayMuffle d.severity with
  | false =>
    obtain rfl : .forwarded = o := by simpa [Policy.screen, hs] using h
    refine ⟨e.withSent d, report_exempt hs e, ?_, rfl, rfl, rfl⟩
    simp [muffleable, withSent, hs]
  | true =>
    cases r with
    | none => simp [Policy.screen, hs, hr] at h
    | some reason =>
      obtain rfl : .suppressed = o := by simpa [Policy.screen, hs, hr] using h
      exact ⟨_, report_filtered hs hr e, rfl, rfl, rfl, rfl⟩

/-- What is left to directives may be muffled, and its report looks at the registry. -/
theorem report_left {m : String} (hm : d.message = .str m) (h : p.screen d = none) :
    p.mayMuffle d.severity = true ∧
      ∀ e, (report p d).on e = (reportUnfiltered p d).on e := by
  obtain ⟨r, hr⟩ := p.filteredBy?_str hm
  cases hs : p.mayMuffle d.severity with
  | false => simp [Policy.screen, hs] at h
  | true =>
    cases r with
    | none => exact ⟨rfl, report_unfiltered hs hr⟩
    | some reason => simp [Policy.screen, hs, hr] at h

/-! ## The two orders -/

/-- Reports diagnostics in order. -/
def reportAll (p : Policy) : List Diagnostic → Run (List Outcome)
  | [] => pure []
  | d :: rest => do
    let o ← report p d
    let os ← reportAll p rest
    return o :: os

/-- The final outcomes: where the first answer was to wait, the next one of the replay. -/
def finalOutcomes : List Outcome → List Outcome → List Outcome
  | [], _ => []
  | .deferred :: os, rs => rs.headD .deferred :: finalOutcomes os rs.tail
  | o :: os, rs => o :: finalOutcomes os rs

/-- Reports first and sets the directives afterwards. -/
def reportThenSet (p : Policy) (u : SourceUnit) (ds : List Diagnostic) (ss : List Directive) :
    Run (List Outcome) := do
  let first ← reportAll p ds
  let replayed ← setDirectives u ss
  return finalOutcomes first replayed

/-- Sets the directives first and reports afterwards. -/
def setThenReport (p : Policy) (u : SourceUnit) (ds : List Diagnostic) (ss : List Directive) :
    Run (List Outcome) := do
  let _ ← setDirectives u ss
  reportAll p ds

/-- The diagnostics that the screening leaves to directives. -/
def leftOf (p : Policy) (ds : List Diagnostic) : List Diagnostic :=
  ds.filter fun d => (p.screen d).isNone

/-- The final outcome of a diagnostic by a registry. -/
def outcomeBy (p : Policy) (g : Registry) (d : Diagnostic) : Outcome :=
  (p.screen d).getD (verdict (some g) d)

/-- With a registry at hand nothing is deferred. -/
theorem outcomeBy_ne_deferred (p : Policy) (g : Registry) (d : Diagnostic) :
    outcomeBy p g d ≠ .deferred := by
  unfold outcomeBy Policy.screen
  split
  · split
    · exact verdict_ne_deferred _ _
    · simp
  · simp

/-- The outcomes at first, with those of the replay in the gaps, are the outcomes with the registry
    at hand. -/
theorem finalOutcomes_screen (p : Policy) (g : Registry) (ds : List Diagnostic) :
    finalOutcomes (ds.map fun d => (p.screen d).getD .deferred)
      ((leftOf p ds).map (verdict (some g))) = ds.map (outcomeBy p g) := by
  induction ds with
  | nil => rfl
  | cons d ds ih =>
    rw [List.map_cons, List.map_cons, leftOf, List.filter_cons]
    cases hs : p.screen d with
    | none => simpa [finalOutcomes, outcomeBy, hs, leftOf] using ih
    | some o =>
      -- the screening never says to wait, so the replay is not asked
      have hne : o ≠ .deferred := by
        have := outcomeBy_ne_deferred p g d
        rwa [outcomeBy, hs, Option.getD_some] at this
      cases o with
      | deferred => exact absurd rfl hne
      | suppressed | forwarded => simpa [finalOutcomes, outcomeBy, hs, leftOf] using ih

theorem leftOf_cons_some {o : Outcome} (h : p.screen d = some o) (ds : List Diagnostic) :
    leftOf p (d :: ds) = leftOf p ds := by
  rw [leftOf, List.filter_cons, h]
  rfl

theorem leftOf_cons_none (h : p.screen d = none) (ds : List Diagnostic) :
    leftOf p (d :: ds) = d :: leftOf p ds := by
  rw [leftOf, List.filter_cons, h]
  rfl

/-! ## Reports without directives -/

theorem withoutWaiting_withWaiting (e : Engine) (d : Diagnostic) :
    ((e.withWaiting d).withoutWaiting d.unit).backlogs = (e.withoutWaiting d.unit).backlogs := by
  unfold withWaiting withoutWaiting
  by_cases hw : e.isWaiting d.unit = true
  · simp only [hw, if_true]
    induction e.backlogs with
    | nil => rfl
    | cons b bs ih =>
      by_cases hb : b.unit = d.unit <;> simp [hb, ih]
  · simp [hw]

/-- The engine after reports without a registry: what the screening left waits behind the rest. -/
structure Held (p : Policy) (u : SourceUnit) (ds : List Diagnostic) (e e' : Engine) : Prop where
  sink : muffleable p e' = muffleable p e
  used : e'.used = e.used
  registries : e'.registries = e.registries
  waiting : e'.waiting u = e.waiting u ++ leftOf p ds
  others : (e'.withoutWaiting u).backlogs = (e.withoutWaiting u).backlogs

/-- Before the unit has directives, what passes the screen is held in order. -/
theorem reportAll_held (hp : p.defers = true) {ds : List Diagnostic}
    (hds : ∀ d ∈ ds, d.unit = u ∧ ∃ m, d.message = .str m) (e : Engine)
    (hfresh : e.findRegistry u = none) :
    ∃ e', (reportAll p ds).on e = (.ok (ds.map fun d => (p.screen d).getD .deferred), e') ∧
      Held p u ds e e' := by
  induction ds generalizing e with
  | nil => exact ⟨e, rfl, rfl, rfl, rfl, (List.append_nil _).symm, rfl⟩
  | cons d ds ih =>
    obtain ⟨hu, m, hm⟩ := hds d List.mem_cons_self
    have hrest := ih fun x hx => hds x (List.mem_cons_of_mem _ hx)
    cases hs : p.screen d with
    | some o =>
      obtain ⟨e₁, hd, haside⟩ := report_screened hm hs e
      have hfresh₁ : e₁.findRegistry u = none := by
        rw [findRegistry, haside.registries]
        exact hfresh
      obtain ⟨e₂, hon, hheld⟩ := hrest e₁ hfresh₁
      refine ⟨e₂, ?_, hheld.sink.trans haside.sink, hheld.used.trans haside.used,
        hheld.registries.trans haside.registries, ?_, ?_⟩
      · rw [reportAll, on_bind_of_ok hd, on_bind_of_ok hon, List.map_cons, hs]
        rfl
      · rw [hheld.waiting, waiting_congr haside.backlogs, leftOf_cons_some hs]
      · rw [hheld.others, withoutWaiting, haside.backlogs]
        rfl
    | none =>
      -- without a registry it waits
      obtain ⟨-, hreport⟩ := report_left hm hs
      have hd : (report p d).on e = (.ok .deferred, e.withWaiting d) := by
        rw [hreport, reportUnfiltered_eq, hu, hfresh, hp]
        rfl
      obtain ⟨e₂, hon, hheld⟩ := hrest (e.withWaiting d) hfresh
      have hwaiting := waiting_withWaiting e d d.unit
      rw [if_pos rfl] at hwaiting
      have hothers := withoutWaiting_withWaiting e d
      rw [hu] at hwaiting hothers
      refine ⟨e₂, ?_, hheld.sink, hheld.used, hheld.registries, ?_, hheld.others.trans hothers⟩
      · rw [reportAll, on_bind_of_ok hd, on_bind_of_ok hon, List.map_cons, hs]
        rfl
      · rw [hheld.waiting, hwaiting, leftOf_cons_none hs, List.append_assoc, List.singleton_append]

/-! ## Reports by directives -/

/-- The engine after reports by a registry: what the screening left is decided. -/
structure Decided (p : Policy) (g : Registry) (ds : List Diagnostic) (e e' : Engine) : Prop where
  sink : muffleable p e' = muffleable p e ++ (leftOf p ds).filter (passes (some g))
  used : e'.used = e.used ++ ((leftOf p ds).filterMap (claimant (some g))).map (·.id)
  registries : e'.registries = e.registries
  backlogs : e'.backlogs = e.backlogs

/-- Once the unit has directives, all is decided at once. -/
theorem reportAll_decided (p : Policy) {g : Registry} {ds : List Diagnostic}
    (hds : ∀ d ∈ ds, d.unit = u ∧ ∃ m, d.message = .str m)
    (hl : ∀ d ∈ ds, (lookup (some g) d).isOk) (e : Engine) (hg : e.findRegistry u = some g)
    (hw : e.isWaiting u = false) :
    ∃ e', (reportAll p ds).on e = (.ok (ds.map (outcomeBy p g)), e') ∧ Decided p g ds e e' := by
  induction ds generalizing e with
  | nil => exact ⟨e, rfl, (List.append_nil _).symm, (List.append_nil _).symm, rfl, rfl⟩
  | cons d ds ih =>
    obtain ⟨hu, m, hm⟩ := hds d List.mem_cons_self
    have hrest := ih (fun x hx => hds x (List.mem_cons_of_mem _ hx))
      fun x hx => hl x (List.mem_cons_of_mem _ hx)
    -- a report leaves registries and backlogs as they are, so the next one is decided too
    have hstep : ∀ e₁, e₁.registries = e.registries → e₁.backlogs = e.backlogs →
        ∃ e₂, (reportAll p ds).on e₁ = (.ok (ds.map (outcomeBy p g)), e₂) ∧
          Decided p g ds e₁ e₂ := by
      intro e₁ hr hb
      refine hrest e₁ ?_ ((isWaiting_congr hb u).trans hw)
      rw [findRegistry, hr]
      exact hg
    cases hs : p.screen d with
    | some o =>
      obtain ⟨e₁, hd, haside⟩ := report_screened hm hs e
      obtain ⟨e₂, hon, hdec⟩ := hstep e₁ haside.registries haside.backlogs
      refine ⟨e₂, ?_, ?_, ?_, hdec.registries.trans haside.registries,
        hdec.backlogs.trans haside.backlogs⟩
      · rw [reportAll, on_bind_of_ok hd, on_bind_of_ok hon, List.map_cons, outcomeBy, hs]
        rfl
      · rw [hdec.sink, haside.sink, leftOf_cons_some hs]
      · rw [hdec.used, haside.used, leftOf_cons_some hs]
    | none =>
      -- with a registry and nothing that waits, the lookup decides
      obtain ⟨hmuffle, hreport⟩ := report_left hm hs
      obtain ⟨e₁, hrelease, hsettled⟩ := release_on e (hl d List.mem_cons_self)
      have hd : (report p d).on e = (.ok (verdict (some g) d), e₁) := by
        rw [hreport, reportUnfiltered_eq, hu, hg, hw, ← hrelease]
        simp
      obtain ⟨e₂, hon, hdec⟩ := hstep e₁ hsettled.registries hsettled.backlogs
      refine ⟨e₂, ?_, ?_, ?_, hdec.registries.trans hsettled.registries,
        hdec.backlogs.trans hsettled.backlogs⟩
      · rw [reportAll, on_bind_of_ok hd, on_bind_of_ok hon, List.map_cons, outcomeBy, hs]
        rfl
      · rw [hdec.sink, muffleable, hsettled.sink, List.filter_append, leftOf_cons_none hs,
          List.append_assoc]
        cases hpass : passes (some g) d <;> simp [muffleable, hpass, hmuffle]
      · rw [hdec.used, hsettled.used, leftOf_cons_none hs, List.append_assoc, ← List.map_append,
          ← List.filterMap_append, List.singleton_append]

/-! ## Transparency -/

theorem withoutWaiting_of_idle (h : e.isWaiting u = false) :
    (e.withoutWaiting u).backlogs = e.backlogs := by
  rw [withoutWaiting, List.filter_eq_self]
  intro b hb
  have hne := List.any_eq_false.mp h b hb
  simpa using hne

theorem waiting_of_idle (h : e.isWaiting u = false) : e.waiting u = [] := by
  have hnone : (e.backlogs.find? fun b => b.unit == u) = none := by
    rw [List.find?_eq_none]
    exact List.any_eq_false.mp h
  rw [waiting, hnone]
  rfl

/-- The engine in the end, in either order: the registry `g` has decided what the screening left,
    and nothing waits that did not wait before. -/
structure Completed (p : Policy) (u : SourceUnit) (g : Registry) (ds : List Diagnostic)
    (e e' : Engine) : Prop where
  find : ∀ v, e'.findRegistry v = if v = u then some g else e.findRegistry v
  used : e'.used = e.used ++ ((leftOf p ds).filterMap (claimant (some g))).map (·.id)
  sink : muffleable p e' = muffleable p e ++ (leftOf p ds).filter (passes (some g))
  backlogs : e'.backlogs = e.backlogs

section Orders

variable {g : Registry} {ds : List Diagnostic} {ss : List Directive}

/-- Only what may be muffled is left to the directives. -/
theorem mayMuffle_of_mem_leftOf (hds : ∀ d ∈ ds, d.unit = u ∧ ∃ m, d.message = .str m)
    (h : d ∈ leftOf p ds) : p.mayMuffle d.severity = true := by
  obtain ⟨hmem, hscreen⟩ := List.mem_filter.mp h
  obtain ⟨-, m, hm⟩ := hds d hmem
  exact (report_left hm (Option.isNone_iff_eq_none.mp hscreen)).1

/-- What the screening leaves waits, and the replay decides it. -/
theorem reportThenSet_on (hp : p.defers = true) (hfresh : e.findRegistry u = none)
    (hidle : e.isWaiting u = false) (hds : ∀ d ∈ ds, d.unit = u ∧ ∃ m, d.message = .str m)
    (hg : ({ unit := u } : Registry).registerAll ss = .ok g)
    (hw : ∀ s ∈ ss, s.range.isWritable = true) (hl : ∀ d ∈ ds, (lookup (some g) d).isOk) :
    ∃ e', (reportThenSet p u ds ss).on e = (.ok (ds.map (outcomeBy p g)), e') ∧
      Completed p u g ds e e' := by
  obtain ⟨e₁, hreport, hheld⟩ := reportAll_held hp hds e hfresh
  have hfind : ∀ v, e₁.findRegistry v = e.findRegistry v := by
    intro v
    rw [findRegistry, hheld.registries, findRegistry]
  have hwaiting : e₁.waiting u = leftOf p ds := by
    rw [hheld.waiting, waiting_of_idle hidle, List.nil_append]
  have hg₁ : (e₁.registryD u).registerAll ss = .ok g := by
    rw [registryD_of_none ((hfind u).trans hfresh), hg]
  obtain ⟨e₂, hset, hreplayed⟩ := setDirectives_on hg₁ hw fun d hd =>
    hl d (List.mem_of_mem_filter (hwaiting ▸ hd))
  rw [hwaiting] at hset
  refine ⟨e₂, ?_, fun v => ?_, ?_, ?_, ?_⟩
  · rw [reportThenSet, on_bind_of_ok hreport, on_bind_of_ok hset, finalOutcomes_screen]
    rfl
  · rw [hreplayed.find, hfind]
  · rw [hreplayed.used, hheld.used, hwaiting]
  · -- only diagnostics that may be muffled waited, so all that pass count
    have hpassed : ((leftOf p ds).filter (passes (some g))).filter
        (fun d => p.mayMuffle d.severity) = (leftOf p ds).filter (passes (some g)) :=
      List.filter_eq_self.mpr fun d hd =>
        mayMuffle_of_mem_leftOf hds (List.mem_of_mem_filter hd)
    rw [muffleable, hreplayed.sink, hwaiting, List.filter_append, hpassed]
    exact congrArg (· ++ _) hheld.sink
  · rw [hreplayed.backlogs, hheld.others, withoutWaiting_of_idle hidle]

/-- With the directives set, the reports are decided at once. -/
theorem setThenReport_on (p : Policy) (hfresh : e.findRegistry u = none)
    (hidle : e.isWaiting u = false) (hds : ∀ d ∈ ds, d.unit = u ∧ ∃ m, d.message = .str m)
    (hg : ({ unit := u } : Registry).registerAll ss = .ok g)
    (hw : ∀ s ∈ ss, s.range.isWritable = true) (hl : ∀ d ∈ ds, (lookup (some g) d).isOk) :
    ∃ e', (setThenReport p u ds ss).on e = (.ok (ds.map (outcomeBy p g)), e') ∧
      Completed p u g ds e e' := by
  have hnil := waiting_of_idle hidle
  have hg₀ : (e.registryD u).registerAll ss = .ok g := by rw [registryD_of_none hfresh, hg]
  have hnone : ∀ d ∈ e.waiting u, (lookup (some g) d).isOk := hnil ▸ nofun
  obtain ⟨e₁, hset, hreplayed⟩ := setDirectives_on hg₀ hw hnone
  have hbacklogs : e₁.backlogs = e.backlogs := by
    rw [hreplayed.backlogs, withoutWaiting_of_idle hidle]
  have hfound : e₁.findRegistry u = some g := by rw [hreplayed.find, if_pos rfl]
  have hidle₁ : e₁.isWaiting u = false := (isWaiting_congr hbacklogs u).trans hidle
  obtain ⟨e₂, hreport, hdec⟩ := reportAll_decided p hds hl e₁ hfound hidle₁
  refine ⟨e₂, ?_, fun v => ?_, ?_, ?_, hdec.backlogs.trans hbacklogs⟩
  · rw [setThenReport, on_bind_of_ok hset, hreport]
  · rw [findRegistry, hdec.registries]
    exact hreplayed.find v
  · -- the replay had nothing to decide
    have hused : e₁.used = e.used := by
      rw [hreplayed.used, hnil]
      exact List.append_nil _
    rw [hdec.used, hused]
  · have hsink : e₁.sink = e.sink := by
      rw [hreplayed.sink, hnil]
      exact List.append_nil _
    rw [hdec.sink, muffleable, hsink, muffleable]

/-- Where a registration fails, neither order gets beyond it. -/
theorem orders_on_error {f : Fault} (hp : p.defers = true) (hfresh : e.findRegistry u = none)
    (hds : ∀ d ∈ ds, d.unit = u ∧ ∃ m, d.message = .str m)
    (h : ({ unit := u } : Registry).enterAll ss = .error f) :
    ∃ e₁ e₂, (reportThenSet p u ds ss).on e = (.error f, e₁) ∧
      (setThenReport p u ds ss).on e = (.error f, e₂) ∧ e₁.used = e₂.used ∧
      (∀ v, e₁.findRegistry v = e₂.findRegistry v) ∧ muffleable p e₁ = muffleable p e₂ := by
  obtain ⟨g₁, hfails⟩ := setDirectives_on_error h
  obtain ⟨e₀, hreport, hheld⟩ := reportAll_held hp hds e hfresh
  have hfind := findRegistry_congr hheld.registries
  -- in both orders the registration fails on an empty registry
  obtain ⟨e₁, hset₁, h₁⟩ := hfails e₀ (registryD_of_none ((hfind u).trans hfresh))
  obtain ⟨e₂, hset₂, h₂⟩ := hfails e (registryD_of_none hfresh)
  refine ⟨e₁, e₂, ?_, ?_, ?_, fun v => ?_, ?_⟩
  · rw [reportThenSet, on_bind_of_ok hreport, on_bind, hset₁]
  · rw [setThenReport, on_bind, hset₂]
  · rw [h₁.used, h₂.used, hheld.used]
  · rw [h₁.find, h₂.find, hfind]
  · rw [muffleable, h₁.sink, muffleable, h₂.sink]
    exact hheld.sink

/-- A lookup with a position of the right kind and a text succeeds. -/
theorem lookup_isOk (hg : g.OfKind k) (hpos : k.HasOrNull d.position) {m : String}
    (hm : d.message = .str m) : (lookup (some g) d).isOk := by
  rw [lookup, hm, Registry.find?_eq hg hpos]
  rfl

/-- For a unit without a registry, whose diagnostics wait, it makes no difference whether they
    are reported before or after its directives are set. A directive whose range cannot be written
    ends the registrations, in either order at the same one. -/
theorem reportThenSet_agrees (hp : p.defers = true) (hfresh : e.findRegistry u = none)
    (hidle : e.isWaiting u = false)
    (hds : ∀ d ∈ ds, d.unit = u ∧ k.HasOrNull d.position ∧ ∃ m, d.message = .str m)
    (hss : ∀ s ∈ ss, s.range.OfKind k) :
    ((∀ s ∈ ss, s.range.isWritable = true) →
      ∃ os e₁ e₂, (reportThenSet p u ds ss).on e = (.ok os, e₁) ∧
        (setThenReport p u ds ss).on e = (.ok os, e₂) ∧ .deferred ∉ os ∧
        e₁.used = e₂.used ∧ (∀ v, e₁.findRegistry v = e₂.findRegistry v) ∧
        muffleable p e₁ = muffleable p e₂ ∧ e₁.backlogs = e.backlogs ∧
        e₂.backlogs = e.backlogs) ∧
    ((∃ s ∈ ss, s.range.isWritable = false) →
      ∃ e₁ e₂, (reportThenSet p u ds ss).on e = (.error (.tooManyDigits 0), e₁) ∧
        (setThenReport p u ds ss).on e = (.error (.tooManyDigits 0), e₂) ∧ e₁.used = e₂.used ∧
        (∀ v, e₁.findRegistry v = e₂.findRegistry v) ∧ muffleable p e₁ = muffleable p e₂) := by
  -- both orders end with this registry
  let g : Registry := ⟨u, Registry.stored [] ss⟩
  have hg : ({ unit := u } : Registry).registerAll ss = .ok g :=
    Registry.registerAll_eq (fun _ hd => absurd hd List.not_mem_nil) hss
  have hkind : g.OfKind k := fun s hs => hss s ((Registry.stored_perm [] ss).mem_iff.mp hs)
  have hl : ∀ d ∈ ds, (lookup (some g) d).isOk := by
    intro d hd
    obtain ⟨-, hpos, m, hm⟩ := hds d hd
    exact lookup_isOk hkind hpos hm
  have hmessages : ∀ d ∈ ds, d.unit = u ∧ ∃ m, d.message = .str m := by
    intro d hd
    obtain ⟨hu, -, hm⟩ := hds d hd
    exact ⟨hu, hm⟩
  refine ⟨fun hw => ?_, fun hw =>
    orders_on_error hp hfresh hmessages (Registry.enterAll_unwritable hg hw)⟩
  -- both orders end in a state that is described by the outcomes alone
  obtain ⟨e₁, hon₁, h₁⟩ := reportThenSet_on hp hfresh hidle hmessages hg hw hl
  obtain ⟨e₂, hon₂, h₂⟩ := setThenReport_on p hfresh hidle hmessages hg hw hl
  have hfinal : .deferred ∉ ds.map (outcomeBy p g) := by
    intro hmem
    obtain ⟨d, -, hd⟩ := List.mem_map.mp hmem
    exact outcomeBy_ne_deferred p g d hd
  refine ⟨ds.map (outcomeBy p g), e₁, e₂, hon₁, hon₂, hfinal, ?_, fun v => ?_, ?_, h₁.backlogs,
    h₂.backlogs⟩
  · rw [h₁.used, h₂.used]
  · rw [h₁.find, h₂.find]
  · rw [h₁.sink, h₂.sink]

end Orders

/-- The two orders agree but for the place of an exempt diagnostic in the sink. -/
theorem reportThenSet_agrees_exempt :
    let p := Policy.deferring [.info, .warning]
    let inside := Diagnostic.warningAt ⟨"u"⟩ 5 "x"
    let outside := Diagnostic.warningAt ⟨"u"⟩ 50 "y"
    let exempt : Diagnostic := ⟨⟨"u"⟩, .null, .error, .str "z"⟩
    let ds := [inside, outside, exempt]
    let ss := [Directive.atOffsets 0 0 10]
    (∀ d ∈ ds, d.unit = ⟨"u"⟩ ∧ PositionKind.offset.HasOrNull d.position ∧
      ∃ m, d.message = .str m) ∧ (∀ s ∈ ss, s.range.OfKind .offset) ∧
      (∀ s ∈ ss, s.range.isWritable = true) ∧
      ∃ os e₁ e₂, (reportThenSet p ⟨"u"⟩ ds ss).on {} = (.ok os, e₁) ∧
        (setThenReport p ⟨"u"⟩ ds ss).on {} = (.ok os, e₂) ∧ .deferred ∉ os ∧
        e₁.used = [0] ∧ e₂.used = [0] ∧
        e₁.sink = [exempt, outside] ∧ e₂.sink = [outside, exempt] := by
  intro p inside outside exempt ds ss
  have hds : ∀ d ∈ ds, d.unit = ⟨"u"⟩ ∧ PositionKind.offset.HasOrNull d.position ∧
      ∃ m, d.message = .str m := by
    simp [ds, inside, outside, exempt, Diagnostic.warningAt, PositionKind.HasOrNull,
      PositionKind.Has, Value.integer?]
  have hss : ∀ s ∈ ss, s.range.OfKind .offset := by
    simp [ss, Directive.atOffsets, SourceRange.OfKind, PositionKind.Has, Value.integer?]
  have hwritable : ∀ s ∈ ss, s.range.isWritable = true := List.forall_mem_singleton.mpr rfl
  obtain ⟨hagree, -⟩ :=
    reportThenSet_agrees (p := p) (u := ⟨"u"⟩) (e := {}) rfl rfl rfl hds hss
  obtain ⟨os, e₁, e₂, hon₁, hon₂, hfinal, hused, -⟩ := hagree hwritable
  have hstate₁ : ((reportThenSet p ⟨"u"⟩ ds ss).on {}).2 = e₁ := by rw [hon₁]
  have hstate₂ : ((setThenReport p ⟨"u"⟩ ds ss).on {}).2 = e₂ := by rw [hon₂]
  have hused₁ : e₁.used = [0] := by
    rw [← hstate₁]
    rfl
  refine ⟨hds, hss, hwritable, os, e₁, e₂, hon₁, hon₂, hfinal, hused₁, hused ▸ hused₁, ?_, ?_⟩
  · rw [← hstate₁]
    rfl
  · rw [← hstate₂]
    rfl

end Engine

end Muffle
