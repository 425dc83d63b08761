/-
  Muffle.Proofs.Engine.Interruption

  What a failure leaves behind. A call that decides what waits first takes the whole backlog of the
  unit and then decides it one by one, so a lookup that fails in between takes with it the
  diagnostic it failed on and all that stand behind it: they are neither decided nor waiting.
  Registration comes before the backlog is taken; if it fails, everything still waits.

  The lemmas follow a failing computation to the step that failed, as those of `Effect` follow one
  that succeeds.
-/

import Muffle.Proofs.Engine.Step
import Muffle.Proofs.Identical

namespace Muffle.Engine

variable {u : SourceUnit} {f : Fault} {e e' : Engine} {ds : List Diagnostic}

/-- A sequence of two steps fails exactly if the first fails, or the second after the first. -/
theorem on_bind_eq_error_iff {α β : Type} {x : Run α} {k : α → Run β} :
    (x >>= k).on e = (.error f, e') ↔
      x.on e = (.error f, e') ∨ ∃ a e₁, x.on e = (.ok a, e₁) ∧ (k a).on e₁ = (.error f, e') := by
  rw [on_bind]
  rcases x.on e with ⟨f₁ | a, e₁⟩
  · simp
  · refine ⟨fun h => .inr ⟨a, e₁, rfl, h⟩, fun h => ?_⟩
    rcases h with h | ⟨_, _, heq, h⟩
    · cases h
    · cases heq
      exact h

/-! ## Decisions that fail -/

/-- Of some diagnostics those before `bad` were decided, and the lookup for `bad` failed. -/
inductive CutOff (g : Option Registry) (f : Fault) (ds : List Diagnostic) (e e' : Engine) : Prop
  | intro (decided : List Diagnostic) (bad : Diagnostic) (lost : List Diagnostic)
      (hds : ds = decided ++ bad :: lost) (hbad : lookup g bad = .error f)
      (hs : Settled g decided e e')

/-- A failed release leaves the engine as it was. -/
theorem release_error {g : Option Registry} {d : Diagnostic}
    (h : (release g d).on e = (.error f, e')) : lookup g d = .error f ∧ e' = e := by
  cases hl : lookup g d with
  | error f₁ =>
    rw [release_on_error e hl] at h
    cases h
    exact ⟨rfl, rfl⟩
  | ok c =>
    obtain ⟨e₁, hon, -⟩ := release_on e (by rw [hl]; rfl)
    rw [hon] at h
    cases h

/-- A replay that fails at its first diagnostic loses all of them. -/
theorem CutOff.head {g : Option Registry} {d : Diagnostic}
    (h : (release g d).on e = (.error f, e')) : CutOff g f (d :: ds) e e' := by
  obtain ⟨hl, rfl⟩ := release_error h
  exact .intro [] d ds rfl hl (.nil g _)

/-- One that fails later has decided those before. -/
theorem CutOff.tail {g : Option Registry} {d : Diagnostic} {o : Outcome} {e₁ : Engine}
    (hd : (release g d).on e = (.ok o, e₁)) (h : CutOff g f ds e₁ e') :
    CutOff g f (d :: ds) e e' := by
  obtain ⟨-, hs⟩ := release_ok hd
  obtain ⟨decided, bad, lost, rfl, hbad, hs'⟩ := h
  exact .intro (d :: decided) bad lost rfl hbad (hs.cons hs')

theorem releaseEach_error {g : Option Registry} (h : (releaseEach g ds).on e = (.error f, e')) :
    CutOff g f ds e e' := by
  induction ds generalizing e with
  | nil => cases h
  | cons d ds ih =>
    rcases on_bind_eq_error_iff.mp h with hd | ⟨o, e₁, hd, h⟩
    · exact .head hd
    · rcases on_bind_eq_error_iff.mp h with hds | ⟨_, _, _, h⟩
      · exact .tail hd (ih hds)
      · cases h

theorem decideAll_error {g : Registry} (h : (decideAll g ds).on e = (.error f, e')) :
    CutOff (some g) f ds e e' := by
  rw [decideAll_eq] at h
  exact releaseEach_error h

theorem releaseAll_error {g : Option Registry} (h : (releaseAll g ds).on e = (.error f, e')) :
    CutOff g f ds e e' := by
  rw [releaseAll_eq] at h
  rcases hon : (releaseEach g ds).on e with ⟨f₁ | os, e₁⟩
  · rw [hon] at h
    cases h
    exact releaseEach_error hon
  · rw [hon] at h
    cases h

/-! ## Registrations that fail -/

/-- What waits, what is of use and what the sink received is as before. -/
structure Untouched (e e' : Engine) : Prop where
  backlogs : e'.backlogs = e.backlogs
  used : e'.used = e.used
  sink : e'.sink = e.sink

theorem Untouched.trans {e'' : Engine} (h : Untouched e e') (h' : Untouched e' e'') :
    Untouched e e'' :=
  ⟨h'.backlogs.trans h.backlogs, h'.used.trans h.used, h'.sink.trans h.sink⟩

theorem Stored.untouched {g : Registry} (h : Stored u g e e') : Untouched e e' :=
  ⟨h.backlogs, h.used, h.sink⟩

/-- Nothing has vanished: of what waited for the unit a first part is decided by the directives
    that the unit has now, and the rest still waits. -/
def NothingLost (u : SourceUnit) (e e' : Engine) : Prop :=
  ∃ decided left, e.waiting u = decided ++ left ∧
    (∀ d ∈ decided, (lookup (e'.findRegistry u) d).isOk) ∧
    e'.sink = e.sink ++ decided.filter (passes (e'.findRegistry u)) ∧
    e'.used = e.used ++ (decided.filterMap (claimant (e'.findRegistry u))).map (·.id) ∧
    e'.waiting u = left

/-- The call was interrupted: of what waited for the unit a first part is decided, the next
    diagnostic could not be looked up, and neither it nor what stood behind it is anywhere. -/
structure Interrupted (u : SourceUnit) (f : Fault) (decided : List Diagnostic) (bad : Diagnostic)
    (lost : List Diagnostic) (e e' : Engine) : Prop where
  waited : e.waiting u = decided ++ bad :: lost
  found : ∀ d ∈ decided, (lookup (e'.findRegistry u) d).isOk
  failed : lookup (e'.findRegistry u) bad = .error f
  sink : e'.sink = e.sink ++ decided.filter (passes (e'.findRegistry u))
  used : e'.used = e.used ++ (decided.filterMap (claimant (e'.findRegistry u))).map (·.id)
  waiting : ∀ v, e'.waiting v = if v = u then [] else e.waiting v

theorem Untouched.nothingLost (h : Untouched e e') (u : SourceUnit) : NothingLost u e e' := by
  refine ⟨[], e.waiting u, rfl, nofun, ?_, ?_, waiting_congr h.backlogs u⟩
  · rw [h.sink]
    exact (List.append_nil _).symm
  · rw [h.used]
    exact (List.append_nil _).symm

/-- A diagnostic reached the sink, or it still waits, or a directive of use of its unit applies to
    it. -/
def Survives (e : Engine) (d : Diagnostic) : Prop :=
  d ∈ e.sink ∨ d ∈ e.waiting d.unit ∨
    ∃ s ∈ (e.registryD d.unit).directives,
      e.isUsed s = true ∧ s.appliesTo d.position d.message = .ok true

/-- A waiting diagnostic of which nothing was lost still waits, was sent or suppressed. -/
theorem NothingLost.survives (h : NothingLost u e e') {d : Diagnostic} (hd : d ∈ e.waiting u)
    (hu : d.unit = u) : Survives e' d := by
  obtain ⟨decided, left, hwaited, -, hsink, hused, hleft⟩ := h
  rw [hwaited] at hd
  rcases List.mem_append.mp hd with hd | hd
  · cases hc : claimant (e'.findRegistry u) d with
    | none =>
      refine .inl (hsink ▸ List.mem_append_right _ (List.mem_filter.mpr ⟨hd, ?_⟩))
      rw [passes, hc]
      rfl
    | some s =>
      have hfirst := (claimant_findRegistry_eq_some_iff e' u).mp hc
      refine .inr (.inr ⟨s, hu ▸ hfirst.mem, ?_, hfirst.applies⟩)
      rw [isUsed_iff, hused, List.mem_append]
      exact .inr (List.mem_map_of_mem (List.mem_filterMap.mpr ⟨d, hd, hc⟩))
  · refine .inr (.inl ?_)
    rw [hu, hleft]
    exact hd

/-- An interrupted replay always loses the diagnostic at which it failed. -/
theorem Interrupted.not_nothingLost {decided lost : List Diagnostic} {bad : Diagnostic}
    (h : Interrupted u f decided bad lost e e') : ¬ NothingLost u e e' := by
  rintro ⟨decided', left, hwaited, hfound, -, -, hleft⟩
  -- nothing waits, so all that waited would have to be decided, also what failed
  rw [h.waiting, if_pos rfl] at hleft
  rw [← hleft, List.append_nil, h.waited] at hwaited
  have hbad := hfound bad (hwaited ▸ List.mem_append_right _ List.mem_cons_self)
  simp [h.failed, Except.isOk, Except.toBool] at hbad

/-- The backlog is gone before the replay begins, and this is what makes the loss. -/
theorem CutOff.interrupted {g : Option Registry} {e₁ : Engine}
    (h : CutOff g f (e.waiting u) e₁ e') (hg : e₁.findRegistry u = g)
    (hb : e₁.backlogs = (e.withoutWaiting u).backlogs) (hu : e₁.used = e.used)
    (hs : e₁.sink = e.sink) : ∃ decided bad lost, Interrupted u f decided bad lost e e' := by
  obtain ⟨decided, bad, lost, hwaited, hbad, hsettled⟩ := h
  rw [← hg, ← findRegistry_congr hsettled.registries u] at hbad hsettled
  refine ⟨decided, bad, lost, hwaited, hsettled.found, hbad, ?_, ?_, fun v => ?_⟩
  · rw [hsettled.sink, hs]
  · rw [hsettled.used, hu]
  · rw [waiting_congr (hsettled.backlogs.trans hb), waiting_withoutWaiting]

/-- To set directives fails before the replay, with nothing lost, or in it. -/
theorem setDirectives_error {ss : List Directive}
    (h : (setDirectives u ss).on e = (.error f, e')) :
    (e.registryD u).enterAll ss = .error f ∧ NothingLost u e e' ∨
      (∃ g, (e.registryD u).enterAll ss = .ok g) ∧
        ∃ decided bad lost, Interrupted u f decided bad lost e e' := by
  cases henter : (e.registryD u).enterAll ss with
  | error f₁ =>
    -- the backlog was not taken yet
    obtain ⟨g₁, hfails⟩ := setDirectives_on_error henter
    obtain ⟨e₁, hon, hstored⟩ := hfails e rfl
    rw [hon] at h
    cases h
    exact .inl ⟨rfl, hstored.untouched.nothingLost u⟩
  | ok g =>
    obtain ⟨hg, hw⟩ := Registry.enterAll_eq_ok_iff.mp henter
    obtain ⟨e₁, hopen, hstored₁⟩ := openRegistry_on u e
    obtain ⟨e₂, hreg, hstored₂⟩ := registerAll_on hstored₁.find_self hg hw
    have hstored := hstored₁.trans hstored₂
    obtain ⟨ns, heq⟩ := setDirectives_eq hopen hreg hstored.find_self
    rw [heq, waiting_congr hstored.backlogs] at h
    have hcut := decideAll_error h
    refine .inr ⟨⟨g, rfl⟩, hcut.interrupted hstored.find_self ?_ hstored.used hstored.sink⟩
    show (e₂.withoutWaiting u).backlogs = _
    rw [withoutWaiting, hstored.backlogs]
    rfl

/-- A replay changes no registry, whether it comes to its end or not. -/
theorem decideAll_registries (g : Registry) (ds : List Diagnostic) (e : Engine) :
    ((decideAll g ds).on e).2.registries = e.registries := by
  rcases hon : (decideAll g ds).on e with ⟨f | os, e'⟩
  · obtain ⟨_, _, _, -, -, hsettled⟩ := decideAll_error hon
    exact hsettled.registries
  · exact (decideAll_ok hon).2.registries

/-- Directives that can be registered are registered, also where their replay fails. -/
theorem findRegistry_setDirectives {ss : List Directive} {g : Registry}
    (hg : (e.registryD u).registerAll ss = .ok g) (hw : ∀ s ∈ ss, s.range.isWritable = true) :
    ((setDirectives u ss).on e).2.findRegistry u = some g := by
  obtain ⟨e₁, hopen, hstored₁⟩ := openRegistry_on u e
  obtain ⟨e₂, hreg, hstored₂⟩ := registerAll_on hstored₁.find_self hg hw
  have hstored := hstored₁.trans hstored₂
  obtain ⟨ns, heq⟩ := setDirectives_eq hopen hreg hstored.find_self
  rw [heq, findRegistry_congr (decideAll_registries _ _ _)]
  exact hstored.find_self

/-- A flush fails only in its replay. -/
theorem flush_error (h : (flush u).on e = (.error f, e')) :
    ∃ decided bad lost, Interrupted u f decided bad lost e e' := by
  rw [flush_eq] at h
  exact (releaseAll_error h).interrupted rfl rfl rfl rfl

/-- A failure loses nothing exactly if it comes from a registration; then every diagnostic that
    waited survives. Where the directives of a unit could be registered, and in a release, it loses
    the diagnostic it failed on and all behind it. -/
theorem failure_loses_iff (u : SourceUnit) (ss : List Directive) (f : Fault) (e e' : Engine) :
    ((setDirectives u ss).on e = (.error f, e') →
      (NothingLost u e e' ↔ (e.registryD u).enterAll ss = .error f) ∧
      ((e.registryD u).enterAll ss = .error f →
        ∀ d ∈ e.waiting u, d.unit = u → Survives e' d) ∧
      ((∃ g, (e.registryD u).enterAll ss = .ok g) →
        ∃ decided bad lost, Interrupted u f decided bad lost e e')) ∧
    ((flush u).on e = (.error f, e') →
      ¬ NothingLost u e e' ∧ ∃ decided bad lost, Interrupted u f decided bad lost e e') := by
  refine ⟨fun h => ?_, fun h => ?_⟩
  -- the failure came before the replay, or out of it
  · rcases setDirectives_error h with ⟨hfailed, hkept⟩ | ⟨⟨g, hg⟩, decided, bad, lost, hcut⟩
    · refine ⟨iff_of_true hkept hfailed, fun _ d hd => hkept.survives hd, ?_⟩
      rintro ⟨g, hg⟩
      rw [hfailed] at hg
      cases hg
    · have hnot : (e.registryD u).enterAll ss ≠ .error f := by
        rw [hg]
        nofun
      exact ⟨iff_of_false hcut.not_nothingLost hnot, fun hfailed => absurd hfailed hnot,
        fun _ => ⟨decided, bad, lost, hcut⟩⟩
  · obtain ⟨decided, bad, lost, hcut⟩ := flush_error h
    exact ⟨hcut.not_nothingLost, decided, bad, lost, hcut⟩

/-- The first diagnostic is decided, the second has a position of another kind, and the third
    vanishes with it: in the replay as well as in the release after a single registration. -/
theorem failure_loses_third :
    let u : SourceUnit := ⟨"u"⟩
    let p : Policy := .deferring Severity.all
    let outside := Diagnostic.warningAt u 50 "x"
    let stray : Diagnostic := ⟨u, .tuple [.int 3, .int 1], .warning, .str "y"⟩
    let inside := Diagnostic.warningAt u 5 "z"
    let s := Directive.atOffsets 0 0 10
    let ops : List Operation := [.report outside, .report stray, .report inside]
    let e := ((performAll p ops).on {}).2
    let e₁ := ((performAll p (ops ++ [.register u s])).on {}).2
    e.waiting u = [outside, stray, inside] ∧ e₁.waiting u = [outside, stray, inside] ∧
      (∃ f e', (setDirectives u [s]).on e = (.error f, e') ∧ ¬ NothingLost u e e' ∧
        e'.sink = [outside] ∧ e'.used = [] ∧ e'.waiting u = []) ∧
      ∃ f e', (flush u).on e₁ = (.error f, e') ∧ ¬ NothingLost u e₁ e' ∧
        e'.sink = [outside] ∧ e'.used = [] ∧ e'.waiting u = [] := by
  intro u p outside stray inside s ops e e₁
  let f : Fault := .notOrdered .lessEq .int .tuple
  let replayed := (setDirectives u [s]).on e
  let released := (flush u).on e₁
  have hreplayed : replayed = (.error f, replayed.2) := Prod.ext rfl rfl
  have hreleased : released = (.error f, released.2) := Prod.ext rfl rfl
  have hg : (e.registryD u).enterAll [s] = .ok ⟨u, [s]⟩ := rfl
  obtain ⟨hiff, -⟩ := (failure_loses_iff u [s] f e replayed.2).1 hreplayed
  obtain ⟨hlost, -⟩ := (failure_loses_iff u [s] f e₁ released.2).2 hreleased
  have hlost' : ¬ NothingLost u e replayed.2 := by
    rw [hiff, hg]
    nofun
  have hwaits : e.waiting u = [outside, stray, inside] := by decide +kernel
  have hwaits₁ : e₁.waiting u = [outside, stray, inside] := by decide +kernel
  have hafter : replayed.2.sink = [outside] ∧ replayed.2.used = [] ∧
      replayed.2.waiting u = [] := by
    decide +kernel
  have hafter₁ : released.2.sink = [outside] ∧ released.2.used = [] ∧
      released.2.waiting u = [] := by
    decide +kernel
  exact ⟨hwaits, hwaits₁, ⟨f, replayed.2, hreplayed, hlost', hafter⟩, f, released.2, hreleased,
    hlost, hafter₁⟩

/-- A diagnostic that waits and cannot be looked up is nowhere after the replay, and neither is the
    one behind it. -/
theorem setDirectives_loses :
    let u : SourceUnit := ⟨"u"⟩
    let stray : Diagnostic := ⟨u, .tuple [.int 3, .int 1], .warning, .str "first"⟩
    let outside := Diagnostic.warningAt u 50 "second"
    let ops : List Operation := [.report stray, .report outside]
    let e := ((performAll (.deferring Severity.all) ops).on {}).2
    ∃ f e', (setDirectives u [.atOffsets 0 0 10]).on e = (.error f, e') ∧
      e.waiting u = [stray, outside] ∧ ¬ Survives e' stray ∧ ¬ Survives e' outside := by
  intro u stray outside ops e
  let replayed := (setDirectives u [.atOffsets 0 0 10]).on e
  have hreplayed : replayed = (.error (.notOrdered .lessEq .int .tuple), replayed.2) :=
    Prod.ext rfl rfl
  have hsink : replayed.2.sink = [] := rfl
  have hused : replayed.2.used = [] := rfl
  have hwaiting : replayed.2.waiting u = [] := rfl
  -- there are three places to look, and all of them are empty
  have hnowhere : ∀ d, d.unit = u → ¬ Survives replayed.2 d := by
    rintro d hd (h | h | ⟨s, -, h, -⟩)
    · rw [hsink] at h
      cases h
    · rw [hd, hwaiting] at h
      cases h
    · rw [isUsed_iff, hused] at h
      cases h
  exact ⟨_, replayed.2, hreplayed, rfl, hnowhere stray rfl, hnowhere outside rfl⟩

end Muffle.Engine
