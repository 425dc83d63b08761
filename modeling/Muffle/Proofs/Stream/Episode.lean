/-
  Muffle.Proofs.Stream.Episode

  A recorded stream as a sequence of episodes, one for each entry: the directives that were
  collected, the registry of the unit with them, and how each diagnostic was decided. At the
  boundary of two entries nothing waits, whatever the policy says about deferral, so an episode
  depends on the earlier ones through the registries and the number of directives only. The
  transcript of the episodes is what the sink receives, each entry with the reason why it is there.
-/

import Muffle.Proofs.Stream.Collection

namespace Muffle.Stream

/-! ## Decisions -/

/-- How a diagnostic of a unit for which nothing waits is decided. -/
inductive Ruling where
  | forwarded
  /-- By a filter. -/
  | filtered
  /-- By a directive. -/
  | claimed (s : Directive)

namespace Ruling

/-- What becomes of the diagnostic. -/
def outcome : Ruling → Outcome
  | .forwarded => .forwarded
  | .filtered | .claimed _ => .suppressed

/-- The directive that is of use, if any. -/
def claimant? : Ruling → Option Directive
  | .claimed s => some s
  | .forwarded | .filtered => none

end Ruling

/-- The decision about a diagnostic of a unit with the registry `g`. -/
def rule (p : Policy) (g : Registry) (d : Diagnostic) : Except Fault Ruling :=
  if p.mayMuffle d.severity then do
    match ← p.filteredBy? d with
    | some _ => return .filtered
    | none => return ((← g.find? d.position d.message).map Ruling.claimed).getD .forwarded
  else return .forwarded

/-- A diagnostic and how it was decided. -/
structure Decision where
  diagnostic : Diagnostic
  ruling : Ruling

/-- The diagnostics that were forwarded. -/
def forwarded (ds : List Decision) : List Diagnostic :=
  (ds.filter fun d => d.ruling.outcome = .forwarded).map (·.diagnostic)

/-- The directives that claimed the others, by their numbers. -/
def claims (ds : List Decision) : List Nat :=
  (ds.filterMap (·.ruling.claimant?)).map (·.id)

/-- The counts with some more decisions. -/
def tally (counts : Counts) (ds : List Decision) : Counts :=
  ds.foldl (fun c d => c.add d.ruling.outcome) counts

/-- The engine after some decisions. -/
structure Ruled (ds : List Decision) (e e' : Engine) : Prop where
  registries : e'.registries = e.registries
  backlogs : e'.backlogs = e.backlogs
  used : e'.used = e.used ++ claims ds
  sink : e'.sink = e.sink ++ forwarded ds
  made : e'.made = e.made

theorem Ruled.nil (e : Engine) : Ruled [] e e :=
  ⟨rfl, rfl, (List.append_nil _).symm, (List.append_nil _).symm, rfl⟩

/-- Decisions add up, first one and then the rest. -/
theorem Ruled.cons {d : Decision} {ds : List Decision} {e e' e'' : Engine} (h : Ruled [d] e e')
    (h' : Ruled ds e' e'') : Ruled (d :: ds) e e'' where
  registries := h'.registries.trans h.registries
  backlogs := h'.backlogs.trans h.backlogs
  used := by
    rw [h'.used, h.used, List.append_assoc, claims, claims, ← List.map_append,
      ← List.filterMap_append]
    rfl
  sink := by
    rw [h'.sink, h.sink, List.append_assoc, forwarded, forwarded, ← List.map_append,
      ← List.filter_append]
    rfl
  made := h'.made.trans h.made

/-- With nothing waiting, a diagnostic is decided at once by the registry of its unit. -/
theorem reportUnfiltered_idle {p : Policy} {g : Registry} {d : Diagnostic} {e : Engine}
    (hidle : e.backlogs = []) (hg : e.findRegistry d.unit = some g) :
    (Engine.reportUnfiltered p d).on e = (Engine.release (some g) d).on e := by
  have hnot : e.isWaiting d.unit = false := by
    rw [Engine.isWaiting, hidle]
    rfl
  rw [Engine.reportUnfiltered_eq, hg, hnot]
  simp

/-- What a lookup finds is how the diagnostic is decided. -/
theorem ruled_of_settled {g : Registry} {d : Diagnostic} {c : Option Directive} {e e' : Engine}
    (hfound : g.find? d.position d.message = .ok c) (h : Engine.Settled (some g) [d] e e')
    (hmade : e'.made = e.made) :
    Ruled [⟨d, (c.map Ruling.claimed).getD .forwarded⟩] e e' := by
  have hclaim : Engine.claimant (some g) d = c := by
    rw [Engine.claimant, Engine.lookup, hfound]
  refine ⟨h.registries, h.backlogs, ?_, ?_, hmade⟩
  · rw [h.used, List.filterMap_cons, hclaim]
    cases c <;> rfl
  · rw [h.sink, List.filter_cons, Engine.passes, hclaim]
    cases c <;> rfl

/-- A diagnostic that is reported while nothing waits is treated as the rule says. -/
theorem report_follows {p : Policy} {g : Registry} {d : Diagnostic} {e : Engine}
    (hidle : e.backlogs = []) (hg : e.findRegistry d.unit = some g) :
    Follows ((Engine.report p d).on e) (rule p g d)
      fun r o e' => o = r.outcome ∧ Ruled [⟨d, r⟩] e e' := by
  have hmade := Engine.makesNone_report p d e
  unfold rule
  cases hm : p.mayMuffle d.severity with
  | false =>
    rw [Engine.report_exempt hm]
    exact ⟨_, _, rfl, rfl, rfl, rfl, (List.append_nil _).symm, rfl, rfl⟩
  | true =>
    cases hf : p.filteredBy? d with
    | error f => exact congrArg Prod.fst (Engine.report_failed hm hf e)
    | ok reason =>
      cases reason with
      | some reason =>
        rw [Engine.report_filtered hm hf]
        exact ⟨_, _, rfl, rfl, rfl, rfl, (List.append_nil _).symm, (List.append_nil _).symm, rfl⟩
      | none =>
        -- the unit has a registry and nothing waits, so it is not held, whatever the policy says
        have hrelease : (Engine.report p d).on e = (Engine.release (some g) d).on e :=
          (Engine.report_unfiltered hm hf e).trans (reportUnfiltered_idle hidle hg)
        rw [hrelease] at hmade ⊢
        simp only [if_true, ok_bind]
        cases hl : g.find? d.position d.message with
        | error f => exact congrArg Prod.fst (Engine.release_on_error e (g := some g) hl)
        | ok c =>
          have hok : (Engine.lookup (some g) d).isOk := by
            rw [Engine.lookup, hl]
            rfl
          obtain ⟨e', hon, hs⟩ := Engine.release_on e hok
          rw [hon] at hmade
          refine ⟨_, e', hon, ?_, ruled_of_settled hl hs hmade⟩
          rw [Engine.verdict, Engine.claimant, Engine.lookup, hl]
          cases c <;> rfl

/-- The decisions about recorded diagnostics of a unit with the registry `g`. -/
def ruleAll (p : Policy) (g : Registry) : List Value → Except Fault (List Decision)
  | [] => .ok []
  | diagnostic :: rest => do
    let d ← readDiagnostic g.unit diagnostic
    let r ← rule p g d
    return ⟨d, r⟩ :: (← ruleAll p g rest)

/-- A diagnostic belongs to the unit of its entry. -/
theorem readDiagnostic_unit {u : SourceUnit} {diagnostic : Value} {d : Diagnostic}
    (h : readDiagnostic u diagnostic = .ok d) : d.unit = u := by
  obtain ⟨_, -, h⟩ := bind_eq_ok_iff.mp h
  obtain ⟨_, -, h⟩ := bind_eq_ok_iff.mp h
  obtain ⟨_, -, h⟩ := bind_eq_ok_iff.mp h
  obtain ⟨_, -, h⟩ := bind_eq_ok_iff.mp h
  cases h
  rfl

/-- By induction on the diagnostics: each is ruled in turn and counted. -/
theorem interceptAll_follows {p : Policy} {g : Registry} {counts : Counts} {e : Engine}
    (hidle : e.backlogs = []) (hg : e.findRegistry g.unit = some g) (diagnostics : List Value) :
    Follows ((interceptAll p g.unit counts diagnostics).on e) (ruleAll p g diagnostics)
      fun ds counts' e' => counts' = tally counts ds ∧ Ruled ds e e' := by
  induction diagnostics generalizing counts e with
  | nil => exact ⟨counts, e, rfl, rfl, Ruled.nil e⟩
  | cons diagnostic rest ih =>
    unfold interceptAll ruleAll
    cases hd : readDiagnostic g.unit diagnostic with
    | error f => rfl
    | ok d =>
      refine Follows.bind_of_ok (a := d) rfl ?_
      have hreport := report_follows hidle (p := p) (readDiagnostic_unit hd ▸ hg)
      refine hreport.bind fun r o e' hr => ?_
      obtain ⟨rfl, hr⟩ := hr
      have hg' : e'.findRegistry g.unit = some g := Engine.findRegistry_congr hr.registries _ ▸ hg
      refine (ih (hr.backlogs.trans hidle) hg').bind_described fun ds counts' e'' hs => ?_
      exact ⟨hs.1, hr.cons hs.2⟩

/-! ## Episodes -/

/-- The entries of a recorded list, none if there is no list. -/
def recordedItems (data : Value) (name : String) : Except Fault (List Value) := do
  (← data.fieldD name (.list [])).parts

/-- What one entry of a stream comes to. -/
structure Episode where
  /-- The directives as they were collected. -/
  collector : Collector
  /-- The registry of the unit with them. -/
  registry : Registry
  decisions : List Decision

/-- Why something is in the sink. -/
inductive Entry where
  /-- The report of a pattern that is no pattern. -/
  | refused (u : SourceUnit) (p : InvalidPattern)
  /-- A diagnostic that was forwarded. -/
  | passed (d : Diagnostic)
  /-- The report of a directive without effect. -/
  | unused (u : SourceUnit) (s : Directive)

/-- What the sink receives. -/
def Entry.diagnostic : Entry → Diagnostic
  | .refused u p => Collector.invalidReport u p
  | .passed d => d
  | .unused u s => Engine.unusedReport u s

/-- Plays one entry of a stream, where the units have the registries `stored` and some directives
    were made. -/
def play [Pattern.Compiler] (p : Policy) (stored : SourceUnit → Registry) (made : Nat)
    (data : Value) :
    Except Fault Episode := do
  let u := SourceUnit.of (← data.field "path")
  let directives ← recordedItems data "directives"
  let (c, g) ← opening (stored u) made directives
  let diagnostics ← recordedItems data "diagnostics"
  return ⟨c, g, ← ruleAll p g diagnostics⟩

namespace Episode

/-- The unit of an episode. -/
def unit (ep : Episode) : SourceUnit := ep.collector.unit

/-- The directives that an episode registers. -/
def registered (ep : Episode) : List Directive := ep.collector.collected

/-- The registries after an episode. -/
def store (ep : Episode) (stored : SourceUnit → Registry) (v : SourceUnit) : Registry :=
  if v = ep.unit then ep.registry else stored v

/-- The directives of the unit that are reported at the end of an episode, where those `used`
    were of use before. -/
def unused (ep : Episode) (p : Policy) (used : List Nat) : List Directive :=
  if p.config.checkUnused.truthy then
    (ep.registry.unused (used ++ claims ep.decisions)).filter fun s => !p.exempt s
  else []

/-- What an episode adds to the sink. -/
def entries (ep : Episode) (p : Policy) (used : List Nat) : List Entry :=
  ep.collector.errors.map (.refused ep.unit) ++ (forwarded ep.decisions).map .passed ++
    (ep.unused p used).map (.unused ep.unit)

/-- What an episode sends is, in this order: reports of refused directives, diagnostics that pass,
    reports of unused directives. -/
theorem entries_diagnostics (ep : Episode) (p : Policy) (used : List Nat) :
    (ep.entries p used).map Entry.diagnostic =
      ep.collector.errors.map (Collector.invalidReport ep.unit) ++ forwarded ep.decisions ++
        (ep.unused p used).map (Engine.unusedReport ep.unit) := by
  have hpassed : Entry.diagnostic ∘ Entry.passed = id := rfl
  rw [entries, List.map_append, List.map_append, List.map_map, List.map_map, List.map_map, hpassed,
    List.map_id]
  rfl

end Episode

/-- The engine after an episode. -/
structure Aired (p : Policy) (ep : Episode) (e e' : Engine) : Prop where
  registries : e'.registryD = ep.store e.registryD
  backlogs : e'.backlogs = []
  used : e'.used = e.used ++ claims ep.decisions
  sink : e'.sink = e.sink ++ (ep.entries p e.used).map Entry.diagnostic
  made : e'.made = e.made + ep.registered.length

/-- A computation that does not touch the engine follows itself. -/
theorem follows_ofExcept {α : Type} (x : Except Fault α) (e : Engine) :
    Follows ((Engine.Run.ofExcept x).on e) x fun b a e' => a = b ∧ e' = e := by
  cases x with
  | error f => rfl
  | ok a => exact ⟨a, e, rfl, rfl, rfl⟩

/-- The report at the end of an entry concludes its episode. -/
theorem aired_of_reportUnused {p : Policy} {c : Collector} {g : Registry} {ds : List Decision}
    {e e₁ e₂ : Engine} (hidle : e.backlogs = []) (hopened : Opened c g e e₁)
    (hruled : Ruled ds e₁ e₂) : Aired p ⟨c, g, ds⟩ e ((Engine.reportUnused p c.unit).on e₂).2 := by
  have hused : e₂.used = e.used ++ claims ds := by rw [hruled.used, hopened.used]
  have hfind : ∀ v, e₂.findRegistry v = if v = c.unit then some g else e.findRegistry v :=
    fun v => (Engine.findRegistry_congr hruled.registries v).trans (hopened.find v)
  have hunused : Engine.unusedOf p e₂ c.unit = Episode.unused ⟨c, g, ds⟩ p e.used := by
    rw [Engine.unusedOf, hfind, if_pos rfl, Episode.unused, hused]
  rw [Engine.reportUnused_on, hunused]
  refine ⟨funext (Engine.registryD_of_find hfind), ?_, hused, ?_, ?_⟩
  · exact (hruled.backlogs.trans hopened.backlogs).trans hidle
  · show e₂.sink ++ _ = _
    rw [hruled.sink, hopened.sink, Episode.entries_diagnostics, List.append_assoc,
      List.append_assoc, List.append_assoc]
    rfl
  · exact hruled.made.trans hopened.made

/-- The step lemma: an entry of the stream plays its episode, and airs it. -/
theorem runUnit_follows [Pattern.Compiler] {p : Policy} {counts : Counts} {e : Engine}
    (hidle : e.backlogs = []) (data : Value) :
    Follows ((runUnit p counts data).on e) (play p e.registryD e.made data)
      fun ep counts' e' => counts' = tally counts ep.decisions ∧ Aired p ep e e' := by
  unfold runUnit play
  refine Follows.bind (follows_ofExcept (data.field "path") e) fun _ path e hpath => ?_
  obtain ⟨rfl, rfl⟩ := hpath
  refine Follows.bind (follows_ofExcept (recordedItems data "directives") _)
    fun _ directives e hdirectives => ?_
  obtain ⟨rfl, rfl⟩ := hdirectives
  refine Follows.bind (registerUnit_follows _ directives hidle) fun cg _ e₁ hopened => ?_
  obtain ⟨c, g⟩ := cg
  obtain ⟨hunit, hopened⟩ := hopened
  refine Follows.bind (follows_ofExcept (recordedItems data "diagnostics") _)
    fun _ diagnostics e₁ hdiagnostics => ?_
  obtain ⟨rfl, rfl⟩ := hdiagnostics
  -- the diagnostics meet the registry of the unit as the directives left it
  have hfind := (hopened.find c.unit).trans (if_pos rfl)
  have hgunit : g.unit = c.unit := Engine.unit_of_findRegistry hfind
  dsimp only at hunit
  rw [← hunit, ← hgunit]
  rw [← hgunit] at hfind
  refine Follows.bind (interceptAll_follows (hopened.backlogs.trans hidle) hfind diagnostics)
    fun ds counts' e₂ hruled => ?_
  obtain ⟨hcounts, hruled⟩ := hruled
  refine Follows.bind_of_ok (Engine.reportUnused_on p g.unit e₂) ?_
  refine ⟨counts', _, rfl, hcounts, ?_⟩
  have haired := aired_of_reportUnused (p := p) hidle hopened hruled
  rw [← hgunit, Engine.reportUnused_on] at haired
  exact haired

/-! ## Streams -/

/-- The episodes of some entries, where the units have the registries `stored` and some directives
    were made. -/
def episodes [Pattern.Compiler] (p : Policy) (stored : SourceUnit → Registry) (made : Nat) :
    List Value → Except Fault (List Episode)
  | [] => .ok []
  | data :: rest => do
    let ep ← play p stored made data
    return ep :: (← episodes p (ep.store stored) (made + ep.registered.length) rest)

/-- What the sink receives of some episodes, where the directives `used` were of use before. -/
def transcript (p : Policy) (used : List Nat) : List Episode → List Entry
  | [] => []
  | ep :: rest => ep.entries p used ++ transcript p (used ++ claims ep.decisions) rest

/-- All decisions of some episodes, in order. -/
def decisions (eps : List Episode) : List Decision := eps.flatMap (·.decisions)

/-- Counting goes on where it stopped. -/
theorem tally_append (counts : Counts) (ds ds' : List Decision) :
    tally counts (ds ++ ds') = tally (tally counts ds) ds' :=
  List.foldl_append

/-- The run lemma, by induction on the entries; the invariant is that nothing waits between two
    entries. -/
theorem runUnits_follows [Pattern.Compiler] {p : Policy} {counts : Counts} {e : Engine}
    (hidle : e.backlogs = []) (units : List Value) :
    Follows ((runUnits p counts units).on e) (episodes p e.registryD e.made units)
      fun eps counts' e' => counts' = tally counts (decisions eps) ∧ e'.backlogs = [] ∧
        e'.sink = e.sink ++ (transcript p e.used eps).map Entry.diagnostic := by
  induction units generalizing counts e with
  | nil => exact ⟨counts, e, rfl, rfl, hidle, (List.append_nil _).symm⟩
  | cons data rest ih =>
    refine Follows.bind (runUnit_follows hidle data) fun ep counts₁ e₁ hep => ?_
    obtain ⟨rfl, haired⟩ := hep
    -- the next entry meets the registries, the directives and the uses that this one left behind
    have hrest (c : Counts) := @ih c e₁ haired.backlogs
    rw [haired.registries, haired.made, haired.used] at hrest
    refine (hrest (tally counts ep.decisions)).bind_described fun eps counts' e' hs => ?_
    obtain ⟨hcounts, hidle', hsink⟩ := hs
    refine ⟨?_, hidle', ?_⟩
    · rw [hcounts, ← tally_append]
      rfl
    · rw [hsink, haired.sink, List.append_assoc, ← List.map_append]
      rfl

/-- The registries of an engine that has met no unit. -/
def noneStored (u : SourceUnit) : Registry := { unit := u }

/-- The episodes of a whole stream. -/
def episodesOf [Pattern.Compiler] (p : Policy) (units : List Value) : Except Fault (List Episode) :=
  episodes p noneStored 0 units

/-- What some episodes leave behind. -/
def Result.ofEpisodes (p : Policy) (eps : List Episode) : Result where
  sink := (transcript p [] eps).map Entry.diagnostic
  counts := tally {} (decisions eps)

/-- A whole stream, from an engine that knows nothing. -/
theorem runAll_follows [Pattern.Compiler] (p : Policy) (units : List Value) :
    Follows ((runAll p (.list units)).on {}) (episodesOf p units) fun eps counts e' =>
      counts = tally {} (decisions eps) ∧ e'.sink = (transcript p [] eps).map Entry.diagnostic := by
  have hunits := @runUnits_follows _ p {} {} rfl units
  refine Follows.bind_of_ok (a := units) rfl ?_
  rw [← bind_pure (episodesOf p units)]
  refine hunits.bind fun eps counts e' hs => ?_
  obtain ⟨hcounts, hidle, hsink⟩ := hs
  -- nothing waits in the end
  have hflush : Engine.flushAll.on e' = (.ok [], e') := by
    rw [Engine.flushAll, Engine.on_bind_of_ok (Engine.on_get e'), hidle]
    rfl
  exact Follows.bind_of_ok hflush ⟨counts, e', rfl, hcounts, hsink⟩

/-- A stream comes to what its episodes come to, also where it fails. -/
theorem run_eq [Pattern.Compiler] (p : Policy) (units : List Value) :
    (run p (.list units)).1 = (episodesOf p units).map (Result.ofEpisodes p) := by
  have hall := runAll_follows p units
  rw [run]
  cases heps : episodesOf p units with
  | error f =>
    rw [heps] at hall
    exact congrArg (Except.map _) hall
  | ok eps =>
    rw [heps] at hall
    obtain ⟨counts, e', hon, hcounts, hsink⟩ := hall
    rw [hon]
    simp only [Except.map, Result.ofEpisodes, hcounts, hsink]

end Muffle.Stream
