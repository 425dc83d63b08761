/-
  Muffle.Proofs.Stream.Collection

  Collecting the recorded directives of a unit, as a plain description. While directives are
  collected the engine only makes them and is sent the reports of the refused ones, so the
  collector alone tells what it received. `Collecting` says so; each directive keeps it, and the
  registration of what was collected is one call of the engine for which nothing waits.
-/

import Muffle.Engine.Stream
import Muffle.Proofs.Engine.Interruption
import Muffle.Proofs.Follows

namespace Muffle

/-! ## Directives made

Directives are told apart by the number of those made before. Only collecting makes any. -/

namespace Engine

variable {α β : Type}

/-- The computation makes no directive. -/
def MakesNone (x : Run α) : Prop := ∀ e, (x.on e).2.made = e.made

/-- Steps that make no directives make none together. -/
theorem MakesNone.bind {x : Run α} {f : α → Run β} (hx : MakesNone x)
    (hf : ∀ a, MakesNone (f a)) : MakesNone (x >>= f) := by
  intro e
  rw [on_bind, ← hx e]
  rcases x.on e with ⟨f | a, e'⟩
  · rfl
  · exact hf a e'

theorem makesNone_ofExcept (x : Except Fault α) : MakesNone (Run.ofExcept x) := fun _ => rfl

theorem makesNone_notify (n : Notice) : MakesNone (notify n) := fun _ => rfl

theorem makesNone_openRegistry (u : SourceUnit) : MakesNone (openRegistry u) := by
  intro e
  unfold openRegistry
  rw [on_bind_of_ok (on_get e)]
  cases e.findRegistry u <;> rfl

/-- To register directives is not to make any. -/
theorem makesNone_registerAll (u : SourceUnit) (ds : List Directive) :
    MakesNone (registerAll u ds) := by
  induction ds with
  | nil => exact fun _ => rfl
  | cons d rest ih =>
    refine MakesNone.bind ?_ fun _ => ih
    refine (makesNone_openRegistry u).bind fun g => ?_
    refine (makesNone_ofExcept _).bind fun _ => .bind (fun _ => rfl) fun _ => ?_
    exact (makesNone_ofExcept _).bind fun _ => makesNone_notify _

/-- Whatever a directive claims, none is made. -/
theorem makesNone_release (g : Option Registry) (d : Diagnostic) : MakesNone (release g d) := by
  cases g with
  | none => exact fun _ => rfl
  | some g =>
    refine (makesNone_ofExcept _).bind fun c => ?_
    cases c <;> exact fun _ => rfl

theorem makesNone_releaseEach (g : Option Registry) (ds : List Diagnostic) :
    MakesNone (releaseEach g ds) := by
  induction ds with
  | nil => exact fun _ => rfl
  | cons d ds ih =>
    exact (makesNone_release g d).bind fun _ => ih.bind fun _ _ => rfl

/-- To set the directives of a unit is not to make any, and neither is the replay. -/
theorem makesNone_setDirectives (u : SourceUnit) (ds : List Directive) :
    MakesNone (setDirectives u ds) := by
  refine (makesNone_openRegistry u).bind fun _ => (makesNone_registerAll u ds).bind fun _ => ?_
  refine .bind (fun _ => rfl) fun waiting => ?_
  have hreplay : MakesNone (do decideAll (← openRegistry u) waiting) :=
    (makesNone_openRegistry u).bind fun g => decideAll_eq g waiting ▸ makesNone_releaseEach _ _
  cases hw : !waiting.isEmpty with
  | false => exact hreplay
  | true => exact (makesNone_notify _).bind fun _ => hreplay

/-- However a diagnostic is decided, no directive is made. -/
theorem makesNone_report (p : Policy) (d : Diagnostic) : MakesNone (report p d) := by
  unfold report
  cases p.mayMuffle d.severity with
  | false => exact fun _ => rfl
  | true =>
    refine (makesNone_ofExcept _).bind fun reason => ?_
    cases reason with
    | some reason => exact fun _ => rfl
    | none =>
      intro e
      show ((reportUnfiltered p d).on e).2.made = e.made
      rw [reportUnfiltered_eq]
      -- held, or released at once
      split
      · rfl
      · exact makesNone_release _ d e

end Engine

/-! ## One directive -/

namespace Stream

variable [Pattern.Compiler]

/-- The directive that a recorded one stands for, after `made` others. -/
def directiveFor (made : Nat) (r : Recorded) : Except Fault Directive := do
  let range ← SourceRange.union r.spans
  Directive.make made r.anchor range (if r.pattern.truthy then r.pattern else .null)
    r.inMacroExpansion

/-- What the collector builds is the directive with the next number; a directive that cannot be
    built takes no number. -/
theorem build_on (r : Recorded) (e : Engine) :
    (Collector.build r.anchor r.spans r.pattern r.inMacroExpansion).on e =
      match directiveFor e.made r with
      | .ok d => (.ok d, { e with made := e.made + 1 })
      | .error f => (.error f, e) := by
  unfold Collector.build directiveFor
  cases SourceRange.union r.spans with
  | error f => rfl
  | ok range =>
    rw [Engine.on_bind_of_ok (Engine.on_ofExcept _ e), ok_bind]
    unfold Engine.make
    rw [Engine.on_bind_of_ok (Engine.on_get e)]
    cases Directive.make e.made r.anchor range (if r.pattern.truthy then r.pattern else .null)
      r.inMacroExpansion <;> rfl

/-- The collector after one more recorded directive, where `first` directives were made before
    those of the unit. -/
def gather (first : Nat) (c : Collector) (r : Recorded) : Except Fault Collector := do
  if ← r.anchor.isMember c.seen then return c
  let seen := c.seen ++ [r.anchor]
  match directiveFor (first + c.collected.length) r with
  | .ok d => return { c with seen, collected := c.collected ++ [d] }
  | .error (.invalidPattern p) => return { c with seen, errors := c.errors ++ [p] }
  | .error f => .error f

/-- What the engine received since `e₀` while `c` was collected. -/
structure Collecting (e₀ : Engine) (c : Collector) (e : Engine) : Prop where
  registries : e.registries = e₀.registries
  backlogs : e.backlogs = e₀.backlogs
  used : e.used = e₀.used
  sink : e.sink = e₀.sink ++ c.errors.map (Collector.invalidReport c.unit)
  made : e.made = e₀.made + c.collected.length

omit [Pattern.Compiler] in
/-- A fresh collector has taken no numbers and given no reports. -/
theorem collecting_start (u : SourceUnit) (e : Engine) : Collecting e { unit := u } e :=
  ⟨rfl, rfl, rfl, (List.append_nil _).symm, rfl⟩

omit [Pattern.Compiler] in
/-- Notices do not matter to a collection. -/
theorem Collecting.withNotices {e₀ e : Engine} {c : Collector} (h : Collecting e₀ c e)
    (ns : List Notice) : Collecting e₀ c (e.withNotices ns) :=
  ⟨h.registries, h.backlogs, h.used, h.sink, h.made⟩

section Attempts

variable {x : Engine.Run Directive} {c : Collector} {e e' : Engine}
  {handle : Fault → Collector.Run (Except InvalidPattern Directive)}

/-- The attempt to make a directive, as collecting makes it. -/
def attempt (x : Engine.Run Directive)
    (handle : Fault → Collector.Run (Except InvalidPattern Directive)) :
    Collector.Run (Except InvalidPattern Directive) :=
  tryCatch (do return Except.ok (← Collector.onEngine x)) handle

omit [Pattern.Compiler] in
/-- An attempt that succeeds is not handled. -/
theorem attempt_ok {d : Directive} (h : x.on e = (.ok d, e')) :
    (attempt x handle).run.run (c, e) = (.ok (.ok d), (c, e')) := by
  have hmade : (Collector.onEngine x).run.run (c, e) = (.ok d, (c, e')) := by
    show ((x.on e).1, (c, (x.on e).2)) = _
    rw [h]
  rw [attempt, run_tryCatch, run_bind, hmade]
  rfl

omit [Pattern.Compiler] in
/-- An attempt that fails is handled from where it failed, with the collector as it was. -/
theorem attempt_error {f : Fault} (h : x.on e = (.error f, e')) :
    (attempt x handle).run.run (c, e) = (handle f).run.run (c, e') := by
  have hmade : (Collector.onEngine x).run.run (c, e) = (.error f, (c, e')) := by
    show ((x.on e).1, (c, (x.on e).2)) = _
    rw [h]
  rw [attempt, run_tryCatch, run_bind, hmade]

end Attempts

/-- To add a directive gathers it, and the engine knows no more than the numbers and the reports. -/
theorem add_follows {e₀ e : Engine} {c : Collector} (h : Collecting e₀ c e) (r : Recorded) :
    Follows ((Collector.add r.anchor r.spans r.pattern r.inMacroExpansion).on (c, e))
      (gather e₀.made c r) fun c' _ s => s.1 = c' ∧ Collecting e₀ c' s.2 := by
  have hmake := build_on r e
  rw [h.made] at hmake
  unfold Collector.add gather
  refine Follows.bind_of_ok (a := (c, e)) rfl ?_
  dsimp only
  cases r.anchor.isMember c.seen with
  | error f => rfl
  | ok duplicate =>
    refine Follows.bind_of_ok (a := duplicate) rfl ?_
    rw [ok_bind]
    cases duplicate with
    | true => exact ⟨none, (c, e.withNotices _), rfl, rfl, h.withNotices _⟩
    | false =>
      -- the anchor is kept before the directive is made, so a refused one counts as seen too
      have hseen (g : Collector → Collector) :
          (Collector.change g).run.run (c, e) = (.ok (), (g c, e)) := rfl
      refine Follows.bind_of_ok (hseen _) ?_
      simp only [Bool.false_eq_true, if_false]
      cases hd : directiveFor (e₀.made + c.collected.length) r with
      | ok d =>
        rw [hd] at hmake
        refine Follows.bind_of_ok (attempt_ok hmake) ?_
        refine ⟨some d, _, rfl, rfl, h.registries, h.backlogs, h.used, h.sink, ?_⟩
        show e₀.made + c.collected.length + 1 = e₀.made + (c.collected ++ [d]).length
        rw [List.length_append, List.length_singleton, Nat.add_assoc]
      | error f =>
        -- a refused pattern is reported and no more; every other fault ends the run
        rw [hd] at hmake
        cases f with
        | invalidPattern p =>
          refine Follows.bind_of_ok (attempt_error hmake) ?_
          refine ⟨none, _, rfl, rfl, h.registries, h.backlogs, h.used, ?_, h.made⟩
          show e.sink ++ [Collector.invalidReport c.unit p] = _
          rw [h.sink, List.append_assoc, List.map_append]
          rfl
        | _ => exact Follows.bind_of_error (attempt_error hmake)

/-! ## The directives of a unit -/

/-- The collector after some more recorded directives. -/
def gatherAll (first : Nat) (c : Collector) : List Value → Except Fault Collector
  | [] => .ok c
  | directive :: rest => do gatherAll first (← gather first c (← Recorded.read directive)) rest

/-- The run lemma: to add the directives of an entry gathers them all. -/
theorem collectAll_follows {e₀ e : Engine} {c : Collector} (h : Collecting e₀ c e)
    (directives : List Value) :
    Follows ((collectAll directives).on (c, e)) (gatherAll e₀.made c directives)
      fun c' _ s => s.1 = c' ∧ Collecting e₀ c' s.2 := by
  induction directives generalizing c e with
  | nil => exact ⟨(), (c, e), rfl, rfl, h⟩
  | cons directive rest ih =>
    unfold collectAll gatherAll
    cases Recorded.read directive with
    | error f => rfl
    | ok r =>
      refine Follows.bind_of_ok (a := r) rfl ?_
      rw [ok_bind]
      refine (add_follows h r).bind fun c' _ s hs => ?_
      obtain ⟨c₁, e₁⟩ := s
      obtain ⟨rfl, h'⟩ := hs
      exact ih h'

/-- What becomes of a collector with one more recorded directive: it is skipped if its anchor was
    seen, else it is made or refused. -/
inductive Gathered (first : Nat) (c : Collector) (r : Recorded) : Collector → Prop
  | skipped (hseen : c.seen.any r.anchor.same = true) : Gathered first c r c
  | made {d : Directive} (hfresh : c.seen.any r.anchor.same = false)
      (hd : directiveFor (first + c.collected.length) r = .ok d) :
      Gathered first c r
        { c with seen := c.seen ++ [r.anchor], collected := c.collected ++ [d] }
  | refused {p : InvalidPattern} (hfresh : c.seen.any r.anchor.same = false)
      (hp : directiveFor (first + c.collected.length) r = .error (.invalidPattern p)) :
      Gathered first c r { c with seen := c.seen ++ [r.anchor], errors := c.errors ++ [p] }

/-- A directive that was gathered was skipped, made or refused. -/
theorem gather_cases {first : Nat} {c c' : Collector} {r : Recorded}
    (h : gather first c r = .ok c') : Gathered first c r c' := by
  obtain ⟨duplicate, hmember, h⟩ := bind_eq_ok_iff.mp h
  obtain ⟨-, -, hmember⟩ := bind_eq_ok_iff.mp hmember
  have hany := Except.ok.inj hmember
  cases duplicate with
  | true =>
    cases h
    exact .skipped hany
  | false =>
    simp only [Bool.false_eq_true, if_false] at h
    split at h
    · rename_i d hd
      cases h
      exact .made hany hd
    · rename_i p hp
      cases h
      exact .refused hany hp
    · cases h

/-- Gathering stays with one unit. -/
theorem gather_unit {first : Nat} {c c' : Collector} {r : Recorded}
    (h : gather first c r = .ok c') : c'.unit = c.unit := by
  cases gather_cases h <;> rfl

/-- The engine after the directives of a unit for which nothing waits: the unit has the registry
    `g`, and the sink received the reports of the directives that `c` refused. -/
structure Opened (c : Collector) (g : Registry) (e e' : Engine) : Prop where
  find : ∀ v, e'.findRegistry v = if v = c.unit then some g else e.findRegistry v
  backlogs : e'.backlogs = e.backlogs
  used : e'.used = e.used
  sink : e'.sink = e.sink ++ c.errors.map (Collector.invalidReport c.unit)
  made : e'.made = e.made + c.collected.length

omit [Pattern.Compiler] in
/-- With nothing waiting, to set directives enters them and stores the registry. -/
theorem setDirectives_follows (u : SourceUnit) (ds : List Directive) {e : Engine}
    (hidle : e.backlogs = []) :
    Follows ((Engine.setDirectives u ds).on e) ((e.registryD u).enterAll ds)
      fun g _ e' => Engine.Stored u g e e' ∧ e'.made = e.made := by
  have hnone : e.waiting u = [] := by
    rw [Engine.waiting, hidle]
    rfl
  -- with nothing to decide again, only the registration can fail
  cases henter : (e.registryD u).enterAll ds with
  | error f =>
    obtain ⟨g, hfails⟩ := Engine.setDirectives_on_error henter
    obtain ⟨e', hon, -⟩ := hfails e rfl
    rw [hon]
    rfl
  | ok g =>
    obtain ⟨hreg, hw⟩ := Registry.enterAll_eq_ok_iff.mp henter
    have hfound : ∀ d ∈ e.waiting u, (Engine.lookup (some g) d).isOk := by
      intro d hd
      rw [hnone] at hd
      exact absurd hd List.not_mem_nil
    obtain ⟨e', hon, hs⟩ := Engine.setDirectives_on hreg hw hfound
    have hmade := Engine.makesNone_setDirectives u ds e
    rw [hon] at hmade
    refine ⟨_, e', hon, ⟨hs.find, ?_, ?_, ?_⟩, hmade⟩
    · rw [hs.backlogs, Engine.withoutWaiting, hidle]
      rfl
    · rw [hs.used, hnone]
      exact List.append_nil _
    · rw [hs.sink, hnone]
      exact List.append_nil _

omit [Pattern.Compiler] in
/-- To finish enters what was collected into the registry of the unit. -/
theorem finish_follows {e₀ e : Engine} {c : Collector} (h : Collecting e₀ c e)
    (hidle : e₀.backlogs = []) :
    Follows (Collector.finish.on (c, e)) ((e₀.registryD c.unit).enterAll c.collected)
      fun g _ s => Opened c g e₀ s.2 := by
  have hset := setDirectives_follows c.unit c.collected (h.backlogs.trans hidle)
  rw [Engine.registryD_congr h.registries] at hset
  have hopened : Follows ((Collector.onEngine (Engine.setDirectives c.unit c.collected)).on (c, e))
      ((e₀.registryD c.unit).enterAll c.collected) fun g _ s => Opened c g e₀ s.2 := by
    refine hset.view (w := fun e' => (c, e')) fun g os e' hs => ?_
    obtain ⟨hs, hmade⟩ := hs
    refine ⟨fun v => ?_, hs.backlogs.trans h.backlogs, hs.used.trans h.used, hs.sink.trans h.sink,
      hmade.trans h.made⟩
    rw [hs.find, Engine.findRegistry_congr h.registries]
  rw [← bind_pure (Registry.enterAll _ _)]
  refine Follows.bind_of_ok (a := (c, e)) rfl ?_
  exact Follows.bind hopened fun g os s hs => ⟨c.collected, s, rfl, hs⟩

theorem gatherAll_unit {first : Nat} {c c' : Collector} {directives : List Value}
    (h : gatherAll first c directives = .ok c') : c'.unit = c.unit := by
  induction directives generalizing c with
  | nil =>
    cases h
    rfl
  | cons directive rest ih =>
    obtain ⟨r, -, h⟩ := bind_eq_ok_iff.mp h
    obtain ⟨c₁, hr, h⟩ := bind_eq_ok_iff.mp h
    exact (ih h).trans (gather_unit hr)

/-- The directives of a unit whose registry was `g`, as they are collected and as they are
    stored in the end. -/
def opening (g : Registry) (made : Nat) (directives : List Value) :
    Except Fault (Collector × Registry) := do
  let c ← gatherAll made { unit := g.unit } directives
  let g ← g.enterAll c.collected
  return (c, g)

/-- The directives of an entry open it: they are gathered, and then entered. -/
theorem registerUnit_follows (u : SourceUnit) (directives : List Value) {e : Engine}
    (hidle : e.backlogs = []) :
    Follows ((registerUnit u directives).on e) (opening (e.registryD u) e.made directives)
      fun cg _ e' => cg.1.unit = u ∧ Opened cg.1 cg.2 e e' := by
  let c₀ : Collector := { unit := u }
  suffices h : Follows (Collector.Run.on (do
        collectAll directives
        let _ ← Collector.finish) (c₀, e)) (opening (e.registryD u) e.made directives)
      fun cg _ s => cg.1.unit = u ∧ Opened cg.1 cg.2 e s.2 from
    h.view (w := Prod.snd) fun _ _ _ hs => hs
  unfold opening
  rw [Engine.registryD_unit]
  have hcollect := collectAll_follows (collecting_start u e) directives
  refine hcollect.described.bind fun c _ s hs => ?_
  obtain ⟨c', e'⟩ := s
  obtain ⟨hc, rfl, hcollected⟩ := hs
  have hunit : c'.unit = u := gatherAll_unit hc
  have hfinish := finish_follows hcollected hidle
  rw [hunit] at hfinish
  exact hfinish.bind fun g _ s hg => ⟨(), s, rfl, hunit, hg⟩

end Stream

end Muffle
