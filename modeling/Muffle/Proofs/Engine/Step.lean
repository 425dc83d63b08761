/-
  Muffle.Proofs.Engine.Step

  What an operation that succeeds does to an engine, told once and case by case. Proofs about runs
  read a step through the cases of `Performed`.

  Two facts hold over every step. The directives of use only become more, and what waits has been
  looked at before: it is of its unit, may be muffled, and no filter matched it (`Screened`).
-/

import Muffle.Proofs.Engine.Operation
import Muffle.Proofs.Registration

namespace Muffle.Engine

variable {p : Policy} {e e' : Engine} {u : SourceUnit} {d : Diagnostic} {s : Directive}

/-! ## One operation -/

/-- The engine after the release of some units, one after the other, with what was forwarded. -/
inductive Released : List SourceUnit → Engine → List Diagnostic → Engine → Prop
  | nil (e : Engine) : Released [] e [] e
  | cons {u : SourceUnit} {us : List SourceUnit} {e e₁ e' : Engine} {more : List Diagnostic}
      (hs : Settled (e.findRegistry u) (e.waiting u) (e.withoutWaiting u) e₁)
      (hrest : Released us e₁ more e') :
      Released (u :: us) e ((e.waiting u).filter (passes (e.findRegistry u)) ++ more) e'

theorem flushUnits_released {us : List SourceUnit} {passed : List Diagnostic}
    (h : (flushUnits us).on e = (.ok passed, e')) : Released us e passed e' := by
  induction us generalizing e passed with
  | nil =>
    cases h
    exact .nil _
  | cons u us ih =>
    obtain ⟨first, e₁, hfirst, h⟩ := on_bind_eq_ok_iff.mp h
    obtain ⟨more, e₂, hmore, h⟩ := on_bind_eq_ok_iff.mp h
    cases h
    obtain ⟨rfl, hs⟩ := flush_ok hfirst
    exact .cons hs (ih hmore)

/-- What an operation that succeeds does, case by case. -/
inductive Performed (p : Policy) (e : Engine) : Operation → Answer → Engine → Prop
  | registered {u : SourceUnit} {s : Directive} {g : Registry} {ns : List Notice} {e' : Engine}
      (hg : (e.registryD u).register s = .ok (g, ns)) (hw : s.range.isWritable = true)
      (hs : Stored u g e e') : Performed p e (.register u s) .done e'
  | replayed {u : SourceUnit} {ss : List Directive} {g : Registry} {e' : Engine}
      (hg : (e.registryD u).registerAll ss = .ok g)
      (hw : ∀ s ∈ ss, s.range.isWritable = true) (hs : Replayed u g e e') :
      Performed p e (.setDirectives u ss) (.outcomes ((e.waiting u).map (verdict (some g)))) e'
  | reported {op : Operation} {d : Diagnostic} {o : Outcome} {e' : Engine}
      (hd : op.diagnostic? = some d) (hr : Reported p d e o e') :
      Performed p e op (.outcome o) e'
  | released {u : SourceUnit} {e' : Engine}
      (hs : Settled (e.findRegistry u) (e.waiting u) (e.withoutWaiting u) e') :
      Performed p e (.flush u) (.forwarded ((e.waiting u).filter (passes (e.findRegistry u)))) e'
  | releasedAll {ds : List Diagnostic} {e' : Engine}
      (hr : Released (e.backlogs.map (·.unit)) e ds e') :
      Performed p e .flushAll (.forwarded ds) e'
  | unusedReported {u : SourceUnit} (ns : List Notice) :
      Performed p e (.reportUnused u) (.unused (unusedOf p e u))
        ({ e with sink := e.sink ++ (unusedOf p e u).map (unusedReport u) }.withNotices ns)
  | emitted {d : Diagnostic} : Performed p e (.emit d) .done (e.withSent d)

/-- The step lemma. -/
theorem perform_ok {op : Operation} {a : Answer} (h : (perform p op).on e = (.ok a, e')) :
    Performed p e op a e' := by
  -- the two operations on a diagnostic come to the same
  have hreport : ∀ d, op.diagnostic? = some d → Performed p e op a e' := by
    intro d hd
    obtain ⟨o, rfl, hr⟩ := perform_diagnostic_ok hd h
    exact .reported hd (report_ok hr)
  cases op with
  | register u s =>
    obtain ⟨_, e₁, hreg, h⟩ := on_bind_eq_ok_iff.mp h
    cases h
    obtain ⟨g, ns, hg, hw, hs⟩ := register_ok hreg
    exact .registered hg hw hs
  | setDirectives u ss =>
    obtain ⟨os, e₁, hset, h⟩ := on_bind_eq_ok_iff.mp h
    cases h
    obtain ⟨g, hg, hw, rfl, hs⟩ := setDirectives_ok hset
    exact .replayed hg hw hs
  | intercept u position severity message =>
    obtain ⟨d, hd⟩ := perform_intercept_ok h
    exact hreport d hd
  | report d => exact hreport d rfl
  | flush u =>
    obtain ⟨passed, e₁, hflush, h⟩ := on_bind_eq_ok_iff.mp h
    cases h
    obtain ⟨rfl, hs⟩ := flush_ok hflush
    exact .released hs
  | flushAll =>
    obtain ⟨passed, e₁, hflush, h⟩ := on_bind_eq_ok_iff.mp h
    cases h
    rw [flushAll, on_bind_of_ok (on_get e)] at hflush
    exact .releasedAll (flushUnits_released hflush)
  | reportUnused u =>
    obtain ⟨ds, e₁, hunused, h⟩ := on_bind_eq_ok_iff.mp h
    cases h
    rw [reportUnused_on] at hunused
    cases hunused
    exact .unusedReported _
  | emit d =>
    obtain ⟨_, e₁, hemit, h⟩ := on_bind_eq_ok_iff.mp h
    cases h
    cases hemit
    exact .emitted

/-! ## Stored directives -/

/-- The directives that an operation hands over, each with its unit. -/
def Operation.handed : Operation → List (SourceUnit × Directive)
  | .register u s => [(u, s)]
  | .setDirectives u ss => ss.map fun s => (u, s)
  | _ => []

/-- The directives of one unit. -/
def directivesOf (u : SourceUnit) (xs : List (SourceUnit × Directive)) : List Directive :=
  (xs.filter fun x => x.1 = u).map Prod.snd

/-- The directives that are handed over for a unit. -/
theorem mem_directivesOf {xs : List (SourceUnit × Directive)} :
    s ∈ directivesOf u xs ↔ (u, s) ∈ xs := by
  simp [directivesOf]

theorem directivesOf_append (u : SourceUnit) (xs ys : List (SourceUnit × Directive)) :
    directivesOf u (xs ++ ys) = directivesOf u xs ++ directivesOf u ys := by
  rw [directivesOf, List.filter_append, List.map_append, directivesOf, directivesOf]

theorem directivesOf_map (u v : SourceUnit) (ss : List Directive) :
    directivesOf v (ss.map fun s => (u, s)) = if v = u then ss else [] := by
  by_cases hv : v = u
  · simp [directivesOf, hv, List.filter_map, Function.comp_def]
  · simp [directivesOf, hv, Ne.symm hv, List.filter_map, Function.comp_def]

/-- To report a diagnostic registers nothing. -/
theorem Reported.registries {o : Outcome} (h : Reported p d e o e') :
    e'.registries = e.registries := by
  cases h with
  | exempt | filtered | held => rfl
  | decided _ _ _ hs => exact hs.registries

/-- To release diagnostics registers nothing. -/
theorem Released.registries {us : List SourceUnit} {ds : List Diagnostic}
    (h : Released us e ds e') : e'.registries = e.registries := by
  induction h with
  | nil => rfl
  | cons hs _ ih => exact ih.trans hs.registries

/-- A unit stores what is handed over for it, each directive as often as it is handed over. -/
theorem Performed.directives_perm {op : Operation} {a : Answer} (h : Performed p e op a e')
    (v : SourceUnit) :
    (e'.registryD v).directives.Perm
      ((e.registryD v).directives ++ directivesOf v op.handed) := by
  -- only two operations hand over directives
  have hsame : e'.registries = e.registries → op.handed = [] →
      (e'.registryD v).directives.Perm
        ((e.registryD v).directives ++ directivesOf v op.handed) := by
    intro hr hnil
    rw [registryD_congr hr, hnil]
    exact .of_eq (List.append_nil _).symm
  cases h with
  | @registered u s g ns _ hg _ hs =>
    rw [registryD_of_find hs.find, Operation.handed, ← List.map_singleton, directivesOf_map]
    split
    · rename_i hv
      subst hv
      exact (Registry.register_perm hg).trans (List.perm_append_singleton _ _).symm
    · exact .of_eq (List.append_nil _).symm
  | @replayed u ss g _ hg _ hs =>
    rw [registryD_of_find hs.find, Operation.handed, directivesOf_map]
    split
    · rename_i hv
      subst hv
      exact Registry.registerAll_perm hg
    · exact .of_eq (List.append_nil _).symm
  | reported hd hr =>
    refine hsame hr.registries ?_
    cases op <;> first | rfl | cases hd
  | released hs => exact hsame hs.registries rfl
  | releasedAll hr => exact hsame hr.registries rfl
  | unusedReported | emitted => exact hsame rfl rfl

/-- What claims a diagnostic is the first stored directive that applies to it. -/
theorem claimant_eq_some_iff {g : Option Registry} :
    claimant g d = some s ↔
      Registry.FirstToApply (directivesIn g) d.position d.message s := by
  rw [← Registry.firstMatch_eq_some_iff, ← lookup_eq, claimant]
  cases lookup g d with
  | error f => simp
  | ok c => simp

/-- Nothing claims a diagnostic if all directives were asked and none applies. -/
theorem claimant_eq_none_iff {g : Option Registry} (hl : (lookup g d).isOk) :
    claimant g d = none ↔
      ∀ s ∈ directivesIn g, s.appliesTo d.position d.message = .ok false := by
  rw [← Registry.firstMatch_eq_none_iff, ← lookup_eq, claimant]
  cases hc : lookup g d with
  | error f => simp [hc, Except.isOk, Except.toBool] at hl
  | ok c => simp

/-- The claimant is the first directive in stored order that applies. -/
theorem claimant_findRegistry_eq_some_iff (e : Engine) (u : SourceUnit) :
    claimant (e.findRegistry u) d = some s ↔
      Registry.FirstToApply (e.registryD u).directives d.position d.message s := by
  rw [claimant_eq_some_iff, directivesIn_findRegistry]

/-! ## Directives of use -/

theorem isUsed_iff : e.isUsed s = true ↔ s.id ∈ e.used := by
  rw [isUsed, List.contains_iff_mem]

/-- A decision can make a directive used, never unused. -/
theorem Reported.used_extends {o : Outcome} (h : Reported p d e o e') :
    e.used <+: e'.used := by
  cases h with
  | exempt | filtered | held => exact List.prefix_rfl
  | decided _ _ _ hs => exact hs.used ▸ List.prefix_append _ _

/-- Nor can a release. -/
theorem Released.used_extends {us : List SourceUnit} {ds : List Diagnostic}
    (h : Released us e ds e') : e.used <+: e'.used := by
  induction h with
  | nil => exact List.prefix_rfl
  | cons hs _ ih => exact (hs.used ▸ List.prefix_append _ _).trans ih

/-- A directive of use stays one. -/
theorem Performed.used_extends {op : Operation} {a : Answer} (h : Performed p e op a e') :
    e.used <+: e'.used := by
  cases h with
  | registered _ _ hs => exact hs.used ▸ List.prefix_rfl
  | replayed _ _ hs => exact hs.used ▸ List.prefix_append _ _
  | reported _ hr => exact hr.used_extends
  | released hs => exact hs.used ▸ List.prefix_append _ _
  | releasedAll hr => exact hr.used_extends
  | unusedReported | emitted => exact List.prefix_rfl

/-! ## What waits was looked at -/

/-- A new diagnostic waits only if it may be muffled and no filter matches it. -/
theorem Reported.mem_waiting {x : Diagnostic} {o : Outcome} (h : Reported p d e o e')
    (hx : x ∈ e'.waiting u) :
    x ∈ e.waiting u ∨
      x = d ∧ x.unit = u ∧ p.mayMuffle x.severity = true ∧ p.filteredBy? x = .ok none := by
  cases h with
  | exempt | filtered => exact .inl hx
  | held hm hf =>
    rw [waiting_withWaiting] at hx
    split at hx
    · rename_i hu
      refine (List.mem_append.mp hx).imp_right fun hx => ?_
      obtain rfl := List.mem_singleton.mp hx
      exact ⟨rfl, hu, hm, hf⟩
    · exact .inl hx
  | decided _ _ _ hs =>
    rw [waiting_congr hs.backlogs] at hx
    exact .inl hx

theorem mem_waiting_of_withoutWaiting {v : SourceUnit} {x : Diagnostic}
    (hb : e'.backlogs = (e.withoutWaiting u).backlogs) (hx : x ∈ e'.waiting v) :
    x ∈ e.waiting v := by
  rw [waiting_congr hb, waiting_withoutWaiting] at hx
  split at hx
  · cases hx
  · exact hx

/-- A release adds nothing to what waits. -/
theorem Released.mem_waiting {us : List SourceUnit} {ds : List Diagnostic} {x : Diagnostic}
    (h : Released us e ds e') (hx : x ∈ e'.waiting u) : x ∈ e.waiting u := by
  induction h with
  | nil => exact hx
  | cons hs _ ih => exact mem_waiting_of_withoutWaiting hs.backlogs (ih hx)

/-- What waits after an operation waited before, or it came in with the operation, and neither its
    severity nor a filter decided it. -/
theorem Performed.mem_waiting {op : Operation} {a : Answer} {x : Diagnostic}
    (h : Performed p e op a e') (hx : x ∈ e'.waiting u) :
    x ∈ e.waiting u ∨ op.diagnostic? = some x ∧ x.unit = u ∧ p.mayMuffle x.severity = true ∧
      p.filteredBy? x = .ok none := by
  cases h with
  | registered _ _ hs =>
    rw [waiting_congr hs.backlogs] at hx
    exact .inl hx
  | replayed _ _ hs => exact .inl (mem_waiting_of_withoutWaiting hs.backlogs hx)
  | reported hd hr =>
    refine (hr.mem_waiting hx).imp_right ?_
    rintro ⟨rfl, hlooked⟩
    exact ⟨hd, hlooked⟩
  | released hs => exact .inl (mem_waiting_of_withoutWaiting hs.backlogs hx)
  | releasedAll hr => exact .inl (hr.mem_waiting hx)
  | unusedReported | emitted => exact .inl hx

/-- What waits is of its unit, may be muffled, and no filter matches it. -/
def Screened (p : Policy) (e : Engine) : Prop :=
  ∀ u, ∀ d ∈ e.waiting u,
    d.unit = u ∧ p.mayMuffle d.severity = true ∧ p.filteredBy? d = .ok none

theorem Screened.congr (h : Screened p e) (hb : e'.backlogs = e.backlogs) : Screened p e' := by
  intro u d hd
  rw [waiting_congr hb] at hd
  exact h u d hd

/-- The step lemma: whatever waits has passed the screen. -/
theorem Screened.performed (h : Screened p e) {op : Operation} {a : Answer}
    (hp : Performed p e op a e') : Screened p e' := by
  intro u d hd
  rcases hp.mem_waiting hd with hd | ⟨-, hlooked⟩
  · exact h u d hd
  · exact hlooked

end Muffle.Engine
