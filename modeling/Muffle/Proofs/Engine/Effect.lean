/-
  Muffle.Proofs.Engine.Effect

  What each operation of the engine does, as equations between the engine before and after it.
  Decisions go through one lookup: with the registry of the unit, or without one, in which case
  nothing is found. `Settled` says what a sequence of decisions leaves behind, `Stored` what a
  registration does; every later proof about runs reads operations through these two and through
  the cases of `Reported`, and does not open the operations again.
-/

import Muffle.Engine.Basic
import Muffle.Proofs.Innermost

namespace Muffle.Engine

/-! ## Reading a computation -/

section Computations

variable {α β : Type}

@[simp] theorem on_pure (a : α) (e : Engine) : (pure a : Run α).on e = (.ok a, e) := rfl

@[simp] theorem on_ofExcept (x : Except Fault α) (e : Engine) :
    (Run.ofExcept x).on e = (x, e) := rfl

@[simp] theorem on_get (e : Engine) : (get : Run Engine).on e = (.ok e, e) := rfl

@[simp] theorem on_modify (f : Engine → Engine) (e : Engine) :
    (modify f : Run Unit).on e = (.ok (), f e) := rfl

/-- A sequence goes on from the state that its first step leaves behind, unless this fails. -/
theorem on_bind (x : Run α) (f : α → Run β) (e : Engine) :
    (x >>= f).on e =
      match x.on e with
      | (.ok a, e') => (f a).on e'
      | (.error fault, e') => (.error fault, e') := by
  show (ExceptT.bindCont f (x.on e).1) (x.on e).2 = _
  rcases x.on e with ⟨_ | a, e'⟩ <;> rfl

/-- The same for a first step that is known to succeed. -/
theorem on_bind_of_ok {x : Run α} {e e' : Engine} {a : α} (h : x.on e = (.ok a, e'))
    (f : α → Run β) : (x >>= f).on e = (f a).on e' := by
  rw [on_bind, h]

/-- A sequence of two steps succeeds exactly if both do, one after the other. -/
theorem on_bind_eq_ok_iff {x : Run α} {f : α → Run β} {e e'' : Engine} {b : β} :
    (x >>= f).on e = (.ok b, e'') ↔
      ∃ a e', x.on e = (.ok a, e') ∧ (f a).on e' = (.ok b, e'') := by
  rw [on_bind]
  rcases x.on e with ⟨f | a, e'⟩
  · simp
  · refine ⟨fun h => ⟨a, e', rfl, h⟩, fun h => ?_⟩
    obtain ⟨_, _, heq, h⟩ := h
    cases heq
    exact h

@[simp] theorem on_notify (n : Notice) (e : Engine) :
    (notify n).on e = (.ok (), e.withNotices [n]) := rfl

@[simp] theorem on_hold (d : Diagnostic) (e : Engine) :
    (hold d).on e = (.ok .deferred, e.withWaiting d) := rfl

@[simp] theorem on_takeWaiting (u : SourceUnit) (e : Engine) :
    (takeWaiting u).on e = (.ok (e.waiting u), e.withoutWaiting u) := rfl

end Computations

/-! ## Registries of units -/

/-- A registry is found by its unit. -/
theorem unit_of_findRegistry {e : Engine} {u : SourceUnit} {g : Registry}
    (h : e.findRegistry u = some g) : g.unit = u := by
  simpa using List.find?_some h

/-- In a list in which a registry is replaced, the others are found as before. -/
theorem find?_map_replace (g : Registry) (gs : List Registry) (u : SourceUnit) :
    (gs.map fun h => if h.unit = g.unit then g else h).find? (fun h => h.unit == u) =
      if u = g.unit then (gs.find? fun h => h.unit == u).map fun _ => g
      else gs.find? fun h => h.unit == u := by
  induction gs with
  | nil => simp
  | cons h gs ih =>
    rw [List.map_cons, List.find?_cons, List.find?_cons, ih]
    by_cases hh : h.unit = g.unit
    · rw [if_pos hh, hh]
      by_cases hu : u = g.unit
      · simp only [hu, beq_self_eq_true, if_true, Option.map_some]
      · have hne : (g.unit == u) = false := beq_eq_false_iff_ne.mpr (Ne.symm hu)
        simp only [hne, hu, if_false]
    · rw [if_neg hh]
      by_cases hu : u = g.unit
      · have hne : (h.unit == g.unit) = false := beq_eq_false_iff_ne.mpr hh
        simp only [hu, hne, if_true]
      · simp only [hu, if_false]

/-- After a registry is replaced, it is found for its unit, and all others as before. -/
theorem findRegistry_withRegistry (e : Engine) (g : Registry) (u : SourceUnit) :
    (e.withRegistry g).findRegistry u = if u = g.unit then some g else e.findRegistry u := by
  unfold withRegistry findRegistry
  by_cases hhas : e.hasRegistry g.unit
  · -- the registry of the unit is replaced where it stands
    obtain ⟨g', hg'⟩ := Option.isSome_iff_exists.mp hhas
    rw [if_pos hhas, find?_map_replace]
    by_cases hu : u = g.unit
    · subst hu
      rw [if_pos rfl, if_pos rfl]
      exact congrArg (Option.map fun _ => g) hg'
    · rw [if_neg hu, if_neg hu]
  · -- the registry goes to the end, and no earlier one is of its unit
    rw [if_neg hhas, List.find?_append]
    by_cases hu : u = g.unit
    · subst hu
      have hnone : (e.registries.find? fun h => h.unit == g.unit) = none := by
        simpa [hasRegistry, findRegistry] using hhas
      simp [hnone]
    · simp [hu, Ne.symm hu]

/-- The registry of a unit, an empty one if there is none. -/
def registryD (e : Engine) (u : SourceUnit) : Registry := (e.findRegistry u).getD { unit := u }

/-- A lookup of registries depends on the registries only. -/
theorem findRegistry_congr {e e' : Engine} (h : e'.registries = e.registries) (u : SourceUnit) :
    e'.findRegistry u = e.findRegistry u := by
  rw [findRegistry, h, findRegistry]

theorem registryD_congr {e e' : Engine} (h : e'.registries = e.registries) (u : SourceUnit) :
    e'.registryD u = e.registryD u := by
  rw [registryD, findRegistry_congr h, registryD]

theorem registryD_of_none {e : Engine} {u : SourceUnit} (h : e.findRegistry u = none) :
    e.registryD u = { unit := u } := by
  rw [registryD, h, Option.getD_none]

/-- Where one registry was put in, it stands for its unit, and the others stand as before. -/
theorem registryD_of_find {e e' : Engine} {u : SourceUnit} {g : Registry}
    (h : ∀ v, e'.findRegistry v = if v = u then some g else e.findRegistry v) (v : SourceUnit) :
    e'.registryD v = if v = u then g else e.registryD v := by
  rw [registryD, h]
  split <;> rfl

theorem registryD_unit (e : Engine) (u : SourceUnit) : (e.registryD u).unit = u := by
  unfold registryD
  cases h : e.findRegistry u with
  | none => rfl
  | some g => exact unit_of_findRegistry h

/-- The engine after a registration: the unit has the registry `g`, and nothing else of what
    decisions read or write is touched. -/
structure Stored (u : SourceUnit) (g : Registry) (e e' : Engine) : Prop where
  find : ∀ v, e'.findRegistry v = if v = u then some g else e.findRegistry v
  backlogs : e'.backlogs = e.backlogs
  used : e'.used = e.used
  sink : e'.sink = e.sink

theorem Stored.find_self {u : SourceUnit} {g : Registry} {e e' : Engine} (h : Stored u g e e') :
    e'.findRegistry u = some g := by
  rw [h.find, if_pos rfl]

/-- Of two registries stored for a unit, the later one counts. -/
theorem Stored.trans {u : SourceUnit} {g g' : Registry} {e e' e'' : Engine}
    (h : Stored u g e e') (h' : Stored u g' e' e'') : Stored u g' e e'' where
  find v := by
    rw [h'.find, h.find]
    split <;> rfl
  backlogs := h'.backlogs.trans h.backlogs
  used := h'.used.trans h.used
  sink := h'.sink.trans h.sink

/-- Notices do not matter to what is stored. -/
theorem Stored.withNotices {u : SourceUnit} {g : Registry} {e e' : Engine}
    (h : Stored u g e e') (ns : List Notice) : Stored u g e (e'.withNotices ns) :=
  ⟨h.find, h.backlogs, h.used, h.sink⟩

/-- A registry that is replaced is stored, and nothing else changes. -/
theorem stored_withRegistry (e : Engine) (g : Registry) :
    Stored g.unit g e (e.withRegistry g) where
  find := findRegistry_withRegistry e g
  backlogs := rfl
  used := rfl
  sink := rfl

/-- To open the registry of a unit never fails, and stores an empty one where there was none. -/
theorem openRegistry_on (u : SourceUnit) (e : Engine) :
    ∃ e', (openRegistry u).on e = (.ok (e.registryD u), e') ∧ Stored u (e.registryD u) e e' := by
  unfold openRegistry registryD
  rw [on_bind_of_ok (on_get e)]
  cases h : e.findRegistry u with
  | none => exact ⟨_, rfl, stored_withRegistry e { unit := u }⟩
  -- nothing changes, and to store what is there already changes nothing either
  | some g =>
    refine ⟨e, rfl, fun v => ?_, rfl, rfl, rfl⟩
    by_cases hv : v = u
    · rw [if_pos hv, hv, h, Option.getD_some]
    · rw [if_neg hv]

/-- A registration stays with the unit. -/
theorem register_unit {g g' : Registry} {d : Directive} {ns : List Notice}
    (h : g.register d = .ok (g', ns)) : g'.unit = g.unit := by
  unfold Registry.register at h
  obtain ⟨p, -, hp⟩ := bind_eq_ok_iff.mp h
  cases hp
  cases p <;> rfl

/-- A directive that has a place is stored, whether or not its range can be written. -/
theorem register_on_stored {u : SourceUnit} {d : Directive} {e : Engine} {g : Registry}
    {ns : List Notice} (h : (e.registryD u).register d = .ok (g, ns)) :
    ∃ e', (register u d).on e = (d.range.written.map fun _ => (), e') ∧ Stored u g e e' := by
  obtain ⟨e₁, hopen, hstored⟩ := openRegistry_on u e
  have hunit : g.unit = u := (register_unit h).trans (registryD_unit e u)
  -- the registry that was opened gives way to the one with the directive
  have hlast := stored_withRegistry e₁ g
  rw [hunit] at hlast
  have hentered := (hstored.trans hlast).withNotices ns
  cases hw : d.range.written with
  | error f =>
    refine ⟨(e₁.withRegistry g).withNotices ns, ?_, hentered⟩
    rw [register, on_bind_of_ok hopen, h, hw]
    rfl
  | ok text =>
    let done : Notice := .registered u d.anchor text d.patternText
    refine ⟨((e₁.withRegistry g).withNotices ns).withNotices [done], ?_,
      hentered.withNotices [done]⟩
    rw [register, on_bind_of_ok hopen, h, hw]
    rfl

/-- A directive that has a place and can be written is registered. -/
theorem register_on {u : SourceUnit} {d : Directive} {e : Engine} {g : Registry}
    {ns : List Notice} (h : (e.registryD u).register d = .ok (g, ns))
    (hw : d.range.isWritable = true) :
    ∃ e', (register u d).on e = (.ok (), e') ∧ Stored u g e e' := by
  obtain ⟨e', hon, hstored⟩ := register_on_stored h
  obtain ⟨text, htext⟩ := SourceRange.exists_written hw
  rw [htext] at hon
  exact ⟨e', hon, hstored⟩

/-- A directive that has a place but cannot be written fails the call after it was stored. -/
theorem register_on_unwritable {u : SourceUnit} {d : Directive} {e : Engine} {g : Registry}
    {ns : List Notice} (h : (e.registryD u).register d = .ok (g, ns))
    (hw : d.range.isWritable = false) :
    ∃ e', (register u d).on e = (.error (.tooManyDigits 0), e') ∧ Stored u g e e' := by
  obtain ⟨e', hon, hstored⟩ := register_on_stored h
  rw [SourceRange.written_eq_error hw] at hon
  exact ⟨e', hon, hstored⟩

/-- A directive without a place fails the call before anything was stored. -/
theorem register_on_error {u : SourceUnit} {d : Directive} {e : Engine} {f : Fault}
    (h : (e.registryD u).register d = .error f) :
    ∃ e', (register u d).on e = (.error f, e') ∧ Stored u (e.registryD u) e e' := by
  obtain ⟨e₁, hopen, hstored⟩ := openRegistry_on u e
  refine ⟨e₁, ?_, hstored⟩
  rw [register, on_bind_of_ok hopen, h]
  rfl

/-- Conversely, a registration that succeeds had a place for the directive and could write it. -/
theorem register_ok {u : SourceUnit} {d : Directive} {e e' : Engine}
    (h : (register u d).on e = (.ok (), e')) :
    ∃ g ns, (e.registryD u).register d = .ok (g, ns) ∧ d.range.isWritable = true ∧
      Stored u g e e' := by
  cases hreg : (e.registryD u).register d with
  | error f =>
    obtain ⟨e₁, hon, -⟩ := register_on_error hreg
    rw [hon] at h
    cases h
  | ok r =>
    cases hw : d.range.isWritable with
    | false =>
      obtain ⟨e₂, hon, -⟩ := register_on_unwritable hreg hw
      rw [hon] at h
      cases h
    | true =>
      obtain ⟨e₂, hon, hstored⟩ := register_on hreg hw
      rw [hon] at h
      cases h
      exact ⟨r.1, r.2, rfl, rfl, hstored⟩

/-- Directives that all have a place and can be written are registered one by one. -/
theorem registerAll_on {u : SourceUnit} {ds : List Directive} {e : Engine} {g g' : Registry}
    (hg : e.findRegistry u = some g) (h : g.registerAll ds = .ok g')
    (hw : ∀ d ∈ ds, d.range.isWritable = true) :
    ∃ e', (registerAll u ds).on e = (.ok (), e') ∧ Stored u g' e e' := by
  induction ds generalizing e g with
  | nil =>
    cases h
    refine ⟨e, rfl, fun v => ?_, rfl, rfl, rfl⟩
    by_cases hv : v = u
    · rw [if_pos hv, hv, hg]
    · rw [if_neg hv]
  | cons d rest ih =>
    obtain ⟨hd, hwrest⟩ := List.forall_mem_cons.mp hw
    obtain ⟨⟨g₁, ns⟩, hreg, hrest⟩ := bind_eq_ok_iff.mp h
    have hD : e.registryD u = g := by rw [registryD, hg, Option.getD_some]
    obtain ⟨e₁, hon, hstored⟩ := register_on (hD.symm ▸ hreg) hd
    obtain ⟨e₂, hon₂, hstored₂⟩ := ih hstored.find_self hrest hwrest
    exact ⟨e₂, by rw [registerAll, on_bind_of_ok hon, hon₂], hstored.trans hstored₂⟩

/-- Conversely, registrations that all succeed had these places. -/
theorem registerAll_ok {u : SourceUnit} {ds : List Directive} {e e' : Engine} {g : Registry}
    (hg : e.findRegistry u = some g) (h : (registerAll u ds).on e = (.ok (), e')) :
    ∃ g', g.registerAll ds = .ok g' ∧ (∀ d ∈ ds, d.range.isWritable = true) ∧
      Stored u g' e e' := by
  induction ds generalizing e g with
  | nil =>
    -- a run is determined, so the lemma on runs that succeed also reads them backwards
    obtain ⟨e₁, hon, hstored⟩ :=
      registerAll_on hg (show g.registerAll [] = .ok g from rfl) (List.forall_mem_nil _)
    rw [hon] at h
    cases h
    exact ⟨g, rfl, List.forall_mem_nil _, hstored⟩
  | cons d rest ih =>
    obtain ⟨_, e₁, hd, hrest⟩ := on_bind_eq_ok_iff.mp h
    obtain ⟨g₁, ns, hreg, hw, hstored⟩ := register_ok hd
    obtain ⟨g₂, hg₂, hwrest, hstored₂⟩ := ih hstored.find_self hrest
    rw [registryD, hg, Option.getD_some] at hreg
    exact ⟨g₂, bind_eq_ok_iff.mpr ⟨_, hreg, hg₂⟩, List.forall_mem_cons.mpr ⟨hw, hwrest⟩,
      hstored.trans hstored₂⟩

/-- Registrations that fail end at one of the directives; what is stored then depends on the
    registry alone. -/
theorem registerAll_on_error {u : SourceUnit} {ds : List Directive} {g : Registry} {f : Fault}
    (h : g.enterAll ds = .error f) :
    ∃ g₁, ∀ e : Engine, e.findRegistry u = some g →
      ∃ e', (registerAll u ds).on e = (.error f, e') ∧ Stored u g₁ e e' := by
  induction ds generalizing g with
  | nil => cases h
  | cons d rest ih =>
    have hD {e : Engine} (hg : e.findRegistry u = some g) : e.registryD u = g := by
      rw [registryD, hg, Option.getD_some]
    -- the first one has no place, or cannot be written, or it is entered and a later one fails
    rcases bind_eq_error_iff.mp h with hreg | ⟨⟨g₁, ns⟩, hreg, h⟩
    · refine ⟨g, fun e hg => ?_⟩
      obtain ⟨e₁, hon, hstored⟩ := register_on_error (by rw [hD hg, hreg])
      rw [hD hg] at hstored
      exact ⟨e₁, by rw [registerAll, on_bind, hon], hstored⟩
    · rcases bind_eq_error_iff.mp h with htext | ⟨text, htext, hrest⟩
      · refine ⟨g₁, fun e hg => ?_⟩
        obtain ⟨e₁, hon, hstored⟩ := register_on_stored (by rw [hD hg, hreg])
        rw [htext] at hon
        exact ⟨e₁, by rw [registerAll, on_bind, hon]; rfl, hstored⟩
      · obtain ⟨g₂, hfails⟩ := ih hrest
        refine ⟨g₂, fun e hg => ?_⟩
        obtain ⟨e₁, hon, hstored⟩ := register_on_stored (by rw [hD hg, hreg])
        rw [htext] at hon
        obtain ⟨e₂, hon₂, hstored₂⟩ := hfails e₁ hstored.find_self
        exact ⟨e₂, by rw [registerAll, on_bind_of_ok hon, hon₂], hstored.trans hstored₂⟩

/-! ## Backlogs of units -/

/-- What waits depends on the backlogs only. -/
theorem waiting_congr {e e' : Engine} (h : e'.backlogs = e.backlogs) (u : SourceUnit) :
    e'.waiting u = e.waiting u := by
  rw [waiting, waiting, h]

theorem isWaiting_congr {e e' : Engine} (h : e'.backlogs = e.backlogs) (u : SourceUnit) :
    e'.isWaiting u = e.isWaiting u := by
  rw [isWaiting, h, isWaiting]

/-- A unit for which something waits has a backlog. -/
theorem mem_backlog_units {e : Engine} {u : SourceUnit} {d : Diagnostic} (h : d ∈ e.waiting u) :
    u ∈ e.backlogs.map (·.unit) := by
  unfold waiting at h
  cases hb : e.backlogs.find? fun b => b.unit == u with
  | none => simp [hb] at h
  | some b =>
    have hu : b.unit = u := by simpa using List.find?_some hb
    exact List.mem_map.mpr ⟨b, List.mem_of_find?_eq_some hb, hu⟩

/-- After a backlog is taken away, nothing waits for its unit, and for others as before. -/
theorem waiting_withoutWaiting (e : Engine) (u v : SourceUnit) :
    (e.withoutWaiting u).waiting v = if v = u then [] else e.waiting v := by
  unfold waiting withoutWaiting
  by_cases hv : v = u
  · have hnone : (e.backlogs.filter fun b => b.unit != u).find? (fun b => b.unit == v) = none := by
      rw [List.find?_eq_none]
      intro b hb
      simpa [hv] using (List.mem_filter.mp hb).2
    rw [if_pos hv, hnone]
    rfl
  · rw [if_neg hv, List.find?_filter]
    -- a backlog of `v` is not one of `u`
    refine congrArg (fun b : Option Backlog => (b.map (·.waiting)).getD []) ?_
    refine congrArg (e.backlogs.find? ·) (funext fun b => ?_)
    by_cases hb : b.unit = v <;> simp [hb, hv]

/-- A diagnostic that is held waits behind the others of its unit. -/
theorem waiting_withWaiting (e : Engine) (d : Diagnostic) (v : SourceUnit) :
    (e.withWaiting d).waiting v = if d.unit = v then e.waiting v ++ [d] else e.waiting v := by
  unfold withWaiting waiting isWaiting
  generalize e.backlogs = bs
  by_cases hw : (bs.any fun b => b.unit == d.unit) = true
  · -- the backlog of a unit is found where it was, longer by `d` if it is the one of `d`
    let grow (b : Backlog) : Backlog :=
      if b.unit = d.unit then { b with waiting := b.waiting ++ [d] } else b
    have hunit : ((fun b : Backlog => b.unit == v) ∘ grow) = fun b => b.unit == v := by
      funext b
      by_cases hb : b.unit = d.unit <;> simp [grow, hb]
    simp only [hw, if_true]
    rw [List.find?_map, hunit]
    cases hb : bs.find? fun b => b.unit == v with
    | none =>
      have hne : d.unit ≠ v := by
        rintro rfl
        rw [List.find?_eq_none] at hb
        obtain ⟨b, hmem, hu⟩ := List.any_eq_true.mp hw
        exact hb b hmem hu
      rw [if_neg hne]
      rfl
    | some b =>
      have hbv : b.unit = v := by simpa using List.find?_some hb
      by_cases hv : d.unit = v
      · simp [hbv, hv]
      · simp [hbv, hv, Ne.symm hv]
  · -- a new backlog at the end, and none of its unit before
    have hnone : (bs.find? fun b => b.unit == d.unit) = none := by simpa using hw
    by_cases hv : d.unit = v
    · subst hv
      simp [hw, hnone]
    · simp [hw, hv]

/-! ## Decisions -/

/-- The directives of a registry, none without one. -/
def directivesIn (g : Option Registry) : List Directive := (g.map (·.directives)).getD []

/-- What a registry, if there is one, has for a diagnostic. -/
def lookup (g : Option Registry) (d : Diagnostic) : Except Fault (Option Directive) :=
  match g with
  | none => .ok none
  | some g => g.find? d.position d.message

/-- A lookup gives the first directive that applies, in the order in which they are stored. -/
theorem lookup_eq (g : Option Registry) (d : Diagnostic) :
    lookup g d = Registry.firstMatch d.position d.message (directivesIn g) := by
  cases g <;> rfl

/-- A unit without a registry has no directives. -/
theorem directivesIn_findRegistry (e : Engine) (u : SourceUnit) :
    directivesIn (e.findRegistry u) = (e.registryD u).directives := by
  unfold registryD
  cases e.findRegistry u <;> rfl

/-- The directive that claims a diagnostic; none also if the lookup fails. -/
def claimant (g : Option Registry) (d : Diagnostic) : Option Directive :=
  match lookup g d with
  | .ok c => c
  | .error _ => none

/-- The decision about a diagnostic. -/
def verdict (g : Option Registry) (d : Diagnostic) : Outcome :=
  if (claimant g d).isSome then .suppressed else .forwarded

/-- Whether a diagnostic is forwarded. -/
def passes (g : Option Registry) (d : Diagnostic) : Bool := (claimant g d).isNone

/-- What passes is what is forwarded. -/
theorem verdict_eq_forwarded_iff {g : Option Registry} {d : Diagnostic} :
    verdict g d = .forwarded ↔ passes g d = true := by
  unfold verdict passes
  cases claimant g d <;> simp

/-- A verdict never puts off a diagnostic. -/
theorem verdict_ne_deferred (g : Option Registry) (d : Diagnostic) :
    verdict g d ≠ .deferred := by
  unfold verdict
  split <;> simp

/-- The engine after the decision of some diagnostics, none of which failed: those without a
    claimant went to the sink in order, the claimants of the others count as used, and nothing
    else that decisions read or write is touched. -/
structure Settled (g : Option Registry) (ds : List Diagnostic) (e e' : Engine) : Prop where
  found : ∀ d ∈ ds, (lookup g d).isOk
  sink : e'.sink = e.sink ++ ds.filter (passes g)
  used : e'.used = e.used ++ (ds.filterMap (claimant g)).map (·.id)
  registries : e'.registries = e.registries
  backlogs : e'.backlogs = e.backlogs

/-- With nothing to settle, nothing changes. -/
theorem Settled.nil (g : Option Registry) (e : Engine) : Settled g [] e e :=
  ⟨nofun, by simp, by simp, rfl, rfl⟩

/-- To settle diagnostics is to settle the first, and then the others from there. -/
theorem Settled.cons {g : Option Registry} {d : Diagnostic} {ds : List Diagnostic}
    {e e' e'' : Engine} (h : Settled g [d] e e') (h' : Settled g ds e' e'') :
    Settled g (d :: ds) e e'' where
  found := List.forall_mem_cons.mpr ⟨h.found d (List.mem_singleton_self d), h'.found⟩
  sink := by
    rw [h'.sink, h.sink, List.append_assoc, ← List.filter_append]
    rfl
  used := by
    rw [h'.used, h.used, List.append_assoc, ← List.map_append, ← List.filterMap_append]
    rfl
  registries := h'.registries.trans h.registries
  backlogs := h'.backlogs.trans h.backlogs

/-- A diagnostic that can be looked up is settled by its verdict. -/
theorem release_on {g : Option Registry} {d : Diagnostic} (e : Engine) (h : (lookup g d).isOk) :
    ∃ e', (release g d).on e = (.ok (verdict g d), e') ∧ Settled g [d] e e' := by
  have hfound : ∀ x ∈ [d], (lookup g x).isOk := List.forall_mem_singleton.mpr h
  cases g with
  | none => exact ⟨e.withSent d, rfl, hfound, rfl, (List.append_nil _).symm, rfl, rfl⟩
  | some g =>
    cases hc : g.find? d.position d.message with
    | error f => simp [lookup, hc, Except.isOk, Except.toBool] at h
    | ok c =>
      have hclaim : claimant (some g) d = c := by rw [claimant, lookup, hc]
      -- nothing claims the diagnostic and it is sent, or a directive does and is marked as used
      cases c with
      | none =>
        refine ⟨e.withSent d, ?_, hfound, ?_, ?_, rfl, rfl⟩
        · rw [release, decide, hc, verdict, hclaim]
          rfl
        · simp [withSent, passes, hclaim]
        · simp [withSent, hclaim]
      | some s =>
        refine ⟨(e.withUsed s).withNotices [.suppressed g.unit (.directive s.anchor)], ?_, hfound,
          ?_, ?_, rfl, rfl⟩
        · rw [release, decide, hc, verdict, hclaim]
          rfl
        · simp [withUsed, withNotices, passes, hclaim]
        · simp [withUsed, withNotices, hclaim]

/-- A lookup that fails changes nothing. -/
theorem release_on_error {g : Option Registry} {d : Diagnostic} {f : Fault} (e : Engine)
    (h : lookup g d = .error f) : (release g d).on e = (.error f, e) := by
  cases g with
  | none => cases h
  | some g =>
    rw [lookup] at h
    rw [release, decide, h]
    rfl

/-- Conversely, a diagnostic that was released had a verdict, and is settled by it. -/
theorem release_ok {g : Option Registry} {d : Diagnostic} {e e' : Engine} {o : Outcome}
    (h : (release g d).on e = (.ok o, e')) :
    o = verdict g d ∧ Settled g [d] e e' := by
  cases hl : lookup g d with
  | error f =>
    rw [release_on_error e hl] at h
    cases h
  | ok c =>
    have hok : (lookup g d).isOk := by rw [hl]; rfl
    obtain ⟨e₁, hon, hs⟩ := release_on e hok
    rw [hon] at h
    cases h
    exact ⟨rfl, hs⟩

/-! ### Several decisions

A replay tells the outcomes and a release what was forwarded; both decide one by one. -/

/-- Decides diagnostics that waited, in order. -/
def releaseEach (g : Option Registry) : List Diagnostic → Run (List Outcome)
  | [] => pure []
  | d :: ds => do
    let o ← release g d
    let os ← releaseEach g ds
    return o :: os

/-- The run lemma: diagnostics that can all be looked up are settled in order. -/
theorem releaseEach_on {g : Option Registry} {ds : List Diagnostic} (e : Engine)
    (h : ∀ d ∈ ds, (lookup g d).isOk) :
    ∃ e', (releaseEach g ds).on e = (.ok (ds.map (verdict g)), e') ∧ Settled g ds e e' := by
  induction ds generalizing e with
  | nil => exact ⟨e, rfl, Settled.nil _ e⟩
  | cons d ds ih =>
    obtain ⟨e₁, hd, hs⟩ := release_on e (h d List.mem_cons_self)
    obtain ⟨e₂, hds, hs₂⟩ := ih e₁ fun x hx => h x (List.mem_cons_of_mem _ hx)
    refine ⟨e₂, ?_, hs.cons hs₂⟩
    rw [releaseEach, on_bind_of_ok hd, on_bind_of_ok hds]
    rfl

/-- Conversely, diagnostics that were all released are settled in order. -/
theorem releaseEach_ok {g : Option Registry} {ds : List Diagnostic} {e e' : Engine}
    {os : List Outcome} (h : (releaseEach g ds).on e = (.ok os, e')) :
    os = ds.map (verdict g) ∧ Settled g ds e e' := by
  induction ds generalizing e os with
  | nil =>
    cases h
    exact ⟨rfl, Settled.nil _ _⟩
  | cons d ds ih =>
    obtain ⟨o, e₁, hd, h⟩ := on_bind_eq_ok_iff.mp h
    obtain ⟨os', e₂, hds, h⟩ := on_bind_eq_ok_iff.mp h
    cases h
    obtain ⟨rfl, hs⟩ := release_ok hd
    obtain ⟨rfl, hs₂⟩ := ih hds
    exact ⟨rfl, hs.cons hs₂⟩

/-- A replay releases what waited to the registry of the unit. -/
theorem decideAll_eq (g : Registry) (ds : List Diagnostic) :
    decideAll g ds = releaseEach (some g) ds := by
  induction ds with
  | nil => rfl
  | cons d ds ih =>
    rw [decideAll, releaseEach, ih]
    rfl

theorem decideAll_on {g : Registry} {ds : List Diagnostic} (e : Engine)
    (h : ∀ d ∈ ds, (lookup (some g) d).isOk) :
    ∃ e', (decideAll g ds).on e = (.ok (ds.map (verdict (some g))), e') ∧
      Settled (some g) ds e e' := by
  rw [decideAll_eq]
  exact releaseEach_on e h

theorem decideAll_ok {g : Registry} {ds : List Diagnostic} {e e' : Engine} {os : List Outcome}
    (h : (decideAll g ds).on e = (.ok os, e')) :
    os = ds.map (verdict (some g)) ∧ Settled (some g) ds e e' := by
  rw [decideAll_eq] at h
  exact releaseEach_ok h

/-- What some outcomes say was forwarded. -/
def forwardedBy : List Diagnostic → List Outcome → List Diagnostic
  | d :: ds, o :: os => if o = .forwarded then d :: forwardedBy ds os else forwardedBy ds os
  | _, _ => []

/-- By the verdicts, exactly what passes is forwarded. -/
theorem forwardedBy_verdict (g : Option Registry) (ds : List Diagnostic) :
    forwardedBy ds (ds.map (verdict g)) = ds.filter (passes g) := by
  induction ds with
  | nil => rfl
  | cons d ds ih =>
    rw [List.map_cons, forwardedBy, ih, List.filter_cons]
    simp only [verdict_eq_forwarded_iff]

/-- A flush releases as a replay does, and answers with what was forwarded. -/
theorem releaseAll_eq (g : Option Registry) (ds : List Diagnostic) (e : Engine) :
    (releaseAll g ds).on e =
      (((releaseEach g ds).on e).1.map (forwardedBy ds), ((releaseEach g ds).on e).2) := by
  induction ds generalizing e with
  | nil => rfl
  | cons d ds ih =>
    rw [releaseAll, releaseEach, on_bind, on_bind]
    rcases (release g d).on e with ⟨f | o, e₁⟩
    · rfl
    · simp only [on_bind, ih]
      rcases (releaseEach g ds).on e₁ with ⟨f | os, e₂⟩ <;> rfl

/-- What waits and can be looked up is settled by a flush, which answers with what passes. -/
theorem releaseAll_on {g : Option Registry} {ds : List Diagnostic} (e : Engine)
    (h : ∀ d ∈ ds, (lookup g d).isOk) :
    ∃ e', (releaseAll g ds).on e = (.ok (ds.filter (passes g)), e') ∧ Settled g ds e e' := by
  obtain ⟨e', hon, hs⟩ := releaseEach_on e h
  refine ⟨e', ?_, hs⟩
  rw [releaseAll_eq, hon, ← forwardedBy_verdict]
  rfl

theorem releaseAll_ok {g : Option Registry} {ds passed : List Diagnostic} {e e' : Engine}
    (h : (releaseAll g ds).on e = (.ok passed, e')) :
    passed = ds.filter (passes g) ∧ Settled g ds e e' := by
  rw [releaseAll_eq] at h
  rcases hon : (releaseEach g ds).on e with ⟨f | os, e₁⟩
  · rw [hon] at h
    cases h
  · rw [hon] at h
    cases h
    obtain ⟨rfl, hs⟩ := releaseEach_ok hon
    exact ⟨forwardedBy_verdict g ds, hs⟩

/-! ## Reports -/

/-- What reporting a diagnostic does, case by case. -/
inductive Reported (p : Policy) (d : Diagnostic) (e : Engine) : Outcome → Engine → Prop
  /-- Its severity may not be muffled. -/
  | exempt (h : p.mayMuffle d.severity = false) : Reported p d e .forwarded (e.withSent d)
  /-- A filter muffles it. -/
  | filtered (h : p.mayMuffle d.severity = true) (reason : Notice.Reason)
      (hf : p.filteredBy? d = .ok (some reason)) :
      Reported p d e .suppressed (e.withNotices [.suppressed d.unit reason])
  /-- It waits for the directives of its unit. -/
  | held (h : p.mayMuffle d.severity = true) (hf : p.filteredBy? d = .ok none)
      (hd : p.defers = true) (hw : e.findRegistry d.unit = none ∨ e.isWaiting d.unit = true) :
      Reported p d e .deferred (e.withWaiting d)
  /-- It is decided by the directives that its unit has now. -/
  | decided (h : p.mayMuffle d.severity = true) (hf : p.filteredBy? d = .ok none)
      (hd : p.defers = true → (e.findRegistry d.unit).isSome ∧ e.isWaiting d.unit = false)
      {e' : Engine} (hs : Settled (e.findRegistry d.unit) [d] e e') :
      Reported p d e (verdict (e.findRegistry d.unit) d) e'

/-- A diagnostic that no filter muffles is put off or released; which one is read off the state. -/
theorem reportUnfiltered_eq (p : Policy) (d : Diagnostic) (e : Engine) :
    (reportUnfiltered p d).on e =
      if p.defers && ((e.findRegistry d.unit).isNone || e.isWaiting d.unit) then
        (.ok .deferred, e.withWaiting d)
      else (release (e.findRegistry d.unit) d).on e := by
  rw [reportUnfiltered, on_bind_of_ok (on_get e)]
  by_cases hw : (p.defers && ((e.findRegistry d.unit).isNone || e.isWaiting d.unit)) = true
  · simp only [hw, if_true, on_hold]
  · simp only [hw, Bool.false_eq_true, if_false]
    cases e.findRegistry d.unit <;> rfl

/-- A severity that may not be muffled goes to the sink at once. -/
theorem report_exempt {p : Policy} {d : Diagnostic} (h : p.mayMuffle d.severity = false)
    (e : Engine) : (report p d).on e = (.ok .forwarded, e.withSent d) := by
  rw [report, h]
  rfl

/-- A filter that cannot search the message fails the call, and nothing changes. -/
theorem report_failed {p : Policy} {d : Diagnostic} (h : p.mayMuffle d.severity = true)
    {f : Fault} (hf : p.filteredBy? d = .error f) (e : Engine) :
    (report p d).on e = (.error f, e) := by
  rw [report, h, hf]
  rfl

/-- A filter that matches muffles the diagnostic, with notice of the reason. -/
theorem report_filtered {p : Policy} {d : Diagnostic} (h : p.mayMuffle d.severity = true)
    {reason : Notice.Reason} (hf : p.filteredBy? d = .ok (some reason)) (e : Engine) :
    (report p d).on e = (.ok .suppressed, e.withNotices [.suppressed d.unit reason]) := by
  rw [report, h, hf]
  rfl

theorem report_unfiltered {p : Policy} {d : Diagnostic} (h : p.mayMuffle d.severity = true)
    (hf : p.filteredBy? d = .ok none) (e : Engine) :
    (report p d).on e = (reportUnfiltered p d).on e := by
  rw [report, h, hf]
  rfl

/-- What a report that succeeds comes to, by the step that decided it. -/
theorem report_ok {p : Policy} {d : Diagnostic} {e e' : Engine} {o : Outcome}
    (h : (report p d).on e = (.ok o, e')) : Reported p d e o e' := by
  cases hm : p.mayMuffle d.severity with
  | false =>
    rw [report_exempt hm] at h
    cases h
    exact .exempt hm
  | true =>
    cases hf : p.filteredBy? d with
    | error f =>
      rw [report_failed hm hf] at h
      cases h
    | ok r =>
      cases r with
      | some reason =>
        rw [report_filtered hm hf] at h
        cases h
        exact .filtered hm reason hf
      | none =>
        rw [report_unfiltered hm hf, reportUnfiltered_eq] at h
        split at h
        · rename_i hw
          rw [Bool.and_eq_true, Bool.or_eq_true, Option.isNone_iff_eq_none] at hw
          cases h
          exact .held hm hf hw.1 hw.2
        · -- with or without a registry, the lookup decides
          rename_i hw
          obtain ⟨rfl, hs⟩ := release_ok h
          refine .decided hm hf (fun hd => ?_) hs
          simpa [hd, Option.isSome_iff_ne_none] using hw

/-! ## Replay and release -/

/-- A registry that is there is opened as it is. -/
theorem openRegistry_of_some {u : SourceUnit} {e : Engine} {g : Registry}
    (h : e.findRegistry u = some g) : (openRegistry u).on e = (.ok g, e) := by
  rw [openRegistry, on_bind_of_ok (on_get e), h]
  rfl

/-- Once the directives are registered, the rest is the replay of what waits. -/
theorem setDirectives_eq {u : SourceUnit} {ds : List Directive} {e e₁ e₂ : Engine} {g : Registry}
    (hopen : (openRegistry u).on e = (.ok (e.registryD u), e₁))
    (hreg : (registerAll u ds).on e₁ = (.ok (), e₂)) (hg : e₂.findRegistry u = some g) :
    ∃ ns, (setDirectives u ds).on e =
      (decideAll g (e₂.waiting u)).on ((e₂.withoutWaiting u).withNotices ns) := by
  have hopened : ∀ ns, (openRegistry u).on ((e₂.withoutWaiting u).withNotices ns) =
      (.ok g, (e₂.withoutWaiting u).withNotices ns) := fun _ => openRegistry_of_some hg
  rw [setDirectives, on_bind_of_ok hopen, on_bind_of_ok hreg, on_bind_of_ok (on_takeWaiting u e₂)]
  -- a replay of nothing gives no notice
  cases hw : !(e₂.waiting u).isEmpty with
  | false =>
    have hnil : (e₂.withoutWaiting u).withNotices [] = e₂.withoutWaiting u := by
      simp [withNotices]
    have hopen₂ := hopened []
    rw [hnil] at hopen₂
    refine ⟨[], ?_⟩
    simp only [Bool.false_eq_true, if_false]
    rw [on_bind_of_ok hopen₂, hnil]
  | true =>
    refine ⟨[.replayed u (e₂.waiting u).length], ?_⟩
    simp only [if_true]
    rw [on_bind_of_ok (on_notify _ _), on_bind_of_ok (hopened _)]

/-- The engine after a replay: the unit has the registry `g`, and what waited for it is decided. -/
structure Replayed (u : SourceUnit) (g : Registry) (e e' : Engine) : Prop where
  found : ∀ d ∈ e.waiting u, (lookup (some g) d).isOk
  find : ∀ v, e'.findRegistry v = if v = u then some g else e.findRegistry v
  backlogs : e'.backlogs = (e.withoutWaiting u).backlogs
  used : e'.used = e.used ++ ((e.waiting u).filterMap (claimant (some g))).map (·.id)
  sink : e'.sink = e.sink ++ (e.waiting u).filter (passes (some g))

/-- To store a registry and then to settle what waited is a replay. -/
theorem Stored.replayed {u : SourceUnit} {g : Registry} {e e₁ e' : Engine} {ns : List Notice}
    (h : Stored u g e e₁)
    (hs : Settled (some g) (e₁.waiting u) ((e₁.withoutWaiting u).withNotices ns) e') :
    Replayed u g e e' := by
  have hw := waiting_congr h.backlogs u
  rw [hw] at hs
  refine ⟨hs.found, fun v => ?_, ?_, ?_, ?_⟩
  · rw [findRegistry, hs.registries]
    exact h.find v
  · rw [hs.backlogs]
    show (e₁.withoutWaiting u).backlogs = _
    rw [withoutWaiting, h.backlogs]
    rfl
  · rw [hs.used]
    exact congrArg (· ++ _) h.used
  · rw [hs.sink]
    exact congrArg (· ++ _) h.sink

/-- Directives are set in a unit, and all that waited for it is decided by them. -/
theorem setDirectives_on {u : SourceUnit} {ds : List Directive} {e : Engine} {g : Registry}
    (hg : (e.registryD u).registerAll ds = .ok g) (hw : ∀ d ∈ ds, d.range.isWritable = true)
    (hl : ∀ d ∈ e.waiting u, (lookup (some g) d).isOk) :
    ∃ e', (setDirectives u ds).on e = (.ok ((e.waiting u).map (verdict (some g))), e') ∧
      Replayed u g e e' := by
  obtain ⟨e₁, hopen, hstored₁⟩ := openRegistry_on u e
  obtain ⟨e₂, hreg, hstored₂⟩ := registerAll_on hstored₁.find_self hg hw
  have hstored := hstored₁.trans hstored₂
  obtain ⟨ns, heq⟩ := setDirectives_eq hopen hreg hstored.find_self
  have hwaiting := waiting_congr hstored.backlogs u
  obtain ⟨e', hon, hs⟩ :=
    decideAll_on ((e₂.withoutWaiting u).withNotices ns) (hwaiting.symm ▸ hl)
  exact ⟨e', by rw [heq, hon, hwaiting], hstored.replayed hs⟩

/-- Conversely, directives that were set had places, and what waited was decided by them. -/
theorem setDirectives_ok {u : SourceUnit} {ds : List Directive} {e e' : Engine}
    {os : List Outcome} (h : (setDirectives u ds).on e = (.ok os, e')) :
    ∃ g, (e.registryD u).registerAll ds = .ok g ∧ (∀ d ∈ ds, d.range.isWritable = true) ∧
      os = (e.waiting u).map (verdict (some g)) ∧ Replayed u g e e' := by
  obtain ⟨e₁, hopen, hstored₁⟩ := openRegistry_on u e
  -- the registrations succeeded too; with their result the whole is the replay
  have h' := h
  unfold setDirectives at h'
  rw [on_bind_of_ok hopen] at h'
  obtain ⟨_, e₂, hreg, -⟩ := on_bind_eq_ok_iff.mp h'
  obtain ⟨g, hg, hw, hstored₂⟩ := registerAll_ok hstored₁.find_self hreg
  have hstored := hstored₁.trans hstored₂
  obtain ⟨ns, heq⟩ := setDirectives_eq hopen hreg hstored.find_self
  rw [heq] at h
  obtain ⟨rfl, hs⟩ := decideAll_ok h
  exact ⟨g, hg, hw, by rw [waiting_congr hstored.backlogs], hstored.replayed hs⟩

/-- Where the registrations fail, nothing is replayed. -/
theorem setDirectives_on_error {u : SourceUnit} {ds : List Directive} {g : Registry} {f : Fault}
    (h : g.enterAll ds = .error f) :
    ∃ g₁, ∀ e : Engine, e.registryD u = g →
      ∃ e', (setDirectives u ds).on e = (.error f, e') ∧ Stored u g₁ e e' := by
  obtain ⟨g₁, hfails⟩ := registerAll_on_error h
  refine ⟨g₁, fun e hD => ?_⟩
  obtain ⟨e₁, hopen, hstored₁⟩ := openRegistry_on u e
  rw [hD] at hstored₁
  obtain ⟨e₂, hreg, hstored₂⟩ := hfails e₁ hstored₁.find_self
  refine ⟨e₂, ?_, hstored₁.trans hstored₂⟩
  rw [setDirectives, on_bind_of_ok hopen, on_bind, hreg]

/-- A flush takes the backlog away before it releases it. -/
theorem flush_eq (u : SourceUnit) (e : Engine) :
    (flush u).on e = (releaseAll (e.findRegistry u) (e.waiting u)).on (e.withoutWaiting u) := by
  rw [flush, on_bind_of_ok (on_takeWaiting u e), on_bind_of_ok (on_get _)]
  rfl

/-- A flush that can look up all that waits settles it. -/
theorem flush_on {u : SourceUnit} {e : Engine}
    (hl : ∀ d ∈ e.waiting u, (lookup (e.findRegistry u) d).isOk) :
    ∃ e', (flush u).on e = (.ok ((e.waiting u).filter (passes (e.findRegistry u))), e') ∧
      Settled (e.findRegistry u) (e.waiting u) (e.withoutWaiting u) e' := by
  rw [flush_eq]
  exact releaseAll_on _ hl

/-- Conversely, a flush that succeeds has settled all that waited. -/
theorem flush_ok {u : SourceUnit} {e e' : Engine} {passed : List Diagnostic}
    (h : (flush u).on e = (.ok passed, e')) :
    passed = (e.waiting u).filter (passes (e.findRegistry u)) ∧
      Settled (e.findRegistry u) (e.waiting u) (e.withoutWaiting u) e' := by
  rw [flush_eq] at h
  exact releaseAll_ok h

/-- The notice of a report that names some directives. -/
def unusedNotices (u : SourceUnit) (ds : List Directive) : List Notice :=
  if !ds.isEmpty then [.unusedReported u ds.length] else []

/-- A report of unused directives sends one diagnostic for each, and never fails. -/
theorem reportUnused_on (p : Policy) (u : SourceUnit) (e : Engine) :
    (reportUnused p u).on e =
      (.ok (unusedOf p e u),
        { e with sink := e.sink ++ (unusedOf p e u).map (unusedReport u) }.withNotices
          (unusedNotices u (unusedOf p e u))) := by
  unfold reportUnused unusedNotices
  rw [on_bind_of_ok (on_get e), on_bind_of_ok (on_modify _ e)]
  cases hd : !(unusedOf p e u).isEmpty with
  | false => simp [withNotices]
  | true => rfl

end Muffle.Engine
