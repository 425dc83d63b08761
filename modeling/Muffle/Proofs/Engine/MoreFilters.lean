/-
  Muffle.Proofs.Engine.MoreFilters

  More filters never let more through. Two engines take the same operations, the second one under
  a policy that has more filters and is the same otherwise. What a filter takes away from the
  second engine is missing there from the backlog of its unit, and later from the sink; the
  directives that would have claimed it may stay unused. Nothing else differs, since the registries
  of both engines are the same.

  That a diagnostic is missing from a backlog could change how later ones are treated, because a
  diagnostic also waits behind others of its unit. It does not where directives come in sets: then
  nothing waits for a unit that has a registry (`Served`), so a diagnostic waits in both engines or
  in neither, unless a filter takes it first.
-/

import Muffle.Pattern.Standard
import Muffle.Proofs.Engine.Isolation
import Muffle.Proofs.Engine.Removal
import Muffle.Proofs.Engine.Usage

namespace Muffle

/-! ## Policies with more filters -/

/-- No filter matches if each was asked and said no. -/
theorem PatternFilter.anyMatches_eq_false_iff {fs : List PatternFilter} {v : Value} :
    PatternFilter.anyMatches fs v = .ok false ↔ ∀ f ∈ fs, f.matchesValue v = .ok false := by
  induction fs with
  | nil => exact ⟨fun _ _ hf => absurd hf List.not_mem_nil, fun _ => rfl⟩
  | cons f fs ih =>
    rw [List.forall_mem_cons, ← ih, PatternFilter.anyMatches]
    rcases f.matchesValue v with fault | _ | _ <;> simp

/-- The second policy has all the filters of the first one, and is the same otherwise. -/
structure Policy.Fewer (p q : Policy) : Prop where
  globalFilters : p.config.globalFilters ⊆ q.config.globalFilters
  pathFilters : p.config.pathFilters ⊆ q.config.pathFilters
  others : q.config =
    { p.config with
      globalFilters := q.config.globalFilters
      pathFilters := q.config.pathFilters }
  workDir : q.workDir = p.workDir

/-- More filters let fewer diagnostics pass. -/
theorem Policy.fewer_of_subset {p : Policy} {fs gs : List PatternFilter}
    (hfs : p.config.globalFilters ⊆ fs) (hgs : p.config.pathFilters ⊆ gs) :
    p.Fewer { p with config := { p.config with globalFilters := fs, pathFilters := gs } } :=
  ⟨hfs, hgs, rfl, rfl⟩

namespace Policy.Fewer

variable {p q : Policy} (h : Policy.Fewer p q)

include h

/-- The severities that may be muffled are the same. -/
theorem mayMuffle_eq (s : Severity) : q.mayMuffle s = p.mayMuffle s := by
  rw [Policy.mayMuffle, h.others, Policy.mayMuffle]

theorem defers_eq : q.defers = p.defers := by
  rw [Policy.defers, h.others, Policy.defers]

/-- A path that fewer filters match is matched by more of them. -/
theorem matchesPath (u : SourceUnit) (hp : p.matchesPath u = true) : q.matchesPath u = true := by
  have hname : q.config.relativizeText q.workDir u.path =
      p.config.relativizeText p.workDir u.path := by
    rw [h.workDir, h.others]
    rfl
  obtain ⟨f, hf, hmatch⟩ := List.any_eq_true.mp hp
  refine List.any_eq_true.mpr ⟨f, h.pathFilters hf, ?_⟩
  rw [hname]
  exact hmatch

/-- What no filter of the second policy takes, none of the first one takes. -/
theorem filteredBy?_eq_none {d : Diagnostic} (hq : q.filteredBy? d = .ok none) :
    p.filteredBy? d = .ok none := by
  have hpath : ¬q.matchesPath d.unit = true := by
    intro hpath
    rw [Policy.filteredBy?, if_pos hpath] at hq
    cases hq
  rw [Policy.filteredBy?, if_neg hpath] at hq
  obtain ⟨b, hb, hq⟩ := bind_eq_ok_iff.mp hq
  cases b with
  | true => cases hq
  | false =>
    have hall := PatternFilter.anyMatches_eq_false_iff.mp hb
    have hfewer : PatternFilter.anyMatches p.config.globalFilters d.message = .ok false :=
      PatternFilter.anyMatches_eq_false_iff.mpr fun f hf => hall f (h.globalFilters hf)
    rw [Policy.filteredBy?, if_neg (fun hp => hpath (h.matchesPath d.unit hp)), hfewer]
    rfl

end Policy.Fewer

namespace Engine

variable {p q : Policy} {e e' e₂ e₂' : Engine} {u v : SourceUnit} {g : Option Registry}
  {d : Diagnostic} {ds ds₂ : List Diagnostic}

/-! ## Units that are served -/

/-- Nothing waits for a unit that has a registry. -/
def Served (e : Engine) : Prop := ∀ u, e.findRegistry u = none ∨ e.isWaiting u = false

theorem served_empty : Served {} := fun _ => .inl rfl

/-- A diagnostic that has to wait is of a unit without a registry. -/
theorem Served.unregistered (h : Served e)
    (hw : e.findRegistry u = none ∨ e.isWaiting u = true) : e.findRegistry u = none := by
  refine hw.elim id fun hwaits => (h u).resolve_right fun hidle => ?_
  rw [hidle] at hwaits
  cases hwaits

theorem Served.withoutWaiting (h : Served e) (u : SourceUnit) : Served (e.withoutWaiting u) := by
  intro v
  rw [isWaiting_withoutWaiting]
  split
  · exact .inr rfl
  · exact h v

/-- Deciding leaves nothing new to wait. -/
theorem Served.settled (h : Served e) (hs : Settled g ds e e') : Served e' := by
  intro v
  rw [findRegistry_congr hs.registries, isWaiting_congr hs.backlogs]
  exact h v

/-- A replay serves its unit. -/
theorem Served.replayed {r : Registry} (h : Served e) (hs : Replayed u r e e') : Served e' := by
  intro v
  rw [hs.find, isWaiting_congr hs.backlogs, isWaiting_withoutWaiting]
  split
  · exact .inr rfl
  · exact h v

/-- A diagnostic may wait if its unit has no registry. -/
theorem Served.withWaiting (h : Served e) (hd : e.findRegistry d.unit = none) :
    Served (e.withWaiting d) := by
  intro v
  rw [isWaiting_withWaiting]
  split
  · rename_i hv
    exact .inl (hv ▸ hd)
  · exact h v

theorem Served.reported {o : Outcome} (h : Served e) (hr : Reported p d e o e') : Served e' := by
  cases hr with
  | exempt | filtered => exact h
  | held _ _ _ hw => exact h.withWaiting (h.unregistered hw)
  | decided _ _ _ hs => exact h.settled hs

theorem Served.released {us : List SourceUnit} (h : Served e) (hr : Released us e ds e') :
    Served e' := by
  induction hr with
  | nil => exact h
  | @cons u us e e₁ e' more hs _ ih => exact ih ((h.withoutWaiting u).settled hs)

/-- Every operation of a history in sets keeps to it: where there is a registry, nothing waits. -/
theorem Served.performed {op : Operation} {a : Answer} (h : Served e) (hsets : op.InSets)
    (hp : Performed p e op a e') : Served e' := by
  cases hp with
  | registered | unusedReported => cases hsets
  | replayed _ _ hs => exact h.replayed hs
  | reported _ hr => exact h.reported hr
  | released hs => exact (h.withoutWaiting _).settled hs
  | releasedAll hr => exact h.released hr
  | emitted => exact h

/-! ## Releases of several units -/

/-- The diagnostics of one unit. -/
def ofUnit (u : SourceUnit) (ds : List Diagnostic) : List Diagnostic :=
  ds.filter fun d => d.unit = u

theorem ofUnit_append (u : SourceUnit) (ds ds' : List Diagnostic) :
    ofUnit u (ds ++ ds') = ofUnit u ds ++ ofUnit u ds' := List.filter_append ..

/-- What is let through of the backlog of a unit is of the unit. -/
theorem ofUnit_passes (hscreened : Screened p e) (u v : SourceUnit) :
    ofUnit v ((e.waiting u).filter (passes g)) =
      if v = u then (e.waiting u).filter (passes g) else [] := by
  have hunit : ∀ d ∈ (e.waiting u).filter (passes g), d.unit = u := fun d hd =>
    (hscreened u d (List.mem_of_mem_filter hd)).1
  rw [ofUnit]
  split
  · rename_i hv
    exact List.filter_eq_self.mpr fun d hd => by simp [hv, hunit d hd]
  · rename_i hv
    refine List.filter_eq_nil_iff.mpr fun d hd => ?_
    simp [hunit d hd, Ne.symm hv]

theorem Screened.settled_withoutWaiting (h : Screened p e)
    (hs : Settled g ds (e.withoutWaiting u) e') : Screened p e' := fun v d hd =>
  h v d (mem_waiting_of_withoutWaiting hs.backlogs hd)

/-- After a unit is settled, only the others wait. -/
theorem Settled.waiting_withoutWaiting (hs : Settled g ds (e.withoutWaiting u) e')
    (v : SourceUnit) : e'.waiting v = if v = u then [] else e.waiting v := by
  rw [waiting_congr hs.backlogs, Engine.waiting_withoutWaiting]

/-- What a release of some units adds to the sink of one unit: what passes of its backlog, if the
    unit is among them. -/
theorem Released.ofUnit_sink {us : List SourceUnit} (h : Released us e ds e')
    (hscreened : Screened p e) (v : SourceUnit) :
    ofUnit v e'.sink = ofUnit v e.sink ++
      if v ∈ us then (e.waiting v).filter (passes (e.findRegistry v)) else [] := by
  induction h with
  | nil => simp
  | @cons u us e e₁ e' more hs hrest ih =>
    have hsink : ofUnit v e₁.sink = ofUnit v e.sink ++
        if v = u then (e.waiting u).filter (passes (e.findRegistry u)) else [] := by
      rw [hs.sink, ofUnit_append, ofUnit_passes hscreened]
      rfl
    rw [ih (hscreened.settled_withoutWaiting hs), hsink, findRegistry_congr hs.registries,
      hs.waiting_withoutWaiting, List.append_assoc]
    by_cases hv : v = u
    · -- nothing is left of the unit for a second release
      subst hv
      simp
    · rw [if_neg hv, if_neg hv, List.nil_append]
      simp only [List.mem_cons, hv, false_or]
      rfl

/-- After some units are released, only the others wait. -/
theorem Released.waiting {us : List SourceUnit} (h : Released us e ds e') (v : SourceUnit) :
    e'.waiting v = if v ∈ us then [] else e.waiting v := by
  induction h with
  | nil => simp
  | @cons u us e e₁ e' more hs _ ih =>
    rw [ih, hs.waiting_withoutWaiting]
    by_cases hv : v = u <;> simp [hv]

/-- A release that succeeded found every directive it looked for. -/
theorem Released.found {us : List SourceUnit} (h : Released us e ds e') :
    ∀ u ∈ us, ∀ d ∈ e.waiting u, (lookup (e.findRegistry u) d).isOk := by
  induction h with
  | nil => exact fun u hu => absurd hu List.not_mem_nil
  | @cons u us e e₁ e' more hs _ ih =>
    intro v hv d hd
    by_cases hu : v = u
    · subst hu
      exact hs.found d hd
    · -- what waits for another unit still waits after the first release
      have hd₁ : d ∈ e₁.waiting v := by
        rw [hs.waiting_withoutWaiting, if_neg hu]
        exact hd
      have hfound := ih v ((List.mem_cons.mp hv).resolve_left hu) d hd₁
      rw [findRegistry_congr hs.registries] at hfound
      exact hfound

/-- A flush succeeds if all lookups do. -/
theorem flushUnits_on {us : List SourceUnit}
    (hl : ∀ u ∈ us, ∀ d ∈ e.waiting u, (lookup (e.findRegistry u) d).isOk) :
    ∃ ds e', (flushUnits us).on e = (.ok ds, e') := by
  induction us generalizing e with
  | nil => exact ⟨[], e, rfl⟩
  | cons u us ih =>
    obtain ⟨e₁, hflush, hs⟩ := flush_on (hl u List.mem_cons_self)
    have hl₁ : ∀ v ∈ us, ∀ d ∈ e₁.waiting v, (lookup (e₁.findRegistry v) d).isOk := by
      intro v hv d hd
      rw [hs.waiting_withoutWaiting] at hd
      split at hd
      · cases hd
      · rw [findRegistry_congr hs.registries]
        exact hl v (List.mem_cons_of_mem _ hv) d hd
    obtain ⟨more, e₂, hmore⟩ := ih hl₁
    exact ⟨_, e₂, by rw [flushUnits, on_bind_of_ok hflush, on_bind_of_ok hmore]; rfl⟩

/-- The release of all units leaves no backlog out. -/
theorem Released.ofUnit_sink_all (h : Released (e.backlogs.map (·.unit)) e ds e')
    (hscreened : Screened p e) (v : SourceUnit) :
    ofUnit v e'.sink =
      ofUnit v e.sink ++ (e.waiting v).filter (passes (e.findRegistry v)) := by
  rw [h.ofUnit_sink hscreened]
  split
  · rfl
  · rename_i hv
    have hnil : e.waiting v = [] :=
      List.eq_nil_iff_forall_not_mem.mpr fun d hd => hv (mem_backlog_units hd)
    rw [hnil]
    rfl

/-! ## The relation of the engines -/

/-- The second engine has the registries of the first one; of each unit fewer diagnostics wait and
    fewer were sent, in the same order; and fewer directives are of use. -/
structure Quieter (e e₂ : Engine) : Prop where
  find : ∀ u, e₂.findRegistry u = e.findRegistry u
  waiting : ∀ u, (e₂.waiting u).Sublist (e.waiting u)
  sink : ∀ u, (ofUnit u e₂.sink).Sublist (ofUnit u e.sink)
  used : ∀ x ∈ e₂.used, x ∈ e.used

theorem quieter_empty : Quieter {} {} :=
  ⟨fun _ => rfl, fun _ => .slnil, fun _ => .slnil, fun _ hx => hx⟩

theorem Quieter.withNotices (h : Quieter e e₂) (ns : List Notice) :
    Quieter e (e₂.withNotices ns) := ⟨h.find, h.waiting, h.sink, h.used⟩

theorem Quieter.withSent (h : Quieter e e₂) (d : Diagnostic) :
    Quieter (e.withSent d) (e₂.withSent d) where
  find := h.find
  waiting := h.waiting
  sink u := by
    rw [Engine.withSent, Engine.withSent, ofUnit_append, ofUnit_append]
    exact (h.sink u).append_right _
  used := h.used

theorem Quieter.withWaiting (h : Quieter e e₂) (d : Diagnostic) :
    Quieter (e.withWaiting d) (e₂.withWaiting d) where
  find := h.find
  waiting u := by
    rw [waiting_withWaiting, waiting_withWaiting]
    split
    · exact (h.waiting u).append_right _
    · exact h.waiting u
  sink := h.sink
  used := h.used

/-- A diagnostic that waits in the first engine only. -/
theorem Quieter.withWaiting_left (h : Quieter e e₂) (d : Diagnostic) :
    Quieter (e.withWaiting d) e₂ where
  find := h.find
  waiting u := by
    rw [waiting_withWaiting]
    split
    · exact (h.waiting u).trans (List.sublist_append_left _ _)
    · exact h.waiting u
  sink := h.sink
  used := h.used

theorem Quieter.withoutWaiting (h : Quieter e e₂) (u : SourceUnit) :
    Quieter (e.withoutWaiting u) (e₂.withoutWaiting u) where
  find := h.find
  waiting v := by
    rw [waiting_withoutWaiting, waiting_withoutWaiting]
    split
    · exact .slnil
    · exact h.waiting v
  sink := h.sink
  used := h.used

/-- Both engines decide by the same registry, the second one fewer diagnostics. -/
theorem Quieter.settled (h : Quieter e e₂) (hs : Settled g ds e e') (hs₂ : Settled g ds₂ e₂ e₂')
    (hds : ds₂.Sublist ds) : Quieter e' e₂' where
  find u := by
    rw [findRegistry_congr hs.registries, findRegistry_congr hs₂.registries]
    exact h.find u
  waiting u := by
    rw [waiting_congr hs.backlogs, waiting_congr hs₂.backlogs]
    exact h.waiting u
  sink u := by
    rw [hs.sink, hs₂.sink, ofUnit_append, ofUnit_append]
    exact (h.sink u).append ((hds.filter _).filter _)
  used x hx := by
    rw [hs₂.mem_used] at hx
    rw [hs.mem_used]
    refine hx.imp (h.used x) ?_
    rintro ⟨d, hd, hclaim⟩
    exact ⟨d, hds.subset hd, hclaim⟩

/-! ## One operation of both -/

theorem Quieter.registryD (h : Quieter e e₂) (u : SourceUnit) :
    e₂.registryD u = e.registryD u := by
  rw [Engine.registryD, h.find, Engine.registryD]

/-- A replay in both keeps the one quieter than the other. -/
theorem Quieter.replayed {r : Registry} (h : Quieter e e₂) (hs : Replayed u r e e')
    (hs₂ : Replayed u r e₂ e₂') : Quieter e' e₂' := by
  -- between the registrations and the decisions both engines have the registry
  have hmid : Quieter { e.withoutWaiting u with registries := e'.registries }
      { e₂.withoutWaiting u with registries := e₂'.registries } := by
    refine ⟨fun v => ?_, (h.withoutWaiting u).waiting, h.sink, h.used⟩
    show e₂'.findRegistry v = e'.findRegistry v
    rw [hs.find, hs₂.find, h.find]
  exact hmid.settled hs.settled hs₂.settled (h.waiting u)

/-- A diagnostic does not wait in one engine and get decided in the other. -/
theorem Quieter.waits_iff (h : Quieter e e₂) (hserved : Served e) (hserved₂ : Served e₂) :
    (e₂.findRegistry u = none ∨ e₂.isWaiting u = true) ↔
      (e.findRegistry u = none ∨ e.isWaiting u = true) := by
  constructor
  · intro hw
    rw [← h.find]
    exact .inl (hserved₂.unregistered hw)
  · intro hw
    rw [h.find]
    exact .inl (hserved.unregistered hw)

theorem not_waits (hg : (e.findRegistry u).isSome ∧ e.isWaiting u = false) :
    ¬(e.findRegistry u = none ∨ e.isWaiting u = true) := by
  rintro (hnone | hwaits)
  · rw [hnone] at hg
    cases hg.1
  · rw [hg.2] at hwaits
    cases hwaits

/-- The step for a diagnostic: decided alike, or filtered in the engine with more filters. -/
theorem Reported.quieter {o o₂ : Outcome} (hpq : p.Fewer q) (h : Reported p d e o e')
    (h₂ : Reported q d e₂ o₂ e₂') (hQ : Quieter e e₂) (hserved : Served e)
    (hserved₂ : Served e₂) : Quieter e' e₂' := by
  have hmuffle := hpq.mayMuffle_eq d.severity
  have hdefers := hpq.defers_eq
  have hwaits := hQ.waits_iff (u := d.unit) hserved hserved₂
  cases h₂ with
  | exempt hm₂ =>
    cases h with
    | exempt => exact hQ.withSent d
    | filtered hm | held hm | decided hm =>
      rw [hmuffle, hm] at hm₂
      cases hm₂
  | filtered hm₂ reason₂ =>
    cases h with
    | exempt hm =>
      rw [hmuffle, hm] at hm₂
      cases hm₂
    | filtered => exact ⟨hQ.find, hQ.waiting, hQ.sink, hQ.used⟩
    | held => exact (hQ.withWaiting_left d).withNotices _
    | decided _ _ _ hs =>
      -- the second engine decides nothing
      exact (hQ.settled hs (.nil _ e₂) (List.nil_sublist _)).withNotices _
  | held hm₂ hf₂ hd₂ hw₂ =>
    cases h with
    | exempt hm =>
      rw [hmuffle, hm] at hm₂
      cases hm₂
    | filtered _ reason hf =>
      rw [hpq.filteredBy?_eq_none hf₂] at hf
      cases hf
    | held => exact hQ.withWaiting d
    | decided _ _ hd =>
      rw [hdefers] at hd₂
      exact absurd (hwaits.mp hw₂) (not_waits (hd hd₂))
  | decided hm₂ hf₂ hd₂ hs₂ =>
    cases h with
    | exempt hm =>
      rw [hmuffle, hm] at hm₂
      cases hm₂
    | filtered _ reason hf =>
      rw [hpq.filteredBy?_eq_none hf₂] at hf
      cases hf
    | held _ _ hd hw =>
      rw [← hdefers] at hd
      exact absurd (hwaits.mpr hw) (not_waits (hd₂ hd))
    | decided _ _ _ hs =>
      rw [hQ.find] at hs₂
      exact hQ.settled hs hs₂ (List.Sublist.refl _)

/-- What is released with more filters is part of what is released with fewer. -/
theorem Released.quieter (h : Released (e.backlogs.map (·.unit)) e ds e')
    (h₂ : Released (e₂.backlogs.map (·.unit)) e₂ ds₂ e₂') (hQ : Quieter e e₂)
    (hscreened : Screened p e) (hscreened₂ : Screened q e₂) : Quieter e' e₂' where
  find u := by
    rw [findRegistry_congr h.registries, findRegistry_congr h₂.registries]
    exact hQ.find u
  waiting u := by
    -- after everything is flushed nothing waits
    have hempty : e₂'.waiting u = [] := by
      rw [h₂.waiting]
      split
      · rfl
      · rename_i hu
        exact List.eq_nil_iff_forall_not_mem.mpr fun d hd => hu (mem_backlog_units hd)
    rw [hempty]
    exact List.nil_sublist _
  sink u := by
    rw [h.ofUnit_sink_all hscreened, h₂.ofUnit_sink_all hscreened₂, hQ.find]
    exact (hQ.sink u).append ((hQ.waiting u).filter _)
  used x hx := by
    rw [h₂.mem_used] at hx
    rw [h.mem_used]
    refine hx.imp (hQ.used x) ?_
    -- what claims a diagnostic with more filters claims it with fewer, where it waits too
    rintro ⟨u, -, d, hd, hclaim⟩
    have hd' : d ∈ e.waiting u := (hQ.waiting u).subset hd
    rw [hQ.find] at hclaim
    exact ⟨u, mem_backlog_units hd', d, hd', hclaim⟩

/-- The step lemma. -/
theorem Performed.quieter {op : Operation} {a a₂ : Answer} (hpq : p.Fewer q)
    (h : Performed p e op a e') (h₂ : Performed q e₂ op a₂ e₂') (hsets : op.InSets)
    (hQ : Quieter e e₂) (hserved : Served e) (hserved₂ : Served e₂) (hscreened : Screened p e)
    (hscreened₂ : Screened q e₂) : Quieter e' e₂' := by
  -- both engines perform the same operation, so the cases go in pairs
  cases h with
  | registered | unusedReported => cases hsets
  | replayed hr _ hs =>
    cases h₂ with
    | replayed hr₂ _ hs₂ =>
      rw [hQ.registryD] at hr₂
      cases hr.symm.trans hr₂
      exact hQ.replayed hs hs₂
    | reported hd => cases hd
  | @reported _ d _ _ hd hr =>
    have hreport : ∃ o₂, Reported q d e₂ o₂ e₂' := by
      cases h₂ with
      | reported hd₂ hr₂ =>
        cases hd.symm.trans hd₂
        exact ⟨_, hr₂⟩
      | registered | replayed | released | releasedAll | unusedReported | emitted => cases hd
    obtain ⟨o₂, hr₂⟩ := hreport
    exact hr.quieter hpq hr₂ hQ hserved hserved₂
  | @released u _ hs =>
    cases h₂ with
    | reported hd => cases hd
    | released hs₂ =>
      rw [hQ.find] at hs₂
      exact (hQ.withoutWaiting u).settled hs hs₂ (hQ.waiting u)
  | releasedAll hr =>
    cases h₂ with
    | reported hd => cases hd
    | releasedAll hr₂ => exact hr.quieter hr₂ hQ hscreened hscreened₂
  | emitted =>
    cases h₂ with
    | reported hd => cases hd
    | emitted => exact hQ.withSent _

/-! ## The second engine succeeds -/

/-- More filters cause no failure. -/
theorem Reported.succeeds {m : String} {o : Outcome} (hpq : p.Fewer q) (h : Reported p d e o e')
    (hm : d.message = .str m) (hQ : Quieter e e₂) (hserved : Served e) (hserved₂ : Served e₂) :
    ∃ o₂ e₂', (report q d).on e₂ = (.ok o₂, e₂') := by
  obtain ⟨r, hr⟩ := q.filteredBy?_str hm
  cases hmuffle : q.mayMuffle d.severity with
  | false => exact ⟨_, _, report_exempt hmuffle e₂⟩
  | true =>
    cases r with
    | some reason => exact ⟨_, _, report_filtered hmuffle hr e₂⟩
    | none =>
      have hnone := hpq.filteredBy?_eq_none hr
      rw [report_unfiltered hmuffle hr, reportUnfiltered_eq]
      split
      · exact ⟨_, _, rfl⟩
      · -- it is looked up in the first engine too, with success
        rename_i hw
        cases h with
        | exempt hm' =>
          rw [hpq.mayMuffle_eq, hm'] at hmuffle
          cases hmuffle
        | filtered _ reason hf =>
          rw [hnone] at hf
          cases hf
        | held _ _ hd hw' =>
          refine absurd ?_ hw
          rw [← hQ.waits_iff hserved hserved₂] at hw'
          rw [Bool.and_eq_true, Bool.or_eq_true, Option.isNone_iff_eq_none, hpq.defers_eq]
          exact ⟨hd, hw'⟩
        | decided _ _ _ hs =>
          have hl := hs.found d (List.mem_singleton_self d)
          rw [← hQ.find] at hl
          obtain ⟨e₃, hon, -⟩ := release_on e₂ hl
          exact ⟨_, e₃, hon⟩

/-- An operation on texts that succeeds succeeds with more filters too. -/
theorem Performed.succeeds {op : Operation} {a : Answer} (hpq : p.Fewer q)
    (h : Performed p e op a e') (hsets : op.InSets)
    (htext : ∀ d, op.diagnostic? = some d → ∃ m, d.message = .str m) (hQ : Quieter e e₂)
    (hserved : Served e) (hserved₂ : Served e₂) :
    ∃ a₂ e₂', (perform q op).on e₂ = (.ok a₂, e₂') := by
  -- every lookup is one that has succeeded in the engine with fewer filters
  cases h with
  | registered | unusedReported => cases hsets
  | @replayed u ss r _ hr hw hs =>
    rw [← hQ.registryD] at hr
    obtain ⟨e₃, hset, -⟩ := setDirectives_on hr hw fun d hd => hs.found d ((hQ.waiting u).subset hd)
    exact ⟨_, e₃, on_bind_of_ok hset _⟩
  | @reported _ d _ _ hd hr =>
    obtain ⟨m, hm⟩ := htext d hd
    obtain ⟨o₂, e₃, hreport⟩ := hr.succeeds hpq hm hQ hserved hserved₂
    exact ⟨_, e₃, perform_diagnostic_on hd hreport⟩
  | @released u _ hs =>
    have hl : ∀ d ∈ e₂.waiting u, (lookup (e₂.findRegistry u) d).isOk := by
      intro d hd
      rw [hQ.find]
      exact hs.found d ((hQ.waiting u).subset hd)
    obtain ⟨e₃, hflush, -⟩ := flush_on hl
    exact ⟨_, e₃, on_bind_of_ok hflush _⟩
  | releasedAll hr =>
    have hl : ∀ u ∈ e₂.backlogs.map (·.unit), ∀ d ∈ e₂.waiting u,
        (lookup (e₂.findRegistry u) d).isOk := by
      intro u _ d hd
      have hd' : d ∈ e.waiting u := (hQ.waiting u).subset hd
      rw [hQ.find]
      exact hr.found u (mem_backlog_units hd') d hd'
    obtain ⟨passed, e₃, hflush⟩ := flushUnits_on hl
    refine ⟨.forwarded passed, e₃, on_bind_of_ok ?_ _⟩
    rw [flushAll, on_bind_of_ok (on_get e₂), hflush]
  | emitted => exact ⟨_, _, rfl⟩

/-! ## Whole runs -/

/-- What holds of the two engines between two operations. -/
structure InStep (p q : Policy) (e e₂ : Engine) : Prop where
  quieter : Quieter e e₂
  served : Served e
  served₂ : Served e₂
  screened : Screened p e
  screened₂ : Screened q e₂

theorem inStep_empty (p q : Policy) : InStep p q {} {} :=
  ⟨quieter_empty, served_empty, served_empty, screened_empty p, screened_empty q⟩

/-- The step lemma: both engines stay in step through every operation. -/
theorem InStep.performed {op : Operation} {a a₂ : Answer} (h : InStep p q e e₂)
    (hpq : p.Fewer q) (hsets : op.InSets) (hp : Performed p e op a e')
    (hq : Performed q e₂ op a₂ e₂') : InStep p q e' e₂' where
  quieter := hp.quieter hpq hq hsets h.quieter h.served h.served₂ h.screened h.screened₂
  served := h.served.performed hsets hp
  served₂ := h.served₂.performed hsets hq
  screened := h.screened.performed hp
  screened₂ := h.screened₂.performed hq

/-- The run lemma for two runs that succeed. -/
theorem performAll_inStep {ops : List Operation} {answers answers₂ : List Answer}
    (hpq : p.Fewer q) (hsets : ∀ op ∈ ops, op.InSets)
    (h : (performAll p ops).on e = (.ok answers, e'))
    (h₂ : (performAll q ops).on e₂ = (.ok answers₂, e₂')) (hstep : InStep p q e e₂) :
    InStep p q e' e₂' := by
  induction ops generalizing e e₂ answers answers₂ with
  | nil =>
    cases h
    cases h₂
    exact hstep
  | cons op ops ih =>
    obtain ⟨a, as, e₁, rfl, hop, hops⟩ := performAll_cons_ok h
    obtain ⟨a₂, as₂, e₃, rfl, hop₂, hops₂⟩ := performAll_cons_ok h₂
    obtain ⟨hsets₁, hsets⟩ := List.forall_mem_cons.mp hsets
    exact ih hsets hops hops₂ (hstep.performed hpq hsets₁ (perform_ok hop) (perform_ok hop₂))

/-- The run lemma for texts: the second run succeeds. -/
theorem performAll_succeeds {ops : List Operation} {answers : List Answer} (hpq : p.Fewer q)
    (hsets : ∀ op ∈ ops, op.InSets)
    (htext : ∀ op ∈ ops, ∀ d, op.diagnostic? = some d → ∃ m, d.message = .str m)
    (h : (performAll p ops).on e = (.ok answers, e')) (hstep : InStep p q e e₂) :
    ∃ answers₂ e₂', (performAll q ops).on e₂ = (.ok answers₂, e₂') := by
  induction ops generalizing e e₂ answers with
  | nil => exact ⟨[], e₂, rfl⟩
  | cons op ops ih =>
    obtain ⟨a, as, e₁, rfl, hop, hops⟩ := performAll_cons_ok h
    obtain ⟨hsets₁, hsets⟩ := List.forall_mem_cons.mp hsets
    obtain ⟨htext₁, htext⟩ := List.forall_mem_cons.mp htext
    -- the step that succeeds keeps both engines in step, which carries the induction
    obtain ⟨a₂, e₃, hop₂⟩ := (perform_ok hop).succeeds hpq hsets₁ htext₁ hstep.quieter
      hstep.served hstep.served₂
    obtain ⟨as₂, e₄, hops₂⟩ := ih hsets htext hops
      (hstep.performed hpq hsets₁ (perform_ok hop) (perform_ok hop₂))
    refine ⟨a₂ :: as₂, e₄, ?_⟩
    rw [performAll, on_bind_of_ok hop₂, on_bind_of_ok hops₂]
    rfl

/-- In a run in which directives come in sets, add filters to the policy. If the messages are
    texts, the run still succeeds; and whenever it does, the sink has of each unit at most what it
    had, in the same order, and the directives of use were of use before. -/
theorem performAll_moreFilters {ops : List Operation} {answers : List Answer} (hpq : p.Fewer q)
    (hsets : ∀ op ∈ ops, op.InSets) (h : (performAll p ops).on {} = (.ok answers, e)) :
    ((∀ op ∈ ops, ∀ d, op.diagnostic? = some d → ∃ m, d.message = .str m) →
      ∃ answers₂ e₂, (performAll q ops).on {} = (.ok answers₂, e₂)) ∧
    ∀ answers₂ e₂, (performAll q ops).on {} = (.ok answers₂, e₂) →
      (∀ u : SourceUnit, (e₂.sink.filter fun d => d.unit = u).Sublist
        (e.sink.filter fun d => d.unit = u)) ∧
      ∀ s, e₂.isUsed s = true → e.isUsed s = true := by
  refine ⟨fun htext => performAll_succeeds hpq hsets htext h (inStep_empty p q), ?_⟩
  intro answers₂ e₂ h₂
  have hQ : Quieter e e₂ := (performAll_inStep hpq hsets h h₂ (inStep_empty p q)).quieter
  refine ⟨hQ.sink, fun s hs => ?_⟩
  rw [isUsed_iff] at hs ⊢
  exact hQ.used s.id hs

/-- A filter on messages takes the only diagnostic that one directive claims, and one on paths
    takes all of a unit that waits in the first run. -/
theorem performAll_moreFilters_waiting :
    let u : SourceUnit := ⟨"src/a.c"⟩
    let v : SourceUnit := ⟨"gen/b.c"⟩
    let filters (text : String) : List PatternFilter :=
      (PatternFilter.compileAll (.list [.str text]) .null).toOption.getD []
    let p : Policy := .deferring Severity.all
    let q : Policy :=
      { p with
        config :=
          { p.config with
            globalFilters := filters "deprecat"
            pathFilters := filters "^gen/" } }
    let ops : List Operation :=
      [.report (.warningAt u 5 "deprecated"), .report (.warningAt u 15 "unused"),
        .report (.warningAt v 1 "x"),
        .setDirectives u [Directive.atOffsets 0 0 10, Directive.atOffsets 1 12 20],
        .report (.warningAt u 30 "late"), .report (.warningAt u 31 "deprecated too"),
        .flush v, .report (.warningAt v 2 "y"), .flushAll]
    ∃ answers e answers₂ e₂, p.Fewer q ∧ (∀ op ∈ ops, op.InSets) ∧
      (performAll p ops).on {} = (.ok answers, e) ∧
      (performAll q ops).on {} = (.ok answers₂, e₂) ∧
      (∀ w : SourceUnit, (e₂.sink.filter fun d => d.unit = w).Sublist
        (e.sink.filter fun d => d.unit = w)) ∧
      (∀ s, e₂.isUsed s = true → e.isUsed s = true) ∧
      e.used = [0, 1] ∧ e₂.used = [1] ∧
      e.sink = [.warningAt u 30 "late", .warningAt u 31 "deprecated too", .warningAt v 1 "x",
        .warningAt v 2 "y"] ∧
      e₂.sink = [.warningAt u 30 "late"] := by
  intro u v filters p q ops
  let run := (performAll p ops).on {}
  let run₂ := (performAll q ops).on {}
  have hpq : p.Fewer q := Policy.fewer_of_subset (List.nil_subset _) (List.nil_subset _)
  have hsets : ∀ op ∈ ops, op.InSets := by simp [ops, Operation.InSets]
  obtain ⟨answers, hrun⟩ := exists_eq_ok (x := run) (by decide +kernel)
  have htext : ∀ op ∈ ops, ∀ d, op.diagnostic? = some d → ∃ m, d.message = .str m := by
    have hreport : ∀ w i m d, (Operation.report (.warningAt w i m)).diagnostic? = some d →
        ∃ m, d.message = .str m := by
      rintro w i m d ⟨⟩
      exact ⟨m, rfl⟩
    have hother : ∀ op : Operation, op.diagnostic? = none → ∀ d, op.diagnostic? = some d →
        ∃ m, d.message = .str m := by
      intro op hnone d hd
      rw [hnone] at hd
      cases hd
    simp only [ops, List.forall_mem_cons]
    exact ⟨hreport _ _ _, hreport _ _ _, hreport _ _ _, hother _ rfl, hreport _ _ _,
      hreport _ _ _, hother _ rfl, hreport _ _ _, hother _ rfl, List.forall_mem_nil _⟩
  obtain ⟨hsucceeds, hfewer⟩ := performAll_moreFilters hpq hsets hrun
  obtain ⟨answers₂, e₂, hrun₂⟩ := hsucceeds htext
  obtain ⟨hsink, hused⟩ := hfewer answers₂ e₂ hrun₂
  have hstate : run₂.2 = e₂ := congrArg Prod.snd hrun₂
  refine ⟨answers, run.2, answers₂, e₂, hpq, hsets, hrun, hrun₂, hsink, hused, ?_, ?_, ?_, ?_⟩
  · decide +kernel
  · rw [← hstate]
    decide +kernel
  · decide +kernel
  · rw [← hstate]
    decide +kernel

end Engine

end Muffle
