/-
  Muffle.Proofs.Engine.Isolation

  Units do not interfere. A run over many units is compared with the run of those of its calls that
  are about one unit, on an engine of its own, where a release of all units becomes a release of
  this one. What the host gets back about the unit is the same, and so is all that is kept for it.

  `Restricts` relates the two engines. A call about the unit is made on both, and they stay related
  (`Called.own`); a call about another unit is made on the large engine alone, and what it changes
  there is not seen (`Performed.aside`); a release of all units is some of these, one after the
  other (`Released.own`). Directives are told apart by their identities: `Apart` says that those
  of the unit are stored for no other one.
-/

import Muffle.Proofs.Engine.Deferral
import Muffle.Proofs.Engine.Usage
import Muffle.Proofs.Identical

namespace Muffle.Engine

variable {p : Policy} {e e' e₂ e₂' : Engine} {u v : SourceUnit} {d : Diagnostic}
  {ds : List Diagnostic} {mine : Nat → Prop}

/-! ## Calls about one unit -/

/-- The unit that an operation is about; none for a release of all units. -/
def Operation.unit? : Operation → Option SourceUnit
  | .register u _ | .setDirectives u _ | .intercept u .. | .flush u | .reportUnused u => some u
  | .report d | .emit d => some d.unit
  | .flushAll => none

theorem Operation.unit?_of_diagnostic {op : Operation} (hd : op.diagnostic? = some d) :
    op.unit? = some d.unit := by
  cases op with
  | report d₁ =>
    cases hd
    rfl
  | intercept u position severity message =>
    rw [Operation.diagnostic?, Option.map_eq_some_iff] at hd
    obtain ⟨s, -, rfl⟩ := hd
    rfl
  | register | setDirectives | flush | flushAll | reportUnused | emit => cases hd

/-- What is left of a call if only one unit counts: all of it if it is about this unit, a release
    of this unit if it releases all of them, and otherwise nothing. -/
def Call.within (u : SourceUnit) : Call → Option Call
  | .operation .flushAll => some (.operation (.flush u))
  | .operation op => if op.unit? = some u then some (.operation op) else none
  | .openRegistry v => if v = u then some (.openRegistry v) else none
  | .hasRegistry v => if v = u then some (.hasRegistry v) else none
  | .requireDirectives _ => none

/-- What a reply says about one unit: of a release of all units, what was of this one. -/
def Reply.within (u : SourceUnit) : Call → Reply → Reply
  | .operation .flushAll, .answer (.forwarded ds) =>
    .answer (.forwarded (ds.filter fun d => d.unit = u))
  | _, r => r

/-- The replies to the calls about one unit. -/
def repliesWithin (u : SourceUnit) (cs : List Call) (replies : List Reply) : List Reply :=
  (cs.zip replies).filterMap fun x => (x.1.within u).map fun _ => x.2.within u x.1

theorem Call.within_operation {op : Operation} (hop : op ≠ .flushAll) (u : SourceUnit) :
    (Call.operation op).within u = if op.unit? = some u then some (.operation op) else none := by
  cases op <;> first | rfl | exact absurd rfl hop

theorem Reply.within_of_ne {c : Call} (hc : c ≠ .operation .flushAll) (u : SourceUnit)
    (r : Reply) : r.within u c = r := by
  unfold Reply.within
  split
  · exact absurd rfl hc
  · rfl

/-! ## Backlogs that are there or not -/

/-- To take out what waits for one unit leaves the others. -/
theorem isWaiting_withoutWaiting (e : Engine) (u v : SourceUnit) :
    (e.withoutWaiting u).isWaiting v = if v = u then false else e.isWaiting v := by
  unfold isWaiting withoutWaiting
  rw [List.any_filter]
  split
  · rename_i hv
    subst hv
    simp
  · rename_i hv
    refine congrArg (e.backlogs.any ·) (funext fun b => ?_)
    by_cases hb : b.unit = v
    · simp [hb, hv]
    · simp [hb]

/-- To add to what waits for one unit leaves the others. -/
theorem isWaiting_withWaiting (e : Engine) (d : Diagnostic) (v : SourceUnit) :
    (e.withWaiting d).isWaiting v = if d.unit = v then true else e.isWaiting v := by
  unfold isWaiting withWaiting
  by_cases hw : e.isWaiting d.unit = true
  · -- a backlog that grows keeps its unit
    have hunit : ((fun b : Backlog => b.unit == v) ∘ fun b : Backlog =>
        if b.unit = d.unit then { b with waiting := b.waiting ++ [d] } else b) =
          fun b => b.unit == v := by
      funext b
      by_cases hb : b.unit = d.unit <;> simp [hb]
    simp only [if_pos hw, List.any_map, hunit]
    split
    · rename_i hv
      exact hv ▸ hw
    · rfl
  · simp only [if_neg hw, List.any_append, List.any_cons, List.any_nil, Bool.or_false]
    by_cases hv : d.unit = v <;> simp [hv]

/-! ## The relation of the engines -/

/-- What waits for a unit is of it, and the identities of its directives are stored for no other
    unit. -/
structure Apart (u : SourceUnit) (mine : Nat → Prop) (e : Engine) : Prop where
  waiting : ∀ v, ∀ d ∈ e.waiting v, d.unit = v
  stored : ∀ v, ∀ s ∈ (e.registryD v).directives, mine s.id ↔ v = u

/-- The second engine keeps for one unit what the first keeps for it, and has nothing else in its
    sink. -/
structure Restricts (u : SourceUnit) (mine : Nat → Prop) (e e₂ : Engine) : Prop where
  find : e₂.findRegistry u = e.findRegistry u
  waiting : e₂.waiting u = e.waiting u
  isWaiting : e₂.isWaiting u = e.isWaiting u
  used : ∀ x, mine x → (x ∈ e₂.used ↔ x ∈ e.used)
  sink : e₂.sink = e.sink.filter fun d => d.unit = u

theorem apart_empty (u : SourceUnit) (mine : Nat → Prop) : Apart u mine {} where
  waiting _ _ hd := by cases hd
  stored _ _ hs := by cases hs

theorem restricts_empty (u : SourceUnit) (mine : Nat → Prop) : Restricts u mine {} {} :=
  ⟨rfl, rfl, rfl, fun _ _ => Iff.rfl, rfl⟩

/-- Both engines have the same directives for the unit. -/
theorem Restricts.registryD (h : Restricts u mine e e₂) : e₂.registryD u = e.registryD u := by
  rw [Engine.registryD, h.find, Engine.registryD]

/-- A call keeps the directives of units apart. -/
theorem Apart.called {c : Call} {r : Reply} (h : Apart u mine e)
    (hc : ∀ x ∈ c.handed, mine x.2.id ↔ x.1 = u) (hs : Screened p e) (hcalled : Called p e c r e') :
    Apart u mine e' where
  waiting v d hd := ((hcalled.screened hs) v d hd).1
  stored v s hmem := by
    rw [(hcalled.directives_perm v).mem_iff, List.mem_append, mem_directivesOf] at hmem
    rcases hmem with hmem | hmem
    · exact h.stored v s hmem
    · exact hc (v, s) hmem

theorem Apart.settled {g : Option Registry} (h : Apart u mine e)
    (hs : Settled g ds (e.withoutWaiting v) e') : Apart u mine e' where
  waiting w d hd := h.waiting w d (mem_waiting_of_withoutWaiting hs.backlogs hd)
  stored w s hmem := by
    rw [registryD_congr (e := e) hs.registries] at hmem
    exact h.stored w s hmem

/-! ### Changes that both engines make -/

theorem Restricts.withNotices (h : Restricts u mine e e₂) (ns ns₂ : List Notice) :
    Restricts u mine (e.withNotices ns) (e₂.withNotices ns₂) :=
  ⟨h.find, h.waiting, h.isWaiting, h.used, h.sink⟩

/-- Both engines send diagnostics of the unit. -/
theorem Restricts.send (h : Restricts u mine e e₂) (hds : ∀ d ∈ ds, d.unit = u) :
    Restricts u mine { e with sink := e.sink ++ ds } { e₂ with sink := e₂.sink ++ ds } where
  find := h.find
  waiting := h.waiting
  isWaiting := h.isWaiting
  used := h.used
  sink := by
    have hown : ds.filter (fun d => d.unit = u) = ds := by
      rw [List.filter_eq_self]
      exact fun d hd => decide_eq_true (hds d hd)
    rw [h.sink, List.filter_append, hown]

/-- A diagnostic of the unit waits in both. -/
theorem Restricts.withWaiting (h : Restricts u mine e e₂) (d : Diagnostic) :
    Restricts u mine (e.withWaiting d) (e₂.withWaiting d) where
  find := h.find
  waiting := by rw [waiting_withWaiting, waiting_withWaiting, h.waiting]
  isWaiting := by rw [isWaiting_withWaiting, isWaiting_withWaiting, h.isWaiting]
  used := h.used
  sink := h.sink

theorem Restricts.withoutWaiting (h : Restricts u mine e e₂) (v : SourceUnit) :
    Restricts u mine (e.withoutWaiting v) (e₂.withoutWaiting v) where
  find := h.find
  waiting := by rw [waiting_withoutWaiting, waiting_withoutWaiting, h.waiting]
  isWaiting := by rw [isWaiting_withoutWaiting, isWaiting_withoutWaiting, h.isWaiting]
  used := h.used
  sink := h.sink

/-- Directives that the unit gets are stored in both. -/
theorem Restricts.stored {g : Registry} (h : Restricts u mine e e₂) (hs : Stored u g e e')
    (hs₂ : Stored u g e₂ e₂') : Restricts u mine e' e₂' where
  find := by rw [hs.find_self, hs₂.find_self]
  waiting := by rw [waiting_congr hs.backlogs, waiting_congr hs₂.backlogs, h.waiting]
  isWaiting := by rw [isWaiting_congr hs.backlogs, isWaiting_congr hs₂.backlogs, h.isWaiting]
  used := by
    rw [hs.used, hs₂.used]
    exact h.used
  sink := by rw [hs.sink, hs₂.sink, h.sink]

/-- Diagnostics of the unit are decided alike in both. -/
theorem Restricts.settled {g : Option Registry} (h : Restricts u mine e e₂)
    (hs : Settled g ds e e') (hs₂ : Settled g ds e₂ e₂') (hds : ∀ d ∈ ds, d.unit = u) :
    Restricts u mine e' e₂' where
  find := by
    rw [findRegistry_congr hs.registries, findRegistry_congr hs₂.registries, h.find]
  waiting := by rw [waiting_congr hs.backlogs, waiting_congr hs₂.backlogs, h.waiting]
  isWaiting := by rw [isWaiting_congr hs.backlogs, isWaiting_congr hs₂.backlogs, h.isWaiting]
  used x hx := by
    rw [hs.used, hs₂.used, List.mem_append, List.mem_append, h.used x hx]
  sink := by
    rw [hs.sink, hs₂.sink]
    exact (h.send fun d hd => hds d (List.mem_of_mem_filter hd)).sink

/-- So is a whole replay. -/
theorem Restricts.replayed {g : Registry} (h : Restricts u mine e e₂) (ha : Apart u mine e)
    (hs : Replayed u g e e') (hs₂ : Replayed u g e₂ e₂') : Restricts u mine e' e₂' where
  find := by rw [hs.find, hs₂.find, if_pos rfl, if_pos rfl]
  waiting := by
    rw [waiting_congr hs.backlogs, waiting_congr hs₂.backlogs]
    exact (h.withoutWaiting u).waiting
  isWaiting := by
    rw [isWaiting_congr hs.backlogs, isWaiting_congr hs₂.backlogs]
    exact (h.withoutWaiting u).isWaiting
  used x hx := by
    rw [hs.used, hs₂.used, List.mem_append, List.mem_append, h.used x hx, h.waiting]
  sink := by
    rw [hs.sink, hs₂.sink, h.waiting]
    exact (h.send fun d hd => ha.waiting u d (List.mem_of_mem_filter hd)).sink

/-! ### Changes in the large engine alone -/

theorem Restricts.withNotices_aside (h : Restricts u mine e e₂) (ns : List Notice) :
    Restricts u mine (e.withNotices ns) e₂ :=
  ⟨h.find, h.waiting, h.isWaiting, h.used, h.sink⟩

/-- What other units send does not concern the engine that only knows this one. -/
theorem Restricts.send_aside (h : Restricts u mine e e₂) (hds : ∀ d ∈ ds, d.unit ≠ u) :
    Restricts u mine { e with sink := e.sink ++ ds } e₂ where
  find := h.find
  waiting := h.waiting
  isWaiting := h.isWaiting
  used := h.used
  sink := by
    have hother : ds.filter (fun d => d.unit = u) = [] := by
      rw [List.filter_eq_nil_iff]
      exact fun d hd => by simpa using hds d hd
    rw [h.sink, List.filter_append, hother, List.append_nil]

theorem Restricts.withWaiting_aside (h : Restricts u mine e e₂) (hd : d.unit ≠ u) :
    Restricts u mine (e.withWaiting d) e₂ where
  find := h.find
  waiting := by rw [waiting_withWaiting, if_neg hd, h.waiting]
  isWaiting := by rw [isWaiting_withWaiting, if_neg hd, h.isWaiting]
  used := h.used
  sink := h.sink

theorem Restricts.withoutWaiting_aside (h : Restricts u mine e e₂) (hv : v ≠ u) :
    Restricts u mine (e.withoutWaiting v) e₂ where
  find := h.find
  waiting := by rw [waiting_withoutWaiting, if_neg hv.symm, h.waiting]
  isWaiting := by rw [isWaiting_withoutWaiting, if_neg hv.symm, h.isWaiting]
  used := h.used
  sink := h.sink

/-- Neither do directives of other units. -/
theorem Restricts.stored_aside {g : Registry} (h : Restricts u mine e e₂) (hs : Stored v g e e')
    (hv : v ≠ u) : Restricts u mine e' e₂ where
  find := by rw [hs.find, if_neg hv.symm, h.find]
  waiting := by rw [waiting_congr hs.backlogs, h.waiting]
  isWaiting := by rw [isWaiting_congr hs.backlogs, h.isWaiting]
  used := by
    rw [hs.used]
    exact h.used
  sink := by rw [hs.sink, h.sink]

/-- What directives of other identities claim does not make those of the unit used. -/
theorem not_mine_of_claimants {g : Option Registry} (hg : ∀ s ∈ directivesIn g, ¬ mine s.id)
    {x : Nat} (hx : mine x) : x ∉ (ds.filterMap (claimant g)).map (·.id) := by
  rw [mem_claimants]
  rintro ⟨d, -, s, hs, rfl⟩
  exact hg s (claimant_eq_some_iff.mp hs).mem hx

/-- Nor their decisions: the directives that they use belong to others. -/
theorem Restricts.settled_aside {g : Option Registry} (h : Restricts u mine e e₂)
    (hs : Settled g ds e e') (hds : ∀ d ∈ ds, d.unit ≠ u)
    (hg : ∀ s ∈ directivesIn g, ¬ mine s.id) : Restricts u mine e' e₂ where
  find := by rw [findRegistry_congr hs.registries, h.find]
  waiting := by rw [waiting_congr hs.backlogs, h.waiting]
  isWaiting := by rw [isWaiting_congr hs.backlogs, h.isWaiting]
  used x hx := by
    rw [hs.used, List.mem_append, or_iff_left (not_mine_of_claimants hg hx), h.used x hx]
  sink := by
    rw [hs.sink]
    exact (h.send_aside fun d hd => hds d (List.mem_of_mem_filter hd)).sink

/-- Nor their replays. -/
theorem Restricts.replayed_aside {g : Registry} (h : Restricts u mine e e₂)
    (ha : Apart u mine e) (hs : Replayed v g e e') (hv : v ≠ u)
    (hg : ∀ s ∈ g.directives, ¬ mine s.id) : Restricts u mine e' e₂ where
  find := by rw [hs.find, if_neg hv.symm, h.find]
  waiting := by
    rw [waiting_congr hs.backlogs]
    exact (h.withoutWaiting_aside hv).waiting
  isWaiting := by
    rw [isWaiting_congr hs.backlogs]
    exact (h.withoutWaiting_aside hv).isWaiting
  used x hx := by
    have hdirectives : ∀ s ∈ directivesIn (some g), ¬ mine s.id := hg
    have hnot : x ∉ ((e.waiting v).filterMap (claimant (some g))).map (·.id) :=
      not_mine_of_claimants hdirectives hx
    rw [hs.used, List.mem_append, or_iff_left hnot, h.used x hx]
  sink := by
    rw [hs.sink]
    refine (h.send_aside fun d hd => ?_).sink
    rw [ha.waiting v d (List.mem_of_mem_filter hd)]
    exact hv

/-! ## One operation -/

/-- No directive of another unit counts as one of this unit. -/
theorem Apart.not_mine (h : Apart u mine e) (hv : v ≠ u) :
    ∀ s ∈ directivesIn (e.findRegistry v), ¬ mine s.id := by
  intro s hs hmine
  rw [directivesIn_findRegistry] at hs
  exact hv ((h.stored v s hs).mp hmine)

/-- An operation about another unit is not seen. -/
theorem Performed.aside {op : Operation} {a : Answer} (h : Performed p e op a e')
    (hop : op.unit? = some v) (hv : v ≠ u) (ha : Apart u mine e) (ha' : Apart u mine e')
    (hR : Restricts u mine e e₂) : Restricts u mine e' e₂ := by
  cases h with
  | registered hg hw hs =>
    cases hop
    exact hR.stored_aside hs hv
  | @replayed _ ss g _ hg _ hs =>
    cases hop
    -- whose the directives are is told by the registry that they end up in
    have hg' : e'.registryD v = g := by rw [registryD_of_find hs.find, if_pos rfl]
    refine hR.replayed_aside ha hs hv fun s hmem hmine => ?_
    exact hv ((ha'.stored v s (hg' ▸ hmem)).mp hmine)
  | @reported _ d _ _ hd hr =>
    rw [Operation.unit?_of_diagnostic hd, Option.some.injEq] at hop
    have hunit : ∀ x ∈ [d], x.unit ≠ u := List.forall_mem_singleton.mpr (hop ▸ hv)
    cases hr with
    | exempt => exact hR.send_aside hunit
    | filtered => exact hR.withNotices_aside _
    | held => exact hR.withWaiting_aside (hop ▸ hv)
    | decided _ _ _ hs => exact hR.settled_aside hs hunit (ha.not_mine (hop ▸ hv))
  | released hs =>
    cases hop
    refine (hR.withoutWaiting_aside hv).settled_aside hs (fun d hd => ?_) (ha.not_mine hv)
    rw [ha.waiting v d hd]
    exact hv
  | releasedAll => cases hop
  | unusedReported ns =>
    cases hop
    refine (hR.send_aside fun d hd => ?_).withNotices_aside ns
    obtain ⟨s, -, rfl⟩ := List.mem_map.mp hd
    exact hv
  | emitted =>
    cases hop
    exact hR.send_aside (List.forall_mem_singleton.mpr hv)

/-- The unused directives of the unit are the same. -/
theorem Restricts.unusedOf_eq (h : Restricts u mine e e₂) (ha : Apart u mine e) (p : Policy) :
    unusedOf p e₂ u = unusedOf p e u := by
  unfold unusedOf
  rw [h.find]
  cases hg : e.findRegistry u with
  | none => rfl
  | some g =>
    -- the directives of the unit are of use in both engines or in neither
    have hsame : g.unused e₂.used = g.unused e.used := by
      refine List.filter_congr fun s hs => ?_
      have hmem : s ∈ (e.registryD u).directives := by
        rw [Engine.registryD, hg]
        exact hs
      have hused := h.used s.id ((ha.stored u s hmem).mpr rfl)
      rw [Bool.eq_iff_iff]
      simp only [Bool.not_eq_true', ← Bool.not_eq_true, List.contains_iff_mem, hused]
    simp only [hsame]

/-- A report in the second engine does the same as in the first. -/
theorem Reported.own {o : Outcome} (h : Reported p d e o e') (hd : d.unit = u)
    (hR : Restricts u mine e e₂) :
    ∃ e₂', (report p d).on e₂ = (.ok o, e₂') ∧ Restricts u mine e' e₂' := by
  have hunit : ∀ x ∈ [d], x.unit = u := List.forall_mem_singleton.mpr hd
  subst hd
  cases h with
  | exempt hm => exact ⟨_, report_exempt hm e₂, hR.send hunit⟩
  | filtered hm reason hf => exact ⟨_, report_filtered hm hf e₂, hR.withNotices _ _⟩
  | held hm hf hdefers hw =>
    refine ⟨_, ?_, hR.withWaiting d⟩
    rw [report_unfiltered hm hf, reportUnfiltered_eq, if_pos]
    rw [← hR.find, ← hR.isWaiting] at hw
    simpa [hdefers] using hw
  | decided hm hf hw hs =>
    -- the registry is the same, so the lookup succeeds in the second engine too
    have hl := hs.found d (List.mem_singleton_self d)
    rw [← hR.find] at hs hl ⊢
    rw [← hR.find, ← hR.isWaiting] at hw
    obtain ⟨e₃, hon, hs₂⟩ := release_on e₂ hl
    refine ⟨e₃, ?_, hR.settled hs hs₂ hunit⟩
    rw [report_unfiltered hm hf, reportUnfiltered_eq, if_neg, hon]
    rw [Bool.and_eq_true, not_and]
    intro hdefers
    simp [hw hdefers, ← Option.not_isSome]

/-- A flush of the unit has the same answer in both. -/
theorem flush_own (ha : Apart u mine e) (hR : Restricts u mine e e₂)
    (hs : Settled (e.findRegistry u) (e.waiting u) (e.withoutWaiting u) e') :
    ∃ e₂', (flush u).on e₂ = (.ok ((e.waiting u).filter (passes (e.findRegistry u))), e₂') ∧
      Restricts u mine e' e₂' := by
  rw [← hR.find, ← hR.waiting] at hs ⊢
  obtain ⟨e₃, hon, hs₂⟩ := flush_on hs.found
  refine ⟨e₃, hon, (hR.withoutWaiting u).settled hs hs₂ fun d hd => ?_⟩
  rw [hR.waiting] at hd
  exact ha.waiting u d hd

/-- An operation about the unit gives the same answer on both engines. -/
theorem Performed.own {op : Operation} {a : Answer} (h : Performed p e op a e')
    (hop : op.unit? = some u) (ha : Apart u mine e) (hR : Restricts u mine e e₂) :
    ∃ e₂', (perform p op).on e₂ = (.ok a, e₂') ∧ Restricts u mine e' e₂' := by
  -- what the unit has is the same in both engines, so each step succeeds again
  cases h with
  | registered hg hw hs =>
    cases hop
    obtain ⟨e₃, hon, hs₂⟩ := register_on (hR.registryD ▸ hg) hw
    exact ⟨e₃, on_bind_of_ok hon _, hR.stored hs hs₂⟩
  | replayed hg hw hs =>
    cases hop
    obtain ⟨e₃, hon, hs₂⟩ := setDirectives_on (hR.registryD ▸ hg) hw (hR.waiting ▸ hs.found)
    rw [hR.waiting] at hon
    exact ⟨e₃, on_bind_of_ok hon _, hR.replayed ha hs hs₂⟩
  | reported hd hr =>
    rw [Operation.unit?_of_diagnostic hd, Option.some.injEq] at hop
    obtain ⟨e₃, hon, hR'⟩ := hr.own hop hR
    exact ⟨e₃, perform_diagnostic_on hd hon, hR'⟩
  | released hs =>
    cases hop
    obtain ⟨e₃, hon, hR'⟩ := flush_own ha hR hs
    exact ⟨e₃, on_bind_of_ok hon _, hR'⟩
  | releasedAll => cases hop
  | unusedReported ns =>
    cases hop
    have hunused := hR.unusedOf_eq ha p
    refine ⟨_, ?_, (hR.send fun d hd => ?_).withNotices ns (unusedNotices u (unusedOf p e u))⟩
    · rw [perform, on_bind, reportUnused_on, hunused]
      rfl
    · obtain ⟨s, -, rfl⟩ := List.mem_map.mp hd
      rfl
  | emitted =>
    cases hop
    exact ⟨_, rfl, hR.send (List.forall_mem_singleton.mpr rfl)⟩

/-! ## A release of all units -/

/-- Where nothing waits for the unit, a release of any units is not seen. -/
theorem Released.aside {us : List SourceUnit} (h : Released us e ds e')
    (hidle : e.isWaiting u = false) (ha : Apart u mine e) (hR : Restricts u mine e e₂) :
    ds.filter (fun d => d.unit = u) = [] ∧ Restricts u mine e' e₂ := by
  induction h with
  | nil => exact ⟨rfl, hR⟩
  | @cons v us e e₁ e' more hs _ ih =>
    have hidle₁ : e₁.isWaiting u = false := by
      rw [isWaiting_congr hs.backlogs, isWaiting_withoutWaiting, hidle, ite_self]
    have hother : ∀ d ∈ e.waiting v, d.unit ≠ u := by
      intro d hd heq
      obtain rfl : v = u := (ha.waiting v d hd).symm.trans heq
      rw [waiting_of_idle hidle] at hd
      cases hd
    have hR₁ : Restricts u mine e₁ e₂ := by
      by_cases hv : v = u
      · -- there is nothing to decide
        subst hv
        have hw : e.waiting v = [] := waiting_of_idle hidle
        rw [hw] at hs
        refine ⟨?_, ?_, ?_, fun x hx => ?_, ?_⟩
        · rw [findRegistry_congr hs.registries]
          exact hR.find
        · rw [waiting_congr hs.backlogs, waiting_withoutWaiting, if_pos rfl, hR.waiting, hw]
        · rw [hR.isWaiting, hidle, hidle₁]
        · rw [hs.used]
          exact (hR.used x hx).trans (by simp [Engine.withoutWaiting])
        · rw [hs.sink]
          exact hR.sink.trans (by simp [Engine.withoutWaiting])
      · exact (hR.withoutWaiting_aside hv).settled_aside hs hother (ha.not_mine hv)
    obtain ⟨hmore, hR'⟩ := ih hidle₁ (ha.settled hs) hR₁
    refine ⟨?_, hR'⟩
    rw [List.filter_append, hmore, List.append_nil, List.filter_eq_nil_iff]
    exact fun d hd => by simpa using hother d (List.mem_of_mem_filter hd)

/-- A release that comes to the unit is a release of the unit, and others that are not seen. -/
theorem Released.own {us : List SourceUnit} (h : Released us e ds e')
    (hmem : u ∈ us ∨ e.isWaiting u = false) (ha : Apart u mine e) (hR : Restricts u mine e e₂) :
    ∃ e₂', (flush u).on e₂ = (.ok (ds.filter fun d => d.unit = u), e₂') ∧
      Restricts u mine e' e₂' := by
  induction h with
  | nil e =>
    have hidle : e₂.isWaiting u = false := by
      rw [hR.isWaiting]
      exact hmem.resolve_left List.not_mem_nil
    have hsame : e₂.withoutWaiting u = e₂ := by
      have hb := withoutWaiting_of_idle hidle
      rw [withoutWaiting] at hb ⊢
      exact congrArg (fun bs => { e₂ with backlogs := bs }) hb
    refine ⟨e₂, ?_, hR⟩
    rw [flush_eq, waiting_of_idle hidle, hsame]
    rfl
  | @cons v us e e₁ e' more hs hrest ih =>
    have hidle₁ : e₁.isWaiting u = if u = v then false else e.isWaiting u := by
      rw [isWaiting_congr hs.backlogs, isWaiting_withoutWaiting]
    have ha₁ := ha.settled hs
    by_cases hv : v = u
    · -- the unit itself: its release is this one, and nothing waits for it afterwards
      subst hv
      obtain ⟨e₃, hon, hR₁⟩ := flush_own ha hR hs
      obtain ⟨hmore, hR'⟩ := hrest.aside (hidle₁.trans (if_pos rfl)) ha₁ hR₁
      refine ⟨e₃, ?_, hR'⟩
      rw [hon, List.filter_append, hmore, List.append_nil, List.filter_filter]
      refine congrArg (fun xs => (Except.ok xs, e₃)) (List.filter_congr fun d hd => ?_)
      simp [ha.waiting v d hd]
    · -- another unit: its release is not seen, and the unit is still to come if it waits
      have hother : ∀ d ∈ e.waiting v, d.unit ≠ u := fun d hd => by rwa [ha.waiting v d hd]
      have hR₁ := (hR.withoutWaiting_aside hv).settled_aside hs hother (ha.not_mine hv)
      have hmem₁ : u ∈ us ∨ e₁.isWaiting u = false := by
        refine hmem.imp (fun hu => (List.mem_cons.mp hu).resolve_left (Ne.symm hv)) fun hi => ?_
        rw [hidle₁, if_neg (Ne.symm hv), hi]
      obtain ⟨e₃, hon, hR'⟩ := ih hmem₁ ha₁ hR₁
      refine ⟨e₃, ?_, hR'⟩
      have hnone : ((e.waiting v).filter (passes (e.findRegistry v))).filter
          (fun d => d.unit = u) = [] := by
        rw [List.filter_eq_nil_iff]
        exact fun d hd => by simpa using hother d (List.mem_of_mem_filter hd)
      rw [hon, List.filter_append, hnone, List.nil_append]

/-- A unit for which nothing waits has no backlog. -/
theorem mem_units_or_idle (e : Engine) (u : SourceUnit) :
    u ∈ e.backlogs.map (·.unit) ∨ e.isWaiting u = false := by
  cases hw : e.isWaiting u with
  | false => exact .inr rfl
  | true =>
    obtain ⟨b, hb, hu⟩ := List.any_eq_true.mp hw
    exact .inl (List.mem_map.mpr ⟨b, hb, by simpa using hu⟩)

/-! ## Runs -/

/-- The step lemma: where one call is made, the second engine makes what is left of it. -/
theorem call_within {c : Call} {r : Reply} (h : (call p c).on e = (.ok r, e'))
    (ha : Apart u mine e) (ha' : Apart u mine e') (hR : Restricts u mine e e₂) :
    match c.within u with
    | none => Restricts u mine e' e₂
    | some c₂ =>
      ∃ e₂', (call p c₂).on e₂ = (.ok (r.within u c), e₂') ∧ Restricts u mine e' e₂' := by
  cases c with
  | operation op =>
    obtain ⟨a, e₁, hop, h⟩ := on_bind_eq_ok_iff.mp h
    cases h
    have hperformed := perform_ok hop
    by_cases hall : op = .flushAll
    · -- the one operation that is about all units
      subst hall
      cases hperformed with
      | releasedAll hr =>
        obtain ⟨e₃, hon, hR'⟩ := hr.own (mem_units_or_idle e u) ha hR
        refine ⟨e₃, ?_, hR'⟩
        rw [call, perform, on_bind_of_ok (on_bind_of_ok hon _)]
        rfl
      | reported hd => cases hd
    · have hne : Call.operation op ≠ .operation .flushAll :=
        fun heq => hall (Call.operation.inj heq)
      -- every other operation is about one unit, which is this one or not
      rw [Call.within_operation hall, Reply.within_of_ne hne]
      obtain ⟨v, hv⟩ : ∃ v, op.unit? = some v := by
        cases op <;> first | exact ⟨_, rfl⟩ | exact absurd rfl hall
      rw [hv]
      by_cases hvu : v = u
      · subst hvu
        rw [if_pos rfl]
        obtain ⟨e₃, hon, hR'⟩ := hperformed.own hv ha hR
        exact ⟨e₃, by rw [call, on_bind_of_ok hon]; rfl, hR'⟩
      · rw [if_neg fun heq => hvu (Option.some.inj heq)]
        exact hperformed.aside hv hvu ha ha' hR
  | openRegistry v =>
    obtain ⟨e₁, hopen, hs⟩ := openRegistry_on v e
    rw [call, on_bind_of_ok hopen] at h
    cases h
    by_cases hv : v = u
    · subst hv
      obtain ⟨e₃, hopen₂, hs₂⟩ := openRegistry_on v e₂
      rw [hR.registryD] at hopen₂ hs₂
      rw [Call.within, if_pos rfl]
      exact ⟨e₃, by rw [call, on_bind_of_ok hopen₂]; rfl, hR.stored hs hs₂⟩
    · rw [Call.within, if_neg hv]
      exact hR.stored_aside hs hv
  | hasRegistry v =>
    rw [call, on_bind_of_ok (on_get e)] at h
    cases h
    by_cases hv : v = u
    · subst hv
      rw [Call.within, if_pos rfl]
      refine ⟨e₂, ?_, hR⟩
      rw [call, on_bind_of_ok (on_get e₂), Engine.hasRegistry, hR.find]
      rfl
    · rw [Call.within, if_neg hv]
      exact hR
  | requireDirectives available =>
    cases call_ok h with
    | viewed b ns => exact hR.withNotices_aside ns

/-- The run lemma. -/
theorem callAll_within_restricts {cs : List Call} {replies : List Reply}
    (h : (callAll p cs).on e = (.ok replies, e')) (hcs : ∀ x ∈ handed cs, mine x.2.id ↔ x.1 = u)
    (hs : Screened p e) (ha : Apart u mine e) (hR : Restricts u mine e e₂) :
    ∃ e₂', (callAll p (cs.filterMap (Call.within u))).on e₂ =
        (.ok (repliesWithin u cs replies), e₂') ∧ Restricts u mine e' e₂' := by
  induction cs generalizing e e₂ replies with
  | nil =>
    cases h
    exact ⟨e₂, rfl, hR⟩
  | cons c cs ih =>
    obtain ⟨r, rs, e₁, rfl, hc, hrest⟩ := callAll_cons_eq_ok_iff.mp h
    rw [handed, List.flatMap_cons] at hcs
    have hcalled := call_ok hc
    have ha₁ := ha.called (fun x hx => hcs x (List.mem_append_left _ hx)) hs hcalled
    have hstep := call_within hc ha ha₁ hR
    have hcs' : ∀ x ∈ handed cs, mine x.2.id ↔ x.1 = u :=
      fun x hx => hcs x (List.mem_append_right _ hx)
    have hs₁ := hcalled.screened hs
    rw [List.filterMap_cons, repliesWithin, List.zip_cons_cons, List.filterMap_cons]
    -- a call that is not about the unit is left out, and both engines still agree about it
    cases hw : c.within u with
    | none =>
      rw [hw] at hstep
      exact ih hrest hcs' hs₁ ha₁ hstep
    | some c₂ =>
      rw [hw] at hstep
      obtain ⟨e₃, hon, hR₁⟩ := hstep
      obtain ⟨e₄, hons, hR'⟩ := ih hrest hcs' hs₁ ha₁ hR₁
      exact ⟨e₄, callAll_cons_eq_ok_iff.mpr ⟨_, _, e₃, rfl, hon, hons⟩, hR'⟩

/-- For each unit, the calls about it on an engine of its own give the replies that they had among
    those about other units, and leave the same behind: the registry of the unit in stored order,
    the use of its directives, its waiting diagnostics, and its part of the sink. -/
theorem callAll_within {cs : List Call} {replies : List Reply}
    (h : (callAll p cs).on {} = (.ok replies, e))
    (hone : ∀ x ∈ handed cs, ∀ y ∈ handed cs, x.2.id = y.2.id → x.1 = y.1) (u : SourceUnit) :
    ∃ e₂, (callAll p (cs.filterMap (Call.within u))).on {} =
        (.ok (repliesWithin u cs replies), e₂) ∧
      e₂.findRegistry u = e.findRegistry u ∧
      (∀ s, (u, s) ∈ handed cs → e₂.isUsed s = e.isUsed s) ∧
      e₂.waiting u = e.waiting u ∧ e₂.sink = e.sink.filter fun d => d.unit = u := by
  -- the identities of the unit are those that the host hands in for it
  let mine (x : Nat) : Prop := ∃ s, (u, s) ∈ handed cs ∧ s.id = x
  have hmine : ∀ x ∈ handed cs, mine x.2.id ↔ x.1 = u := by
    rintro ⟨v, s⟩ hmem
    constructor
    · rintro ⟨s', hs', hid⟩
      exact hone _ hmem _ hs' hid.symm
    · rintro rfl
      exact ⟨s, hmem, rfl⟩
  obtain ⟨e₂, hon, hR⟩ := callAll_within_restricts h hmine (screened_empty p)
    (apart_empty u mine) (restricts_empty u mine)
  refine ⟨e₂, hon, hR.find, fun s hs => ?_, hR.waiting, hR.sink⟩
  rw [Bool.eq_iff_iff, isUsed_iff, isUsed_iff]
  exact hR.used s.id ⟨s, hs, rfl⟩

/-- The release of all units tells of both, and the calls of the other unit come in between. -/
theorem callAll_within_interleaved :
    let u : SourceUnit := ⟨"u"⟩
    let v : SourceUnit := ⟨"v"⟩
    let p : Policy :=
      { config := { deferUnregistered := .bool true, checkUnused := .bool true },
        workDir := Path.ofText "/" }
    let near := Directive.atOffsets 0 0 10
    let far := Directive.atOffsets 1 20 30
    let other := Directive.atOffsets 2 0 100
    let cs : List Call :=
      [.operation (.report (.warningAt u 50 "a")), .operation (.report (.warningAt v 5 "b")),
        .operation .flushAll, .operation (.register v other),
        .operation (.setDirectives u [near, far]), .operation (.report (.warningAt v 25 "c")),
        .operation (.report (.warningAt u 5 "d")), .operation (.reportUnused u)]
    ∃ replies e e₂, (callAll p cs).on {} = (.ok replies, e) ∧
      (∀ x ∈ handed cs, ∀ y ∈ handed cs, x.2.id = y.2.id → x.1 = y.1) ∧
      (callAll p (cs.filterMap (Call.within u))).on {} = (.ok (repliesWithin u cs replies), e₂) ∧
      e.sink = [.warningAt u 50 "a", .warningAt v 5 "b", unusedReport u far] ∧
      e₂.sink = [.warningAt u 50 "a", unusedReport u far] ∧ e.used = [2, 0] ∧ e₂.used = [0] := by
  intro u v p near far other cs
  let run := (callAll p cs).on {}
  have hok : run.1.isOk = true := by decide +kernel
  obtain ⟨replies, hrun⟩ := exists_eq_ok hok
  have hone : ∀ x ∈ handed cs, ∀ y ∈ handed cs, x.2.id = y.2.id → x.1 = y.1 := by
    decide +kernel
  have hsink : run.2.sink = [.warningAt u 50 "a", .warningAt v 5 "b", unusedReport u far] := by
    decide +kernel
  have hused : run.2.used = [2, 0] := by decide +kernel
  obtain ⟨e₂, hon, -, -, -, hsink₂⟩ := callAll_within hrun hone u
  have hstate : ((callAll p (cs.filterMap (Call.within u))).on {}).2 = e₂ := by rw [hon]
  have hused₂ : e₂.used = [0] := by
    rw [← hstate]
    decide +kernel
  have hpart : e₂.sink = [.warningAt u 50 "a", unusedReport u far] := by
    rw [hsink₂, hsink]
    rfl
  exact ⟨replies, run.2, e₂, hrun, hone, hon, hsink, hpart, hused, hused₂⟩

end Muffle.Engine
