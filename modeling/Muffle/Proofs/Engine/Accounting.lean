/-
  Muffle.Proofs.Engine.Accounting

  No diagnostic is lost and none is duplicated: over every run each arrival is suppressed, in the
  sink or waiting, in exactly one of these places and there once, and the answers of the run tell
  which. Entering an outcome adds one arrival to the places, and deciding what waits only moves
  arrivals between them; so the places always hold what arrived.
-/

import Muffle.Proofs.Engine.Ledger

namespace Muffle.Engine

/-! ## Numbers of arrivals -/

/-- The next arrival gets the next number. -/
theorem arrivals_concat (ds : List Diagnostic) (d : Diagnostic) :
    arrivals (ds ++ [d]) = arrivals ds ++ [⟨ds.length, d⟩] := by
  rw [arrivals, List.mapIdx_concat]
  rfl

theorem arrivals_numbers (ds : List Diagnostic) :
    (arrivals ds).map Arrival.number = List.range ds.length := by
  apply List.ext_getElem
  · simp [arrivals]
  · intro i _ _
    simp [arrivals]

/-- Arrivals differ at least by their numbers, also where diagnostics repeat. -/
theorem arrivals_nodup (ds : List Diagnostic) : (arrivals ds).Nodup := by
  refine List.Nodup.of_map Arrival.number ?_
  rw [arrivals_numbers]
  exact List.nodup_range

/-! ## The three places -/

namespace Ledger

/-- All arrivals in the books. -/
def places (l : Ledger) : List Arrival := l.suppressed ++ l.sent ++ l.held

/-- An arrival is put into one place. -/
theorem places_place (l : Ledger) (a : Arrival) (o : Outcome) :
    (l.place a o).places.Perm (a :: l.places) := by
  -- whatever the outcome, one place has one arrival more
  rw [List.perm_iff_count]
  intro b
  cases o <;> simp [places, place, sent, Entry.arrival?, List.count_append, List.count_cons] <;>
    omega

/-- Arrivals that are placed together are placed one by one. -/
theorem places_foldl_place (l : Ledger) (xs : List (Arrival × Outcome)) :
    (xs.foldl (fun l x => l.place x.1 x.2) l).places.Perm (xs.map Prod.fst ++ l.places) := by
  induction xs generalizing l with
  | nil => exact .refl _
  | cons x xs ih =>
    have hx := (places_place l x.1 x.2).append_left (xs.map Prod.fst)
    exact ((ih _).trans hx).trans List.perm_middle

theorem places_without (l : Ledger) (u : SourceUnit) :
    (l.heldOf u ++ (l.without u).places).Perm l.places := by
  have hheld : (l.heldOf u ++ (l.without u).held).Perm l.held := by
    have hsplit := List.filter_append_perm (fun a => Decidable.decide (a.unit = u)) l.held
    simpa only [heldOf, without, ne_eq, decide_not] using hsplit
  calc l.heldOf u ++ (l.without u).places
      _ = l.heldOf u ++ ((l.suppressed ++ l.sent) ++ (l.without u).held) := rfl
      _ |>.Perm ((l.suppressed ++ l.sent) ++ (l.heldOf u ++ (l.without u).held)) :=
        List.perm_append_comm_assoc ..
      _ |>.Perm l.places := hheld.append_left _

/-- To decide what waits moves arrivals from one place to another. -/
theorem places_settle (l : Ledger) (u : SourceUnit) {os : List Outcome}
    (h : os.length = (l.heldOf u).length) : (l.settle u os).places.Perm l.places := by
  have hmoved := places_foldl_place (l.without u) ((l.heldOf u).zip os)
  rw [List.map_fst_zip h.ge] at hmoved
  exact hmoved.trans (places_without l u)

end Ledger

/-- A replay or a release of any number of units only moves arrivals. -/
theorem Settles.places {l l' : Ledger} (h : Settles l l') : l'.places.Perm l.places := by
  induction h with
  | none => exact .refl _
  | unit l u hv _ ih => exact ih.trans (l.places_settle u (List.length_map _))

theorem Settles.count_eq {l l' : Ledger} (h : Settles l l') : l'.count = l.count := by
  induction h with
  | none => rfl
  | unit l u hv _ ih => rw [ih, Ledger.settle_map l u hv, Ledger.without]

/-- The places hold what arrived. -/
structure Ledger.Balances (l : Ledger) (ds : List Diagnostic) : Prop where
  count_eq : l.count = ds.length
  places_perm : l.places.Perm (arrivals ds)

namespace Ledger.Balances

variable {l l' : Ledger} {ds : List Diagnostic}

/-- The balance is kept by an arrival, whatever becomes of it. -/
theorem arrive (h : l.Balances ds) (d : Diagnostic) (o : Outcome) :
    (l.arrive d o).Balances (ds ++ [d]) where
  count_eq := by
    have hcount : (l.arrive d o).count = l.count + 1 := by cases o <;> rfl
    rw [hcount, h.count_eq, List.length_append, List.length_singleton]
  places_perm := by
    rw [arrivals_concat, ← h.count_eq]
    have hplaced := places_place { l with count := l.count + 1 } ⟨l.count, d⟩ o
    exact (hplaced.trans (h.places_perm.cons _)).trans (List.perm_append_singleton _ _).symm

theorem nodup (h : l.Balances ds) : l.places.Nodup :=
  h.places_perm.nodup_iff.mpr (arrivals_nodup ds)

/-- The balance is kept when waiting diagnostics are decided. -/
theorem settles (h : l.Balances ds) (hs : Settles l l') : l'.Balances ds :=
  ⟨hs.count_eq.trans h.count_eq, hs.places.trans h.places_perm⟩

/-- The step lemma: every operation keeps the balance. -/
theorem recorded {p : Policy} {op : Operation} {past : List Operation}
    (h : l.Balances (intercepted past)) (hrec : Recorded p op l l') :
    l'.Balances (intercepted (past ++ [op])) := by
  rw [intercepted, List.filterMap_append]
  cases hrec with
  | own hd hes =>
    -- no arrival, neither in the run nor in the books
    rw [List.filterMap_cons_none hd, List.filterMap_nil, List.append_nil]
    refine ⟨h.count_eq, ?_⟩
    rw [places, sent_own hes]
    exact h.places_perm
  | arrived hd =>
    rw [List.filterMap_cons_some hd, List.filterMap_nil]
    exact h.arrive _ _
  | settled hd hs =>
    rw [List.filterMap_cons_none hd, List.filterMap_nil, List.append_nil]
    exact h.settles hs

end Ledger.Balances

/-! ## The rest of the sink -/

/-- What an operation puts in the sink besides diagnostics that were handed over: the diagnostic of
    an emission, and the reports of the unused directives that it names. -/
def Entry.own : Operation → Answer → List Entry
  | .emit d, _ => [.emitted d]
  | .reportUnused u, .unused ds => ds.map (.unused u)
  | _, _ => []

namespace Ledger

theorem own_foldl_place (l : Ledger) (xs : List (Arrival × Outcome)) :
    (xs.foldl (fun l x => l.place x.1 x.2) l).sink.filter Entry.isOwn =
      l.sink.filter Entry.isOwn := by
  induction xs generalizing l with
  | nil => rfl
  | cons x xs ih =>
    rw [List.foldl_cons, ih]
    rcases x with ⟨a, o⟩
    cases o <;> simp [place, Entry.isOwn]

/-- Deciding what waits adds no reports of the engine itself. -/
theorem own_settle (l : Ledger) (u : SourceUnit) (os : List Outcome) :
    (l.settle u os).sink.filter Entry.isOwn = l.sink.filter Entry.isOwn :=
  own_foldl_place (l.without u) _

theorem own_foldl_release (l : Ledger) (ds : List Diagnostic) (us : List SourceUnit) :
    (us.foldl (release ds) l).sink.filter Entry.isOwn = l.sink.filter Entry.isOwn := by
  induction us generalizing l with
  | nil => rfl
  | cons u us ih => rw [List.foldl_cons, ih, release, own_settle]

/-- One operation adds its own reports. -/
theorem own_record (l : Ledger) (op : Operation) (a : Answer) :
    (l.record op a).sink.filter Entry.isOwn = l.sink.filter Entry.isOwn ++ Entry.own op a := by
  have harrive : ∀ o, (((op.diagnostic?.map (l.arrive · o)).getD l)).sink.filter Entry.isOwn =
      l.sink.filter Entry.isOwn := by
    intro o
    cases op.diagnostic? with
    | none => rfl
    | some d => exact own_foldl_place { l with count := l.count + 1 } [(⟨l.count, d⟩, o)]
  have hmap : ∀ u (ds : List Directive),
      (ds.map (Entry.unused u)).filter Entry.isOwn = ds.map (Entry.unused u) := by
    intro u ds
    rw [List.filter_eq_self]
    simp [Entry.isOwn]
  cases op <;> cases a <;>
    simp [record, Entry.own, own_settle, own_foldl_release, release, harrive, hmap, Entry.isOwn]

/-- All the reports of a run, in the order of the operations. -/
theorem own_recordAll (l : Ledger) (ops : List Operation) (answers : List Answer) :
    (l.recordAll ops answers).sink.filter Entry.isOwn =
      l.sink.filter Entry.isOwn ++ (ops.zip answers).flatMap fun x => Entry.own x.1 x.2 := by
  unfold recordAll
  induction ops.zip answers generalizing l with
  | nil => simp
  | cons x xs ih => rw [List.foldl_cons, ih, own_record, List.flatMap_cons, List.append_assoc]

end Ledger

/-! ## After a release of all units -/

/-- After some units are released, the others still wait. -/
theorem foldl_release_held (l : Ledger) (ds : List Diagnostic) (us : List SourceUnit) :
    (us.foldl (Ledger.release ds) l).held = l.held.filter fun a => a.unit ∉ us := by
  induction us generalizing l with
  | nil => simp
  | cons u us ih =>
    rw [List.foldl_cons, ih, release_held, Ledger.without, List.filter_filter]
    simp only [List.mem_cons, not_or, Bool.decide_and, ne_eq, Bool.and_comm]

/-- After everything is flushed nothing waits. -/
theorem backlogs_flushAll {p : Policy} {l : Ledger} {e e' : Engine} {a : Answer}
    (hl : l.Describes e) (h : (perform p .flushAll).on e = (.ok a, e')) : e'.backlogs = [] := by
  have hl' := (record_ok hl h).1
  obtain ⟨ds, e₁, -, hdone⟩ := on_bind_eq_ok_iff.mp h
  cases hdone
  -- every waiting arrival is of a unit that was released
  have hheld : (l.record .flushAll (.forwarded ds)).held = [] := by
    rw [Ledger.record, foldl_release_held, List.filter_eq_nil_iff]
    intro a ha
    have hunit : a.unit ∈ l.units := Ledger.mem_units.mpr (List.ne_nil_of_mem
      (Ledger.mem_heldOf.mpr ⟨ha, rfl⟩))
    simp [hunit]
  rw [hl'.backlogs, Ledger.backlogs, Ledger.units, hheld]
  rfl

/-! ## Whole runs -/

/-- The account of a run that ended in the engine `e`, drawn up from its operations and answers. -/
structure Accounted (ops : List Operation) (answers : List Answer) (e : Engine) : Prop where
  /-- The three places hold what arrived, unchanged. -/
  places : (Ledger.ofRun ops answers).places.Perm (arrivals (intercepted ops))
  /-- Nothing is in two places, or twice in one. -/
  once : (Ledger.ofRun ops answers).places.Nodup
  /-- The sink is what the answers put there. -/
  sink : e.sink = (Ledger.ofRun ops answers).sink.map Entry.diagnostic
  /-- Besides arrivals the sink has only what was emitted and the reports of unused directives. -/
  own : (Ledger.ofRun ops answers).sink.filter Entry.isOwn =
    (ops.zip answers).flatMap fun x => Entry.own x.1 x.2
  /-- Each unit keeps its own waiting arrivals. -/
  waiting : ∀ u, e.waiting u = ((Ledger.ofRun ops answers).heldOf u).map (·.diagnostic)
  /-- Nothing waits after a release of all units. -/
  released : ops.getLast? = some .flushAll → e.backlogs = []

/-- After a run from the start the books describe the engine and balance. -/
theorem ofRun_ok {p : Policy} {ops : List Operation} {answers : List Answer} {e : Engine}
    (h : (performAll p ops).on {} = (.ok answers, e)) :
    (Ledger.ofRun ops answers).Describes e ∧
      (Ledger.ofRun ops answers).Balances (intercepted ops) :=
  recordAll_induction (P := fun past l => l.Balances (intercepted past)) []
    (fun _ _ _ _ hrec hb => hb.recorded hrec) h ⟨rfl, rfl⟩ ⟨rfl, .refl _⟩

/-- No run loses a diagnostic or duplicates one. -/
theorem performAll_accounted {p : Policy} {ops : List Operation} {answers : List Answer}
    {e : Engine} (h : (performAll p ops).on {} = (.ok answers, e)) :
    Accounted ops answers e := by
  obtain ⟨hdescribes, hbalances⟩ := ofRun_ok h
  refine ⟨hbalances.places_perm, ?_, hdescribes.sink, ?_, hdescribes.waiting_eq, ?_⟩
  · exact hbalances.nodup
  · exact Ledger.own_recordAll {} ops answers
  · -- the run before the release describes the engine that is released
    intro hlast
    obtain ⟨before, rfl⟩ := List.getLast?_eq_some_iff.mp hlast
    obtain ⟨as, last, e₁, rfl, -, hbefore, hflush⟩ := performAll_append_ok h
    obtain ⟨a, rest, e₂, rfl, hop, hnil⟩ := performAll_cons_ok hflush
    cases hnil
    exact backlogs_flushAll (ofRun_ok hbefore).1 hop

/-- Equal diagnostics are told apart: the first is muffled, the second is in the sink. -/
theorem performAll_accounted_equal :
    let d := Diagnostic.warningAt ⟨"u"⟩ 5 "x"
    let ops := [.report d, .setDirectives ⟨"u"⟩ [.atOffsets 0 0 10], .emit d,
      .report (.warningAt ⟨"v"⟩ 5 "x"), .flushAll]
    ∃ answers e, (performAll (.deferring Severity.all) ops).on {} = (.ok answers, e) ∧
      Accounted ops answers e ∧
      (Ledger.ofRun ops answers).suppressed = [⟨0, d⟩] ∧
      (Ledger.ofRun ops answers).sent.map Arrival.number = [1] ∧ e.backlogs = [] := by
  intro d ops
  let answers : List Answer := [.outcome .deferred, .outcomes [.suppressed], .done,
    .outcome .deferred, .forwarded [.warningAt ⟨"v"⟩ 5 "x"]]
  let run := (performAll (.deferring Severity.all) ops).on {}
  have hrun : run = (.ok answers, run.2) := Prod.ext rfl rfl
  have haccount := performAll_accounted hrun
  have hsuppressed : (Ledger.ofRun ops answers).suppressed = [⟨0, d⟩] := rfl
  have hsent : (Ledger.ofRun ops answers).sent.map Arrival.number = [1] := by decide +kernel
  exact ⟨answers, run.2, hrun, haccount, hsuppressed, hsent, haccount.released rfl⟩

end Muffle.Engine
