/-
  Muffle.Proofs.Engine.Ledger

  The books of a host. From its own operations and the answers alone a host can tell for each
  diagnostic it handed over whether it was suppressed, went to the sink or still waits: the
  outcome says so at once, or the answer to the replay at its place among those that waited, or
  its presence in the list of a release. The ledger keeps these books. Arrivals are numbered, so
  that equal diagnostics stay apart.

  `Describes` says that an engine holds what the ledger says it holds. Each operation keeps it
  (`record_ok`), and what one can do to the books is told once, in `Recorded`; what all of that
  keeps, a run keeps (`recordAll_induction`).
-/

import Muffle.Proofs.Engine.Step
import Muffle.Proofs.Identical

namespace Muffle.Engine

/-! ## Entries and books -/

/-- A diagnostic with the number of its arrival. -/
structure Arrival where
  number : Nat
  diagnostic : Diagnostic
deriving DecidableEq

/-- The unit of a diagnostic that arrived. -/
def Arrival.unit (a : Arrival) : SourceUnit := a.diagnostic.unit

/-- The diagnostics of a run, numbered. -/
def arrivals (ds : List Diagnostic) : List Arrival := ds.mapIdx Arrival.mk

/-- Something in the sink, by where it comes from. -/
inductive Entry where
  | arrival (a : Arrival)
  | emitted (d : Diagnostic)
  | unused (u : SourceUnit) (d : Directive)

namespace Entry

/-- What the sink received. -/
def diagnostic : Entry → Diagnostic
  | .arrival a => a.diagnostic
  | .emitted d => d
  | .unused u d => unusedReport u d

/-- The arrival that went to the sink. -/
def arrival? : Entry → Option Arrival
  | .arrival a => some a
  | _ => none

/-- Whether the entry is no diagnostic that was handed over for a decision. -/
def isOwn : Entry → Bool
  | .arrival _ => false
  | _ => true

end Entry

/-- The books of a run. -/
structure Ledger where
  /-- How many diagnostics arrived. -/
  count : Nat := 0
  suppressed : List Arrival := []
  sink : List Entry := []
  /-- Those that wait, in order of arrival. -/
  held : List Arrival := []

namespace Ledger

/-- The arrivals in the sink. -/
def sent (l : Ledger) : List Arrival := l.sink.filterMap Entry.arrival?

/-- The arrivals of a unit that wait. -/
def heldOf (l : Ledger) (u : SourceUnit) : List Arrival := l.held.filter fun a => a.unit = u

/-- The units with waiting arrivals, in order of the first of these. -/
def units (l : Ledger) : List SourceUnit := (l.held.map Arrival.unit).eraseDups

/-- Enters an arrival where its outcome puts it. -/
def place (l : Ledger) (a : Arrival) : Outcome → Ledger
  | .suppressed => { l with suppressed := l.suppressed ++ [a] }
  | .forwarded => { l with sink := l.sink ++ [.arrival a] }
  | .deferred => { l with held := l.held ++ [a] }

/-- Enters a new arrival. -/
def arrive (l : Ledger) (d : Diagnostic) (o : Outcome) : Ledger :=
  { l with count := l.count + 1 }.place ⟨l.count, d⟩ o

/-- Strikes out what waits for a unit. -/
def without (l : Ledger) (u : SourceUnit) : Ledger :=
  { l with held := l.held.filter fun a => a.unit ≠ u }

/-- Enters the outcomes for what waits for a unit, the first for the earliest arrival. -/
def settle (l : Ledger) (u : SourceUnit) (os : List Outcome) : Ledger :=
  ((l.heldOf u).zip os).foldl (fun l x => l.place x.1 x.2) (l.without u)

/-- Enters a release: of what waits for a unit, the forwarded diagnostics are those listed. -/
def release (ds : List Diagnostic) (l : Ledger) (u : SourceUnit) : Ledger :=
  l.settle u ((l.heldOf u).map fun a => if a.diagnostic ∈ ds then .forwarded else .suppressed)

/-- Enters an operation and its answer. -/
def record (l : Ledger) (op : Operation) (a : Answer) : Ledger :=
  match op, a with
  | .setDirectives u _, .outcomes os => l.settle u os
  | .flush u, .forwarded ds => l.release ds u
  | .flushAll, .forwarded ds => l.units.foldl (release ds) l
  | .reportUnused u, .unused ds => { l with sink := l.sink ++ ds.map (.unused u) }
  | .emit d, _ => { l with sink := l.sink ++ [.emitted d] }
  | op, .outcome o => (op.diagnostic?.map (l.arrive · o)).getD l
  | _, _ => l

/-- Enters operations and their answers in order. -/
def recordAll (l : Ledger) (ops : List Operation) (answers : List Answer) : Ledger :=
  (ops.zip answers).foldl (fun l x => l.record x.1 x.2) l

/-- The books of a run from its first operation on. -/
def ofRun (ops : List Operation) (answers : List Answer) : Ledger := recordAll {} ops answers

/-- Reports of the engine itself are not arrivals. -/
theorem sent_own {l : Ledger} {es : List Entry} (hes : ∀ x ∈ es, x.arrival? = none) :
    { l with sink := l.sink ++ es }.sent = l.sent := by
  rw [sent, List.filterMap_append, List.filterMap_eq_nil_iff.mpr hes, List.append_nil]
  rfl

/-- The books of a run are kept operation by operation. -/
theorem recordAll_append (l : Ledger) {ops : List Operation} {answers : List Answer}
    (h : answers.length = ops.length) (ops' : List Operation) (answers' : List Answer) :
    l.recordAll (ops ++ ops') (answers ++ answers') =
      (l.recordAll ops answers).recordAll ops' answers' := by
  rw [recordAll, List.zip_append h.symm, List.foldl_append]
  rfl

/-- Answers beyond the operations do not count. -/
theorem recordAll_append_answers (l : Ledger) {ops : List Operation} {answers : List Answer}
    (h : answers.length = ops.length) (answers' : List Answer) :
    l.recordAll ops (answers ++ answers') = l.recordAll ops answers := by
  have happend := l.recordAll_append h [] answers'
  rwa [List.append_nil] at happend

/-! ## Agreement with an engine -/

/-- The backlogs that an engine has for what waits. -/
def backlogs (l : Ledger) : List Backlog :=
  l.units.map fun u => ⟨u, (l.heldOf u).map (·.diagnostic)⟩

/-- An engine holds what the ledger says. -/
structure Describes (l : Ledger) (e : Engine) : Prop where
  sink : e.sink = l.sink.map Entry.diagnostic
  backlogs : e.backlogs = l.backlogs

variable {l : Ledger} {e e' : Engine} {u : SourceUnit}

theorem mem_heldOf {a : Arrival} : a ∈ l.heldOf u ↔ a ∈ l.held ∧ a.unit = u := by
  simp [heldOf]

/-- A unit is in the books if something of it is held. -/
theorem mem_units : u ∈ l.units ↔ l.heldOf u ≠ [] := by
  rw [units, List.mem_eraseDups, List.mem_map, heldOf, Ne, List.filter_eq_nil_iff]
  simp

/-- Looking for a backlog among those of some units. -/
theorem find?_backlog (f : SourceUnit → List Diagnostic) (us : List SourceUnit) (u : SourceUnit) :
    (us.map fun v => Backlog.mk v (f v)).find? (fun b => b.unit == u) =
      if u ∈ us then some ⟨u, f u⟩ else none := by
  induction us with
  | nil => rfl
  | cons v us ih =>
    rw [List.map_cons, List.find?_cons, ih]
    by_cases hv : v = u
    · simp [hv]
    · have hne : (v == u) = false := beq_eq_false_iff_ne.mpr hv
      simp only [hne, List.mem_cons, Ne.symm hv, false_or]

/-- What waits in the engine is what the books hold. -/
theorem Describes.waiting_eq (h : l.Describes e) (u : SourceUnit) :
    e.waiting u = (l.heldOf u).map (·.diagnostic) := by
  rw [waiting, h.backlogs, Ledger.backlogs, find?_backlog]
  by_cases hu : u ∈ l.units
  · rw [if_pos hu]
    rfl
  · have hnil : l.heldOf u = [] := by
      by_contra hne
      exact hu (mem_units.mpr hne)
    rw [if_neg hu, hnil]
    rfl

theorem Describes.isWaiting_iff (h : l.Describes e) (u : SourceUnit) :
    e.isWaiting u = true ↔ u ∈ l.units := by
  rw [isWaiting, h.backlogs, Ledger.backlogs, List.any_map, List.any_eq_true]
  simp

/-! ### Changes of what waits -/

/-- A unit is entered in the books once. -/
theorem units_held (l : Ledger) (a : Arrival) :
    (l.place a .deferred).units = if a.unit ∈ l.units then l.units else l.units ++ [a.unit] := by
  have hunits : (l.place a .deferred).units = (l.held.map Arrival.unit ++ [a.unit]).eraseDups := by
    simp only [units, place, List.map_append, List.map_singleton]
  -- a unit at the end counts only if it is not there before
  rw [hunits, List.eraseDups_append, units]
  simp only [List.mem_eraseDups]
  generalize l.held.map Arrival.unit = us
  by_cases h : a.unit ∈ us
  · simp [List.removeAll, h]
  · simp [List.removeAll, h, List.eraseDups_cons]

theorem heldOf_held (l : Ledger) (a : Arrival) (v : SourceUnit) :
    (l.place a .deferred).heldOf v = l.heldOf v ++ if a.unit = v then [a] else [] := by
  by_cases h : a.unit = v <;> simp [heldOf, place, h]

/-- The books are right after a diagnostic is held. -/
theorem Describes.hold {d : Diagnostic} (h : l.Describes e) (n : Nat) :
    (l.place ⟨n, d⟩ .deferred).Describes (e.withWaiting d) where
  sink := h.sink
  backlogs := by
    have hunit : (Arrival.mk n d).unit = d.unit := rfl
    rw [Ledger.backlogs, units_held, hunit, withWaiting]
    by_cases hw : d.unit ∈ l.units
    · -- the backlog of the unit grows, the others stay as they are
      rw [if_pos hw, if_pos ((h.isWaiting_iff _).mpr hw), h.backlogs, Ledger.backlogs,
        List.map_map]
      refine List.map_congr_left fun v _ => ?_
      by_cases hv : v = d.unit
      · simp [heldOf_held, hunit, hv]
      · simp [heldOf_held, hunit, hv, Ne.symm hv]
    · -- a new backlog at the end
      have hnil : l.heldOf d.unit = [] := by
        by_contra hne
        exact hw (mem_units.mpr hne)
      rw [if_neg hw, if_neg (mt (h.isWaiting_iff _).mp hw), h.backlogs, Ledger.backlogs,
        List.map_append]
      refine congrArg₂ _ (List.map_congr_left fun v hv => ?_) ?_
      · have hne : d.unit ≠ v := fun heq => hw (heq ▸ hv)
        simp [heldOf_held, hunit, hne]
      · simp [heldOf_held, hunit, hnil]

/-- Repetitions can be left out before or after a selection. -/
theorem eraseDups_filter {α : Type} [DecidableEq α] (p : α → Bool) (xs : List α) :
    (xs.filter p).eraseDups = xs.eraseDups.filter p := by
  -- `eraseDups` goes on with a filtered tail, so the induction is on the length
  induction hn : xs.length using Nat.strong_induction_on generalizing xs with
  | _ n ih =>
    cases xs with
    | nil => rfl
    | cons x xs =>
      have hlen : (xs.filter fun y => !y == x).length < n := by
        have := List.length_filter_le (fun y => !y == x) xs
        rw [List.length_cons] at hn
        omega
      rw [List.eraseDups_cons, List.filter_cons, List.filter_cons, ← ih _ hlen _ rfl]
      by_cases hx : p x = true
      · rw [if_pos hx, if_pos hx, List.eraseDups_cons, List.filter_filter, List.filter_filter]
        simp only [Bool.and_comm]
      · rw [if_neg hx, if_neg hx, List.filter_filter]
        refine congrArg _ (List.filter_congr fun y _ => ?_)
        by_cases hy : y = x
        · simp [hy, hx]
        · simp [hy]

theorem heldOf_without (l : Ledger) (u v : SourceUnit) :
    (l.without u).heldOf v = if u = v then [] else l.heldOf v := by
  rw [heldOf, Ledger.without, List.filter_filter]
  by_cases hu : u = v
  · rw [if_pos hu, List.filter_eq_nil_iff]
    intro a _
    simp [hu]
  · rw [if_neg hu]
    refine List.filter_congr fun a _ => ?_
    by_cases ha : a.unit = v
    · simp [ha, Ne.symm hu]
    · simp [ha]

/-- The books are right after a unit is taken out. -/
theorem Describes.without (h : l.Describes e) (u : SourceUnit) :
    (l.without u).Describes (e.withoutWaiting u) where
  sink := h.sink
  backlogs := by
    -- the unit goes, and the arrivals of the other units stay
    have hunits : (l.without u).units = l.units.filter fun v => v != u := by
      rw [units, units, ← eraseDups_filter, List.filter_map]
      refine congrArg (fun as : List Arrival => (as.map Arrival.unit).eraseDups) ?_
      refine List.filter_congr fun a _ => ?_
      simp [bne, beq_eq_decide]
    rw [withoutWaiting, h.backlogs, Ledger.backlogs, Ledger.backlogs, hunits, List.filter_map]
    refine (List.map_congr_left fun v hv => ?_).symm
    have hne : v ≠ u := by simpa using (List.mem_filter.mp hv).2
    rw [heldOf_without, if_neg (Ne.symm hne)]

/-! ### Decisions of what waits -/

/-- Arrivals that are all decided go to two places, each in order. -/
theorem foldl_place (l : Ledger) (as : List Arrival) {v : Arrival → Outcome}
    (hv : ∀ a, v a ≠ .deferred) :
    (as.zip (as.map v)).foldl (fun l x => l.place x.1 x.2) l =
      { l with
        suppressed := l.suppressed ++ as.filter (v · = .suppressed)
        sink := l.sink ++ (as.filter (v · = .forwarded)).map .arrival } := by
  induction as generalizing l with
  | nil => simp
  | cons a as ih =>
    rw [List.map_cons, List.zip_cons_cons, List.foldl_cons, ih]
    cases ha : v a with
    | suppressed => simp [place, ha]
    | forwarded => simp [place, ha]
    | deferred => exact absurd ha (hv a)

/-- What becomes of the arrivals of a unit when each is decided. -/
theorem settle_map (l : Ledger) (u : SourceUnit) {v : Arrival → Outcome}
    (hv : ∀ a, v a ≠ .deferred) :
    l.settle u ((l.heldOf u).map v) =
      { l.without u with
        suppressed := l.suppressed ++ (l.heldOf u).filter (v · = .suppressed)
        sink := l.sink ++ ((l.heldOf u).filter (v · = .forwarded)).map .arrival } := by
  rw [settle, foldl_place _ _ hv]
  rfl

/-- The decision of what waits for a unit, entered in the books. -/
theorem Describes.settle {g : Option Registry} (h : l.Describes e)
    (hsink : e'.sink = e.sink ++ (e.waiting u).filter (passes g))
    (hbacklogs : e'.backlogs = (e.withoutWaiting u).backlogs) :
    (l.settle u ((l.heldOf u).map fun a => verdict g a.diagnostic)).Describes e' := by
  rw [settle_map l u fun a => verdict_ne_deferred g a.diagnostic]
  refine ⟨?_, hbacklogs.trans (h.without u).backlogs⟩
  rw [hsink, h.sink, h.waiting_eq, List.filter_map, List.map_append, List.map_map]
  refine congrArg (_ ++ List.map _ ·) (List.filter_congr fun a _ => ?_)
  rw [Bool.eq_iff_iff, Function.comp, ← verdict_eq_forwarded_iff, decide_eq_true_iff]

/-- A release lists exactly the diagnostics that pass. -/
theorem release_eq {g : Option Registry} (h : l.Describes e) :
    l.release ((e.waiting u).filter (passes g)) u =
      l.settle u ((l.heldOf u).map fun a => verdict g a.diagnostic) := by
  refine congrArg (l.settle u) (List.map_congr_left fun a ha => ?_)
  -- equal diagnostics share their decision, so membership by value tells the decision
  have hmem : a.diagnostic ∈ (e.waiting u).filter (passes g) ↔ passes g a.diagnostic = true := by
    rw [List.mem_filter, h.waiting_eq]
    exact and_iff_right (List.mem_map_of_mem ha)
  simp only [hmem, verdict, passes, Option.isNone_iff_eq_none, Option.isSome_iff_ne_none]
  by_cases hc : claimant g a.diagnostic = none <;> simp [hc]

/-- What a release enters depends on the list only through the arrivals of the unit. -/
theorem release_congr {ds ds' : List Diagnostic}
    (h : ∀ a ∈ l.heldOf u, a.diagnostic ∈ ds ↔ a.diagnostic ∈ ds') :
    l.release ds u = l.release ds' u := by
  refine congrArg (l.settle u) (List.map_congr_left fun a ha => ?_)
  simp only [h a ha]

end Ledger

/-! ## One operation in the books -/

/-- Books in which what waits for some units was decided, one unit after the other. -/
inductive Settles : Ledger → Ledger → Prop
  | none (l : Ledger) : Settles l l
  | unit (l : Ledger) (u : SourceUnit) {v : Arrival → Outcome} (hv : ∀ a, v a ≠ .deferred)
      {l' : Ledger} (h : Settles (l.settle u ((l.heldOf u).map v)) l') : Settles l l'

/-- What an operation enters in the books. -/
inductive Recorded (p : Policy) (op : Operation) (l : Ledger) : Ledger → Prop
  /-- Nothing, or entries that are no arrivals. -/
  | own (hd : op.diagnostic? = none) {es : List Entry} (hes : ∀ x ∈ es, x.arrival? = none) :
      Recorded p op l { l with sink := l.sink ++ es }
  /-- A new arrival; unless it is exempt it passes only if it does not have to wait. -/
  | arrived {d : Diagnostic} (hd : op.diagnostic? = some d) {o : Outcome}
      (hexempt : p.mayMuffle d.severity = false → o = .forwarded)
      (hpass : o = .forwarded → p.mayMuffle d.severity = true → p.defers = true →
        l.heldOf d.unit = []) :
      Recorded p op l (l.arrive d o)
  /-- The decision of arrivals that waited. -/
  | settled (hd : op.diagnostic? = none) {l' : Ledger} (h : Settles l l') : Recorded p op l l'

section Step

variable {p : Policy} {l : Ledger} {e e' : Engine}

open Ledger

theorem record_outcome {op : Operation} {d : Diagnostic} (hd : op.diagnostic? = some d)
    (o : Outcome) : l.record op (.outcome o) = l.arrive d o := by
  cases op with
  | report d₁ =>
    cases hd
    rfl
  | intercept =>
    simp only [record, hd]
    rfl
  | register | setDirectives | flush | flushAll | reportUnused | emit => cases hd

theorem settles_release (l : Ledger) (ds : List Diagnostic) (u : SourceUnit) {l' : Ledger}
    (h : Settles (l.release ds u) l') : Settles l l' := by
  refine .unit l u (v := fun a => if a.diagnostic ∈ ds then .forwarded else .suppressed) ?_ h
  intro a
  split <;> simp

theorem release_held (l : Ledger) (ds : List Diagnostic) (u : SourceUnit) :
    (l.release ds u).held = (l.without u).held := by
  rw [Ledger.release, settle_map]
  intro a
  split <;> simp

/-- Where a report puts a diagnostic, the ledger enters it. -/
theorem Reported.arrive {d : Diagnostic} {o : Outcome} (h : Reported p d e o e')
    (hl : l.Describes e) : (l.arrive d o).Describes e' := by
  let l₁ : Ledger := { l with count := l.count + 1 }
  have hl₁ : l₁.Describes e := ⟨hl.sink, hl.backlogs⟩
  cases h with
  | exempt =>
    exact ⟨by simp [Ledger.arrive, place, withSent, hl.sink, Entry.diagnostic], hl.backlogs⟩
  | filtered => exact ⟨hl.sink, hl.backlogs⟩
  | held => exact hl₁.hold l.count
  | decided _ _ _ hs =>
    refine ⟨?_, ?_⟩
    · rw [hs.sink, hl.sink]
      cases hc : claimant (e.findRegistry d.unit) d <;>
        simp [Ledger.arrive, place, verdict, passes, hc, Entry.diagnostic]
    · rw [hs.backlogs, hl.backlogs, verdict]
      split <;> rfl

/-- A diagnostic that is reported is recorded with its outcome. -/
theorem Reported.recorded {op : Operation} {d : Diagnostic} {o : Outcome}
    (h : Reported p d e o e') (hl : l.Describes e) (hd : op.diagnostic? = some d) :
    Recorded p op l (l.arrive d o) := by
  cases h with
  | exempt hm => exact .arrived hd (fun _ => rfl) fun _ hm' => by simp [hm] at hm'
  | filtered hm => exact .arrived hd (fun hm' => by simp [hm] at hm') nofun
  | held hm => exact .arrived hd (fun hm' => by simp [hm] at hm') nofun
  | decided hm _ hw =>
    refine .arrived hd (fun hm' => by simp [hm] at hm') fun _ _ hdefers => ?_
    -- where diagnostics wait, one is decided at once only if none of its unit waits
    by_contra hne
    have hwaits := (hl.isWaiting_iff d.unit).mpr (mem_units.mpr hne)
    simp [(hw hdefers).2] at hwaits

/-- A release of several units, in terms of any list that agrees with the answer on what waits. -/
theorem Released.settles {us : List SourceUnit} {passed : List Diagnostic}
    (h : Released us e passed e') (hl : l.Describes e) :
    (∀ d ∈ passed, ∃ a ∈ l.held, a.diagnostic = d) ∧
      ∀ ds, (∀ a ∈ l.held, a.diagnostic ∈ ds ↔ a.diagnostic ∈ passed) →
        (us.foldl (Ledger.release ds) l).Describes e' ∧
          Settles l (us.foldl (Ledger.release ds) l) := by
  induction h generalizing l with
  | nil => exact ⟨nofun, fun _ _ => ⟨hl, .none l⟩⟩
  | @cons u us e e₁ e' more hs _ ih =>
    let first := (e.waiting u).filter (passes (e.findRegistry u))
    have hl₁ : (l.release first u).Describes e₁ := by
      rw [release_eq hl]
      exact hl.settle hs.sink hs.backlogs
    have hheld : (l.release first u).held = l.held.filter fun a => a.unit ≠ u := release_held ..
    obtain ⟨hwaited, hrest⟩ := ih hl₁
    simp only [hheld, List.mem_filter, decide_eq_true_eq] at hwaited hrest
    -- what the units after `u` release is not of `u`, and what `u` releases is
    have hfirst_unit : ∀ d ∈ first, d.unit = u ∧ ∃ a ∈ l.held, a.diagnostic = d := by
      intro d hd
      rw [List.mem_filter, hl.waiting_eq, List.mem_map] at hd
      obtain ⟨⟨a, ha, rfl⟩, -⟩ := hd
      exact ⟨(mem_heldOf.mp ha).2, a, (mem_heldOf.mp ha).1, rfl⟩
    have hmore_unit : ∀ d ∈ more, d.unit ≠ u ∧ ∃ a ∈ l.held, a.diagnostic = d := by
      intro d hd
      obtain ⟨a, ⟨ha, hne⟩, rfl⟩ := hwaited d hd
      exact ⟨hne, a, ha, rfl⟩
    refine ⟨fun d hd => ?_, fun ds hds => ?_⟩
    · rcases List.mem_append.mp hd with hd | hd
      · exact (hfirst_unit d hd).2
      · exact (hmore_unit d hd).2
    · have hagree : l.release ds u = l.release first u := by
        refine release_congr fun a ha => ?_
        obtain ⟨hmem, hunit⟩ := mem_heldOf.mp ha
        rw [hds a hmem, List.mem_append]
        exact or_iff_left fun hmore => (hmore_unit _ hmore).1 hunit
      rw [List.foldl_cons, hagree]
      have hds' : ∀ a, a ∈ l.held ∧ a.unit ≠ u → (a.diagnostic ∈ ds ↔ a.diagnostic ∈ more) := by
        intro a ⟨hmem, hne⟩
        rw [hds a hmem, List.mem_append]
        exact or_iff_right fun hfirst => hne (hfirst_unit _ hfirst).1
      obtain ⟨hdescribes, hsettles⟩ := hrest ds hds'
      exact ⟨hdescribes, settles_release l first u hsettles⟩

/-- The step lemma: an operation that succeeds leaves an engine with the books that its answer
    leads to. -/
theorem record_ok {op : Operation} {a : Answer} (hl : l.Describes e)
    (h : (perform p op).on e = (.ok a, e')) :
    (l.record op a).Describes e' ∧ Recorded p op l (l.record op a) := by
  cases perform_ok h with
  | registered _ _ hs =>
    exact ⟨⟨hs.sink.trans hl.sink, hs.backlogs.trans hl.backlogs⟩, .settled rfl (.none l)⟩
  | @replayed u ds g _ _ _ hs =>
    have hrecord : l.record (.setDirectives u ds) (.outcomes ((e.waiting u).map (verdict (some g))))
        = l.settle u ((l.heldOf u).map fun a => verdict (some g) a.diagnostic) := by
      rw [record, hl.waiting_eq, List.map_map]
      rfl
    rw [hrecord]
    exact ⟨hl.settle hs.sink hs.backlogs,
      .settled rfl (.unit l u (fun a => verdict_ne_deferred _ a.diagnostic) (.none _))⟩
  | reported hd hr =>
    rw [record_outcome hd]
    exact ⟨hr.arrive hl, hr.recorded hl hd⟩
  | @released u _ hs =>
    rw [record, release_eq hl]
    exact ⟨hl.settle hs.sink hs.backlogs,
      .settled rfl (.unit l u (fun a => verdict_ne_deferred _ a.diagnostic) (.none _))⟩
  | @releasedAll passed _ hr =>
    -- the units of the backlogs are those of the books, in the same order
    have hunits : e.backlogs.map (·.unit) = l.units := by
      rw [hl.backlogs, Ledger.backlogs, List.map_map]
      exact List.map_id _
    rw [hunits] at hr
    obtain ⟨-, hrelease⟩ := hr.settles hl
    obtain ⟨hdescribes, hsettles⟩ := hrelease passed fun _ _ => Iff.rfl
    exact ⟨hdescribes, .settled rfl hsettles⟩
  | unusedReported ns =>
    refine ⟨⟨?_, hl.backlogs⟩, .own rfl ?_⟩
    · simp [record, withNotices, hl.sink, Entry.diagnostic]
    · simp [Entry.arrival?]
  | emitted =>
    refine ⟨⟨?_, hl.backlogs⟩, .own rfl ?_⟩
    · simp [record, withSent, hl.sink, Entry.diagnostic]
    · simp [Entry.arrival?]

/-- The run lemma: what each entry keeps, a run keeps. The property may speak of the operations
    that led to the books. -/
theorem recordAll_induction {P : List Operation → Ledger → Prop} (past : List Operation)
    {ops : List Operation} {answers : List Answer}
    (step : ∀ past op l l', Recorded p op l l' → P past l → P (past ++ [op]) l')
    (h : (performAll p ops).on e = (.ok answers, e')) (hl : l.Describes e) (hP : P past l) :
    (l.recordAll ops answers).Describes e' ∧ P (past ++ ops) (l.recordAll ops answers) := by
  induction ops generalizing l e past answers with
  | nil =>
    cases h
    exact ⟨hl, (List.append_nil past).symm ▸ hP⟩
  | cons op ops ih =>
    obtain ⟨a, as, e₁, rfl, hop, hops⟩ := performAll_cons_ok h
    obtain ⟨hl₁, hrec⟩ := record_ok hl hop
    have hrest := ih (past ++ [op]) hops hl₁ (step past op l _ hrec hP)
    rw [List.append_assoc, List.singleton_append] at hrest
    exact hrest

end Step

end Muffle.Engine
