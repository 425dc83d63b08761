/-
  Muffle.Proofs.Engine.ArrivalOrder

  The order in which the sink sees the diagnostics of a unit, where diagnostics wait for their
  directives. What waits keeps its order, and what arrives later waits behind it; only a
  diagnostic of an exempt severity passes at once. So the sink sees arrival order exactly if no
  such diagnostic arrives while another one waits that reaches the sink in the end.

  One direction follows an overtaken arrival to its place in the sink. The other one is the
  invariant `Ordered`, which looks at waiting arrivals only if they reach the sink.
-/

import Muffle.Proofs.Engine.Accounting

namespace Muffle.Engine

/-! ## Growth of the books -/

namespace Ledger

/-- The arrivals of a unit in the sink. -/
def sentOf (l : Ledger) (u : SourceUnit) : List Arrival := l.sent.filter fun a => a.unit = u

/-- Only what is forwarded goes to the sink. -/
theorem sent_place (l : Ledger) (a : Arrival) (o : Outcome) :
    (l.place a o).sent = l.sent ++ if o = .forwarded then [a] else [] := by
  cases o <;> simp [place, sent, Entry.arrival?]

/-- Only what is deferred waits. -/
theorem held_place (l : Ledger) (a : Arrival) (o : Outcome) :
    (l.place a o).held = l.held ++ if o = .deferred then [a] else [] := by
  cases o <;> simp [place]

/-- What waits goes to the sink in the order in which it waited. -/
theorem sent_settle (l : Ledger) (u : SourceUnit) {v : Arrival → Outcome}
    (hv : ∀ a, v a ≠ .deferred) :
    (l.settle u ((l.heldOf u).map v)).sent =
      l.sent ++ (l.heldOf u).filter (v · = .forwarded) := by
  rw [settle_map l u hv, sent, List.filterMap_append, List.filterMap_map]
  exact congrArg (l.sent ++ ·) List.filterMap_some

theorem sentOf_arrive (l : Ledger) (d : Diagnostic) (o : Outcome) (u : SourceUnit) :
    (l.arrive d o).sentOf u =
      l.sentOf u ++ if o = .forwarded ∧ d.unit = u then [⟨l.count, d⟩] else [] := by
  rw [sentOf, arrive, sent_place, List.filter_append]
  by_cases ho : o = .forwarded <;> by_cases hd : d.unit = u <;>
    simp [ho, hd, sentOf, sent, Arrival.unit]

theorem heldOf_arrive (l : Ledger) (d : Diagnostic) (o : Outcome) (u : SourceUnit) :
    (l.arrive d o).heldOf u =
      l.heldOf u ++ if o = .deferred ∧ d.unit = u then [⟨l.count, d⟩] else [] := by
  rw [heldOf, arrive, held_place, List.filter_append]
  by_cases ho : o = .deferred <;> by_cases hd : d.unit = u <;>
    simp [ho, hd, heldOf, Arrival.unit]

/-- Only the unit that is settled sends. -/
theorem sentOf_settle (l : Ledger) (w u : SourceUnit) {v : Arrival → Outcome}
    (hv : ∀ a, v a ≠ .deferred) :
    (l.settle w ((l.heldOf w).map v)).sentOf u =
      l.sentOf u ++ if w = u then (l.heldOf u).filter (v · = .forwarded) else [] := by
  have hunit : ∀ a ∈ (l.heldOf w).filter (v · = .forwarded), a.unit = w := fun a ha =>
    (mem_heldOf.mp (List.mem_of_mem_filter ha)).2
  rw [sentOf, sent_settle l w hv, List.filter_append]
  by_cases hw : w = u
  · subst hw
    rw [if_pos rfl, List.filter_eq_self.mpr fun a ha => decide_eq_true (hunit a ha), sentOf]
  · have hnil : ((l.heldOf w).filter (v · = .forwarded)).filter (·.unit = u) = [] := by
      refine List.filter_eq_nil_iff.mpr fun a ha => ?_
      rw [hunit a ha, decide_eq_true_iff]
      exact hw
    rw [if_neg hw, hnil, sentOf]

/-- Afterwards nothing of this unit waits. -/
theorem heldOf_settle (l : Ledger) (w u : SourceUnit) {v : Arrival → Outcome}
    (hv : ∀ a, v a ≠ .deferred) :
    (l.settle w ((l.heldOf w).map v)).heldOf u = if w = u then [] else l.heldOf u := by
  rw [settle_map l w hv]
  exact heldOf_without l w u

end Ledger

/-- The sink only grows. -/
theorem Settles.sent_prefix {l l' : Ledger} (h : Settles l l') : l.sent <+: l'.sent := by
  induction h with
  | none => exact List.prefix_rfl
  | unit l u hv _ ih =>
    rw [l.sent_settle u hv] at ih
    exact (List.prefix_append _ _).trans ih

theorem Recorded.sent_prefix {p : Policy} {op : Operation} {l l' : Ledger}
    (h : Recorded p op l l') : l.sent <+: l'.sent := by
  cases h with
  | own _ hes => exact (Ledger.sent_own hes).symm ▸ List.prefix_rfl
  | arrived =>
    rw [Ledger.arrive, Ledger.sent_place]
    exact List.prefix_append _ _
  | settled _ hs => exact hs.sent_prefix

/-- The sink only grows. -/
theorem recordAll_sent_prefix {p : Policy} {l : Ledger} {ops : List Operation}
    {answers : List Answer} {e e' : Engine} (h : (performAll p ops).on e = (.ok answers, e'))
    (hl : l.Describes e) : l.sent <+: (l.recordAll ops answers).sent :=
  (recordAll_induction (P := fun _ l' => l.sent <+: l'.sent) []
    (fun _ _ _ _ hrec hsent => hsent.trans hrec.sent_prefix) h hl List.prefix_rfl).2

/-! ## Order -/

/-- Arrivals stand in the order of their numbers. -/
def InOrder (as : List Arrival) : Prop := as.Pairwise fun a b => a.number < b.number

instance (as : List Arrival) : Decidable (InOrder as) :=
  inferInstanceAs (Decidable (as.Pairwise fun a b => a.number < b.number))

/-- An exempt diagnostic of the unit arrives while one waits that is in the sink in the end. The
    books before it are those of the operations before it; the further answers do not count. -/
def Overtaken (p : Policy) (u : SourceUnit) (ops : List Operation) (answers : List Answer) :
    Prop :=
  ∃ before op after d, ops = before ++ op :: after ∧ op.diagnostic? = some d ∧ d.unit = u ∧
    p.mayMuffle d.severity = false ∧
    ∃ a ∈ (Ledger.ofRun before answers).heldOf u, a ∈ (Ledger.ofRun ops answers).sent

/-- A later arrival keeps the order. -/
theorem InOrder.concat {as : List Arrival} {b : Arrival} (h : InOrder as)
    (hb : ∀ a ∈ as, a.number < b.number) : InOrder (as ++ [b]) := by
  refine List.pairwise_append.mpr ⟨h, List.pairwise_singleton _ _, fun a ha x hx => ?_⟩
  rw [List.mem_singleton.mp hx]
  exact hb a ha

/-- The order of a unit's arrivals in the books, where only those in `fin` count once they wait. -/
structure Ordered (fin : List Arrival) (u : SourceUnit) (l : Ledger) : Prop where
  sent : InOrder (l.sentOf u)
  held : InOrder (l.heldOf u)
  old : ∀ a, a ∈ l.sentOf u ∨ a ∈ l.heldOf u → a.number < l.count
  behind : ∀ a ∈ l.sentOf u, ∀ b ∈ l.heldOf u, b ∈ fin → a.number < b.number

namespace Ordered

variable {fin : List Arrival} {u : SourceUnit} {l l' : Ledger}

/-- Order is a matter of what the unit sent, what it holds, and how many have arrived. -/
theorem congr (h : Ordered fin u l) (hsent : l'.sentOf u = l.sentOf u)
    (hheld : l'.heldOf u = l.heldOf u) (hcount : l.count ≤ l'.count) : Ordered fin u l' where
  sent := hsent ▸ h.sent
  held := hheld ▸ h.held
  old a ha := by
    rw [hsent, hheld] at ha
    exact Nat.lt_of_lt_of_le (h.old a ha) hcount
  behind := by
    rw [hsent, hheld]
    exact h.behind

/-- An arrival keeps the order, unless it passes while others of its unit wait that will be sent in
    the end. -/
theorem arrive (h : Ordered fin u l) {d : Diagnostic} {o : Outcome}
    (hpass : o = .forwarded → d.unit = u → ∀ b ∈ l.heldOf u, b ∉ fin) :
    Ordered fin u (l.arrive d o) := by
  have hcount : (l.arrive d o).count = l.count + 1 := by cases o <;> rfl
  have hsent := l.sentOf_arrive d o u
  have hheld := l.heldOf_arrive d o u
  have hsent_old : ∀ a ∈ l.sentOf u, a.number < l.count := fun a ha => h.old a (.inl ha)
  have hheld_old : ∀ a ∈ l.heldOf u, a.number < l.count := fun a ha => h.old a (.inr ha)
  by_cases hf : o = .forwarded ∧ d.unit = u
  · -- it goes to the sink, behind all that is there
    have hd : ¬ (o = .deferred ∧ d.unit = u) := by simp [hf.1]
    rw [if_pos hf] at hsent
    rw [if_neg hd, List.append_nil] at hheld
    refine ⟨?_, ?_, ?_, ?_⟩
    · rw [hsent]
      exact h.sent.concat hsent_old
    · rw [hheld]
      exact h.held
    · intro a ha
      rw [hsent, hheld, List.mem_append, List.mem_singleton] at ha
      rw [hcount]
      rcases ha with (ha | rfl) | ha
      · exact Nat.lt_succ_of_lt (hsent_old a ha)
      · exact Nat.lt_succ_self _
      · exact Nat.lt_succ_of_lt (hheld_old a ha)
    · intro a ha b hb hfin
      rw [hheld] at hb
      exact absurd hfin (hpass hf.1 hf.2 b hb)
  · rw [if_neg hf, List.append_nil] at hsent
    by_cases hd : o = .deferred ∧ d.unit = u
    · -- it waits, behind all that waits and all that is in the sink
      rw [if_pos hd] at hheld
      refine ⟨?_, ?_, ?_, ?_⟩
      · rw [hsent]
        exact h.sent
      · rw [hheld]
        exact h.held.concat hheld_old
      · intro a ha
        rw [hsent, hheld, List.mem_append, List.mem_singleton] at ha
        rw [hcount]
        rcases ha with ha | ha | rfl
        · exact Nat.lt_succ_of_lt (hsent_old a ha)
        · exact Nat.lt_succ_of_lt (hheld_old a ha)
        · exact Nat.lt_succ_self _
      · intro a ha b hb hfin
        rw [hsent] at ha
        rw [hheld, List.mem_append, List.mem_singleton] at hb
        rcases hb with hb | rfl
        · exact h.behind a ha b hb hfin
        · exact hsent_old a ha
    · -- it is suppressed, or of another unit
      rw [if_neg hd, List.append_nil] at hheld
      exact h.congr hsent hheld (hcount ▸ Nat.le_succ _)

/-- What waits arrived after all that was sent, so it can follow. -/
theorem settle (h : Ordered fin u l) {w : SourceUnit} {v : Arrival → Outcome}
    (hv : ∀ a, v a ≠ .deferred) (hfin : (l.settle w ((l.heldOf w).map v)).sent ⊆ fin) :
    Ordered fin u (l.settle w ((l.heldOf w).map v)) := by
  have hcount : (l.settle w ((l.heldOf w).map v)).count = l.count := by
    rw [l.settle_map w hv, Ledger.without]
  have hsent := l.sentOf_settle w u hv
  have hheld := l.heldOf_settle w u hv
  by_cases hw : w = u
  · rw [if_pos hw] at hsent hheld
    -- what gets to the sink here is in it in the end
    have hnew : ∀ b ∈ (l.heldOf u).filter (v · = .forwarded), b ∈ l.heldOf u ∧ b ∈ fin := by
      intro b hb
      refine ⟨List.mem_of_mem_filter hb, hfin ?_⟩
      rw [l.sent_settle w hv, hw]
      exact List.mem_append_right _ hb
    refine ⟨?_, ?_, ?_, ?_⟩
    · rw [hsent]
      refine List.pairwise_append.mpr ⟨h.sent, h.held.filter _, fun a ha b hb => ?_⟩
      exact h.behind a ha b (hnew b hb).1 (hnew b hb).2
    · rw [hheld]
      exact .nil
    · intro a ha
      rw [hsent, hheld, List.mem_append] at ha
      rw [hcount]
      rcases ha with (ha | ha) | ha
      · exact h.old a (.inl ha)
      · exact h.old a (.inr (hnew a ha).1)
      · cases ha
    · rw [hheld]
      intro a _ b hb
      cases hb
  · rw [if_neg hw, List.append_nil] at hsent
    rw [if_neg hw] at hheld
    exact h.congr hsent hheld hcount.ge

theorem settles (h : Ordered fin u l) (hs : Settles l l') (hfin : l'.sent ⊆ fin) :
    Ordered fin u l' := by
  induction hs with
  | none => exact h
  | unit l w hv hs ih =>
    exact ih (h.settle hv fun a ha => hfin (hs.sent_prefix.subset ha)) hfin

/-- The step lemma: only a diagnostic that is exempt from muffling can overtake. -/
theorem recorded {p : Policy} {op : Operation} (h : Ordered fin u l) (hp : p.defers = true)
    (hrec : Recorded p op l l') (hfin : l'.sent ⊆ fin)
    (hexempt : ∀ d, op.diagnostic? = some d → d.unit = u → p.mayMuffle d.severity = false →
      ∀ a ∈ l.heldOf u, a ∉ fin) : Ordered fin u l' := by
  cases hrec with
  | own _ hes =>
    refine h.congr ?_ rfl (Nat.le_refl _)
    rw [Ledger.sentOf, Ledger.sent_own hes, Ledger.sentOf]
  | @arrived d hd o _ hpass =>
    refine h.arrive fun ho hu b hb => ?_
    -- an exempt diagnostic overtakes nothing by assumption, any other one only if nothing waits
    cases hm : p.mayMuffle d.severity with
    | false => exact hexempt d hd hu hm b hb
    | true =>
      rw [← hu, hpass ho hm hp] at hb
      cases hb
  | settled _ hs => exact h.settles hs hfin

end Ordered

theorem ordered_empty (fin : List Arrival) (u : SourceUnit) : Ordered fin u {} :=
  ⟨.nil, .nil, fun _ ha => by simp [Ledger.sentOf, Ledger.heldOf, Ledger.sent] at ha,
    fun _ _ _ hb => by cases hb⟩

/-- A run in which no exempt diagnostic overtakes keeps the order. -/
theorem ordered_recordAll {p : Policy} {fin : List Arrival} {u : SourceUnit} {l : Ledger}
    {ops : List Operation} {answers : List Answer} {e e' : Engine} (hp : p.defers = true)
    (h : (performAll p ops).on e = (.ok answers, e')) (hl : l.Describes e)
    (hord : Ordered fin u l) (hfin : (l.recordAll ops answers).sent ⊆ fin)
    (hexempt : ∀ before op after d, ops = before ++ op :: after → op.diagnostic? = some d →
      d.unit = u → p.mayMuffle d.severity = false →
      ∀ a ∈ (l.recordAll before answers).heldOf u, a ∉ fin) :
    Ordered fin u (l.recordAll ops answers) := by
  induction ops generalizing l e answers with
  | nil =>
    cases h
    exact hord
  | cons op ops ih =>
    obtain ⟨a, as, e₁, rfl, hop, hops⟩ := performAll_cons_ok h
    obtain ⟨hl₁, hrec⟩ := record_ok hl hop
    -- what is in the sink now stays there
    have hgrows := recordAll_sent_prefix hops hl₁
    have hord₁ := hord.recorded hp hrec (fun x hx => hfin (hgrows.subset hx))
      fun d hd hu hm => hexempt [] op ops d rfl hd hu hm
    refine ih hops hl₁ hord₁ hfin fun before op' after d heq => ?_
    exact hexempt (op :: before) op' after d (by rw [heq, List.cons_append])

/-! ## Overtaking -/

/-- An arrival is found in the list by its number. -/
theorem mem_arrivals {ds : List Diagnostic} {a : Arrival} (h : a ∈ arrivals ds) :
    ds[a.number]? = some a.diagnostic := by
  obtain ⟨i, hi, rfl⟩ := List.mem_mapIdx.mp h
  exact List.getElem?_eq_getElem hi

theorem Ledger.Balances.getElem?_number {l : Ledger} {ds : List Diagnostic} (h : l.Balances ds)
    {a : Arrival} (ha : a ∈ l.places) : ds[a.number]? = some a.diagnostic :=
  mem_arrivals (h.places_perm.mem_iff.mp ha)

theorem Ledger.Balances.number_lt {l : Ledger} {ds : List Diagnostic} (h : l.Balances ds)
    {a : Arrival} (ha : a ∈ l.places) : a.number < l.count := by
  rw [h.count_eq]
  exact (List.getElem?_eq_some_iff.mp (h.getElem?_number ha)).1

/-- An arrival that is overtaken follows in the sink what overtook it. -/
theorem Overtaken.not_inOrder {p : Policy} {u : SourceUnit} {ops : List Operation}
    {answers : List Answer} {e : Engine} (h : (performAll p ops).on {} = (.ok answers, e))
    (ho : Overtaken p u ops answers) : ¬ InOrder ((Ledger.ofRun ops answers).sentOf u) := by
  obtain ⟨before, op, after, d, rfl, hd, hu, hm, a, ha, hfin⟩ := ho
  obtain ⟨as, rest, e₁, rfl, hlen, hbefore, hrest⟩ := performAll_append_ok h
  obtain ⟨x, as', e₂, rfl, hop, hafter⟩ := performAll_cons_ok hrest
  rw [Ledger.ofRun, Ledger.recordAll_append_answers _ hlen] at ha
  rw [Ledger.ofRun, Ledger.recordAll_append _ hlen] at hfin ⊢
  obtain ⟨hl, hb⟩ := ofRun_ok hbefore
  rw [Ledger.ofRun] at hl hb
  generalize Ledger.recordAll {} before as = l at ha hfin hl hb ⊢
  -- the exempt diagnostic passes while `a` waits
  obtain ⟨o, rfl, hreport⟩ := perform_diagnostic_ok hd hop
  rw [report_exempt hm] at hreport
  cases hreport
  obtain ⟨hl₁, hrec⟩ := record_ok hl hop
  have hb₁ := hb.recorded hrec
  have hrecord := record_outcome (l := l) hd .forwarded
  rw [hrecord] at hl₁ hb₁
  have hfinal : l.recordAll (op :: after) (.outcome .forwarded :: as') =
      (l.arrive d .forwarded).recordAll after as' := by
    rw [← hrecord]
    rfl
  obtain ⟨more, hmore⟩ := recordAll_sent_prefix hafter hl₁
  rw [hfinal, ← hmore] at hfin
  -- so `a` gets to the sink later
  have ha_more : a ∈ more := by
    refine (List.mem_append.mp hfin).resolve_left fun hsent => ?_
    have hheld : a ∈ (l.arrive d .forwarded).held := (Ledger.mem_heldOf.mp ha).1
    exact (List.nodup_append.mp hb₁.nodup).2.2 a (List.mem_append_right _ hsent) a hheld rfl
  -- although it has the smaller number
  have hlt : a.number < l.count :=
    hb.number_lt (List.mem_append_right _ (Ledger.mem_heldOf.mp ha).1)
  rw [hfinal, Ledger.sentOf, ← hmore, List.filter_append]
  intro horder
  have hpassed : (⟨l.count, d⟩ : Arrival) ∈
      (l.arrive d .forwarded).sent.filter fun b => b.unit = u := by
    rw [← Ledger.sentOf, Ledger.sentOf_arrive, if_pos ⟨rfl, hu⟩]
    exact List.mem_append_right _ (List.mem_singleton.mpr rfl)
  have hmem : a ∈ more.filter fun b => b.unit = u :=
    List.mem_filter.mpr ⟨ha_more, decide_eq_true (Ledger.mem_heldOf.mp ha).2⟩
  have hgt : l.count < a.number := (List.pairwise_append.mp horder).2.2 _ hpassed _ hmem
  omega

/-- By induction on the operations: as long as nothing is overtaken, the order holds. -/
theorem inOrder_of_not_overtaken {p : Policy} {u : SourceUnit} {ops : List Operation}
    {answers : List Answer} {e : Engine} (hp : p.defers = true)
    (h : (performAll p ops).on {} = (.ok answers, e)) (hno : ¬ Overtaken p u ops answers) :
    InOrder ((Ledger.ofRun ops answers).sentOf u) := by
  refine (ordered_recordAll hp h ⟨rfl, rfl⟩ (ordered_empty _ u) (List.Subset.refl _) ?_).sent
  intro before op after d heq hd hu hm a ha hfin
  exact hno ⟨before, op, after, d, heq, hd, hu, hm, a, ha, hfin⟩

/-- Without exempt severities the order of arrival is always kept. -/
theorem inOrder_of_mayMuffle {p : Policy} {ops : List Operation} {answers : List Answer}
    {e : Engine} (hp : p.defers = true) (hall : ∀ s, p.mayMuffle s = true)
    (h : (performAll p ops).on {} = (.ok answers, e)) (u : SourceUnit) :
    InOrder ((Ledger.ofRun ops answers).sentOf u) := by
  refine inOrder_of_not_overtaken hp h fun ho => ?_
  obtain ⟨_, _, _, d, -, -, -, hm, -⟩ := ho
  rw [hall d.severity] at hm
  cases hm

/-- Where diagnostics wait, the sink has the diagnostics of a unit in order of arrival exactly if
    no exempt one arrives while one waits that is in the sink in the end. -/
theorem performAll_inOrder_iff {p : Policy} {ops : List Operation} {answers : List Answer}
    {e : Engine} (hp : p.defers = true) (h : (performAll p ops).on {} = (.ok answers, e)) :
    e.sink = (Ledger.ofRun ops answers).sink.map Entry.diagnostic ∧
      (∀ a ∈ (Ledger.ofRun ops answers).sent,
        (intercepted ops)[a.number]? = some a.diagnostic) ∧
      ∀ u, InOrder ((Ledger.ofRun ops answers).sentOf u) ↔ ¬ Overtaken p u ops answers := by
  obtain ⟨hl, hb⟩ := ofRun_ok h
  refine ⟨hl.sink, fun a ha => ?_, fun u => ⟨fun horder ho => ?_, inOrder_of_not_overtaken hp h⟩⟩
  · exact hb.getElem?_number (List.mem_append_left _ (List.mem_append_right _ ha))
  · exact ho.not_inOrder h horder

/-- To pass one that is muffled in the end is not to overtake it. -/
theorem performAll_inOrder_muffled :
    let ops := [.report (.warningAt ⟨"u"⟩ 5 "first"),
      .report ⟨⟨"u"⟩, .int 7, .error, .str "second"⟩,
      .setDirectives ⟨"u"⟩ [.atOffsets 0 0 10]]
    let p := Policy.deferring [.info, .warning]
    p.defers = true ∧ ∃ answers e, (performAll p ops).on {} = (.ok answers, e) ∧
      ¬ Overtaken p ⟨"u"⟩ ops answers := by
  intro ops p
  let run := (performAll p ops).on {}
  let answers : List Answer := [.outcome .deferred, .outcome .forwarded, .outcomes [.suppressed]]
  have hrun : run = (.ok answers, run.2) := Prod.ext rfl rfl
  have horder : InOrder ((Ledger.ofRun ops answers).sentOf ⟨"u"⟩) := by decide +kernel
  exact ⟨rfl, answers, run.2, hrun, ((performAll_inOrder_iff rfl hrun).2.2 ⟨"u"⟩).mp horder⟩

/-- An exempt diagnostic overtakes one that waits: the sink does not always see the order of
    arrival. -/
theorem performAll_overtakes :
    let first := Diagnostic.warningAt ⟨"u"⟩ 5 "first"
    let second : Diagnostic := ⟨⟨"u"⟩, .int 7, .error, .str "second"⟩
    let ops := [.report first, .report second, .flush ⟨"u"⟩]
    let p := Policy.deferring [.info, .warning]
    p.defers = true ∧ ∃ answers e, (performAll p ops).on {} = (.ok answers, e) ∧
      e.sink = [second, first] ∧ intercepted ops = [first, second] ∧
      ¬ InOrder ((Ledger.ofRun ops answers).sentOf ⟨"u"⟩) := by
  intro first second ops p
  let run := (performAll p ops).on {}
  let answers : List Answer := [.outcome .deferred, .outcome .forwarded, .forwarded [first]]
  have hrun : run = (.ok answers, run.2) := Prod.ext rfl rfl
  have horder : ¬ InOrder ((Ledger.ofRun ops answers).sentOf ⟨"u"⟩) := by decide +kernel
  exact ⟨rfl, answers, run.2, hrun, rfl, rfl, horder⟩

end Muffle.Engine
