/-
  Muffle.Proofs.Engine.Usage

  Which directives are of use. A directive is of use exactly if once, when a diagnostic of its
  unit was decided that no exemption and no filter took, it was the first stored one that applied;
  once of use it stays so. The report of unused directives names exactly the others, in stored
  order, and changes nothing but the sink.

  What one call adds to the directives of use is `Called.mem_used`, by the cases of the step lemma;
  a run adds what its calls add (`callAll_mem_used`). Identities of directives are told apart only
  in the end, where each was handed over once.
-/

import Muffle.Proofs.Engine.Call
import Muffle.Proofs.Registration

namespace Muffle.Engine

open Registry (FirstToApply)

variable {p : Policy} {e e' : Engine} {u : SourceUnit} {d : Diagnostic} {s : Directive}

/-! ## Stored directives -/

/-- The directives that a call hands over. -/
def Call.handed : Call → List (SourceUnit × Directive)
  | .operation op => op.handed
  | _ => []

/-- The directives that calls hand over, in order. -/
def handed (cs : List Call) : List (SourceUnit × Directive) := cs.flatMap Call.handed

/-- The directives of a unit after a call are those before and those handed over. -/
theorem Called.directives_perm {c : Call} {r : Reply} (h : Called p e c r e') (v : SourceUnit) :
    (e'.registryD v).directives.Perm ((e.registryD v).directives ++ directivesOf v c.handed) := by
  cases h with
  | performed h => exact h.directives_perm v
  | @opened u _ hs =>
    have hsame : e'.registryD v = e.registryD v := by
      rw [registryD_of_find hs.find]
      split
      · rename_i hv
        rw [hv]
      · rfl
    rw [hsame]
    exact .of_eq (List.append_nil _).symm
  | viewed b ns hc =>
    cases c with
    | operation op => exact absurd rfl (hc op)
    | openRegistry | hasRegistry | requireDirectives => exact .of_eq (List.append_nil _).symm

/-! ## Decisions -/

/-- A call decides a diagnostic while these directives of its unit are stored. -/
inductive Decides (p : Policy) (e : Engine) : Call → Diagnostic → List Directive → Prop
  /-- At its arrival, where it does not have to wait. -/
  | reported {op : Operation} {d : Diagnostic} (hd : op.diagnostic? = some d)
      (hw : p.defers = true → (e.findRegistry d.unit).isSome ∧ e.isWaiting d.unit = false) :
      Decides p e (.operation op) d (e.registryD d.unit).directives
  /-- In the replay, by what is stored then. -/
  | replayed {u : SourceUnit} {ss : List Directive} {g : Registry} {d : Diagnostic}
      (hg : (e.registryD u).registerAll ss = .ok g) (hd : d ∈ e.waiting u) :
      Decides p e (.operation (.setDirectives u ss)) d g.directives
  | released {u : SourceUnit} {d : Diagnostic} (hd : d ∈ e.waiting u) :
      Decides p e (.operation (.flush u)) d (e.registryD u).directives
  | releasedAll {u : SourceUnit} {d : Diagnostic} (hd : d ∈ e.waiting u) :
      Decides p e (.operation .flushAll) d (e.registryD u).directives

/-- A call decides a diagnostic that neither its severity nor a filter decides, and of the
    directives stored then this one is the first that applies. -/
def Claims (p : Policy) (e : Engine) (c : Call) (d : Diagnostic) (s : Directive) : Prop :=
  p.mayMuffle d.severity = true ∧ p.filteredBy? d = .ok none ∧
    ∃ ss, Decides p e c d ss ∧ FirstToApply ss d.position d.message s

theorem mem_claimants {g : Option Registry} {ds : List Diagnostic} {x : Nat} :
    x ∈ (ds.filterMap (claimant g)).map (·.id) ↔
      ∃ d ∈ ds, ∃ s, claimant g d = some s ∧ s.id = x := by
  simp only [List.mem_map, List.mem_filterMap]
  constructor
  · rintro ⟨s, ⟨d, hd, hs⟩, hx⟩
    exact ⟨d, hd, s, hs, hx⟩
  · rintro ⟨d, hd, s, hs, hx⟩
    exact ⟨s, ⟨d, hd, hs⟩, hx⟩

/-- A directive is used after a settlement if it was before, or claimed one of the diagnostics. -/
theorem Settled.mem_used {g : Option Registry} {ds : List Diagnostic} (h : Settled g ds e e')
    {x : Nat} :
    x ∈ e'.used ↔ x ∈ e.used ∨ ∃ d ∈ ds, ∃ s, claimant g d = some s ∧ s.id = x := by
  rw [h.used, List.mem_append, mem_claimants]

/-- The same over several units. -/
theorem Released.mem_used {us : List SourceUnit} {ds : List Diagnostic}
    (h : Released us e ds e') {x : Nat} :
    x ∈ e'.used ↔ x ∈ e.used ∨
      ∃ u ∈ us, ∃ d ∈ e.waiting u, ∃ s, claimant (e.findRegistry u) d = some s ∧ s.id = x := by
  induction h with
  | nil => simp
  | @cons u us e e₁ e' more hs hrest ih =>
    have hfind : ∀ v, e₁.findRegistry v = e.findRegistry v := findRegistry_congr hs.registries
    have hwaiting : ∀ v, e₁.waiting v = if v = u then [] else e.waiting v := by
      intro v
      rw [waiting_congr hs.backlogs, waiting_withoutWaiting]
    rw [ih, hs.mem_used]
    constructor
    · rintro ((hx | ⟨d, hd, hx⟩) | ⟨v, hv, d, hd, hx⟩)
      · exact .inl hx
      · exact .inr ⟨u, List.mem_cons_self, d, hd, hx⟩
      · rw [hwaiting] at hd
        rw [hfind] at hx
        split at hd
        · cases hd
        · exact .inr ⟨v, List.mem_cons_of_mem _ hv, d, hd, hx⟩
    · rintro (hx | ⟨v, hv, d, hd, hx⟩)
      · exact .inl (.inl hx)
      · by_cases hu : v = u
        · subst hu
          exact .inl (.inr ⟨d, hd, hx⟩)
        · -- what waits for another unit still waits after the first release
          refine .inr ⟨v, (List.mem_cons.mp hv).resolve_left hu, d, ?_, ?_⟩
          · rw [hwaiting, if_neg hu]
            exact hd
          · rw [hfind]
            exact hx

/-- A report decides its diagnostic, or none. -/
theorem decides_of_diagnostic {op : Operation} {d' : Diagnostic} {ss : List Directive}
    (hd : op.diagnostic? = some d) (h : Decides p e (.operation op) d' ss) :
    d' = d ∧ ss = (e.registryD d.unit).directives ∧
      (p.defers = true → (e.findRegistry d.unit).isSome ∧ e.isWaiting d.unit = false) := by
  cases h with
  | reported hd' hw =>
    cases hd.symm.trans hd'
    exact ⟨rfl, rfl, hw⟩
  | replayed | released | releasedAll => cases hd

/-- The same for one diagnostic that is reported. -/
theorem Reported.mem_used {op : Operation} {o : Outcome} (hd : op.diagnostic? = some d)
    (h : Reported p d e o e') {x : Nat} :
    x ∈ e'.used ↔ x ∈ e.used ∨ ∃ d s, Claims p e (.operation op) d s ∧ s.id = x := by
  -- where the diagnostic is not put to the directives, nothing claims it
  have hnone : (∀ ss, p.mayMuffle d.severity = true → p.filteredBy? d = .ok none →
      ¬ Decides p e (.operation op) d ss) → ¬ ∃ d s, Claims p e (.operation op) d s ∧ s.id = x := by
    rintro hno ⟨d', s, ⟨hm, hf, ss, hdec, -⟩, -⟩
    obtain ⟨rfl, -, -⟩ := decides_of_diagnostic hd hdec
    exact hno ss hm hf hdec
  cases h with
  | exempt hm =>
    refine (or_iff_left (hnone fun ss hm' _ _ => ?_)).symm
    rw [hm] at hm'
    cases hm'
  | filtered _ reason hf =>
    refine (or_iff_left (hnone fun ss _ hf' _ => ?_)).symm
    rw [hf] at hf'
    cases hf'
  | held _ _ hdefers hw =>
    refine (or_iff_left (hnone fun ss _ _ hdec => ?_)).symm
    obtain ⟨hsome, hidle⟩ := (decides_of_diagnostic hd hdec).2.2 hdefers
    rcases hw with hw | hw
    · rw [hw] at hsome
      cases hsome
    · rw [hw] at hidle
      cases hidle
  -- it is put to them, and the first that applies claims it
  | decided hm hf hw hs =>
    rw [hs.mem_used]
    refine or_congr_right ⟨?_, ?_⟩
    · rintro ⟨d', hd', s, hclaim, hx⟩
      obtain rfl := List.mem_singleton.mp hd'
      have hfirst := (claimant_findRegistry_eq_some_iff e _).mp hclaim
      exact ⟨d', s, ⟨hm, hf, _, .reported hd hw, hfirst⟩, hx⟩
    · rintro ⟨d', s, ⟨-, -, ss, hdec, hfirst⟩, hx⟩
      obtain ⟨rfl, rfl, -⟩ := decides_of_diagnostic hd hdec
      have hclaim := (claimant_findRegistry_eq_some_iff e _).mpr hfirst
      exact ⟨d', List.mem_singleton_self d', s, hclaim, hx⟩

/-- The step lemma: after any operation, the used directives are those before and those that claimed
    in it. -/
theorem Performed.mem_used {op : Operation} {a : Answer} (h : Performed p e op a e')
    (hscreened : Screened p e) {x : Nat} :
    x ∈ e'.used ↔ x ∈ e.used ∨ ∃ d s, Claims p e (.operation op) d s ∧ s.id = x := by
  -- an operation that decides nothing leaves the marks alone
  have hnone : e'.used = e.used → (∀ d ss, ¬ Decides p e (.operation op) d ss) →
      (x ∈ e'.used ↔ x ∈ e.used ∨ ∃ d s, Claims p e (.operation op) d s ∧ s.id = x) := by
    intro hu hno
    rw [hu]
    refine (or_iff_left ?_).symm
    rintro ⟨d, s, ⟨-, -, ss, hdec, -⟩, -⟩
    exact hno d ss hdec
  cases h with
  | registered hg _ hs => exact hnone hs.used fun _ _ hdec => by cases hdec; contradiction
  | @replayed u ss g _ hg _ hs =>
    rw [hs.used, List.mem_append, mem_claimants]
    refine or_congr_right ⟨?_, ?_⟩
    · rintro ⟨d, hd, s, hclaim, hx⟩
      obtain ⟨-, hm, hf⟩ := hscreened _ d hd
      exact ⟨d, s, ⟨hm, hf, _, .replayed hg hd, claimant_eq_some_iff.mp hclaim⟩, hx⟩
    · rintro ⟨d, s, ⟨-, -, ss', hdec, hfirst⟩, hx⟩
      cases hdec with
      | reported hd => cases hd
      | replayed hg' hd =>
        cases hg.symm.trans hg'
        exact ⟨d, hd, s, claimant_eq_some_iff.mpr hfirst, hx⟩
  | reported hd hr => exact hr.mem_used hd
  | @released u _ hs =>
    refine hs.mem_used.trans (or_congr_right ⟨?_, ?_⟩)
    · rintro ⟨d, hd, s, hclaim, hx⟩
      obtain ⟨-, hm, hf⟩ := hscreened _ d hd
      have hfirst := (claimant_findRegistry_eq_some_iff e u).mp hclaim
      exact ⟨d, s, ⟨hm, hf, _, .released hd, hfirst⟩, hx⟩
    · rintro ⟨d, s, ⟨-, -, ss, hdec, hfirst⟩, hx⟩
      cases hdec with
      | reported hd => cases hd
      | released hd => exact ⟨d, hd, s, (claimant_findRegistry_eq_some_iff e u).mpr hfirst, hx⟩
  | releasedAll hr =>
    refine hr.mem_used.trans (or_congr_right ⟨?_, ?_⟩)
    · rintro ⟨u, -, d, hd, s, hclaim, hx⟩
      obtain ⟨-, hm, hf⟩ := hscreened _ d hd
      have hfirst := (claimant_findRegistry_eq_some_iff e u).mp hclaim
      exact ⟨d, s, ⟨hm, hf, _, .releasedAll hd, hfirst⟩, hx⟩
    · rintro ⟨d, s, ⟨-, -, ss, hdec, hfirst⟩, hx⟩
      cases hdec with
      | reported hd => cases hd
      | @releasedAll u _ hd =>
        have hclaim := (claimant_findRegistry_eq_some_iff e u).mpr hfirst
        exact ⟨u, mem_backlog_units hd, d, hd, s, hclaim, hx⟩
  | unusedReported | emitted => exact hnone rfl fun _ _ hdec => by cases hdec; contradiction

/-- What a call adds to the directives of use: those that claim a diagnostic in it. -/
theorem Called.mem_used {c : Call} {r : Reply} (h : Called p e c r e') (hscreened : Screened p e)
    {x : Nat} : x ∈ e'.used ↔ x ∈ e.used ∨ ∃ d s, Claims p e c d s ∧ s.id = x := by
  -- only operations decide
  have hnone : (∀ op, c ≠ .operation op) → ¬ ∃ d s, Claims p e c d s ∧ s.id = x := by
    rintro hc ⟨d, s, ⟨-, -, ss, hdec, -⟩, -⟩
    cases hdec <;> exact hc _ rfl
  cases h with
  | performed h => exact h.mem_used hscreened
  | opened hs =>
    rw [hs.used]
    exact (or_iff_left (hnone nofun)).symm
  | viewed b ns hc => exact (or_iff_left (hnone hc)).symm

/-- Uses are only added. -/
theorem Called.used_extends {c : Call} {r : Reply} (h : Called p e c r e') :
    e.used <+: e'.used := by
  cases h with
  | performed h => exact h.used_extends
  | opened hs => exact hs.used ▸ List.prefix_rfl
  | viewed => exact List.prefix_rfl

theorem Called.screened {c : Call} {r : Reply} (h : Called p e c r e') (hs : Screened p e) :
    Screened p e' := by
  cases h with
  | performed h => exact hs.performed h
  | opened h => exact hs.congr h.backlogs
  | viewed => exact hs

/-! ## Runs -/

/-- In a run from an engine, a directive claims a diagnostic. -/
def ClaimsIn (p : Policy) (e : Engine) (cs : List Call) (d : Diagnostic) (s : Directive) : Prop :=
  ∃ before c after rs e₁, cs = before ++ c :: after ∧
    (callAll p before).on e = (.ok rs, e₁) ∧ Claims p e₁ c d s

/-- A claim in a run is one in its first call or in the rest. -/
theorem claimsIn_cons {c : Call} {cs : List Call} {r : Reply} {e₁ : Engine}
    (hc : (call p c).on e = (.ok r, e₁)) :
    ClaimsIn p e (c :: cs) d s ↔ Claims p e c d s ∨ ClaimsIn p e₁ cs d s := by
  constructor
  · rintro ⟨before, c', after, rs, e₂, heq, hbefore, hclaims⟩
    -- the claiming call is the first one just if none stands before it
    cases before with
    | nil =>
      cases heq
      cases hbefore
      exact .inl hclaims
    | cons b before =>
      cases heq
      obtain ⟨r', rs', e₃, -, hc', hrest⟩ := callAll_cons_eq_ok_iff.mp hbefore
      cases hc.symm.trans hc'
      exact .inr ⟨before, c', after, rs', e₂, rfl, hrest, hclaims⟩
  · rintro (hclaims | ⟨before, c', after, rs, e₂, rfl, hbefore, hclaims⟩)
    · exact ⟨[], c, cs, [], e, rfl, rfl, hclaims⟩
    · exact ⟨c :: before, c', after, r :: rs, e₂, rfl,
        callAll_cons_eq_ok_iff.mpr ⟨r, rs, e₁, rfl, hc, hbefore⟩, hclaims⟩

/-- What a run adds to the directives of use. -/
theorem callAll_mem_used {cs : List Call} {replies : List Reply}
    (h : (callAll p cs).on e = (.ok replies, e')) (hscreened : Screened p e) {x : Nat} :
    x ∈ e'.used ↔ x ∈ e.used ∨ ∃ d s, ClaimsIn p e cs d s ∧ s.id = x := by
  induction cs generalizing e replies with
  | nil =>
    cases h
    refine (or_iff_left ?_).symm
    rintro ⟨d, s, ⟨before, c, after, -, -, heq, -⟩, -⟩
    exact absurd heq (by simp)
  | cons c cs ih =>
    obtain ⟨r, rs, e₁, rfl, hc, hcs⟩ := callAll_cons_eq_ok_iff.mp h
    have hcalled := call_ok hc
    rw [ih hcs (hcalled.screened hscreened), hcalled.mem_used hscreened, or_assoc]
    simp only [claimsIn_cons hc, or_and_right, exists_or]

/-- By induction on the calls. -/
theorem callAll_used_extends {cs : List Call} {replies : List Reply}
    (h : (callAll p cs).on e = (.ok replies, e')) : e.used <+: e'.used := by
  induction cs generalizing e replies with
  | nil =>
    cases h
    exact List.prefix_rfl
  | cons c cs ih =>
    obtain ⟨r, rs, e₁, rfl, hc, hcs⟩ := callAll_cons_eq_ok_iff.mp h
    exact (call_ok hc).used_extends.trans (ih hcs)

/-- After a run a unit stores what was handed over for it. -/
theorem callAll_directives_perm {cs : List Call} {replies : List Reply}
    (h : (callAll p cs).on e = (.ok replies, e')) (u : SourceUnit) :
    (e'.registryD u).directives.Perm
      ((e.registryD u).directives ++ directivesOf u (handed cs)) := by
  induction cs generalizing e replies with
  | nil =>
    cases h
    exact .of_eq (List.append_nil _).symm
  | cons c cs ih =>
    obtain ⟨r, rs, e₁, rfl, hc, hcs⟩ := callAll_cons_eq_ok_iff.mp h
    have hfirst := ((call_ok hc).directives_perm u).append_right (directivesOf u (handed cs))
    rw [handed, List.flatMap_cons, directivesOf_append, ← List.append_assoc]
    exact (ih hcs).trans hfirst

/-- Only directives that were stored or are handed over take part in a decision. -/
theorem Decides.mem {c : Call} {ss : List Directive} (h : Decides p e c d ss)
    (hscreened : Screened p e) (hs : s ∈ ss) :
    s ∈ (e.registryD d.unit).directives ∨ (d.unit, s) ∈ c.handed := by
  cases h with
  | reported => exact .inl hs
  | @replayed u ss g _ hg hd =>
    obtain ⟨rfl, -⟩ := hscreened _ d hd
    rcases List.mem_append.mp ((Registry.registerAll_perm hg).mem_iff.mp hs) with hs | hs
    · exact .inl hs
    · exact .inr (List.mem_map.mpr ⟨s, hs, rfl⟩)
  | released hd | releasedAll hd =>
    obtain ⟨rfl, -⟩ := hscreened _ d hd
    exact .inl hs

/-- What claims a diagnostic of a unit was handed over for that unit. -/
theorem ClaimsIn.handed {cs : List Call} {replies : List Reply}
    (h : (callAll p cs).on e = (.ok replies, e')) (hscreened : Screened p e)
    (hclaims : ClaimsIn p e cs d s) :
    s ∈ (e.registryD d.unit).directives ∨ (d.unit, s) ∈ handed cs := by
  induction cs generalizing e replies with
  | nil =>
    obtain ⟨before, c, after, -, -, heq, -⟩ := hclaims
    exact absurd heq (by simp)
  | cons c cs ih =>
    obtain ⟨r, rs, e₁, rfl, hc, hcs⟩ := callAll_cons_eq_ok_iff.mp h
    rw [Engine.handed, List.flatMap_cons, List.mem_append]
    rcases (claimsIn_cons hc).mp hclaims with ⟨-, -, ss, hdec, hfirst⟩ | hrest
    · exact (hdec.mem hscreened hfirst.mem).imp_right .inl
    · rcases ih hcs ((call_ok hc).screened hscreened) hrest with hs | hs
      · rw [((call_ok hc).directives_perm _).mem_iff, List.mem_append, mem_directivesOf] at hs
        exact hs.imp_right .inl
      · exact .inr (.inr hs)

/-! ## The report of unused directives -/

/-- The directives of a unit that the report names: those not of use, in stored order, but for
    those from expanded code where these are exempt. -/
def unusedIn (p : Policy) (e : Engine) (u : SourceUnit) : List Directive :=
  (e.registryD u).directives.filter fun s =>
    !e.isUsed s && (p.config.reportUnusedInMacroExpansion.truthy || !s.inMacroExpansion.truthy)

/-- With the check on, the unused directives are those that are not marked as used. -/
theorem unusedOf_eq (hcheck : p.config.checkUnused.truthy = true) (e : Engine) (u : SourceUnit) :
    unusedOf p e u = unusedIn p e u := by
  unfold unusedOf unusedIn registryD
  rw [if_pos hcheck]
  cases e.findRegistry u with
  | none => rfl
  | some g =>
    simp only [Registry.unused, List.filter_filter, Option.getD_some]
    refine List.filter_congr fun s _ => ?_
    simp only [Policy.exempt, isUsed, Bool.not_and, Bool.not_not]
    exact Bool.and_comm _ _

/-- The report of unused directives: it gives `unusedIn`, sends one warning for each of them, at
    its anchor and in the same order, and changes nothing else; so a second report in a row gives
    and sends the same. -/
def ReportsUnused (p : Policy) (u : SourceUnit) (e : Engine) : Prop :=
  let ds := unusedIn p e u
  let warnings : List Diagnostic :=
    ds.map fun s => ⟨u, s.anchor, .warning, .str "this suppression has no effect"⟩
  ∃ e₁ e₂ ns, (reportUnused p u).on e = (.ok ds, e₁) ∧
    e₁ = { e with sink := e.sink ++ warnings }.withNotices ns ∧
    (reportUnused p u).on e₁ = (.ok ds, e₂) ∧
    e₂ = { e₁ with sink := e₁.sink ++ warnings }.withNotices ns

/-- They are reported, and nothing else happens. -/
theorem reportsUnused (hcheck : p.config.checkUnused.truthy = true) (u : SourceUnit)
    (e : Engine) : ReportsUnused p u e := by
  have hreport : ∀ e₁, e₁.registries = e.registries → e₁.used = e.used →
      (reportUnused p u).on e₁ = (.ok (unusedIn p e u),
        { e₁ with sink := e₁.sink ++ (unusedIn p e u).map (unusedReport u) }.withNotices
          (unusedNotices u (unusedIn p e u))) := by
    intro e₁ hr hu
    have hsame : unusedIn p e₁ u = unusedIn p e u := by
      simp only [unusedIn, registryD_congr hr, isUsed, hu]
    rw [reportUnused_on, unusedOf_eq hcheck, hsame]
  -- the report changes neither the registries nor the directives of use
  exact ⟨_, _, _, hreport e rfl rfl, rfl, hreport _ rfl rfl, rfl⟩

/-! ## Usage is exact -/

theorem screened_empty (p : Policy) : Screened p {} := fun _ _ hd => by cases hd

/-- After a run in which each directive was handed over once, a directive is of use exactly if it
    claimed a diagnostic of its unit, and it was so from then on. The report of unused directives
    names exactly the others. -/
theorem callAll_usage {cs : List Call} {replies : List Reply}
    (h : (callAll p cs).on {} = (.ok replies, e))
    (honce : ((handed cs).map fun x => x.2.id).Nodup) :
    (∀ u s, (u, s) ∈ handed cs →
      (e.isUsed s = true ↔ ∃ d, d.unit = u ∧ ClaimsIn p {} cs d s)) ∧
      (∀ before after rs e₁, cs = before ++ after → (callAll p before).on {} = (.ok rs, e₁) →
        ∀ s, e₁.isUsed s = true → e.isUsed s = true) ∧
      ∀ u, (e.registryD u).directives.Perm (directivesOf u (handed cs)) ∧
        (p.config.checkUnused.truthy = true → ReportsUnused p u e) := by
  refine ⟨fun u s hs => ?_, ?_, fun u => ⟨?_, fun hcheck => reportsUnused hcheck u e⟩⟩
  · rw [isUsed_iff, callAll_mem_used h (screened_empty p)]
    constructor
    · rintro (hx | ⟨d, s', hclaims, hid⟩)
      · cases hx
      · -- what claimed was handed over too, and the identity was handed over once
        have hs' : (d.unit, s') ∈ handed cs :=
          (hclaims.handed h (screened_empty p)).resolve_left List.not_mem_nil
        cases List.inj_on_of_nodup_map honce hs' hs hid
        exact ⟨d, rfl, hclaims⟩
    · rintro ⟨d, -, hclaims⟩
      exact .inr ⟨d, s, hclaims, rfl⟩
  · rintro before after rs e₁ rfl hbefore s hs
    obtain ⟨rs', hrest⟩ := callAll_append_ok h hbefore
    rw [isUsed_iff] at hs ⊢
    exact (callAll_used_extends hrest).subset hs
  · exact callAll_directives_perm h u

/-- The inner directive comes in between and claims what comes after it. -/
theorem callAll_usage_inserted :
    let u : SourceUnit := ⟨"u"⟩
    let p : Policy :=
      { config := { deferUnregistered := .bool true, checkUnused := .bool true },
        workDir := Path.ofText "/" }
    let outer := Directive.atOffsets 0 0 100
    let inner := Directive.atOffsets 1 10 20
    let far := Directive.atOffsets 2 200 300
    let cs : List Call :=
      [.operation (.report (.warningAt u 15 "x")), .operation (.setDirectives u [outer, far]),
        .operation (.register u inner), .operation (.report (.warningAt u 15 "x"))]
    ∃ replies e, (callAll p cs).on {} = (.ok replies, e) ∧
      ((handed cs).map fun x => x.2.id).Nodup ∧ e.used = [0, 1] ∧
      (∃ d, d.unit = u ∧ ClaimsIn p {} cs d inner) ∧
      (¬ ∃ d, d.unit = u ∧ ClaimsIn p {} cs d far) ∧
      ReportsUnused p u e ∧ (unusedIn p e u).map (·.id) = [2] := by
  intro u p outer inner far cs
  let run := (callAll p cs).on {}
  let replies : List Reply := [.answer (.outcome .deferred), .answer (.outcomes [.suppressed]),
    .answer .done, .answer (.outcome .suppressed)]
  have hrun : run = (.ok replies, run.2) := Prod.ext rfl rfl
  have honce : ((handed cs).map fun x => x.2.id).Nodup := by decide
  have hused : run.2.used = [0, 1] := rfl
  have hunused : (unusedIn p run.2 u).map (·.id) = [2] := by decide +kernel
  obtain ⟨hiff, -, hreports⟩ := callAll_usage hrun honce
  refine ⟨replies, run.2, hrun, honce, hused, ?_, ?_, (hreports u).2 rfl, hunused⟩
  · refine (hiff u inner (by simp [cs, handed, Call.handed, Operation.handed])).mp ?_
    rw [isUsed_iff, hused]
    decide
  · rw [← hiff u far (by simp [cs, handed, Call.handed, Operation.handed]), isUsed_iff, hused]
    decide

end Muffle.Engine
