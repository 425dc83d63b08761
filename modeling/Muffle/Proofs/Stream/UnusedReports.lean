/-
  Muffle.Proofs.Stream.UnusedReports

  The reports of directives without effect in a whole stream. A report is made at the end of each
  entry about the unit of the entry, while the registry of the unit lives on: a later entry of
  the same unit may find a use for a directive that is already reported, and reports it again if
  it does not. So the reports of a stream say of every directive once and truly that it had no
  effect exactly if no directive without use in its own entry meets a later entry of its unit.
-/

import Muffle.Proofs.Identical
import Muffle.Proofs.Stream.Composition

namespace Muffle.Stream

variable {p : Policy} {s t : Directive} {u : SourceUnit} {used : List Nat}

/-! ## Reports of one directive -/

/-- Whether something in the sink is a report of the directive. -/
def Entry.reports (s : Directive) : Entry → Bool
  | .unused _ t => t.id == s.id
  | _ => false

/-- How often a directive is reported. -/
def reportCount (s : Directive) (xs : List Entry) : Nat := xs.countP (Entry.reports s)

theorem reportCount_append (s : Directive) (xs ys : List Entry) :
    reportCount s (xs ++ ys) = reportCount s xs + reportCount s ys :=
  List.countP_append

theorem reportCount_entries (s : Directive) (ep : Episode) (p : Policy) (used : List Nat) :
    reportCount s (ep.entries p used) = (ep.unused p used).countP fun t => t.id == s.id := by
  simp [reportCount, Episode.entries, List.countP_map, Function.comp_def, Entry.reports]

/-- With the check on, an episode reports what no claim so far has used and what is not exempt. -/
theorem mem_unused (hcheck : p.config.checkUnused.truthy = true) {ep : Episode} :
    s ∈ ep.unused p used ↔
      s ∈ ep.registry.directives ∧ s.id ∉ used ++ claims ep.decisions ∧ p.exempt s = false := by
  rw [Episode.unused, if_pos hcheck, Registry.unused]
  simp only [List.mem_filter, Bool.not_eq_true', and_assoc, List.contains_eq_mem,
    decide_eq_false_iff_not]

theorem reportCount_eq_zero {ep : Episode} (h : ∀ t ∈ ep.unused p used, t.id ≠ s.id) :
    reportCount s (ep.entries p used) = 0 := by
  rw [reportCount_entries, List.countP_eq_zero]
  exact fun t ht hid => h t ht (beq_iff_eq.mp hid)

/-- A directive is stored once, so an episode reports it at most once. -/
theorem reportCount_eq_one {ep : Episode} (hnodup : (ep.registry.directives.map (·.id)).Nodup)
    (h : s ∈ ep.unused p used) : reportCount s (ep.entries p used) = 1 := by
  have hsub : (ep.unused p used).Sublist ep.registry.directives := by
    unfold Episode.unused
    split
    · exact List.filter_sublist.trans List.filter_sublist
    · exact List.nil_sublist _
  have hids : ((ep.unused p used).map (·.id)).Nodup := hnodup.sublist (hsub.map _)
  have hcount := List.count_eq_one_of_mem hids (List.mem_map_of_mem h)
  rw [reportCount_entries]
  rwa [List.count, List.countP_map] at hcount

/-! ## A directive in later entries -/

/-- In some episodes the directive is one of the unit, and its number is its own. -/
def Belongs (s : Directive) (u : SourceUnit) (eps : List Episode) : Prop :=
  ∀ ep ∈ eps, (ep.registry.directives.map (·.id)).Nodup ∧
    (s ∈ ep.registry.directives ↔ ep.unit = u) ∧
    ∀ t ∈ ep.registry.directives, t.id = s.id → t = s

theorem eq_of_id_eq {g : Registry} (hnodup : (g.directives.map (·.id)).Nodup)
    (hs : s ∈ g.directives) (ht : t ∈ g.directives) (hid : t.id = s.id) : t = s :=
  List.inj_on_of_nodup_map hnodup ht hs hid

theorem Chain.belongs {stored : SourceUnit → Registry} {made : Nat} {eps : List Episode}
    (h : Chain stored made eps) (hs : s ∈ (stored u).directives) : Belongs s u eps := by
  induction h with
  | nil => exact nofun
  | @cons stored made ep eps hshelved hep _ ih =>
    have hunit (t : Directive) (ht : t ∈ ep.registry.directives) (hid : t.id = s.id) :
        ep.unit = u := hep.unit_eq hshelved ht hs hid
    have hkept : ep.unit = u → s ∈ ep.registry.directives := by
      rintro rfl
      exact hep.mem_registry.mpr (.inl hs)
    refine List.forall_mem_cons.mpr ⟨⟨hep.nodup hshelved, ⟨fun hmem => hunit s hmem rfl, hkept⟩,
      fun t ht hid => ?_⟩, ih ?_⟩
    · exact eq_of_id_eq (hep.nodup hshelved) (hkept (hunit t ht hid)) ht hid
    · unfold Episode.store
      split
      · rename_i hu
        exact hkept hu.symm
      · exact hs

theorem reportCount_transcript_eq_zero {eps : List Episode}
    (h : ∀ ep ∈ eps, ∀ used', ∀ t ∈ ep.unused p (used ++ used'), t.id ≠ s.id) :
    reportCount s (transcript p used eps) = 0 := by
  induction eps generalizing used with
  | nil => rfl
  | cons ep rest ih =>
    obtain ⟨hep, hrest⟩ := List.forall_mem_cons.mp h
    have hzero := hep []
    rw [List.append_nil] at hzero
    rw [transcript, reportCount_append, reportCount_eq_zero hzero, Nat.zero_add]
    refine ih fun ep' hep' used' => ?_
    rw [List.append_assoc]
    exact hrest ep' hep' _

section Checked

variable (hcheck : p.config.checkUnused.truthy = true)

include hcheck

/-- Once of use, a directive is not reported. -/
theorem reportCount_of_used {eps : List Episode} (h : s.id ∈ used) :
    reportCount s (transcript p used eps) = 0 := by
  refine reportCount_transcript_eq_zero fun ep _ used' t ht hid => ?_
  obtain ⟨-, hnot, -⟩ := (mem_unused hcheck).mp ht
  rw [hid] at hnot
  exact hnot (List.mem_append_left _ (List.mem_append_left _ h))

theorem Belongs.reportCount_of_exempt {eps : List Episode} (h : Belongs s u eps)
    (hexempt : p.exempt s = true) : reportCount s (transcript p used eps) = 0 := by
  refine reportCount_transcript_eq_zero fun ep hep used' t ht hid => ?_
  obtain ⟨hmem, -, hreported⟩ := (mem_unused hcheck).mp ht
  obtain ⟨-, -, hown⟩ := h ep hep
  rw [hown t hmem hid, hexempt] at hreported
  cases hreported

/-- Entries of other units do not report a directive. -/
theorem Belongs.reportCount_of_unit {eps : List Episode} (h : Belongs s u eps)
    (hunit : ∀ ep ∈ eps, ep.unit ≠ u) : reportCount s (transcript p used eps) = 0 := by
  refine reportCount_transcript_eq_zero fun ep hep used' t ht hid => ?_
  obtain ⟨hmem, -, -⟩ := (mem_unused hcheck).mp ht
  obtain ⟨-, hiff, hown⟩ := h ep hep
  exact hunit ep hep (hiff.mp (hown t hmem hid ▸ hmem))

/-- Entries before a directive do not report it. -/
theorem reportCount_of_later {eps : List Episode}
    (h : ∀ ep ∈ eps, ∀ t ∈ ep.registry.directives, t.id < s.id) :
    reportCount s (transcript p used eps) = 0 := by
  refine reportCount_transcript_eq_zero fun ep hep used' t ht hid => ?_
  have hlt := h ep hep t ((mem_unused hcheck).mp ht).1
  omega

/-- An entry of its unit reports a directive that nothing made use of by then. -/
theorem Belongs.reportCount_pos {eps : List Episode} (h : Belongs s u eps)
    (hused : s.id ∉ used) (hclaims : s.id ∉ claims (decisions eps)) (hexempt : p.exempt s = false)
    (hunit : ∃ ep ∈ eps, ep.unit = u) : 0 < reportCount s (transcript p used eps) := by
  induction eps generalizing used with
  | nil => simp at hunit
  | cons ep rest ih =>
    obtain ⟨⟨hnodup, hiff, -⟩, hrest⟩ := List.forall_mem_cons.mp h
    rw [claims_decisions_cons, List.mem_append, not_or] at hclaims
    obtain ⟨hnow, hlater⟩ := hclaims
    have hused' : s.id ∉ used ++ claims ep.decisions := by
      rw [List.mem_append, not_or]
      exact ⟨hused, hnow⟩
    rw [transcript, reportCount_append]
    -- the first episode of the unit reports it
    by_cases hu : ep.unit = u
    · have hreported : s ∈ ep.unused p used :=
        (mem_unused hcheck).mpr ⟨hiff.mpr hu, hused', hexempt⟩
      rw [reportCount_eq_one hnodup hreported]
      omega
    · have hex : ∃ ep' ∈ rest, ep'.unit = u := by
        obtain ⟨ep', hep', hu'⟩ := hunit
        rcases List.mem_cons.mp hep' with rfl | hep'
        · exact absurd hu' hu
        · exact ⟨ep', hep', hu'⟩
      exact Nat.add_pos_right _ (ih hrest hused' hlater hex)

end Checked

/-! ## The entry that registers a directive -/

/-- A directive muffled one of the diagnostics. -/
def OfUse (s : Directive) (ds : List Decision) : Prop := ∃ d ∈ ds, d.ruling = .claimed s

theorem OfUse.mem_claims {ds : List Decision} (h : OfUse s ds) : s.id ∈ claims ds := by
  obtain ⟨d, hd, hclaimed⟩ := h
  exact Stream.mem_claims.mpr ⟨d, hd, s, hclaimed, rfl⟩

/-- How one episode stands to those before and after it. -/
structure Amid (before : List Episode) (ep : Episode) (after : List Episode) : Prop where
  nodup : (ep.registry.directives.map (·.id)).Nodup
  mem : ∀ s ∈ ep.registered, s ∈ ep.registry.directives
  belongs : ∀ s ∈ ep.registered, Belongs s ep.unit after
  earlier : ∀ ep' ∈ before, ∀ t ∈ ep'.registry.directives, ∀ s ∈ ep.registered, t.id < s.id
  claimed : ∀ ep' ∈ before ++ ep :: after, ∀ d ∈ ep'.decisions, ∀ t, d.ruling = .claimed t →
    t ∈ ep'.registry.directives

theorem Chain.registered_ge {stored : SourceUnit → Registry} {made : Nat} {eps : List Episode}
    (h : Chain stored made eps) : ∀ s ∈ registered eps, made ≤ s.id := by
  induction h with
  | nil => exact nofun
  | @cons stored made ep eps _ hep _ ih =>
    intro s hs
    rw [registered, List.flatMap_cons, List.mem_append] at hs
    rcases hs with hs | hs
    · exact (hep.bounds hs).1
    · exact Nat.le_of_add_right_le (ih s hs)

theorem Chain.claimed {stored : SourceUnit → Registry} {made : Nat} {eps : List Episode}
    (h : Chain stored made eps) : ∀ ep ∈ eps, ∀ d ∈ ep.decisions, ∀ t, d.ruling = .claimed t →
      t ∈ ep.registry.directives := by
  induction h with
  | nil => exact nofun
  | cons _ hep _ ih => exact List.forall_mem_cons.mpr ⟨hep.claimed, ih⟩

/-- Seen from an episode, those before it know nothing of its directives. -/
theorem Chain.amid {stored : SourceUnit → Registry} {made : Nat} {before after : List Episode}
    {ep : Episode} (h : Chain stored made (before ++ ep :: after)) : Amid before ep after := by
  have hclaimed := h.claimed
  induction before generalizing stored made with
  | nil =>
    cases h with
    | cons hs hep hrest =>
      refine ⟨hep.nodup hs, fun s hmem => hep.mem_registry.mpr (.inr hmem), fun s hmem => ?_, nofun,
        hclaimed⟩
      refine hrest.belongs ?_
      rw [Episode.store, if_pos rfl]
      exact hep.mem_registry.mpr (.inr hmem)
  | cons b before ih =>
    cases h with
    | cons hs hb hrest =>
      have ha := ih hrest hrest.claimed
      refine ⟨ha.nodup, ha.mem, ha.belongs, ?_, hclaimed⟩
      refine List.forall_mem_cons.mpr ⟨fun t ht s hmem => ?_, ha.earlier⟩
      -- the directives of the episode were made later, with higher numbers
      have hregistered : s ∈ registered (before ++ ep :: after) := by
        rw [registered, List.flatMap_append, List.flatMap_cons]
        exact List.mem_append_right _ (List.mem_append_left _ hmem)
      exact Nat.lt_of_lt_of_le (hb.lt hs ht) (hrest.registered_ge s hregistered)

/-- What the registries hold was registered by one of the episodes, or there before. -/
theorem Chain.mem_registered {stored : SourceUnit → Registry} {made : Nat} {eps : List Episode}
    (h : Chain stored made eps) {ep : Episode} (hep : ep ∈ eps)
    (hs : s ∈ ep.registry.directives) :
    s ∈ registered eps ∨ ∃ u, s ∈ (stored u).directives := by
  induction h with
  | nil => cases hep
  | @cons stored made ep₀ eps _ hep₀ _ ih =>
    rw [registered, List.flatMap_cons, List.mem_append]
    have hhead : s ∈ ep₀.registry.directives →
        (s ∈ ep₀.registered ∨ s ∈ eps.flatMap (·.registered)) ∨ ∃ u, s ∈ (stored u).directives := by
      intro hmem
      rcases hep₀.mem_registry.mp hmem with hmem | hmem
      · exact .inr ⟨_, hmem⟩
      · exact .inl (.inl hmem)
    rcases List.mem_cons.mp hep with rfl | hep
    · exact hhead hs
    · rcases ih hep with hmem | ⟨u, hmem⟩
      · exact .inl (.inr hmem)
      · unfold Episode.store at hmem
        split at hmem
        · exact hhead hmem
        · exact .inr ⟨u, hmem⟩

theorem mem_transcript (hcheck : p.config.checkUnused.truthy = true) {eps : List Episode}
    (h : Entry.unused u s ∈ transcript p used eps) : ∃ ep ∈ eps, s ∈ ep.registry.directives := by
  obtain ⟨ep, hep, used', hx⟩ := exists_mem_entries h
  have hunused : s ∈ ep.unused p used' ∧ ep.unit = u := by
    simpa [Episode.entries] using hx
  exact ⟨ep, hep, ((mem_unused hcheck).mp hunused.1).1⟩

namespace Amid

variable {before after : List Episode} {ep : Episode}

/-- Nothing before the episode of a directive uses it. -/
theorem not_ofUse_before (h : Amid before ep after) (hs : s ∈ ep.registered) :
    s.id ∉ claims (decisions before) := by
  intro hmem
  obtain ⟨d, hd, t, hclaimed, hid⟩ := Stream.mem_claims.mp hmem
  obtain ⟨ep', hep', hd⟩ := List.mem_flatMap.mp hd
  have ht := h.claimed ep' (List.mem_append_left _ hep') d hd t hclaimed
  have hlt := h.earlier ep' hep' t ht s hs
  omega

theorem ofUse_now (h : Amid before ep after) (hs : s ∈ ep.registered)
    (hmem : s.id ∈ claims ep.decisions) : OfUse s ep.decisions := by
  obtain ⟨d, hd, t, hclaimed, hid⟩ := Stream.mem_claims.mp hmem
  have ht := h.claimed ep (List.mem_append_right _ List.mem_cons_self) d hd t hclaimed
  exact ⟨d, hd, eq_of_id_eq h.nodup (h.mem s hs) ht hid ▸ hclaimed⟩

/-- A later use of a directive belongs to another episode of the same unit. -/
theorem ofUse_later (h : Amid before ep after) (hs : s ∈ ep.registered)
    (hmem : s.id ∈ claims (decisions after)) :
    OfUse s (decisions after) ∧ ∃ ep' ∈ after, ep'.unit = ep.unit := by
  obtain ⟨d, hd, t, hclaimed, hid⟩ := Stream.mem_claims.mp hmem
  obtain ⟨ep', hep', hd'⟩ := List.mem_flatMap.mp hd
  have hin : ep' ∈ before ++ ep :: after :=
    List.mem_append_right _ (List.mem_cons_of_mem _ hep')
  have ht := h.claimed ep' hin d hd' t hclaimed
  obtain ⟨-, hiff, hown⟩ := h.belongs s hs ep' hep'
  have heq : t = s := hown t ht hid
  subst heq
  exact ⟨⟨d, hd, hclaimed⟩, ep', hep', hiff.mp ht⟩

theorem not_mem_used (h : Amid before ep after) (hs : s ∈ ep.registered)
    (hidle : ¬ OfUse s ep.decisions) :
    s.id ∉ claims (decisions before) ++ claims ep.decisions := by
  rw [List.mem_append, not_or]
  exact ⟨h.not_ofUse_before hs, fun hmem => hidle (h.ofUse_now hs hmem)⟩

theorem belongs_now (h : Amid before ep after) (hs : s ∈ ep.registered) :
    Belongs s ep.unit (ep :: after) :=
  List.forall_mem_cons.mpr ⟨⟨h.nodup, iff_of_true (h.mem s hs) rfl,
    fun _ ht hid => eq_of_id_eq h.nodup (h.mem s hs) ht hid⟩, h.belongs s hs⟩

section Checked

variable (hcheck : p.config.checkUnused.truthy = true)

include hcheck

/-- The reports of a directive are those from its own entry on. -/
theorem reportCount_eq (h : Amid before ep after) (hs : s ∈ ep.registered) :
    reportCount s (transcript p [] (before ++ ep :: after)) =
      reportCount s (transcript p (claims (decisions before)) (ep :: after)) := by
  have hbefore : reportCount s (transcript p [] before) = 0 :=
    reportCount_of_later hcheck fun ep' hep' t ht => h.earlier ep' hep' t ht s hs
  rw [transcript_append, reportCount_append, hbefore, Nat.zero_add, List.nil_append]

/-- A directive that is used in its own episode is never reported. -/
theorem reportCount_ofUse (h : Amid before ep after) (hs : s ∈ ep.registered)
    (huse : OfUse s ep.decisions) :
    reportCount s (transcript p [] (before ++ ep :: after)) = 0 := by
  have hnow : reportCount s (ep.entries p (claims (decisions before))) = 0 := by
    refine reportCount_eq_zero fun t ht hid => ?_
    obtain ⟨-, hnot, -⟩ := (mem_unused hcheck).mp ht
    rw [hid] at hnot
    exact hnot (List.mem_append_right _ huse.mem_claims)
  have hused : s.id ∈ claims (decisions before) ++ claims ep.decisions :=
    List.mem_append_right _ huse.mem_claims
  rw [h.reportCount_eq hcheck hs, transcript, reportCount_append, hnow,
    reportCount_of_used hcheck hused]

theorem reportCount_exempt (h : Amid before ep after) (hs : s ∈ ep.registered)
    (hexempt : p.exempt s = true) :
    reportCount s (transcript p [] (before ++ ep :: after)) = 0 := by
  rw [h.reportCount_eq hcheck hs]
  exact (h.belongs_now hs).reportCount_of_exempt hcheck hexempt

/-- One that is not is reported by it. -/
theorem idle_unused (h : Amid before ep after) (hs : s ∈ ep.registered)
    (hexempt : p.exempt s = false) (hidle : ¬ OfUse s ep.decisions) :
    s ∈ ep.unused p (claims (decisions before)) :=
  (mem_unused hcheck).mpr ⟨h.mem s hs, h.not_mem_used hs hidle, hexempt⟩

/-- A directive without use in its own entry is reported there, and then in later ones. -/
theorem reportCount_idle (h : Amid before ep after) (hs : s ∈ ep.registered)
    (hexempt : p.exempt s = false) (hidle : ¬ OfUse s ep.decisions) :
    reportCount s (transcript p [] (before ++ ep :: after)) =
      1 + reportCount s
        (transcript p (claims (decisions before) ++ claims ep.decisions) after) := by
  have hone := reportCount_eq_one h.nodup (h.idle_unused hcheck hs hexempt hidle)
  rw [h.reportCount_eq hcheck hs, transcript, reportCount_append, hone]

end Checked

theorem ofUse_iff (h : Amid before ep after) (hs : s ∈ ep.registered) :
    OfUse s (decisions (before ++ ep :: after)) ↔
      OfUse s ep.decisions ∨ OfUse s (decisions after) := by
  have hsplit : decisions (before ++ ep :: after) =
      decisions before ++ (ep.decisions ++ decisions after) := by
    rw [decisions, List.flatMap_append, List.flatMap_cons]
    rfl
  constructor
  · rintro ⟨d, hd, hclaimed⟩
    rw [hsplit, List.mem_append, List.mem_append] at hd
    rcases hd with hd | hd | hd
    · exact absurd (OfUse.mem_claims ⟨d, hd, hclaimed⟩) (h.not_ofUse_before hs)
    · exact .inl ⟨d, hd, hclaimed⟩
    · exact .inr ⟨d, hd, hclaimed⟩
  · rw [hsplit]
    rintro (⟨d, hd, hclaimed⟩ | ⟨d, hd, hclaimed⟩)
    · exact ⟨d, List.mem_append_right _ (List.mem_append_left _ hd), hclaimed⟩
    · exact ⟨d, List.mem_append_right _ (List.mem_append_right _ hd), hclaimed⟩

/-- If the unit does not come back, nothing uses the directive later. -/
theorem not_ofUse_later (h : Amid before ep after) (hs : s ∈ ep.registered)
    (hlast : ∀ ep' ∈ after, ep'.unit ≠ ep.unit) : ¬ OfUse s (decisions after) := by
  intro huse
  obtain ⟨-, ep', hep', hunit⟩ := h.ofUse_later hs huse.mem_claims
  exact hlast ep' hep' hunit

end Amid

/-! ## Reports of a whole stream -/

/-- What is reported to have no effect had none in the whole stream. -/
def Truthful (p : Policy) (eps : List Episode) : Prop :=
  ∀ s ∈ registered eps, 0 < reportCount s (transcript p [] eps) → ¬ OfUse s (decisions eps)

/-- What had no effect in the whole stream is reported once, unless it is exempt. -/
def ReportedOnce (p : Policy) (eps : List Episode) : Prop :=
  ∀ s ∈ registered eps, ¬ OfUse s (decisions eps) → p.exempt s = false →
    reportCount s (transcript p [] eps) = 1

/-- A directive without use in its own entry meets no later entry of its unit. -/
def UsedOrLast (p : Policy) (eps : List Episode) : Prop :=
  ∀ before ep after, eps = before ++ ep :: after → ∀ s ∈ ep.registered, p.exempt s = false →
    OfUse s ep.decisions ∨ ∀ ep' ∈ after, ep'.unit ≠ ep.unit

theorem exists_split {eps : List Episode} (h : s ∈ registered eps) :
    ∃ before ep after, eps = before ++ ep :: after ∧ s ∈ ep.registered := by
  obtain ⟨ep, hep, hs⟩ := List.mem_flatMap.mp h
  obtain ⟨before, after, rfl⟩ := List.append_of_mem hep
  exact ⟨before, ep, after, rfl, hs⟩

theorem Chain.ofUse_iff {stored : SourceUnit → Registry} {made : Nat} {eps : List Episode}
    (h : Chain stored made eps) (hregistered : s ∈ registered eps) :
    OfUse s (decisions eps) ↔ s.id ∈ claims (decisions eps) := by
  obtain ⟨before, ep, after, rfl, hs⟩ := exists_split hregistered
  have ha := h.amid
  refine ⟨OfUse.mem_claims, fun hmem => ?_⟩
  rw [decisions, List.flatMap_append, List.flatMap_cons, claims_append, claims_append,
    List.mem_append, List.mem_append] at hmem
  rw [ha.ofUse_iff hs]
  rcases hmem with hmem | hmem | hmem
  · exact absurd hmem (ha.not_ofUse_before hs)
  · exact .inl (ha.ofUse_now hs hmem)
  · exact .inr (ha.ofUse_later hs hmem).1

section Checked

variable (hcheck : p.config.checkUnused.truthy = true)

include hcheck

/-- A transcript that is right in both respects leaves no unused directive to a later episode of its
    unit. -/
theorem Chain.usedOrLast {stored : SourceUnit → Registry} {made : Nat} {eps : List Episode}
    (h : Chain stored made eps) (htruthful : Truthful p eps) (honce : ReportedOnce p eps) :
    UsedOrLast p eps := by
  rintro before ep after rfl s hs hexempt
  have ha := h.amid
  refine or_iff_not_imp_left.mpr fun hidle ep' hep' hunit => ?_
  have hregistered : s ∈ registered (before ++ ep :: after) :=
    List.mem_flatMap.mpr ⟨ep, List.mem_append_right _ List.mem_cons_self, hs⟩
  -- it is reported in its own entry, so it has no use later either
  have hcount := ha.reportCount_idle hcheck hs hexempt hidle
  have hnot := htruthful s hregistered (by omega)
  have hlater : s.id ∉ claims (decisions after) := fun hmem =>
    hnot ((ha.ofUse_iff hs).mpr (.inr (ha.ofUse_later hs hmem).1))
  -- and the later entry reports it again
  have hagain := (ha.belongs s hs).reportCount_pos hcheck (ha.not_mem_used hs hidle) hlater hexempt
    ⟨ep', hep', hunit⟩
  have hone := honce s hregistered hnot hexempt
  omega

/-- Under that condition no report is belied later. -/
theorem truthful_of_usedOrLast {stored : SourceUnit → Registry} {made : Nat} {eps : List Episode}
    (h : Chain stored made eps) (hlast : UsedOrLast p eps) : Truthful p eps := by
  intro s hregistered hcount
  obtain ⟨before, ep, after, rfl, hs⟩ := exists_split hregistered
  have ha := h.amid
  have hexempt : p.exempt s = false := by
    by_contra hexempt
    rw [ha.reportCount_exempt hcheck hs (by simpa using hexempt)] at hcount
    exact Nat.lt_irrefl 0 hcount
  have hidle : ¬ OfUse s ep.decisions := by
    intro huse
    rw [ha.reportCount_ofUse hcheck hs huse] at hcount
    exact Nat.lt_irrefl 0 hcount
  rw [ha.ofUse_iff hs, not_or]
  have hunits := (hlast before ep after rfl s hs hexempt).resolve_left hidle
  exact ⟨hidle, ha.not_ofUse_later hs hunits⟩

/-- Under that condition no report is repeated. -/
theorem reportedOnce_of_usedOrLast {stored : SourceUnit → Registry} {made : Nat}
    {eps : List Episode} (h : Chain stored made eps) (hlast : UsedOrLast p eps) :
    ReportedOnce p eps := by
  intro s hregistered hnot hexempt
  obtain ⟨before, ep, after, rfl, hs⟩ := exists_split hregistered
  have ha := h.amid
  rw [ha.ofUse_iff hs, not_or] at hnot
  have hunits := (hlast before ep after rfl s hs hexempt).resolve_left hnot.1
  rw [ha.reportCount_idle hcheck hs hexempt hnot.1,
    (ha.belongs s hs).reportCount_of_unit hcheck hunits]

end Checked

/-- The reports of a stream are of its directives. They are true of all of it, and made once,
    exactly if every directive that is not exempt has a use in its own entry or stands in the last
    entry of its unit; so it is if the entries are of different units. -/
theorem unusedReports_iff [Pattern.Compiler] (hcheck : p.config.checkUnused.truthy = true)
    {units : List Value} {r : Result} (h : (run p (.list units)).1 = .ok r) :
    ∃ eps, episodesOf p units = .ok eps ∧ r.sink = (transcript p [] eps).map Entry.diagnostic ∧
      (∀ u s, Entry.unused u s ∈ transcript p [] eps → s ∈ registered eps) ∧
      (Truthful p eps ∧ ReportedOnce p eps ↔ UsedOrLast p eps) ∧
      ((units.map unitOf?).Nodup → Truthful p eps ∧ ReportedOnce p eps) := by
  obtain ⟨eps, heps, rfl⟩ := run_ok h
  obtain ⟨hchain, hunits⟩ := episodes_chain shelved_none heps
  have hown : ∀ u s, Entry.unused u s ∈ transcript p [] eps → s ∈ registered eps := by
    intro u s hreport
    obtain ⟨ep, hep, hmem⟩ := mem_transcript hcheck hreport
    rcases hchain.mem_registered hep hmem with hregistered | ⟨v, hnone⟩
    · exact hregistered
    · cases hnone
  have hif : UsedOrLast p eps → Truthful p eps ∧ ReportedOnce p eps := fun hlast =>
    ⟨truthful_of_usedOrLast hcheck hchain hlast, reportedOnce_of_usedOrLast hcheck hchain hlast⟩
  refine ⟨eps, heps, rfl, hown,
    ⟨fun ⟨htruthful, honce⟩ => hchain.usedOrLast hcheck htruthful honce, hif⟩,
    fun hnodup => hif ?_⟩
  rintro before ep after rfl s - -
  refine .inr fun ep' hep' hunit => ?_
  -- the unit of the entry would occur twice
  rw [hunits, List.map_append, List.map_cons] at hnodup
  have hnot := (List.nodup_cons.mp (List.nodup_append'.mp hnodup).2.1).1
  exact hnot (List.mem_map.mpr ⟨ep', hep', congrArg some hunit⟩)

/-- Two entries of one unit: the first directive is of use in its own entry, the second one is not
    but stands in the last entry. -/
theorem unusedReports_iff_last :
    let p : Policy := { config := { checkUnused := .bool true }, workDir := Path.ofText "/" }
    let units : List Value :=
      [.ofFields
        [("path", .str "a.c"),
          ("directives", .list
            [.ofFields [("anchor", .int 0), ("start", .int 0), ("end", .int 10)]]),
          ("diagnostics", .list [.ofFields [("position", .int 5), ("message", .str "x")]])],
        .ofFields
        [("path", .str "a.c"),
          ("directives", .list
            [.ofFields [("anchor", .int 20), ("start", .int 20), ("end", .int 30)]])]]
    ∃ r eps, p.config.checkUnused.truthy = true ∧ (run p (.list units)).1 = .ok r ∧
      episodesOf p units = .ok eps ∧ (Truthful p eps ∧ ReportedOnce p eps ↔ UsedOrLast p eps) ∧
      r.sink = [⟨⟨"a.c"⟩, .int 20, .warning, Engine.unusedMessage⟩] := by
  intro p units
  have hsink : (run p (.list units)).1.toOption.map (·.sink) =
      some [⟨⟨"a.c"⟩, .int 20, .warning, Engine.unusedMessage⟩] := by decide +kernel
  obtain ⟨r, hr⟩ := exists_of_isOk (show (run p (.list units)).1.isOk = true by decide +kernel)
  obtain ⟨eps, heps, -, -, hiff, -⟩ := unusedReports_iff (p := p) rfl hr
  rw [hr] at hsink
  exact ⟨r, eps, rfl, hr, heps, hiff, Option.some.inj hsink⟩

/-- Two entries of one unit, with the directives in the first and a diagnostic in the second. The
    directive that muffles the diagnostic is reported to have no effect, and the other one is
    reported twice. -/
theorem unusedReports_early :
    let p : Policy := { config := { checkUnused := .bool true }, workDir := Path.ofText "/" }
    let units : List Value :=
      [.ofFields
        [("path", .str "a.c"),
          ("directives", .list
            [.ofFields [("anchor", .int 0), ("start", .int 0), ("end", .int 10)],
              .ofFields [("anchor", .int 20), ("start", .int 20), ("end", .int 30)]])],
        .ofFields
        [("path", .str "a.c"),
          ("diagnostics", .list [.ofFields [("position", .int 5), ("message", .str "x")]])]]
    ∃ r eps, (run p (.list units)).1 = .ok r ∧ episodesOf p units = .ok eps ∧
      r.sink = (transcript p [] eps).map Entry.diagnostic ∧
      r.sink = [⟨⟨"a.c"⟩, .int 0, .warning, Engine.unusedMessage⟩,
        ⟨⟨"a.c"⟩, .int 20, .warning, Engine.unusedMessage⟩,
        ⟨⟨"a.c"⟩, .int 20, .warning, Engine.unusedMessage⟩] ∧
      r.counts = ⟨1, 0, 0⟩ ∧ ¬ Truthful p eps ∧ ¬ ReportedOnce p eps := by
  intro p units
  let eps := (episodesOf p units).toOption.getD []
  have heps : episodesOf p units = .ok eps := by
    obtain ⟨eps', h⟩ := exists_of_isOk (show (episodesOf p units).isOk = true by decide +kernel)
    show _ = Except.ok ((episodesOf p units).toOption.getD [])
    rw [h]
    rfl
  obtain ⟨hchain, -⟩ := episodes_chain shelved_none heps
  have hsink : (transcript p [] eps).map Entry.diagnostic =
      [⟨⟨"a.c"⟩, .int 0, .warning, Engine.unusedMessage⟩,
        ⟨⟨"a.c"⟩, .int 20, .warning, Engine.unusedMessage⟩,
        ⟨⟨"a.c"⟩, .int 20, .warning, Engine.unusedMessage⟩] := by decide +kernel
  have hcounts : tally {} (decisions eps) = ⟨1, 0, 0⟩ := by decide +kernel
  -- the one at 0 is reported before it is used, the one at 20 is reported twice
  have hfalse : ∃ s ∈ registered eps, 0 < reportCount s (transcript p [] eps) ∧
      s.id ∈ claims (decisions eps) := by decide +kernel
  have htwice : ∃ s ∈ registered eps, s.id ∉ claims (decisions eps) ∧ p.exempt s = false ∧
      reportCount s (transcript p [] eps) = 2 := by decide +kernel
  refine ⟨.ofEpisodes p eps, eps, by rw [run_eq, heps]; rfl, heps, rfl, hsink, hcounts, ?_, ?_⟩
  · intro htruthful
    obtain ⟨s, hs, hcount, hmem⟩ := hfalse
    exact htruthful s hs hcount ((hchain.ofUse_iff hs).mpr hmem)
  · intro honce
    obtain ⟨s, hs, hmem, hexempt, hcount⟩ := htwice
    have hone := honce s hs (fun huse => hmem huse.mem_claims) hexempt
    omega

end Muffle.Stream
