/-
  Muffle.Proofs.Stream.Decided

  The answers of the engine in the run of a stream. The run asks the engine about each recorded
  diagnostic in turn and keeps no more than the counts of its answers; `Decided` follows the run
  and says about which diagnostic the engine was asked and what it answered. These answers are
  the decisions of the episodes of the stream.
-/

import Muffle.Proofs.Stream.Episode

namespace Muffle.Stream

variable {p : Policy} {u : SourceUnit} {d : Diagnostic} {o : Outcome} {e : Engine}

/-- While recorded diagnostics of a unit are decided, from the engine `e` on, the engine is asked
    about `d` and answers `o`. -/
inductive Asked (p : Policy) (u : SourceUnit) (d : Diagnostic) (o : Outcome) :
    Engine → List Value → Prop
  | here {e e' : Engine} {item : Value} {rest : List Value}
      (hread : readDiagnostic u item = .ok d) (hreport : (Engine.report p d).on e = (.ok o, e')) :
      Asked p u d o e (item :: rest)
  | later {e e' : Engine} {item : Value} {rest : List Value} {d' : Diagnostic} {o' : Outcome}
      (hread : readDiagnostic u item = .ok d')
      (hreport : (Engine.report p d').on e = (.ok o', e')) (h : Asked p u d o e' rest) :
      Asked p u d o e (item :: rest)

/-- While the entries of a stream are run, from the engine `e` on, the engine is asked about `d`
    and answers `o`. -/
inductive Decided [Pattern.Compiler] (p : Policy) (d : Diagnostic) (o : Outcome)
    : Engine → List Value → Prop
  | here {e e' : Engine} {data path : Value} {rest directives diagnostics : List Value}
      (hpath : data.field "path" = .ok path)
      (hdirectives : recordedItems data "directives" = .ok directives)
      (hregister : (registerUnit (.of path) directives).on e = (.ok (), e'))
      (hdiagnostics : recordedItems data "diagnostics" = .ok diagnostics)
      (h : Asked p (.of path) d o e' diagnostics) : Decided p d o e (data :: rest)
  | later {e e' : Engine} {data : Value} {rest : List Value} {counts counts' : Counts}
      (hunit : (runUnit p counts data).on e = (.ok counts', e')) (h : Decided p d o e' rest) :
      Decided p d o e (data :: rest)

/-! ## What was asked about -/

theorem Asked.read {items : List Value} (h : Asked p u d o e items) :
    ∃ item ∈ items, readDiagnostic u item = .ok d := by
  induction h with
  | here hread _ => exact ⟨_, List.mem_cons_self, hread⟩
  | later _ _ _ ih =>
    obtain ⟨item, hitem, hread⟩ := ih
    exact ⟨item, List.mem_cons_of_mem _ hitem, hread⟩

/-- A diagnostic that was decided is recorded in some entry. -/
theorem Decided.read [Pattern.Compiler] {units : List Value} (h : Decided p d o e units) :
    ∃ data ∈ units, ∃ items, recordedItems data "diagnostics" = .ok items ∧
      ∃ item ∈ items, ∃ u, readDiagnostic u item = .ok d := by
  induction h with
  | here _ _ _ hdiagnostics h =>
    obtain ⟨item, hitem, hread⟩ := h.read
    exact ⟨_, List.mem_cons_self, _, hdiagnostics, item, hitem, _, hread⟩
  | later _ _ ih =>
    obtain ⟨data, hdata, h⟩ := ih
    exact ⟨data, List.mem_cons_of_mem _ hdata, h⟩

theorem message_of_readDiagnostic {item : Value} (h : readDiagnostic u item = .ok d) :
    item.field "message" = .ok d.message := by
  obtain ⟨_, -, h⟩ := bind_eq_ok_iff.mp h
  obtain ⟨_, -, h⟩ := bind_eq_ok_iff.mp h
  obtain ⟨_, -, h⟩ := bind_eq_ok_iff.mp h
  obtain ⟨message, hmessage, h⟩ := bind_eq_ok_iff.mp h
  cases h
  exact hmessage

/-! ## The answers are the decisions -/

/-- One of some decisions is about a diagnostic and has an outcome. -/
def Among (d : Diagnostic) (o : Outcome) (ds : List Decision) : Prop :=
  ∃ x ∈ ds, x.diagnostic = d ∧ x.ruling.outcome = o

theorem not_among_nil : ¬Among d o [] := by
  rintro ⟨x, hx, -⟩
  cases hx

theorem among_cons {x : Decision} {ds : List Decision} :
    Among d o (x :: ds) ↔ x.diagnostic = d ∧ x.ruling.outcome = o ∨ Among d o ds := by
  rw [Among, List.exists_mem_cons_iff]
  rfl

theorem among_append {ds ds' : List Decision} :
    Among d o (ds ++ ds') ↔ Among d o ds ∨ Among d o ds' := by
  simp only [Among, List.mem_append, or_and_right, exists_or]

theorem among_decisions {ep : Episode} {eps : List Episode} (hep : ep ∈ eps)
    (h : Among d o ep.decisions) : Among d o (decisions eps) := by
  obtain ⟨x, hx, h⟩ := h
  exact ⟨x, List.mem_flatMap.mpr ⟨ep, hep, hx⟩, h⟩

/-- The diagnostics that an entry asks about are those among its decisions, with the same outcomes.
    -/
theorem asked_iff {g : Registry} {items : List Value} {ds : List Decision}
    (hidle : e.backlogs = []) (hg : e.findRegistry g.unit = some g)
    (h : ruleAll p g items = .ok ds) : Asked p g.unit d o e items ↔ Among d o ds := by
  induction items generalizing e ds with
  | nil =>
    cases h
    refine ⟨fun hasked => ?_, fun hnone => absurd hnone not_among_nil⟩
    cases hasked
  | cons item rest ih =>
    obtain ⟨d₁, hread, h⟩ := bind_eq_ok_iff.mp h
    obtain ⟨r, hrule, h⟩ := bind_eq_ok_iff.mp h
    obtain ⟨ds', hrest, h⟩ := bind_eq_ok_iff.mp h
    cases h
    have hfollows := report_follows hidle (p := p) (readDiagnostic_unit hread ▸ hg)
    rw [hrule] at hfollows
    obtain ⟨_, e', hreport, rfl, hruled⟩ := hfollows
    have hg' : e'.findRegistry g.unit = some g := Engine.findRegistry_congr hruled.registries _ ▸ hg
    -- the engine goes on idle and with the same directives
    have hasked := ih (hruled.backlogs.trans hidle) hg' hrest
    rw [among_cons, ← hasked]
    constructor
    · intro h
      cases h with
      | here hread' hreport' =>
        cases hread.symm.trans hread'
        cases hreport.symm.trans hreport'
        exact .inl ⟨rfl, rfl⟩
      | later hread' hreport' h =>
        cases hread.symm.trans hread'
        cases hreport.symm.trans hreport'
        exact .inr h
    · rintro (⟨rfl, rfl⟩ | h)
      · exact .here hread hreport
      · exact .later hread hreport h

/-- The same for a stream: by induction on the entries, the engine going on from each. -/
theorem decided_iff [Pattern.Compiler] {units : List Value} {eps : List Episode}
    (hidle : e.backlogs = []) (h : episodes p e.registryD e.made units = .ok eps) :
    Decided p d o e units ↔ Among d o (decisions eps) := by
  induction units generalizing e eps with
  | nil =>
    cases h
    refine ⟨fun hdecided => ?_, fun hnone => absurd hnone not_among_nil⟩
    cases hdecided
  | cons data rest ih =>
    obtain ⟨ep, hplay, h⟩ := bind_eq_ok_iff.mp h
    obtain ⟨eps', hrest, h⟩ := bind_eq_ok_iff.mp h
    cases h
    have hunit (counts : Counts) := @runUnit_follows _ p counts e hidle data
    rw [hplay] at hunit
    -- the rest starts from what this entry leaves behind, whatever was counted before
    have hlater {counts counts' : Counts} {e' : Engine}
        (hon : (runUnit p counts data).on e = (.ok counts', e')) :
        Decided p d o e' rest ↔ Among d o (decisions eps') := by
      obtain ⟨_, e'', hon', -, haired⟩ := hunit counts
      cases hon.symm.trans hon'
      refine ih haired.backlogs ?_
      rw [haired.registries, haired.made]
      exact hrest
    obtain ⟨path, hpath, h⟩ := bind_eq_ok_iff.mp hplay
    obtain ⟨directives, hdirectives, h⟩ := bind_eq_ok_iff.mp h
    obtain ⟨opened, hopening, h⟩ := bind_eq_ok_iff.mp h
    obtain ⟨diagnostics, hdiagnostics, h⟩ := bind_eq_ok_iff.mp h
    obtain ⟨ds, hds, h⟩ := bind_eq_ok_iff.mp h
    cases h
    have hregister := registerUnit_follows (.of path) directives hidle
    rw [hopening] at hregister
    obtain ⟨_, e₁, hregister, hpathUnit, hopened⟩ := hregister
    obtain ⟨c, g⟩ := opened
    have hfind := (hopened.find c.unit).trans (if_pos rfl)
    have hgunit : g.unit = c.unit := Engine.unit_of_findRegistry hfind
    rw [← hgunit] at hfind
    have hasked := asked_iff (d := d) (o := o) (hopened.backlogs.trans hidle) hfind hds
    rw [hgunit.trans hpathUnit] at hasked
    show Decided p d o e (data :: rest) ↔ Among d o (ds ++ decisions eps')
    rw [among_append, ← hasked]
    constructor
    · intro h
      cases h with
      | here hpath' hdirectives' hregister' hdiagnostics' h =>
        cases hpath.symm.trans hpath'
        cases hdirectives.symm.trans hdirectives'
        cases hregister.symm.trans hregister'
        cases hdiagnostics.symm.trans hdiagnostics'
        exact .inl h
      | later hon h => exact .inr ((hlater hon).mp h)
    · rintro (h | h)
      · exact .here hpath hdirectives hregister hdiagnostics h
      · obtain ⟨_, _, hon, -, -⟩ := hunit {}
        exact .later hon ((hlater hon).mpr h)

end Muffle.Stream
