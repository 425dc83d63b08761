/-
  Muffle.Proofs.Stream.Numbering

  The numbers that tell directives apart. A stream numbers its directives in the order in which
  they are made, and nothing but the account of the used ones looks at the numbers. So what an
  entry comes to does not depend on the directives made before it: all its directives just have
  higher numbers.
-/

import Muffle.Proofs.Stream.Episode

namespace Muffle

/-! ## Numbers moved up -/

/-- The directive with a number higher by `k`. -/
def Directive.shift (k : Nat) (d : Directive) : Directive := { d with id := k + d.id }

namespace Registry

variable {k : Nat}

/-- The registry with all numbers higher by `k`. -/
def shift (k : Nat) (g : Registry) : Registry :=
  { g with directives := g.directives.map (Directive.shift k) }

/-- The place with all numbers higher by `k`. -/
def Place.shift (k : Nat) : Place → Place
  | .before i e => .before i (e.shift k)
  | .last c => .last (c.map (Directive.shift k))

/-- A range crosses what it crosses, whatever the numbers are. -/
theorem firstCrossing_shift (k : Nat) (r : SourceRange) (c : Option Directive) (d : Directive) :
    firstCrossing r (c.map (Directive.shift k)) (d.shift k) =
      (firstCrossing r c d).map (Option.map (Directive.shift k)) := by
  cases c with
  | some c => rfl
  | none =>
    show (do return if ← crosses d r then some (d.shift k) else none) = _
    rw [firstCrossing]
    cases crosses d r with
    | error f => rfl
    | ok b => cases b <;> rfl

/-- The place of a directive is found from the ranges alone. -/
theorem placeFrom_shift (k : Nat) (r : SourceRange) (c : Option Directive) (i : Nat)
    (ds : List Directive) :
    placeFrom r (c.map (Directive.shift k)) i (ds.map (Directive.shift k)) =
      (placeFrom r c i ds).map (Place.shift k) := by
  induction ds generalizing c i with
  | nil => rfl
  | cons d rest ih =>
    show (do if ← d.range.strictlyEncloses r then _ else _) = _
    rw [placeFrom]
    cases d.range.strictlyEncloses r with
    | error f => rfl
    | ok b =>
      cases b with
      | true => rfl
      | false =>
        simp only [ok_bind, Bool.false_eq_true, if_false]
        rw [firstCrossing_shift]
        cases firstCrossing r c d with
        | error f => rfl
        | ok c' => exact ih c' (i + 1)

theorem insertAt_shift (k : Nat) (g : Registry) (d : Directive) (p : Place) :
    (g.shift k).insertAt (d.shift k) (p.shift k) = (g.insertAt d p).shift k := by
  cases p <;> simp [insertAt, Place.shift, shift, List.map_insertIdx]

theorem placeNotices_shift (k : Nat) (g : Registry) (d : Directive) (p : Place) :
    (g.shift k).placeNotices (d.shift k) (p.shift k) = g.placeNotices d p := by
  rcases p with ⟨i, e⟩ | (_ | c) <;> rfl

/-- A registration neither reads nor changes the number of a directive. -/
theorem register_shift (k : Nat) (g : Registry) (d : Directive) :
    (g.shift k).register (d.shift k) = (g.register d).map fun r => (r.1.shift k, r.2) := by
  have hplace : (g.shift k).place (d.shift k) = (g.place d).map (Place.shift k) :=
    placeFrom_shift k d.range none 0 g.directives
  rw [register, register, hplace]
  cases g.place d with
  | error f => rfl
  | ok p =>
    show Except.ok _ = Except.ok _
    rw [insertAt_shift, placeNotices_shift]

/-- Directives that all get higher numbers are entered at the same places. -/
theorem enterAll_shift (k : Nat) (g : Registry) (ds : List Directive) :
    (g.shift k).enterAll (ds.map (Directive.shift k)) = (g.enterAll ds).map (shift k) := by
  induction ds generalizing g with
  | nil => rfl
  | cons d rest ih =>
    rw [List.map_cons, enterAll, enterAll, register_shift]
    cases g.register d with
    | error f => rfl
    | ok r =>
      -- a number more or less is not seen in the text of the range
      show (do let _ ← d.range.written; (r.1.shift k).enterAll _) = Except.map _ (do _)
      cases d.range.written with
      | error f => rfl
      | ok text => exact ih r.1

/-- A registry stays with its unit. -/
theorem registerAll_unit {g g' : Registry} {ds : List Directive}
    (h : g.registerAll ds = .ok g') : g'.unit = g.unit := by
  induction ds generalizing g with
  | nil =>
    cases h
    rfl
  | cons d rest ih =>
    obtain ⟨⟨g₁, ns⟩, hd, h⟩ := bind_eq_ok_iff.mp h
    exact (ih h).trans (Engine.register_unit hd)

/-- The directive that claims a diagnostic is found by range and pattern, not by number. -/
theorem firstMatch_shift (k : Nat) (position message : Value) (ds : List Directive) :
    firstMatch position message (ds.map (Directive.shift k)) =
      (firstMatch position message ds).map (Option.map (Directive.shift k)) := by
  induction ds with
  | nil => rfl
  | cons d rest ih =>
    show (do if ← d.appliesTo position message then _ else _) = _
    rw [firstMatch]
    cases d.appliesTo position message with
    | error f => rfl
    | ok b =>
      cases b with
      | true => rfl
      | false => exact ih

end Registry

namespace Stream

variable {k : Nat}

/-- The collector with all numbers higher by `k`. -/
def shiftCollector (k : Nat) (c : Collector) : Collector :=
  { c with collected := c.collected.map (Directive.shift k) }

/-- The ruling with all numbers higher by `k`. -/
def Ruling.shift (k : Nat) : Ruling → Ruling
  | .claimed s => .claimed (s.shift k)
  | r => r

/-- The decision with all numbers higher by `k`. -/
def Decision.shift (k : Nat) (d : Decision) : Decision := { d with ruling := d.ruling.shift k }

/-- The episode with all numbers higher by `k`. -/
def Episode.shift (k : Nat) (ep : Episode) : Episode where
  collector := shiftCollector k ep.collector
  registry := ep.registry.shift k
  decisions := ep.decisions.map (Decision.shift k)

/-- A collector that starts with a higher number builds the same directives with higher numbers. -/
theorem directiveFor_shift [Pattern.Compiler] (k made : Nat) (r : Recorded) :
    directiveFor (k + made) r = (directiveFor made r).map (Directive.shift k) := by
  unfold directiveFor Directive.make
  cases SourceRange.union r.spans with
  | error f => rfl
  | ok range =>
    rw [ok_bind, ok_bind]
    cases Directive.compilePattern r.anchor (if r.pattern.truthy then r.pattern else .null) <;> rfl

/-- One recorded directive is skipped, made or refused for the same reasons under any number. -/
theorem gather_shift [Pattern.Compiler] (k first : Nat) (c : Collector) (r : Recorded) :
    gather (k + first) (shiftCollector k c) r = (gather first c r).map (shiftCollector k) := by
  have hmade : k + first + (shiftCollector k c).collected.length =
      k + (first + c.collected.length) := by
    rw [shiftCollector, List.length_map, Nat.add_assoc]
  unfold gather
  rw [hmade, directiveFor_shift]
  show (do if ← r.anchor.isMember c.seen then _ else _) = _
  cases r.anchor.isMember c.seen with
  | error f => rfl
  | ok duplicate =>
    cases duplicate with
    | true => rfl
    | false =>
      cases directiveFor (first + c.collected.length) r with
      | ok d => simp [shiftCollector, Except.map]
      | error f => cases f <;> rfl

/-- By induction on the recorded directives. -/
theorem gatherAll_shift [Pattern.Compiler] (k first : Nat) (c : Collector) (directives : List Value)
    :
    gatherAll (k + first) (shiftCollector k c) directives =
      (gatherAll first c directives).map (shiftCollector k) := by
  induction directives generalizing c with
  | nil => rfl
  | cons directive rest ih =>
    unfold gatherAll
    cases Recorded.read directive with
    | error f => rfl
    | ok r =>
      rw [ok_bind, ok_bind, gather_shift]
      cases gather first c r with
      | error f => rfl
      | ok c' => exact ih c'

/-- An entry is opened alike when everything made so far has a number that is higher by `k`. -/
theorem opening_shift [Pattern.Compiler] (k made : Nat) (g : Registry) (directives : List Value) :
    opening (g.shift k) (k + made) directives =
      (opening g made directives).map fun cg => (shiftCollector k cg.1, cg.2.shift k) := by
  unfold opening
  -- a collector that has collected nothing has no numbers in it
  have hgather := gatherAll_shift k made { unit := g.unit } directives
  rw [show shiftCollector k { unit := g.unit } = { unit := (g.shift k).unit } from rfl] at hgather
  rw [hgather]
  cases gatherAll made { unit := g.unit } directives with
  | error f => rfl
  | ok c =>
    show (do let g' ← (g.shift k).enterAll (c.collected.map (Directive.shift k)); _) = _
    rw [Registry.enterAll_shift, ok_bind]
    cases g.enterAll c.collected <;> rfl

/-- A ruling is the same one, up to the number of the directive that claims. -/
theorem rule_shift (k : Nat) (p : Policy) (g : Registry) (d : Diagnostic) :
    rule p (g.shift k) d = (rule p g d).map (Ruling.shift k) := by
  unfold rule
  cases p.mayMuffle d.severity with
  | false => rfl
  | true =>
    cases p.filteredBy? d with
    | error f => rfl
    | ok reason =>
      cases reason with
      | some reason => rfl
      | none =>
        have hfind : (g.shift k).find? d.position d.message =
            (g.find? d.position d.message).map (Option.map (Directive.shift k)) :=
          Registry.firstMatch_shift k d.position d.message g.directives
        simp only [if_true, ok_bind]
        rw [hfind]
        rcases g.find? d.position d.message with f | (_ | s) <;> rfl

/-- All the diagnostics of an entry are ruled alike. -/
theorem ruleAll_shift (k : Nat) (p : Policy) (g : Registry) (diagnostics : List Value) :
    ruleAll p (g.shift k) diagnostics =
      (ruleAll p g diagnostics).map (List.map (Decision.shift k)) := by
  induction diagnostics with
  | nil => rfl
  | cons diagnostic rest ih =>
    unfold ruleAll
    show (do let d ← readDiagnostic g.unit diagnostic; _) = _
    cases readDiagnostic g.unit diagnostic with
    | error f => rfl
    | ok d =>
      rw [ok_bind, ok_bind, rule_shift, ih]
      cases rule p g d with
      | error f => rfl
      | ok r => cases ruleAll p g rest <;> rfl

/-- The unit of a recorded entry. -/
def unitOf? (data : Value) : Option SourceUnit :=
  match data.field "path" with
  | .ok path => some (SourceUnit.of path)
  | .error _ => none

/-- The step lemma: an entry plays the same episode, shifted, when the registry of its unit is
    shifted. -/
theorem play_shift [Pattern.Compiler] {k made : Nat} {p : Policy}
    {stored stored' : SourceUnit → Registry}
    {data : Value} (h : ∀ u ∈ unitOf? data, stored' u = (stored u).shift k) :
    play p stored' (k + made) data = (play p stored made data).map (Episode.shift k) := by
  unfold play
  -- the steps of an entry do the same or fail alike, one after the other
  cases hpath : data.field "path" with
  | error f => rfl
  | ok path =>
    have hstored : stored' (SourceUnit.of path) = (stored (SourceUnit.of path)).shift k :=
      h _ (by rw [unitOf?, hpath]; rfl)
    rw [ok_bind, ok_bind]
    cases recordedItems data "directives" with
    | error f => rfl
    | ok directives =>
      dsimp only
      rw [ok_bind, ok_bind, hstored, opening_shift]
      cases opening (stored (SourceUnit.of path)) made directives with
      | error f => rfl
      | ok cg =>
        cases recordedItems data "diagnostics" with
        | error f => rfl
        | ok diagnostics =>
          simp only [ok_bind]
          show (do let ds ← ruleAll p (cg.2.shift k) diagnostics; _) = _
          rw [ruleAll_shift]
          cases ruleAll p cg.2 diagnostics <;> rfl

/-- Entries of units that had nothing but what they have now, numbered from further up. -/
theorem episodes_shift [Pattern.Compiler] {k made : Nat} {p : Policy}
    {stored stored' : SourceUnit → Registry} {units : List Value}
    (h : ∀ data ∈ units, ∀ u ∈ unitOf? data, stored' u = (stored u).shift k) :
    episodes p stored' (k + made) units =
      (episodes p stored made units).map (List.map (Episode.shift k)) := by
  induction units generalizing stored stored' made with
  | nil => rfl
  | cons data rest ih =>
    rw [episodes, episodes, play_shift (h data List.mem_cons_self)]
    cases play p stored made data with
    | error f => rfl
    | ok ep =>
      have hmade : k + made + (ep.shift k).registered.length =
          k + (made + ep.registered.length) := by
        rw [Episode.registered, Episode.shift, shiftCollector, List.length_map, Nat.add_assoc]
        rfl
      -- the episode adds the same to both registries of its unit, but for the numbers
      have hstored : ∀ data' ∈ rest, ∀ u ∈ unitOf? data',
          (ep.shift k).store stored' u = (ep.store stored u).shift k := by
        intro data' hdata' u hu
        show (if u = ep.unit then _ else _) = _
        rw [h data' (List.mem_cons_of_mem _ hdata') u hu, Episode.store]
        split <;> rfl
      rw [ok_bind]
      show (do return ep.shift k ::
        (← episodes p _ (k + made + (ep.shift k).registered.length) rest)) = _
      rw [hmade, ih hstored]
      cases episodes p (ep.store stored) (made + ep.registered.length) rest <;> rfl

/-! ## Numbers given

What every entry keeps about the registries, and what it adds to them. -/

theorem id_of_directiveFor [Pattern.Compiler] {made : Nat} {r : Recorded} {d : Directive}
    (h : directiveFor made r = .ok d) : d.id = made := by
  obtain ⟨range, -, h⟩ := bind_eq_ok_iff.mp h
  obtain ⟨pattern, -, h⟩ := bind_eq_ok_iff.mp h
  cases h
  rfl

/-- The numbers of collected directives, where `first` were made before. -/
def Consecutive (first : Nat) (ds : List Directive) : Prop :=
  ds.map (·.id) = List.range' first ds.length

/-- The next number continues a row of numbers. -/
theorem Consecutive.concat {first : Nat} {ds : List Directive} {d : Directive}
    (h : Consecutive first ds) (hd : d.id = first + ds.length) : Consecutive first (ds ++ [d]) := by
  rw [Consecutive, List.map_append, h, List.length_append, List.length_singleton,
    List.range'_concat, Nat.one_mul, ← hd]
  rfl

/-- What an entry collects is numbered without gaps: a refused or repeated directive takes no
    number. -/
theorem gather_consecutive [Pattern.Compiler] {first : Nat} {c c' : Collector} {r : Recorded}
    (hc : Consecutive first c.collected) (h : gather first c r = .ok c') :
    Consecutive first c'.collected := by
  cases gather_cases h with
  | skipped => exact hc
  | made _ hd => exact hc.concat (id_of_directiveFor hd)
  | refused => exact hc

theorem gatherAll_consecutive [Pattern.Compiler] {first : Nat} {c c' : Collector}
    {directives : List Value}
    (hc : Consecutive first c.collected) (h : gatherAll first c directives = .ok c') :
    Consecutive first c'.collected := by
  induction directives generalizing c with
  | nil =>
    cases h
    exact hc
  | cons directive rest ih =>
    obtain ⟨r, -, h⟩ := bind_eq_ok_iff.mp h
    obtain ⟨c₁, hr, h⟩ := bind_eq_ok_iff.mp h
    exact ih (gather_consecutive hc hr) h

/-- Only a stored directive claims a diagnostic. -/
theorem claimed_mem {p : Policy} {g : Registry} {d : Diagnostic} {s : Directive}
    (h : rule p g d = .ok (.claimed s)) : s ∈ g.directives := by
  unfold rule at h
  split at h
  · obtain ⟨reason, -, h⟩ := bind_eq_ok_iff.mp h
    cases reason with
    | some reason => cases h
    | none =>
      obtain ⟨c, hfind, h⟩ := bind_eq_ok_iff.mp h
      cases c with
      | none => cases h
      | some s' =>
        cases h
        exact (Registry.firstMatch_eq_some_iff.mp hfind).mem
  · cases h

/-- The numbers that are claimed are those of the directives that claimed. -/
theorem mem_claims {ds : List Decision} {i : Nat} :
    i ∈ claims ds ↔ ∃ d ∈ ds, ∃ s, d.ruling = .claimed s ∧ s.id = i := by
  have hclaimant : ∀ (r : Ruling) s, r.claimant? = some s ↔ r = .claimed s := by
    rintro (_ | _ | s') s <;> simp [Ruling.claimant?]
  simp only [claims, hclaimant, List.mem_map, List.mem_filterMap]
  constructor
  · rintro ⟨s, ⟨d, hd, hs⟩, hi⟩
    exact ⟨d, hd, s, hs, hi⟩
  · rintro ⟨d, hd, s, hs, hi⟩
    exact ⟨s, ⟨d, hd, hs⟩, hi⟩

theorem ruleAll_claimed {p : Policy} {g : Registry} {diagnostics : List Value}
    {ds : List Decision} (h : ruleAll p g diagnostics = .ok ds) :
    ∀ d ∈ ds, ∀ s, d.ruling = .claimed s → s ∈ g.directives := by
  induction diagnostics generalizing ds with
  | nil =>
    cases h
    exact nofun
  | cons diagnostic rest ih =>
    obtain ⟨d, -, h⟩ := bind_eq_ok_iff.mp h
    obtain ⟨r, hr, h⟩ := bind_eq_ok_iff.mp h
    obtain ⟨ds', hrest, h⟩ := bind_eq_ok_iff.mp h
    cases h
    refine List.forall_mem_cons.mpr ⟨fun s hs => ?_, ih hrest⟩
    dsimp only at hs
    subst hs
    exact claimed_mem hr

/-- The registries at the boundary of two entries: each has the name of its unit, and no two of
    the directives in them have one number. -/
structure Shelved (stored : SourceUnit → Registry) (made : Nat) : Prop where
  unit : ∀ u, (stored u).unit = u
  below : ∀ u, ∀ s ∈ (stored u).directives, s.id < made
  nodup : ∀ u, ((stored u).directives.map (·.id)).Nodup
  apart : ∀ u v, ∀ s ∈ (stored u).directives, ∀ t ∈ (stored v).directives, s.id = t.id → u = v

/-- Nothing is stored at first. -/
theorem shelved_none : Shelved noneStored 0 :=
  ⟨fun _ => rfl, fun _ => nofun, fun _ => List.nodup_nil, fun _ _ => nofun⟩

/-- What an episode adds to the registries. -/
structure Episode.Continues (ep : Episode) (stored : SourceUnit → Registry) (made : Nat) :
    Prop where
  unit : ep.registry.unit = ep.unit
  perm : ep.registry.directives.Perm ((stored ep.unit).directives ++ ep.registered)
  numbers : Consecutive made ep.registered
  claimed : ∀ d ∈ ep.decisions, ∀ s, d.ruling = .claimed s → s ∈ ep.registry.directives

/-- An episode goes on from what is stored: it keeps the directives of its unit and numbers its own
    after all others. -/
theorem Shelved.continues [Pattern.Compiler] {p : Policy} {stored : SourceUnit → Registry}
    {made : Nat} {data : Value}
    {ep : Episode} (hs : Shelved stored made) (h : play p stored made data = .ok ep) :
    unitOf? data = some ep.unit ∧ ep.Continues stored made := by
  obtain ⟨path, hpath, h⟩ := bind_eq_ok_iff.mp h
  obtain ⟨directives, -, h⟩ := bind_eq_ok_iff.mp h
  obtain ⟨cg, hopening, h⟩ := bind_eq_ok_iff.mp h
  obtain ⟨diagnostics, -, h⟩ := bind_eq_ok_iff.mp h
  obtain ⟨ds, hds, h⟩ := bind_eq_ok_iff.mp h
  -- all steps of the entry are known now
  cases h
  obtain ⟨c, hc, hopening⟩ := bind_eq_ok_iff.mp hopening
  obtain ⟨g, henter, hopening⟩ := bind_eq_ok_iff.mp hopening
  cases hopening
  obtain ⟨hg, -⟩ := Registry.enterAll_eq_ok_iff.mp henter
  have hunit : c.unit = SourceUnit.of path := (gatherAll_unit hc).trans (hs.unit _)
  refine ⟨?_, ?_, ?_, ?_, ruleAll_claimed hds⟩
  · rw [unitOf?, hpath]
    exact congrArg some hunit.symm
  · rw [Registry.registerAll_unit hg, hs.unit]
    exact hunit.symm
  · show g.directives.Perm ((stored c.unit).directives ++ c.collected)
    rw [hunit]
    exact Registry.registerAll_perm hg
  · exact gatherAll_consecutive (c := { unit := (stored (SourceUnit.of path)).unit }) rfl hc

namespace Episode.Continues

variable {ep : Episode} {stored : SourceUnit → Registry} {made : Nat}

/-- An episode works with the directives that were stored and with its own. -/
theorem mem_registry (h : ep.Continues stored made) {s : Directive} :
    s ∈ ep.registry.directives ↔ s ∈ (stored ep.unit).directives ∨ s ∈ ep.registered := by
  rw [h.perm.mem_iff, List.mem_append]

/-- The directives of an episode have the numbers from `made` on. -/
theorem bounds (h : ep.Continues stored made) {s : Directive} (hs : s ∈ ep.registered) :
    made ≤ s.id ∧ s.id < made + ep.registered.length := by
  have hid : s.id ∈ ep.registered.map (·.id) := List.mem_map_of_mem hs
  rw [h.numbers] at hid
  exact List.mem_range'_1.mp hid

/-- No directive of an episode has a number that was not given out yet. -/
theorem lt (h : ep.Continues stored made) (hs : Shelved stored made) {s : Directive}
    (hmem : s ∈ ep.registry.directives) : s.id < made + ep.registered.length := by
  rcases h.mem_registry.mp hmem with hmem | hmem
  · exact Nat.lt_add_right _ (hs.below _ s hmem)
  · exact (h.bounds hmem).2

theorem claims_lt (h : ep.Continues stored made) (hs : Shelved stored made) :
    ∀ i ∈ claims ep.decisions, i < made + ep.registered.length := by
  intro i hi
  obtain ⟨d, hd, s, hclaimed, rfl⟩ := mem_claims.mp hi
  exact h.lt hs (h.claimed d hd s hclaimed)

/-- No two directives of a unit share a number. -/
theorem nodup (h : ep.Continues stored made) (hs : Shelved stored made) :
    (ep.registry.directives.map (·.id)).Nodup := by
  rw [(h.perm.map _).nodup_iff, List.map_append, h.numbers, List.nodup_append']
  refine ⟨hs.nodup _, List.nodup_range', fun i hi hi' => ?_⟩
  -- what was there has lower numbers
  obtain ⟨s, hmem, rfl⟩ := List.mem_map.mp hi
  have hlow := hs.below _ s hmem
  have hhigh := (List.mem_range'_1.mp hi').1
  omega

/-- A directive of the unit has its number from nowhere else. -/
theorem unit_eq (h : ep.Continues stored made) (hs : Shelved stored made) {s t : Directive}
    {v : SourceUnit} (hmem : s ∈ ep.registry.directives) (ht : t ∈ (stored v).directives)
    (hid : s.id = t.id) : ep.unit = v := by
  rcases h.mem_registry.mp hmem with hmem | hmem
  · exact hs.apart _ _ s hmem t ht hid
  · have hlow := hs.below _ t ht
    have hhigh := (h.bounds hmem).1
    omega

/-- What an episode leaves behind is stored in order again: the invariant of the run. -/
theorem shelved (h : ep.Continues stored made) (hs : Shelved stored made) :
    Shelved (ep.store stored) (made + ep.registered.length) where
  unit u := by
    unfold store
    split
    · rename_i hu
      exact h.unit.trans hu.symm
    · exact hs.unit u
  below u s hmem := by
    unfold store at hmem
    split at hmem
    · exact h.lt hs hmem
    · exact Nat.lt_add_right _ (hs.below u s hmem)
  nodup u := by
    unfold store
    split
    · exact h.nodup hs
    · exact hs.nodup u
  apart u v s hmem t ht hid := by
    unfold store at hmem ht
    split at hmem <;> split at ht
    · rename_i hu hv
      exact hu.trans hv.symm
    · rename_i hu hv
      exact hu.trans (h.unit_eq hs hmem ht hid)
    · rename_i hu hv
      exact ((h.unit_eq hs ht hmem hid.symm).symm).trans hv.symm
    · exact hs.apart u v s hmem t ht hid

end Episode.Continues

/-- Episodes that follow one another. -/
inductive Chain : (SourceUnit → Registry) → Nat → List Episode → Prop
  | nil {stored : SourceUnit → Registry} {made : Nat} (hs : Shelved stored made) :
      Chain stored made []
  | cons {stored : SourceUnit → Registry} {made : Nat} {ep : Episode} {eps : List Episode}
      (hs : Shelved stored made) (hep : ep.Continues stored made)
      (hrest : Chain (ep.store stored) (made + ep.registered.length) eps) :
      Chain stored made (ep :: eps)

/-- The run lemma: the episodes of a stream follow on one another, one for each entry. -/
theorem episodes_chain [Pattern.Compiler] {p : Policy} {stored : SourceUnit → Registry} {made : Nat}
    {units : List Value} {eps : List Episode} (hs : Shelved stored made)
    (h : episodes p stored made units = .ok eps) :
    Chain stored made eps ∧ units.map unitOf? = eps.map fun ep => some ep.unit := by
  induction units generalizing stored made eps with
  | nil =>
    cases h
    exact ⟨.nil hs, rfl⟩
  | cons data rest ih =>
    obtain ⟨ep, hep, h⟩ := bind_eq_ok_iff.mp h
    obtain ⟨eps', hrest, h⟩ := bind_eq_ok_iff.mp h
    cases h
    obtain ⟨hunit, hcontinues⟩ := hs.continues hep
    obtain ⟨hchain, hunits⟩ := ih (hcontinues.shelved hs) hrest
    exact ⟨.cons hs hcontinues hchain, by rw [List.map_cons, List.map_cons, hunit, hunits]⟩

/-- All directives that some episodes register, in order. -/
def registered (eps : List Episode) : List Directive := eps.flatMap (·.registered)

theorem claims_append (ds ds' : List Decision) : claims (ds ++ ds') = claims ds ++ claims ds' := by
  rw [claims, List.filterMap_append, List.map_append]
  rfl

theorem claims_decisions_cons (ep : Episode) (eps : List Episode) :
    claims (decisions (ep :: eps)) = claims ep.decisions ++ claims (decisions eps) :=
  claims_append ep.decisions (decisions eps)

/-- A claimed number is one that was given out by then. -/
theorem Chain.claims_lt {stored : SourceUnit → Registry} {made : Nat} {eps : List Episode}
    (h : Chain stored made eps) :
    ∀ i ∈ claims (decisions eps), i < made + (registered eps).length := by
  induction h with
  | nil => exact nofun
  | @cons stored made ep eps hs hep _ ih =>
    intro i hi
    rw [registered, List.flatMap_cons, List.length_append, ← Nat.add_assoc]
    rw [claims_decisions_cons] at hi
    rcases List.mem_append.mp hi with hi | hi
    · exact Nat.lt_add_right _ (hep.claims_lt hs i hi)
    · exact ih i hi

end Stream

end Muffle
