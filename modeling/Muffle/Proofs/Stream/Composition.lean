/-
  Muffle.Proofs.Stream.Composition

  Streams put together. If no unit of one stream is one of another, the two run one after the
  other leave behind what they leave behind apart: the sinks follow one another and the counts
  add up. For every stream the books balance: no diagnostic waits in the end, each is either
  muffled or forwarded, and the sink holds the forwarded ones and the reports, nothing else.
-/

import Mathlib.Algebra.GroupWithZero.Nat
import Muffle.Pattern.Standard
import Muffle.Proofs.Stream.Numbering

namespace Muffle.Stream

/-! ## Two streams -/

/-- The registries after some episodes. -/
def storeAll (stored : SourceUnit → Registry) (eps : List Episode) : SourceUnit → Registry :=
  eps.foldl (fun stored ep => ep.store stored) stored

/-- A unit without an episode keeps its registry. -/
theorem storeAll_of_ne {stored : SourceUnit → Registry} {eps : List Episode} {u : SourceUnit}
    (h : ∀ ep ∈ eps, ep.unit ≠ u) : storeAll stored eps u = stored u := by
  induction eps generalizing stored with
  | nil => rfl
  | cons ep rest ih =>
    obtain ⟨hep, hrest⟩ := List.forall_mem_cons.mp h
    exact (ih hrest).trans (if_neg fun hu => hep hu.symm)

/-- Episodes of a stream, and then of a stream that goes on from there, are those of the two in a
    row. -/
theorem episodes_append [Pattern.Compiler] {p : Policy} {stored : SourceUnit → Registry}
    {made : Nat}
    {us vs : List Value} {eps eps' : List Episode} (h : episodes p stored made us = .ok eps)
    (h' : episodes p (storeAll stored eps) (made + (registered eps).length) vs = .ok eps') :
    episodes p stored made (us ++ vs) = .ok (eps ++ eps') := by
  induction us generalizing stored made eps with
  | nil =>
    cases h
    exact h'
  | cons data rest ih =>
    obtain ⟨ep, hep, h⟩ := bind_eq_ok_iff.mp h
    obtain ⟨rest', hrest, h⟩ := bind_eq_ok_iff.mp h
    cases h
    rw [registered, List.flatMap_cons, List.length_append, ← Nat.add_assoc] at h'
    rw [List.cons_append, episodes, hep, ok_bind, ih hrest h']
    rfl

/-- What the second stream sends depends on the first by the claims only, since these make
    directives used. -/
theorem transcript_append (p : Policy) (used : List Nat) (eps eps' : List Episode) :
    transcript p used (eps ++ eps') =
      transcript p used eps ++ transcript p (used ++ claims (decisions eps)) eps' := by
  induction eps generalizing used with
  | nil =>
    show _ = transcript p (used ++ []) eps'
    rw [List.append_nil]
    rfl
  | cons ep rest ih =>
    rw [List.cons_append, transcript, transcript, ih, claims_decisions_cons, List.append_assoc,
      List.append_assoc]

/-- Whatever is in a transcript is there for one of the episodes. -/
theorem exists_mem_entries {p : Policy} {used : List Nat} {eps : List Episode} {x : Entry}
    (h : x ∈ transcript p used eps) : ∃ ep ∈ eps, ∃ used', x ∈ ep.entries p used' := by
  induction eps generalizing used with
  | nil => cases h
  | cons ep rest ih =>
    rcases List.mem_append.mp h with h | h
    · exact ⟨ep, List.mem_cons_self, used, h⟩
    · obtain ⟨ep', hep', hx⟩ := ih h
      exact ⟨ep', List.mem_cons_of_mem _ hep', hx⟩

/-! ## Higher numbers

What the sink receives has no numbers in it, and directives are not taken for used ones with
lower numbers. -/

theorem claims_shift (k : Nat) (ds : List Decision) :
    claims (ds.map (Decision.shift k)) = (claims ds).map (k + ·) := by
  induction ds with
  | nil => rfl
  | cons d ds ih =>
    rw [show d :: ds = [d] ++ ds from rfl, List.map_append, claims_append, claims_append, ih,
      List.map_append]
    rcases d with ⟨d, _ | _ | s⟩ <;> rfl

/-- Numbers are not counted. -/
theorem tally_shift (k : Nat) (counts : Counts) (ds : List Decision) :
    tally counts (ds.map (Decision.shift k)) = tally counts ds := by
  rw [tally, List.foldl_map, tally]
  refine congrArg (fun f => List.foldl f counts ds) (funext₂ fun c d => ?_)
  rcases d with ⟨d, _ | _ | s⟩ <;> rfl

/-- What is forwarded are diagnostics, which carry no numbers. -/
theorem forwarded_shift (k : Nat) (ds : List Decision) :
    forwarded (ds.map (Decision.shift k)) = forwarded ds := by
  rw [forwarded, List.filter_map, List.map_map, forwarded]
  have houtcome : ((fun d : Decision => decide (d.ruling.outcome = .forwarded)) ∘
      Decision.shift k) = fun d => decide (d.ruling.outcome = .forwarded) := by
    funext d
    rcases d with ⟨d, _ | _ | s⟩ <;> rfl
  rw [houtcome]
  rfl

theorem decisions_shift (k : Nat) (eps : List Episode) :
    decisions (eps.map (Episode.shift k)) = (decisions eps).map (Decision.shift k) := by
  rw [decisions, List.flatMap_map, decisions, List.map_flatMap]
  rfl

/-- Claims of an earlier stream have lower numbers and do not make a directive of the later one
    used. -/
theorem contains_shift {k : Nat} {before : List Nat} (hbefore : ∀ i ∈ before, i < k)
    (used : List Nat) (i : Nat) :
    (before ++ used.map (k + ·)).contains (k + i) = used.contains i := by
  have hnot : k + i ∉ before := fun hi => Nat.not_lt.mpr (Nat.le_add_right k i) (hbefore _ hi)
  rw [Bool.eq_iff_iff, List.contains_iff_mem, List.contains_iff_mem, List.mem_append,
    or_iff_right hnot, List.mem_map_of_injective fun _ _ => Nat.add_left_cancel]

/-- The same directives are unused, up to their numbers. -/
theorem unused_shift {k : Nat} {before : List Nat} (hbefore : ∀ i ∈ before, i < k) (p : Policy)
    (used : List Nat) (ep : Episode) :
    (ep.shift k).unused p (before ++ used.map (k + ·)) =
      (ep.unused p used).map (Directive.shift k) := by
  unfold Episode.unused
  split
  · have hkept (d : Directive) : (before ++ used.map (k + ·) ++
        claims (ep.shift k).decisions).contains (d.shift k).id =
          (used ++ claims ep.decisions).contains d.id := by
      show (_ ++ claims (ep.decisions.map (Decision.shift k))).contains (k + d.id) = _
      rw [claims_shift, List.append_assoc, ← List.map_append, contains_shift hbefore]
    show ((ep.registry.shift k).unused _).filter _ = _
    rw [Registry.unused, Registry.shift, List.filter_map, List.filter_map, Registry.unused]
    refine congrArg (List.map _) ?_
    congr 1
    refine congrArg (fun f => List.filter f _) (funext fun d => ?_)
    exact congrArg Bool.not (hkept d)
  · rfl

/-- An episode that is shifted sends the same diagnostics. -/
theorem entries_shift {k : Nat} {before : List Nat} (hbefore : ∀ i ∈ before, i < k) (p : Policy)
    (used : List Nat) (ep : Episode) :
    ((ep.shift k).entries p (before ++ used.map (k + ·))).map Entry.diagnostic =
      (ep.entries p used).map Entry.diagnostic := by
  rw [Episode.entries_diagnostics, Episode.entries_diagnostics, unused_shift hbefore, List.map_map]
  show _ ++ forwarded (ep.decisions.map (Decision.shift k)) ++ _ = _
  rw [forwarded_shift]
  rfl

/-- By induction on the episodes; the claims of each one join those before it. -/
theorem transcript_shift {k : Nat} {before : List Nat} (hbefore : ∀ i ∈ before, i < k)
    (p : Policy) (used : List Nat) (eps : List Episode) :
    (transcript p (before ++ used.map (k + ·)) (eps.map (Episode.shift k))).map Entry.diagnostic =
      (transcript p used eps).map Entry.diagnostic := by
  induction eps generalizing used with
  | nil => rfl
  | cons ep rest ih =>
    have hclaims : claims (ep.shift k).decisions = (claims ep.decisions).map (k + ·) :=
      claims_shift k ep.decisions
    rw [List.map_cons, transcript, transcript, List.map_append, List.map_append,
      entries_shift hbefore, hclaims, List.append_assoc, ← List.map_append (f := (k + ·)), ih]

/-- Two streams without a common unit, one after the other. -/
theorem episodesOf_append [Pattern.Compiler] {p : Policy} {us vs : List Value}
    {eps eps' : List Episode} (hus : episodesOf p us = .ok eps) (hvs : episodesOf p vs = .ok eps')
    (hapart : ∀ a ∈ us, ∀ b ∈ vs, unitOf? a ≠ unitOf? b) :
    episodesOf p (us ++ vs) = .ok (eps ++ eps'.map (Episode.shift (registered eps).length)) := by
  obtain ⟨-, hunits⟩ := episodes_chain shelved_none hus
  refine episodes_append hus ?_
  -- the units of the second stream have no directives yet
  have hnone : ∀ b ∈ vs, ∀ u ∈ unitOf? b, storeAll noneStored eps u = (noneStored u).shift
      (registered eps).length := by
    intro b hb u hu
    refine storeAll_of_ne fun ep hep hunit => ?_
    have hmem : some ep.unit ∈ us.map unitOf? := hunits ▸ List.mem_map_of_mem hep
    obtain ⟨a, ha, hau⟩ := List.mem_map.mp hmem
    refine hapart a ha b hb ?_
    rw [hau, hunit]
    exact hu.symm
  rw [Nat.zero_add, ← Nat.add_zero (registered eps).length, episodes_shift hnone]
  exact congrArg (Except.map _) hvs

/-! ## The books -/

/-- How many diagnostics were muffled. -/
def muffled (ds : List Decision) : Nat := ds.countP fun d => d.ruling.outcome = .suppressed

/-- The counters in closed form; nothing is deferred in a run over a stream. -/
theorem tally_eq (counts : Counts) (ds : List Decision) :
    tally counts ds =
      ⟨counts.suppressed + muffled ds, counts.forwarded + (forwarded ds).length,
        counts.deferred⟩ := by
  induction ds generalizing counts with
  | nil => rfl
  | cons d ds ih =>
    refine (ih (counts.add d.ruling.outcome)).trans ?_
    rcases d with ⟨d, _ | _ | s⟩ <;> simp [muffled, forwarded, Counts.add, Ruling.outcome] <;> omega

/-- A diagnostic is muffled or forwarded, and never both. -/
theorem muffled_add_forwarded (ds : List Decision) :
    muffled ds + (forwarded ds).length = ds.length := by
  induction ds with
  | nil => rfl
  | cons d ds ih =>
    rw [List.length_cons, ← ih]
    rcases d with ⟨d, _ | _ | s⟩ <;>
      simp [muffled, forwarded, Ruling.outcome, Nat.add_assoc, Nat.add_comm, Nat.add_left_comm]

/-- Counts added up. -/
def plus (c c' : Counts) : Counts :=
  ⟨c.suppressed + c'.suppressed, c.forwarded + c'.forwarded, c.deferred + c'.deferred⟩

/-- The counters of two streams add up. -/
theorem tally_plus (ds ds' : List Decision) :
    tally {} (ds ++ ds') = plus (tally {} ds) (tally {} ds') := by
  rw [tally_eq, tally_eq, tally_eq]
  simp [plus, muffled, forwarded]

/-- Whether it is the report of a pattern that is no pattern. -/
def Entry.isRefused : Entry → Bool
  | .refused .. => true
  | _ => false

/-- Whether it is a diagnostic that was forwarded. -/
def Entry.isPassed : Entry → Bool
  | .passed _ => true
  | _ => false

/-- Whether it is the report of a directive without effect. -/
def Entry.isUnused : Entry → Bool
  | .unused .. => true
  | _ => false

/-- Every entry of a transcript is of one of the three kinds. -/
theorem length_eq_kinds (xs : List Entry) :
    xs.length =
      xs.countP Entry.isPassed + xs.countP Entry.isRefused + xs.countP Entry.isUnused := by
  induction xs with
  | nil => rfl
  | cons x xs ih =>
    rw [List.length_cons, ih]
    cases x <;>
      simp [List.countP_cons, Entry.isPassed, Entry.isRefused, Entry.isUnused] <;> omega

theorem passed_entries (ep : Episode) (p : Policy) (used : List Nat) :
    (ep.entries p used).countP Entry.isPassed = (forwarded ep.decisions).length := by
  simp [Episode.entries, List.countP_map, Function.comp_def, Entry.isPassed]

/-- The entries that passed are the forwarded diagnostics, one each. -/
theorem passed_transcript (p : Policy) (used : List Nat) (eps : List Episode) :
    (transcript p used eps).countP Entry.isPassed = (forwarded (decisions eps)).length := by
  induction eps generalizing used with
  | nil => rfl
  | cons ep rest ih =>
    rw [transcript, List.countP_append, passed_entries, ih]
    simp [decisions, forwarded]

/-- The diagnostics that an entry of a stream records. -/
def diagnosticsOf (data : Value) : List Value :=
  (recordedItems data "diagnostics").toOption.getD []

theorem ruleAll_length {p : Policy} {g : Registry} {diagnostics : List Value}
    {ds : List Decision} (h : ruleAll p g diagnostics = .ok ds) :
    ds.length = diagnostics.length := by
  induction diagnostics generalizing ds with
  | nil =>
    cases h
    rfl
  | cons diagnostic rest ih =>
    obtain ⟨d, -, h⟩ := bind_eq_ok_iff.mp h
    obtain ⟨r, -, h⟩ := bind_eq_ok_iff.mp h
    obtain ⟨ds', hrest, h⟩ := bind_eq_ok_iff.mp h
    cases h
    rw [List.length_cons, List.length_cons, ih hrest]

/-- Every diagnostic of an entry is decided. -/
theorem play_length [Pattern.Compiler] {p : Policy} {stored : SourceUnit → Registry} {made : Nat}
    {data : Value} {ep : Episode} (h : play p stored made data = .ok ep) :
    ep.decisions.length = (diagnosticsOf data).length := by
  obtain ⟨path, -, h⟩ := bind_eq_ok_iff.mp h
  obtain ⟨directives, -, h⟩ := bind_eq_ok_iff.mp h
  obtain ⟨cg, -, h⟩ := bind_eq_ok_iff.mp h
  obtain ⟨diagnostics, hdiagnostics, h⟩ := bind_eq_ok_iff.mp h
  obtain ⟨ds, hds, h⟩ := bind_eq_ok_iff.mp h
  cases h
  rw [ruleAll_length hds, diagnosticsOf, hdiagnostics]
  rfl

/-- Every diagnostic of a stream is decided. -/
theorem episodes_length [Pattern.Compiler] {p : Policy} {stored : SourceUnit → Registry}
    {made : Nat}
    {units : List Value} {eps : List Episode} (h : episodes p stored made units = .ok eps) :
    (decisions eps).length = (units.map fun data => (diagnosticsOf data).length).sum := by
  induction units generalizing stored made eps with
  | nil =>
    cases h
    rfl
  | cons data rest ih =>
    obtain ⟨ep, hep, h⟩ := bind_eq_ok_iff.mp h
    obtain ⟨eps', hrest, h⟩ := bind_eq_ok_iff.mp h
    cases h
    rw [decisions, List.flatMap_cons, List.length_append, play_length hep, List.map_cons,
      List.sum_cons, ← ih hrest]
    rfl

/-- A run that is accepted has episodes, and its result is read off them. -/
theorem run_ok [Pattern.Compiler] {p : Policy} {units : List Value} {r : Result}
    (h : (run p (.list units)).1 = .ok r) :
    ∃ eps, episodesOf p units = .ok eps ∧ r = .ofEpisodes p eps := by
  rw [run_eq] at h
  cases heps : episodesOf p units with
  | error f =>
    rw [heps] at h
    cases h
  | ok eps =>
    rw [heps] at h
    cases h
    exact ⟨eps, rfl, rfl⟩

/-- Streams without a common unit run independently of each other, and the books of every stream
    balance. -/
theorem run_append_balances [Pattern.Compiler] (p : Policy) :
    (∀ (us vs : List Value) (r₁ r₂ : Result), (run p (.list us)).1 = .ok r₁ →
      (run p (.list vs)).1 = .ok r₂ → (∀ a ∈ us, ∀ b ∈ vs, unitOf? a ≠ unitOf? b) →
      (run p (.list (us ++ vs))).1 = .ok ⟨r₁.sink ++ r₂.sink, plus r₁.counts r₂.counts⟩) ∧
    ∀ (us : List Value) (r : Result), (run p (.list us)).1 = .ok r →
      r.counts.deferred = 0 ∧
      r.counts.suppressed + r.counts.forwarded = (us.map fun a => (diagnosticsOf a).length).sum ∧
      ∃ eps, episodesOf p us = .ok eps ∧ r.sink = (transcript p [] eps).map Entry.diagnostic ∧
        r.counts.forwarded = (transcript p [] eps).countP Entry.isPassed ∧
        r.sink.length = r.counts.forwarded + (transcript p [] eps).countP Entry.isRefused +
          (transcript p [] eps).countP Entry.isUnused := by
  refine ⟨fun us vs r₁ r₂ h₁ h₂ hapart => ?_, fun us r h => ?_⟩
  · obtain ⟨eps₁, heps₁, rfl⟩ := run_ok h₁
    obtain ⟨eps₂, heps₂, rfl⟩ := run_ok h₂
    obtain ⟨hchain, -⟩ := episodes_chain shelved_none heps₁
    -- what the first stream used has lower numbers than anything of the second
    have hlow := hchain.claims_lt
    rw [Nat.zero_add] at hlow
    rw [run_eq, episodesOf_append heps₁ heps₂ hapart]
    refine congrArg Except.ok ?_
    rw [Result.ofEpisodes, Result.mk.injEq]
    constructor
    · rw [transcript_append, List.nil_append, List.map_append]
      have hshift := transcript_shift hlow p [] eps₂
      rw [List.map_nil, List.append_nil] at hshift
      rw [hshift]
      rfl
    · rw [decisions, List.flatMap_append]
      show tally {} (decisions eps₁ ++ decisions _) = _
      rw [tally_plus, decisions_shift, tally_shift]
      rfl
  · obtain ⟨eps, heps, rfl⟩ := run_ok h
    have hcounts : tally {} (decisions eps) =
        ⟨muffled (decisions eps), (forwarded (decisions eps)).length, 0⟩ := by
      rw [tally_eq]
      simp
    have hpassed := passed_transcript p [] eps
    refine ⟨?_, ?_, eps, heps, rfl, ?_, ?_⟩
    · show (tally _ _).deferred = 0
      rw [hcounts]
    · show (tally _ _).suppressed + (tally _ _).forwarded = _
      rw [hcounts, ← episodes_length heps, ← muffled_add_forwarded]
    · show (tally _ _).forwarded = _
      rw [hcounts, hpassed]
    · show (List.map _ _).length = (tally _ _).forwarded + _ + _
      rw [List.length_map, length_eq_kinds, hpassed, hcounts]

/-- The second stream has a directive with a refused pattern and one without effect. -/
theorem run_append_balances_refused :
    let p : Policy :=
      { config := { deferUnregistered := .bool true, checkUnused := .bool true },
        workDir := Path.ofText "/" }
    let us : List Value :=
      [.ofFields
        [("path", .str "a.c"),
          ("directives", .list
            [.ofFields [("anchor", .int 0), ("start", .int 0), ("end", .int 10)]]),
          ("diagnostics", .list
            [.ofFields [("position", .int 5), ("message", .str "x")],
              .ofFields [("position", .int 50), ("message", .str "y")]])]]
    let vs : List Value :=
      [.ofFields
        [("path", .str "b.c"),
          ("directives", .list
            [.ofFields [("anchor", .int 3), ("start", .int 0), ("end", .int 10),
                ("pattern", .str "(")],
              .ofFields [("anchor", .int 4), ("start", .int 20), ("end", .int 30)]]),
          ("diagnostics", .list [.ofFields [("position", .int 5), ("message", .str "z")]])]]
    ∃ r₁ r₂, (run p (.list us)).1 = .ok r₁ ∧ (run p (.list vs)).1 = .ok r₂ ∧
      (∀ a ∈ us, ∀ b ∈ vs, unitOf? a ≠ unitOf? b) ∧
      (run p (.list (us ++ vs))).1 = .ok ⟨r₁.sink ++ r₂.sink, plus r₁.counts r₂.counts⟩ ∧
      r₁.counts = ⟨1, 1, 0⟩ ∧ r₂.counts = ⟨0, 1, 0⟩ ∧ r₂.sink.length = 3 := by
  intro p us vs
  obtain ⟨hdisjoint, -⟩ := run_append_balances p
  have hus : (run p (.list us)).1.toOption.map (·.counts) = some ⟨1, 1, 0⟩ := by decide +kernel
  have hvs : (run p (.list vs)).1.toOption.map (fun r => (r.counts, r.sink.length)) =
      some (⟨0, 1, 0⟩, 3) := by decide +kernel
  have hapart : ∀ a ∈ us, ∀ b ∈ vs, unitOf? a ≠ unitOf? b := by decide +kernel
  obtain ⟨r₁, h₁⟩ := exists_of_isOk (show (run p (.list us)).1.isOk = true by decide +kernel)
  obtain ⟨r₂, h₂⟩ := exists_of_isOk (show (run p (.list vs)).1.isOk = true by decide +kernel)
  rw [h₁] at hus
  rw [h₂] at hvs
  obtain ⟨hcounts, hlength⟩ := Prod.mk.inj (Option.some.inj hvs)
  exact ⟨r₁, r₂, h₁, h₂, hapart, hdisjoint us vs r₁ r₂ h₁ h₂ hapart, Option.some.inj hus, hcounts,
    hlength⟩

end Muffle.Stream
