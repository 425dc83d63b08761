/-
  Muffle.Proofs.Extent

  The positions that a range contains. The relations of ranges compare nothing but ends, yet they
  are those of the sets of positions of one kind: a range lies inside another one if all of its
  positions do, and two ranges overlap if they share one. No position has to lie strictly between
  two ends for this, since the ends themselves are positions of the kind.
-/

import Mathlib.Data.Set.Basic
import Muffle.Proofs.Ties

namespace Muffle.SourceRange

variable {k : OrderedKind} {r s t : SourceRange} {v : Value}

/-- The values of a kind that a range contains. -/
def extent (k : OrderedKind) (r : SourceRange) : Set Value :=
  {v | k.Has v ∧ r.contains v = .ok true}

/-- The positions of a range are those between its ends. -/
theorem HasEnds.mem_extent_iff (hr : r.HasEnds k) :
    v ∈ r.extent k ↔ k.Has v ∧ k.key r.start ≤ k.key v ∧ k.key v ≤ k.key r.stop := by
  refine and_congr_right fun hv => ?_
  rw [hr.contains_eq hv, Except.ok.injEq, decide_eq_true_iff]

/-- A value of the kind that is not contained is found not to be. -/
theorem HasEnds.contains_eq_false (hr : r.HasEnds k) (hv : k.Has v) (h : v ∉ r.extent k) :
    r.contains v = .ok false := by
  rw [hr.mem_extent_iff] at h
  rw [hr.contains_eq hv, decide_eq_false fun hkeys => h ⟨hv, hkeys⟩]

theorem Valid.start_mem_extent (hr : r.Valid k) : r.start ∈ r.extent k :=
  hr.mem_extent_iff.mpr ⟨hr.start, le_refl _, hr.start_le_stop⟩

theorem Valid.stop_mem_extent (hr : r.Valid k) : r.stop ∈ r.extent k :=
  hr.mem_extent_iff.mpr ⟨hr.stop, hr.start_le_stop, le_refl _⟩

/-! ## Relations -/

/-- A range that is not empty is included in another if both its ends are. -/
theorem HasEnds.extent_subset_iff (hr : r.HasEnds k) (hs : s.Valid k) :
    s.extent k ⊆ r.extent k ↔
      k.key r.start ≤ k.key s.start ∧ k.key s.stop ≤ k.key r.stop := by
  constructor
  · intro h
    exact ⟨(hr.mem_extent_iff.mp (h hs.start_mem_extent)).2.1,
      (hr.mem_extent_iff.mp (h hs.stop_mem_extent)).2.2⟩
  · rintro ⟨hstart, hstop⟩ v hv
    obtain ⟨hkind, hafter, hbefore⟩ := hs.mem_extent_iff.mp hv
    exact hr.mem_extent_iff.mpr ⟨hkind, hstart.trans hafter, hbefore.trans hstop⟩

/-- Ranges meet if each starts before the other stops. -/
theorem Valid.inter_nonempty_iff (hr : r.Valid k) (hs : s.Valid k) :
    (r.extent k ∩ s.extent k).Nonempty ↔
      k.key r.start ≤ k.key s.stop ∧ k.key s.start ≤ k.key r.stop := by
  constructor
  · rintro ⟨v, hvr, hvs⟩
    obtain ⟨-, hafter, hbefore⟩ := hr.mem_extent_iff.mp hvr
    obtain ⟨-, hafter', hbefore'⟩ := hs.mem_extent_iff.mp hvs
    exact ⟨hafter.trans hbefore', hafter'.trans hbefore⟩
  · -- the later one of the two starts lies in both
    rintro ⟨hrs, hsr⟩
    rcases le_total (k.key r.start) (k.key s.start) with h | h
    · exact ⟨s.start, hr.mem_extent_iff.mpr ⟨hs.start, h, hsr⟩, hs.start_mem_extent⟩
    · exact ⟨r.start, hr.start_mem_extent, hs.mem_extent_iff.mpr ⟨hr.start, h, hrs⟩⟩

theorem Valid.wraps_iff_subset (hr : r.Valid k) (hs : s.Valid k) :
    r.Wraps s ↔ s.extent k ⊆ r.extent k ∧ ¬r.extent k ⊆ s.extent k := by
  rw [hr.extent_subset_iff hs, hs.extent_subset_iff hr, hr.wraps_iff hs.toHasEnds]
  refine and_congr_right fun ⟨hstart, hstop⟩ => not_congr ?_
  -- of two keys in one order, the other order holds only if they are equal
  exact and_congr ⟨fun h => h.ge, fun h => le_antisymm hstart h⟩
    ⟨fun h => h.le, fun h => le_antisymm h hstop⟩

theorem HasEnds.strictlyEncloses_self (hr : r.HasEnds k) : r.strictlyEncloses r = .ok false := by
  have hself : ¬r.Wraps r := hr.not_wraps_self
  rw [Wraps, hr.strictlyEncloses_eq hr, Except.ok.injEq, Bool.not_eq_true] at hself
  rw [hr.strictlyEncloses_eq hr, hself]

/-- A range that does not enclose another one leaves out a position of it. -/
theorem Valid.exists_outside (hr : r.Valid k) (hs : s.Valid k) (h : r.encloses s = .ok false) :
    ∃ v, k.Has v ∧ s.contains v = .ok true ∧ r.contains v = .ok false := by
  rw [hr.encloses_eq hs.toHasEnds, Except.ok.injEq, decide_eq_false_iff_not,
    ← hr.extent_subset_iff hs] at h
  obtain ⟨v, hinside, houtside⟩ := Set.not_subset.mp h
  exact ⟨v, hinside.1, hinside.2, hr.contains_eq_false hinside.1 houtside⟩

/-- Between ranges of one kind every relation is decided, and as its name says: enclosure is
    inclusion of the positions, overlap is a common position, and strict enclosure is proper
    inclusion, so it is irreflexive and transitive. Each of two ranges that overlap without
    enclosing one another contains a position that the other one does not. -/
theorem relations_of_extents (hr : r.Valid k) (hs : s.Valid k) (ht : t.Valid k) :
    (∃ b, r.encloses s = .ok b ∧ (b = true ↔ s.extent k ⊆ r.extent k)) ∧
      (∃ b, r.overlaps s = .ok b ∧ (b = true ↔ (r.extent k ∩ s.extent k).Nonempty)) ∧
      (∃ b, r.strictlyEncloses s = .ok b ∧
        (b = true ↔ s.extent k ⊆ r.extent k ∧ ¬r.extent k ⊆ s.extent k)) ∧
      r.strictlyEncloses r = .ok false ∧
      (r.strictlyEncloses s = .ok true → s.strictlyEncloses t = .ok true →
        r.strictlyEncloses t = .ok true) ∧
      (r.overlaps s = .ok true → r.encloses s = .ok false → s.encloses r = .ok false →
        (∃ v, k.Has v ∧ r.contains v = .ok true ∧ s.contains v = .ok false) ∧
          ∃ v, k.Has v ∧ s.contains v = .ok true ∧ r.contains v = .ok false) := by
  have hstrict := hr.strictlyEncloses_eq hs.toHasEnds
  refine ⟨⟨_, hr.encloses_eq hs.toHasEnds, ?_⟩, ⟨_, hr.overlaps_eq hs.toHasEnds, ?_⟩,
    ⟨_, hstrict, ?_⟩, hr.strictlyEncloses_self, hr.wraps_trans hs.toHasEnds ht.toHasEnds,
    fun _ hrs hsr => ⟨hs.exists_outside hr hsr, hr.exists_outside hs hrs⟩⟩
  · rw [decide_eq_true_iff, hr.extent_subset_iff hs]
  · rw [decide_eq_true_iff, hr.inter_nonempty_iff hs]
  · rw [← hr.wraps_iff_subset hs, Wraps, hstrict, Except.ok.injEq]

/-- Two ranges that cross on a line, and one that lies inside the second. -/
theorem relations_of_extents_crossing :
    let place (line column : Int) : Value := .tuple [.int line, .int column]
    let k : OrderedKind := PositionKind.tuple.ordered
    let r : SourceRange := ⟨place 1 0, place 4 8⟩
    let s : SourceRange := ⟨place 4 2, place 6 0⟩
    let t : SourceRange := ⟨place 4 9, place 5 0⟩
    r.Valid k ∧ s.Valid k ∧ t.Valid k ∧ r.overlaps s = .ok true ∧ r.encloses s = .ok false ∧
      s.encloses r = .ok false ∧ (r.extent k ∩ s.extent k).Nonempty ∧
      (∃ v, k.Has v ∧ r.contains v = .ok true ∧ s.contains v = .ok false) ∧
      (∃ v, k.Has v ∧ s.contains v = .ok true ∧ r.contains v = .ok false) ∧
      s.strictlyEncloses t = .ok true ∧ s.strictlyEncloses s = .ok false := by
  intro place k r s t
  have hplace (line column : Int) : k.Has (place line column) := PositionKind.has_place line column
  have hr : r.Valid k := ⟨⟨hplace 1 0, hplace 4 8⟩, rfl⟩
  have hs : s.Valid k := ⟨⟨hplace 4 2, hplace 6 0⟩, rfl⟩
  have ht : t.Valid k := ⟨⟨hplace 4 9, hplace 5 0⟩, rfl⟩
  obtain ⟨-, ⟨b, hoverlaps, hcommon⟩, -, -, -, hcross⟩ := relations_of_extents hr hs ht
  obtain ⟨-, -, -, hirrefl, -, -⟩ := relations_of_extents hs ht hr
  obtain ⟨hleft, hright⟩ := hcross rfl rfl rfl
  exact ⟨hr, hs, ht, rfl, rfl, rfl, hcommon.mp (Except.ok.inj hoverlaps).symm, hleft, hright, rfl,
    hirrefl⟩

end Muffle.SourceRange
