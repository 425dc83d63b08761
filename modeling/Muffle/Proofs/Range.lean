/-
  Muffle.Proofs.Range

  What the relations between ranges say once all ends are positions of one kind: each of them
  gives an answer, and the answer is a statement about coordinates. Strict enclosure is a strict
  order, which is what the stored order of directives rests on.
-/

import Muffle.SourceRange
import Muffle.Proofs.Except
import Muffle.Proofs.Position

namespace Muffle.SourceRange

/-! ## The relations as statements about coordinates -/

/-- Whether both ends of a range are positions of a kind. -/
def OfKind (r : SourceRange) (k : PositionKind) : Prop := k.Has r.start ∧ k.Has r.stop

/-- The coordinates of the two ends. -/
def endpoints (r : SourceRange) : Coordinates × Coordinates :=
  (r.start.coordinates, r.stop.coordinates)

/-- A position lies in a range; an absent one lies in none. -/
def Covers (r : SourceRange) (v : Value) : Prop :=
  v.kind ≠ .null ∧ r.start.coordinates ≤ v.coordinates ∧ v.coordinates ≤ r.stop.coordinates

/-- The second range lies inside the first. -/
def Encloses (r s : SourceRange) : Prop :=
  r.start.coordinates ≤ s.start.coordinates ∧ s.stop.coordinates ≤ r.stop.coordinates

/-- The second range lies inside the first and is another range. -/
def StrictlyEncloses (r s : SourceRange) : Prop := r.Encloses s ∧ r.endpoints ≠ s.endpoints

/-- Some position may lie in both ranges. -/
def Overlaps (r s : SourceRange) : Prop :=
  r.start.coordinates ≤ s.stop.coordinates ∧ s.start.coordinates ≤ r.stop.coordinates

instance (r : SourceRange) (v : Value) : Decidable (r.Covers v) :=
  inferInstanceAs (Decidable (_ ∧ _ ∧ _))

instance (r s : SourceRange) : Decidable (r.Encloses s) := inferInstanceAs (Decidable (_ ∧ _))

instance (r s : SourceRange) : Decidable (r.StrictlyEncloses s) :=
  inferInstanceAs (Decidable (_ ∧ _))

instance (r s : SourceRange) : Decidable (r.Overlaps s) := inferInstanceAs (Decidable (_ ∧ _))

/-! ## The text of a range -/

theorem exists_written {r : SourceRange} (h : r.isWritable = true) : ∃ s, r.written = .ok s := by
  obtain ⟨hstart, hstop⟩ := Bool.and_eq_true_iff.mp h
  exact ⟨"[" ++ r.start.text ++ ", " ++ r.stop.text ++ "]", by
    rw [written, Value.written, Value.written, if_pos hstart, if_pos hstop]
    rfl⟩

/-- A range with a bound that cannot be written fails with the failure for too many digits. -/
theorem written_eq_error {r : SourceRange} (h : r.isWritable = false) :
    r.written = .error (.tooManyDigits 0) := by
  rw [written, Value.written, Value.written]
  cases hstart : r.start.isWritable with
  | false => rfl
  | true =>
    have hstop : r.stop.isWritable = false := by rwa [isWritable, hstart, Bool.true_and] at h
    rw [hstop]
    rfl

/-! ## The computed relations -/

variable {k : PositionKind} {r s t : SourceRange} {v : Value}

/-- A position is asked about both ends, the stop only after the start. -/
theorem contains_of_ne_null (hv : v.kind ≠ .null) :
    r.contains v = (do if ← r.start.lessEq v then v.lessEq r.stop else return false) := by
  cases v <;> first | rfl | contradiction

/-- In one kind the check succeeds, and says whether the range covers the position. -/
theorem contains_eq (hr : r.OfKind k) (hv : k.HasOrNull v) :
    r.contains v = .ok (decide (r.Covers v)) := by
  rcases hv with rfl | hv
  · simp [contains, Covers, Value.kind]
  · have hkind : v.kind ≠ .null := hv.kind_ne_null
    -- the second comparison is made only if the first holds
    rw [contains_of_ne_null hkind, hr.1.lessEq_eq hv, hv.lessEq_eq hr.2]
    by_cases h : r.start.coordinates ≤ v.coordinates <;>
      simp [Covers, hkind, h]

/-- In one kind this is the order of both ends. -/
theorem encloses_eq (hr : r.OfKind k) (hs : s.OfKind k) :
    r.encloses s = .ok (decide (r.Encloses s)) := by
  rw [encloses, hr.1.lessEq_eq hs.1, hs.2.lessEq_eq hr.2]
  by_cases h : r.start.coordinates ≤ s.start.coordinates <;>
    simp [Encloses, h]

theorem overlaps_eq (hr : r.OfKind k) (hs : s.OfKind k) :
    r.overlaps s = .ok (decide (r.Overlaps s)) := by
  rw [overlaps, hr.1.lessEq_eq hs.2, hs.1.lessEq_eq hr.2]
  by_cases h : r.start.coordinates ≤ s.stop.coordinates <;>
    simp [Overlaps, h]

theorem same_eq (hr : r.OfKind k) (hs : s.OfKind k) :
    r.same s = decide (r.endpoints = s.endpoints) := by
  rw [same, hr.1.same_eq hs.1, hr.2.same_eq hs.2]
  simp [endpoints]

/-- To enclose strictly is to enclose and to be another range. -/
theorem strictlyEncloses_eq (hr : r.OfKind k) (hs : s.OfKind k) :
    r.strictlyEncloses s = .ok (decide (r.StrictlyEncloses s)) := by
  rw [strictlyEncloses, encloses_eq hr hs, same_eq hr hs]
  refine congrArg Except.ok ?_
  rw [Bool.eq_iff_iff, decide_eq_true_iff]
  simp [StrictlyEncloses]

/-! ## Kinds that met -/

/-- Two ranges that were compared are of one kind. -/
theorem kind_eq_of_strictlyEncloses {l : PositionKind} {b : Bool} (hr : r.OfKind k)
    (hs : s.OfKind l) (h : r.strictlyEncloses s = .ok b) : k = l := by
  obtain ⟨_, hencloses, -⟩ := bind_eq_ok_iff.mp h
  obtain ⟨_, hstart, -⟩ := bind_eq_ok_iff.mp hencloses
  exact hr.1.kind_eq hs.1 hstart

/-- A position that was looked for in a range is of its kind. -/
theorem hasOrNull_of_contains {l : PositionKind} {b : Bool} (hr : r.OfKind k)
    (hv : l.HasOrNull v) (h : r.contains v = .ok b) : k.HasOrNull v := by
  rcases hv with rfl | hv
  · exact .inl rfl
  · rw [contains_of_ne_null hv.kind_ne_null] at h
    obtain ⟨_, hstart, -⟩ := bind_eq_ok_iff.mp h
    obtain rfl := hr.1.kind_eq hv hstart
    exact .inr hv

/-! ## Enclosure is an order -/

theorem Encloses.refl (r : SourceRange) : r.Encloses r := ⟨le_refl _, le_refl _⟩

theorem Encloses.trans (h : r.Encloses s) (h' : s.Encloses t) : r.Encloses t :=
  ⟨h.1.trans h'.1, h'.2.trans h.2⟩

/-- Ranges that enclose each other have the same ends. -/
theorem Encloses.antisymm (h : r.Encloses s) (h' : s.Encloses r) : r.endpoints = s.endpoints :=
  Prod.ext (le_antisymm h.1 h'.1) (le_antisymm h'.2 h.2)

theorem StrictlyEncloses.irrefl (r : SourceRange) : ¬ r.StrictlyEncloses r := fun h => h.2 rfl

theorem StrictlyEncloses.trans (h : r.StrictlyEncloses s) (h' : s.StrictlyEncloses t) :
    r.StrictlyEncloses t := by
  refine ⟨h.1.trans h'.1, fun heq => h'.2 ?_⟩
  -- If the outermost and the innermost range had the same ends, so would the one between them.
  have hback : t.Encloses r :=
    ⟨(congrArg Prod.fst heq).ge, (congrArg Prod.snd heq).le⟩
  exact h'.1.antisymm (hback.trans h.1)

theorem StrictlyEncloses.asymm (h : r.StrictlyEncloses s) : ¬ s.StrictlyEncloses r :=
  fun h' => StrictlyEncloses.irrefl r (h.trans h')

end Muffle.SourceRange
