/-
  Muffle.Proofs.Sameness

  When values are the same. Two numbers are the same exactly if they amount to the same, whatever
  form they have; so being the same carries over from value to value, through all containers, and
  every value is the same as itself.
-/

import Mathlib.Algebra.Field.Rat
import Mathlib.Algebra.GroupWithZero.Units.Basic
import Mathlib.Data.Rat.Cast.Defs
import Mathlib.Tactic.Ring
import Muffle.Value

namespace Muffle

/-! ## Numbers -/

/-- `a * 2 ^ e` as a quotient. -/
def scaled (a e : Int) : ℚ := a * 2 ^ e

theorem scaled_eq {a e g : Int} (h : g ≤ e) :
    scaled a e = (a * 2 ^ (e - g).toNat : Int) * 2 ^ g := by
  have hsum : e = ((e - g).toNat : Int) + g := by omega
  rw [scaled]
  conv_lhs => rw [hsum, zpow_add₀ two_ne_zero, zpow_natCast]
  push_cast
  ring

theorem Binary64.compareScaled_eq_iff (a ea b eb : Int) :
    compareScaled a ea b eb = .eq ↔ scaled a ea = scaled b eb := by
  -- both are multiples of the smaller one of the two powers
  rw [scaled_eq (min_le_left ea eb), scaled_eq (min_le_right ea eb),
    mul_left_inj' (zpow_ne_zero _ two_ne_zero), Int.cast_inj]
  exact compare_eq_iff_eq

/-- What a number amounts to: a quotient, an infinity, or nothing. -/
inductive Amount where
  | exact (q : ℚ)
  | infinite (negative : Bool)
  | nothing

namespace Value

/-- The amount of a number. -/
def Number.amount : Number → Amount
  | .int i => .exact (scaled i 0)
  | .float (.finite b m e) => .exact (scaled (Binary64.signed b m) e)
  | .float (.infinity b) => .infinite b
  | .float .nan => .nothing

/-- An integer is a number with the exponent 0. -/
theorem compareInt?_eq_iff (i : Int) (y : Binary64) :
    y.compareInt? i = some .eq ↔ (Number.int i).amount = (Number.float y).amount := by
  cases y with
  | finite b n f =>
    rw [Binary64.compareInt?, Option.some.injEq, Binary64.compareScaled_eq_iff]
    exact ⟨congrArg Amount.exact, Amount.exact.inj⟩
  | infinity b => cases b <;> simp [Binary64.compareInt?, Number.amount]
  | nan => simp [Binary64.compareInt?, Number.amount]

theorem compare?_eq_iff {x y : Binary64} (hx : x ≠ .nan) :
    x.compare? y = some .eq ↔ (Number.float x).amount = (Number.float y).amount := by
  cases x with
  | nan => exact absurd rfl hx
  | infinity a =>
    cases y with
    | infinity b => cases a <;> cases b <;> simp [Binary64.compare?, Number.amount]
    | _ => cases a <;> simp [Binary64.compare?, Number.amount]
  | finite a m e =>
    cases y with
    | finite b n f =>
      rw [Binary64.compare?, Option.some.injEq, Binary64.compareScaled_eq_iff]
      exact ⟨congrArg Amount.exact, Amount.exact.inj⟩
    | infinity b => cases b <;> simp [Binary64.compare?, Number.amount]
    | nan => simp [Binary64.compare?, Number.amount]

theorem Number.same_iff (m n : Number) : m.same n = true ↔ m.amount = n.amount := by
  -- an integer and a float are compared the same way in either order
  have hint (i : Int) (y : Binary64) : ((Number.int i).same (.float y) = true) ↔ _ :=
    beq_iff_eq.trans (compareInt?_eq_iff i y)
  cases m with
  | int i =>
    cases n with
    | int j =>
      show ((some (compare i j) == some Ordering.eq) = true) ↔ _
      rw [beq_iff_eq, Option.some.injEq, compare_eq_iff_eq]
      simp [amount, scaled]
    | float y => exact hint i y
  | float x =>
    cases n with
    | int j =>
      have hswap : (x.compareInt? j).map Ordering.swap = some .eq ↔ x.compareInt? j = some .eq := by
        cases x.compareInt? j <;> simp
      have hsame : (float x).same (int j) =
          ((x.compareInt? j).map Ordering.swap == some .eq) := by cases x <;> rfl
      rw [hsame, beq_iff_eq, hswap, compareInt?_eq_iff]
      exact eq_comm
    | float y =>
      cases x with
      | nan => cases y <;> simp [same, amount, compare?, Binary64.compare?]
      | _ => exact beq_iff_eq.trans (compare?_eq_iff Binary64.noConfusion)

/-! ## Values -/

/-- A number is the same only as a number of the same amount. -/
theorem same_of_number {a b : Value} {m : Number} (ha : a.number? = some m) :
    a.same b = true ↔ ∃ n, b.number? = some n ∧ m.amount = n.amount := by
  have hmatch : a.same b = true ↔ ∃ n, b.number? = some n ∧ m.same n = true := by
    cases a <;> cases ha <;> cases b <;> simp [same, number?]
  simp only [hmatch, Number.same_iff]

theorem same_trans_of_number {a b c : Value} {m : Number} (ha : a.number? = some m)
    (h : a.same b = true) (h' : b.same c = true) : a.same c = true := by
  obtain ⟨n, hn, hmn⟩ := (same_of_number ha).mp h
  obtain ⟨l, hl, hnl⟩ := (same_of_number hn).mp h'
  exact (same_of_number ha).mpr ⟨l, hl, hmn.trans hnl⟩

theorem entriesIn_iff {es fs : List (Value × Value)} :
    entriesIn es fs = true ↔
      ∀ e ∈ es, ∃ f ∈ fs, e.1.same f.1 = true ∧ e.2.same f.2 = true := by
  induction es with
  | nil => simp [entriesIn]
  | cons e es ih => simp [entriesIn, ih]

mutual

/-- Every value is the same as itself. -/
theorem same_refl : ∀ a : Value, a.same a = true
  | .null => rfl
  | .str s => beq_self_eq_true s
  | .tuple xs => sameItems_refl xs
  | .list xs => sameItems_refl xs
  | .map es => by
    rw [same, beq_self_eq_true, Bool.true_and, entriesIn_iff]
    exact fun e he => ⟨e, he, entries_refl es e he⟩
  | .leaf k s q => by simp [same]
  | .bool _ => (same_of_number rfl).mpr ⟨_, rfl, rfl⟩
  | .int _ => (same_of_number rfl).mpr ⟨_, rfl, rfl⟩
  | .float _ => (same_of_number rfl).mpr ⟨_, rfl, rfl⟩

theorem sameItems_refl : ∀ xs : List Value, sameItems xs xs = true
  | [] => rfl
  | x :: xs => by rw [sameItems, same_refl x, sameItems_refl xs, Bool.and_self]

theorem entries_refl :
    ∀ es : List (Value × Value), ∀ e ∈ es, e.1.same e.1 = true ∧ e.2.same e.2 = true
  | (k, v) :: es, e, he => by
    rcases List.mem_cons.mp he with rfl | he
    · exact ⟨same_refl k, same_refl v⟩
    · exact entries_refl es e he

end

mutual

/-- Values that are the same as one value are the same. -/
theorem same_trans : ∀ {a b c : Value}, a.same b = true → b.same c = true → a.same c = true
  | .null, b, c, h, h' => by
    cases b with
    | null => exact h'
    | _ => cases h
  | .str s, b, c, h, h' => by
    cases b with
    | str t => rwa [eq_of_beq h]
    | _ => cases h
  | .tuple xs, b, c, h, h' => by
    cases b with
    | tuple ys =>
      cases c with
      | tuple zs => exact sameItems_trans h h'
      | _ => cases h'
    | _ => cases h
  | .list xs, b, c, h, h' => by
    cases b with
    | list ys =>
      cases c with
      | list zs => exact sameItems_trans h h'
      | _ => cases h'
    | _ => cases h
  | .map es, b, c, h, h' => by
    cases b with
    | map fs =>
      cases c with
      | map gs =>
        simp only [same, Bool.and_eq_true, beq_iff_eq] at h h' ⊢
        exact ⟨h.1.trans h'.1, entriesIn_trans h.2 h'.2⟩
      | _ => cases h'
    | _ => cases h
  | .leaf k s q, b, c, h, h' => by
    cases b with
    | leaf l t r =>
      simp only [same, Bool.and_eq_true, beq_iff_eq] at h
      obtain ⟨rfl, rfl⟩ := h
      cases c with
      | leaf l t r' => exact h'
      | _ => cases h'
    | _ => cases h
  | .bool _, b, c, h, h' => same_trans_of_number rfl h h'
  | .int _, b, c, h, h' => same_trans_of_number rfl h h'
  | .float _, b, c, h, h' => same_trans_of_number rfl h h'

theorem sameItems_trans :
    ∀ {xs ys zs : List Value}, sameItems xs ys = true → sameItems ys zs = true →
      sameItems xs zs = true
  | [], [], zs, _, h' => h'
  | x :: xs, y :: ys, z :: zs, h, h' => by
    simp only [sameItems, Bool.and_eq_true] at h h' ⊢
    exact ⟨same_trans h.1 h'.1, sameItems_trans h.2 h'.2⟩

theorem entriesIn_trans :
    ∀ {es fs gs : List (Value × Value)}, entriesIn es fs = true → entriesIn fs gs = true →
      entriesIn es gs = true
  | [], fs, gs, _, _ => rfl
  | (k, v) :: es, fs, gs, h, h' => by
    simp only [entriesIn, Bool.and_eq_true, List.any_eq_true] at h ⊢
    obtain ⟨⟨f, hf, hk, hv⟩, hrest⟩ := h
    obtain ⟨g, hg, hfk, hfv⟩ := entriesIn_iff.mp h' f hf
    exact ⟨⟨g, hg, same_trans hk hfk, same_trans hv hfv⟩, entriesIn_trans hrest h'⟩

end

end Value

end Muffle
