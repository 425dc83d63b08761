/-
  Muffle.Proofs.Identical

  Values with the same parts, as a test. Numbers that amount to the same are the same to the
  program (`Value.same`), but not identical: what a host gets back is compared part by part here.
-/

import Muffle.Diagnostic

namespace Muffle

namespace Value

mutual

/-- Whether two values have the same parts. -/
def identical : Value → Value → Bool
  | .null, .null => true
  | .bool a, .bool b => a == b
  | .int i, .int j => i == j
  | .float x, .float y => x == y
  | .str s, .str t => s == t
  | .tuple xs, .tuple ys => identicalItems xs ys
  | .list xs, .list ys => identicalItems xs ys
  | .map es, .map fs => identicalEntries es fs
  | .leaf k s q, .leaf l t r => k == l && s == t && q == r
  | _, _ => false

def identicalItems : List Value → List Value → Bool
  | [], [] => true
  | x :: xs, y :: ys => identical x y && identicalItems xs ys
  | _, _ => false

def identicalEntries : List (Value × Value) → List (Value × Value) → Bool
  | [], [] => true
  | (k, v) :: es, (l, w) :: fs => identical k l && identical v w && identicalEntries es fs
  | _, _ => false

end

mutual

theorem identical_iff : ∀ a b : Value, identical a b = true ↔ a = b
  | .null, b => by cases b <;> simp [identical]
  | .bool _, b => by cases b <;> simp [identical]
  | .int _, b => by cases b <;> simp [identical]
  | .float _, b => by cases b <;> simp [identical]
  | .str _, b => by cases b <;> simp [identical]
  | .tuple xs, b => by cases b <;> simp [identical, identicalItems_iff xs]
  | .list xs, b => by cases b <;> simp [identical, identicalItems_iff xs]
  | .map es, b => by cases b <;> simp [identical, identicalEntries_iff es]
  | .leaf .., b => by cases b <;> simp [identical, and_assoc]

theorem identicalItems_iff : ∀ xs ys : List Value, identicalItems xs ys = true ↔ xs = ys
  | [], ys => by cases ys <;> simp [identicalItems]
  | x :: xs, ys => by
    cases ys <;> simp [identicalItems, identical_iff x, identicalItems_iff xs]

theorem identicalEntries_iff :
    ∀ es fs : List (Value × Value), identicalEntries es fs = true ↔ es = fs
  | [], fs => by cases fs <;> simp [identicalEntries]
  | (k, v) :: es, fs => by
    cases fs <;>
      simp [identicalEntries, identical_iff k, identical_iff v, identicalEntries_iff es,
        Prod.ext_iff]

end

instance : DecidableEq Value := fun a b => decidable_of_iff _ (identical_iff a b)

end Value

deriving instance DecidableEq for Diagnostic

end Muffle
