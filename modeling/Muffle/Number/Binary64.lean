/-
  Muffle.Number.Binary64

  Binary floating-point numbers of 64 bits, as exact data: a sign, a mantissa and a power of two.
  Results that are not exact are rounded to the nearest number, ties to the even mantissa.
  Comparison is exact, also with integers, and a NaN compares with nothing.
-/

namespace Muffle

/-- A number `± mantissa * 2 ^ exponent`, an infinity, or no number. -/
inductive Binary64 where
  | finite (negative : Bool) (mantissa : Nat) (exponent : Int)
  | infinity (negative : Bool)
  | nan
deriving DecidableEq, Repr, Inhabited

namespace Binary64

/-- Mantissas have at most 53 binary digits. -/
def mantissaLimit : Nat := Nat.pow 2 53

/-- The least exponent. -/
def minExponent : Int := -1074

/-- The greatest exponent. -/
def maxExponent : Int := 971

/-- Zero with a sign. -/
def zero (negative : Bool) : Binary64 := .finite negative 0 minExponent

/-! ## Rounding -/

/-- The integer nearest to `num / den`; of two, the even one. -/
def nearestEven (num den : Nat) : Nat :=
  let q := num / den
  let twice := 2 * (num % den)
  if twice < den then q
  else if den < twice then q + 1
  else q + q % 2

/-- `num / den` divided by `2 ^ e`, as a pair of numerator and denominator. -/
def scaleDown (num den : Nat) (e : Int) : Nat × Nat :=
  if 0 ≤ e then (num, den * Nat.pow 2 e.toNat) else (num * Nat.pow 2 (-e).toNat, den)

/-- The exponent that leaves 53 binary digits before the point of `num / den`, but no less than
    the least one. -/
def exponentFor (num den : Nat) : Int :=
  let e : Int := (Nat.log2 num : Int) - Nat.log2 den - 52
  let (n, d) := scaleDown num den e
  let e := if n / d < mantissaLimit / 2 then e - 1 else e
  max e minExponent

/-- The number nearest to the positive quotient `num / den`. -/
def ofQuotient (negative : Bool) (num den : Nat) : Binary64 :=
  let e := exponentFor num den
  let (n, d) := scaleDown num den e
  let m := nearestEven n d
  let (m, e) := if m = mantissaLimit then (mantissaLimit / 2, e + 1) else (m, e)
  if maxExponent < e then .infinity negative else .finite negative m e

/-- The number nearest to `digits * 10 ^ power`. Decimals far outside the range are decided by
    their size, so that no huge power is computed. -/
def ofDecimal (negative : Bool) (digits : Nat) (power : Int) : Binary64 :=
  if digits = 0 then zero negative
  else
    let size : Int := (Nat.toDigits 10 digits).length + power
    if 310 < size then .infinity negative
    else if size < -330 then zero negative
    else if 0 ≤ power then ofQuotient negative (digits * Nat.pow 10 power.toNat) 1
    else ofQuotient negative digits (Nat.pow 10 (-power).toNat)

/-- The number nearest to an integer. -/
def ofInt (i : Int) : Binary64 :=
  ofDecimal (i < 0) i.natAbs 0

/-! ## Arithmetic -/

/-- The mantissa with its sign. -/
def signed (negative : Bool) (mantissa : Nat) : Int :=
  if negative then -mantissa else mantissa

/-- The number nearest to `i * 2 ^ e`; zero has the sign `negative`. -/
def ofScaled (negative : Bool) (i : Int) (e : Int) : Binary64 :=
  if i = 0 then zero negative
  else if 0 ≤ e then ofQuotient (i < 0) (i.natAbs * Nat.pow 2 e.toNat) 1
  else ofQuotient (i < 0) i.natAbs (Nat.pow 2 (-e).toNat)

/-- The number with the other sign. -/
def neg : Binary64 → Binary64
  | .finite a m e => .finite (!a) m e
  | .infinity a => .infinity (!a)
  | .nan => .nan

/-- The sum of two numbers, rounded. -/
def add : Binary64 → Binary64 → Binary64
  | .finite a m e, .finite b n f =>
    let g := min e f
    let x := signed a m * Int.pow 2 (e - g).toNat
    let y := signed b n * Int.pow 2 (f - g).toNat
    ofScaled (a && b) (x + y) g
  | .infinity a, .infinity b => if a = b then .infinity a else .nan
  | .infinity a, .finite .. => .infinity a
  | .finite .., .infinity b => .infinity b
  | _, _ => .nan

/-- The product of two numbers, rounded. -/
def mul : Binary64 → Binary64 → Binary64
  | .finite a m e, .finite b n f => ofScaled (a != b) (signed a m * signed b n) (e + f)
  | .infinity a, .infinity b => .infinity (a != b)
  | .infinity a, .finite b n _ => if n = 0 then .nan else .infinity (a != b)
  | .finite a m _, .infinity b => if m = 0 then .nan else .infinity (a != b)
  | _, _ => .nan

/-! ## Order -/

/-- The order of `a * 2 ^ ea` and `b * 2 ^ eb`. -/
def compareScaled (a ea b eb : Int) : Ordering :=
  let e := min ea eb
  compare (a * Int.pow 2 (ea - e).toNat) (b * Int.pow 2 (eb - e).toNat)

/-- The order of two numbers; none if one of them is no number. -/
def compare? : Binary64 → Binary64 → Option Ordering
  | .nan, _ => none
  | _, .nan => none
  | .infinity a, .infinity b => some (compare b a)
  | .infinity a, .finite .. => some (if a then .lt else .gt)
  | .finite .., .infinity b => some (if b then .gt else .lt)
  | .finite a m e, .finite b n f => some (compareScaled (signed a m) e (signed b n) f)

/-- The order of an integer and a number; none if the second is no number. -/
def compareInt? (i : Int) : Binary64 → Option Ordering
  | .nan => none
  | .infinity b => some (if b then .gt else .lt)
  | .finite b n f => some (compareScaled i 0 (signed b n) f)

/-- Whether the number is zero, of either sign. -/
def isZero : Binary64 → Bool
  | .finite _ m _ => m == 0
  | _ => false

end Binary64

end Muffle
