/-
  Muffle.Number.Shortest

  The decimal text of a binary number: the fewest significant digits that read back as the same
  number, and of several such decimals the nearest. A grid of decimals is tried for one, two, …
  seventeen digits; if it meets the interval of reals that round to the number, one of the two
  decimals next to the number does. All comparisons are exact, in natural numbers.
-/

import Muffle.Number.Binary64

namespace Muffle.Binary64

/-! ## The decimals that read back -/

/-- The reals that round to a number, and the number itself, as numerators over one denominator.
    The ends belong to the interval when `closed` holds. -/
structure Rounding where
  low : Nat
  value : Nat
  high : Nat
  den : Nat
  closed : Bool

/-- The interval of `mantissa * 2 ^ exponent`. Below a power of two the numbers lie twice as
    dense, so there the lower half of the interval is half as long. -/
def Rounding.of (mantissa : Nat) (exponent : Int) : Rounding :=
  let lowGap := if mantissa = mantissaLimit / 2 ∧ minExponent < exponent then 1 else 2
  let e := exponent - 2
  let up := Nat.pow 2 e.toNat
  { low := (4 * mantissa - lowGap) * up
    value := 4 * mantissa * up
    high := (4 * mantissa + 2) * up
    den := Nat.pow 2 (-e).toNat
    closed := mantissa % 2 = 0 }

/-- Whether `digits * 10 ^ power` lies in the interval. -/
def Rounding.holds (r : Rounding) (digits : Nat) (power : Int) : Bool :=
  let scaled := digits * Nat.pow 10 power.toNat * r.den
  let unit := Nat.pow 10 (-power).toNat
  if r.closed then r.low * unit ≤ scaled ∧ scaled ≤ r.high * unit
  else r.low * unit < scaled ∧ scaled < r.high * unit

/-- The power of ten of the first significant digit of `num / den`. -/
def leadingPower (num den : Nat) : Int :=
  if den ≤ num then (Nat.toDigits 10 (num / den)).length - 1
  else
    let zeros := (Nat.toDigits 10 (den / num)).length
    if den ≤ num * Nat.pow 10 (zeros - 1) then 1 - (zeros : Int) else -(zeros : Int)

/-- The decimal of the grid `10 ^ power` that reads back, if one of the two next to the number
    does: the nearer one, or the even one if they are equally near. -/
def Rounding.onGrid (r : Rounding) (power : Int) : Option Nat :=
  let num := r.value * Nat.pow 10 (-power).toNat
  let den := r.den * Nat.pow 10 power.toNat
  let below := num / den
  let twice := 2 * (num % den)
  match r.holds below power, r.holds (below + 1) power with
  | true, true =>
    some (if twice < den then below else if den < twice then below + 1 else below + below % 2)
  | true, false => some below
  | false, true => some (below + 1)
  | false, false => none

/-- Tries grids of more and more digits. -/
def Rounding.search (r : Rounding) (lead : Int) (count : Nat) : Nat → Nat × Int
  | 0 => (r.value, 0)
  | left + 1 =>
    let power := lead - count + 1
    match r.onGrid power with
    | some d => (d, power)
    | none => r.search lead (count + 1) left

/-- Digits and power of ten of the shortest decimal that reads back as
    `mantissa * 2 ^ exponent`. -/
def shortest (mantissa : Nat) (exponent : Int) : Nat × Int :=
  let r := Rounding.of mantissa exponent
  r.search (leadingPower r.value r.den) 1 17

/-! ## Layout -/

/-- How a decimal is laid out: between the two powers of its first digit it is written
    positionally, with at least one digit after the point; elsewhere with an exponent of at least
    two digits and a sign. -/
structure Layout where
  leastPositional : Int
  exponential : Int
  infinity : String
  nan : String

/-- Zeros to fill a place. -/
def zeros (n : Nat) : List Char := List.replicate n '0'

/-- The exponent of the exponential form. -/
def exponentText (e : Int) : List Char :=
  let ds := Nat.toDigits 10 e.natAbs
  'e' :: (if e < 0 then '-' else '+') :: (zeros (2 - ds.length) ++ ds)

/-- The text of the digits `ds` whose first stands at the power `lead`. -/
def Layout.digits (l : Layout) (ds : List Char) (lead : Int) : List Char :=
  if l.leastPositional ≤ lead ∧ lead < l.exponential then
    if lead < 0 then '0' :: '.' :: (zeros (-lead - 1).toNat ++ ds)
    else
      let whole := lead.toNat + 1
      let fraction := ds.drop whole
      ds.take whole ++ zeros (whole - ds.length) ++ '.' ::
        (if fraction.isEmpty then ['0'] else fraction)
  else
    let fraction := ds.drop 1
    ds.take 1 ++ (if fraction.isEmpty then [] else '.' :: fraction) ++ exponentText lead

/-- Significant digits without the zeros at their end. -/
def trimZeros (ds : List Char) : List Char :=
  (ds.reverse.dropWhile (· == '0')).reverse

/-- The text of a number. -/
def Layout.render (l : Layout) : Binary64 → String
  | .nan => l.nan
  | .infinity negative => (if negative then "-" else "") ++ l.infinity
  | .finite negative m e =>
    let body :=
      if m = 0 then ['0', '.', '0']
      else
        let (d, power) := shortest m e
        let ds := Nat.toDigits 10 d
        l.digits (trimZeros ds) (power + ds.length - 1)
    (if negative then "-" else "") ++ String.ofList body

end Muffle.Binary64
