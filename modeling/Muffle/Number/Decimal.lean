/-
  Muffle.Number.Decimal

  Binary numbers in texts: decimal digits of any script with a point and an exponent, or a word
  for an infinity or for no number, with an optional sign and blanks around the whole.
-/

import Muffle.Number.Binary64
import Muffle.Text.Alphanumeric
import Muffle.Text.Blank
import Muffle.Text.Case

namespace Muffle.Binary64

/-- The values of the digits at the start of a text, and the rest. -/
def digitsOf : List Char → List Nat × List Char
  | [] => ([], [])
  | c :: rest =>
    match Text.decimalValue? c with
    | some d =>
      let (ds, left) := digitsOf rest
      (d :: ds, left)
    | none => ([], c :: rest)

/-- The number that digits write. -/
def digitsValue (ds : List Nat) : Nat := ds.foldl (fun n d => 10 * n + d) 0

/-- Reads an exponent to the end of the text. -/
def exponent? : List Char → Option Int
  | [] => some 0
  | e :: rest =>
    if e = 'e' ∨ e = 'E' then
      let (negative, rest) := match rest with
        | '-' :: rest => (true, rest)
        | '+' :: rest => (false, rest)
        | rest => (false, rest)
      match digitsOf rest with
      | ([], _) => none
      | (ds, []) => some (if negative then -(digitsValue ds : Int) else digitsValue ds)
      | _ => none
    else none

/-- Reads digits with an optional point and exponent to the end of the text. -/
def ofDigits? (negative : Bool) (cs : List Char) : Option Binary64 := do
  let (whole, rest) := digitsOf cs
  let (fraction, rest) := match rest with
    | '.' :: rest => digitsOf rest
    | rest => ([], rest)
  let e ← exponent? rest
  if whole.isEmpty && fraction.isEmpty then none
  else some (ofDecimal negative (digitsValue (whole ++ fraction)) (e - fraction.length))

/-- Reads a number without its sign. -/
def ofUnsigned? (negative : Bool) (cs : List Char) : Option Binary64 :=
  let word := Text.lower cs
  if word = "inf".toList ∨ word = "infinity".toList then some (.infinity negative)
  else if word = "nan".toList then some .nan
  else ofDigits? negative cs

/-- The number that a text writes. -/
def ofText? (cs : List Char) : Option Binary64 :=
  match Text.strip cs with
  | '-' :: rest => ofUnsigned? true rest
  | '+' :: rest => ofUnsigned? false rest
  | rest => ofUnsigned? false rest

end Muffle.Binary64
