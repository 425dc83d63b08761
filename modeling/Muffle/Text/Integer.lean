/-
  Muffle.Text.Integer

  Integers in texts: an optional sign, then decimal digits of any script, with single underscores
  between digits and blanks around the whole.
-/

import Muffle.Text.Alphanumeric
import Muffle.Text.Blank

namespace Muffle.Text

/-- Integers have at most this many decimal digits where they are read or written. -/
def digitLimit : Nat := 4300

/-- The value of a digit: a decimal digit of any script, or a Latin letter from ten on. -/
def digitValue? (c : Char) : Option Nat :=
  match decimalValue? c with
  | some d => some d
  | none =>
    if c.isAlpha then some (c.toLower.toNat - 'a'.toNat + 10) else none

/-- The number that digits write, given the value of those before; `afterDigit` tells whether the
    last character was a digit. -/
def digitsFrom (base : Nat) (value : Nat) (afterDigit : Bool) : List Char → Option Nat
  | [] => if afterDigit then some value else none
  | c :: rest =>
    if c = '_' then
      if afterDigit then digitsFrom base value false rest else none
    else
      match digitValue? c with
      | some d => if d < base then digitsFrom base (base * value + d) true rest else none
      | none => none

/-- The integer that a text writes in decimal digits. -/
def readInteger? (cs : List Char) : Option Int :=
  match strip cs with
  | '-' :: rest => (digitsFrom 10 0 false rest).map fun n => -(n : Int)
  | '+' :: rest => (digitsFrom 10 0 false rest).map fun n => (n : Int)
  | rest => (digitsFrom 10 0 false rest).map fun n => (n : Int)

end Muffle.Text
