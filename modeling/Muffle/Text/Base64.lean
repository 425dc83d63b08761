/-
  Muffle.Text.Base64

  Bytes written in base 64. Characters outside the alphabet are skipped; the padding has to fill
  the last group of four.
-/

import Muffle.Text.Quoted

namespace Muffle.Text

/-- The value of a character of the alphabet. -/
def base64Value? (c : Char) : Option Nat :=
  if 'A' ≤ c ∧ c ≤ 'Z' then some (c.toNat - 'A'.toNat)
  else if 'a' ≤ c ∧ c ≤ 'z' then some (c.toNat - 'a'.toNat + 26)
  else if c.isDigit then some (c.toNat - '0'.toNat + 52)
  else if c = '+' then some 62
  else if c = '/' then some 63
  else none

/-- Reads on: `group` holds the values of the open group, `pads` counts its padding. Text after a
    full padding is not looked at. -/
def base64From (group : List Nat) (pads : Nat) : List Char → Option (List UInt8)
  | [] => if group.isEmpty then some [] else none
  | c :: rest =>
    if c = '=' then
      if group.length < 2 then base64From group pads rest
      else if group.length + pads + 1 < 4 then base64From group (pads + 1) rest
      else some (closeGroup group)
    else
      match base64Value? c with
      | none => base64From group pads rest
      | some v =>
        if group.length = 3 then do
          return closeGroup (group ++ [v]) ++ (← base64From [] 0 rest)
        else base64From (group ++ [v]) 0 rest
where
  /-- The bytes of a group of two to four values. -/
  closeGroup (group : List Nat) : List UInt8 :=
    let n := (group ++ List.replicate (4 - group.length) 0).foldl (fun n v => 64 * n + v) 0
    [(n / 0x10000).toUInt8, (n / 0x100 % 0x100).toUInt8, (n % 0x100).toUInt8].take
      (group.length - 1)

/-- The bytes that a text writes. -/
def readBase64 (cs : List Char) : Option (List UInt8) := base64From [] 0 cs

/-- A byte inside quotes. -/
def quotedByte (quote : Char) (b : UInt8) : List Char :=
  let c := Char.ofNat b.toNat
  if 0x7e < b.toNat then '\\' :: 'x' :: hexText 2 b.toNat else quotedChar quote c

/-- Bytes in quotes, with a mark that they are no text. -/
def quotedBytes (bytes : List UInt8) : String :=
  let q := quoteFor (bytes.map fun b => Char.ofNat b.toNat)
  String.ofList ('b' :: q :: bytes.flatMap (quotedByte q) ++ [q])

end Muffle.Text
