/-
  Muffle.Text.Utf8

  Texts as bytes in UTF-8. A refusal names the first bytes that are no part of a text and what is
  wrong with them.
-/

import Muffle.Text.Quoted

namespace Muffle.Text

/-- What is wrong with bytes. -/
inductive Utf8Complaint where
  | startByte
  | continuationByte
  | endOfData
deriving DecidableEq, Repr

/-- The words for a complaint. -/
def Utf8Complaint.message : Utf8Complaint → String
  | .startByte => "invalid start byte"
  | .continuationByte => "invalid continuation byte"
  | .endOfData => "unexpected end of data"

/-- The bytes that are no part of a text: where they start, how many they are, and the first. -/
structure Utf8Refusal where
  complaint : Utf8Complaint
  start : Nat
  count : Nat
  first : Nat
deriving Repr

/-- The words for a refusal. -/
def Utf8Refusal.message (r : Utf8Refusal) : String :=
  let place :=
    if r.count = 1 then
      "byte 0x" ++ String.ofList (hexText 2 r.first) ++ " in position " ++ toString r.start
    else
      "bytes in position " ++ toString r.start ++ "-" ++ toString (r.start + r.count - 1)
  "'utf-8' codec can't decode " ++ place ++ ": " ++ r.complaint.message

/-- What a first byte announces: how many bytes follow, the bits that it carries, and the span of
    the byte right after it. -/
def utf8Lead? (b : Nat) : Option (Nat × Nat × Nat × Nat) :=
  if b < 0x80 then some (0, b, 0, 0)
  else if b < 0xc2 then none
  else if b < 0xe0 then some (1, b % 0x20, 0x80, 0xbf)
  else if b = 0xe0 then some (2, 0, 0xa0, 0xbf)
  else if b = 0xed then some (2, 0xd, 0x80, 0x9f)
  else if b < 0xf0 then some (2, b % 0x10, 0x80, 0xbf)
  else if b = 0xf0 then some (3, 0, 0x90, 0xbf)
  else if b < 0xf4 then some (3, b % 8, 0x80, 0xbf)
  else if b = 0xf4 then some (3, 4, 0x80, 0x8f)
  else none

/-- Reads the bytes that belong to a first one; `seen` counts those read. -/
def utf8Follow (value seen lo hi : Nat) :
    Nat → List UInt8 → Except (Utf8Complaint × Nat) (Nat × List UInt8)
  | 0, rest => .ok (value, rest)
  | _ + 1, [] => .error (.endOfData, seen)
  | n + 1, b :: rest =>
    if lo ≤ b.toNat ∧ b.toNat ≤ hi then
      utf8Follow (value * 0x40 + b.toNat % 0x40) (seen + 1) 0x80 0xbf n rest
    else .error (.continuationByte, seen)

theorem utf8Follow_length {value seen lo hi n v : Nat} {bs rest : List UInt8}
    (h : utf8Follow value seen lo hi n bs = .ok (v, rest)) : rest.length ≤ bs.length := by
  induction n generalizing value seen lo hi bs with
  | zero =>
    simp only [utf8Follow, Except.ok.injEq, Prod.mk.injEq] at h
    exact Nat.le_of_eq (by rw [h.2])
  | succ n ih =>
    cases bs with
    | nil => simp [utf8Follow] at h
    | cons b tail =>
      simp only [utf8Follow] at h
      split at h
      · exact Nat.le_trans (ih h) (Nat.le_succ _)
      · simp at h

/-- The text in bytes, of which `position` came before. -/
def utf8From (position : Nat) (bytes : List UInt8) : Except Utf8Refusal (List Char) :=
  match bytes with
  | [] => .ok []
  | b :: rest =>
    match utf8Lead? b.toNat with
    | none => .error ⟨.startByte, position, 1, b.toNat⟩
    | some (n, value, lo, hi) =>
      match h : utf8Follow value 1 lo hi n rest with
      | .error (complaint, seen) => .error ⟨complaint, position, seen, b.toNat⟩
      | .ok (v, tail) => do
        let cs ← utf8From (position + n + 1) tail
        return Char.ofNat v :: cs
termination_by bytes.length
decreasing_by exact Nat.lt_succ_of_le (utf8Follow_length h)

/-- The text in bytes. -/
def readUtf8 (bytes : List UInt8) : Except Utf8Refusal (List Char) := utf8From 0 bytes

/-- The bytes of a text. -/
def writeUtf8 (cs : List Char) : List UInt8 := cs.flatMap String.utf8EncodeChar

/-- A text with every line break written as a line feed. -/
def plainLines : List Char → List Char
  | [] => []
  | '\r' :: '\n' :: rest => '\n' :: plainLines rest
  | '\r' :: rest => '\n' :: plainLines rest
  | c :: rest => c :: plainLines rest

end Muffle.Text
