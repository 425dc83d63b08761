/-
  Muffle.Json.Decoder

  Decoders of JSON. The program relies on a decoder for what a text means, and has to cope with
  every way in which it can fail; so everything that reads a stream is written for any decoder, and
  the program runs with the standard one.
-/

import Muffle.Fault

namespace Muffle.Json

/-- What a reader missed or found. -/
inductive Complaint where
  | byteOrderMark
  | value
  | extraData
  | propertyName
  | colon
  | comma
  | controlCharacter
  | unterminatedText
  | badEscape
  | badUnicodeEscape
deriving DecidableEq, Repr

/-- The words for a complaint. -/
def Complaint.message : Complaint → String
  | .byteOrderMark => "Unexpected UTF-8 BOM (decode using utf-8-sig)"
  | .value => "Expecting value"
  | .extraData => "Extra data"
  | .propertyName => "Expecting property name enclosed in double quotes"
  | .colon => "Expecting ':' delimiter"
  | .comma => "Expecting ',' delimiter"
  | .controlCharacter => "Invalid control character at"
  | .unterminatedText => "Unterminated string starting at"
  | .badEscape => "Invalid \\escape"
  | .badUnicodeEscape => "Invalid \\uXXXX escape"

/-- Why a text is not read. -/
inductive Refusal where
  /-- The text is no JSON from the place with `left` characters before the end. -/
  | malformed (complaint : Complaint) (left : Nat)
  /-- The text holds an integer of too many digits. -/
  | tooManyDigits (count : Nat)
  /-- The text names one half of a character that is written as two. -/
  | unpaired
  /-- The decoder gave up, as on values that go too deep for it. -/
  | failed (fault : Foreign)
deriving DecidableEq, Repr

/-- The complaint with the place in the whole text. -/
def Complaint.located (c : Complaint) (whole : List Char) (left : Nat) : String :=
  let offset := whole.length - left
  let before := whole.take offset
  let column := (before.reverse.takeWhile (· != '\n')).length + 1
  c.message ++ ": line " ++ toString (before.count '\n' + 1) ++ " column " ++ toString column ++
    " (char " ++ toString offset ++ ")"

/-- A decoder of JSON. The integers in what it decodes have at most as many digits as can be
    written, and nothing in it goes deeper than the program can follow. -/
class Decoder where
  decode : List Char → Except Refusal Value

end Muffle.Json
