/-
  Muffle.Yaml.QuotedScalar

  Scalars in quotes. Between single quotes a quote is written twice; between double quotes a
  backslash starts an escape. Lines are joined as in plain scalars; a backslash at the end of a
  line joins it to the next one without a space.
-/

import Muffle.Text.RangeTable
import Muffle.Yaml.Text

namespace Muffle.Yaml

/-- The character that an escape of one letter stands for. -/
def escaped? : Char → Option Char
  | '0' => some '\x00'
  | 'a' => some '\x07'
  | 'b' => some '\x08'
  | 't' => some '\t'
  | '\t' => some '\t'
  | 'n' => some '\n'
  | 'v' => some '\x0b'
  | 'f' => some '\x0c'
  | 'r' => some '\r'
  | 'e' => some '\x1b'
  | ' ' => some ' '
  | '"' => some '"'
  | '\\' => some '\\'
  | '/' => some '/'
  | 'N' => some '\u0085'
  | '_' => some '\u00a0'
  | 'L' => some '\u2028'
  | 'P' => some '\u2029'
  | _ => none

/-- How many hexadecimal digits an escape by number has. -/
def codeLength? : Char → Option Nat
  | 'x' => some 2
  | 'u' => some 4
  | 'U' => some 8
  | _ => none

/-- The character with a number; half of a pair is none. -/
def numbered (n : Nat) : Except Refusal Char :=
  if 0x7fffffff < n then .error (.fault .charTooLarge)
  else if 0x10ffff < n then .error (.fault .notACharacter)
  else if 0xd800 ≤ n ∧ n ≤ 0xdfff then .error (.fault .unpairedHalf)
  else .ok (Char.ofNat n)

/-- Where the reader of a scalar in quotes is. -/
inductive QuotedMode where
  | text
  /-- After gaps, given in reverse. -/
  | gaps (pending : List Char)
  /-- After line breaks, the first of them absent if it was escaped; `fresh` at a line start. -/
  | lines (first : Option Char) (more : List Char) (fresh : Bool)
  | escape
  /-- In the digits of an escape by number, of which `left + 1` are missing. -/
  | code (left value : Nat)
  /-- After a single quote. -/
  | quote

/-- What one character does: the reader goes on in another place, or the scalar ended before the
    character or with it. In `acc` is the text up to there, in reverse. -/
inductive QuotedStep where
  | go (mode : QuotedMode) (acc : List Char)
  | endBefore (acc : List Char)
  | endWith (acc : List Char)

/-- The effect of a character inside the text. -/
def quotedText (double : Bool) (acc : List Char) (c : Char) : QuotedStep :=
  if c = (if double then '"' else '\'') then
    (if double then .endWith acc else .go .quote acc)
  else if isGap c then .go (.gaps [c]) acc
  else if isBreak c then .go (.lines (some (breakMeaning c)) [] true) acc
  else if double ∧ c = '\\' then .go .escape acc
  else .go .text (c :: acc)

/-- The effect of a character after a backslash. -/
def quotedEscape (acc : List Char) (c : Char) : Except Refusal QuotedStep :=
  match escaped? c with
  | some d => .ok (.go .text (d :: acc))
  | none =>
    match codeLength? c with
    | some n => .ok (.go (.code (n - 1) 0) acc)
    | none => if isBreak c then .ok (.go (.lines none [] true) acc) else .error .malformed

/-- What line breaks mean, in reverse. -/
def joinLines (first : Option Char) (more : List Char) : List Char :=
  match first with
  | none => more.reverse
  | some f => (foldBreaks f more).reverse

/-- The effect of a character. -/
def quotedStep (double : Bool) (mode : QuotedMode) (acc : List Char) (c : Char) :
    Except Refusal QuotedStep :=
  match mode with
  | .text => .ok (quotedText double acc c)
  | .gaps pending =>
    if isGap c then .ok (.go (.gaps (c :: pending)) acc)
    else if isBreak c then .ok (.go (.lines (some (breakMeaning c)) [] true) acc)
    else .ok (quotedText double (pending ++ acc) c)
  | .lines first more _ =>
    if isGap c then .ok (.go (.lines first more false) acc)
    else if isBreak c then .ok (.go (.lines first (more ++ [breakMeaning c]) true) acc)
    else .ok (quotedText double (joinLines first more ++ acc) c)
  | .escape => quotedEscape acc c
  | .code left value =>
    match Text.hexValue? c with
    | none => .error .malformed
    | some d =>
      if left = 0 then do return .go .text ((← numbered (16 * value + d)) :: acc)
      else .ok (.go (.code (left - 1) (16 * value + d)) acc)
  | .quote => .ok (if c = '\'' then .go .text ('\'' :: acc) else .endBefore acc)

/-- Whether a document separator stands where none may stand. -/
def QuotedMode.isBroken (mode : QuotedMode) (cs : List Char) : Bool :=
  match mode with
  | .lines _ _ true => atSeparator cs
  | _ => false

/-- Reads on after the opening quote; `acc` is the text so far in reverse. -/
def quotedFrom (double : Bool) (mode : QuotedMode) (acc : List Char) :
    List Char → Except Refusal (List Char × List Char)
  | [] =>
    match mode with
    | .quote => .ok (acc.reverse, [])
    | _ => .error .malformed
  | c :: rest => do
    if mode.isBroken (c :: rest) then .error .malformed
    else
      match ← quotedStep double mode acc c with
      | .go mode acc => quotedFrom double mode acc rest
      | .endBefore acc => .ok (acc.reverse, c :: rest)
      | .endWith acc => .ok (acc.reverse, rest)

/-- Reads a scalar after its opening quote; gives its text and the rest. -/
def readQuoted (double : Bool) (cs : List Char) : Except Refusal (List Char × List Char) :=
  quotedFrom double .text [] cs

end Muffle.Yaml
