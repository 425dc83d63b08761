/-
  Muffle.Json.Reader

  Reading JSON. Numbers without a point or an exponent are integers of any size, all others are
  binary numbers; the words `NaN`, `Infinity` and `-Infinity` are read as well. Of two entries
  with one key the later counts. A refusal says what was expected and where: line, column and
  offset of the character at which the reader stopped.
-/

import Muffle.Json.Decoder
import Muffle.Text.Integer

namespace Muffle.Json

/-! ## Characters -/

/-- White space between tokens. -/
def isSpace (c : Char) : Bool := c == ' ' || c == '\t' || c == '\n' || c == '\r'

/-- A text without the white space in front. -/
def skipSpace (cs : List Char) : List Char := cs.dropWhile isSpace

/-- Refuses a text from here on. -/
def refuse {α : Type} (c : Complaint) (at_ : List Char) : Except Refusal α :=
  .error (.malformed c at_.length)

/-! ## Texts -/

/-- The character of a one-letter escape. -/
def escaped? : Char → Option Char
  | '"' => some '"'
  | '\\' => some '\\'
  | '/' => some '/'
  | 'b' => some '\x08'
  | 'f' => some '\x0c'
  | 'n' => some '\n'
  | 'r' => some '\r'
  | 't' => some '\t'
  | _ => none

/-- The number of four hexadecimal digits. -/
def fourDigits? : List Char → Option (Nat × List Char)
  | a :: b :: c :: d :: rest => do
    let a ← Text.hexValue? a
    let b ← Text.hexValue? b
    let c ← Text.hexValue? c
    let d ← Text.hexValue? d
    some (((a * 16 + b) * 16 + c) * 16 + d, rest)
  | _ => none

/-- The first half of a pair of code units. -/
def isHighHalf (n : Nat) : Bool := 0xd800 ≤ n && n < 0xdc00

/-- The second half of a pair of code units. -/
def isLowHalf (n : Nat) : Bool := 0xdc00 ≤ n && n < 0xe000

/-- The character of a code unit; a half without its partner is none. -/
def unitChar (n : Nat) : Except Refusal Char :=
  if isHighHalf n ∨ isLowHalf n then .error .unpaired else .ok (Char.ofNat n)

/-- Reads a text after its opening quote. `start` is the number of characters left at the quote;
    the characters read so far are in `acc`, last first. -/
def readText (start : Nat) (acc : List Char) : Nat → List Char → Except Refusal (String × List Char)
  | 0, _ => .error (.malformed .unterminatedText start)
  | _ + 1, [] => .error (.malformed .unterminatedText start)
  | fuel + 1, c :: rest =>
    if c = '"' then .ok (String.ofList acc.reverse, rest)
    else if c = '\\' then
      match rest with
      | [] => .error (.malformed .unterminatedText start)
      | 'u' :: more =>
        if more.length < 5 then refuse .badUnicodeEscape rest
        else match fourDigits? more with
          | none => refuse .badUnicodeEscape rest
          | some (n, after) =>
            match after with
            | '\\' :: 'u' :: low =>
              if isHighHalf n ∧ 4 < low.length then
                match fourDigits? low with
                | none => .error (.malformed .badUnicodeEscape (low.length + 1))
                | some (m, beyond) =>
                  if isLowHalf m then
                    readText start
                      (Char.ofNat (0x10000 + (n - 0xd800) * 0x400 + (m - 0xdc00)) :: acc) fuel beyond
                  else .error .unpaired
              else do readText start ((← unitChar n) :: acc) fuel after
            | _ => do readText start ((← unitChar n) :: acc) fuel after
      | e :: more =>
        match escaped? e with
        | some x => readText start (x :: acc) fuel more
        | none => .error (.malformed .badEscape (rest.length + 1))
    else if c.toNat < 32 then refuse .controlCharacter (c :: rest)
    else readText start (c :: acc) fuel rest

/-! ## Numbers -/

/-- The number that decimal digits write. -/
def digitsValue (ds : List Char) : Nat :=
  ds.foldl (fun n c => 10 * n + (c.toNat - '0'.toNat)) 0

/-- The fraction after a point, if a digit follows it. -/
def readFraction : List Char → Option (List Char × List Char)
  | '.' :: d :: rest =>
    if d.isDigit then some (d :: rest.takeWhile Char.isDigit, rest.dropWhile Char.isDigit) else none
  | _ => none

/-- The exponent after its letter, if it has a digit. -/
def readExponent : List Char → Option (Int × List Char)
  | [] => none
  | e :: rest =>
    if e = 'e' ∨ e = 'E' then
      let (negative, ds) := match rest with
        | '-' :: r => (true, r)
        | '+' :: r => (false, r)
        | r => (false, r)
      let digits := ds.takeWhile Char.isDigit
      if digits.isEmpty then none
      else
        let n : Int := digitsValue digits
        some (if negative then -n else n, ds.dropWhile Char.isDigit)
    else none

/-- Reads a number; `here` is where it starts. -/
def readNumber (here : List Char) : Except Refusal (Value × List Char) :=
  let (negative, cs) := match here with
    | '-' :: r => (true, r)
    | r => (false, r)
  let whole := match cs with
    | '0' :: _ => ['0']
    | cs => cs.takeWhile Char.isDigit
  if whole.isEmpty then refuse .value here
  else
    let rest := cs.drop whole.length
    let (fraction, afterFraction) := (readFraction rest).getD ([], rest)
    let exponent := readExponent afterFraction
    if fraction.isEmpty ∧ exponent.isNone then
      if Text.digitLimit < whole.length then .error (.tooManyDigits whole.length)
      else
        let n : Int := digitsValue whole
        .ok (.int (if negative then -n else n), rest)
    else
      let (power, after) := exponent.getD (0, afterFraction)
      let digits := digitsValue (whole ++ fraction)
      .ok (.float (Binary64.ofDecimal negative digits (power - fraction.length)), after)

/-! ## Values -/

/-- The rest of a text after a word. -/
def afterWord? : List Char → List Char → Option (List Char)
  | [], cs => some cs
  | _ :: _, [] => none
  | w :: ws, c :: cs => if w = c then afterWord? ws cs else none

/-- The words that stand for values. -/
def words : List (List Char × Value) :=
  [("null".toList, .null), ("true".toList, .bool true), ("false".toList, .bool false),
   ("NaN".toList, .float .nan), ("Infinity".toList, .float (.infinity false)),
   ("-Infinity".toList, .float (.infinity true))]

/-- The value of the word at the front. -/
def word? (cs : List Char) : Option (Value × List Char) :=
  words.findSome? fun (w, v) => (afterWord? w cs).map fun rest => (v, rest)

mutual

/-- Reads one value. -/
def readValue : Nat → List Char → Except Refusal (Value × List Char)
  | 0, cs => refuse .value cs
  | fuel + 1, cs =>
    match cs with
    | '"' :: rest => do
      let (s, rest) ← readText cs.length [] cs.length rest
      return (.str s, rest)
    | '{' :: rest =>
      match skipSpace rest with
      | '}' :: rest => .ok (.map [], rest)
      | rest => readEntries fuel [] rest
    | '[' :: rest =>
      match skipSpace rest with
      | ']' :: rest => .ok (.list [], rest)
      | rest => readItems fuel [] rest
    | cs =>
      match word? cs with
      | some r => .ok r
      | none => readNumber cs

/-- Reads the items of a list up to its end; those read so far are in `acc`, last first. -/
def readItems : Nat → List Value → List Char → Except Refusal (Value × List Char)
  | 0, _, cs => refuse .value cs
  | fuel + 1, acc, cs => do
    let (v, rest) ← readValue fuel cs
    match skipSpace rest with
    | ']' :: rest => return (.list (v :: acc).reverse, rest)
    | ',' :: rest => readItems fuel (v :: acc) (skipSpace rest)
    | rest => refuse .comma rest

/-- Reads the entries of a map up to its end. -/
def readEntries : Nat → List (Value × Value) → List Char → Except Refusal (Value × List Char)
  | 0, _, cs => refuse .value cs
  | fuel + 1, acc, cs =>
    match cs with
    | '"' :: rest => do
      let (key, rest) ← readText cs.length [] cs.length rest
      match skipSpace rest with
      | ':' :: rest =>
        let (v, rest) ← readValue fuel (skipSpace rest)
        let acc := Value.insertIn (.str key) v acc
        match skipSpace rest with
        | '}' :: rest => return (.map acc, rest)
        | ',' :: rest => readEntries fuel acc (skipSpace rest)
        | rest => refuse .comma rest
      | rest => refuse .colon rest
    | cs => refuse .propertyName cs

end

/-- Reads a text that holds one value and nothing else but white space. -/
def read (cs : List Char) : Except Refusal Value :=
  match cs with
  | '\ufeff' :: _ => refuse .byteOrderMark cs
  | cs => do
    let (v, rest) ← readValue (cs.length + 1) (skipSpace cs)
    match skipSpace rest with
    | [] => return v
    | rest => refuse .extraData rest

/-- The standard decoder goes down to any depth. -/
instance standard : Decoder where
  decode := read

end Muffle.Json
