/-
  Muffle.Text.CharName.Lookup

  Characters by their names. Most names stand in tables; the names of ideographs end in the number
  of the character, and the name of a syllable of Hangul is made of the names of its letters. Case
  does not count in tables, but in the names that follow a rule for whole scripts.
-/

import Muffle.Text.CharName.Table
import Muffle.Text.RangeTable

namespace Muffle.Text

namespace CharName

/-! ## Tables -/

/-- The entries of a table. -/
def entries (table : String) : List (List Char) :=
  ((table.splitOn "\n").flatMap fun line => splitAtChar ';' line.toList).filter (!·.isEmpty)

/-- The number at the start of an entry, if there is one, and the rest of it. -/
def splitNumber (entry : List Char) : Option Nat × List Char :=
  match splitAtChar ':' entry with
  | [number, body] => (some (hexNumber number), body)
  | _ => (none, entry)

/-- The words between two counts, which tell how many words of the name before stand at both
    ends. -/
def nameWords (before : List (List Char)) (body : List Char) : List (List Char) :=
  let front := hexNumber (body.take 1)
  let back := hexNumber (body.drop (body.length - 1))
  let middle := body.tail.dropLast
  before.take front ++ (if middle.isEmpty then [] else splitAtChar ' ' middle) ++
    before.drop (before.length - back)

/-- The number of the character whose name has these words, in the entries after a character with
    the number before `next` and the name `before`. -/
def findName (words : List (List Char)) (next : Nat) (before : List (List Char)) :
    List (List Char) → Option Nat
  | [] => none
  | entry :: rest =>
    let (number, body) := splitNumber entry
    let next := number.getD next
    let name := nameWords (if number.isSome then [] else before) body
    if name = words then some next else findName words (next + 1) name rest

/-- The number of the character with another name than that in the tables of names. -/
def findOther (name : List Char) (entries : List (List Char)) : Option Nat :=
  entries.findSome? fun entry =>
    let (number, other) := splitNumber entry
    if other = name then number else none

/-- The tables of names. -/
def tables : List String :=
  [scriptNames, symbolNames, eastAsianNames, laterScriptNames, ancientScriptNames,
   ideographicNames, pictographNames, tagNames]

/-! ## Names with numbers -/

/-- The rest of a text after a start that it has to have. -/
def after? (start cs : List Char) : Option (List Char) :=
  if start.isPrefixOf cs then some (cs.drop start.length) else none

/-- A digit in the number of a character. -/
def isNumberDigit (c : Char) : Bool := c.isDigit || ('A' ≤ c && c ≤ 'F')

/-- Unified ideographs. -/
def unifiedTable : RangeTable := RangeTable.ofLines
  ["3400-4dbf 4e00-9fff 20000-2a6df 2a700-2b738 2b740-2b81d 2b820-2cea1 2ceb0-2ebe0 30000-3134a"]

/-- The number of a unified ideograph. -/
def unified? (name : List Char) : Option Nat := do
  let digits ← after? "CJK UNIFIED IDEOGRAPH-".toList name
  let number := hexNumber digits
  if (digits.length = 4 ∨ digits.length = 5) ∧ digits.all isNumberDigit ∧
      unifiedTable.contains (Char.ofNat number) then some number
  else none

/-- Characters whose names end in their numbers: the start of the name and the characters. -/
def numbered : List (String × RangeTable) :=
  [("CJK COMPATIBILITY IDEOGRAPH-", RangeTable.ofLines ["f900-fa6d fa70-fad9 2f800-2fa1d"]),
   ("KHITAN SMALL SCRIPT CHARACTER-", RangeTable.ofLines ["18b00-18cd5"]),
   ("NUSHU CHARACTER-", RangeTable.ofLines ["1b170-1b2fb"])]

/-- The number of a character whose name ends in it. -/
def numbered? (name : List Char) : Option Nat :=
  numbered.findSome? fun (start, characters) => do
    let digits ← after? start.toList name
    let number := hexNumber digits
    if digits.all isNumberDigit ∧ digits.head? ≠ some '0' ∧
        characters.contains (Char.ofNat number) then some number
    else none

/-- The number of a variation selector by its short name. -/
def selector? (name : List Char) : Option Nat := do
  let digits ← after? "VS".toList name
  let n ← (String.ofList digits).toNat?
  if digits.all (·.isDigit) ∧ digits.head? ≠ some '0' ∧ n ≤ 256 then
    some (if n ≤ 16 then 0xfe00 + (n - 1) else 0xe0100 + (n - 17))
  else none

/-! ## Syllables of Hangul -/

/-- The names of the letters at the start of a syllable. -/
def leadNames : List String :=
  ["G", "GG", "N", "D", "DD", "R", "M", "B", "BB", "S", "SS", "", "J", "JJ", "C", "K", "T", "P",
   "H"]

/-- The names of the vowels. -/
def vowelNames : List String :=
  ["A", "AE", "YA", "YAE", "EO", "E", "YEO", "YE", "O", "WA", "WAE", "OE", "YO", "U", "WEO", "WE",
   "WI", "YU", "EU", "YI", "I"]

/-- The names of the letters at the end of a syllable. -/
def tailNames : List String :=
  ["", "G", "GG", "GS", "N", "NJ", "NH", "D", "L", "LG", "LM", "LB", "LS", "LT", "LP", "LH", "M",
   "B", "BS", "S", "SS", "NG", "J", "C", "K", "T", "P", "H"]

/-- The index of the longest name that a text starts with, and the rest of the text. -/
def longest? (names : List String) (cs : List Char) : Option (Nat × List Char) :=
  let found := names.zipIdx.foldl (fun best n =>
    match best with
    | some (b, _) =>
      if b.length < n.1.length ∧ n.1.toList.isPrefixOf cs then some n else best
    | none => if n.1.toList.isPrefixOf cs then some n else none) none
  found.map fun (name, index) => (index, cs.drop name.length)

/-- The number of a syllable. -/
def syllable? (name : List Char) : Option Nat := do
  let cs ← after? "HANGUL SYLLABLE ".toList name
  let (lead, cs) ← longest? leadNames cs
  let (vowel, cs) ← longest? vowelNames cs
  let (tail, cs) ← longest? tailNames cs
  if cs.isEmpty then some (0xac00 + (lead * 21 + vowel) * 28 + tail) else none

/-! ## All names -/

end CharName

/-- The number of the character with a name. -/
def charNamed? (name : List Char) : Option Nat :=
  let upper := name.map Char.toUpper
  CharName.syllable? name <|> CharName.unified? name <|> CharName.numbered? upper <|>
    CharName.selector? upper <|>
    CharName.tables.findSome? (fun table =>
      CharName.findName (splitAtChar ' ' upper) 0 [] (CharName.entries table)) <|>
    CharName.findOther upper (CharName.entries CharName.otherNames)

end Muffle.Text
