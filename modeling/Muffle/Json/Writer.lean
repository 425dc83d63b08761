/-
  Muffle.Json.Writer

  Writing JSON, on one line with characters beyond ASCII escaped, or over several lines with
  characters as they are. Keys that are no texts are written as their texts.
-/

import Muffle.Value

namespace Muffle.Json

/-- A number outside the finite ones is written by its name. -/
def floatLayout : Binary64.Layout :=
  { Value.floatLayout with infinity := "Infinity", nan := "NaN" }

/-- The escape of a code unit. -/
def unitEscape (n : Nat) : List Char := '\\' :: 'u' :: Text.hexText 4 n

/-- A character inside quotes; `ascii` tells whether characters beyond ASCII are escaped, those
    outside the first plane as two code units. -/
def textChar (ascii : Bool) (c : Char) : List Char :=
  if c = '"' ∨ c = '\\' then ['\\', c]
  else if c = '\n' then ['\\', 'n']
  else if c = '\r' then ['\\', 'r']
  else if c = '\t' then ['\\', 't']
  else if c = '\x08' then ['\\', 'b']
  else if c = '\x0c' then ['\\', 'f']
  else if c.toNat < 32 then unitEscape c.toNat
  else if ascii ∧ 126 < c.toNat then
    if c.toNat < 0x10000 then unitEscape c.toNat
    else
      let n := c.toNat - 0x10000
      unitEscape (0xd800 + n / 0x400) ++ unitEscape (0xdc00 + n % 0x400)
  else [c]

/-- A text in quotes. -/
def text (ascii : Bool) (s : String) : String :=
  String.ofList ('"' :: s.toList.flatMap (textChar ascii) ++ ['"'])

/-- A value without parts. -/
def leafText (ascii : Bool) : Value → String
  | .null => "null"
  | .bool b => if b then "true" else "false"
  | .int i => toString i
  | .float x => floatLayout.render x
  | v => text ascii v.text

mutual

/-- A value on one line. -/
def compact : Value → String
  | .tuple xs => "[" ++ compactItems xs ++ "]"
  | .list xs => "[" ++ compactItems xs ++ "]"
  | .map es => "\x7b" ++ compactEntries es ++ "\x7d"
  | v => leafText true v

/-- Items, separated by commas. -/
def compactItems : List Value → String
  | [] => ""
  | [x] => compact x
  | x :: y :: rest => compact x ++ ", " ++ compactItems (y :: rest)

/-- Entries, separated by commas. -/
def compactEntries : List (Value × Value) → String
  | [] => ""
  | [(k, v)] => text true k.text ++ ": " ++ compact v
  | (k, v) :: e :: rest =>
    text true k.text ++ ": " ++ compact v ++ ", " ++ compactEntries (e :: rest)

end

/-- The start of a line at a depth of indentation. -/
def newLine (depth : Nat) : String :=
  String.ofList ('\n' :: List.replicate (2 * depth) ' ')

mutual

/-- A value over several lines, its parts indented one step more than `depth`. -/
def indented (depth : Nat) : Value → String
  | .tuple [] => "[]"
  | .list [] => "[]"
  | .map [] => "\x7b\x7d"
  | .tuple xs => "[" ++ indentedItems (depth + 1) xs ++ newLine depth ++ "]"
  | .list xs => "[" ++ indentedItems (depth + 1) xs ++ newLine depth ++ "]"
  | .map es => "\x7b" ++ indentedEntries (depth + 1) es ++ newLine depth ++ "\x7d"
  | v => leafText false v

/-- Items, each on lines of its own. -/
def indentedItems (depth : Nat) : List Value → String
  | [] => ""
  | [x] => newLine depth ++ indented depth x
  | x :: y :: rest => newLine depth ++ indented depth x ++ "," ++ indentedItems depth (y :: rest)

/-- Entries, each on lines of its own. -/
def indentedEntries (depth : Nat) : List (Value × Value) → String
  | [] => ""
  | [(k, v)] => newLine depth ++ text false k.text ++ ": " ++ indented depth v
  | (k, v) :: e :: rest =>
    newLine depth ++ text false k.text ++ ": " ++ indented depth v ++ "," ++
      indentedEntries depth (e :: rest)

end

end Muffle.Json
