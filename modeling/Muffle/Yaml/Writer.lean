/-
  Muffle.Yaml.Writer

  Writing values as YAML in block style. An entry of a mapping stands on a line of its own; the
  items of a sequence stand below their key, each after a dash that is not indented more than the
  key. An empty collection is written in brackets. A key that is long, empty or broken over lines
  gets a question mark.
-/

import Muffle.Record
import Muffle.Yaml.ScalarStyle

namespace Muffle.Yaml

/-- Numbers with a point, or with an exponent after a point. -/
def floatText (x : Binary64) : List Char :=
  match x with
  | .nan => ".nan".toList
  | .infinity true => "-.inf".toList
  | .infinity false => ".inf".toList
  | x =>
    let cs := (Value.floatLayout.render x).toList
    if cs.contains '.' || !cs.contains 'e' then cs
    else cs.takeWhile (· != 'e') ++ ".0".toList ++ cs.dropWhile (· != 'e')

/-- A value without parts on one line, or a text, which starts at `column`. -/
def leafText (isKey : Bool) (indent column : Nat) : Value → List Char
  | .null => "null".toList
  | .bool b => (if b then "true" else "false").toList
  | .int i => (toString i).toList
  | .float x => floatText x
  | v => writeText isKey indent column v.text.toList

/-- Whether a key can stand before its colon on one line. -/
def isSimpleKey (k : Value) : Bool :=
  let cs := k.text.toList
  !cs.isEmpty && !cs.any isBreak && cs.length < 128

/-- Where a value is written: as an item after a dash, or as the value of a key. -/
inductive Position where
  | item
  | entry
deriving DecidableEq

/-- A line that is indented. -/
def lineStart (indent : Nat) : List Char := '\n' :: Pen.spaces indent

mutual

/-- Writes a value after a dash or a colon at `column`, in a collection that is indented by
    `indent`. -/
def writeValue (p : Position) (indent column : Nat) : Value → List Char
  | .list xs =>
    if xs.isEmpty then " []".toList
    else
      match p with
      | .item => ' ' :: writeItems (indent + 2) true xs
      | .entry => writeItems indent false xs
  | .map es =>
    if es.isEmpty then " \x7b\x7d".toList
    else
      match p with
      | .item => ' ' :: writeEntries (indent + 2) true es
      | .entry => writeEntries (indent + 2) false es
  | v => ' ' :: leafText false (indent + 2) (column + 1) v

/-- Writes items, each on a line of its own, but the first one where the pen stands if `isInline`
    says so. -/
def writeItems (indent : Nat) (isInline : Bool) : List Value → List Char
  | [] => []
  | x :: xs =>
    (if isInline then [] else lineStart indent) ++
      '-' :: writeValue .item indent (indent + 1) x ++ writeItems indent false xs

/-- The same for entries. -/
def writeEntries (indent : Nat) (isInline : Bool) : List (Value × Value) → List Char
  | [] => []
  | (k, v) :: es =>
    let start := if isInline then [] else lineStart indent
    let entry :=
      if isSimpleKey k then
        let key := leafText true indent indent k
        key ++ ':' :: writeValue .entry indent (indent + key.length + 1) v
      else
        '?' :: ' ' :: leafText false (indent + 2) (indent + 2) k ++ lineStart indent ++
          ':' :: writeValue .item indent (indent + 1) v
    start ++ entry ++ writeEntries indent false es

end

/-- Writes a mapping as a whole text. -/
def write (fields : List (String × Value)) : List Char :=
  if fields.isEmpty then "\x7b\x7d\n".toList
  else writeEntries 0 true (fields.map fun f => (.str f.1, f.2.toJson)) ++ ['\n']

end Muffle.Yaml
