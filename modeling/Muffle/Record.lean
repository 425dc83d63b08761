/-
  Muffle.Record

  Records: named fields in order, and their form in JSON. A name is written in camel case, a
  member of an enumeration as its name in lower case, and everything inside a container likewise.
  A record may keep some of its fields to itself.
-/

import Muffle.Text.KeyCase
import Muffle.Value

namespace Muffle

mutual

/-- The form of a value in JSON: a tuple is an array like any other list. -/
def Value.toJson : Value → Value
  | .tuple xs => .list (Value.toJsonItems xs)
  | .list xs => .list (Value.toJsonItems xs)
  | .map es => .map (Value.toJsonEntries es)
  | v => v

/-- The forms of items. -/
def Value.toJsonItems : List Value → List Value
  | [] => []
  | x :: xs => x.toJson :: Value.toJsonItems xs

/-- The forms of entries; keys stay as they are. -/
def Value.toJsonEntries : List (Value × Value) → List (Value × Value)
  | [] => []
  | (k, v) :: es => (k, v.toJson) :: Value.toJsonEntries es

end

/-- What a field of a record holds. `written` is something that has a JSON form of its own. -/
inductive FieldValue where
  | value (v : Value)
  | member (name : String)
  | written (json : Value)
  | list (items : List FieldValue)
  | map (entries : List (Value × FieldValue))

namespace FieldValue

mutual

/-- The JSON form of what a field holds. -/
def toJson : FieldValue → Value
  | .value v => v.toJson
  | .member name => .str (String.ofList (Text.lower name.toList))
  | .written json => json
  | .list xs => .list (toJsonItems xs)
  | .map es => .map (toJsonEntries es)

/-- The forms of items. -/
def toJsonItems : List FieldValue → List Value
  | [] => []
  | x :: xs => toJson x :: toJsonItems xs

/-- The forms of entries. -/
def toJsonEntries : List (Value × FieldValue) → List (Value × Value)
  | [] => []
  | (k, v) :: es => (k, toJson v) :: toJsonEntries es

end

end FieldValue

/-- A field: its name in snake case and what it holds. -/
abbrev Field := String × FieldValue

/-- The key of a field in JSON. -/
def Field.key (f : Field) : Value :=
  .str (String.ofList (Text.camelCase f.1.toList))

/-- The JSON form of a record without its hidden fields. -/
def recordJson (fields : List Field) (hidden : List String) : Value :=
  .ofEntries ((fields.filter fun f => !hidden.contains f.1).map fun f => (f.key, f.2.toJson))

end Muffle
