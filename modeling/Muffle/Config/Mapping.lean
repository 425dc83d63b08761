/-
  Muffle.Config.Mapping

  Configurations from the mapping in a configuration file. Keys may be in either spelling; lists
  may be written as one text with semicolons; switches have to be truth values. Keys that are
  not known are passed over with a warning.
-/

import Muffle.Config.Options

namespace Muffle.Config

variable [Pattern.Compiler]

/-- The keys of lists, in the order in which they are looked at. -/
def listKeys : List String :=
  ["global_filters", "path_filters", "source_roots", "suppressible_severities"]

/-- The keys of switches, in the order in which they are looked at. -/
def switchKeys : List String :=
  ["check_unused", "report_unused_in_macro_expansion", "defer_unregistered"]

/-- A key in snake case. Only texts can be converted; a key that counts as false stays. -/
def snakeKey (k : Value) : Except Fault Value :=
  match k with
  | .str s => .ok (.str (String.ofList (Text.snakeCase s.toList)))
  | k =>
    if k.truthy then
      -- the first of some bytes is a number
      if k.kind = .leaf "bytes" then .error (.noOperation .int "lower")
      else .error (.notIndexable k.kind)
    else .ok k

/-- A key in camel case, which has to be a text. -/
def camelKey (k : Value) : Except Fault String :=
  match k with
  | .str s => .ok (String.ofList (Text.camelCase s.toList))
  | k =>
    if k.kind = .leaf "bytes" then .error (.subjectNotText .str)
    else .error (.noOperation k.kind "split")

mutual

/-- The value with all keys inside it in snake case; of keys that become the same the later
    counts. A value that is a part of itself has no end. -/
def snakeKeys : Value → Except Fault Value
  | .map es => do return .ofEntries (← snakeEntries es)
  | .list xs => do return .list (← snakeItems xs)
  | .leaf kind text quoted =>
    if kind = Value.endlessKind then .error .endlessValue else .ok (.leaf kind text quoted)
  | v => .ok v

/-- The same for items. -/
def snakeItems : List Value → Except Fault (List Value)
  | [] => .ok []
  | x :: xs => do return (← snakeKeys x) :: (← snakeItems xs)

/-- The same for entries. -/
def snakeEntries : List (Value × Value) → Except Fault (List (Value × Value))
  | [] => .ok []
  | (k, v) :: es => do
    let k ← snakeKey k
    let v ← snakeKeys v
    return (k, v) :: (← snakeEntries es)

end

/-- The camel case of a known key, in quotes. -/
def shownKey (key : String) : String :=
  "'" ++ String.ofList (Text.camelCase key.toList) ++ "'"

/-- The texts of a list, which may be written as one text or as nothing. -/
def listOf (key : String) (v : Value) : Except Fault Value :=
  match v with
  | .null => .ok (.list [])
  | .str s => .ok (textsValue (listTexts s.toList))
  | .list xs => do return textsValue (← xs.mapM Value.written)
  | _ =>
    .error (.configuration
      ⟨shownKey key ++ " must be a list of strings", [("option", .str key)]⟩)

/-- The value of a switch. -/
def switchOf (key : String) (v : Value) : Except Fault Value :=
  match v with
  | .bool b => .ok (.bool b)
  | v =>
    .error (.configuration
      ⟨shownKey key ++ " must be true or false", [("option", .str key), ("value", v)]⟩)

/-- The values at those of some keys that a mapping has, each read by `f`. -/
def fieldsAt (es : List (Value × Value)) (f : String → Value → Except Fault Value) :
    List String → Except Fault (List (String × Value))
  | [] => .ok []
  | key :: keys => do
    match Value.lookupIn (.str key) es with
    | none => fieldsAt es f keys
    | some v =>
      let x ← f key v
      return (key, x) :: (← fieldsAt es f keys)

/-- Whether a key is known. -/
def isKnown (k : Value) : Bool :=
  match k with
  | .str s => listKeys.contains s || switchKeys.contains s
  | _ => false

/-- The camel case of the keys that are not known, in alphabetical order. The keys that have none
    are looked for in the order of the mapping, though nothing depends on which one comes first. -/
def unknownKeys (es : List (Value × Value)) : Except Fault (List String) := do
  let keys ← ((es.map Prod.fst).filter (!isKnown ·)).mapM camelKey
  return keys.mergeSort fun a b => a ≤ b

/-- The configuration for a mapping. -/
def ofMapping (tree : FileTree) (entries : List (Value × Value)) (baseDir : Option Path) :
    Noticed FilterConfig := do
  let es := match ← Noticed.ofExcept (snakeKeys (.map entries)) with
    | .map es => es
    | _ => []
  let lists ← Noticed.ofExcept (fieldsAt es listOf listKeys)
  let switches ← Noticed.ofExcept (fieldsAt es switchOf switchKeys)
  let unknown ← Noticed.ofExcept (unknownKeys es)
  if !unknown.isEmpty then Noticed.notify (.unknownKeys (unknown.map .str))
  let raw ← Noticed.ofExcept
    (RawConfig.setAll { baseDir := baseDir } (lists ++ switches))
  raw.build tree

end Muffle.Config
