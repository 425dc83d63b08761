/-
  Muffle.Directive

  Suppression directives: a range of positions, and a pattern for the messages that are to be
  muffled there. Directives with equal fields are still different ones, told apart by `id`.
  Whether a directive was ever of use is not part of it; who runs directives keeps account.
-/

import Muffle.Diagnostic
import Muffle.Pattern.Filter
import Muffle.SourceRange

namespace Muffle

/-- One directive. Without a pattern it covers every message. -/
structure Directive where
  id : Nat
  /-- The place of the directive itself. -/
  anchor : Value
  range : SourceRange
  pattern : Option PatternFilter
  /-- Whether it came from expanded code. -/
  inMacroExpansion : Value

namespace Directive

variable [Pattern.Compiler]

/-- What supplies the patterns of directives. -/
def patternSource : Value := .str "suppression directive"

/-- Compiles the pattern of a directive, if it has one; a pattern that is refused is reported at
    the anchor. -/
def compilePattern (anchor pattern : Value) : Except Fault (Option PatternFilter) :=
  match pattern with
  | .null => .ok none
  | p =>
    match PatternFilter.compile p patternSource with
    | .ok f => .ok (some f)
    | .error (.invalidPattern e) => .error (.invalidPattern (e.at anchor))
    | .error f => .error f

/-- The directive at an anchor with a raw pattern, which is null if there is none. -/
def make (id : Nat) (anchor : Value) (range : SourceRange) (pattern inMacroExpansion : Value) :
    Except Fault Directive := do
  let filter ← compilePattern anchor pattern
  return { id, anchor, range, pattern := filter, inMacroExpansion }

/-- Whether the directive covers a message at a position. -/
def appliesTo (d : Directive) (position message : Value) : Except Fault Bool := do
  if ← d.range.contains position then
    match d.pattern with
    | none => return true
    | some f => f.matchesValue message
  else
    return false

/-- The text of the pattern, null if there is none. -/
def patternText (d : Directive) : Value :=
  .ofText? (d.pattern.map (·.text))

/-- The JSON form of a directive and whether it was of use. -/
def toJson (d : Directive) (used : Bool) : Value :=
  recordJson
    [("anchor", .value d.anchor), ("range", .written d.range.toJson),
     ("message_pattern", .value d.patternText),
     ("in_macro_expansion", .value d.inMacroExpansion), ("used", .value (.bool used))] []

end Directive

/-! ## Annotations -/

namespace Annotation

/-- The value of an annotation that stands for a directive without a pattern. -/
def word : List Char := "hush".toList

/-- What stands before the pattern in the value of an annotation. -/
def marker : List Char := "hush:".toList

/-- The pattern that one value of an annotation carries, empty if it carries none; nothing if
    the value is no directive. -/
def patternOf? (value : List Char) : Option (List Char) :=
  if value = word then some []
  else if marker <+: value then some (value.drop marker.length)
  else none

/-- The pattern of the first value that is a directive. -/
def firstPattern? : List Value → Except Fault (Option (List Char))
  | [] => .ok none
  | .str s :: rest =>
    match patternOf? s.toList with
    | some p => .ok (some p)
    | none => firstPattern? rest
  | v :: _ => .error (.noOperation v.kind "startswith")

/-- The pattern in the values of a generic annotation: empty for the bare word, the rest after
    the marker, or null. -/
def parse (values : Value) : Except Fault Value := do
  let found ← firstPattern? (← values.parts)
  return .ofText? (found.map String.ofList)

end Annotation

end Muffle
