/-
  Muffle.Diagnostic

  Diagnostics: what a host reports about one place of a source unit, and what a sink receives.
  The position and the message are kept as the host gave them.
-/

import Muffle.Record
import Muffle.Text.Blank
import Muffle.Value.Order

namespace Muffle

/-! ## Severities -/

/-- How serious a diagnostic is. -/
inductive Severity where
  | info
  | warning
  | error
deriving DecidableEq, Inhabited, Repr

namespace Severity

/-- All severities, the least serious first. -/
def all : List Severity := [.info, .warning, .error]

/-- The place of a severity among all. -/
def rank : Severity → Nat
  | .info => 0
  | .warning => 1
  | .error => 2

/-- The name of a severity in capitals. -/
def name : Severity → String
  | .info => "INFO"
  | .warning => "WARNING"
  | .error => "ERROR"

/-- The name of a severity in small letters. -/
def word : Severity → String
  | .info => "info"
  | .warning => "warning"
  | .error => "error"

/-- The severity whose name the text of a value is, in any case and with blanks around it. -/
def parse? (v : Value) : Option Severity :=
  let name := String.ofList (Text.upper (Text.strip v.text.toList))
  all.find? fun s => s.name == name

/-- The severity that a value names. -/
def parse (v : Value) : Except Fault Severity :=
  match parse? v with
  | some s => .ok s
  | none => .error (.unknownSeverity v)

end Severity

/-! ## Units -/

/-- A source unit, known by its path. -/
structure SourceUnit where
  path : String
deriving DecidableEq, Inhabited, Repr

/-- The unit that a value names. -/
def SourceUnit.of (v : Value) : SourceUnit := ⟨v.text⟩

/-! ## Diagnostics -/

/-- One diagnostic; a null position means that it has no place. -/
structure Diagnostic where
  unit : SourceUnit
  position : Value
  severity : Severity
  message : Value
deriving Inhabited, Repr

namespace Diagnostic

/-- The fields of a diagnostic. -/
def fields (d : Diagnostic) : List Field :=
  [("unit", .written (.str d.unit.path)), ("position", .value d.position),
   ("severity", .member d.severity.name), ("message", .value d.message)]

/-- The JSON form of a diagnostic. -/
def toJson (d : Diagnostic) : Value := recordJson d.fields []

/-- The place of a diagnostic: its unit and its position, if it has one. -/
def place (d : Diagnostic) : Except Fault String :=
  match d.position with
  | .null => .ok d.unit.path
  | p => do return d.unit.path ++ ":" ++ (← p.written)

/-- A diagnostic on one line. -/
def text (d : Diagnostic) : Except Fault String := do
  return (← d.place) ++ ": " ++ d.severity.word ++ ": " ++ (← d.message.written)

end Diagnostic

end Muffle
