/-
  Muffle.Engine.Stream

  Recorded streams: for each unit its directives and its diagnostics, run through a fresh engine
  one after the other. Unused directives are reported unit by unit, and what still waits in the
  end is released.
-/

import Muffle.Engine.Collector

namespace Muffle

/-- How many diagnostics had which outcome. -/
structure Counts where
  suppressed : Nat := 0
  forwarded : Nat := 0
  deferred : Nat := 0
deriving DecidableEq, Repr

/-- Counts one more outcome. -/
def Counts.add (c : Counts) : Outcome → Counts
  | .suppressed => { c with suppressed := c.suppressed + 1 }
  | .forwarded => { c with forwarded := c.forwarded + 1 }
  | .deferred => { c with deferred := c.deferred + 1 }

namespace Stream

variable [Pattern.Compiler]

/-- A position in a recorded stream; a list is a position of several values. -/
def position : Value → Value
  | .list xs => .tuple xs
  | v => v

/-! ## Directives -/

/-- The spans of a recorded directive: those it lists, or the one from its start to its end. -/
def spansOf (directive : Value) : Except Fault Value := do
  let spans ← directive.fieldD "spans" .null
  if spans.truthy then return spans
  return .list [.list [← directive.field "start", ← directive.field "end"]]

/-- One recorded span. -/
def spanOf (span : Value) : Except Fault SourceRange.Span := do
  let (s, e) ← span.pair
  return .parts (.tuple [position s, position e])

/-- A recorded directive with its parts. -/
structure Recorded where
  anchor : Value
  spans : List SourceRange.Span
  pattern : Value
  inMacroExpansion : Value

/-- Reads a recorded directive. -/
def Recorded.read (directive : Value) : Except Fault Recorded := do
  let spans ← spansOf directive
  let anchor ← directive.field "anchor"
  let spans ← (← spans.parts).mapM spanOf
  let pattern ← directive.fieldD "pattern" .null
  let macros ← directive.fieldD "inMacroExpansion" (.bool false)
  return ⟨position anchor, spans, pattern, macros⟩

/-- Collects recorded directives in order. -/
def collectAll : List Value → Collector.Run Unit
  | [] => pure ()
  | directive :: rest => do
    let r ← Collector.onEngine (Engine.Run.ofExcept (Recorded.read directive))
    let _ ← Collector.add r.anchor r.spans r.pattern r.inMacroExpansion
    collectAll rest

/-- Collects and registers the directives of a unit. -/
def registerUnit (u : SourceUnit) (directives : List Value) : Engine.Run Unit :=
  ExceptT.mk fun e =>
    let (r, s) := Collector.Run.on (do
        collectAll directives
        let _ ← Collector.finish) ({ unit := u }, e)
    (r, s.2)

/-! ## Diagnostics -/

/-- Reads a recorded diagnostic of a unit. -/
def readDiagnostic (u : SourceUnit) (diagnostic : Value) : Except Fault Diagnostic := do
  let place ← diagnostic.fieldD "position" .null
  let severity ← Severity.parse (← diagnostic.fieldD "severity" (.str "warning"))
  let message ← diagnostic.field "message"
  return ⟨u, position place, severity, message⟩

/-- Decides recorded diagnostics of a unit in order. -/
def interceptAll (p : Policy) (u : SourceUnit) (counts : Counts) :
    List Value → Engine.Run Counts
  | [] => pure counts
  | diagnostic :: rest => do
    let d ← Engine.Run.ofExcept (readDiagnostic u diagnostic)
    let o ← Engine.report p d
    interceptAll p u (counts.add o) rest

/-! ## Units -/

/-- Runs one recorded unit. -/
def runUnit (p : Policy) (counts : Counts) (data : Value) : Engine.Run Counts := do
  let u := SourceUnit.of (← Engine.Run.ofExcept (data.field "path"))
  let directives ← Engine.Run.ofExcept (do (← data.fieldD "directives" (.list [])).parts)
  registerUnit u directives
  let diagnostics ← Engine.Run.ofExcept (do (← data.fieldD "diagnostics" (.list [])).parts)
  let counts ← interceptAll p u counts diagnostics
  let _ ← Engine.reportUnused p u
  return counts

/-- Runs recorded units in order. -/
def runUnits (p : Policy) (counts : Counts) : List Value → Engine.Run Counts
  | [] => pure counts
  | data :: rest => do runUnits p (← runUnit p counts data) rest

/-- Runs a whole stream; what waits in the end counts as forwarded when it is released so. -/
def runAll (p : Policy) (units : Value) : Engine.Run Counts := do
  let counts ← runUnits p {} (← Engine.Run.ofExcept units.parts)
  let passed ← Engine.flushAll
  return { counts with forwarded := counts.forwarded + passed.length }

/-- What a stream leaves behind: the sink and the counts. -/
structure Result where
  sink : List Diagnostic
  counts : Counts

/-- Runs a whole stream through a fresh engine; the notices outlive a fault. -/
def run (p : Policy) (units : Value) : Except Fault Result × List Notice :=
  let (r, e) := (runAll p units).on {}
  (r.map fun counts => ⟨e.sink, counts⟩, e.notices)

end Stream

end Muffle
