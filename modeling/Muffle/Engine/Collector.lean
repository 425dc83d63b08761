/-
  Muffle.Engine.Collector

  Collecting the directives of one unit. A host hands over each directive with the spans of the
  syntax it covers. Only the first directive at an anchor counts; a pattern that is no pattern is
  reported at the anchor and its directive dropped. The engine sees nothing of them until the
  collection is finished.
-/

import Muffle.Engine.Basic

namespace Muffle

/-- The directives of a unit as far as they are collected. -/
structure Collector where
  unit : SourceUnit
  /-- The anchors that had a directive. -/
  seen : List Value := []
  collected : List Directive := []
  errors : List InvalidPattern := []

namespace Collector

variable [Pattern.Compiler]

/-- A computation on a collector and its engine; both outlive a fault. -/
abbrev Run := ExceptT Fault (StateM (Collector × Engine))

/-- Runs a computation. -/
def Run.on {α : Type} (x : Run α) (s : Collector × Engine) :
    Except Fault α × (Collector × Engine) :=
  (ExceptT.run x).run s

/-- A computation on the engine alone. -/
def onEngine {α : Type} (x : Engine.Run α) : Run α :=
  ExceptT.mk fun s =>
    let (r, e) := x.on s.2
    (r, (s.1, e))

/-- A change of the collector alone. -/
def change (f : Collector → Collector) : Run Unit := modify fun s => (f s.1, s.2)

/-- The report of a pattern that is no pattern. -/
def invalidReport (u : SourceUnit) (p : InvalidPattern) : Diagnostic where
  unit := u
  position := p.anchor
  severity := .error
  message :=
    .str ("invalid message pattern " ++ p.pattern.text ++ " in suppression directive: " ++
      p.reason.text)

/-- Keeps account of a pattern that is no pattern. -/
def rejectPattern (p : InvalidPattern) : Run Unit := do
  let u := (← get).1.unit
  change fun c => { c with errors := c.errors ++ [p] }
  onEngine (Engine.notify (.invalidPattern u p.anchor p.pattern p.reason))
  onEngine (Engine.emit (invalidReport u p))

/-- The directive for the spans it covers; an empty pattern counts as none. -/
def build (anchor : Value) (spans : List SourceRange.Span) (pattern inMacroExpansion : Value) :
    Engine.Run Directive := do
  let range ← Engine.Run.ofExcept (SourceRange.union spans)
  Engine.make anchor range (if pattern.truthy then pattern else .null) inMacroExpansion

/-- Collects one directive, unless its anchor had one or its pattern is refused. -/
def add (anchor : Value) (spans : List SourceRange.Span) (pattern inMacroExpansion : Value) :
    Run (Option Directive) := do
  let c := (← get).1
  if ← onEngine (Engine.Run.ofExcept (anchor.isMember c.seen)) then
    onEngine (Engine.notify (.duplicateSkipped c.unit anchor))
    return none
  change fun c => { c with seen := c.seen ++ [anchor] }
  let built ← tryCatch (do
      let d ← onEngine (build anchor spans pattern inMacroExpansion)
      return Except.ok d)
    fun
      | .invalidPattern p => return Except.error p
      | f => throw f
  match built with
  | .error p =>
    rejectPattern p
    return none
  | .ok d =>
    change fun c => { c with collected := c.collected ++ [d] }
    return some d

/-- Registers the collected directives and decides what waited for them. -/
def finish : Run (List Directive) := do
  let c := (← get).1
  let _ ← onEngine (Engine.setDirectives c.unit c.collected)
  return c.collected

end Collector

end Muffle
