/-
  Muffle.Engine.Basic

  The engine between a host and its sink. Every diagnostic is decided: muffled by a filter on the
  path of its unit, by a filter on its message or by a directive of its unit, or else forwarded to
  the sink. Where deferral is on, the diagnostics of a unit wait until the directives of the unit
  are complete. An operation that fails keeps what it did until then.
-/

import Muffle.FilterConfig
import Muffle.Registry

namespace Muffle

/-- What became of a diagnostic. -/
inductive Outcome where
  | suppressed
  | forwarded
  | deferred
deriving DecidableEq, Inhabited, Repr

/-- The name of an outcome. -/
def Outcome.name : Outcome → String
  | .suppressed => "SUPPRESSED"
  | .forwarded => "FORWARDED"
  | .deferred => "DEFERRED"

/-! ## Policies -/

/-- What decides about diagnostics before any directive: a configuration, and the directory that
    paths are seen from if the configuration names none. -/
structure Policy where
  config : FilterConfig
  workDir : Path

namespace Policy

/-- Whether diagnostics of a severity may be muffled. -/
def mayMuffle (p : Policy) (s : Severity) : Bool := p.config.suppressible.contains s

/-- Whether a filter matches the path of a unit, as seen from its source root. -/
def matchesPath (p : Policy) (u : SourceUnit) : Bool :=
  p.config.pathFilters.any fun f => f.matchesText (p.config.relativizeText p.workDir u.path)

/-- The filter that muffles a diagnostic, if any. -/
def filteredBy? (p : Policy) (d : Diagnostic) : Except Fault (Option Notice.Reason) :=
  if p.matchesPath d.unit then .ok (some .pathFilter)
  else do
    return if ← PatternFilter.anyMatches p.config.globalFilters d.message then some .globalFilter
      else none

/-- Whether diagnostics wait for the directives of their unit. -/
def defers (p : Policy) : Bool := p.config.deferUnregistered.truthy

/-- Whether a directive is left out of the reports of unused ones. -/
def exempt (p : Policy) (d : Directive) : Bool :=
  !p.config.reportUnusedInMacroExpansion.truthy && d.inMacroExpansion.truthy

end Policy

/-! ## States -/

/-- The diagnostics of a unit that wait, in order of arrival. -/
structure Backlog where
  unit : SourceUnit
  waiting : List Diagnostic

/-- The state of an engine. -/
structure Engine where
  /-- The registries of units, in order of their creation. -/
  registries : List Registry := []
  /-- The backlogs of units, in order of their first waiting diagnostic. -/
  backlogs : List Backlog := []
  /-- The directives that muffled a diagnostic. -/
  used : List Nat := []
  /-- What the sink received. -/
  sink : List Diagnostic := []
  notices : List Notice := []
  /-- How many directives the engine was asked to tell apart. -/
  made : Nat := 0

namespace Engine

variable [Pattern.Compiler]

/-- A computation on an engine; the state outlives a fault. -/
abbrev Run := ExceptT Fault (StateM Engine)

/-- Runs a computation. -/
def Run.on {α : Type} (x : Run α) (e : Engine) : Except Fault α × Engine :=
  (ExceptT.run x).run e

/-- A computation without an effect on the engine. -/
def Run.ofExcept {α : Type} (x : Except Fault α) : Run α := ExceptT.mk (pure x)

/-! ## Views and single changes -/

/-- The registry of a unit. -/
def findRegistry (e : Engine) (u : SourceUnit) : Option Registry :=
  e.registries.find? fun g => g.unit == u

/-- Whether the unit has a registry. -/
def hasRegistry (e : Engine) (u : SourceUnit) : Bool := (e.findRegistry u).isSome

/-- The diagnostics of a unit that wait. -/
def waiting (e : Engine) (u : SourceUnit) : List Diagnostic :=
  ((e.backlogs.find? fun b => b.unit == u).map (·.waiting)).getD []

/-- Whether diagnostics of the unit wait. -/
def isWaiting (e : Engine) (u : SourceUnit) : Bool := e.backlogs.any fun b => b.unit == u

/-- Whether a directive was of use. -/
def isUsed (e : Engine) (d : Directive) : Bool := e.used.contains d.id

/-- Puts a registry in the place of the one of its unit, or at the end. -/
def withRegistry (e : Engine) (g : Registry) : Engine :=
  { e with
    registries :=
      if e.hasRegistry g.unit then e.registries.map fun h => if h.unit = g.unit then g else h
      else e.registries ++ [g] }

/-- Adds a diagnostic to the backlog of its unit. -/
def withWaiting (e : Engine) (d : Diagnostic) : Engine :=
  { e with
    backlogs :=
      if e.isWaiting d.unit then
        e.backlogs.map fun b =>
          if b.unit = d.unit then { b with waiting := b.waiting ++ [d] } else b
      else e.backlogs ++ [⟨d.unit, [d]⟩] }

/-- Drops the backlog of a unit. -/
def withoutWaiting (e : Engine) (u : SourceUnit) : Engine :=
  { e with backlogs := e.backlogs.filter fun b => b.unit != u }

/-- Records that a directive was of use. -/
def withUsed (e : Engine) (d : Directive) : Engine := { e with used := e.used ++ [d.id] }

/-- Passes a diagnostic on to the sink. -/
def withSent (e : Engine) (d : Diagnostic) : Engine := { e with sink := e.sink ++ [d] }

/-- Adds notices. -/
def withNotices (e : Engine) (ns : List Notice) : Engine :=
  { e with notices := e.notices ++ ns }

/-- Makes a directive with an identity of its own. -/
def make (anchor : Value) (range : SourceRange) (pattern inMacroExpansion : Value) :
    Run Directive := do
  let e ← get
  let d ← Run.ofExcept (Directive.make e.made anchor range pattern inMacroExpansion)
  set { e with made := e.made + 1 }
  return d

/-- Gives notice of something. -/
def notify (n : Notice) : Run Unit := modify fun e => e.withNotices [n]

/-- Sends a diagnostic to the sink, past all filters. -/
def emit (d : Diagnostic) : Run Unit := modify fun e => e.withSent d

/-! ## Decisions -/

/-- Forwards a diagnostic to the sink. -/
def forward (d : Diagnostic) : Run Outcome := do
  emit d
  return .forwarded

/-- Decides a diagnostic by the directives of a registry. -/
def decide (g : Registry) (d : Diagnostic) : Run Outcome := do
  match ← Run.ofExcept (g.find? d.position d.message) with
  | none => forward d
  | some s =>
    modify fun e => e.withUsed s
    notify (.suppressed g.unit (.directive s.anchor))
    return .suppressed

/-- Decides diagnostics in order. -/
def decideAll (g : Registry) : List Diagnostic → Run (List Outcome)
  | [] => pure []
  | d :: rest => do
    let o ← decide g d
    let os ← decideAll g rest
    return o :: os

/-- Lets a diagnostic wait. -/
def hold (d : Diagnostic) : Run Outcome := do
  modify fun e => e.withWaiting d
  return .deferred

/-- Decides a diagnostic that no filter muffles. -/
def reportUnfiltered (p : Policy) (d : Diagnostic) : Run Outcome := do
  let e ← get
  let g := e.findRegistry d.unit
  if p.defers && (g.isNone || e.isWaiting d.unit) then hold d
  else
    match g with
    | none => forward d
    | some g => decide g d

/-- Decides a diagnostic. -/
def report (p : Policy) (d : Diagnostic) : Run Outcome := do
  if p.mayMuffle d.severity then
    match ← Run.ofExcept (p.filteredBy? d) with
    | some reason =>
      notify (.suppressed d.unit reason)
      return .suppressed
    | none => reportUnfiltered p d
  else forward d

/-- Decides a diagnostic whose severity still has to be read. -/
def intercept (p : Policy) (u : SourceUnit) (position severity message : Value) :
    Run Outcome := do
  let s ← Run.ofExcept (Severity.parse severity)
  report p ⟨u, position, s, message⟩

/-! ## Directives -/

/-- The registry of a unit, made if there is none. -/
def openRegistry (u : SourceUnit) : Run Registry := do
  let e ← get
  match e.findRegistry u with
  | some g => return g
  | none =>
    let g : Registry := { unit := u }
    set (e.withRegistry g)
    return g

/-- Registers a directive of a unit. The notice of it comes last and names the range, so where a
    bound is too long to be written, the directive is stored all the same. -/
def register (u : SourceUnit) (d : Directive) : Run Unit := do
  let g ← openRegistry u
  let (g, ns) ← Run.ofExcept (g.register d)
  modify fun e => (e.withRegistry g).withNotices ns
  let range ← Run.ofExcept d.range.written
  notify (.registered u d.anchor range d.patternText)

/-- Registers directives of a unit in order. -/
def registerAll (u : SourceUnit) : List Directive → Run Unit
  | [] => pure ()
  | d :: rest => do
    register u d
    registerAll u rest

/-- Takes the backlog of a unit. -/
def takeWaiting (u : SourceUnit) : Run (List Diagnostic) := do
  let e ← get
  set (e.withoutWaiting u)
  return e.waiting u

/-- Registers the directives of a unit and decides the diagnostics that waited for them. -/
def setDirectives (u : SourceUnit) (ds : List Directive) : Run (List Outcome) := do
  let _ ← openRegistry u
  registerAll u ds
  let waiting ← takeWaiting u
  if !waiting.isEmpty then notify (.replayed u waiting.length)
  decideAll (← openRegistry u) waiting

/-! ## Release of what waits -/

/-- Decides a diagnostic that waited; without a registry it is forwarded. -/
def release (g : Option Registry) (d : Diagnostic) : Run Outcome :=
  match g with
  | none => forward d
  | some g => decide g d

/-- Decides diagnostics that waited and tells which of them were forwarded. -/
def releaseAll (g : Option Registry) : List Diagnostic → Run (List Diagnostic)
  | [] => pure []
  | d :: rest => do
    let o ← release g d
    let passed ← releaseAll g rest
    return if o = .forwarded then d :: passed else passed

/-- Decides what waits for a unit by the directives registered so far. -/
def flush (u : SourceUnit) : Run (List Diagnostic) := do
  let waiting ← takeWaiting u
  releaseAll ((← get).findRegistry u) waiting

/-- Decides what waits for some units. -/
def flushUnits : List SourceUnit → Run (List Diagnostic)
  | [] => pure []
  | u :: rest => do
    let passed ← flush u
    let more ← flushUnits rest
    return passed ++ more

/-- Decides what waits for all units. -/
def flushAll : Run (List Diagnostic) := do
  flushUnits ((← get).backlogs.map (·.unit))

/-! ## Unused directives -/

/-- The message at a directive that muffled nothing. -/
def unusedMessage : Value := .str "this suppression has no effect"

/-- The report of a directive that muffled nothing. -/
def unusedReport (u : SourceUnit) (d : Directive) : Diagnostic :=
  ⟨u, d.anchor, .warning, unusedMessage⟩

/-- The unused directives of a unit that are to be reported. -/
def unusedOf (p : Policy) (e : Engine) (u : SourceUnit) : List Directive :=
  if p.config.checkUnused.truthy then
    match e.findRegistry u with
    | none => []
    | some g => (g.unused e.used).filter fun d => !p.exempt d
  else []

/-- Reports the unused directives of a unit, each at its anchor. -/
def reportUnused (p : Policy) (u : SourceUnit) : Run (List Directive) := do
  let ds := unusedOf p (← get) u
  modify fun e => { e with sink := e.sink ++ ds.map (unusedReport u) }
  if !ds.isEmpty then notify (.unusedReported u ds.length)
  return ds

/-! ## Capability -/

/-- The report of a missing directive marker. -/
def missingMarker : Report where
  message :=
    "suppression directives are enabled but the directive marker was not found" ++
      " - is the annotation library available to the analyzed code?"
  context := [("global_filters", .int 0), ("path_filters", .int 0)]

/-- Tells whether directives can be used; fails if they cannot and there is no filter either. -/
def requireDirectives (p : Policy) (available : Bool) : Run Bool := do
  if available then return true
  else if p.config.hasFilters then
    notify (.markerUnavailable p.config.globalFilters.length p.config.pathFilters.length)
    return false
  else throw (.missingCapability missingMarker)

end Engine

end Muffle
