/-
  Muffle.FilterConfig

  The configuration of filters: which messages and which units are muffled everywhere, which
  severities may be muffled at all, and how directives are treated. Source roots are the
  directories from which units are named when path filters look at them.
-/

import Muffle.Diagnostic
import Muffle.Path
import Muffle.Pattern.Filter

namespace Muffle

/-- A configuration. The three switches count by whether they are true; a host may hand over any
    value for them. -/
structure FilterConfig where
  globalFilters : List PatternFilter := []
  pathFilters : List PatternFilter := []
  sourceRoots : List Path := []
  checkUnused : Value := .bool false
  reportUnusedInMacroExpansion : Value := .bool true
  deferUnregistered : Value := .bool false
  /-- The severities that may be muffled, in the order of all severities. -/
  suppressible : List Severity := Severity.all
  /-- What relative paths are seen from; the working directory if absent. -/
  baseDir : Option Path := none

namespace FilterConfig

/-- The set of severities in a list, in the order of all severities. -/
def severitySet (xs : List Severity) : List Severity :=
  Severity.all.filter xs.contains

/-- Whether any filter is configured. -/
def hasFilters (c : FilterConfig) : Bool :=
  !c.globalFilters.isEmpty || !c.pathFilters.isEmpty

/-- Whether two lists of filters have the same texts. -/
def sameFilters (fs gs : List PatternFilter) : Bool :=
  fs.map (·.text) == gs.map (·.text)

/-- Whether two configurations are the same; what supplied a filter does not matter. -/
def same (c d : FilterConfig) : Bool :=
  sameFilters c.globalFilters d.globalFilters && sameFilters c.pathFilters d.pathFilters &&
    c.sourceRoots == d.sourceRoots && c.checkUnused.same d.checkUnused &&
    c.reportUnusedInMacroExpansion.same d.reportUnusedInMacroExpansion &&
    c.deferUnregistered.same d.deferUnregistered && c.suppressible == d.suppressible &&
    c.baseDir == d.baseDir

/-! ## Names of units below source roots -/

/-- A path, normalized from the base directory. -/
def absolute (c : FilterConfig) (workDir p : Path) : Path :=
  (c.baseDir.getD workDir).resolve p

/-- The number of components of a path, its root counted. -/
def depth (p : Path) : Nat :=
  p.parts.length + (if p.isAbsolute then 1 else 0)

/-- The deepest of some paths, the first one of the same depth. -/
def deepest? : List Path → Option Path
  | [] => none
  | p :: rest =>
    match deepest? rest with
    | some q => if depth p < depth q then some q else some p
    | none => some p

/-- The source root that a normalized path lies in: the deepest one if there are several. -/
def rootOf? (c : FilterConfig) (workDir p : Path) : Option Path :=
  deepest? ((c.sourceRoots.map (c.absolute workDir)).filter p.isWithin)

/-- The text of a path as seen from its source root; the text itself without such a root. -/
def relativizeText (c : FilterConfig) (workDir : Path) (s : String) : String :=
  let p := c.absolute workDir (Path.ofText s)
  match c.rootOf? workDir p with
  | some root => (p.below root).text
  | none => s

/-- The same for a value, which has to be a text if there are source roots. -/
def relativize (c : FilterConfig) (workDir : Path) (v : Value) : Except Fault Value :=
  if c.sourceRoots.isEmpty then .ok v
  else
    match v with
    | .str s => .ok (.str (c.relativizeText workDir s))
    | v => .error (.pathNotText v.kind)

end FilterConfig

end Muffle
