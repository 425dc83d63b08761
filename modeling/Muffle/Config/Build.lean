/-
  Muffle.Config.Build

  Building a configuration from raw values: patterns are compiled, severities read, and source
  roots kept if they are directories, as normalized absolute paths. What is wrong with a pattern
  or a severity is a fault of the configuration, with the option that it came from.
-/

import Muffle.FileTree
import Muffle.FilterConfig
import Muffle.Notice

namespace Muffle

/-- The raw values of a configuration. Null severities stand for all of them. -/
structure RawConfig where
  globalFilters : Value := .list []
  pathFilters : Value := .list []
  sourceRoots : Value := .list []
  checkUnused : Value := .bool false
  reportUnusedInMacroExpansion : Value := .bool true
  deferUnregistered : Value := .bool false
  severities : Value := .null
  baseDir : Option Path := none

namespace RawConfig

variable [Pattern.Compiler]

/-- Compiles the patterns of an option. -/
def compileOption (option : String) (patterns : Value) : Except Fault (List PatternFilter) :=
  match PatternFilter.compileAll patterns (.str option) with
  | .error (.invalidPattern p) =>
    .error (.configuration ⟨p.message, p.context ++ [("option", p.source)]⟩)
  | r => r

/-- Reads one severity. -/
def readSeverity (v : Value) : Except Fault Severity :=
  match Severity.parse v with
  | .ok s => .ok s
  | .error f =>
    .error (.configuration ⟨f.message, [("option", .str "suppressibleSeverities")]⟩)

/-- Reads severities, all of them if none are given. -/
def readSeverities (v : Value) : Except Fault (List Severity) :=
  match v with
  | .null => .ok Severity.all
  | v => do return FilterConfig.severitySet (← (← v.parts).mapM readSeverity)

/-- The path that a value names. -/
def pathOf (v : Value) : Except Fault Path :=
  match v with
  | .str s => .ok (Path.ofText s)
  | v => .error (.pathNotText v.kind)

/-- The absolute paths of those roots that are directories; notice is given of the others. A root
    that the system denies to look at is a fault. -/
def validRoots (tree : FileTree) (baseDir : Option Path) : List Value → Noticed (List Path)
  | [] => pure []
  | root :: rest => do
    let p ← Noticed.ofExcept (pathOf root)
    let candidate := match baseDir with
      | some dir => dir.join p
      | none => p
    if ← Noticed.ofExcept (tree.isDirectory candidate) then
      return tree.absolute candidate :: (← validRoots tree baseDir rest)
    else
      Noticed.notify (.invalidSourceRoot root.text)
      validRoots tree baseDir rest

/-- Builds the configuration. -/
def build (tree : FileTree) (raw : RawConfig) : Noticed FilterConfig := do
  let globals ← Noticed.ofExcept (compileOption "globalFilters" raw.globalFilters)
  let paths ← Noticed.ofExcept (compileOption "pathFilters" raw.pathFilters)
  let severities ← Noticed.ofExcept (readSeverities raw.severities)
  let roots ← validRoots tree raw.baseDir (← Noticed.ofExcept raw.sourceRoots.parts)
  return {
    globalFilters := globals
    pathFilters := paths
    sourceRoots := roots
    checkUnused := raw.checkUnused
    reportUnusedInMacroExpansion := raw.reportUnusedInMacroExpansion
    deferUnregistered := raw.deferUnregistered
    suppressible := severities
    baseDir := raw.baseDir.map tree.absolute }

/-! ## Options by name -/

/-- Sets the raw value with a name in snake case. -/
def set (raw : RawConfig) (name : String) (v : Value) : Except Fault RawConfig :=
  match name with
  | "global_filters" => .ok { raw with globalFilters := v }
  | "path_filters" => .ok { raw with pathFilters := v }
  | "source_roots" => .ok { raw with sourceRoots := v }
  | "check_unused" => .ok { raw with checkUnused := v }
  | "report_unused_in_macro_expansion" => .ok { raw with reportUnusedInMacroExpansion := v }
  | "defer_unregistered" => .ok { raw with deferUnregistered := v }
  | "suppressible_severities" => .ok { raw with severities := v }
  | name => .error (.unknownOption name)

/-- Sets raw values in order. -/
def setAll (raw : RawConfig) (fields : List (String × Value)) : Except Fault RawConfig :=
  fields.foldlM (fun raw f => raw.set f.1 f.2) raw

end RawConfig

end Muffle
