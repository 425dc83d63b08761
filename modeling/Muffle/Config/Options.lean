/-
  Muffle.Config.Options

  Configurations from the options of a host. An option is `key=value`, where the value lists
  texts between semicolons, or the key alone for the one switch that options can turn on. Options
  for one key add up; those that are not known are passed over.
-/

import Muffle.Config.Build
import Muffle.Text.KeyCase

namespace Muffle.Config

variable [Pattern.Compiler]

/-- What separates the texts of a list. -/
def listSeparator : Char := ';'

/-- The texts between separators, without empty ones. -/
def listTexts (cs : List Char) : List String :=
  ((Text.splitAtChar listSeparator cs).filter (· != [])).map String.ofList

/-- The lists of texts and the switch that options set. -/
structure OptionSet where
  globalFilters : List String := []
  pathFilters : List String := []
  sourceRoots : List String := []
  checkUnused : Bool := false

/-- One option: its key, and its value if there is an equals sign. -/
structure HostOption where
  key : String
  value : Option (List Char)

/-- Reads an option; the key may have blanks around it and may be in either spelling. -/
def HostOption.read (cs : List Char) : HostOption :=
  let (key, rest) := (cs.takeWhile (· != '='), cs.dropWhile (· != '='))
  { key := String.ofList (Text.snakeCase (Text.strip key))
    value := match rest with
      | [] => none
      | _ :: value => some value }

/-- Adds an option, if it is known. -/
def OptionSet.add? (s : OptionSet) (o : HostOption) : Option OptionSet :=
  match o.value with
  | some cs =>
    let texts := listTexts cs
    if o.key = "global_filters" then some { s with globalFilters := s.globalFilters ++ texts }
    else if o.key = "path_filters" then some { s with pathFilters := s.pathFilters ++ texts }
    else if o.key = "source_roots" then some { s with sourceRoots := s.sourceRoots ++ texts }
    else none
  | none => if o.key = "check_unused" then some { s with checkUnused := true } else none

/-- Adds options in order; notice is given of those that are not known. -/
def OptionSet.addAll (s : OptionSet) : List Value → Noticed OptionSet
  | [] => pure s
  | .str text :: rest =>
    match s.add? (HostOption.read text.toList) with
    | some s => s.addAll rest
    | none => do
      Noticed.notify (.unknownOption text)
      s.addAll rest
  | v :: _ => throw (.noOperation v.kind "partition")

/-- A list of texts as a value. -/
def textsValue (xs : List String) : Value := .list (xs.map .str)

/-- The raw values that options set. -/
def OptionSet.toRaw (s : OptionSet) (baseDir : Option Path) : RawConfig :=
  { globalFilters := textsValue s.globalFilters
    pathFilters := textsValue s.pathFilters
    sourceRoots := textsValue s.sourceRoots
    checkUnused := .bool s.checkUnused
    baseDir := baseDir }

/-- The configuration for the options of a host. -/
def ofOptions (tree : FileTree) (options : Value) (baseDir : Option Path) :
    Noticed FilterConfig := do
  let s ← OptionSet.addAll {} (← Noticed.ofExcept options.parts)
  (s.toRaw baseDir).build tree

end Muffle.Config
