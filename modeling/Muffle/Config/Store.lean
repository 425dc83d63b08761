/-
  Muffle.Config.Store

  Configurations in files. A file holds one YAML mapping; a missing or empty file stands for the
  default configuration. What is saved leaves out what a default configuration has anyway, but
  for the switch that reports unused directives, and names source roots as seen from the base
  directory if they lie in it.
-/

import Muffle.Config.Mapping
import Muffle.Yaml.Codec

namespace Muffle.Config

variable [Pattern.Compiler] [Yaml.Codec]

/-- Where a configuration lies: its file, or the root of a project under which the file has its
    usual place. -/
structure Location where
  file : Option Path := none
  projectRoot : Option Path := none

/-- The file of a configuration; `usual` is its place in a project. -/
def Location.resolve (l : Location) (usual : Path) : Except Fault Path :=
  match l.file, l.projectRoot with
  | some file, _ => .ok file
  | none, some root => .ok (root.join usual)
  | none, none => .error .noConfigLocation

/-! ## Loading -/

/-- A fault of a configuration file. -/
def fileFault (message : String) (file : Path) : Fault :=
  .configuration ⟨message ++ file.text, [("path", .str file.text)]⟩

/-- The value in a configuration file. -/
def readFile (tree : FileTree) (file : Path) : Except Fault Value := do
  match Yaml.Codec.load (← tree.readText file) with
  | .ok v => return v
  | .error .malformed => .error (fileFault "Invalid YAML in " file)
  | .error (.fault f) => .error f

/-- Loads a configuration. Relative source roots are seen from the root of the project, without
    one from the working directory. -/
def load (tree : FileTree) (usual : Path) (l : Location) : Noticed FilterConfig := do
  let file ← Noticed.ofExcept (l.resolve usual)
  if ← Noticed.ofExcept (tree.hasPath file) then
    match ← Noticed.ofExcept (readFile tree file) with
    | .null => return {}
    | .map es =>
      let c ← ofMapping tree es (some (l.projectRoot.getD tree.workDir))
      Noticed.notify (.configLoaded file c.globalFilters.length c.pathFilters.length
        c.sourceRoots.length)
      return c
    | _ => throw (fileFault "Expected a mapping at the top of " file)
  else
    Noticed.notify (.configNotFound file)
    return {}

/-! ## Saving -/

/-- A source root as it is saved. -/
def portableRoot (baseDir : Option Path) (root : Path) : String :=
  match baseDir with
  | some dir => if root.isWithin dir then (root.below dir).text else root.text
  | none => root.text

/-- A list of texts as it is saved; an empty one is left out. -/
def savedList (key : String) (xs : List String) : List (String × Value) :=
  if xs.isEmpty then [] else [(key, textsValue xs)]

/-- The fields of a configuration as they are saved. -/
def savedFields (c : FilterConfig) : List (String × Value) :=
  savedList "global_filters" (c.globalFilters.map (·.text)) ++
  savedList "path_filters" (c.pathFilters.map (·.text)) ++
  savedList "source_roots" (c.sourceRoots.map (portableRoot c.baseDir)) ++
  [("check_unused", c.checkUnused)] ++
  (if c.reportUnusedInMacroExpansion.truthy then []
   else [("report_unused_in_macro_expansion", .bool false)]) ++
  (if c.deferUnregistered.truthy then [("defer_unregistered", .bool true)] else []) ++
  (if c.suppressible = Severity.all then []
   else [("suppressible_severities", textsValue (c.suppressible.map (·.word)))])

/-- The text of a configuration file. -/
def savedText (c : FilterConfig) : List Char :=
  Yaml.Codec.dump ((savedFields c).map fun f => (String.ofList (Text.camelCase f.1.toList), f.2))

/-- Saves a configuration; directories on the way to its file are made. -/
def save (tree : FileTree) (usual : Path) (l : Location) (c : FilterConfig) :
    Except Fault FileTree := do
  let file ← l.resolve usual
  let tree ← tree.ensurePath file.parent
  tree.write file (Text.writeUtf8 (savedText c))

end Muffle.Config
