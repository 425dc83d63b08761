/-
  Muffle.Command.CheckConfig

  The command that checks a configuration file and prints what it says in a table.
-/

import Muffle.Command.Session
import Muffle.Config.Store

namespace Muffle.Command

variable [Pattern.Compiler] [Yaml.Codec] [Console.Printer]

/-- The width of the labels in the table. -/
def labelWidth : Nat := 30

/-- Texts, separated by commas. -/
def joined (xs : List String) : String := ", ".intercalate xs

/-- The markup of a list of texts; an empty one is named so. -/
def listMarkup (xs : List String) : Except Fault (List Char) := do
  match ← Console.Printer.escape (.str (joined xs)) with
  | [] => return "[dim]none[/dim]".toList
  | cs => return cs

/-- The rows of the table, with markup for what they say. -/
def configRows (c : FilterConfig) : Except Fault (List (List Char × List Char)) := do
  let globals ← listMarkup (c.globalFilters.map (·.text))
  let paths ← listMarkup (c.pathFilters.map (·.text))
  let roots ← listMarkup (c.sourceRoots.map Path.text)
  let unused := if c.checkUnused.truthy then "[green]✓ on[/green]" else "[dim]off[/dim]"
  return [("Global Filters".toList, globals), ("Path Filters".toList, paths),
    ("Source Roots".toList, roots), ("Check Unused".toList, unused.toList),
    ("Severities".toList, (joined (c.suppressible.map (·.word))).toList)]

/-- What is printed for a valid configuration. -/
def configTable (c : FilterConfig) : Except Fault (List Char) := do
  Console.Printer.printTable "Configuration Summary".toList labelWidth (← configRows c)

/-- The configuration that was loaded; a fault of the configuration ends the command. -/
def requireConfig (x : Except Fault FilterConfig) : Session FilterConfig :=
  match x with
  | .ok c => pure c
  | .error (.configuration r) =>
    Session.fail "\n[red]Configuration Error:[/red]" r.message
  | .error f => throw (.fault f)

/-- The command. -/
def checkConfig (tree : FileTree) (usual file : Path) : Session Unit := do
  Session.requirePath tree file
  let (x, ns) := (Config.load tree usual { file := some file }).on []
  Session.keep ns
  let c ← requireConfig x
  Session.print (← Session.ofExcept (configTable c))
  Session.printMarkup "[green]✓ Configuration is valid[/green]".toList

end Muffle.Command
