/-
  Muffle.Command.Session

  A session of a command: what it prints, the notices it gives, and how it ends. A command ends
  with an exit code of its own, because it was called in a wrong way, or because of a fault that it
  does not handle; what it printed before stays printed.
-/

import Muffle.Command.Arguments
import Muffle.Console.Printer
import Muffle.FileTree
import Muffle.Notice

namespace Muffle.Command

/-- How a command ends. -/
inductive Ending where
  | exit (code : Nat)
  | help
  | usage (misuse : Misuse)
  | fault (fault : Fault)

/-- The exit code of an ending. -/
def Ending.exitCode : Ending → Nat
  | .exit code => code
  | .help => 0
  | .usage _ => 2
  | .fault _ => 1

/-- What a command leaves behind. -/
structure Transcript where
  printed : List Char := []
  notices : List Notice := []

/-- A command at work. An ending other than that of the work itself is thrown. -/
abbrev Session := ExceptT Ending (StateM Transcript)

/-- A command that has ended. -/
structure Result extends Transcript where
  ending : Ending

namespace Session

variable [Console.Printer]

/-- Runs a command to its end. -/
def result (x : Session Unit) : Result :=
  let (r, t) := (ExceptT.run x).run {}
  match r with
  | .ok () => { t with ending := .exit 0 }
  | .error e => { t with ending := e }

/-- A step without output; its faults are not handled. -/
def ofExcept {α : Type} (x : Except Fault α) : Session α :=
  ExceptT.mk (pure (x.mapError .fault))

/-- Prints a text as it is. -/
def print (cs : List Char) : Session Unit :=
  modify fun t => { t with printed := t.printed ++ cs }

/-- Prints markup. -/
def printMarkup (markup : List Char) : Session Unit := do
  print (← ofExcept (Console.Printer.printMarkup markup))

/-- Keeps notices. -/
def keep (ns : List Notice) : Session Unit :=
  modify fun t => { t with notices := t.notices ++ ns }

/-- Prints why the command fails, as markup after a heading, and ends it. -/
def failWith {α : Type} (heading : String) (markup : List Char) : Session α := do
  printMarkup (heading.toList ++ ' ' :: markup)
  throw (.exit 1)

/-- The same for a plain text. -/
def fail {α : Type} (heading : String) (message : String) : Session α := do
  failWith heading (← ofExcept (Console.Printer.escape (.str message)))

/-- Ends the command unless there is something at a path. The path is printed as markup. -/
def requirePath (tree : FileTree) (p : Path) : Session Unit := do
  if ← ofExcept (tree.hasPath p) then return
  failWith "[red]Error:[/red]" ("File not found: ".toList ++ p.text.toList)

end Session

end Muffle.Command
