/-
  Muffle.Command.Run

  The command line: its commands and their options.
-/

import Muffle.Command.CheckConfig
import Muffle.Command.Filter

namespace Muffle.Command

variable [Pattern.Compiler] [Yaml.Codec] [Json.Decoder] [Console.Printer]

/-! ## Options -/

/-- The option that asks for help. -/
def helpOption : OptionForm := { long := "help".toList }

/-- The options before the command. -/
def generalOptions : List OptionForm :=
  [helpOption, { long := "verbose".toList, short := some 'v' }]

/-- The options of the filter command. -/
def filterOptions : List OptionForm :=
  [helpOption, { long := "config".toList, short := some 'c', takesValue := true },
   { long := "check-unused".toList }, { long := "json".toList }]

/-- Reads the arguments of a command; help goes before what is wrong with the operands. -/
def readGiven (forms : List OptionForm) (mixed : Bool) (args : List String) : Session Given :=
  match readArguments forms mixed args with
  | .error m => throw (.usage m)
  | .ok g => if g.hasOption "help" then throw .help else pure g

/-- The only operand of a command. -/
def onlyOperand (name : String) : List String → Session String
  | [x] => pure x
  | [] => throw (.usage (.operandMissing name))
  | _ :: x :: _ => throw (.usage (.operandUnexpected x))

/-- Refuses operands. -/
def noOperands : List String → Session Unit
  | [] => pure ()
  | x :: _ => throw (.usage (.operandUnexpected x))

/-! ## Commands -/

/-- The facts that the version command prints. -/
def versionRows : List (List Char × List Char) :=
  [("Hush".toList, "v0.1.0".toList), ("Python".toList, "3.11.0".toList),
   ("Platform".toList, "linux".toList)]

/-- The command that prints the version. -/
def version : Session Unit := do
  Session.print (← Session.ofExcept (Console.Printer.printFrame "Hush".toList versionRows))

/-- Runs a command by its name. `usual` is the usual place of a configuration in a project. -/
def runCommand (tree : FileTree) (usual : Path) (name : String) (args : List String) :
    Session Unit := do
  match name with
  | "filter" =>
    let g ← readGiven filterOptions true args
    let stream ← onlyOperand "STREAM_FILE" g.operands
    filter tree usual {
      stream := Path.ofText stream
      config := (g.value? "config").map Path.ofText
      checkUnused := g.hasOption "check-unused"
      asJson := g.hasOption "json" }
  | "check-config" =>
    let g ← readGiven [helpOption] true args
    checkConfig tree usual (Path.ofText (← onlyOperand "CONFIG_FILE" g.operands))
  | "version" =>
    let g ← readGiven [helpOption] true args
    noOperands g.operands
    version
  | name => throw (.usage (.unknownCommand name))

/-- Runs a command line. -/
def session (tree : FileTree) (usual : Path) (args : List String) : Session Unit := do
  let g ← readGiven generalOptions false args
  match g.operands with
  | [] => throw (.usage .commandMissing)
  | name :: args => runCommand tree usual name args

/-- Whether a command line asks for all notices. -/
def isVerbose (args : List String) : Bool :=
  match readArguments generalOptions false args with
  | .ok g => g.hasOption "verbose"
  | .error _ => false

/-- What a command line leaves behind. -/
def run (tree : FileTree) (usual : Path) (args : List String) : Result :=
  (session tree usual args).result

end Muffle.Command
