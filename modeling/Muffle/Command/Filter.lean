/-
  Muffle.Command.Filter

  The command that runs a recorded stream through the engine and prints what is let through. It
  fails if an error is let through.
-/

import Muffle.Command.Session
import Muffle.Config.Store
import Muffle.Engine.Stream
import Muffle.Json.Decoder

namespace Muffle.Command

variable [Pattern.Compiler] [Yaml.Codec] [Json.Decoder] [Console.Printer]

/-- What the command is to do. -/
structure FilterRequest where
  stream : Path
  config : Option Path := none
  checkUnused : Bool := false
  asJson : Bool := false

/-! ## The stream -/

/-- A fault of a stream file. -/
def streamFault (file : Path) (message : String) : Fault :=
  .configuration ⟨message, [("path", .str file.text)]⟩

/-- The units of a recorded stream. -/
def loadStream (tree : FileTree) (file : Path) : Except Fault Value := do
  let cs ← tree.readText file
  match Json.Decoder.decode cs with
  | .error (.malformed c left) =>
    .error (streamFault file ("Invalid JSON in " ++ file.text ++ ": " ++ c.located cs left))
  | .error (.tooManyDigits n) => .error (.tooManyDigits n)
  | .error .unpaired => .error .unpairedHalf
  | .error (.failed f) => .error (.foreign f)
  | .ok (.map es) =>
    match Value.lookupIn (.str "units") es with
    | some (.list units) => return .list units
    | _ => .error (streamFault file ("Expected a 'units' list in " ++ file.text))
  | .ok _ => .error (streamFault file ("Expected a 'units' list in " ++ file.text))

/-- The configuration of a request; unused directives are reported if either asks for it. -/
def FilterRequest.loadConfig (r : FilterRequest) (tree : FileTree) (usual : Path) :
    Noticed FilterConfig := do
  let c ← match r.config with
    | some file => Config.load tree usual { file := some file }
    | none => pure {}
  return if r.checkUnused ∧ ¬c.checkUnused.truthy then { c with checkUnused := .bool true } else c

/-- Runs the stream of a request. -/
def FilterRequest.runStream (r : FilterRequest) (tree : FileTree) (usual : Path) :
    Noticed Stream.Result := do
  let c ← r.loadConfig tree usual
  let units ← Noticed.ofExcept (loadStream tree r.stream)
  let (s, ns) := Stream.run ⟨c, tree.workDir⟩ units
  modify (· ++ ns)
  Noticed.ofExcept s

/-! ## The command -/

/-- The result of a run; a report, or a fault that a malformed stream causes, ends the command. -/
def requireResult (x : Except Fault Stream.Result) : Session Stream.Result :=
  match x with
  | .ok s => pure s
  | .error f =>
    if f.isReport then Session.fail "[red]Error:[/red]" f.message
    else if f.isMalformed then Session.fail "[red]Malformed stream:[/red]" f.message
    else throw (.fault f)

/-- Prints diagnostics as JSON. -/
def printJson (ds : List Diagnostic) : Session Unit := do
  Session.print (← Session.ofExcept
    (Console.Printer.printJson (.list (ds.map Diagnostic.toJson))))

/-- Prints diagnostics on lines of their own, up to one that cannot be printed. -/
def printLines (ds : List Diagnostic) : Session Unit := do
  let (text, fault) := Console.printDiagnostics ds
  Session.print text
  match fault with
  | some f => throw (.fault f)
  | none => pure ()

/-- The line that tells how much was muffled. -/
def summaryMarkup (c : Counts) : List Char :=
  Console.styled "dim" "suppressed:".toList ++ ' ' :: (toString c.suppressed).toList ++
    "  ".toList ++ Console.styled "dim" "forwarded:".toList ++ ' ' ::
    (toString c.forwarded).toList

/-- The command. -/
def filter (tree : FileTree) (usual : Path) (r : FilterRequest) : Session Unit := do
  Session.requirePath tree r.stream
  let (x, ns) := (r.runStream tree usual).on []
  Session.keep ns
  let s ← requireResult x
  if r.asJson then printJson s.sink
  else
    printLines s.sink
    Session.printMarkup (summaryMarkup s.counts)
  if s.sink.any fun d => d.severity == .error then throw (.exit 1)

end Muffle.Command
