/-
  Muffle.Console.Printer

  Printing on a console. The program leaves it to a library, which may fail: at markup that does
  not fit together, or at text that the console cannot show. So everything that is printed is
  written for any such library, and the program runs with the standard one. Units and messages are
  escaped, so that what looks like a tag in them is printed as it is.
-/

import Muffle.Diagnostic

namespace Muffle.Console

/-- A library for printing. Its functions give what is printed. -/
class Printer where
  /-- A value as markup that shows it; the value has to be a text. -/
  escape : Value → Except Fault (List Char)
  printMarkup : List Char → Except Fault (List Char)
  printJson : Value → Except Fault (List Char)
  /-- A table with a title, the width of its labels, and rows of a label and markup. -/
  printTable : List Char → Nat → List (List Char × List Char) → Except Fault (List Char)
  /-- A frame with a title around rows of two texts. -/
  printFrame : List Char → List (List Char × List Char) → Except Fault (List Char)

variable [Printer]

/-- The style of a severity. -/
def severityStyle : Severity → String
  | .info => "dim"
  | .warning => "yellow"
  | .error => "red bold"

/-- A text between tags that switch a style on and off. -/
def styled (style : String) (cs : List Char) : List Char :=
  '[' :: style.toList ++ ']' :: cs ++ '[' :: '/' :: style.toList ++ [']']

/-- The markup of a diagnostic. -/
def diagnosticMarkup (d : Diagnostic) : Except Fault (List Char) := do
  let place ← Printer.escape (.str (← d.place))
  let message ← Printer.escape d.message
  return styled "cyan" place ++ ": ".toList ++
    styled (severityStyle d.severity) d.severity.word.toList ++ ": ".toList ++ message

/-- What is printed for a diagnostic. -/
def printDiagnostic (d : Diagnostic) : Except Fault (List Char) := do
  Printer.printMarkup (← diagnosticMarkup d)

/-- What is printed for diagnostics in order, and the fault that ended the printing, if any. -/
def printDiagnostics : List Diagnostic → List Char × Option Fault
  | [] => ([], none)
  | d :: rest =>
    match printDiagnostic d with
    | .ok text =>
      let (more, fault) := printDiagnostics rest
      (text ++ more, fault)
    | .error f => ([], some f)

end Muffle.Console
