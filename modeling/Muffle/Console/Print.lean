/-
  Muffle.Console.Print

  The library for printing that the program runs with: a wide console without colours, which shows
  any text.
-/

import Muffle.Console.Markup
import Muffle.Console.Printer
import Muffle.Console.Table
import Muffle.Json.Writer

namespace Muffle.Console

/-- The width of the console in cells. -/
def lineWidth : Nat := 1000

/-- Lines as they are printed. -/
def printed (lines : List (List Char)) : List Char := lines.flatMap fun l => l ++ ['\n']

/-- What is printed for markup. -/
def printMarkup (markup : List Char) : Except Fault (List Char) := do
  return printed (layOut lineWidth .fold (← Markup.shown markup))

/-- A value as markup. -/
def escapeValue (v : Value) : Except Fault (List Char) :=
  match v with
  | .str s => .ok (Markup.escape s.toList)
  | v => .error (.subjectNotText v.kind)

/-- What is printed for a table; its rows show what their markup says. -/
def printTable (title : List Char) (labelWidth : Nat) (rows : List (List Char × List Char)) :
    Except Fault (List Char) := do
  let rows ← rows.mapM fun r => do return (⟨r.1, ← Markup.shown r.2⟩ : Row)
  return printed (tableLines lineWidth labelWidth title rows)

/-- The standard library. -/
instance standard : Printer where
  escape := escapeValue
  printMarkup := printMarkup
  printJson v := .ok ((Json.indented 0 v).toList ++ ['\n'])
  printTable := printTable
  printFrame title rows := .ok (printed (frameLines title (rows.map fun r => ⟨r.1, r.2⟩)))

end Muffle.Console
