/-
  Muffle.Pattern.Filter

  Filters: a pattern together with the text it was compiled from. A filter matches a text if the
  pattern matches anywhere in it. Two filters are the same if their texts are, whatever supplied
  them.
-/

import Muffle.Pattern.Compiler
import Muffle.Pattern.Matcher
import Muffle.Value.Order

namespace Muffle

/-- A compiled pattern, its text, and what supplied it. -/
structure PatternFilter where
  text : String
  program : Pattern.Program
  source : Value

namespace PatternFilter

variable [Pattern.Compiler]

/-- The fault of a pattern that is not compiled. -/
def faultOf (text : String) (source : Value) : Pattern.Rejection → Fault
  | .refused reason =>
    .invalidPattern
      { pattern := .str text
        reason := .str reason
        source := source
        anchor := .null
        located := false }
  | .failed f => .foreign f

/-- Compiles a text that `source` supplied. -/
def compileText (text : String) (source : Value) : Except Fault PatternFilter :=
  match Pattern.Compiler.compile text with
  | .ok program => .ok { text := text, program := program, source := source }
  | .error rejection => .error (faultOf text source rejection)

/-- Compiles a value, which has to be a text. -/
def compile (pattern source : Value) : Except Fault PatternFilter :=
  match pattern with
  | .str text => compileText text source
  | v => do
    v.requireHashable
    .error .patternNotText

/-- Compiles the parts of a value in order and fails with the first that cannot be compiled. -/
def compileAll (patterns source : Value) : Except Fault (List PatternFilter) := do
  (← patterns.parts).mapM fun p => compile p source

/-- Whether the pattern matches anywhere in a text. -/
def matchesText (f : PatternFilter) (s : String) : Bool :=
  f.program.search s

/-- Whether the pattern matches anywhere in a value, which has to be a text. -/
def matchesValue (f : PatternFilter) (v : Value) : Except Fault Bool :=
  match v with
  | .str s => .ok (f.matchesText s)
  | v => .error (.subjectNotText v.kind)

/-- Whether one of the filters matches; later ones are not tried. -/
def anyMatches (fs : List PatternFilter) (v : Value) : Except Fault Bool :=
  match fs with
  | [] => .ok false
  | f :: rest => do
    if ← f.matchesValue v then return true
    anyMatches rest v

/-- Whether two filters have the same text. -/
def same (f g : PatternFilter) : Bool := f.text == g.text

end PatternFilter

end Muffle
