/-
  Muffle.Settings.EnvFile

  Files of settings, one `KEY=value` on a line, with an optional `export` before it. A value stands
  in single quotes, in double quotes, where backslash escapes count, or in none; unquoted, it ends
  before a comment. A line that cannot be read is skipped. `${NAME}` in a value stands for a
  variable of the environment or of an earlier line, and `${NAME:-default}` names what to take
  without one.
-/

import Muffle.Text.Blank
import Muffle.Text.Quoted

namespace Muffle.Settings.EnvFile

open Text

/-! ## Reading -/

/-- A variable of a file; one without `=` has no value. -/
abbrev Binding := List Char × Option (List Char)

/-- A blank within a line. -/
def isInlineBlank (c : Char) : Bool := isBlank c && c != '\n' && c != '\r'

/-- A text without the blanks at its start that stay within the line. -/
def skipInline (cs : List Char) : List Char := cs.dropWhile isInlineBlank

/-- A character within a line. -/
def isInLine (c : Char) : Bool := c != '\n' && c != '\r'

/-- What comes after the end of a line. -/
def skipLineEnd : List Char → List Char
  | '\r' :: '\n' :: rest => rest
  | c :: rest => if isInLine c then c :: rest else rest
  | [] => []

/-- What comes after the line. -/
def skipLine (cs : List Char) : List Char := skipLineEnd (cs.dropWhile isInLine)

/-- What comes after the word `export`, if blanks follow it. -/
def skipExport (cs : List Char) : List Char :=
  let rest := cs.drop 6
  if "export".toList.isPrefixOf cs ∧ (rest.head?.any isInlineBlank) then skipInline rest else cs

/-- The text up to a closing quote, and what follows it; a backslash keeps a quote from closing.
    The backslashes stay in the text. -/
def quotedBody? (quote : Char) : List Char → Option (List Char × List Char)
  | [] => none
  | '\\' :: c :: rest =>
    if c = quote then
      match quotedBody? quote rest with
      | some (body, rest) => some ('\\' :: c :: body, rest)
      | none => some (['\\'], rest)
    else (quotedBody? quote (c :: rest)).map fun b => ('\\' :: b.1, b.2)
  | c :: rest =>
    if c = quote then some ([], rest)
    else (quotedBody? quote rest).map fun b => (c :: b.1, b.2)

/-- The name at the start of a line and what follows it; none if there is no name. -/
def name? (cs : List Char) : Option (List Char × List Char) :=
  match cs with
  | '\'' :: rest =>
    let name := rest.takeWhile (· != '\'')
    let rest := rest.drop name.length
    if name.isEmpty ∨ rest.isEmpty then none else some (name, rest.tail)
  | cs =>
    let name := cs.takeWhile fun c => c != '=' && c != '#' && !isBlank c
    if name.isEmpty then none else some (name, cs.drop name.length)

/-- The character for a letter after a backslash in double quotes. -/
def escaped (c : Char) : Char :=
  match c with
  | 'a' => '\x07'
  | 'b' => '\x08'
  | 'f' => '\x0c'
  | 'n' => '\n'
  | 'r' => '\r'
  | 't' => '\t'
  | 'v' => '\x0b'
  | c => c

/-- A text with its escapes read; those of other letters than `letters` stay as they are. -/
def unescape (letters : List Char) : List Char → List Char
  | '\\' :: c :: rest =>
    if letters.contains c then escaped c :: unescape letters rest
    else '\\' :: unescape letters (c :: rest)
  | c :: rest => c :: unescape letters rest
  | [] => []

/-- An unquoted value: up to a `#` after a blank, without the blanks at its end. -/
def unquoted (cs : List Char) : List Char :=
  let rec upToComment (after : Bool) : List Char → List Char
    | [] => []
    | c :: rest => if after ∧ c = '#' then [] else c :: upToComment (isBlank c) rest
  stripRight (upToComment false cs)

/-- The value after the equals sign and what follows it. -/
def value? (cs : List Char) : Option (List Char × List Char) :=
  match cs with
  | '\'' :: rest => (quotedBody? '\'' rest).map fun b => (unescape ['\\', '\''] b.1, b.2)
  | '"' :: rest =>
    (quotedBody? '"' rest).map fun b => (unescape "\\'\"abfnrtv".toList b.1, b.2)
  | cs =>
    let line := cs.takeWhile isInLine
    some (unquoted line, cs.drop line.length)

/-- What follows a binding: nothing or a comment, up to the end of the line. -/
def lineEnd? (cs : List Char) : Option (List Char) :=
  let cs := match skipInline cs with
    | '#' :: rest => rest.dropWhile isInLine
    | rest => rest
  match cs with
  | [] => some []
  | c :: rest => if isInLine c then none else some (skipLineEnd (c :: rest))

/-- One line: its binding, if it has one, and what follows it. A line that cannot be read is left
    at the place where reading it ended. -/
def binding (cs : List Char) : Option Binding × List Char :=
  let cs := skipExport cs
  let name := if cs.head? = some '#' then some (none, cs)
    else (name? cs).map fun n => (some n.1, n.2)
  match name with
  | none => (none, skipLine cs)
  | some (name, rest) =>
    match skipInline rest with
    | '=' :: rest =>
      let rest := skipInline rest
      match value? rest with
      | none => (none, skipLine rest)
      | some (v, rest) =>
        match lineEnd? rest with
        | some rest => (name.map fun n => (n, some v), rest)
        | none => (none, skipLine rest)
    | rest =>
      match lineEnd? rest with
      | some rest => (name.map fun n => (n, none), rest)
      | none => (none, skipLine rest)

/-- The bindings of a text; `fuel` bounds the number of lines. -/
def bindingsFrom : Nat → List Char → List Binding
  | 0, _ => []
  | fuel + 1, cs =>
    match cs.dropWhile isBlank with
    | [] => []
    | cs =>
      let (b, rest) := binding cs
      b.toList ++ bindingsFrom fuel rest

/-- The bindings of a text. -/
def bindings (cs : List Char) : List Binding := bindingsFrom (cs.length + 1) cs

/-! ## Variables in values -/

/-- The variable at the start of a text: its name, its default and what follows it. -/
def variableAt : List Char → Option (List Char × List Char × List Char)
  | '$' :: '{' :: rest =>
    let name := rest.takeWhile fun c => c != '}' && c != ':'
    match rest.drop name.length with
    | '}' :: rest => some (name, [], rest)
    | ':' :: '-' :: rest =>
      let default := rest.takeWhile (· != '}')
      match rest.drop default.length with
      | '}' :: rest => some (name, default, rest)
      | _ => none
    | _ => none
  | _ => none

/-- A value with its variables replaced, which are looked up in `env`; `fuel` bounds its length. -/
def expandFrom (env : List (List Char × List Char)) : Nat → List Char → List Char
  | 0, _ => []
  | fuel + 1, cs =>
    match variableAt cs with
    | some (name, default, rest) =>
      ((env.lookup name).getD default) ++ expandFrom env fuel rest
    | none =>
      match cs with
      | [] => []
      | c :: rest => c :: expandFrom env fuel rest

/-- A value with its variables replaced. -/
def expand (env : List (List Char × List Char)) (cs : List Char) : List Char :=
  expandFrom env (cs.length + 1) cs

/-- Bindings with the variables in their values replaced; what comes first in `env` counts, and
    each line counts for those after it. -/
def expandAll (env : List (List Char × List Char)) : List Binding → List Binding
  | [] => []
  | (name, none) :: rest => (name, none) :: expandAll ((name, []) :: env) rest
  | (name, some v) :: rest =>
    let v := expand env v
    (name, some v) :: expandAll ((name, v) :: env) rest

/-- A variable set to a value, at its place if it is there already. -/
def setVariable (b : Binding) : List Binding → List Binding
  | [] => [b]
  | a :: rest => if a.1 = b.1 then b :: rest else a :: setVariable b rest

/-- The variables of a text of settings, each with its last value. -/
def read (env : List (List Char × List Char)) (cs : List Char) : List Binding :=
  (expandAll env (bindings cs)).foldl (fun bs b => setVariable b bs) []

end Muffle.Settings.EnvFile
