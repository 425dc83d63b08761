/-
  Muffle.Yaml.ScalarStyle

  Writing scalars. A text is written plain if it reads back as the same text, else in single
  quotes, and in double quotes if it holds characters that have to be escaped or gaps that a line
  break would lose. Long lines are broken at single spaces.
-/

import Muffle.Text.Quoted
import Muffle.Yaml.Node

namespace Muffle.Yaml

/-- Lines are broken at the first chance after this column. -/
def bestWidth : Nat := 80

/-! ## Choosing a style -/

/-- How a scalar is written. -/
inductive Style where
  | plain
  | single
  | double
deriving DecidableEq, Repr

/-- Whether a character has to be escaped. -/
def isSpecial (c : Char) : Bool :=
  let n := c.toNat
  !(c == '\n' || (0x20 ≤ n && n ≤ 0x7e) ||
    ((n == 0x85 || (0xa0 ≤ n && n ≤ 0xd7ff) || (0xe000 ≤ n && n ≤ 0xfffd) ||
      (0x10000 ≤ n && n < 0x10ffff)) && n != 0xfeff))

/-- Whether a space and a line break stand next to each other, in this order or the other. -/
def hasLooseBreak : List Char → Bool
  | c :: d :: rest =>
    (c == ' ' && isBreak d) || (isBreak c && d == ' ') || hasLooseBreak (d :: rest)
  | _ => false

/-- White space, as it counts around indicators. -/
def isAnyGap (c : Char) : Bool := isGap c || c == '\r' || c == '\x00' || isBreak c

/-- Whether a word ends before this text, with all white space counted. -/
def endsAnyWord : List Char → Bool
  | [] => true
  | c :: _ => isAnyGap c

/-- Whether the start of a text would be read as something else than text. -/
def startsAmbiguous : List Char → Bool
  | [] => false
  | '-' :: '-' :: '-' :: _ => true
  | '.' :: '.' :: '.' :: _ => true
  | c :: rest =>
    "#,[]\x7b\x7d&*!|>'\"%@\x60".toList.contains c ||
      ((c == '?' || c == ':' || c == '-') && endsAnyWord rest)

/-- Whether what follows a character holds the mark of a value or of a comment. -/
def holdsMark (afterGap : Bool) : List Char → Bool
  | [] => false
  | c :: rest =>
    (c == ':' && endsAnyWord rest) || (c == '#' && afterGap) || holdsMark (isAnyGap c) rest

/-- Whether a text starts or ends with a space or a line break. -/
def hasLooseEnd (cs : List Char) : Bool :=
  let isLoose (c : Char) : Bool := c == ' ' || isBreak c
  cs.head?.any isLoose || cs.getLast?.any isLoose

/-- Whether a text may be written plain. -/
def allowsPlain (cs : List Char) : Bool :=
  !cs.any isSpecial && !cs.any isBreak && !hasLooseEnd cs && !startsAmbiguous cs &&
    (match cs with
     | [] => true
     | c :: rest => !holdsMark (isAnyGap c) rest)

/-- Whether a text may be written in single quotes. -/
def allowsSingle (cs : List Char) : Bool := !cs.any isSpecial && !hasLooseBreak cs

/-- The style of a text; `isKey` tells whether it has to stay on one line. -/
def styleOf (isKey : Bool) (cs : List Char) : Style :=
  if Tag.ofPlain cs = .str ∧ allowsPlain cs then .plain
  else if allowsSingle cs ∧ ¬(isKey ∧ cs.any isBreak) then .single
  else .double

/-! ## Plain scalars -/

/-- Where a text goes on: whether it may be broken, how far its further lines are indented, and
    the column. -/
structure Pen where
  split : Bool
  indent : Nat
  column : Nat

namespace Pen

/-- Spaces. -/
def spaces (n : Nat) : List Char := List.replicate n ' '

/-- A new line. -/
def newLine (p : Pen) : List Char := '\n' :: spaces p.indent

/-- At the start of a new line. -/
def atNewLine (p : Pen) : Pen := { p with column := p.indent }

/-- After `n` more characters. -/
def move (p : Pen) (n : Nat) : Pen := { p with column := p.column + n }

/-- Whether a line is to be broken. -/
def isFull (p : Pen) : Bool := p.split && bestWidth < p.column

end Pen

/-- Writes a plain text; `pending` spaces wait to be written or to become a line break. -/
def writePlain (p : Pen) (pending : Nat) : List Char → List Char
  | [] => Pen.spaces pending
  | c :: rest =>
    if c = ' ' then writePlain p (pending + 1) rest
    else if pending = 1 ∧ p.isFull then
      p.newLine ++ c :: writePlain (p.atNewLine.move 1) 0 rest
    else Pen.spaces pending ++ c :: writePlain (p.move (pending + 1)) 0 rest

/-! ## Single quotes -/

/-- What waits to be written: nothing, spaces (at the start of the text or not), or line
    breaks. -/
inductive Waiting where
  | nothing
  | spaces (count : Nat) (atStart : Bool)
  | breaks (bs : List Char)

/-- A run of line breaks inside quotes: a run that starts with a line feed gets one more. -/
def writeBreaks (bs : List Char) : List Char :=
  (if bs.head? = some '\n' then ['\n'] else []) ++ bs

/-- Writes what waits before a character of text. -/
def Waiting.write (w : Waiting) (p : Pen) : List Char × Pen :=
  match w with
  | .nothing => ([], p)
  | .spaces n atStart =>
    if n = 1 ∧ p.isFull ∧ !atStart then (p.newLine, p.atNewLine) else (Pen.spaces n, p.move n)
  | .breaks bs => (writeBreaks bs ++ Pen.spaces p.indent, p.atNewLine)

/-- Writes what waits at the end of the text. -/
def Waiting.writeLast (w : Waiting) (p : Pen) : List Char :=
  match w with
  | .spaces n _ => Pen.spaces n
  | w => (w.write p).1

/-- Writes a text inside single quotes. -/
def writeSingle (p : Pen) (w : Waiting) (isStart : Bool) : List Char → List Char
  | [] => w.writeLast p
  | c :: rest =>
    if c = ' ' then
      match w with
      | .spaces n atStart => writeSingle p (.spaces (n + 1) atStart) false rest
      | w =>
        let (out, p) := w.write p
        out ++ writeSingle p (.spaces 1 isStart) false rest
    else if isBreak c then
      match w with
      | .breaks bs => writeSingle p (.breaks (bs ++ [c])) false rest
      | w =>
        let (out, p) := w.write p
        out ++ writeSingle p (.breaks [c]) false rest
    else
      let (out, p) := w.write p
      let shown := if c = '\'' then ['\'', '\''] else [c]
      out ++ shown ++ writeSingle (p.move shown.length) .nothing false rest

/-! ## Double quotes -/

/-- The letter after the backslash of a character with a short escape. -/
def shortEscape? : Char → Option Char
  | '\x00' => some '0'
  | '\x07' => some 'a'
  | '\x08' => some 'b'
  | '\t' => some 't'
  | '\n' => some 'n'
  | '\x0b' => some 'v'
  | '\x0c' => some 'f'
  | '\r' => some 'r'
  | '\x1b' => some 'e'
  | '"' => some '"'
  | '\\' => some '\\'
  | '\u0085' => some 'N'
  | '\u2028' => some 'L'
  | '\u2029' => some 'P'
  | _ => none

/-- Whether a character stands for itself inside double quotes. -/
def isLiteral (c : Char) : Bool :=
  let n := c.toNat
  (shortEscape? c).isNone && n != 0xfeff &&
    ((0x20 ≤ n && n ≤ 0x7e) || (0xa0 ≤ n && n ≤ 0xd7ff) || (0xe000 ≤ n && n ≤ 0xfffd))

/-- The escape of a character. -/
def escapeOf (c : Char) : List Char :=
  match shortEscape? c with
  | some d => ['\\', d]
  | none =>
    let upper (ds : List Char) : List Char := ds.map Char.toUpper
    if c.toNat < 0x100 then '\\' :: 'x' :: upper (Text.hexText 2 c.toNat)
    else if c.toNat < 0x10000 then '\\' :: 'u' :: upper (Text.hexText 4 c.toNat)
    else '\\' :: 'U' :: upper (Text.hexText 8 c.toNat)

/-- A line break inside double quotes, before `next`: a space after it is escaped. -/
def escapedBreak (p : Pen) (next : Option Char) : List Char × Pen :=
  if next = some ' ' then ('\\' :: p.newLine ++ ['\\'], p.atNewLine.move 1)
  else ('\\' :: p.newLine, p.atNewLine)

/-- Writes a text inside double quotes. A line may be broken before a space, after an escape and
    where such a break left off; `isFresh` tells whether this is such a place. The pen stands after
    all characters written so far. -/
def writeDouble (p : Pen) (isStart isFresh : Bool) : List Char → List Char
  | [] => []
  | c :: rest =>
    if isLiteral c then
      let mayBreak := !isStart && !rest.isEmpty && (c == ' ' || isFresh)
      if mayBreak && p.isFull then
        let (out, p) := escapedBreak p (some c)
        out ++ c :: writeDouble (p.move 1) false false rest
      else c :: writeDouble (p.move 1) false false rest
    else
      let shown := escapeOf c
      let p := p.move shown.length
      if !isStart && !rest.isEmpty && p.split && bestWidth < p.column - 1 then
        let (out, p) := escapedBreak p rest.head?
        shown ++ out ++ writeDouble p false true rest
      else shown ++ writeDouble p false true rest

/-! ## Scalars -/

/-- A text in its style; `column` is where it starts. -/
def writeText (isKey : Bool) (indent column : Nat) (cs : List Char) : List Char :=
  let p : Pen := ⟨!isKey, indent, column⟩
  match styleOf isKey cs with
  | .plain => writePlain p 0 cs
  | .single => '\'' :: writeSingle (p.move 1) .nothing true cs ++ ['\'']
  | .double => '"' :: writeDouble (p.move 1) true true cs ++ ['"']

end Muffle.Yaml
