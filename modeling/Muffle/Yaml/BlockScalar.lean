/-
  Muffle.Yaml.BlockScalar

  Scalars as blocks of indented lines. A literal block keeps its line breaks; a folded one joins
  lines by a space unless one of them starts with a gap. The header after the indicator may fix
  the indentation, and says what becomes of the line breaks at the end: all but one are dropped,
  or all of them, or none.
-/

import Muffle.Yaml.Text

namespace Muffle.Yaml

/-- What becomes of the line breaks at the end. -/
inductive Chomping where
  | clip
  | strip
  | keep
deriving DecidableEq, Repr

/-- The header of a block: the chomping, and the indentation if it is fixed. -/
structure BlockHeader where
  chomping : Chomping := .clip
  increment : Option Nat := none

/-! ## Header -/

/-- The chomping that a sign stands for. -/
def chomping? : Char → Option Chomping
  | '+' => some .keep
  | '-' => some .strip
  | _ => none

/-- Reads a sign, if there is one. -/
def readChomping : List Char → Chomping × List Char
  | [] => (.clip, [])
  | c :: rest =>
    match chomping? c with
    | some k => (k, rest)
    | none => (.clip, c :: rest)

/-- Reads a digit, if there is one; zero is refused. -/
def readIncrement : List Char → Except Refusal (Option Nat × List Char)
  | [] => .ok (none, [])
  | c :: rest =>
    if c = '0' then .error .malformed
    else if c.isDigit then .ok (some (c.toNat - '0'.toNat), rest)
    else .ok (none, c :: rest)

/-- Reads the indicators of a header, in either order. -/
def readIndicators (cs : List Char) : Except Refusal (BlockHeader × List Char) := do
  let (first, rest) := readChomping cs
  let (increment, rest) ← readIncrement rest
  let (chomping, rest) :=
    if first = .clip ∧ increment.isSome then readChomping rest else (first, rest)
  if endsField rest then return (⟨chomping, increment⟩, rest) else .error .malformed

/-- The rest after the spaces and the comment at the end of a line, and its line break. -/
def skipLineEnd (cs : List Char) : Except Refusal (List Char) :=
  let rest := cs.dropWhile (· == ' ')
  let rest := if rest.head? = some '#' then rest.dropWhile (!isBreak ·) else rest
  if endsLine rest then .ok rest.tail else .error .malformed

/-! ## Lines -/

/-- A line: its text and its line break, absent at the end of the whole text. -/
structure Line where
  text : List Char
  lineBreak : Option Char

/-- The lines of a text. -/
def linesOf : List Char → List Line
  | [] => []
  | c :: rest =>
    if isBreak c then ⟨[], some c⟩ :: linesOf rest
    else
      match linesOf rest with
      | [] => [⟨[c], none⟩]
      | l :: ls => { l with text := c :: l.text } :: ls

namespace Line

/-- How many spaces the line starts with. -/
def indentation (l : Line) : Nat := (l.text.takeWhile (· == ' ')).length

/-- How many characters the line takes up. -/
def length (l : Line) : Nat := l.text.length + (if l.lineBreak.isSome then 1 else 0)

/-- Whether the line holds at most `indent` spaces and ends. -/
def isBlank (l : Line) (indent : Nat) : Bool :=
  l.lineBreak.isSome && l.indentation == l.text.length && l.text.length ≤ indent

/-- Whether the line goes on after `indent` spaces. -/
def isContent (l : Line) (indent : Nat) : Bool :=
  indent ≤ l.indentation && indent < l.text.length

/-- What the line break means, nothing if there is none. -/
def breakText (l : Line) : List Char := (l.lineBreak.map breakMeaning).toList

end Line

/-- The greatest indentation of the blank lines at the start and of the line after them. -/
def leadingIndent : List Line → Nat
  | [] => 0
  | l :: rest =>
    if l.lineBreak.isSome && l.indentation == l.text.length then
      max l.indentation (leadingIndent rest)
    else l.indentation

/-! ## Blocks -/

/-- A block as far as it is read: its text, the break of its last line, whether that line starts
    without a gap, the blank lines since then, and how many characters were read. -/
structure Block where
  text : List Char := []
  last : Option (List Char) := none
  flush : Bool := false
  blanks : List Char := []
  count : Nat := 0

namespace Block

/-- What stands between the last line and one that goes on with `content`. -/
def glue (b : Block) (folded : Bool) (content : List Char) : List Char :=
  match b.last with
  | none => []
  | some brk =>
    if folded && brk == ['\n'] && b.flush && !(content.head?.any isGap) then
      (if b.blanks = [] then [' '] else [])
    else brk

/-- The block with one more line of content. -/
def addContent (b : Block) (folded : Bool) (indent : Nat) (l : Line) : Block :=
  let content := l.text.drop indent
  { text := b.text ++ b.glue folded content ++ b.blanks ++ content
    last := some l.breakText
    flush := !(content.head?.any isGap)
    blanks := []
    count := b.count + l.length }

/-- The block with one more blank line. -/
def addBlank (b : Block) (l : Line) : Block :=
  { b with blanks := b.blanks ++ l.breakText, count := b.count + l.length }

/-- Reads lines as long as they belong to the block. -/
def readLines (folded : Bool) (indent : Nat) (b : Block) : List Line → Block
  | [] => b
  | l :: rest =>
    if l.isBlank indent then readLines folded indent (b.addBlank l) rest
    else if l.isContent indent then readLines folded indent (b.addContent folded indent l) rest
    else b

/-- The text of a block that is read to its end. -/
def finish (b : Block) (c : Chomping) : List Char :=
  b.text ++ (if c = .strip then [] else b.last.getD []) ++ (if c = .keep then b.blanks else [])

end Block

/-- Reads a block after its indicator, in a collection whose entries may be indented by `least`;
    gives its text and the rest. -/
def readBlock (folded : Bool) (least : Nat) (cs : List Char) :
    Except Refusal (List Char × List Char) := do
  let (header, rest) ← readIndicators cs
  let rest ← skipLineEnd rest
  let lines := linesOf rest
  let least := max least 1
  let indent :=
    match header.increment with
    | some n => least + n - 1
    | none => max least (leadingIndent lines)
  let b := Block.readLines folded indent {} lines
  return (b.finish header.chomping, rest.drop b.count)

end Muffle.Yaml
