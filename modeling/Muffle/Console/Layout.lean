/-
  Muffle.Console.Layout

  Laying text out in cells. A line that is too wide is broken between words; a word that is wider
  than a whole line is folded over several lines or cut off, as the place demands. Tabs go to the
  next multiple of eight cells.
-/

import Muffle.Text.Blank
import Muffle.Text.CellWidth
import Muffle.Text.Lines

namespace Muffle.Console

open Text

/-- What happens to a word that is wider than a line. -/
inductive Overflow where
  | fold
  | ellipsis
deriving DecidableEq, Repr

/-- Spaces. -/
def spaces (n : Nat) : List Char := List.replicate n ' '

/-! ## Tabs -/

/-- A line without tabs, `column` cells from the start of its line. -/
def expandTabsFrom (column : Nat) : List Char → List Char
  | [] => []
  | c :: rest =>
    if c = '\t' then
      let n := 8 - column % 8
      spaces n ++ expandTabsFrom (column + n) rest
    else c :: expandTabsFrom (column + cellWidth c) rest

/-- A line without tabs. -/
def expandTabs (line : List Char) : List Char := expandTabsFrom 0 line

/-! ## Breaking lines -/

/-- The words of a line. A word carries the blanks after it, the first one also those before it;
    a line of blanks has none. -/
def wordsFrom (word : List Char) : List Char → List (List Char)
  | [] => if word.all isBlank then [] else [word.reverse]
  | c :: rest =>
    match word with
    | b :: _ =>
      if isBlank b ∧ ¬isBlank c ∧ ¬word.all isBlank then word.reverse :: wordsFrom [c] rest
      else wordsFrom (c :: word) rest
    | [] => wordsFrom [c] rest

/-- Cuts a word into chunks that fit into `width` cells, given the reversed start of a chunk. -/
def chunksFrom (width : Nat) (chunk : List Char) (used : Nat) : List Char → List (List Char)
  | [] => [chunk.reverse]
  | c :: rest =>
    if width < used + cellWidth c then chunk.reverse :: chunksFrom width [c] (cellWidth c) rest
    else chunksFrom width (c :: chunk) (used + cellWidth c) rest

/-- Sets words into lines of `width` cells. The lines come last first, and `used` cells of the
    last one are taken. -/
def setWords (width : Nat) (o : Overflow) (lines : List (List Char)) (used : Nat) :
    List (List Char) → List (List Char)
  | [] => lines
  | word :: rest =>
    let need := cellLength (stripRight word)
    if used + need ≤ width then
      match lines with
      | [] => setWords width o [word] (cellLength word) rest
      | line :: above => setWords width o ((line ++ word) :: above) (used + cellLength word) rest
    else if width < need ∧ o = .fold then
      let chunks := chunksFrom width [] 0 word
      setWords width o (chunks.reverse ++ lines) (cellLength (chunks.getLastD [])) rest
    else setWords width o (word :: lines) (cellLength word) rest

/-- The lines into which one line is broken. -/
def breakLine (width : Nat) (o : Overflow) (line : List Char) : List (List Char) :=
  match wordsFrom [] line with
  | [] => [line]
  | words => (setWords width o [] 0 words).reverse

/-! ## Cutting lines -/

/-- A line without blanks at its end, as far as it has more than `width` characters. -/
def trimEnd (width : Nat) (line : List Char) : List Char :=
  let excess := line.length - width
  let blanks := (line.reverse.takeWhile isBlank).length
  line.take (line.length - min excess blanks)

/-- The longest start of a line that fits into `width` cells. -/
def fitting (width : Nat) : List Char → List Char
  | [] => []
  | c :: rest => if cellWidth c ≤ width then c :: fitting (width - cellWidth c) rest else []

/-- A line filled up with spaces to `width` cells. -/
def padded (width : Nat) (line : List Char) : List Char :=
  line ++ spaces (width - cellLength line)

/-- A line cut to `width` cells; an ellipsis tells that something is missing. -/
def cut (width : Nat) (o : Overflow) (line : List Char) : List Char :=
  if cellLength line ≤ width then line
  else
    match o with
    | .fold => padded width (fitting width line)
    | .ellipsis => padded (width - 1) (fitting (width - 1) line) ++ ['…']

/-! ## Texts -/

/-- The lines of a text in `width` cells. -/
def layOut (width : Nat) (o : Overflow) (cs : List Char) : List (List Char) :=
  (splitAtChar '\n' cs).flatMap fun line =>
    (breakLine width o (expandTabs line)).map fun l => cut width o (trimEnd width l)

/-- The cells of the longest line of a text. -/
def naturalWidth (cs : List Char) : Nat :=
  ((splitLines cs).map cellLength).foldl max 0

/-- A line in the middle of `width` cells. -/
def centred (width : Nat) (line : List Char) : List Char :=
  let line := cut width .ellipsis (stripRight line)
  padded width (spaces ((width - cellLength line) / 2) ++ line)

end Muffle.Console
