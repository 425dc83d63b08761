/-
  Muffle.Text.Lines

  The lines of a text. A line ends with a line feed, a carriage return, both in this order, or one
  of the rarer separators; what follows the last end is a line only if it is not empty.
-/

namespace Muffle.Text

/-- A character that ends a line. -/
def isLineEnd (c : Char) : Bool :=
  let n := c.toNat
  (10 ≤ n && n ≤ 13) || (28 ≤ n && n ≤ 30) || n == 0x85 || n == 0x2028 || n == 0x2029

/-- The lines of a text that starts within a line, given the start of this line reversed. -/
def linesFrom (line : List Char) : List Char → List (List Char)
  | [] => if line.isEmpty then [] else [line.reverse]
  | '\r' :: '\n' :: rest => line.reverse :: linesFrom [] rest
  | c :: rest =>
    if isLineEnd c then line.reverse :: linesFrom [] rest else linesFrom (c :: line) rest

/-- The lines of a text. -/
def splitLines (cs : List Char) : List (List Char) := linesFrom [] cs

end Muffle.Text
