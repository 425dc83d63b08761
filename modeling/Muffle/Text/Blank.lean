/-
  Muffle.Text.Blank

  White space: the separators of Unicode and the controls that move the writing position. A text
  is stripped by dropping white space at both ends.
-/

namespace Muffle.Text

/-- White space, in the wide sense of Unicode with the information separators. -/
def isBlank (c : Char) : Bool :=
  let n := c.toNat
  (9 ≤ n && n ≤ 13) || (28 ≤ n && n ≤ 32) || n == 0x85 || n == 0xa0 || n == 0x1680 ||
  (0x2000 ≤ n && n ≤ 0x200a) || n == 0x2028 || n == 0x2029 || n == 0x202f || n == 0x205f ||
  n == 0x3000

/-- White space in the narrow sense of ASCII. -/
def isAsciiBlank (c : Char) : Bool :=
  (9 ≤ c.toNat && c.toNat ≤ 13) || c == ' '

/-- A text without the blanks at its end. -/
def stripRight (cs : List Char) : List Char :=
  (cs.reverse.dropWhile isBlank).reverse

/-- A text without the blanks at both ends. -/
def strip (cs : List Char) : List Char :=
  stripRight (cs.dropWhile isBlank)

end Muffle.Text
