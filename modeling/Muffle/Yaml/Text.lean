/-
  Muffle.Yaml.Text

  Characters of YAML: line breaks, the ends of words, and which characters may stand in a text at
  all. A text has no carriage returns; its lines end with line feeds or with one of the other
  line breaks of Unicode. The separators between lines mean themselves, all other breaks mean a
  line feed.
-/

import Muffle.Yaml.Codec

namespace Muffle.Yaml

/-- A line break. -/
def isBreak (c : Char) : Bool :=
  c == '\n' || c == '\u0085' || c == '\u2028' || c == '\u2029'

/-- What a line break means. -/
def breakMeaning (c : Char) : Char :=
  if c = '\u2028' ∨ c = '\u2029' then c else '\n'

/-- A space or a tab. -/
def isGap (c : Char) : Bool := c == ' ' || c == '\t'

/-- Whether a word ends where this text begins. -/
def endsWord : List Char → Bool
  | [] => true
  | c :: _ => isGap c || isBreak c

/-- The same without the tab. -/
def endsField : List Char → Bool
  | [] => true
  | c :: _ => c == ' ' || isBreak c

/-- Whether a line ends where this text begins. -/
def endsLine : List Char → Bool
  | [] => true
  | c :: _ => isBreak c

/-- Whether the text begins with `---` as a word. -/
def startsDocument : List Char → Bool
  | '-' :: '-' :: '-' :: rest => endsWord rest
  | _ => false

/-- Whether the text begins with `...` as a word. -/
def stopsDocument : List Char → Bool
  | '.' :: '.' :: '.' :: rest => endsWord rest
  | _ => false

/-- Whether a document starts or stops where this text begins, at the start of a line. -/
def atSeparator (cs : List Char) : Bool := startsDocument cs || stopsDocument cs

/-- What a line break and the blank lines after it mean inside a scalar: a single line feed joins
    the lines with a space, blank lines stay as line feeds. -/
def foldBreaks (first : Char) (more : List Char) : List Char :=
  if first ≠ '\n' then first :: more
  else if more = [] then [' ']
  else more

/-- A character of names: a letter, a digit, a dash or an underscore. -/
def isNameChar (c : Char) : Bool := c.isAlphanum || c == '-' || c == '_'

/-- Whether a character may stand in a text. -/
def isAllowed (c : Char) : Bool :=
  let n := c.toNat
  n == 9 || n == 10 || n == 13 || (0x20 ≤ n && n ≤ 0x7e) || n == 0x85 ||
    (0xa0 ≤ n && n ≤ 0xd7ff) || (0xe000 ≤ n && n ≤ 0xfffd) || 0x10000 ≤ n

end Muffle.Yaml
