/-
  Muffle.Yaml.Tag

  Tags: what kind of value a node stands for. A plain scalar without a tag of its own has the
  tag that its form suggests, and is a text if it suggests none.
-/

import Muffle.Text.RangeTable
import Muffle.Yaml.Text

namespace Muffle.Yaml

/-- A tag. -/
inductive Tag where
  | null
  | bool
  | int
  | float
  | binary
  | timestamp
  | str
  | sequence
  | mapping
  | orderedMap
  | pairs
  | set
  /-- The key whose value is merged into its mapping. -/
  | merge
  /-- The key whose value stands for its mapping. -/
  | value
  | other (name : List Char)
deriving DecidableEq, Repr

namespace Tag

/-- What the names of the common tags start with. -/
def commonStart : List Char := "tag:yaml.org,2002:".toList

/-- The common tags and the ends of their names. -/
def common : List (String × Tag) :=
  [("null", .null), ("bool", .bool), ("int", .int), ("float", .float), ("binary", .binary),
   ("timestamp", .timestamp), ("str", .str), ("seq", .sequence), ("map", .mapping),
   ("omap", .orderedMap), ("pairs", .pairs), ("set", .set), ("merge", .merge), ("value", .value)]

/-- The tag with a name. -/
def ofName (name : List Char) : Tag :=
  match common.find? fun t => commonStart ++ t.1.toList == name with
  | some t => t.2
  | none => .other name

/-! ## Forms of plain scalars -/

/-- A binary, octal, decimal or hexadecimal digit, or an underscore. -/
def isBinary (c : Char) : Bool := c == '0' || c == '1' || c == '_'

/-- An octal digit or an underscore. -/
def isOctal (c : Char) : Bool := ('0' ≤ c && c ≤ '7') || c == '_'

/-- A decimal digit or an underscore. -/
def isDecimal (c : Char) : Bool := c.isDigit || c == '_'

/-- A hexadecimal digit or an underscore. -/
def isHexadecimal (c : Char) : Bool :=
  c.isDigit || ('a' ≤ c && c ≤ 'f') || ('A' ≤ c && c ≤ 'F') || c == '_'

/-- The text without a sign at its start. -/
def unsigned : List Char → List Char
  | '-' :: rest => rest
  | '+' :: rest => rest
  | cs => cs

/-- Whether there is at least one character and all are in a class. -/
def isRun (p : Char → Bool) (cs : List Char) : Bool := !cs.isEmpty && cs.all p

/-- Whether a part between colons is a number below sixty. -/
def isSixtieth : List Char → Bool
  | [d] => d.isDigit
  | [t, d] => '0' ≤ t && t ≤ '5' && d.isDigit
  | _ => false

/-- The parts between colons. -/
def colonParts (cs : List Char) : List (List Char) := Text.splitAtChar ':' cs

/-- Whether a text is a number in base sixty, whose first part starts as `lead` says. -/
def isSexagesimal (lead : Char → Bool) (cs : List Char) : Bool :=
  match colonParts cs with
  | (c :: first) :: part :: parts =>
    lead c && first.all isDecimal && (part :: parts).all isSixtieth
  | _ => false

/-- A digit that may start a number without being its only digit. -/
def isLeadDigit (c : Char) : Bool := c.isDigit && c != '0'

/-- Whether a text without a sign is an integer. -/
def isUnsignedInt : List Char → Bool
  | ['0'] => true
  | '0' :: 'b' :: rest => isRun isBinary rest
  | '0' :: 'x' :: rest => isRun isHexadecimal rest
  | '0' :: rest => isRun isOctal rest
  | c :: rest =>
    (isLeadDigit c && rest.all isDecimal) || isSexagesimal isLeadDigit (c :: rest)
  | [] => false

/-- Whether a text is nothing or an exponent, which has a sign. -/
def isExponent : List Char → Bool
  | [] => true
  | e :: s :: rest => (e == 'e' || e == 'E') && (s == '-' || s == '+') && isRun Char.isDigit rest
  | _ => false

/-- Whether a text is digits and then perhaps an exponent. -/
def isFraction (cs : List Char) : Bool := isExponent (cs.dropWhile isDecimal)

/-- Whether a text without a sign is a number with a point. -/
def isUnsignedFloat (cs : List Char) : Bool :=
  match cs with
  | c :: _ =>
    c.isDigit &&
      match cs.dropWhile fun c => c != '.' with
      | '.' :: rest =>
        let whole := cs.takeWhile fun c => c != '.'
        (whole.all isDecimal && isFraction rest) ||
          (isSexagesimal Char.isDigit whole && rest.all isDecimal)
      | _ => false
  | [] => false

/-- Whether a text is a number with a point, an infinity or no number. -/
def isFloat (cs : List Char) : Bool :=
  isUnsignedFloat (unsigned cs) ||
  (match cs with
   | '.' :: d :: rest => d.isDigit && isFraction rest
   | _ => false) ||
  [".inf", ".Inf", ".INF"].any (·.toList == unsigned cs) ||
  [".nan", ".NaN", ".NAN"].any (·.toList == cs)

/-- Whether a text is an integer. -/
def isInt (cs : List Char) : Bool := isUnsignedInt (unsigned cs)

/-- The words for truth values. -/
def boolWords : List String :=
  ["yes", "Yes", "YES", "no", "No", "NO", "true", "True", "TRUE", "false", "False", "FALSE",
   "on", "On", "ON", "off", "Off", "OFF"]

/-- The words for nothing. -/
def nullWords : List String := ["~", "null", "Null", "NULL", ""]

end Tag

end Muffle.Yaml
