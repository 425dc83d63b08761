/-
  Muffle.Fault

  Everything that can go wrong, by its cause. An operation that fails says why in a `Fault`; the
  words for it are in `Fault.message` alone. Faults of kind and value come from what a host hands
  over; reports are the program's own and carry a context.
-/

import Muffle.Text.Utf8
import Muffle.Value

namespace Muffle

/-- The relations by which values are ordered. -/
inductive Relation where
  | less
  | lessEq
  | greater
deriving DecidableEq, Repr

/-- The sign of a relation. -/
def Relation.sign : Relation → String
  | .less => "<"
  | .lessEq => "<="
  | .greater => ">"

/-- Whether a relation holds between values in this order. -/
def Relation.admits : Relation → Ordering → Bool
  | .less, o => o == .lt
  | .lessEq, o => o != .gt
  | .greater, o => o == .gt

/-- A report of the program: what is wrong, and the facts that go with it. -/
structure Report where
  message : String
  context : List (String × Value)

/-- A pattern that cannot be compiled, and why. `source` names what supplied it, if anything;
    `anchor` is the place of its directive, and `located` tells whether one was attached. -/
structure InvalidPattern where
  pattern : Value
  reason : Value
  source : Value
  anchor : Value
  located : Bool

/-- Attaches the place of the directive. -/
def InvalidPattern.at (p : InvalidPattern) (anchor : Value) : InvalidPattern :=
  { p with anchor := anchor, located := true }

/-- What is wrong with the pattern. -/
def InvalidPattern.message (p : InvalidPattern) : String :=
  let place := if p.source.truthy then " in " ++ p.source.text else ""
  "invalid pattern " ++ p.pattern.quoted ++ place ++ ": " ++ p.reason.text

/-- The facts that go with an invalid pattern. -/
def InvalidPattern.context (p : InvalidPattern) : List (String × Value) :=
  [("pattern", p.pattern), ("reason", p.reason), ("source", p.source)] ++
    (if p.located then [("anchor", p.anchor)] else [])

/-- What a fault of a library is about. -/
inductive Foreign.Family where
  | kind
  | value
  | field
  /-- A number beyond all machine integers. -/
  | overflow
  /-- More levels than the library can go down. -/
  | depth
  | markup
deriving DecidableEq, Repr

/-- A fault that a library reports, in its own words. -/
structure Foreign where
  family : Foreign.Family
  message : String
deriving DecidableEq, Repr

/-- Why an operation failed. -/
inductive Fault where
  /-- Two values of kinds that are not ordered. -/
  | notOrdered (relation : Relation) (left right : Kind)
  /-- A value that cannot be a member of a set. -/
  | notHashable (kind : Kind)
  | notIterable (kind : Kind)
  | notUnpackable (kind : Kind)
  | notIndexable (kind : Kind)
  /-- A sequence that was asked for a named entry. -/
  | indexNotInteger (kind : Kind)
  | patternNotText
  /-- A subject that is no text; of the kind of texts, a text where bytes are asked for. -/
  | subjectNotText (kind : Kind)
  | pathNotText (kind : Kind)
  | unknownOption (name : String)
  /-- A value without the operation that was asked of it. -/
  | noOperation (kind : Kind) (name : String)
  | tooFewValues (count : Nat)
  | tooManyValues
  | emptySpans
  | invertedRange (start stop : Value)
  | unknownSeverity (value : Value)
  | noConfigLocation
  | notAnInteger (base : Nat) (text : String)
  | notADecimal (text : String)
  /-- An integer with more digits than are read or written; `count` tells how many of them were to
      be read, and is zero if they were to be written. -/
  | tooManyDigits (count : Nat)
  /-- A number of which nothing is written. -/
  | emptyNumber
  /-- A value that is a part of itself. -/
  | endlessValue
  /-- A day or time that is in no calendar; `complaint` says which part is wrong. -/
  | notADate (complaint : String)
  /-- A character number beyond all characters. -/
  | notACharacter
  /-- A character number beyond all machine integers. -/
  | charTooLarge
  | missingField (name : Value)
  | general (report : Report)
  | configuration (report : Report)
  | missingCapability (report : Report)
  | invalidPattern (pattern : InvalidPattern)
  | notFound
  | isDirectory
  | notDirectory
  | alreadyExists
  /-- Bytes that are no UTF-8 text. -/
  | undecodable (refusal : Text.Utf8Refusal)
  | embeddedNull
  /-- A path that the system refuses to follow, and its complaint. -/
  | denied (complaint : String)
  /-- A text with one half of a character that is written as two, which is no text here. -/
  | unpairedHalf
  | foreign (fault : Foreign)
  /-- Markup with a closing tag that closes nothing. -/
  | unmatchedTag
  | unknownLogLevel
  | unknownCommand

namespace Fault

/-! ## Families -/

/-- Whether a fault is one of the program's own reports. -/
def isReport : Fault → Bool
  | .general _ | .configuration _ | .missingCapability _ | .invalidPattern _ => true
  | _ => false

/-- Whether a fault means that a value is of a wrong kind. -/
def isOfKind : Fault → Bool
  | .notOrdered .. | .notHashable _ | .notIterable _ | .notUnpackable _ | .notIndexable _
  | .indexNotInteger _ | .patternNotText | .subjectNotText _ | .pathNotText _
  | .unknownOption _ | .foreign ⟨.kind, _⟩ => true
  | _ => false

/-- Whether a fault means that a value of the right kind is no good. -/
def isOfValue : Fault → Bool
  | .tooFewValues _ | .tooManyValues | .emptySpans | .invertedRange .. | .unknownSeverity _
  | .noConfigLocation | .notAnInteger .. | .notADecimal _ | .tooManyDigits _ | .notADate _
  | .notACharacter | .undecodable _ | .embeddedNull | .foreign ⟨.value, _⟩ => true
  | _ => false

/-- Whether a fault means that what was handed over is malformed: a value of a wrong kind, one
    that is no good, or a field that is missing. -/
def isMalformed (f : Fault) : Bool :=
  f.isOfKind || f.isOfValue ||
    match f with
    | .missingField _ | .foreign ⟨.field, _⟩ => true
    | _ => false

/-! ## Messages -/

/-- The words for a fault. -/
def message : Fault → String
  | .notOrdered r a b =>
    "'" ++ r.sign ++ "' not supported between instances of '" ++ a.name ++ "' and '" ++
      b.name ++ "'"
  | .notHashable k => "unhashable type: '" ++ k.name ++ "'"
  | .notIterable k => "'" ++ k.name ++ "' object is not iterable"
  | .notUnpackable k => "cannot unpack non-iterable " ++ k.name ++ " object"
  | .notIndexable k => "'" ++ k.name ++ "' object is not subscriptable"
  | .indexNotInteger .list => "list indices must be integers or slices, not str"
  | .indexNotInteger .tuple => "tuple indices must be integers or slices, not str"
  | .indexNotInteger _ => "string indices must be integers, not 'str'"
  | .patternNotText => "first argument must be string or compiled pattern"
  | .subjectNotText .str => "a bytes-like object is required, not 'str'"
  | .subjectNotText k => "expected string or bytes-like object, got '" ++ k.name ++ "'"
  | .pathNotText k => "expected str, bytes or os.PathLike object, not " ++ k.name
  | .unknownOption n => "got an unexpected keyword argument '" ++ n ++ "'"
  | .noOperation k n => "'" ++ k.name ++ "' object has no attribute '" ++ n ++ "'"
  | .tooFewValues n => "not enough values to unpack (expected 2, got " ++ toString n ++ ")"
  | .tooManyValues => "too many values to unpack (expected 2)"
  | .emptySpans => "Cannot compute the range of an empty set of spans"
  | .invertedRange s e => "Range end " ++ e.quoted ++ " precedes start " ++ s.quoted
  | .unknownSeverity v => "Invalid severity: " ++ v.text
  | .noConfigLocation => "Either config_path or project_root must be provided"
  | .notAnInteger b t =>
    "invalid literal for int() with base " ++ toString b ++ ": " ++ Text.quoted t
  | .notADecimal t => "could not convert string to float: " ++ Text.quoted t
  | .tooManyDigits 0 =>
    "Exceeds the limit (4300 digits) for integer string conversion; " ++
      "use sys.set_int_max_str_digits() to increase the limit"
  | .tooManyDigits n =>
    "Exceeds the limit (4300 digits) for integer string conversion: value has " ++ toString n ++
      " digits; use sys.set_int_max_str_digits() to increase the limit"
  | .notADate complaint => complaint
  | .emptyNumber => "string index out of range"
  | .endlessValue => "maximum recursion depth exceeded"
  | .notACharacter => "chr() arg not in range(0x110000)"
  | .charTooLarge => "the character number is too large"
  | .missingField n => n.quoted
  | .general r => r.message
  | .configuration r => r.message
  | .missingCapability r => r.message
  | .invalidPattern p => p.message
  | .notFound => "No such file or directory"
  | .isDirectory => "Is a directory"
  | .notDirectory => "Not a directory"
  | .alreadyExists => "File exists"
  | .undecodable r => r.message
  | .embeddedNull => "embedded null byte"
  | .denied complaint => complaint
  | .unpairedHalf => "surrogates not allowed"
  | .foreign f => f.message
  | .unmatchedTag => "closing tag doesn't match any open tag"
  | .unknownLogLevel => "unknown log level"
  | .unknownCommand => "unknown command"

end Fault

end Muffle
