/-
  Muffle.Yaml.Token

  The tokens of a YAML text. Indentation becomes tokens of its own: one that opens a block where
  its first entry is met, one that closes it where a line is indented less. A key is known only
  by the colon after it, so every place where a key may have started is kept in mind, and the
  token for it is put there when the colon comes; a key has to stand on one line and may take up
  1024 characters.
-/

import Muffle.Yaml.BlockScalar
import Muffle.Yaml.Plain
import Muffle.Yaml.QuotedScalar

namespace Muffle.Yaml

/-- What a directive declares. -/
inductive Directive where
  | version (major : Nat)
  | tag (handle expansion : List Char)
  | other
deriving Repr

/-- A token. -/
inductive Token where
  | streamEnd
  | directive (d : Directive)
  | documentStart
  | documentEnd
  | blockSequence
  | blockMapping
  | blockEnd
  | flowSequence
  | flowSequenceEnd
  | flowMapping
  | flowMappingEnd
  | blockEntry
  | flowEntry
  | key
  | value
  | reference (name : List Char)
  | anchor (name : List Char)
  | tag (handle : Option (List Char)) (suffix : List Char)
  | scalar (isPlain : Bool) (text : List Char)
deriving Repr

/-- A place where a key may have started: the index of its token, whether it has to be a key, and
    where it stands. -/
structure PossibleKey where
  token : Nat
  required : Bool
  index : Nat
  line : Nat
  column : Nat

/-- The state of the scanner. -/
structure Scan where
  rest : List Char
  index : Nat := 0
  line : Nat := 0
  column : Nat := 0
  /-- How many brackets are open. -/
  flow : Nat := 0
  /-- The columns of the open blocks, the innermost first. -/
  indents : List Nat := []
  /-- The places where a key may have started, by the number of open brackets. -/
  keys : List (Nat × PossibleKey) := []
  /-- Whether a key may start here. -/
  allowKey : Bool := true
  tokens : Array Token := #[]

namespace Scan

/-! ## Moving on -/

/-- The state after the next character. -/
def moveOver (s : Scan) (c : Char) : Scan :=
  let s := { s with rest := s.rest.tail, index := s.index + 1 }
  if isBreak c then { s with line := s.line + 1, column := 0 }
  else if c = '\ufeff' then s
  else { s with column := s.column + 1 }

/-- The state after the next `n` characters. -/
def advance (s : Scan) (n : Nat) : Scan := (s.rest.take n).foldl moveOver s

/-- The state where `rest` is left. -/
def advanceTo (s : Scan) (rest : List Char) : Scan := s.advance (s.rest.length - rest.length)

/-- The state with a token added. -/
def push (s : Scan) (t : Token) : Scan := { s with tokens := s.tokens.push t }

/-- The state with a token put at an index. -/
def insert (s : Scan) (i : Nat) (t : Token) : Scan :=
  { s with tokens := s.tokens.extract 0 i ++ #[t] ++ s.tokens.extract i s.tokens.size }

/-- How many characters separate this text from the next token, and whether there is a line break
    among them. -/
def gapBefore (inComment : Bool) : List Char → Nat × Bool
  | [] => (0, false)
  | c :: rest =>
    if isBreak c then ((gapBefore false rest).1 + 1, true)
    else if inComment || c == ' ' then
      let (n, b) := gapBefore inComment rest
      (n + 1, b)
    else if c == '#' then
      let (n, b) := gapBefore true rest
      (n + 1, b)
    else (0, false)

/-- Moves to the next token; outside brackets a key may start on a new line. -/
def skipGap (s : Scan) : Scan :=
  let (n, hasBreak) := gapBefore false s.rest
  let s := s.advance n
  if hasBreak && s.flow == 0 then { s with allowKey := true } else s

/-! ## Blocks -/

/-- Whether brackets are open. -/
def inFlow (s : Scan) : Bool := s.flow != 0

/-- Closes the blocks that are indented more than `column`, or all without one. -/
def unwind (s : Scan) (column : Option Nat) : Scan :=
  if s.inFlow then s
  else
    let stays (i : Nat) : Bool := column.any (i ≤ ·)
    let closed := (s.indents.takeWhile (!stays ·)).length
    { s with
      indents := s.indents.dropWhile (!stays ·)
      tokens := s.tokens ++ (List.replicate closed Token.blockEnd).toArray }

/-- Whether a block at `column` would be a new one. -/
def isDeeper (s : Scan) (column : Nat) : Bool :=
  match s.indents with
  | [] => true
  | i :: _ => i < column

/-- Opens a block at the place of the scanner, if it is a new one. -/
def openBlock (s : Scan) (t : Token) : Scan :=
  if s.isDeeper s.column then { s with indents := s.column :: s.indents }.push t else s

/-! ## Keys -/

/-- Drops the places that cannot be keys any more. -/
def dropStaleKeys (s : Scan) : Except Refusal Scan :=
  let isStale (k : Nat × PossibleKey) : Bool :=
    k.2.line != s.line || k.2.index + 1024 < s.index
  if s.keys.any fun k => isStale k && k.2.required then .error .malformed
  else .ok { s with keys := s.keys.filter (!isStale ·) }

/-- Drops the place for a key between the present brackets. -/
def dropKey (s : Scan) : Except Refusal Scan :=
  if s.keys.any fun k => k.1 == s.flow && k.2.required then .error .malformed
  else .ok { s with keys := s.keys.filter fun k => k.1 != s.flow }

/-- Keeps in mind that a key may start here. -/
def saveKey (s : Scan) : Except Refusal Scan :=
  if s.allowKey then do
    let required := !s.inFlow && s.indents.head? == some s.column
    let k : PossibleKey := ⟨s.tokens.size, required, s.index, s.line, s.column⟩
    let s ← s.dropKey
    return { s with keys := (s.flow, k) :: s.keys }
  else .ok s

/-- The same state, but whether a key may start is set. -/
def allow (s : Scan) (b : Bool) : Scan := { s with allowKey := b }

/-! ## Names and tags -/

/-- Reads a name, which is not empty. -/
def readName (cs : List Char) : Except Refusal (List Char × List Char) :=
  match cs.takeWhile isNameChar with
  | [] => .error .malformed
  | name => .ok (name, cs.dropWhile isNameChar)

/-- Reads a handle of tags: an exclamation mark, or a name between two of them. -/
def readHandle : List Char → Except Refusal (List Char × List Char)
  | '!' :: ' ' :: rest => .ok (['!'], ' ' :: rest)
  | '!' :: rest =>
    match rest.takeWhile isNameChar, rest.dropWhile isNameChar with
    | name, '!' :: rest => .ok ('!' :: name ++ ['!'], rest)
    | _, _ => .error .malformed
  | _ => .error .malformed

/-- A character of tags. -/
def isTagChar (c : Char) : Bool :=
  isNameChar c || ";/?:@&=+$,.!~*'()[]%".toList.contains c

/-- The bytes that escapes write. -/
def escapedBytes : List Char → Except Refusal (List UInt8)
  | [] => .ok []
  | '%' :: a :: b :: rest =>
    match Text.hexValue? a, Text.hexValue? b with
    | some m, some n => do return (16 * m + n).toUInt8 :: (← escapedBytes rest)
    | _, _ => .error .malformed
  | '%' :: _ => .error .malformed
  | c :: rest => do return Text.writeUtf8 [c] ++ (← escapedBytes rest)

/-- Reads a tag without its handle. -/
def readTagText (cs : List Char) : Except Refusal (List Char × List Char) := do
  match cs.takeWhile isTagChar with
  | [] => .error .malformed
  | text =>
    match Text.readUtf8 (← escapedBytes text) with
    | .ok t => return (t, cs.dropWhile isTagChar)
    | .error _ => .error .malformed

/-- Whether an exclamation mark comes before the end of the field. -/
def hasHandle (cs : List Char) : Bool :=
  (cs.takeWhile fun c => c != ' ' && !isBreak c).contains '!'

/-- Reads a tag after its exclamation mark. -/
def readTag (cs : List Char) : Except Refusal (Token × List Char) := do
  let (t, rest) ← match cs with
    | '<' :: inner => do
      match ← readTagText inner with
      | (text, '>' :: rest) => pure (Token.tag none text, rest)
      | _ => .error .malformed
    | cs =>
      if endsWord cs then pure (Token.tag none ['!'], cs)
      else if hasHandle cs then do
        let (handle, rest) ← readHandle ('!' :: cs)
        let (text, rest) ← readTagText rest
        pure (Token.tag (some handle) text, rest)
      else do
        let (text, rest) ← readTagText cs
        pure (Token.tag (some ['!']) text, rest)
  if endsField rest then return (t, rest) else .error .malformed

/-- Reads the name of an anchor. -/
def readAnchor (cs : List Char) : Except Refusal (List Char × List Char) := do
  let (name, rest) ← readName cs
  if endsWord rest || rest.head?.any ("?:,]\x7d%@\x60".toList.contains ·) then
    return (name, rest)
  else .error .malformed

/-! ## Directives -/

/-- The number that digits write. -/
def digitsValue (ds : List Char) : Nat :=
  ds.foldl (fun n c => 10 * n + (c.toNat - '0'.toNat)) 0

/-- Reads a number. -/
def readNumber (cs : List Char) : Except Refusal (Nat × List Char) :=
  match cs.takeWhile Char.isDigit with
  | [] => .error .malformed
  | ds => .ok (digitsValue ds, cs.dropWhile Char.isDigit)

/-- The rest after spaces. -/
def skipSpaces (cs : List Char) : List Char := cs.dropWhile (· == ' ')

/-- Reads a version after the name of its directive. -/
def readVersion (cs : List Char) : Except Refusal (Directive × List Char) := do
  let (major, rest) ← readNumber (skipSpaces cs)
  match rest with
  | '.' :: rest =>
    let (_, rest) ← readNumber rest
    if endsField rest then return (.version major, rest) else .error .malformed
  | _ => .error .malformed

/-- Reads a tag handle and what it stands for. -/
def readTagDirective (cs : List Char) : Except Refusal (Directive × List Char) := do
  let (handle, rest) ← readHandle (skipSpaces cs)
  if rest.head? = some ' ' then
    let (text, rest) ← readTagText (skipSpaces rest)
    if endsField rest then return (.tag handle text, rest) else .error .malformed
  else .error .malformed

/-- Reads a directive after its percent sign. -/
def readDirective (cs : List Char) : Except Refusal (Directive × List Char) := do
  let (name, rest) ← readName cs
  if !endsField rest then .error .malformed
  let (d, rest) ←
    if name = "YAML".toList then readVersion rest
    else if name = "TAG".toList then readTagDirective rest
    else pure (Directive.other, rest.dropWhile (!isBreak ·))
  return (d, ← skipLineEnd rest)

/-! ## Tokens -/

/-- The end of the text. -/
def fetchEnd (s : Scan) : Except Refusal Scan := do
  return { (← (s.unwind none).dropKey) with keys := [] }.push .streamEnd

/-- A directive. -/
def fetchDirective (s : Scan) : Except Refusal Scan := do
  let s ← (s.unwind none).dropKey
  let (d, rest) ← readDirective s.rest.tail
  return ((s.advanceTo rest).allow false).push (.directive d)

/-- The start or the end of a document. -/
def fetchSeparator (s : Scan) (t : Token) : Except Refusal Scan := do
  let s ← (s.unwind none).dropKey
  return ((s.advance 3).allow false).push t

/-- An opening bracket. -/
def fetchOpen (s : Scan) (t : Token) : Except Refusal Scan := do
  let s ← s.saveKey
  return (({ s with flow := s.flow + 1 }.advance 1).allow true).push t

/-- A closing bracket. -/
def fetchClose (s : Scan) (t : Token) : Except Refusal Scan := do
  if !s.inFlow then .error .malformed
  let s ← s.dropKey
  return (({ s with flow := s.flow - 1 }.advance 1).allow false).push t

/-- A comma between entries. -/
def fetchComma (s : Scan) : Except Refusal Scan := do
  return ((← s.dropKey).advance 1).allow true |>.push .flowEntry

/-- Opens a block for an entry, which needs a place where a key may start. -/
def openFor (s : Scan) (t : Token) : Except Refusal Scan :=
  if s.inFlow then .ok s
  else if s.allowKey then .ok (s.openBlock t)
  else .error .malformed

/-- The dash before an entry of a sequence. -/
def fetchDash (s : Scan) : Except Refusal Scan := do
  let s ← (← s.openFor .blockSequence).dropKey
  return ((s.advance 1).allow true).push .blockEntry

/-- The question mark before a key. -/
def fetchQuestion (s : Scan) : Except Refusal Scan := do
  let s ← (← s.openFor .blockMapping).dropKey
  return ((s.advance 1).allow !s.inFlow).push .key

/-- The colon after a key: puts the token for the key where the key started. -/
def fetchColon (s : Scan) : Except Refusal Scan := do
  match s.keys.find? fun k => k.1 == s.flow with
  | some (_, k) =>
    let s := { s with keys := s.keys.filter fun k => k.1 != s.flow }
    let s := s.insert k.token .key
    let s :=
      if !s.inFlow && s.isDeeper k.column then
        { s with indents := k.column :: s.indents }.insert k.token .blockMapping
      else s
    return ((s.advance 1).allow false).push .value
  | none =>
    let s ← (← s.openFor .blockMapping).dropKey
    return ((s.advance 1).allow !s.inFlow).push .value

/-- A token that may start a key: `read` gives it and the rest after its first character. -/
def fetchKeyLike (s : Scan) (read : List Char → Except Refusal (Token × List Char)) :
    Except Refusal Scan := do
  let s ← s.saveKey
  let (t, rest) ← read s.rest.tail
  return ((s.advanceTo rest).allow false).push t

/-- A scalar as a block. -/
def fetchBlock (s : Scan) (folded : Bool) : Except Refusal Scan := do
  let s ← (s.allow true).dropKey
  let least := match s.indents with
    | [] => 0
    | i :: _ => i + 1
  let (text, rest) ← readBlock folded least s.rest.tail
  return (s.advanceTo rest).push (.scalar false text)

/-- A plain scalar. -/
def fetchPlain (s : Scan) : Except Refusal Scan := do
  let s ← s.saveKey
  let indent := match s.indents with
    | [] => 0
    | i :: _ => i + 1
  let (text, rest) := readPlain s.inFlow indent s.rest
  return ((s.advanceTo rest).allow false).push (.scalar true text)

/-- The token that starts with a character before `next`. -/
def fetchAt (s : Scan) (c : Char) (next : List Char) : Except Refusal Scan :=
  let here := s.rest
  if c == '%' && s.column == 0 then s.fetchDirective
  else if s.column == 0 && startsDocument here then s.fetchSeparator .documentStart
  else if s.column == 0 && stopsDocument here then s.fetchSeparator .documentEnd
  else if c == '[' then s.fetchOpen .flowSequence
  else if c == '\x7b' then s.fetchOpen .flowMapping
  else if c == ']' then s.fetchClose .flowSequenceEnd
  else if c == '\x7d' then s.fetchClose .flowMappingEnd
  else if c == ',' then s.fetchComma
  else if c == '-' && endsWord next then s.fetchDash
  else if c == '?' && (s.inFlow || endsWord next) then s.fetchQuestion
  else if c == ':' && (s.inFlow || endsWord next) then s.fetchColon
  else if c == '*' then s.fetchKeyLike fun cs => do
    let (name, rest) ← readAnchor cs
    return (.reference name, rest)
  else if c == '&' then s.fetchKeyLike fun cs => do
    let (name, rest) ← readAnchor cs
    return (.anchor name, rest)
  else if c == '!' then s.fetchKeyLike readTag
  else if c == '|' && !s.inFlow then s.fetchBlock false
  else if c == '>' && !s.inFlow then s.fetchBlock true
  else if c == '\'' || c == '"' then s.fetchKeyLike fun cs => do
    let (text, rest) ← readQuoted (c == '"') cs
    return (.scalar false text, rest)
  else if startsPlain s.inFlow here then s.fetchPlain
  else .error .malformed

/-- Fetches the next token; every one takes up a character, so that `fuel` need not exceed the
    length of the text. -/
def fetchAll : Nat → Scan → Except Refusal Scan
  | 0, _ => .error .malformed
  | fuel + 1, s => do
    let s ← s.skipGap.dropStaleKeys
    match s.rest with
    | [] => s.fetchEnd
    | c :: next => fetchAll fuel (← (s.unwind (some s.column)).fetchAt c next)

end Scan

/-- The tokens of a text. A byte order mark at the start is skipped. -/
def Token.scan (cs : List Char) : Except Refusal (List Token) := do
  if !cs.all isAllowed then .error .malformed
  let s : Scan := { rest := cs }
  let s := if cs.head? = some '\ufeff' then s.advance 1 else s
  return (← Scan.fetchAll (cs.length + 1) s).tokens.toList

end Muffle.Yaml
