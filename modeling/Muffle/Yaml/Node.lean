/-
  Muffle.Yaml.Node

  The nodes of a YAML text: scalars, sequences and mappings with their tags. A reference stands
  for the node with its anchor; an anchor may be used once. A text holds at most one document.
-/

import Muffle.Yaml.Tag
import Muffle.Yaml.Timestamp
import Muffle.Yaml.Token

namespace Muffle.Yaml

/-- A node. -/
inductive Node where
  | scalar (tag : Tag) (text : List Char)
  | sequence (tag : Tag) (items : List Node)
  | mapping (tag : Tag) (entries : List (Node × Node))
  /-- A reference to a collection that it stands in itself. -/
  | endless
deriving Inhabited

/-- The tag that the form of a plain scalar suggests. -/
def Tag.ofPlain (cs : List Char) : Tag :=
  if boolWords.any (·.toList == cs) then .bool
  else if isFloat cs then .float
  else if isInt cs then .int
  else if cs = ['<', '<'] then .merge
  else if nullWords.any (·.toList == cs) then .null
  else if (Timestamp.read? cs).isSome then .timestamp
  else if cs = ['='] then .value
  else .str

namespace Node

/-- The node where nothing is written. -/
def empty : Node := .scalar .null []

/-- What reading nodes depends on: the tokens that are left, and the nodes with anchors, absent
    as long as they are unfinished. -/
structure Source where
  tokens : List Token
  anchors : List (List Char × Option Node) := []

/-- A computation on a source. -/
abbrev Read := StateT Source (Except Refusal)

/-- Refuses the text. -/
def malformed {α : Type} : Read α := throw .malformed

/-- The next token. -/
def next : Read (Option Token) := do return (← get).tokens.head?

/-- Goes on to the token after the next one. -/
def skip : Read Unit := modify fun s => { s with tokens := s.tokens.tail }

/-- Whether the next token is one of some, which are compared without what they carry. -/
def nextIs (p : Token → Bool) : Read Bool := do return (← next).any p

/-! ## Properties -/

/-- The anchor and the tag of a node. -/
structure Properties where
  anchor : Option (List Char) := none
  tag : Option (List Char) := none

/-- The name of a tag, whose handle has to be known. -/
def tagName (handles : List (List Char × List Char)) (handle : Option (List Char))
    (suffix : List Char) : Read (List Char) :=
  match handle with
  | none => return suffix
  | some h =>
    match handles.find? fun e => e.1 == h with
    | some e => return e.2 ++ suffix
    | none => malformed

/-- Reads an anchor, if there is one. -/
def readAnchor (p : Properties) : Read Properties := do
  match ← next with
  | some (.anchor name) =>
    skip
    return { p with anchor := some name }
  | _ => return p

/-- Reads a tag, if there is one. -/
def readTag (handles : List (List Char × List Char)) (p : Properties) : Read Properties := do
  match ← next with
  | some (.tag handle suffix) =>
    skip
    return { p with tag := some (← tagName handles handle suffix) }
  | _ => return p

/-- Reads the properties of a node, in either order. -/
def readProperties (handles : List (List Char × List Char)) : Read Properties := do
  let p ← readAnchor {}
  let p ← readTag handles p
  if p.anchor.isSome then return p else readAnchor p

/-- The tag of a node, or what it is without one. -/
def Properties.tagOr (p : Properties) (default : Tag) : Tag :=
  match p.tag with
  | none => default
  | some ['!'] => default
  | some name => Tag.ofName name

/-- A scalar with properties; the tag `!` makes it plain. -/
def Properties.scalar (p : Properties) (isPlain : Bool) (text : List Char) : Node :=
  let isPlain := (isPlain && p.tag.isNone) || p.tag == some ['!']
  .scalar (p.tagOr (if isPlain then Tag.ofPlain text else .str)) text

/-- Opens an anchor, which must not be in use. -/
def openAnchor (p : Properties) : Read Unit := do
  match p.anchor with
  | none => return ()
  | some name =>
    if (← get).anchors.any fun a => a.1 == name then malformed
    else modify fun s => { s with anchors := (name, none) :: s.anchors }

/-- Gives an anchor its node. -/
def closeAnchor (p : Properties) (n : Node) : Read Node := do
  match p.anchor with
  | none => return n
  | some name =>
    modify fun s =>
      { s with anchors := s.anchors.map fun a => if a.1 = name then (name, some n) else a }
    return n

/-- The node with an anchor. -/
def lookup (name : List Char) : Read Node := do
  match (← get).anchors.find? fun a => a.1 == name with
  | some (_, some n) => return n
  | some (_, none) => return .endless
  | none => malformed

/-! ## Collections -/

/-- A token that ends an entry of a block. -/
def endsBlockEntry : Token → Bool
  | .key | .value | .blockEnd => true
  | _ => false

/-- A token that ends an entry of a block sequence. -/
def endsBlockItem : Token → Bool
  | .blockEntry | .blockEnd => true
  | _ => false

/-- A token that ends an entry of a sequence without indentation. -/
def endsBareItem (t : Token) : Bool := endsBlockEntry t || endsBlockItem t

/-- A token that ends an entry between brackets; `close` ends them all. -/
def endsFlowEntry (close : Token → Bool) (t : Token) : Bool :=
  close t ||
  match t with
  | .flowEntry => true
  | _ => false

/-- A token that ends a key between brackets. -/
def endsFlowKey (close : Token → Bool) (t : Token) : Bool :=
  endsFlowEntry close t ||
  match t with
  | .value => true
  | _ => false

/-- The closing bracket of a sequence. -/
def closesSequence : Token → Bool
  | .flowSequenceEnd => true
  | _ => false

/-- The closing bracket of a mapping. -/
def closesMapping : Token → Bool
  | .flowMappingEnd => true
  | _ => false

/-- A colon. -/
def isValueToken : Token → Bool
  | .value => true
  | _ => false

/-- What precedes a key. -/
def isKeyToken : Token → Bool
  | .key => true
  | _ => false

/-- A dash. -/
def isEntryToken : Token → Bool
  | .blockEntry => true
  | _ => false

/-- Where a node stands: in a block, in a block where a sequence need not be indented, or between
    brackets. -/
inductive Place where
  | block
  | blockValue
  | flow
deriving DecidableEq

/-- Goes on after the comma between entries; there is none before the first. -/
def comma (isFirst : Bool) : Read Unit := do
  if !isFirst then
    match ← next with
    | some .flowEntry => skip
    | _ => malformed

mutual

/-- Reads a node. Every call takes up a token or is the last before one does, so that `fuel` need
    not exceed a multiple of the number of tokens. -/
def read (handles : List (List Char × List Char)) : Nat → Place → Read Node
  | 0, _ => malformed
  | fuel + 1, place => do
    match ← next with
    | some (.reference name) =>
      skip
      lookup name
    | _ =>
      let p ← readProperties handles
      openAnchor p
      match ← next with
      | some (.scalar isPlain text) =>
        skip
        closeAnchor p (p.scalar isPlain text)
      | some .flowSequence =>
        skip
        closeAnchor p (.sequence (p.tagOr .sequence) (← readFlowItems handles fuel true))
      | some .flowMapping =>
        skip
        closeAnchor p (.mapping (p.tagOr .mapping) (← readFlowEntries handles fuel true))
      | some .blockEntry =>
        if place = .blockValue then
          closeAnchor p (.sequence (p.tagOr .sequence) (← readBareItems handles fuel))
        else readNothing p
      | some .blockSequence =>
        if place = .flow then readNothing p
        else
          skip
          closeAnchor p (.sequence (p.tagOr .sequence) (← readBlockItems handles fuel))
      | some .blockMapping =>
        if place = .flow then readNothing p
        else
          skip
          closeAnchor p (.mapping (p.tagOr .mapping) (← readBlockEntries handles fuel))
      | _ => readNothing p

/-- A node of which only properties are written. -/
def readNothing (p : Properties) : Read Node :=
  if p.anchor.isSome || p.tag.isSome then
    closeAnchor p (.scalar (p.tagOr .null) [])
  else malformed

/-- Reads a node unless the next token ends its place. -/
def readUnless (handles : List (List Char × List Char)) :
    Nat → Place → (Token → Bool) → Read Node
  | 0, _, _ => malformed
  | fuel + 1, place, ends => do
    if ← nextIs ends then return empty else read handles fuel place

/-- Reads the items of a block sequence. -/
def readBlockItems (handles : List (List Char × List Char)) : Nat → Read (List Node)
  | 0 => malformed
  | fuel + 1 => do
    match ← next with
    | some .blockEntry =>
      skip
      let item ← readUnless handles fuel .block endsBlockItem
      return item :: (← readBlockItems handles fuel)
    | some .blockEnd =>
      skip
      return []
    | _ => malformed

/-- Reads the items of a sequence without indentation. -/
def readBareItems (handles : List (List Char × List Char)) : Nat → Read (List Node)
  | 0 => malformed
  | fuel + 1 => do
    if ← nextIs isEntryToken then
      skip
      let item ← readUnless handles fuel .block endsBareItem
      return item :: (← readBareItems handles fuel)
    else return []

/-- Reads the entries of a block mapping. -/
def readBlockEntries (handles : List (List Char × List Char)) : Nat → Read (List (Node × Node))
  | 0 => malformed
  | fuel + 1 => do
    match ← next with
    | some .key =>
      skip
      let key ← readUnless handles fuel .blockValue endsBlockEntry
      let value ← readValue handles fuel .blockValue endsBlockEntry
      return (key, value) :: (← readBlockEntries handles fuel)
    | some .blockEnd =>
      skip
      return []
    | _ => malformed

/-- Reads the value of an entry, which is nothing without a colon. -/
def readValue (handles : List (List Char × List Char)) :
    Nat → Place → (Token → Bool) → Read Node
  | 0, _, _ => malformed
  | fuel + 1, place, ends => do
    if ← nextIs isValueToken then
      skip
      readUnless handles fuel place ends
    else return empty

/-- Reads the items of a sequence in brackets; an item with a key is a mapping of one entry. -/
def readFlowItems (handles : List (List Char × List Char)) : Nat → Bool → Read (List Node)
  | 0, _ => malformed
  | fuel + 1, isFirst => do
    if ← nextIs closesSequence then
      skip
      return []
    comma isFirst
    if ← nextIs isKeyToken then
      skip
      let key ← readUnless handles fuel .flow (endsFlowKey closesSequence)
      let value ← readValue handles fuel .flow (endsFlowEntry closesSequence)
      return .mapping .mapping [(key, value)] :: (← readFlowItems handles fuel false)
    if ← nextIs closesSequence then
      skip
      return []
    let item ← read handles fuel .flow
    return item :: (← readFlowItems handles fuel false)

/-- Reads the entries of a mapping in brackets; a node without a key before it is a key alone. -/
def readFlowEntries (handles : List (List Char × List Char)) :
    Nat → Bool → Read (List (Node × Node))
  | 0, _ => malformed
  | fuel + 1, isFirst => do
    if ← nextIs closesMapping then
      skip
      return []
    comma isFirst
    if ← nextIs isKeyToken then
      skip
      let key ← readUnless handles fuel .flow (endsFlowKey closesMapping)
      let value ← readValue handles fuel .flow (endsFlowEntry closesMapping)
      return (key, value) :: (← readFlowEntries handles fuel false)
    if ← nextIs closesMapping then
      skip
      return []
    let key ← read handles fuel .flow
    return (key, empty) :: (← readFlowEntries handles fuel false)

end

/-! ## Documents -/

/-- The handles that need no directive. -/
def commonHandles : List (List Char × List Char) :=
  [(['!'], ['!']), (['!', '!'], Tag.commonStart)]

/-- What the directives of a document declare. -/
structure Declared where
  hasVersion : Bool := false
  handles : List (List Char × List Char) := []

/-- Adds a directive; each may come once. -/
def Declared.add (d : Declared) : Directive → Read Declared
  | .version major =>
    if d.hasVersion || major != 1 then malformed else return { d with hasVersion := true }
  | .tag handle expansion =>
    if d.handles.any fun e => e.1 == handle then malformed
    else return { d with handles := (handle, expansion) :: d.handles }
  | .other => return d

/-- The directives at the start of some tokens. -/
def directives : List Token → List Directive
  | .directive d :: rest => d :: directives rest
  | _ => []

/-- A token that ends a document. -/
def endsDocument : Token → Bool
  | .directive _ | .documentStart | .documentEnd | .streamEnd => true
  | _ => false

/-- A mark at the end of a document. -/
def isDocumentEnd : Token → Bool
  | .documentEnd => true
  | _ => false

/-- Reads the document that starts with directives or with the mark for a start. -/
def readMarked (fuel : Nat) : Read Node := do
  let ds := directives (← get).tokens
  modify fun s => { s with tokens := s.tokens.drop ds.length }
  let declared ← ds.foldlM Declared.add {}
  match ← next with
  | some .documentStart =>
    skip
    readUnless (declared.handles ++ commonHandles) fuel .block endsDocument
  | _ => malformed

/-- Reads the only document of a text; nothing if there is none. -/
def readDocument (fuel : Nat) : Read (Option Node) := do
  match ← next with
  | some .streamEnd => return none
  | some (.directive _) | some .documentStart => finish (← readMarked fuel)
  | _ => finish (← read commonHandles fuel .block)
where
  /-- Nothing but marks for the end may follow. -/
  finish (n : Node) : Read (Option Node) := do
    modify fun s => { s with tokens := s.tokens.dropWhile isDocumentEnd }
    match ← next with
    | some .streamEnd => return some n
    | _ => malformed

/-- The node of the only document in a text; nothing if there is none. -/
def ofText (cs : List Char) : Except Refusal (Option Node) := do
  let tokens ← Token.scan cs
  let (n, _) ← (readDocument (4 * tokens.length + 8)).run { tokens }
  return n

end Node

end Muffle.Yaml
