/-
  Muffle.Yaml.Reader

  The value of a YAML text. A mapping takes over the entries of the mappings that it merges,
  unless it has entries of its own with their keys. A key has to be a value that a set may hold.
-/

import Muffle.Number.Decimal
import Muffle.Text.Base64
import Muffle.Text.Integer
import Muffle.Value.Order
import Muffle.Yaml.Node

namespace Muffle.Yaml

/-! ## Merging -/

namespace Node

/-- The entries that a merged value brings: those of a mapping, or those of the mappings in a
    sequence, of which the first counts most. -/
def mergedEntries : Node → Except Refusal (List (Node × Node))
  | .mapping _ es => .ok es
  | .sequence _ items => do
    let parts ← items.mapM fun
      | .mapping _ es => .ok es
      | _ => .error Refusal.malformed
    return parts.reverse.flatten
  | _ => .error .malformed

/-- The entries of a mapping: those it merges, then its own. -/
def mergeEntries (es : List (Node × Node)) : Except Refusal (List (Node × Node)) := do
  let isMerge (e : Node × Node) : Bool :=
    match e.1 with
    | .scalar .merge _ => true
    | _ => false
  let merged ← (es.filter isMerge).mapM fun e => e.2.mergedEntries
  let own := (es.filter (!isMerge ·)).map fun e =>
    match e.1 with
    | .scalar .value cs => (Node.scalar .str cs, e.2)
    | _ => e
  return merged.flatten ++ own

mutual

/-- The node with all mergers carried out. -/
def flatten : Node → Except Refusal Node
  | .sequence t items => do return .sequence t (← flattenItems items)
  | .mapping t es => do return .mapping t (← mergeEntries (← flattenEntries es))
  | n => .ok n

/-- The same for items. -/
def flattenItems : List Node → Except Refusal (List Node)
  | [] => .ok []
  | n :: ns => do return (← flatten n) :: (← flattenItems ns)

/-- The same for entries. -/
def flattenEntries : List (Node × Node) → Except Refusal (List (Node × Node))
  | [] => .ok []
  | (k, v) :: es => do return (← flatten k, ← flatten v) :: (← flattenEntries es)

end

end Node

/-! ## Scalars -/

/-- The integer that decimal digits write. -/
def decimalInt (cs : List Char) : Except Fault Int :=
  let count := (cs.filter Char.isDigit).length
  if Text.digitLimit < count then .error (.tooManyDigits count)
  else
    match Text.readInteger? cs with
    | some i => .ok i
    | none => .error (.notAnInteger 10 (String.ofList cs))

/-- The integer that digits of another base write. -/
def basedInt (base : Nat) (cs : List Char) : Except Fault Int :=
  match Text.digitsFrom base 0 false cs with
  | some n => .ok n
  | none => .error (.notAnInteger base (String.ofList cs))

/-- The integer that a text without underscores and sign writes. -/
def unsignedInt : List Char → Except Fault Int
  | ['0'] => .ok 0
  | '0' :: 'b' :: rest => basedInt 2 rest
  | '0' :: 'x' :: rest => basedInt 16 rest
  | '0' :: rest => basedInt 8 ('0' :: rest)
  | cs =>
    if cs.contains ':' then do
      (Text.splitAtChar ':' cs).foldlM (fun n part => do return 60 * n + (← decimalInt part)) 0
    else decimalInt cs

/-- A text without underscores. -/
def withoutUnderscores (cs : List Char) : List Char := cs.filter (· != '_')

/-- Splits off the sign of a number, which must not be empty. -/
def signOf (cs : List Char) : Except Fault (Bool × List Char) :=
  match cs with
  | [] => .error .emptyNumber
  | '-' :: rest => .ok (true, rest)
  | '+' :: rest => .ok (false, rest)
  | cs => .ok (false, cs)

/-- The integer that a scalar writes. -/
def readInt (cs : List Char) : Except Fault Value := do
  let (negative, rest) ← signOf (withoutUnderscores cs)
  let i ← unsignedInt rest
  return .int (if negative then -i else i)

/-- The number that a text writes. -/
def decimalFloat (cs : List Char) : Except Fault Binary64 :=
  match Binary64.ofText? cs with
  | some x => .ok x
  | none => .error (.notADecimal (String.ofList cs))

/-- The sum of numbers, each with sixty times the weight of the one before. -/
def sexagesimal (parts : List Binary64) : Binary64 :=
  let weighted := parts.zipIdx.map fun (x, i) => x.mul (Binary64.ofInt (Int.pow 60 i))
  weighted.foldl Binary64.add (Binary64.zero false)

/-- The number that a text without underscores and sign writes. -/
def unsignedFloat (cs : List Char) : Except Fault Binary64 :=
  if cs = ".inf".toList then .ok (.infinity false)
  else if cs = ".nan".toList then .ok .nan
  else if cs.contains ':' then do
    return sexagesimal (← (Text.splitAtChar ':' cs).mapM decimalFloat).reverse
  else decimalFloat cs

/-- The binary number that a scalar writes. -/
def readFloat (cs : List Char) : Except Fault Value := do
  let (negative, rest) ← signOf (Text.lower (withoutUnderscores cs))
  let x ← unsignedFloat rest
  return .float (if negative then x.neg else x)

/-- The truth value that a scalar names. -/
def readBool (cs : List Char) : Except Fault Value :=
  let word := String.ofList (Text.lower cs)
  if ["yes", "true", "on"].contains word then .ok (.bool true)
  else if ["no", "false", "off"].contains word then .ok (.bool false)
  else .error (.missingField (.str word))

/-- The day or moment that a scalar names. -/
def readTimestamp (cs : List Char) : Except Refusal Value :=
  match Timestamp.read? cs with
  | none => .error (.fault (.noOperation .null "groupdict"))
  | some t =>
    match t.complaint? with
    | some complaint => .error (.fault (.notADate complaint))
    | none => .ok t.toValue

/-- The bytes that a scalar writes. -/
def readBinary (cs : List Char) : Except Refusal Value :=
  if cs.any fun c => 127 < c.toNat then .error .malformed
  else
    match Text.readBase64 cs with
    | none => .error .malformed
    | some bytes => .ok (.leaf "bytes" (Text.quotedBytes bytes) (Text.quotedBytes bytes))

/-- A refusal for a fault. -/
def orFault {α : Type} (x : Except Fault α) : Except Refusal α := x.mapError .fault

/-- The value of a scalar. -/
def scalarValue (t : Tag) (cs : List Char) : Except Refusal Value :=
  match t with
  | .null => .ok .null
  | .bool => orFault (readBool cs)
  | .int => orFault (readInt cs)
  | .float => orFault (readFloat cs)
  | .binary => readBinary cs
  | .timestamp => readTimestamp cs
  | .str => .ok (.str (String.ofList cs))
  | _ => .error .malformed

/-! ## Collections -/

/-- The mapping of entries, whose keys have to be members of sets. -/
def mappingOf (es : List (Value × Value)) : Except Refusal Value :=
  if es.any fun e => e.1.obstacle?.isSome then .error .malformed else .ok (.ofEntries es)

/-- A set; it is known by its text, which names the members in their order in the mapping. There
    is no text if one of them has none. -/
def setOf (es : List (Value × Value)) : Except Refusal Value := do
  match ← mappingOf es with
  | .map [] => return .leaf "set" "set()" "set()"
  | .map es =>
    let members := es.map Prod.fst
    let text :=
      if Value.areWritable members then "\x7b" ++ Value.quotedItems members ++ "\x7d" else ""
    return .leaf "set" text text
  | _ => .error .malformed

/-- A pair from a mapping of one entry. -/
def pairOf : Value → Except Refusal Value
  | .map [(k, v)] => .ok (.tuple [k, v])
  | _ => .error .malformed

mutual

/-- The value of a node whose mergers are carried out. -/
def Node.toValue : Node → Except Refusal Value
  | .scalar t cs => scalarValue t cs
  | .sequence t items => do
    let xs ← Node.toValues items
    match t with
    | .sequence => return .list xs
    | .orderedMap | .pairs => return .list (← xs.mapM pairOf)
    | _ => .error .malformed
  | .mapping t es => do
    let entries ← Node.toEntries es
    match t with
    | .mapping => mappingOf entries
    | .set => setOf entries
    | _ => .error .malformed
  | .endless => .ok (.leaf Value.endlessKind "[...]" "[...]")

/-- The values of items. -/
def Node.toValues : List Node → Except Refusal (List Value)
  | [] => .ok []
  | n :: ns => do return (← Node.toValue n) :: (← Node.toValues ns)

/-- The values of entries. -/
def Node.toEntries : List (Node × Node) → Except Refusal (List (Value × Value))
  | [] => .ok []
  | (k, v) :: es => do return (← Node.toValue k, ← Node.toValue v) :: (← Node.toEntries es)

end

/-- The value of a text; null if it holds no document. -/
def read (cs : List Char) : Except Refusal Value := do
  match ← Node.ofText cs with
  | none => return .null
  | some n => (← n.flatten).toValue

end Muffle.Yaml
