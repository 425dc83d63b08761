/-
  Muffle.Value

  The values that hosts, streams and configuration files hand to the program. Positions, anchors
  and messages may be any of them, so the program keeps them as they came. A tuple is a position
  made of several values; a list is one that came inside another value. Values of other kinds (a
  date in a configuration file, for instance) are leaves, known by their two texts only; so nothing
  is said here about an order of leaves. No value goes deeper than the program can follow, and a
  text is made of whole characters.
-/

import Muffle.Number.Shortest
import Muffle.Text.Quoted

namespace Muffle

/-- A value of any kind. The entries of a map stand in the order of their first insertion. -/
inductive Value where
  | null
  | bool (b : Bool)
  | int (i : Int)
  | float (x : Binary64)
  | str (s : String)
  | tuple (items : List Value)
  | list (items : List Value)
  | map (entries : List (Value × Value))
  | leaf (kind text quoted : String)
deriving Inhabited, Repr

/-- The kind of a value. -/
inductive Kind where
  | null
  | bool
  | int
  | float
  | str
  | tuple
  | list
  | map
  | leaf (name : String)
deriving DecidableEq, Repr

/-- The word for a kind in messages. -/
def Kind.name : Kind → String
  | .null => "NoneType"
  | .bool => "bool"
  | .int => "int"
  | .float => "float"
  | .str => "str"
  | .tuple => "tuple"
  | .list => "list"
  | .map => "dict"
  | .leaf name => name

namespace Value

/-- The kind of a value. -/
def kind : Value → Kind
  | .null => .null
  | .bool _ => .bool
  | .int _ => .int
  | .float _ => .float
  | .str _ => .str
  | .tuple _ => .tuple
  | .list _ => .list
  | .map _ => .map
  | .leaf k _ _ => .leaf k

/-- The texts of leaves that are empty: of no bytes, and of the empty set. -/
def emptyLeaves : List String := ["b''", "set()"]

/-- The kind of what stands for a value that cannot be gone through to its end, because it is a
    part of itself or because it goes too deep. -/
def endlessKind : String := "endless"

/-- Whether a value counts as true: all but null, false, zero and what is empty. -/
def truthy : Value → Bool
  | .null => false
  | .bool b => b
  | .int i => i != 0
  | .float x => !x.isZero
  | .str s => !s.isEmpty
  | .tuple xs => !xs.isEmpty
  | .list xs => !xs.isEmpty
  | .map es => !es.isEmpty
  | .leaf _ text _ => !emptyLeaves.contains text

/-! ## Equality -/

/-- A number is an integer or a binary number; truth values count as zero and one. -/
inductive Number where
  | int (i : Int)
  | float (x : Binary64)

/-- The number that a value is. -/
def number? : Value → Option Number
  | .bool b => some (.int (if b then 1 else 0))
  | .int i => some (.int i)
  | .float x => some (.float x)
  | _ => none

/-- The order of two numbers; none if one of them is no number. -/
def Number.compare? : Number → Number → Option Ordering
  | .int a, .int b => some (compare a b)
  | .int a, .float y => y.compareInt? a
  | .float x, .int b => (x.compareInt? b).map Ordering.swap
  | .float x, .float y => x.compare? y

/-- Whether two numbers are the same as members of a container: equal, or both no number, which
    are taken for one object. -/
def Number.same (m n : Number) : Bool :=
  match m, n with
  | .float .nan, .float .nan => true
  | m, n => m.compare? n == some .eq

mutual

/-- Whether two values are the same: numbers by what they amount to, containers of one kind by
    their members. Values of different kinds are different. -/
def same : Value → Value → Bool
  | .null, .null => true
  | .str s, .str t => s == t
  | .tuple xs, .tuple ys => sameItems xs ys
  | .list xs, .list ys => sameItems xs ys
  | .map es, .map fs => es.length == fs.length && entriesIn es fs
  | .leaf k s _, .leaf l t _ => k == l && s == t
  | a, b =>
    match a.number?, b.number? with
    | some m, some n => m.same n
    | _, _ => false

/-- Whether two lists hold the same values in the same order. -/
def sameItems : List Value → List Value → Bool
  | [], [] => true
  | x :: xs, y :: ys => same x y && sameItems xs ys
  | _, _ => false

/-- Whether each entry of the first map is one of the second. -/
def entriesIn : List (Value × Value) → List (Value × Value) → Bool
  | [], _ => true
  | (k, v) :: es, fs => fs.any (fun f => same k f.1 && same v f.2) && entriesIn es fs

end

/-! ## Maps -/

/-- The value at a key. -/
def lookupIn (key : Value) : List (Value × Value) → Option Value
  | [] => none
  | (k, v) :: rest => if key.same k then some v else lookupIn key rest

/-- Puts a value at a key: in the place of the key if it is there, else at the end. -/
def insertIn (key value : Value) : List (Value × Value) → List (Value × Value)
  | [] => [(key, value)]
  | (k, v) :: rest =>
    if key.same k then (k, value) :: rest else (k, v) :: insertIn key value rest

/-- The map of entries in order; of two with one key the later value counts. -/
def ofEntries (entries : List (Value × Value)) : Value :=
  .map (entries.foldl (fun acc e => insertIn e.1 e.2 acc) [])

/-- The map of fields with names. -/
def ofFields (fields : List (String × Value)) : Value :=
  .map (fields.map fun f => (.str f.1, f.2))

/-- A value for text that may be absent. -/
def ofText? : Option String → Value
  | none => .null
  | some s => .str s

/-! ## Text -/

/-- Numbers with a magnitude between 10⁻⁴ and 10¹⁶ are written positionally. -/
def floatLayout : Binary64.Layout :=
  { leastPositional := -4, exponential := 16, infinity := "inf", nan := "nan" }

mutual

/-- The text of a value inside another one: texts stand in quotes. -/
def quoted : Value → String
  | .null => "None"
  | .bool b => if b then "True" else "False"
  | .int i => toString i
  | .float x => floatLayout.render x
  | .str s => Text.quoted s
  | .tuple [x] => "(" ++ quoted x ++ ",)"
  | .tuple xs => "(" ++ quotedItems xs ++ ")"
  | .list xs => "[" ++ quotedItems xs ++ "]"
  | .map es => "\x7b" ++ quotedEntries es ++ "\x7d"
  | .leaf _ _ q => q

/-- The texts of items, separated by commas. -/
def quotedItems : List Value → String
  | [] => ""
  | [x] => quoted x
  | x :: y :: rest => quoted x ++ ", " ++ quotedItems (y :: rest)

/-- The texts of entries, separated by commas. -/
def quotedEntries : List (Value × Value) → String
  | [] => ""
  | [(k, v)] => quoted k ++ ": " ++ quoted v
  | (k, v) :: e :: rest => quoted k ++ ": " ++ quoted v ++ ", " ++ quotedEntries (e :: rest)

end

/-- The text of a value by itself: a text stands as it is. -/
def text : Value → String
  | .str s => s
  | .leaf _ t _ => t
  | v => v.quoted

/-- Integers from here on have more than 4300 decimal digits, which are too many to be written. -/
def digitBound : Nat := Nat.pow (Nat.pow 10 100) 43

mutual

/-- Whether a value has a text: no integer in it is too long to be written. A leaf without a text
    has such an integer inside. -/
def isWritable : Value → Bool
  | .int i => i.natAbs < digitBound
  | .leaf _ text _ => !text.isEmpty
  | .tuple xs => areWritable xs
  | .list xs => areWritable xs
  | .map es => entriesWritable es
  | _ => true

/-- The same for items. -/
def areWritable : List Value → Bool
  | [] => true
  | x :: xs => isWritable x && areWritable xs

/-- The same for entries. -/
def entriesWritable : List (Value × Value) → Bool
  | [] => true
  | (k, v) :: es => isWritable k && isWritable v && entriesWritable es

end

end Value

end Muffle
