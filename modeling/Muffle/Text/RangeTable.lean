/-
  Muffle.Text.RangeTable

  Tables of characters, written as text and looked up by halving. A range table lists spans of
  code points in ascending order; a shift table lists runs that move by the same distance; an
  expansion table lists characters that become several. Numbers are hexadecimal.
-/

namespace Muffle.Text

/-! ## Reading numbers and fields -/

/-- The value of a hexadecimal digit. -/
def hexValue? (c : Char) : Option Nat :=
  if c.isDigit then some (c.toNat - '0'.toNat)
  else if 'a' ≤ c ∧ c ≤ 'f' then some (c.toNat - 'a'.toNat + 10)
  else if 'A' ≤ c ∧ c ≤ 'F' then some (c.toNat - 'A'.toNat + 10)
  else none

/-- The number that hexadecimal digits write; other characters count as zero. -/
def hexNumber (cs : List Char) : Nat :=
  cs.foldl (fun n c => 16 * n + (hexValue? c).getD 0) 0

/-- The pieces of a text between the places where `sep` stands; one piece more than separators. -/
def splitAtChar (sep : Char) : List Char → List (List Char)
  | [] => [[]]
  | c :: rest =>
    match splitAtChar sep rest with
    | [] => [[c]]
    | piece :: pieces => if c = sep then [] :: piece :: pieces else (c :: piece) :: pieces

/-- The fields in the lines of a table, which blanks separate. -/
def tableFields (lines : List String) : List (List Char) :=
  lines.flatMap fun l => splitAtChar ' ' l.toList

/-! ## Spans of code points -/

/-- The code points from `first` to `last`, both included. -/
structure Span where
  first : Nat
  last : Nat
deriving Inhabited, Repr

/-- Spans in ascending order, none touching another. -/
abbrev RangeTable := Array Span

/-- Reads one span, written `first-last` or as a single number. -/
def Span.ofField (f : List Char) : Span :=
  match splitAtChar '-' f with
  | [a, b] => ⟨hexNumber a, hexNumber b⟩
  | _ => ⟨hexNumber f, hexNumber f⟩

/-- Reads a table from its lines. -/
def RangeTable.ofLines (lines : List String) : RangeTable :=
  ((tableFields lines).map Span.ofField).toArray

/-- Looks for the span that holds `n` among those from index `lo` up to `hi`. -/
def RangeTable.search (t : RangeTable) (n lo hi : Nat) : Option Span :=
  if lo < hi then
    let mid := (lo + hi) / 2
    if _ : mid < t.size then
      if n < t[mid].first then t.search n lo mid
      else if t[mid].last < n then t.search n (mid + 1) hi
      else some t[mid]
    else none
  else none
termination_by hi - lo

/-- The span that holds a character. -/
def RangeTable.find? (t : RangeTable) (c : Char) : Option Span :=
  t.search c.toNat 0 t.size

/-- Whether some span holds a character. -/
def RangeTable.contains (t : RangeTable) (c : Char) : Bool :=
  (t.find? c).isSome

/-! ## Maps between characters -/

/-- The code points `first`, `first + step`, … up to `last`; the k-th goes to the k-th after
    `image`, with the same step. -/
structure Shift where
  first : Nat
  last : Nat
  step : Nat
  image : Nat
deriving Inhabited, Repr

/-- Runs in ascending order that do not reach into one another. -/
abbrev ShiftTable := Array Shift

/-- Reads one run, written `first-last:image`, `first~last:image` or `first:image`. -/
def Shift.ofField (f : List Char) : Shift :=
  match splitAtChar ':' f with
  | [source, image] =>
    match splitAtChar '~' source, splitAtChar '-' source with
    | [a, b], _ => ⟨hexNumber a, hexNumber b, 2, hexNumber image⟩
    | _, [a, b] => ⟨hexNumber a, hexNumber b, 1, hexNumber image⟩
    | _, _ => ⟨hexNumber source, hexNumber source, 1, hexNumber image⟩
  | _ => ⟨0, 0, 1, 0⟩

/-- Reads a table from its lines. -/
def ShiftTable.ofLines (lines : List String) : ShiftTable :=
  ((tableFields lines).map Shift.ofField).toArray

/-- Looks for the image of `n` in the runs from index `lo` up to `hi`. -/
def ShiftTable.search (t : ShiftTable) (n lo hi : Nat) : Option Nat :=
  if lo < hi then
    let mid := (lo + hi) / 2
    if _ : mid < t.size then
      if n < t[mid].first then t.search n lo mid
      else if t[mid].last < n then t.search n (mid + 1) hi
      else if (n - t[mid].first) % t[mid].step = 0 then some (t[mid].image + (n - t[mid].first))
      else none
    else none
  else none
termination_by hi - lo

/-- The image of a character that the table moves. -/
def ShiftTable.image? (t : ShiftTable) (c : Char) : Option Char :=
  (t.search c.toNat 0 t.size).map Char.ofNat

/-- All pairs of a code point and its image. -/
def ShiftTable.pairs (t : ShiftTable) : List (Nat × Nat) :=
  t.toList.flatMap fun s =>
    (List.range ((s.last - s.first) / s.step + 1)).map fun k =>
      (s.first + k * s.step, s.image + k * s.step)

/-- Characters with the several characters that each becomes. -/
abbrev ExpansionTable := List (Nat × List Char)

/-- Reads a table from its lines, in fields `code:image.image`. -/
def ExpansionTable.ofLines (lines : List String) : ExpansionTable :=
  (tableFields lines).filterMap fun f =>
    match splitAtChar ':' f with
    | [source, images] =>
      some (hexNumber source, (splitAtChar '.' images).map fun i => Char.ofNat (hexNumber i))
    | _ => none

/-- The characters that a character becomes. -/
def ExpansionTable.images? (t : ExpansionTable) (c : Char) : Option (List Char) :=
  t.lookup c.toNat

end Muffle.Text
