/-
  Muffle.Console.Table

  Tables of two columns and frames, drawn with rounded corners. A table has a title above it,
  centred; a frame has its title in the upper edge.
-/

import Muffle.Console.Layout

namespace Muffle.Console

open Text

/-! ## Columns -/

/-- The cells of a text in a column, with a space at both sides. -/
def columnLines (width : Nat) (cs : List Char) : List (List Char) :=
  (layOut width .ellipsis cs).map fun l => ' ' :: padded width l ++ [' ']

/-- The lines of two columns beside each other, the shorter one filled up with blank lines. -/
def beside (leftWidth rightWidth : Nat) (left right : List (List Char)) :
    List (List Char × List Char) :=
  let height := max left.length right.length
  let fill (width : Nat) (ls : List (List Char)) :=
    ls ++ List.replicate (height - ls.length) (spaces (width + 2))
  (fill leftWidth left).zip (fill rightWidth right)

/-- A row of a table: a label and what it stands for. -/
structure Row where
  label : List Char
  text : List Char

/-- The lines of a row, its columns as they come out. -/
def Row.lines (r : Row) (leftWidth rightWidth : Nat) : List (List Char × List Char) :=
  beside leftWidth rightWidth (columnLines leftWidth r.label) (columnLines rightWidth r.text)

/-! ## Edges -/

/-- A horizontal line. -/
def rule (n : Nat) : List Char := List.replicate n '─'

/-- A horizontal edge over two columns. -/
def edge (corner joint end_ : Char) (leftWidth rightWidth : Nat) : List Char :=
  corner :: rule (leftWidth + 2) ++ joint :: rule (rightWidth + 2) ++ [end_]

/-! ## Tables -/

/-- The lines of a table that may be `room` cells wide. The first column has a fixed width, the
    second is as wide as its longest line if there is room for it. -/
def tableLines (room leftWidth : Nat) (title : List Char) (rows : List Row) : List (List Char) :=
  let natural := (rows.map fun r => naturalWidth r.text).foldl max 0
  let rightWidth := min natural (room - (leftWidth + 7))
  let body := rows.flatMap fun r => (r.lines leftWidth rightWidth).map fun l =>
    '│' :: l.1 ++ '│' :: l.2 ++ ['│']
  centred (leftWidth + rightWidth + 7) title ::
    edge '╭' '┬' '╮' leftWidth rightWidth ::
    body ++ [edge '╰' '┴' '╯' leftWidth rightWidth]

/-- The lines of a frame around rows, which is as wide as they need. -/
def frameLines (title : List Char) (rows : List Row) : List (List Char) :=
  let leftWidth := (rows.map fun r => naturalWidth r.label).foldl max 0
  let rightWidth := (rows.map fun r => naturalWidth r.text).foldl max 0
  let width := leftWidth + rightWidth + 6
  let free := width - (cellLength title + 2)
  let body := rows.flatMap fun r => (r.lines leftWidth rightWidth).map fun l =>
    '│' :: ' ' :: l.1 ++ l.2 ++ [' ', '│']
  ('╭' :: rule (free / 2) ++ ' ' :: title ++ ' ' :: rule (free - free / 2) ++ ['╮']) ::
    body ++ ['╰' :: rule width ++ ['╯']]

end Muffle.Console
