/-
  Muffle.Console.Markup

  Markup: text with tags in square brackets that switch styles on and off. A tag starts with a
  small letter, `#`, `/` or `@`; brackets that start otherwise are plain text. Backslashes before
  a tag count by pairs, each for one backslash, and a single one left over makes the tag plain.
  Styles do not show in what is printed here, so only the text remains; but a closing tag has to
  close something.
-/

import Muffle.Console.StyleName
import Muffle.Fault

namespace Muffle.Console.Markup

/-! ## Tags -/

/-- A character that a tag can start with. -/
def isTagStart (c : Char) : Bool :=
  ('a' ≤ c && c ≤ 'z') || c == '#' || c == '/' || c == '@'

/-- The rest of a tag up to its closing bracket, and what follows it. -/
def tagBody? : List Char → Option (List Char × List Char)
  | [] => none
  | c :: rest =>
    if c = ']' then some ([], rest)
    else if c = '[' then none
    else (tagBody? rest).map fun t => (c :: t.1, t.2)

/-- The tag at the start of a text, and what follows it. -/
def tag? : List Char → Option (List Char × List Char)
  | '[' :: c :: rest =>
    if isTagStart c then (tagBody? rest).map fun t => (c :: t.1, t.2) else none
  | _ => none

theorem tagBody?_length {cs : List Char} {t : List Char × List Char} (h : tagBody? cs = some t) :
    t.2.length < cs.length := by
  induction cs generalizing t with
  | nil => simp [tagBody?] at h
  | cons c rest ih =>
    simp only [tagBody?] at h
    split at h
    · cases h; simp
    · split at h
      · simp at h
      · obtain ⟨u, hu, rfl⟩ := Option.map_eq_some_iff.1 h
        have := ih hu
        simp only [List.length_cons]; omega

theorem tag?_length {cs : List Char} {t : List Char × List Char} (h : tag? cs = some t) :
    t.2.length < cs.length := by
  unfold tag? at h
  split at h
  · split at h
    · obtain ⟨u, hu, rfl⟩ := Option.map_eq_some_iff.1 h
      have := tagBody?_length hu
      simp only [List.length_cons]; omega
    · simp at h
  · simp at h

/-! ## Pieces -/

/-- A piece of markup: plain text, or a tag with the backslashes right before it. -/
inductive Piece where
  | plain (text : List Char)
  | tag (backslashes : Nat) (body : List Char)
deriving DecidableEq, Repr

/-- The pieces of a text, given the reversed plain text before it and the number of backslashes
    that come last in it. -/
def piecesFrom (plain : List Char) (slashes : Nat) : List Char → List Piece
  | [] => [.plain (List.replicate slashes '\\' ++ plain).reverse]
  | c :: rest =>
    match h : tag? (c :: rest) with
    | some t =>
      have : t.2.length < (c :: rest).length := tag?_length h
      .plain plain.reverse :: .tag slashes t.1 :: piecesFrom [] 0 t.2
    | none =>
      if c = '\\' then piecesFrom plain (slashes + 1) rest
      else piecesFrom (c :: List.replicate slashes '\\' ++ plain) 0 rest
termination_by cs => cs.length
decreasing_by
  · assumption
  all_goals exact Nat.lt_succ_self _

/-- The pieces of a text. -/
def pieces (cs : List Char) : List Piece := piecesFrom [] 0 cs

/-- A piece with its tag made plain. -/
def Piece.escaped : Piece → List Char
  | .plain text => text
  | .tag n body => List.replicate (2 * n + 1) '\\' ++ '[' :: body ++ [']']

/-- A text as markup that shows it; a single backslash at the end is doubled, so that it does not
    escape what comes next. -/
def escape (cs : List Char) : List Char :=
  let out := (pieces cs).flatMap Piece.escaped
  match out.reverse with
  | ['\\'] => out ++ ['\\']
  | '\\' :: c :: _ => if c = '\\' then out else out ++ ['\\']
  | _ => out

/-! ## The text that markup shows -/

/-- Plain text without the backslashes right before brackets. -/
def unslashed : List Char → List Char
  | '\\' :: '[' :: rest => '[' :: unslashed rest
  | c :: rest => c :: unslashed rest
  | [] => []

/-- Drops the first of the open styles with this name. -/
def close? (name : String) : List String → Option (List String)
  | [] => none
  | s :: rest => if s = name then some rest else (close? name rest).map (s :: ·)

/-- Opens or closes a style; the open ones come innermost first. -/
def applyTag (body : List Char) (opened : List String) : Except Fault (List String) :=
  match body.takeWhile (· != '=') with
  | '/' :: name =>
    let name := Text.strip name
    let left := if name.isEmpty then opened.tail? else close? (styleName name) opened
    match left with
    | some left => .ok left
    | none => .error .unmatchedTag
  | name => .ok (styleName name :: opened)

/-- The text of pieces, given the styles that are open. -/
def shownFrom (opened : List String) : List Piece → Except Fault (List Char)
  | [] => .ok []
  | .plain text :: rest => do return unslashed text ++ (← shownFrom opened rest)
  | .tag n body :: rest => do
    let slashes := List.replicate (n / 2) '\\'
    if n % 2 = 1 then return slashes ++ '[' :: body ++ ']' :: (← shownFrom opened rest)
    return slashes ++ (← shownFrom (← applyTag body opened) rest)

/-- A control that is not printed: the bell, the backspace, vertical moves and the carriage
    return. -/
def isDropped (c : Char) : Bool :=
  c == '\x07' || c == '\x08' || c == '\x0b' || c == '\x0c' || c == '\r'

/-- The text that markup shows. -/
def shown (cs : List Char) : Except Fault (List Char) := do
  return (← shownFrom [] (pieces cs)).filter fun c => !isDropped c

end Muffle.Console.Markup
