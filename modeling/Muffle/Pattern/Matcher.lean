/-
  Muffle.Pattern.Matcher

  Matching by backtracking. A matcher takes a state and what has to match afterwards, and tries
  its ways in order until the rest succeeds. Repetitions end because every further round has to
  move on in the text: the required rounds count down, and after them a round that stays where it
  began is the last.
-/

import Muffle.Pattern.Program

namespace Muffle.Pattern

/-- Where matching stands: the position, and where each group was last opened and closed. -/
structure State where
  pos : Nat
  opened : List (Nat × Nat)
  closed : List (Nat × Nat)

/-- What has to match after a part. -/
abbrev Rest := State → Option State

/-- A part that tries its ways, each followed by the rest. -/
abbrev Matcher := State → Rest → Option State

namespace State

/-- The span of a group that was closed after it was last opened. -/
def span? (s : State) (group : Nat) : Option (Nat × Nat) :=
  match s.opened.lookup group, s.closed.lookup group with
  | some a, some b => if a ≤ b then some (a, b) else none
  | _, _ => none

end State

namespace Matcher

variable (text : Array Char)

/-! ## Single characters and places -/

/-- One character of a set. -/
def one (set : CharSet) : Matcher := fun s k =>
  match text[s.pos]? with
  | some c => if set.contains c then k { s with pos := s.pos + 1 } else none
  | none => none

/-- Whether the character at a position can stand in a word. -/
def isWordAt (ascii : Bool) (pos : Nat) : Bool :=
  (text[pos]?).any (Category.word.holds ascii)

/-- Whether the words on the two sides of a position differ. -/
def isWordEdge (ascii : Bool) (pos : Nat) : Bool :=
  (0 < pos && isWordAt text ascii (pos - 1)) != isWordAt text ascii pos

/-- Whether a position is at a place. -/
def isAt (spot : Spot) (pos : Nat) : Bool :=
  match spot.place with
  | .textStart => pos == 0
  | .textStop => pos == text.size
  | .start => pos == 0 || (spot.lines && text[pos - 1]? == some '\n')
  | .stop =>
    pos == text.size || (text[pos]? == some '\n' && (spot.lines || pos + 1 == text.size))
  | .wordEdge => !text.isEmpty && isWordEdge text spot.ascii pos
  | .notWordEdge => !text.isEmpty && !isWordEdge text spot.ascii pos

/-- A place. -/
def at_ (spot : Spot) : Matcher := fun s k =>
  if isAt text spot s.pos then k s else none

/-! ## Groups -/

/-- A group that can be referred to. -/
def capture (group : Nat) (body : Matcher) : Matcher := fun s k =>
  body { s with opened := (group, s.pos) :: s.opened } fun t =>
    k { t with closed := (group, t.pos) :: t.closed }

/-- A group that keeps the first way in which it matches. -/
def atomic (body : Matcher) : Matcher := fun s k =>
  (body s some).bind k

/-- Whether the text at two positions agrees after folding. -/
def agrees (folding : Folding) (a b : Nat) : Nat → Bool
  | 0 => true
  | n + 1 =>
    (match text[a]?, text[b]? with
      | some x, some y => folding.apply x == folding.apply y
      | _, _ => false) && agrees folding (a + 1) (b + 1) n

/-- What a group matched. -/
def reference (group : Nat) (folding : Folding) : Matcher := fun s k =>
  match s.span? group with
  | none => none
  | some (a, b) =>
    if agrees text folding a s.pos (b - a) then k { s with pos := s.pos + (b - a) } else none

/-- One of two parts, depending on whether a group has matched. -/
def conditional (group : Nat) (yes no : Matcher) : Matcher := fun s k =>
  if (s.span? group).isSome then yes s k else no s k

/-- An assertion: the part has to match, or must not, without moving on. A lookbehind starts
    `behind` characters before. -/
def look (behind : Option Nat) (negative : Bool) (body : Matcher) : Matcher := fun s k =>
  let found := match behind with
    | none => body s some
    | some n => if n ≤ s.pos then body { s with pos := s.pos - n } some else none
  if negative then
    match found with
    | some _ => none
    | none => k s
  else found.bind fun t => k { t with pos := s.pos }

/-! ## Repetitions -/

/-- Whether a number of rounds may still grow. -/
def mayGo : Option Nat → Bool
  | some 0 => false
  | _ => true

/-- One round less. -/
def less (most : Option Nat) : Option Nat := most.map (· - 1)

/-- Rounds of a part, many first. `last` is where the last optional round began. -/
def greedy (body : Matcher) (least : Nat) (most : Option Nat) (last : Option Nat) : Matcher :=
  fun s k =>
    match least with
    | n + 1 => body s fun t => greedy body n (less most) last t k
    | 0 =>
      let further :=
        if mayGo most && last != some s.pos then
          body s fun t =>
            if t.pos = s.pos then k t
            else if _ : text.size - t.pos < text.size - s.pos then
              greedy body 0 (less most) (some s.pos) t k
            else none
        else none
      further.or (k s)
termination_by s => (least, text.size - s.pos)

/-- Rounds of a part, few first. -/
def lazy (body : Matcher) (least : Nat) (most : Option Nat) : Matcher :=
  fun s k =>
    match least with
    | n + 1 => body s fun t => lazy body n (less most) t k
    | 0 =>
      (k s).or <|
        if mayGo most then
          body s fun t =>
            if t.pos = s.pos then k t
            else if _ : text.size - t.pos < text.size - s.pos then lazy body 0 (less most) t k
            else none
        else none
termination_by s => (least, text.size - s.pos)

/-- As many rounds of a part as match, each the first way it does; none if too few match. -/
def rounds (body : Matcher) (least : Nat) (most : Option Nat) (s : State) : Option State :=
  match least with
  | n + 1 =>
    match body s some with
    | some t => rounds body n (less most) t
    | none => none
  | 0 =>
    if mayGo most then
      match body s some with
      | some t =>
        if _ : text.size - t.pos < text.size - s.pos then rounds body 0 (less most) t else some t
      | none => some s
    else some s
termination_by (least, text.size - s.pos)

/-- Rounds of a part that are not given back. -/
def possessive (body : Matcher) (least : Nat) (most : Option Nat) : Matcher := fun s k =>
  (rounds text body least most s).bind k

/-- How many characters from a position on are in a set, up to a bound. -/
def countOf (set : CharSet) (pos : Nat) : Nat → Nat
  | 0 => 0
  | bound + 1 =>
    match text[pos]? with
    | some c => if set.contains c then countOf set (pos + 1) bound + 1 else 0
    | none => 0

/-- How many characters of a set can be taken at most. -/
def reach (set : CharSet) (most : Option Nat) (pos : Nat) : Nat :=
  let left := text.size - pos
  countOf text set pos (match most with | some m => min m left | none => left)

/-- The rest after `least + n`, …, `least + 1`, `least` characters. -/
def fromMany (least : Nat) (s : State) (k : Rest) : Nat → Option State
  | 0 => k { s with pos := s.pos + least }
  | n + 1 => (k { s with pos := s.pos + (least + n + 1) }).or (fromMany least s k n)

/-- The rest after `count`, `count + 1`, … characters, `n` more at most. -/
def fromFew (count : Nat) (s : State) (k : Rest) : Nat → Option State
  | 0 => k { s with pos := s.pos + count }
  | n + 1 => (k { s with pos := s.pos + count }).or (fromFew (count + 1) s k n)

/-- Repetitions of one character of a set. -/
def repeatOne (greed : Greed) (set : CharSet) (least : Nat) (most : Option Nat) : Matcher :=
  fun s k =>
    let n := reach text set most s.pos
    if n < least then none
    else match greed with
      | .greedy => fromMany least s k (n - least)
      | .lazy => fromFew least s k (n - least)
      | .possessive => k { s with pos := s.pos + n }

end Matcher

/-! ## Programs -/

mutual

/-- The matcher of a program on a text. -/
def Program.matcher (text : Array Char) : Program → Matcher
  | .one set => Matcher.one text set
  | .at spot => Matcher.at_ text spot
  | .all parts => matcherAll text parts
  | .branch alternatives => matcherAny text alternatives
  | .capture group body => Matcher.capture group (body.matcher text)
  | .atomic body => Matcher.atomic (body.matcher text)
  | .repetition greed least most (.all [.one set]) => Matcher.repeatOne text greed set least most
  | .repetition .greedy least most body => Matcher.greedy text (body.matcher text) least most none
  | .repetition .lazy least most body => Matcher.lazy text (body.matcher text) least most
  | .repetition .possessive least most body =>
    Matcher.possessive text (body.matcher text) least most
  | .reference group folding => Matcher.reference text group folding
  | .conditional group yes no => Matcher.conditional group (yes.matcher text) (no.matcher text)
  | .look behind negative body => Matcher.look behind negative (body.matcher text)

/-- One part after the other. -/
def matcherAll (text : Array Char) : List Program → Matcher
  | [] => fun s k => k s
  | p :: rest =>
    let first := p.matcher text
    let later := matcherAll text rest
    fun s k => first s fun t => later t k

/-- One of several parts, the first that leads on. -/
def matcherAny (text : Array Char) : List Program → Matcher
  | [] => fun _ _ => none
  | p :: rest =>
    let first := p.matcher text
    let others := matcherAny text rest
    fun s k => (first s k).or (others s k)

end

/-- Whether a matcher succeeds from one of the positions `pos`, …, `pos + left`. -/
def searchFrom (m : Matcher) (pos : Nat) : Nat → Bool
  | 0 => (m ⟨pos, [], []⟩ some).isSome
  | left + 1 => (m ⟨pos, [], []⟩ some).isSome || searchFrom m (pos + 1) left

/-- Whether a program matches anywhere in a text. -/
def Program.search (p : Program) (s : String) : Bool :=
  let text := s.toList.toArray
  searchFrom (p.matcher text) 0 text.size

end Muffle.Pattern
