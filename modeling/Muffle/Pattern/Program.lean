/-
  Muffle.Pattern.Program

  Patterns ready for matching: flags are worked into sets and places, and a lookbehind knows how
  far back it starts. A lookbehind of several widths is refused here.
-/

import Muffle.Pattern.CharSet
import Muffle.Pattern.Refusal
import Muffle.Pattern.Width

namespace Muffle.Pattern

/-- A place with the flags that bear on it. -/
structure Spot where
  place : Place
  lines : Bool
  ascii : Bool
deriving DecidableEq, Repr

/-- A part of a pattern, ready for matching. -/
inductive Program where
  | one (set : CharSet)
  | at (spot : Spot)
  | all (parts : List Program)
  | branch (alternatives : List Program)
  | capture (group : Nat) (body : Program)
  | atomic (body : Program)
  | repetition (greed : Greed) (least : Nat) (most : Option Nat) (body : Program)
  | reference (group : Nat) (folding : Folding)
  | conditional (group : Nat) (yes no : Program)
  | look (behind : Option Nat) (negative : Bool) (body : Program)
deriving Inhabited

/-- The widest lookbehind. -/
def behindLimit : Nat := 4294967295

/-- The name of a repetition in complaints. -/
def Greed.operator : Greed → String
  | .greedy => "MAX_REPEAT"
  | .lazy => "MIN_REPEAT"
  | .possessive => "POSSESSIVE_REPEAT"

/-- Refuses a pattern that is complete. -/
def refuseWhole {α : Type} (c : Complaint) : Except Refusal α :=
  .error (.malformed c none)

mutual

/-- Makes a part ready under flags, given the widths of groups. -/
def compileNode (groups : Nat → Width) (flags : Flags) : Node → Except Refusal Program
  | .any => .ok (.one (.any flags))
  | .literal c => .ok (.one (.ofCode flags false c))
  | .notLiteral c => .ok (.one (.ofCode flags true c))
  | .set complement items => .ok (.one (.ofItems flags complement items))
  | .at place => .ok (.at { place := place, lines := flags.multiLine, ascii := !flags.unicode })
  | .branch alternatives => .branch <$> compileAlternatives groups flags alternatives
  | .group none add remove body => .all <$> compileParts groups (flags.within add remove) body
  | .group (some g) add remove body =>
    (.capture g <| .all ·) <$> compileParts groups (flags.within add remove) body
  | .atomic body => (.atomic <| .all ·) <$> compileParts groups flags body
  | .repetition greed least most body =>
    if flags.template then refuseWhole (.templateRepetition greed.operator)
    else (.repetition greed least most <| .all ·) <$> compileParts groups flags body
  | .reference g => .ok (.reference g flags.folding)
  | .conditional g yes no => do
    let yes ← compileParts groups flags yes
    let no ← compileParts groups flags no
    return .conditional g (.all yes) (.all no)
  | .look false negative body =>
    (.look none negative <| .all ·) <$> compileParts groups flags body
  | .look true negative body => do
    let w := (sequenceWidth groups body).cut
    if behindLimit < w.least then refuseWhole .tooFarBehind
    if w.least ≠ w.most then refuseWhole .variableWidthBehind
    let body ← compileParts groups flags body
    return .look (some w.least) negative (.all body)

/-- Makes parts ready. -/
def compileParts (groups : Nat → Width) (flags : Flags) : List Node → Except Refusal (List Program)
  | [] => .ok []
  | n :: rest => do
    let p ← compileNode groups flags n
    return p :: (← compileParts groups flags rest)

/-- Makes alternatives ready. -/
def compileAlternatives (groups : Nat → Width) (flags : Flags) :
    List (List Node) → Except Refusal (List Program)
  | [] => .ok []
  | a :: rest => do
    let p ← compileParts groups flags a
    return .all p :: (← compileAlternatives groups flags rest)

end

end Muffle.Pattern
