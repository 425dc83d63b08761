/-
  Muffle.Pattern.Width

  How many characters a pattern can match: at least and at most. Both are cut at a limit above
  any length of text. A reference is as wide as its group.
-/

import Muffle.Pattern.Node

namespace Muffle.Pattern

/-- The least and the greatest number of characters. -/
structure Width where
  least : Nat
  most : Nat
deriving DecidableEq, Repr, Inhabited

namespace Width

/-- Widths are cut here. -/
def limit : Nat := Nat.pow 2 64

/-- The width of nothing. -/
def zero : Width := ⟨0, 0⟩

/-- The width of one after the other. -/
def add (a b : Width) : Width := ⟨a.least + b.least, a.most + b.most⟩

/-- The width of one or the other. -/
def join (a b : Width) : Width := ⟨min a.least b.least, max a.most b.most⟩

/-- A width cut at the limit. -/
def cut (w : Width) : Width := ⟨min w.least limit, min w.most limit⟩

/-- The width of repetitions. -/
def times (w : Width) (least : Nat) : Option Nat → Width
  | some most => ⟨w.least * least, w.most * most⟩
  | none => ⟨w.least * least, if w.most = 0 then 0 else limit⟩

end Width

mutual

/-- The width of a part, given the widths of groups. -/
def Node.width (groups : Nat → Width) : Node → Width
  | .any => ⟨1, 1⟩
  | .literal _ => ⟨1, 1⟩
  | .notLiteral _ => ⟨1, 1⟩
  | .set .. => ⟨1, 1⟩
  | .at _ => .zero
  | .branch alternatives => branchWidth groups alternatives
  | .group _ _ _ body => (sequenceWidth groups body).cut
  | .atomic body => (sequenceWidth groups body).cut
  | .repetition _ least most body => (sequenceWidth groups body).cut.times least most
  | .reference g => groups g
  | .conditional _ yes no => ((sequenceWidth groups yes).cut).join ((sequenceWidth groups no).cut)
  | .look .. => .zero

/-- The width of parts one after the other. -/
def sequenceWidth (groups : Nat → Width) : List Node → Width
  | [] => .zero
  | n :: rest => (n.width groups).add (sequenceWidth groups rest)

/-- The width of alternatives. -/
def branchWidth (groups : Nat → Width) : List (List Node) → Width
  | [] => ⟨Width.limit, 0⟩
  | a :: rest => ((sequenceWidth groups a).cut).join (branchWidth groups rest)

end

end Muffle.Pattern
