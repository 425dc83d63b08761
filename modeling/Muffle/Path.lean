/-
  Muffle.Path

  Paths of files and directories. A path keeps its components apart, without empty ones and
  without the component `.`; the components `..` stay until the path is normalized. Exactly two
  slashes at the start are a root of their own, all other runs of slashes count as one.
-/

import Muffle.Text.RangeTable

namespace Muffle

/-- What a path starts from. -/
inductive Path.Root where
  /-- The directory that the path is joined to. -/
  | relative
  /-- The root of the file system. -/
  | single
  /-- The root that is written with two slashes. -/
  | double
deriving DecidableEq, Inhabited, Repr

/-- A path: its root and its components. -/
structure Path where
  root : Path.Root
  parts : List String
deriving DecidableEq, Inhabited, Repr

namespace Path

/-! ## Text -/

/-- The text of a root. -/
def Root.text : Root → String
  | .relative => ""
  | .single => "/"
  | .double => "//"

/-- The root that the start of a text names. -/
def rootOf (cs : List Char) : Root :=
  match (cs.takeWhile (· == '/')).length with
  | 0 => .relative
  | 2 => .double
  | _ => .single

/-- The components that a text names. -/
def partsOf (cs : List Char) : List String :=
  ((Text.splitAtChar '/' cs).filter fun p => p != [] && p != ['.']).map String.ofList

/-- The path that a text names. -/
def ofText (s : String) : Path :=
  ⟨rootOf s.toList, partsOf s.toList⟩

/-- The text of a path; the path to where it starts from is a single dot. -/
def text (p : Path) : String :=
  if p.root = .relative ∧ p.parts = [] then "."
  else p.root.text ++ "/".intercalate p.parts

/-! ## Joining and normalizing -/

/-- Whether a path does not depend on a directory. -/
def isAbsolute (p : Path) : Bool := p.root != .relative

/-- The path `p` seen from `base`. -/
def join (base p : Path) : Path :=
  if p.isAbsolute then p else ⟨base.root, base.parts ++ p.parts⟩

/-- Adds a component to a normalized path, whose components are given in reverse. The component
    `..` takes one away, stays if there is none to take from a relative path, and is dropped at a
    root. -/
def collapse (absolute : Bool) (reversed : List String) (part : String) : List String :=
  if part = ".." then
    match reversed with
    | [] => if absolute then [] else [".."]
    | last :: rest => if last = ".." then ".." :: reversed else rest
  else part :: reversed

/-- A path without components `..`, except for those at the start of a relative one. -/
def normalize (p : Path) : Path :=
  ⟨p.root, (p.parts.foldl (collapse p.isAbsolute) []).reverse⟩

/-- The normalized path `p` seen from `base`. -/
def resolve (base p : Path) : Path := (base.join p).normalize

/-! ## Containment -/

/-- Whether `p` is `dir` or lies below it, component by component. -/
def isWithin (p dir : Path) : Bool :=
  p.root == dir.root && dir.parts.isPrefixOf p.parts

/-- The path from `dir` to `p`, which lies within it. -/
def below (p dir : Path) : Path :=
  ⟨.relative, p.parts.drop dir.parts.length⟩

/-- The path without its last component. -/
def parent (p : Path) : Path := { p with parts := p.parts.dropLast }

end Path

end Muffle
