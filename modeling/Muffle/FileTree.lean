/-
  Muffle.FileTree

  A tree of files and directories, and the directory that relative paths start from. A path is
  followed component by component, so it leads nowhere if a component on its way is missing or is
  a file, even if `..` comes after it. The system that holds the tree may deny any access to any
  path, because of permissions, because a name is too long, or for another cause.
-/

import Muffle.Fault
import Muffle.Path
import Muffle.Text.Utf8

namespace Muffle

/-- What stands at a place of the tree. -/
inductive FileTree.Node where
  | directory
  | file (bytes : List UInt8)

/-- What a path is followed for. -/
inductive FileTree.Access where
  | look
  | read
  | write
deriving DecidableEq, Repr

/-- Files and directories by the names that lead to them from the root. -/
structure FileTree where
  nodes : List (List String × FileTree.Node)
  workDir : Path
  /-- The complaint with which the system denies an access, if it does. -/
  denies : FileTree.Access → Path → Option String := fun _ _ => none

namespace FileTree

/-! ## Looking up -/

/-- What stands at a place; the root is a directory. -/
def node? (t : FileTree) (place : List String) : Option Node :=
  if place = [] then some .directory
  else (t.nodes.find? fun n => n.1 == place).map (·.2)

/-- One step from a place, which has to be a directory. -/
def step (t : FileTree) (place : List String) (part : String) : Except Fault (List String) :=
  match t.node? place with
  | some .directory => .ok (if part = ".." then place.dropLast else place ++ [part])
  | some (.file _) => .error .notDirectory
  | none => .error .notFound

/-- The place that a path leads to, whether anything stands there or not. -/
def placeOf (t : FileTree) (p : Path) : Except Fault (List String) :=
  if p.parts.any fun part => part.toList.contains '\x00' then .error .embeddedNull
  else (t.workDir.join p).parts.foldlM t.step []

/-- What a path leads to. -/
def get? (t : FileTree) (p : Path) : Option Node :=
  match t.placeOf p with
  | .ok place => t.node? place
  | .error _ => none

/-- Whether a path leads to something. -/
def leads (t : FileTree) (p : Path) : Bool := (t.get? p).isSome

/-- Whether a path leads to a directory. -/
def leadsToDirectory (t : FileTree) (p : Path) : Bool :=
  match t.get? p with
  | some .directory => true
  | _ => false

/-- Fails if the system denies an access. -/
def permit (t : FileTree) (a : Access) (p : Path) : Except Fault Unit :=
  match t.denies a p with
  | some complaint => .error (.denied complaint)
  | none => .ok ()

/-- Whether a path leads to something, as the system tells. That it leads nowhere is no fault, but
    that the system denies to look is one. -/
def hasPath (t : FileTree) (p : Path) : Except Fault Bool := do
  t.permit .look p
  return t.leads p

/-- Whether a path leads to a directory, as the system tells. -/
def isDirectory (t : FileTree) (p : Path) : Except Fault Bool := do
  t.permit .look p
  return t.leadsToDirectory p

/-- A path, normalized from the working directory. -/
def absolute (t : FileTree) (p : Path) : Path := t.workDir.resolve p

/-! ## Reading -/

/-- The bytes of the file that a path leads to. -/
def readBytes (t : FileTree) (p : Path) : Except Fault (List UInt8) := do
  t.permit .read p
  match t.node? (← t.placeOf p) with
  | some (.file bytes) => return bytes
  | some .directory => .error .isDirectory
  | none => .error .notFound

/-- The text of the file that a path leads to, its lines ended by line feeds. -/
def readText (t : FileTree) (p : Path) : Except Fault (List Char) := do
  match Text.readUtf8 (← t.readBytes p) with
  | .ok cs => return Text.plainLines cs
  | .error r => .error (.undecodable r)

/-! ## Writing -/

/-- The tree with something put at a place. -/
def insert (t : FileTree) (place : List String) (n : Node) : FileTree :=
  { t with nodes := t.nodes.filter (fun m => m.1 != place) ++ [(place, n)] }

/-- The tree with a directory made at a path, where nothing may stand yet. -/
def makeDirectory (t : FileTree) (p : Path) : Except Fault FileTree := do
  t.permit .write p
  let place ← t.placeOf p
  match t.node? place with
  | some _ => .error .alreadyExists
  | none => return t.insert place .directory

/-- The same, but a directory that stands there already is no fault. -/
def ensureDirectory (t : FileTree) (p : Path) : Except Fault FileTree :=
  match t.makeDirectory p with
  | .ok t => .ok t
  | .error f => do if ← t.isDirectory p then return t else .error f

/-- The tree with the directories of some components of a path made, the outer ones first. -/
def makeDirectories (t : FileTree) (root : Path.Root) : List String → Except Fault FileTree
  | [] => t.ensureDirectory ⟨root, []⟩
  | part :: above => do
    let p : Path := ⟨root, (part :: above).reverse⟩
    match t.makeDirectory p with
    | .error .notFound => do
      let t ← t.makeDirectories root above
      t.ensureDirectory p
    | _ => t.ensureDirectory p

/-- The tree with a path of directories made as far as they are missing. -/
def ensurePath (t : FileTree) (p : Path) : Except Fault FileTree :=
  t.makeDirectories p.root p.parts.reverse

/-- The tree with a file written at a path. -/
def write (t : FileTree) (p : Path) (bytes : List UInt8) : Except Fault FileTree := do
  t.permit .write p
  let place ← t.placeOf p
  match t.node? place with
  | some .directory => .error .isDirectory
  | _ => return t.insert place (.file bytes)

/-! ## Limits -/

/-- Whether a name of more than 255 bytes is looked up on the way along some components. -/
def meetsLongName (t : FileTree) (place : List String) : List String → Bool
  | [] => false
  | part :: rest =>
    match t.step place part with
    | .ok next => 255 < part.utf8ByteSize || t.meetsLongName next rest
    | .error _ => false

/-- The tree in a system whose names have at most 255 bytes and whose paths have at most 4095. -/
def withLimits (t : FileTree) : FileTree :=
  { t with
    denies := fun _ p =>
      if 4095 < p.text.utf8ByteSize || t.meetsLongName [] (t.workDir.join p).parts then
        some "File name too long"
      else none }

end FileTree

end Muffle
