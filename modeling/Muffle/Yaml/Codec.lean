/-
  Muffle.Yaml.Codec

  Reading and writing YAML. The program leaves both to a library; so everything that goes through a
  configuration file is written for any such library, and the program runs with the standard one.
-/

import Muffle.Fault

namespace Muffle.Yaml

/-- Why a text has no value: it is malformed, or reading a part of it is a fault of its own. -/
inductive Refusal where
  | malformed
  | fault (f : Fault)

/-- A library for YAML. -/
class Codec where
  /-- The value of a text. What cannot be gone through to its end, as a value that is a part of
      itself, is a leaf of `Value.endlessKind` in it; and no key of a mapping in it is made of
      other values. -/
  load : List Char → Except Refusal Value
  /-- The text of a mapping in block style, its entries in order, its lines ended by line feeds. -/
  dump : List (String × Value) → List Char

end Muffle.Yaml
