/-
  Muffle.Pattern.Compiler

  Compilers of patterns. The program relies on a compiler for what a pattern means, and has to cope
  with every way in which it can fail; so everything that compiles patterns is written for any
  compiler, and the program runs with the standard one.
-/

import Muffle.Fault
import Muffle.Pattern.Program

namespace Muffle.Pattern

/-- Why a text was not compiled. -/
inductive Rejection where
  /-- The text is no pattern. -/
  | refused (reason : String)
  /-- The compiler gave up: at a number it cannot hold, at its own limits, or for any other cause
      but that the text is no pattern. -/
  | failed (fault : Foreign)
deriving DecidableEq, Repr

/-- A compiler of patterns. -/
class Compiler where
  compile : String → Except Rejection Program

end Muffle.Pattern
