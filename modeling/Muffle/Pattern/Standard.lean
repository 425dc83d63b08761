/-
  Muffle.Pattern.Standard

  The compiler that the program runs with. It has limits on numbers; it has none on the depth of
  groups.
-/

import Muffle.Pattern.Compiler
import Muffle.Pattern.Reader

namespace Muffle.Pattern

/-- Makes the text of a pattern ready for matching. -/
def prepare (text : String) : Except Refusal Program := do
  let r ← read text.toList
  let parts ← compileParts (groupWidth r.widths) r.flags r.nodes
  return .all parts

/-- What becomes of a text that is refused. -/
def Refusal.rejection (text : String) : Refusal → Rejection
  | .malformed complaint position => .refused (complaint.reason text.toList position)
  | .repetitionTooLarge => .failed ⟨.overflow, "the repetition number is too large"⟩
  | .tooManyDigits count => .failed ⟨.value, (Fault.tooManyDigits count).message⟩
  | .conflictingFlags => .failed ⟨.value, "ASCII and UNICODE flags are incompatible"⟩

/-- The standard compiler. -/
instance standard : Compiler where
  compile text := (prepare text).mapError (Refusal.rejection text)

end Muffle.Pattern
