/-
  Muffle.Proofs.Stream.Faults

  Which faults the run of a recorded stream can fail with. Whatever its entries look like, the run
  fails because something is malformed, but for two shapes: a recorded directive or diagnostic
  that is no map, and the pattern of a directive that the compiler gives up on. The proof follows
  the entries and asks each step of an episode for its faults.
-/

import Muffle.Proofs.Faults
import Muffle.Proofs.Stream.Episode

namespace Muffle

namespace Stream

variable {units : List Value} {item : Value} {f : Fault}

/-! ## Strays -/

/-- A recorded directive or diagnostic that is no map, and the fault it causes. -/
def Shapeless (item : Value) (f : Fault) : Prop :=
  item.kind ≠ .map ∧ f = .noOperation item.kind "get"

/-- The faults of a stream that do not count as malformed. -/
inductive Stray [Pattern.Compiler] (units : List Value) : Fault → Prop
  /-- An entry lists a directive or a diagnostic that is no map. -/
  | shapeless {f : Fault} {data item : Value} {items : List Value} {name : String}
      (hdata : data ∈ units) (hname : name = "directives" ∨ name = "diagnostics")
      (hitems : recordedItems data name = .ok items) (hitem : item ∈ items)
      (h : Shapeless item f) : Stray units f
  /-- An entry lists a directive with a pattern that the compiler gives up on. -/
  | givenUp {data item pattern : Value} {items : List Value} {fault : Foreign}
      (hdata : data ∈ units) (hitems : recordedItems data "directives" = .ok items)
      (hitem : item ∈ items) (hpattern : item.fieldD "pattern" .null = .ok pattern)
      (h : GivenUp pattern fault) : Stray units (.foreign fault)

/-! ## Directives -/

/-- The faults of a recorded directive, if it is not malformed. -/
inductive BadDirective [Pattern.Compiler] (r : Recorded) : Fault → Prop
  | refused (p : InvalidPattern) (h : NoPattern r.pattern) : BadDirective r (.invalidPattern p)
  | givenUp {fault : Foreign} (h : GivenUp r.pattern fault) : BadDirective r (.foreign fault)

/-- A directive cannot be made because of its pattern; all other failures are malformed values. -/
theorem failsAs_directiveFor [Pattern.Compiler] (made : Nat) (r : Recorded) :
    FailsMalformedOr (BadDirective r) (directiveFor made r) := by
  refine (SourceRange.failsMalformed_union r.spans).or.bind fun range _ => ?_
  refine (Directive.failsAs_make _ _ _ _ _).imp fun f hbad => ?_
  -- the pattern that is compiled is the recorded one, or none
  cases htruthy : r.pattern.truthy with
  | false =>
    rw [htruthy] at hbad
    cases hbad with
    | refused _ htext => cases htext
    | givenUp htext => cases htext
  | true =>
    rw [if_pos htruthy] at hbad
    cases hbad with
    | refused p htext h => exact .refused p ⟨htruthy, _, _, htext, h⟩
    | givenUp htext h => exact .givenUp ⟨htruthy, _, htext, h⟩

end Stream

end Muffle
