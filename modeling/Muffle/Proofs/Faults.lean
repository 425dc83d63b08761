/-
  Muffle.Proofs.Faults

  Which faults a computation can fail with. The rules below follow a sequence of steps, and with
  them each operation on values, ranges, filters and registries is shown to fail only because
  what was handed over is malformed. The one exception is a pattern: it may also be refused, or the
  compiler may give up on it.
-/

import Muffle.Proofs.Innermost

namespace Muffle

variable {α β : Type} {P Q : Fault → Prop}

/-- Every fault that a computation fails with has a property. -/
def FailsAs (P : Fault → Prop) (x : Except Fault α) : Prop := ∀ f, x = .error f → P f

/-- Every fault of a computation means that something was malformed. -/
abbrev FailsMalformed (x : Except Fault α) : Prop := FailsAs (fun f => f.isMalformed = true) x

/-- Every fault of a computation means that something was malformed, or has a property. -/
abbrev FailsMalformedOr (P : Fault → Prop) (x : Except Fault α) : Prop :=
  FailsAs (fun f => f.isMalformed = true ∨ P f) x

/-! ## Rules -/

/-- A success fails with nothing. -/
theorem failsAs_ok (a : α) : FailsAs P (.ok a : Except Fault α) := by
  intro f h
  cases h

theorem failsAs_error {f : Fault} (h : P f) : FailsAs P (.error f : Except Fault α) := by
  intro f' h'
  cases h'
  exact h

theorem FailsMalformed.or {x : Except Fault α} (h : FailsMalformed x) : FailsMalformedOr P x :=
  fun f hf => .inl (h f hf)

/-- What else a computation may fail with can be described more broadly. -/
theorem FailsMalformedOr.imp {x : Except Fault α} (h : FailsMalformedOr P x)
    (himp : ∀ f, P f → Q f) : FailsMalformedOr Q x :=
  fun f hf => (h f hf).imp_right (himp f)

/-- A sequence fails as its steps do, each after those before it have succeeded. -/
theorem FailsAs.bind {x : Except Fault α} {k : α → Except Fault β} (hx : FailsAs P x)
    (hk : ∀ a, x = .ok a → FailsAs P (k a)) : FailsAs P (x >>= k) := by
  cases x with
  | error f => exact failsAs_error (hx f rfl)
  | ok a => exact hk a rfl

/-- A list that is read element by element fails as its elements do. -/
theorem FailsAs.mapM {g : α → Except Fault β} {xs : List α} (h : ∀ x ∈ xs, FailsAs P (g x)) :
    FailsAs P (xs.mapM g) := by
  induction xs with
  | nil => exact failsAs_ok _
  | cons x xs ih =>
    rw [List.mapM_cons]
    refine (h x List.mem_cons_self).bind fun y _ => ?_
    exact (ih fun x' hx' => h x' (List.mem_cons_of_mem _ hx')).bind fun _ _ => failsAs_ok _

/-! ## Values -/

namespace Value

mutual

/-- Values without an order are of wrong kinds; the proof goes through both values at once. -/
theorem failsMalformed_holds (r : Relation) : ∀ a b : Value, FailsMalformed (a.holds r b)
  | .null, b => by cases b <;> exact failsAs_error rfl
  | .str s, b => by
    cases b with
    | str t => exact failsAs_ok _
    | _ => exact failsAs_error rfl
  | .tuple xs, b => by
    cases b with
    | tuple ys => exact failsMalformed_holdsItems r xs ys
    | _ => exact failsAs_error rfl
  | .list xs, b => by
    cases b with
    | list ys => exact failsMalformed_holdsItems r xs ys
    | _ => exact failsAs_error rfl
  | .map es, b => by cases b <;> exact failsAs_error rfl
  | .leaf .., b => by cases b <;> exact failsAs_error rfl
  -- numbers are ordered among themselves
  | .bool _, b => by cases b <;> first | exact failsAs_ok _ | exact failsAs_error rfl
  | .int _, b => by cases b <;> first | exact failsAs_ok _ | exact failsAs_error rfl
  | .float _, b => by cases b <;> first | exact failsAs_ok _ | exact failsAs_error rfl

theorem failsMalformed_holdsItems (r : Relation) :
    ∀ xs ys : List Value, FailsMalformed (holdsItems r xs ys)
  | [], [] => failsAs_ok _
  | [], _ :: _ => failsAs_ok _
  | _ :: _, [] => failsAs_ok _
  | x :: xs, y :: ys => by
    rw [holdsItems]
    split
    · exact failsMalformed_holdsItems r xs ys
    · exact failsMalformed_holds r x y

end

theorem failsMalformed_minimum (a b : Value) : FailsMalformed (minimum a b) :=
  (failsMalformed_holds _ _ _).bind fun _ _ => failsAs_ok _

theorem failsMalformed_maximum (a b : Value) : FailsMalformed (maximum a b) :=
  (failsMalformed_holds _ _ _).bind fun _ _ => failsAs_ok _

theorem failsMalformed_requireHashable (v : Value) : FailsMalformed v.requireHashable := by
  unfold requireHashable
  split
  · exact failsAs_error rfl
  · exact failsAs_ok _

/-- A value that is no pair has no parts, too few or too many. -/
theorem failsMalformed_pair (v : Value) : FailsMalformed v.pair := by
  unfold pair
  split
  · exact failsAs_error rfl
  · exact failsAs_ok _
  · exact failsAs_error rfl
  · exact failsAs_error rfl

end Value

namespace SourceRange

open Value

/-- A range is refused because its ends are not ordered, or not in this order. -/
theorem failsMalformed_make (start stop : Value) : FailsMalformed (make start stop) := by
  refine (failsMalformed_holds _ _ _).bind fun inverted _ => ?_
  cases inverted with
  | true => exact failsAs_error rfl
  | false => exact failsAs_ok _

/-- A span that is no range has to be a pair. -/
theorem failsMalformed_ends (span : Span) : FailsMalformed span.ends := by
  cases span with
  | range r => exact failsAs_ok _
  | parts v => exact failsMalformed_pair v
  | unlisted kind => exact failsAs_error rfl

/-- To keep the better of two ends fails as the choice between them. -/
theorem failsMalformed_improve {choose : Value → Value → Except Fault Value}
    (h : ∀ a b, FailsMalformed (choose a b)) (found new : Value) :
    FailsMalformed (improve choose found new) := by
  unfold improve
  split
  · exact failsAs_ok _
  · exact h _ _

/-- The ends of a union are found span by span. -/
theorem failsMalformed_unionEnds (start stop : Value) (spans : List Span) :
    FailsMalformed (unionEnds start stop spans) := by
  induction spans generalizing start stop with
  | nil => exact failsAs_ok _
  | cons span rest ih =>
    refine (failsMalformed_ends span).bind fun ends _ => ?_
    obtain ⟨s, e⟩ := ends
    refine (failsMalformed_improve failsMalformed_minimum start s).bind fun start _ => ?_
    refine (failsMalformed_improve failsMalformed_maximum stop e).bind fun stop _ => ?_
    exact ih start stop

/-- A union fails for want of spans, because of a span, or at the order of its ends. -/
theorem failsMalformed_union (spans : List Span) : FailsMalformed (union spans) := by
  refine (failsMalformed_unionEnds _ _ spans).bind fun ends _ => ?_
  obtain ⟨start, stop⟩ := ends
  dsimp only
  split
  · exact failsAs_error rfl
  · exact (failsMalformed_maximum _ _).bind fun _ _ => failsMalformed_make _ _

end SourceRange

/-! ## Filters -/

section Patterns

variable [Pattern.Compiler]

/-- A text that is no pattern. The empty text counts as no text. -/
def NoPattern (pattern : Value) : Prop :=
  pattern.truthy = true ∧ ∃ text reason,
    pattern = .str text ∧ Pattern.Compiler.compile text = .error (.refused reason)

/-- A text that the compiler gives up on, and the fault it reports. The empty text counts as no
    text. -/
def GivenUp (pattern : Value) (fault : Foreign) : Prop :=
  pattern.truthy = true ∧ ∃ text,
    pattern = .str text ∧ Pattern.Compiler.compile text = .error (.failed fault)

/-- For a text, to be given up is a matter of the compiler, unless the text is empty. -/
theorem givenUp_str {text : String} {fault : Foreign} :
    GivenUp (.str text) fault ↔
      text.isEmpty = false ∧ Pattern.Compiler.compile text = .error (.failed fault) := by
  simp [GivenUp, Value.truthy]

/-- The faults of a value that is to be a pattern, if it is not malformed: it is refused, or the
    compiler gives up on it. -/
inductive BadPattern (pattern : Value) : Fault → Prop
  | refused (p : InvalidPattern) {text reason : String} (htext : pattern = .str text)
      (h : Pattern.Compiler.compile text = .error (.refused reason)) :
      BadPattern pattern (.invalidPattern p)
  | givenUp {text : String} {fault : Foreign} (htext : pattern = .str text)
      (h : Pattern.Compiler.compile text = .error (.failed fault)) :
      BadPattern pattern (.foreign fault)

/-- A value that is no text is malformed; a text is refused, or given up. -/
theorem PatternFilter.failsAs_compile (pattern source : Value) :
    FailsMalformedOr (BadPattern pattern) (PatternFilter.compile pattern source) := by
  unfold PatternFilter.compile
  split
  · rename_i text
    unfold PatternFilter.compileText
    split
    · exact failsAs_ok _
    · rename_i rejection hrejection
      cases rejection with
      | refused reason => exact failsAs_error (.inr (.refused _ rfl hrejection))
      | failed fault => exact failsAs_error (.inr (.givenUp rfl hrejection))
  · refine (Value.failsMalformed_requireHashable pattern).or.bind fun _ _ => ?_
    exact failsAs_error (.inl rfl)

end Patterns

section Patterns

variable [Pattern.Compiler]

/-- The place that is attached to a refused pattern changes nothing about its family. -/
theorem Directive.failsAs_compilePattern (anchor pattern : Value) :
    FailsMalformedOr (BadPattern pattern) (Directive.compilePattern anchor pattern) := by
  unfold Directive.compilePattern
  split
  · exact failsAs_ok _
  · have hcompile := PatternFilter.failsAs_compile pattern patternSource
    split
    · exact failsAs_ok _
    · rename_i e he
      rcases hcompile _ he with h | h
      · cases h
      · cases h with
        | refused _ htext h => exact failsAs_error (.inr (.refused _ htext h))
    · rename_i f _ hf
      exact failsAs_error (hcompile f hf)

/-- Of all that makes up a directive only the pattern can be bad. -/
theorem Directive.failsAs_make (id : Nat) (anchor : Value) (range : SourceRange)
    (pattern inMacroExpansion : Value) :
    FailsMalformedOr (BadPattern pattern)
      (Directive.make id anchor range pattern inMacroExpansion) :=
  (Directive.failsAs_compilePattern anchor pattern).bind fun _ _ => failsAs_ok _

end Patterns

namespace Registry

end Registry

end Muffle
