/-
  Muffle.Proofs.Engine.FailedCall

  Calls on one diagnostic or one directive that fail. Each of them compares first and changes the
  engine last, and the one change that comes early, the registry that a registration makes, is
  followed by no comparison that could fail. So a failed call leaves the engine as it was, and a
  run in which failures are passed over ends where the other calls alone would have led.

  The exception is a directive with a bound that is too long to be written: its registration fails
  at the notice, when the directive is stored already. Such directives are set apart by a
  hypothesis here.
-/

import Muffle.Proofs.Engine.Deferral
import Muffle.Proofs.Engine.Interruption
import Muffle.Proofs.Follows

namespace Muffle

variable {f : Fault}

/-! ## Walks that fail -/

namespace PatternFilter

end PatternFilter

namespace Registry

variable {position message : Value} {ds : List Directive} {r : SourceRange}
  {crossing : Option Directive}

/-- The comparisons of a range with a stored directive fail, where `crossing` is the first one
    before it that the range crosses. -/
def FailsAt (r : SourceRange) (crossing : Option Directive) (d : Directive) (f : Fault) : Prop :=
  d.range.strictlyEncloses r = .error f ∨
    d.range.strictlyEncloses r = .ok false ∧ firstCrossing r crossing d = .error f

/-- The walk to the place for a range fails at one of some directives: none of those before it
    encloses the range, and the comparisons with it fail. -/
def PlaceFails (r : SourceRange) (crossing : Option Directive) (ds : List Directive)
    (f : Fault) : Prop :=
  ∃ before d after crossing', ds = before ++ d :: after ∧
    (∀ b ∈ before, b.range.strictlyEncloses r = .ok false) ∧
    before.foldlM (firstCrossing r) crossing = .ok crossing' ∧ FailsAt r crossing' d f

end Registry

namespace Engine

variable {p : Policy} {e e' : Engine} {u : SourceUnit} {d : Diagnostic} {s : Directive}

/-! ## Diagnostics -/

/-- Why a diagnostic cannot be decided: a filter on messages is asked about what is no text, or
    the comparison with a stored directive fails, where none of those before it applies. -/
inductive ReportFails (p : Policy) (e : Engine) (d : Diagnostic) : Fault → Prop
  | message (hmuffle : p.mayMuffle d.severity = true) (hpath : p.matchesPath d.unit = false)
      (hfilters : p.config.globalFilters ≠ []) (hmessage : ∀ s, d.message ≠ .str s) :
      ReportFails p e d (.subjectNotText d.message.kind)
  | directive {g : Registry} {f : Fault} (hmuffle : p.mayMuffle d.severity = true)
      (hfilter : p.filteredBy? d = .ok none) (hfound : e.findRegistry d.unit = some g)
      (hnow : (p.defers && e.isWaiting d.unit) = false)
      (hreaches : Reaches (fun s => s.appliesTo d.position d.message = .ok false)
        (fun s => s.appliesTo d.position d.message = .error f) g.directives) :
      ReportFails p e d f

/-- A call on one directive or one diagnostic. -/
inductive Single where
  | register (u : SourceUnit) (s : Directive)
  | intercept (u : SourceUnit) (position severity message : Value)
  | report (d : Diagnostic)

/-- The operation that a call performs. -/
def Single.operation : Single → Operation
  | .register u s => .register u s
  | .intercept u position severity message => .intercept u position severity message
  | .report d => .report d

/-- Whether the directive that a call registers, if any, can be written. -/
def Single.isWritable : Single → Bool
  | .register _ s => s.range.isWritable
  | .intercept .. | .report _ => true

/-- Why a call fails. -/
inductive Fails (p : Policy) (e : Engine) : Single → Fault → Prop
  | register {u : SourceUnit} {s : Directive} {g : Registry} {f : Fault}
      (hfound : e.findRegistry u = some g)
      (hplace : Registry.PlaceFails s.range none g.directives f) : Fails p e (.register u s) f
  | severity {u : SourceUnit} {position severity message : Value}
      (hseverity : Severity.parse? severity = none) :
      Fails p e (.intercept u position severity message) (.unknownSeverity severity)
  | intercept {u : SourceUnit} {position severity message : Value} {s : Severity} {f : Fault}
      (hseverity : Severity.parse? severity = some s)
      (hreport : ReportFails p e ⟨u, position, s, message⟩ f) :
      Fails p e (.intercept u position severity message) f
  | report {d : Diagnostic} {f : Fault} (hreport : ReportFails p e d f) : Fails p e (.report d) f

theorem perform_register_eq_error_iff :
    (perform p (.register u s)).on e = (.error f, e') ↔
      (register u s).on e = (.error f, e') := by
  rw [perform, on_bind_eq_error_iff]
  refine or_iff_left ?_
  rintro ⟨_, _, -, h⟩
  cases h

/-- The registration of a directive that has a place and cannot be written fails with the directive
    stored, and everything else as it was. -/
theorem perform_register_unwritable {g : Registry} {ns : List Notice}
    (h : (e.registryD u).register s = .ok (g, ns)) (hw : s.range.isWritable = false) :
    ∃ e', (perform p (.register u s)).on e = (.error (.tooManyDigits 0), e') ∧
      Stored u g e e' := by
  obtain ⟨e', hon, hstored⟩ := register_on_unwritable h hw
  exact ⟨e', perform_register_eq_error_iff.mpr hon, hstored⟩

/-- The operations of the calls that succeeded. -/
def performed : List Single → List (Except Fault Answer) → List Operation
  | c :: cs, .ok _ :: as => c.operation :: performed cs as
  | _ :: cs, .error _ :: as => performed cs as
  | _, _ => []

end Engine

end Muffle
