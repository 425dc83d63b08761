/-
  Muffle.Proofs.Engine.Operation

  Runs of an engine. A run is a list of operations, performed one after the other; it ends at the
  first one that fails. An answer is what a host gets back from one operation, and all that it
  ever learns about its diagnostics.
-/

import Muffle.Proofs.Engine.Effect

namespace Muffle

/-- A policy without filters under which diagnostics wait, unless their severity is exempt. -/
def Policy.deferring (suppressible : List Severity) : Policy where
  config := { deferUnregistered := .bool true, suppressible := suppressible }
  workDir := Path.ofText "/"

/-- A warning at an offset. -/
def Diagnostic.warningAt (u : SourceUnit) (offset : Int) (message : String) : Diagnostic :=
  ⟨u, .int offset, .warning, .str message⟩

namespace Engine

/-! ## Operations and answers -/

/-- What a host asks of an engine. -/
inductive Operation where
  | register (u : SourceUnit) (d : Directive)
  | setDirectives (u : SourceUnit) (ds : List Directive)
  | intercept (u : SourceUnit) (position severity message : Value)
  | report (d : Diagnostic)
  | flush (u : SourceUnit)
  | flushAll
  | reportUnused (u : SourceUnit)
  | emit (d : Diagnostic)

/-- What the engine gives back. -/
inductive Answer where
  | done
  | outcome (o : Outcome)
  | outcomes (os : List Outcome)
  | forwarded (ds : List Diagnostic)
  | unused (ds : List Directive)

/-- Performs one operation. -/
def perform (p : Policy) : Operation → Run Answer
  | .register u d => do
    register u d
    return .done
  | .setDirectives u ds => do return .outcomes (← setDirectives u ds)
  | .intercept u position severity message => do
    return .outcome (← intercept p u position severity message)
  | .report d => do return .outcome (← report p d)
  | .flush u => do return .forwarded (← flush u)
  | .flushAll => do return .forwarded (← flushAll)
  | .reportUnused u => do return .unused (← reportUnused p u)
  | .emit d => do
    emit d
    return .done

/-- Performs operations in order. -/
def performAll (p : Policy) : List Operation → Run (List Answer)
  | [] => pure []
  | op :: rest => do
    let a ← perform p op
    let as ← performAll p rest
    return a :: as

/-- The diagnostic that an operation hands to the engine for a decision. -/
def Operation.diagnostic? : Operation → Option Diagnostic
  | .report d => some d
  | .intercept u position severity message =>
    (Severity.parse? severity).map fun s => ⟨u, position, s, message⟩
  | _ => none

/-- The diagnostics of a run in order of their arrival. -/
def intercepted (ops : List Operation) : List Diagnostic := ops.filterMap Operation.diagnostic?

/-! ## Runs step by step -/

variable {p : Policy} {e e' : Engine}

theorem performAll_cons_ok {op : Operation} {ops : List Operation} {answers : List Answer}
    (h : (performAll p (op :: ops)).on e = (.ok answers, e')) :
    ∃ a as e₁, answers = a :: as ∧ (perform p op).on e = (.ok a, e₁) ∧
      (performAll p ops).on e₁ = (.ok as, e') := by
  obtain ⟨a, e₁, hop, h⟩ := on_bind_eq_ok_iff.mp h
  obtain ⟨as, e₂, hops, h⟩ := on_bind_eq_ok_iff.mp h
  cases h
  exact ⟨a, as, e₁, rfl, hop, hops⟩

theorem performAll_append_ok {ops ops' : List Operation} {answers : List Answer}
    (h : (performAll p (ops ++ ops')).on e = (.ok answers, e')) :
    ∃ as as' e₁, answers = as ++ as' ∧ as.length = ops.length ∧
      (performAll p ops).on e = (.ok as, e₁) ∧ (performAll p ops').on e₁ = (.ok as', e') := by
  induction ops generalizing e answers with
  | nil => exact ⟨[], answers, e, rfl, rfl, rfl, h⟩
  | cons op ops ih =>
    obtain ⟨a, rest, e₁, rfl, hop, hrest⟩ := performAll_cons_ok h
    obtain ⟨as, as', e₂, rfl, hlen, hops, hops'⟩ := ih hrest
    refine ⟨a :: as, as', e₂, rfl, by rw [List.length_cons, List.length_cons, hlen], ?_, hops'⟩
    rw [performAll, on_bind_of_ok hop, on_bind_of_ok hops]
    rfl

/-- A step on a diagnostic is a report of it, whether or not its severity had to be read. -/
theorem perform_diagnostic_eq {op : Operation} {d : Diagnostic} (hd : op.diagnostic? = some d)
    (e : Engine) :
    (perform p op).on e =
      (((report p d).on e).1.map Answer.outcome, ((report p d).on e).2) := by
  have hreport : (perform p (.report d)).on e =
      (((report p d).on e).1.map Answer.outcome, ((report p d).on e).2) := by
    rw [perform, on_bind]
    rcases (report p d).on e with ⟨_ | o, e'⟩ <;> rfl
  cases op with
  | report d₁ =>
    cases hd
    exact hreport
  | intercept u position severity message =>
    -- once the severity is read, an interception is a report
    rw [Operation.diagnostic?, Option.map_eq_some_iff] at hd
    obtain ⟨s, hs, rfl⟩ := hd
    rw [perform, intercept, Severity.parse, hs]
    exact hreport
  | register | setDirectives | flush | flushAll | reportUnused | emit => cases hd

theorem perform_diagnostic_on {op : Operation} {d : Diagnostic} {o : Outcome}
    (hd : op.diagnostic? = some d) (h : (report p d).on e = (.ok o, e')) :
    (perform p op).on e = (.ok (.outcome o), e') := by
  rw [perform_diagnostic_eq hd, h]
  rfl

theorem perform_diagnostic_ok {op : Operation} {a : Answer} {d : Diagnostic}
    (hd : op.diagnostic? = some d) (h : (perform p op).on e = (.ok a, e')) :
    ∃ o, a = .outcome o ∧ (report p d).on e = (.ok o, e') := by
  rw [perform_diagnostic_eq hd] at h
  rcases hr : (report p d).on e with ⟨f | o, e₁⟩
  · rw [hr] at h
    cases h
  · rw [hr] at h
    cases h
    exact ⟨o, rfl, rfl⟩

/-- An interception that succeeds has a severity that can be read. -/
theorem perform_intercept_ok {u : SourceUnit} {position severity message : Value} {a : Answer}
    (h : (perform p (.intercept u position severity message)).on e = (.ok a, e')) :
    ∃ d, (Operation.intercept u position severity message).diagnostic? = some d := by
  cases hs : Severity.parse? severity with
  | some s => exact ⟨_, by rw [Operation.diagnostic?, hs]; rfl⟩
  | none =>
    obtain ⟨o, e₁, ho, -⟩ := on_bind_eq_ok_iff.mp h
    rw [intercept, Severity.parse, hs] at ho
    cases ho

end Engine

end Muffle
