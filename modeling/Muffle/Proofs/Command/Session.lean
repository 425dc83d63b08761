/-
  Muffle.Proofs.Command.Session

  How commands end. Neither what a command prints nor the notices that it keeps decide how it
  ends, so a command at work is read by its ending alone: the ending of a sequence of steps is
  the sequence of their endings.
-/

import Muffle.Command.Session
import Muffle.Proofs.Follows

namespace Muffle.Command.Session

variable {α β : Type} {x : Session α} {k : α → Session β} {r : Except Ending α}
  {g : α → Except Ending β}

/-- How a command at work ends, whatever was printed before. -/
def Ends (x : Session α) (r : Except Ending α) : Prop := ∀ t, (x.run.run t).1 = r

/-! ## Steps -/

theorem ends_pure (a : α) : Ends (pure a) (.ok a) := fun _ => rfl

theorem ends_throw (e : Ending) : Ends (throw e : Session α) (.error e) := fun _ => rfl

/-- A sequence ends as its steps do, whatever was printed before. -/
theorem Ends.bind (hx : Ends x r) (hk : ∀ a, Ends (k a) (g a)) : Ends (x >>= k) (r >>= g) := by
  intro t
  rw [run_bind, ← hx t]
  rcases x.run.run t with ⟨e | a, t'⟩
  · rfl
  · exact hk a t'

/-- After an ending nothing follows. -/
theorem Ends.bind_error {e : Ending} (hx : Ends x (.error e)) : Ends (x >>= k) (.error e) := by
  intro t
  have hfirst := hx t
  rw [run_bind]
  rcases hon : x.run.run t with ⟨r, t'⟩
  rw [hon] at hfirst
  cases hfirst
  rfl

theorem ends_print (cs : List Char) : Ends (print cs) (.ok ()) := fun _ => rfl

theorem ends_keep (ns : List Notice) : Ends (keep ns) (.ok ()) := fun _ => rfl

/-- A fault that is not caught ends the command. -/
theorem ends_ofExcept (x : Except Fault α) : Ends (ofExcept x) (x.mapError .fault) :=
  fun _ => rfl

/-- A printed part is the same to the ending as no part, unless it cannot be printed. -/
theorem ends_print_ofExcept (x : Except Fault (List Char)) :
    Ends (ofExcept x >>= print) ((x.map fun _ => ()).mapError .fault) := by
  cases x with
  | error f => exact (ends_ofExcept (.error f)).bind_error
  | ok cs => exact (ends_ofExcept (.ok cs)).bind fun cs => ends_print cs

section Printing

variable [Console.Printer]

/-- Printing ends the command only when the printer fails. -/
theorem ends_printMarkup (markup : List Char) :
    Ends (printMarkup markup)
      (((Console.Printer.printMarkup markup).map fun _ => ()).mapError .fault) :=
  ends_print_ofExcept _

/-- How a command ends that is to print why it fails: with 1, unless that cannot be printed. -/
def failEnding : Except Fault (List Char) → Ending
  | .ok _ => .exit 1
  | .error f => .fault f

/-- What is printed after a heading when a command fails for a reason. -/
def failure (heading message : String) : Except Fault (List Char) := do
  Console.Printer.printMarkup
    (heading.toList ++ ' ' :: (← Console.Printer.escape (.str message)))

/-- A command that fails with a message exits with code 1, unless the message cannot be printed. -/
theorem ends_failWith (heading : String) (markup : List Char) :
    Ends (failWith heading markup : Session α)
      (.error (failEnding (Console.Printer.printMarkup (heading.toList ++ ' ' :: markup)))) := by
  have hprinted := ends_printMarkup (heading.toList ++ ' ' :: markup)
  unfold failWith
  cases hmarkup : Console.Printer.printMarkup (heading.toList ++ ' ' :: markup) with
  | error f =>
    rw [hmarkup] at hprinted
    exact hprinted.bind_error
  | ok text =>
    rw [hmarkup] at hprinted
    exact hprinted.bind fun _ => ends_throw (.exit 1)

theorem ends_fail (heading message : String) :
    Ends (fail heading message : Session α) (.error (failEnding (failure heading message))) := by
  have hescaped := ends_ofExcept (Console.Printer.escape (.str message))
  unfold fail failure
  cases hescape : Console.Printer.escape (.str message) with
  | error f =>
    rw [hescape] at hescaped
    exact hescaped.bind_error
  | ok markup =>
    rw [hescape] at hescaped
    exact hescaped.bind fun markup => ends_failWith heading markup

/-- What is printed if there is nothing at a path; the path is not escaped. -/
def missingMarkup (p : Path) : List Char :=
  "[red]Error:[/red]".toList ++ ' ' :: ("File not found: ".toList ++ p.text.toList)

/-- The three things that a look at a path can lead to. -/
theorem ends_requirePath (tree : FileTree) (p : Path) :
    Ends (requirePath tree p)
      (match tree.hasPath p with
        | .error f => .error (.fault f)
        | .ok true => .ok ()
        | .ok false => .error (failEnding (Console.Printer.printMarkup (missingMarkup p)))) := by
  have hasked := ends_ofExcept (tree.hasPath p)
  unfold requirePath
  cases hpath : tree.hasPath p with
  | error f =>
    rw [hpath] at hasked
    exact hasked.bind_error
  | ok found =>
    intro t
    cases found with
    | true => rfl
    | false => exact ends_failWith _ _ t

end Printing

/-! ## Commands -/

/-- The ending of a command whose work ends so. -/
def endingOf : Except Ending Unit → Ending
  | .ok _ => .exit 0
  | .error e => e

/-- How a command ends is read off its last step. -/
theorem Ends.ending {x : Session Unit} {r : Except Ending Unit} (h : Ends x r) :
    x.result.ending = endingOf r := by
  rw [result, ← h {}]
  rcases x.run.run {} with ⟨e | a, t⟩ <;> rfl

end Muffle.Command.Session
