/-
  Muffle.Proofs.Command.Printing

  What the filter command cannot print. The standard console prints every reason for which the
  command fails and every summary, so what it cannot print of a result is a line whose position has
  too many digits or whose message is no text; as JSON it prints every result.
-/

import Muffle.Proofs.Command.Filter
import Muffle.Proofs.Console.Print

namespace Muffle.Command

variable {r : FilterRequest} {s : Stream.Result} {f : Fault}

/-! ## Reasons and summaries -/

/-- A text in red before an escaped one can always be printed. -/
theorem isOk_failure_red {heading : String} (label : List Char)
    (hheading : heading.toList = Console.styled "red" label) (hlabel : Console.IsPlain label)
    (message : String) : (Session.failure heading message).isOk = true := by
  have hblank : Console.IsPlain [' '] := ⟨by decide, by decide, by decide⟩
  have hrest : Console.Sound (' ' :: Console.Markup.escape message.toList) :=
    hblank.sound (Console.inert_escape _).sound
  have hmarkup : Console.Sound (heading.toList ++ ' ' :: Console.Markup.escape message.toList) := by
    rw [hheading]
    exact Console.Sound.styled Console.isStyle_red hlabel.inert hrest
  exact hmarkup.isOk_printMarkup

/-- The standard console prints the reason, whatever it says. -/
theorem isOk_explanation (f : Fault) : (explanation f).isOk = true := by
  unfold explanation
  split
  · exact isOk_failure_red "Error:".toList rfl ⟨by decide, by decide, by decide⟩ _
  · exact isOk_failure_red "Malformed stream:".toList rfl ⟨by decide, by decide, by decide⟩ _

/-- A number has no brackets. -/
theorem isPlain_count (n : Nat) : Console.IsPlain (' ' :: (toString n).toList) := by
  have hnot {c : Char} (hblank : c ≠ ' ') (hdigit : c.isDigit = false) :
      c ∉ ' ' :: (toString n).toList := by
    rw [List.mem_cons, Nat.toString_eq_repr, Nat.toList_repr]
    rintro (h | h)
    · exact hblank h
    · have hmem := Nat.isDigit_of_mem_toDigits (b := 10) (by decide) (by decide) h
      rw [hdigit] at hmem
      cases hmem
  exact ⟨List.cons_ne_nil _ _, hnot (by decide) (by decide), hnot (by decide) (by decide)⟩

/-- The summary is sound whatever the numbers are. -/
theorem sound_summaryMarkup (counts : Counts) : Console.Sound (summaryMarkup counts) := by
  have hlabel (s : String) (h : Console.IsPlain s.toList) {rest : List Char}
      (hrest : Console.Sound rest) : Console.Sound (Console.styled "dim" s.toList ++ rest) :=
    Console.Sound.styled Console.isStyle_dim h.inert hrest
  have hforwarded : Console.Sound (Console.styled "dim" "forwarded:".toList ++
      (' ' :: (toString counts.forwarded).toList)) :=
    hlabel _ ⟨by decide, by decide, by decide⟩ (isPlain_count _).inert.sound
  have hgap : Console.Sound ("  ".toList ++ (Console.styled "dim" "forwarded:".toList ++
      (' ' :: (toString counts.forwarded).toList))) :=
    Console.IsPlain.sound ⟨by decide, by decide, by decide⟩ hforwarded
  have hsuppressed := hlabel "suppressed:" ⟨by decide, by decide, by decide⟩
    ((isPlain_count counts.suppressed).sound hgap)
  simpa only [summaryMarkup, List.append_assoc] using hsuppressed

/-- The summary can be printed. -/
theorem isOk_summary (counts : Counts) :
    (Console.Printer.printMarkup (summaryMarkup counts)).isOk = true :=
  (sound_summaryMarkup counts).isOk_printMarkup

/-! ## Results -/

/-- What the standard console cannot print of a result is the first line whose position cannot be
    written or whose message is no text. -/
theorem unprinted_standard_iff :
    Unprinted r s f ↔ r.asJson = false ∧
      Reaches (fun d => d.place.isOk = true ∧ d.message.kind = .str)
        (fun d => d.place = .error f ∨
          (d.place.isOk = true ∧ d.message.kind ≠ .str ∧ f = .subjectNotText d.message.kind))
        s.sink := by
  rw [← reaches_congr (fun _ => Console.isOk_printDiagnostic_iff)
    (fun _ => Console.printDiagnostic_error_iff)]
  constructor
  · intro h
    cases h with
    -- the standard printer prints every list, and the summary is sound
    | json hjson h => cases h
    | line hjson h => exact ⟨hjson, h⟩
    | summary hjson hlines h =>
      have hsummary := isOk_summary s.counts
      rw [h] at hsummary
      cases hsummary
  · rintro ⟨hjson, h⟩
    exact .line hjson h

/-- The result of a run can be printed, as JSON and, as far as its messages are texts, in lines. -/
structure Printable [Console.Printer] (s : Stream.Result) : Prop where
  json : (Console.Printer.printJson (.list (s.sink.map Diagnostic.toJson))).isOk = true
  line : ∀ d ∈ s.sink, d.message.kind = .str → (Console.printDiagnostic d).isOk = true
  summary : (Console.Printer.printMarkup (summaryMarkup s.counts)).isOk = true

/-- The standard console prints every result, if no position has too many digits. -/
theorem printable_standard (hpositions : ∀ d ∈ s.sink, d.position.isWritable = true) :
    Printable s where
  json := rfl
  line d hd hmessage := by
    obtain ⟨place, hplace⟩ := Console.exists_place (hpositions d hd)
    exact Console.isOk_printDiagnostic_iff.mpr ⟨congrArg Except.isOk hplace, hmessage⟩
  summary := isOk_summary s.counts

end Muffle.Command
