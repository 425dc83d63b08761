/-
  Muffle.Proofs.Console.Print

  What can be printed. Markup that is put together from styled parts, plain text and escaped text
  is shown whatever the escaped text says, since each part switches off only what it switched on.
  So with the standard library the lines of diagnostics fail only at a position with too many digits
  and at a message that is no text.
-/

import Mathlib.Data.List.TakeWhile
import Muffle.Console.Print
import Muffle.Proofs.Console.Markup

namespace Muffle.Console

open Markup

variable {cs rest x : List Char} {n : Nat} {opened : List String} {style : String}
  {d : Diagnostic} {ds : List Diagnostic}

/-! ## Styles -/

/-- A style whose tags switch it on and off. -/
structure IsStyle (style : String) : Prop where
  body : IsBody style.toList
  closing : IsBody ('/' :: style.toList)
  opens : ∀ opened, applyTag style.toList opened = .ok (styleName style.toList :: opened)
  closes : ∀ opened,
    applyTag ('/' :: style.toList) (styleName style.toList :: opened) = .ok opened

/-- What a name of a style has to satisfy, character by character. -/
theorem isStyle_of_body {c : Char} {cs : List Char} (hstyle : style.toList = c :: cs)
    (hstart : isTagStart c = true) (hslash : c ≠ '/') (hbare : '=' ∉ c :: cs)
    (hno : '[' ∉ c :: cs) (hno' : ']' ∉ c :: cs) (hstrip : Text.strip (c :: cs) = c :: cs) :
    IsStyle style := by
  have hname : (c :: cs).takeWhile (· != '=') = c :: cs := by
    rw [List.takeWhile_eq_self_iff]
    intro d hd
    rw [bne_iff_ne]
    rintro rfl
    exact hbare hd
  refine ⟨?_, ?_, fun opened => ?_, fun opened => ?_⟩ <;> rw [hstyle]
  · exact ⟨c, cs, rfl, hstart, fun h => hno (List.mem_cons_of_mem _ h),
      fun h => hno' (List.mem_cons_of_mem _ h)⟩
  · exact ⟨'/', c :: cs, rfl, by decide, hno, hno'⟩
  · rw [applyTag, hname]
    split
    · rename_i heq
      exact absurd (List.cons.inj heq).1 hslash
    · rfl
  · have hwhole : ('/' :: c :: cs).takeWhile (· != '=') = '/' :: c :: cs := by
      rw [List.takeWhile_cons_of_pos (by decide), hname]
    have hclose : close? (styleName (c :: cs)) (styleName (c :: cs) :: opened) = some opened :=
      if_pos rfl
    simp only [applyTag, hwhole, hstrip, List.isEmpty_cons, Bool.false_eq_true, if_false, hclose]

theorem isStyle_cyan : IsStyle "cyan" :=
  isStyle_of_body rfl (by decide) (by decide) (by decide) (by decide) (by decide) (by decide)

theorem isStyle_dim : IsStyle "dim" :=
  isStyle_of_body rfl (by decide) (by decide) (by decide) (by decide) (by decide) (by decide)

theorem isStyle_red : IsStyle "red" :=
  isStyle_of_body rfl (by decide) (by decide) (by decide) (by decide) (by decide) (by decide)

/-- Every severity has a style that can be written as a tag. -/
theorem isStyle_severityStyle (s : Severity) : IsStyle (severityStyle s) := by
  cases s
  · exact isStyle_dim
  · exact isStyle_of_body rfl (by decide) (by decide) (by decide) (by decide) (by decide)
      (by decide)
  · exact isStyle_of_body rfl (by decide) (by decide) (by decide) (by decide) (by decide)
      (by decide)

/-! ## Markup that is always accepted -/

/-- Markup that is accepted whatever is open. -/
def Sound (markup : List Char) : Prop := ∀ opened, Accepted opened 0 markup

/-- Text that is accepted before any tag, whatever backslashes it may leave before the tag. -/
def Inert (cs : List Char) : Prop :=
  ∀ opened b, Barrier b → (∀ k, Accepted opened k b) → Accepted opened 0 (cs ++ b)

/-- An escaped text is inert: it opens and closes nothing. -/
theorem inert_escape (cs : List Char) : Inert (escape cs) :=
  fun _ _ hb h => accepted_escape cs hb h

/-- Text without opening brackets and backslashes. -/
structure IsPlain (cs : List Char) : Prop where
  notEmpty : cs ≠ []
  noBracket : '[' ∉ cs
  noBackslash : '\\' ∉ cs

theorem IsPlain.ne (h : IsPlain cs) : ∀ c ∈ cs, c ≠ '[' ∧ c ≠ '\\' := by
  refine fun c hc => ⟨?_, ?_⟩
  · rintro rfl
    exact h.noBracket hc
  · rintro rfl
    exact h.noBackslash hc

/-- Text without brackets and backslashes needs no escape. -/
theorem IsPlain.inert (h : IsPlain cs) : Inert cs :=
  fun _ _ _ hb => .plain h.ne h.notEmpty (hb 0)

/-- Plain text can stand before any sound markup. -/
theorem IsPlain.sound (h : IsPlain cs) (hrest : Sound rest) : Sound (cs ++ rest) :=
  fun opened => .plain h.ne h.notEmpty (hrest opened)

theorem Inert.sound (h : Inert cs) : Sound cs := by
  intro opened
  have hend := h opened [] barrier_nil fun _ => .nil
  rwa [List.append_nil] at hend

/-- A styled part switches its style off again, or, if what it says ends in an odd number of
    backslashes, leaves it on. -/
theorem Sound.styled (hstyle : IsStyle style) (hcs : Inert cs) (hrest : Sound rest) :
    Sound (styled style cs ++ rest) := by
  intro opened
  have hsplit : Console.styled style cs ++ rest =
      '[' :: style.toList ++ ']' :: (cs ++ ('[' :: '/' :: style.toList ++ ']' :: rest)) := by
    simp [Console.styled]
  -- after an odd number of backslashes the closing tag is text, and nothing is closed
  have hclose : ∀ k, Accepted (styleName style.toList :: opened) k
      ('[' :: '/' :: style.toList ++ ']' :: rest) := by
    intro k
    have htag : tag? ('[' :: ('/' :: style.toList) ++ ']' :: rest) =
        some ('/' :: style.toList, rest) := tag?_eq_some_iff.mpr ⟨hstyle.closing, rfl⟩
    rcases Nat.mod_two_eq_zero_or_one k with hk | hk
    · exact .appliedTag hk htag (hstyle.closes opened) (hrest opened)
    · exact .escapedTag hk htag (hrest _)
  rw [hsplit]
  -- the opening tag is always one
  have htag : tag? ('[' :: style.toList ++ ']' ::
      (cs ++ ('[' :: '/' :: style.toList ++ ']' :: rest))) =
      some (style.toList, cs ++ ('[' :: '/' :: style.toList ++ ']' :: rest)) :=
    tag?_eq_some_iff.mpr ⟨hstyle.body, rfl⟩
  exact .appliedTag (by decide) htag (hstyle.opens opened) (hcs _ _ (barrier_bracket _) hclose)

/-- Sound markup can be printed. -/
theorem Sound.isOk_printMarkup (h : Sound cs) : (printMarkup cs).isOk = true := by
  have hshown : (shown cs).isOk = true := by
    rw [shown, isOk_return_bind]
    exact h [] []
  rw [printMarkup, isOk_return_bind]
  exact hshown

/-! ## Diagnostics -/

theorem isPlain_word (s : Severity) : IsPlain s.word.toList := by
  cases s <;> exact ⟨by decide, by decide, by decide⟩

theorem isPlain_separator : IsPlain ": ".toList := ⟨by decide, by decide, by decide⟩

/-- A diagnostic with a place and with a text as message can be printed. -/
theorem isOk_printDiagnostic {place m : String} (hplace : d.place = .ok place)
    (hm : d.message = .str m) : (printDiagnostic d).isOk = true := by
  have hline : Sound (Console.styled "cyan" (escape place.toList) ++ ": ".toList ++
      Console.styled (severityStyle d.severity) d.severity.word.toList ++ ": ".toList ++
      escape m.toList) := by
    have hmessage : Sound (escape m.toList) := (inert_escape _).sound
    have hseverity := Sound.styled (isStyle_severityStyle d.severity)
      (isPlain_word d.severity).inert (isPlain_separator.sound hmessage)
    have hwhole := Sound.styled isStyle_cyan (inert_escape place.toList)
      (isPlain_separator.sound hseverity)
    simpa only [List.append_assoc] using hwhole
  rw [printDiagnostic, diagnosticMarkup, hplace, hm]
  exact hline.isOk_printMarkup

/-- A message that is no text cannot be printed. -/
theorem printDiagnostic_notText {place : String} (hplace : d.place = .ok place)
    (hm : d.message.kind ≠ .str) :
    printDiagnostic d = .error (.subjectNotText d.message.kind) := by
  have hescape : Printer.escape d.message = .error (.subjectNotText d.message.kind) := by
    cases hmessage : d.message with
    | str m => exact absurd (congrArg Value.kind hmessage) hm
    | _ => rfl
  rw [printDiagnostic, diagnosticMarkup, hplace, hescape]
  rfl

/-- A diagnostic has a place if its position can be written. -/
theorem exists_place (h : d.position.isWritable = true) : ∃ place, d.place = .ok place := by
  have hwritten : d.position.written = .ok d.position.text := by
    rw [Value.written, h]
    rfl
  unfold Diagnostic.place
  split
  · exact ⟨_, rfl⟩
  · rename_i heq
    rw [hwritten]
    exact ⟨_, rfl⟩

/-- What the standard library cannot print of diagnostics is a position with too many digits or a
    message that is no text. -/
theorem printDiagnostic_error_iff {f : Fault} :
    printDiagnostic d = .error f ↔
      d.place = .error f ∨
        (d.place.isOk = true ∧ d.message.kind ≠ .str ∧ f = .subjectNotText d.message.kind) := by
  -- the place is written before the message is looked at
  cases hplace : d.place with
  | error g =>
    rw [printDiagnostic, diagnosticMarkup, hplace]
    simp [Except.isOk, Except.toBool]
  | ok place =>
    by_cases hkind : d.message.kind = .str
    · obtain ⟨m, hm⟩ : ∃ m, d.message = .str m := by
        cases hm : d.message with
        | str m => exact ⟨m, rfl⟩
        | _ =>
          rw [hm] at hkind
          cases hkind
      obtain ⟨text, htext⟩ := exists_of_isOk (isOk_printDiagnostic hplace hm)
      simp [htext, hkind]
    · rw [printDiagnostic_notText hplace hkind]
      simp [Except.isOk, Except.toBool, hkind, eq_comm]

/-- A diagnostic can be printed if its place can be written and its message is a text. -/
theorem isOk_printDiagnostic_iff :
    (printDiagnostic d).isOk = true ↔ d.place.isOk = true ∧ d.message.kind = .str := by
  cases h : printDiagnostic d with
  | error f =>
    refine iff_of_false nofun ?_
    rintro ⟨hplace, hkind⟩
    rcases printDiagnostic_error_iff.mp h with hfailed | ⟨-, hnot, -⟩
    · rw [hfailed] at hplace
      cases hplace
    · exact hnot hkind
  | ok text =>
    have hnone (f : Fault) : printDiagnostic d ≠ .error f := fun hf => nomatch h.symm.trans hf
    have hplace : d.place.isOk = true := by
      cases hplace : d.place with
      | error f => exact absurd (printDiagnostic_error_iff.mpr (.inl hplace)) (hnone f)
      | ok place => rfl
    refine iff_of_true rfl ⟨hplace, ?_⟩
    by_contra hkind
    exact hnone _ (printDiagnostic_error_iff.mpr (.inr ⟨hplace, hkind, rfl⟩))

end Muffle.Console
