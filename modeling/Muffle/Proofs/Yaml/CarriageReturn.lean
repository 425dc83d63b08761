/-
  Muffle.Proofs.Yaml.CarriageReturn

  No carriage return is written. A text that holds one counts as special, so it is written in
  double quotes, where every character that does not stand for itself becomes an escape; the other
  two styles write the characters of the text, spaces, line feeds and quotes. A reader that turns
  line breaks into line feeds therefore sees the text as it was written.
-/

import Muffle.Text.Utf8
import Muffle.Yaml.Writer

namespace Muffle

/-- Without carriage returns the line breaks are line feeds already. -/
theorem Text.plainLines_of_notMem {cs : List Char} (h : '\r' ∉ cs) : plainLines cs = cs := by
  fun_induction plainLines cs with
  | case1 => rfl
  | case2 rest ih => exact absurd List.mem_cons_self h
  | case3 rest _ ih => exact absurd List.mem_cons_self h
  | case4 c rest _ _ ih => rw [ih fun hrest => h (List.mem_cons_of_mem _ hrest)]

namespace Yaml

/-! ## The style -/

theorem isSpecial_return : isSpecial '\r' = true := by decide

/-- A text with a carriage return is always written in double quotes. -/
theorem notMem_of_styleOf {isKey : Bool} {cs : List Char} (h : styleOf isKey cs ≠ .double) :
    '\r' ∉ cs := by
  intro hmem
  have hspecial : cs.any isSpecial = true := List.any_eq_true.mpr ⟨_, hmem, isSpecial_return⟩
  refine h ?_
  -- neither single quotes nor a plain text may hold special characters
  rw [styleOf, if_neg, if_neg]
  · rw [allowsSingle, hspecial]
    exact fun hand => nomatch hand.1
  · rw [allowsPlain.eq_def, hspecial]
    exact fun hand => nomatch hand.2

/-! ## Plain texts and single quotes -/

theorem notMem_spaces (n : Nat) : '\r' ∉ Pen.spaces n :=
  fun h => absurd (List.eq_of_mem_replicate h) (by decide)

theorem notMem_newLine (p : Pen) : '\r' ∉ p.newLine := by
  rw [Pen.newLine, List.mem_cons, not_or]
  exact ⟨by decide, notMem_spaces _⟩

/-- A plain text is written as it is, with line feeds where it is folded. -/
theorem notMem_writePlain {cs : List Char} (h : '\r' ∉ cs) (p : Pen) (pending : Nat) :
    '\r' ∉ writePlain p pending cs := by
  fun_induction writePlain p pending cs <;>
    simp_all [notMem_spaces, notMem_newLine]

/-- What waits holds no carriage return. -/
def Waiting.IsClean : Waiting → Prop
  | .breaks bs => '\r' ∉ bs
  | _ => True

theorem notMem_waiting {w : Waiting} (hw : w.IsClean) (p : Pen) : '\r' ∉ (w.write p).1 := by
  cases w with
  | nothing => exact List.not_mem_nil
  | spaces n atStart =>
    rw [Waiting.write]
    split
    · exact notMem_newLine p
    · exact notMem_spaces n
  | breaks bs =>
    have hbs : '\r' ∉ bs := hw
    simp only [Waiting.write, writeBreaks, List.mem_append, not_or]
    refine ⟨⟨?_, hbs⟩, notMem_spaces _⟩
    split
    · decide
    · exact List.not_mem_nil

theorem notMem_writeLast {w : Waiting} (hw : w.IsClean) (p : Pen) : '\r' ∉ w.writeLast p := by
  cases w with
  | spaces n atStart => exact notMem_spaces n
  | nothing => exact notMem_waiting hw p
  | breaks bs => exact notMem_waiting hw p

theorem notMem_writeSingle {cs : List Char} (h : '\r' ∉ cs) (p : Pen) {w : Waiting}
    (hw : w.IsClean) (isStart : Bool) : '\r' ∉ writeSingle p w isStart cs := by
  induction cs generalizing p w isStart with
  | nil => exact notMem_writeLast hw p
  | cons c rest ih =>
    rw [List.mem_cons, not_or] at h
    have hout := notMem_waiting hw p
    have hfirst : Waiting.IsClean (.breaks [c]) := fun hmem => h.1 (List.mem_singleton.mp hmem)
    unfold writeSingle
    split
    · -- a space waits, alone or with those before it
      split
      · exact ih h.2 p (by exact trivial) false
      · exact List.not_mem_append hout (ih h.2 _ (by exact trivial) false)
    · split
      · -- so does a break
        split
        · rename_i bs
          have hmore : Waiting.IsClean (.breaks (bs ++ [c])) := List.not_mem_append hw hfirst
          exact ih h.2 p hmore false
        · exact List.not_mem_append hout (ih h.2 _ hfirst false)
      · have hshown : '\r' ∉ (if c = '\'' then ['\'', '\''] else [c]) := by
          split
          · decide
          · exact fun hmem => h.1 (List.mem_singleton.mp hmem)
        exact List.not_mem_append (List.not_mem_append hout hshown)
          (ih h.2 _ (by exact trivial) false)

/-! ## Double quotes -/

theorem notMem_toDigits (n : Nat) : '\r' ∉ (Nat.toDigits 16 n).map Char.toUpper := by
  induction n using Nat.strongRecOn with
  | ind n ih =>
    have hdigit : ∀ d < 16, '\r' ≠ (Nat.digitChar d).toUpper := by decide
    rw [Nat.toDigits_eq_if (by decide)]
    split
    · rename_i hn
      rw [List.map_singleton, List.mem_singleton]
      exact hdigit n hn
    · rw [List.map_append, List.map_singleton, List.mem_append, List.mem_singleton, not_or]
      exact ⟨ih (n / 16) (by omega), hdigit (n % 16) (by omega)⟩

theorem notMem_hexText (width n : Nat) : '\r' ∉ (Text.hexText width n).map Char.toUpper := by
  rw [Text.hexText, List.map_append, List.map_replicate, List.mem_append, not_or]
  exact ⟨fun h => absurd (List.eq_of_mem_replicate h) (by decide), notMem_toDigits n⟩

theorem shortEscape?_ne {c d : Char} (h : shortEscape? c = some d) : '\r' ≠ d := by
  unfold shortEscape? at h
  split at h <;> cases h <;> decide

/-- An escape consists of other characters. -/
theorem notMem_escapeOf (c : Char) : '\r' ∉ escapeOf c := by
  rw [escapeOf]
  split
  · rename_i d hd
    simp [shortEscape?_ne hd]
  · dsimp only
    split
    · simp [notMem_hexText]
    · split <;> simp [notMem_hexText]

theorem ne_of_isLiteral {c : Char} (h : isLiteral c = true) : '\r' ≠ c := by
  rintro rfl
  exact absurd h (by decide)

theorem notMem_escapedBreak (p : Pen) (next : Option Char) : '\r' ∉ (escapedBreak p next).1 := by
  rw [escapedBreak]
  split <;> simp [notMem_newLine]

/-- In double quotes a carriage return is escaped. -/
theorem notMem_writeDouble (p : Pen) (isStart isFresh : Bool) (cs : List Char) :
    '\r' ∉ writeDouble p isStart isFresh cs := by
  induction cs generalizing p isStart isFresh with
  | nil => exact List.not_mem_nil
  | cons c rest ih =>
    rw [writeDouble]
    split
    · rename_i hliteral
      have hc := ne_of_isLiteral hliteral
      dsimp only
      split
      · simp [notMem_escapedBreak, hc, ih]
      · simp [hc, ih]
    · dsimp only
      split
      · simp [notMem_escapeOf, notMem_escapedBreak, ih]
      · simp [notMem_escapeOf, ih]

/-! ## Values -/

/-- Whichever style is chosen, none is written. -/
theorem notMem_writeText (isKey : Bool) (indent column : Nat) (cs : List Char) :
    '\r' ∉ writeText isKey indent column cs := by
  rw [writeText]
  split
  · rename_i hstyle
    exact notMem_writePlain (notMem_of_styleOf (by rw [hstyle]; decide)) _ _
  · rename_i hstyle
    have hclean : '\r' ∉ cs := notMem_of_styleOf (by rw [hstyle]; decide)
    have hsingle := notMem_writeSingle hclean ((Pen.mk (!isKey) indent column).move 1)
      (w := .nothing) trivial true
    simp [hsingle]
  · simp [notMem_writeDouble]

/-- A truth value or a list of texts. -/
inductive Written : Value → Prop where
  | bool (b : Bool) : Written (.bool b)
  | list (xs : List String) : Written (.list (xs.map .str))

theorem notMem_leafText_str (isKey : Bool) (indent column : Nat) (s : String) :
    '\r' ∉ leafText isKey indent column (.str s) :=
  notMem_writeText isKey indent column s.toList

theorem notMem_lineStart (indent : Nat) : '\r' ∉ lineStart indent := by
  rw [lineStart, List.mem_cons, not_or]
  exact ⟨by decide, notMem_spaces indent⟩

theorem notMem_writeItems (indent : Nat) (isInline : Bool) (xs : List String) :
    '\r' ∉ writeItems indent isInline (xs.map .str) := by
  induction xs generalizing isInline with
  | nil => exact List.not_mem_nil
  | cons x xs ih =>
    have hitem : writeValue .item indent (indent + 1) (.str x) =
        ' ' :: leafText false (indent + 2) (indent + 2) (.str x) := by rw [writeValue] <;> nofun
    rw [List.map_cons, writeItems, hitem]
    cases isInline <;> simp [notMem_lineStart, notMem_leafText_str, ih]

/-- By cases on what a field can be. -/
theorem notMem_writeValue {v : Value} (hv : Written v) (p : Position) (indent column : Nat) :
    '\r' ∉ writeValue p indent column v := by
  cases hv with
  | bool b => cases b <;> simp [writeValue, leafText]
  | list xs =>
    unfold writeValue
    split
    · decide
    · cases p <;> simp [notMem_writeItems]

/-- By induction on the fields. -/
theorem notMem_writeEntries {fields : List (String × Value)} (h : ∀ f ∈ fields, Written f.2)
    (indent : Nat) (isInline : Bool) :
    '\r' ∉ writeEntries indent isInline (fields.map fun f => (.str f.1, f.2)) := by
  induction fields generalizing isInline with
  | nil => exact List.not_mem_nil
  | cons f fields ih =>
    have hvalue := notMem_writeValue (h f List.mem_cons_self)
    have hrest := ih fun g hg => h g (List.mem_cons_of_mem _ hg)
    rw [List.map_cons, writeEntries]
    cases isSimpleKey (.str f.1) <;> cases isInline <;>
      simp [notMem_lineStart, notMem_leafText_str, hvalue, hrest]

/-- These values are their own JSON forms. -/
theorem Written.toJson_eq {v : Value} (hv : Written v) : v.toJson = v := by
  cases hv with
  | bool b => rfl
  | list xs =>
    have hitems : Value.toJsonItems (xs.map .str) = xs.map .str := by
      induction xs with
      | nil => rfl
      | cons x xs ih =>
        have hx : (Value.str x).toJson = .str x := by rw [Value.toJson] <;> nofun
        rw [List.map_cons, Value.toJsonItems, hx, ih]
    rw [Value.toJson, hitems]

/-- A file of truth values, texts and lists of texts is written without carriage returns. -/
theorem notMem_write {fields : List (String × Value)} (h : ∀ f ∈ fields, Written f.2) :
    '\r' ∉ write fields := by
  have hjson : fields.map (fun f => (Value.str f.1, f.2.toJson)) =
      fields.map fun f => (.str f.1, f.2) :=
    List.map_congr_left fun f hf => by rw [(h f hf).toJson_eq]
  rw [write]
  split
  · decide
  · rw [hjson]
    simp [notMem_writeEntries h]

end Yaml

end Muffle
