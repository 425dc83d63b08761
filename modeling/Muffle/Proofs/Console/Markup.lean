/-
  Muffle.Proofs.Console.Markup

  Markup that can be shown. Only a closing tag that closes nothing stands in the way of showing
  markup, and whether it counts as a tag depends on the backslashes right before it. So markup is
  read from its start with the styles that are open and the backslashes that were just read
  (`Accepted`); one lemma for each thing that may come next says what the rest has to satisfy.

  A text that was escaped is always accepted, in the middle of markup too: the tags in it stand
  behind an odd number of backslashes, and outside its tags no bracket of the text can start a tag
  together with what comes after it, since that starts with a bracket or is nothing (`Barrier`).
-/

import Muffle.Console.Markup
import Muffle.Proofs.Except

namespace Muffle.Console.Markup

variable {c : Char} {n : Nat} {b cs rest s x : List Char} {t : List Char × List Char}
  {opened : List String}

/-! ## Tags -/

/-- The body of a tag ends at the first closing bracket and has no bracket inside. -/
theorem tagBody?_eq_some_iff :
    tagBody? cs = some t ↔ '[' ∉ t.1 ∧ ']' ∉ t.1 ∧ cs = t.1 ++ ']' :: t.2 := by
  obtain ⟨body, after⟩ := t
  induction cs generalizing body with
  | nil => simp [tagBody?]
  | cons c cs ih =>
    rw [tagBody?]
    -- a closing bracket ends the body, an opening one forbids it
    by_cases hclose : c = ']'
    · rw [if_pos hclose, hclose]
      cases body <;> simp +contextual [eq_comm]
    · rw [if_neg hclose]
      by_cases hopen : c = '['
      · rw [if_pos hopen, hopen]
        cases body <;> simp +contextual [eq_comm]
      · rw [if_neg hopen]
        cases body with
        | nil => simp [hclose]
        | cons d body =>
          have hrest := @ih body
          simp only [Option.map_eq_some_iff, Prod.mk.injEq, List.cons.injEq, Prod.exists,
            List.cons_append, List.mem_cons, not_or]
          constructor
          · rintro ⟨body', after', htail, ⟨rfl, rfl⟩, rfl⟩
            obtain ⟨hno, hno', hcs⟩ := hrest.mp htail
            exact ⟨⟨Ne.symm hopen, hno⟩, ⟨Ne.symm hclose, hno'⟩, rfl, hcs⟩
          · rintro ⟨⟨-, hno⟩, ⟨-, hno'⟩, rfl, hcs⟩
            exact ⟨body, after, hrest.mpr ⟨hno, hno', hcs⟩, ⟨rfl, rfl⟩, rfl⟩

/-- What may stand in the brackets of a tag. -/
def IsBody (body : List Char) : Prop :=
  ∃ c rest, body = c :: rest ∧ isTagStart c = true ∧ '[' ∉ rest ∧ ']' ∉ rest

/-- A tag is a body in brackets. -/
theorem tag?_eq_some_iff : tag? cs = some t ↔ IsBody t.1 ∧ cs = '[' :: t.1 ++ ']' :: t.2 := by
  obtain ⟨body, after⟩ := t
  constructor
  · intro h
    unfold tag? at h
    split at h
    · split at h
      · rename_i c rest hstart
        obtain ⟨u, hu, heq⟩ := Option.map_eq_some_iff.mp h
        cases heq
        obtain ⟨hno, hno', rfl⟩ := tagBody?_eq_some_iff.mp hu
        exact ⟨⟨c, u.1, rfl, hstart, hno, hno'⟩, rfl⟩
      · cases h
    · cases h
  · rintro ⟨⟨c, rest, rfl, hstart, hno, hno'⟩, rfl⟩
    have hbody : tagBody? (rest ++ ']' :: after) = some (rest, after) :=
      tagBody?_eq_some_iff.mpr ⟨hno, hno', rfl⟩
    show tag? ('[' :: c :: (rest ++ ']' :: after)) = _
    rw [tag?, if_pos hstart, hbody]
    rfl

/-- A tag at the start of a text is one at the start of any longer text. -/
theorem tag?_append (h : tag? cs = some t) (b : List Char) :
    tag? (cs ++ b) = some (t.1, t.2 ++ b) := by
  obtain ⟨hbody, rfl⟩ := tag?_eq_some_iff.mp h
  rw [tag?_eq_some_iff]
  exact ⟨hbody, by simp⟩

/-- Text that follows can only complete a tag, not destroy one. -/
theorem tag?_eq_none_of_append (h : tag? (cs ++ b) = none) : tag? cs = none := by
  cases htag : tag? cs with
  | none => rfl
  | some t =>
    rw [tag?_append htag] at h
    cases h

theorem tag?_of_ne (hc : c ≠ '[') : tag? (c :: rest) = none := by
  unfold tag?
  split
  · rename_i heq
    cases heq
    exact absurd rfl hc
  · rfl

/-! ## What ends a text -/

/-- A text that ends every tag which was started before it, and starts no tag with the bracket
    right before it. -/
structure Barrier (b : List Char) : Prop where
  body : tagBody? b = none
  start : ∀ c rest, b = c :: rest → isTagStart c = false

theorem barrier_nil : Barrier [] := ⟨rfl, nofun⟩

theorem barrier_bracket (rest : List Char) : Barrier ('[' :: rest) where
  body := rfl
  start c rest h := by
    cases h
    decide

theorem Barrier.slash (h : Barrier b) : Barrier ('\\' :: b) where
  body := by
    rw [tagBody?, h.body]
    rfl
  start c rest h := by
    cases h
    decide

/-- Backslashes before a barrier are part of it. -/
theorem Barrier.slashes (h : Barrier b) (n : Nat) : Barrier (List.replicate n '\\' ++ b) := by
  induction n with
  | zero => exact h
  | succ n ih => exact ih.slash

theorem Barrier.tagBody? (h : Barrier b) (hcs : tagBody? cs = none) :
    Markup.tagBody? (cs ++ b) = none := by
  induction cs with
  | nil => exact h.body
  | cons c cs ih =>
    rw [List.cons_append, Markup.tagBody?]
    rw [Markup.tagBody?] at hcs
    split at hcs
    · cases hcs
    · rename_i hc
      rw [if_neg hc]
      split at hcs
      · rename_i hopen
        rw [if_pos hopen]
      · rename_i hopen
        rw [if_neg hopen, ih (Option.map_eq_none_iff.mp hcs)]
        rfl

/-- What starts no tag in a text starts none with a barrier behind the text. -/
theorem Barrier.tag? (h : Barrier b) (hne : cs ≠ []) (hcs : tag? cs = none) :
    Markup.tag? (cs ++ b) = none := by
  obtain ⟨c, cs, rfl⟩ := List.exists_cons_of_ne_nil hne
  by_cases hc : c = '['
  · subst hc
    cases cs with
    | nil =>
      -- the bracket is the last character, and the barrier starts no tag with it
      cases b with
      | nil => rfl
      | cons d b =>
        show Markup.tag? ('[' :: d :: b) = none
        rw [Markup.tag?, h.start d b rfl]
        rfl
    | cons d cs =>
      show Markup.tag? ('[' :: d :: (cs ++ b)) = none
      rw [Markup.tag?] at hcs ⊢
      split at hcs
      · rename_i hstart
        rw [if_pos hstart, h.tagBody? (Option.map_eq_none_iff.mp hcs)]
        rfl
      · rename_i hstart
        rw [if_neg hstart]
  · exact tag?_of_ne hc

/-! ## Markup that is accepted -/

/-- A tag ends the plain text before it. -/
theorem piecesFrom_tag (plain : List Char) (n : Nat) (h : tag? cs = some t) :
    piecesFrom plain n cs = .plain plain.reverse :: .tag n t.1 :: piecesFrom [] 0 t.2 := by
  cases cs with
  | nil => cases h
  | cons c rest =>
    rw [piecesFrom]
    split
    · rename_i u hu
      cases h.symm.trans hu
      rfl
    · rename_i hnone
      rw [h] at hnone
      cases hnone

/-- Backslashes are kept apart until it is known whether a tag follows them. -/
theorem piecesFrom_char (plain : List Char) (n : Nat) (h : tag? (c :: rest) = none) :
    piecesFrom plain n (c :: rest) =
      if c = '\\' then piecesFrom plain (n + 1) rest
      else piecesFrom (c :: List.replicate n '\\' ++ plain) 0 rest := by
  rw [piecesFrom]
  split
  · rename_i u hu
    rw [h] at hu
    cases hu
  · rfl

/-- Markup can be shown from here on, where some styles are open and `n` backslashes were just
    read. -/
def Accepted (opened : List String) (n : Nat) (cs : List Char) : Prop :=
  ∀ plain, (shownFrom opened (piecesFrom plain n cs)).isOk = true

/-- To wrap up a result cannot fail. -/
theorem isOk_return_bind {α β : Type} {a : Except Fault α} (f : α → β) :
    (do return f (← a) : Except Fault β).isOk = a.isOk := by
  cases a <;> rfl

/-- Plain text can always be shown. -/
theorem isOk_shownFrom_plain (opened : List String) (text : List Char) (ps : List Piece) :
    (shownFrom opened (.plain text :: ps)).isOk = (shownFrom opened ps).isOk := by
  rw [shownFrom]
  exact isOk_return_bind _

theorem Accepted.nil : Accepted opened n [] := by
  intro plain
  rw [piecesFrom]
  rfl

theorem Accepted.slash (h : Accepted opened (n + 1) rest) : Accepted opened n ('\\' :: rest) := by
  intro plain
  rw [piecesFrom_char plain n (tag?_of_ne (by decide)), if_pos rfl]
  exact h plain

/-- Backslashes are counted, and do no harm. -/
theorem Accepted.slashes {k : Nat} (h : Accepted opened (n + k) rest) :
    Accepted opened n (List.replicate k '\\' ++ rest) := by
  induction k generalizing n with
  | zero => exact h
  | succ k ih =>
    rw [List.replicate_succ, List.cons_append]
    refine Accepted.slash (ih ?_)
    rwa [Nat.add_right_comm]

/-- Neither does a character with which no tag begins. -/
theorem Accepted.char (hc : c ≠ '\\') (htag : tag? (c :: rest) = none)
    (h : Accepted opened 0 rest) : Accepted opened n (c :: rest) := by
  intro plain
  rw [piecesFrom_char plain n htag, if_neg hc]
  exact h _

/-- A tag behind an odd number of backslashes is plain. -/
theorem Accepted.escapedTag (hn : n % 2 = 1) (htag : tag? cs = some t)
    (h : Accepted opened 0 t.2) : Accepted opened n cs := by
  intro plain
  rw [piecesFrom_tag plain n htag, isOk_shownFrom_plain, shownFrom, if_pos hn]
  exact (isOk_return_bind _).trans (h [])

/-- A tag behind an even number of backslashes counts. -/
theorem Accepted.appliedTag {left : List String} (hn : n % 2 = 0) (htag : tag? cs = some t)
    (happlied : applyTag t.1 opened = .ok left) (h : Accepted left 0 t.2) :
    Accepted opened n cs := by
  intro plain
  rw [piecesFrom_tag plain n htag, isOk_shownFrom_plain, shownFrom, if_neg (by omega), happlied]
  exact (isOk_return_bind _).trans (h [])

/-- Text without brackets and backslashes is plain. -/
theorem Accepted.plain (hx : ∀ c ∈ x, c ≠ '[' ∧ c ≠ '\\') (hne : x ≠ [])
    (h : Accepted opened 0 rest) : Accepted opened n (x ++ rest) := by
  induction x generalizing n with
  | nil => exact absurd rfl hne
  | cons c x ih =>
    obtain ⟨hc, hx⟩ := List.forall_mem_cons.mp hx
    refine .char hc.2 (tag?_of_ne hc.1) ?_
    cases x with
    | nil => exact h
    | cons d x => exact ih hx (List.cons_ne_nil _ _)

/-! ## Text without tags -/

/-- No tag starts in a text. -/
def Free (x : List Char) : Prop := ∀ s, s <:+ x → s ≠ [] → tag? s = none

/-- The backslashes that come last once a text is read behind `n` backslashes. -/
def trailing (n : Nat) : List Char → Nat
  | [] => n
  | c :: rest => if c = '\\' then trailing (n + 1) rest else trailing 0 rest

/-- The backslashes at the end of a text are counted from left to right. -/
theorem trailing_append (n : Nat) (x y : List Char) :
    trailing n (x ++ y) = trailing (trailing n x) y := by
  induction x generalizing n with
  | nil => rfl
  | cons c x ih =>
    rw [List.cons_append, trailing, trailing]
    split <;> exact ih _

/-- Free text in front of an accepted one is accepted, since no tag reaches over the barrier. -/
theorem Accepted.free (hb : Barrier b) (hx : Free x) (h : Accepted opened (trailing n x) b) :
    Accepted opened n (x ++ b) := by
  induction x generalizing n with
  | nil => exact h
  | cons c x ih =>
    have hx' : Free x := fun s hs => hx s (hs.trans (List.suffix_cons c x))
    have htag : Markup.tag? (c :: (x ++ b)) = none :=
      hb.tag? (List.cons_ne_nil c x) (hx _ List.suffix_rfl (List.cons_ne_nil c x))
    rw [trailing] at h
    by_cases hc : c = '\\'
    · rw [if_pos hc] at h
      subst hc
      exact .slash (ih hx' h)
    · rw [if_neg hc] at h
      exact .char hc htag (ih hx' h)

/-! ## Escaped text -/

/-- The plain text before a place where the pieces of a text are looked for: no tag starts in it
    together with what follows, and before its last backslashes there is another character. -/
structure Before (plain : List Char) (n : Nat) (cs : List Char) : Prop where
  tagless : ∀ s, s <:+ plain.reverse ++ List.replicate n '\\' → s ≠ [] → tag? (s ++ cs) = none
  last : trailing 0 plain.reverse = 0

theorem before_nil (cs : List Char) : Before [] 0 cs where
  tagless _ hs hne := absurd (List.suffix_nil.mp hs) hne
  last := rfl

/-- All that was read before the cursor is free of tags. -/
theorem Before.free {plain : List Char} (h : Before plain n cs) :
    Free (plain.reverse ++ List.replicate n '\\') := by
  intro s hs hne
  exact tag?_eq_none_of_append (h.tagless s hs hne)

theorem Before.free_plain {plain : List Char} (h : Before plain n cs) : Free plain.reverse := by
  rintro s ⟨front, hfront⟩ hne
  -- the text with its last backslashes would start with a tag too
  have hs : s ++ List.replicate n '\\' <:+ plain.reverse ++ List.replicate n '\\' :=
    ⟨front, by rw [← List.append_assoc, hfront]⟩
  exact tag?_eq_none_of_append (h.free _ hs (List.append_ne_nil_of_left_ne_nil hne _))

/-- No tag starts in a longer text either, if the next character starts none. -/
theorem tagless_concat (h : ∀ s, s <:+ x → s ≠ [] → tag? (s ++ c :: rest) = none)
    (hc : tag? (c :: rest) = none) : ∀ s, s <:+ x ++ [c] → s ≠ [] → tag? (s ++ rest) = none := by
  intro s hs hne
  obtain rfl | ⟨front, rfl, hfront⟩ := List.suffix_concat_iff.mp hs
  · exact absurd rfl hne
  · rw [List.append_assoc]
    cases front with
    | nil => exact hc
    | cons d front => exact h _ hfront (List.cons_ne_nil _ _)

theorem Before.slash {plain : List Char} (h : Before plain n ('\\' :: rest)) :
    Before plain (n + 1) rest where
  tagless := by
    rw [List.replicate_succ', ← List.append_assoc]
    exact tagless_concat h.tagless (tag?_of_ne (by decide))
  last := h.last

theorem Before.char {plain : List Char} (h : Before plain n (c :: rest)) (hc : c ≠ '\\')
    (htag : tag? (c :: rest) = none) : Before (c :: List.replicate n '\\' ++ plain) 0 rest := by
  have hreverse : (c :: List.replicate n '\\' ++ plain).reverse =
      plain.reverse ++ List.replicate n '\\' ++ [c] := by
    simp
  refine ⟨?_, ?_⟩
  · rw [hreverse, List.replicate_zero, List.append_nil]
    exact tagless_concat h.tagless htag
  · rw [hreverse, trailing_append]
    exact if_neg hc

/-- The pieces of a text with their tags made plain are accepted, by induction on the search for
    the pieces. -/
theorem accepted_pieces {plain : List Char} (hb : Barrier b) (h : ∀ k, Accepted opened k b)
    (hbefore : Before plain n cs) :
    Accepted opened 0 ((piecesFrom plain n cs).flatMap Piece.escaped ++ b) := by
  induction plain, n, cs using piecesFrom.induct with
  | case1 plain n =>
    have hreverse : (List.replicate n '\\' ++ plain).reverse =
        plain.reverse ++ List.replicate n '\\' := by
      simp
    rw [piecesFrom, List.flatMap_singleton, Piece.escaped, hreverse]
    exact .free hb hbefore.free (h _)
  | case2 plain n c rest t htag hlength ih =>
    rw [piecesFrom_tag plain n htag, List.flatMap_cons, List.flatMap_cons, Piece.escaped,
      Piece.escaped]
    simp only [List.append_assoc]
    -- the plain text, then an odd number of backslashes, then the tag
    have hbody := (tag?_eq_some_iff.mp htag).1
    have hbarrier (x : List Char) : Barrier (List.replicate (2 * n + 1) '\\' ++ '[' :: x) :=
      (barrier_bracket x).slashes _
    refine .free (hbarrier _) hbefore.free_plain ?_
    rw [hbefore.last]
    have hrest := ih (before_nil t.2)
    refine .slashes (.escapedTag (t := (t.1, _ ++ b)) (by omega) ?_ hrest)
    exact tag?_eq_some_iff.mpr ⟨hbody, by simp⟩
  | case3 plain n rest htag ih =>
    rw [piecesFrom_char plain n htag, if_pos rfl]
    exact ih hbefore.slash
  | case4 plain n c rest htag hc ih =>
    rw [piecesFrom_char plain n htag, if_neg hc]
    exact ih (hbefore.char hc htag)

/-- Escaped text is accepted wherever what comes after it is. -/
theorem accepted_escape (cs : List Char) (hb : Barrier b) (h : ∀ k, Accepted opened k b) :
    Accepted opened 0 (escape cs ++ b) := by
  have hpieces : Accepted opened 0 ((pieces cs).flatMap Piece.escaped ++ b) :=
    accepted_pieces hb h (before_nil cs)
  have hslash : Accepted opened 0 ((pieces cs).flatMap Piece.escaped ++ '\\' :: b) :=
    accepted_pieces hb.slash (fun k => .slash (h (k + 1))) (before_nil cs)
  unfold escape
  dsimp only
  split
  · rw [List.append_assoc]
    exact hslash
  · split
    · exact hpieces
    · rw [List.append_assoc]
      exact hslash
  · exact hpieces

end Muffle.Console.Markup
