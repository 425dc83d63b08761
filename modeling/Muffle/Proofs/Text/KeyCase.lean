/-
  Muffle.Proofs.Text.KeyCase

  The two spellings of a key as two grammars. A key in snake case is some words of small letters
  with an underscore between each two of them; in camel case the words after the first one start
  with a capital instead. Both conversions go word by word, and a word and the group of letters
  that it becomes determine each other, so the conversions are inverse to each other.
-/

import Mathlib.Data.Set.Function
import Muffle.Config.Mapping
import Muffle.Proofs.Path

namespace Muffle.Text

variable {c : Char} {cs w g : List Char} {ws gs : List (List Char)}

/-! ## Characters below 128 -/

/-- What holds of the 128 ASCII characters can be checked one by one. -/
theorem forall_ascii {P : Char → Prop} (h : ∀ n < 128, P (Char.ofNat n)) (hc : c.toNat < 128) :
    P c :=
  Char.ofNat_toNat c ▸ h c.toNat hc

theorem ascii_of_isLower (h : c.isLower = true) : c.toNat < 128 := by
  have hletter : (decide (c.val ≥ 'a'.val) && decide (c.val ≤ 'z'.val)) = true := h
  rw [Bool.and_eq_true, decide_eq_true_iff, decide_eq_true_iff] at hletter
  exact lt_of_le_of_lt (UInt32.le_iff_toNat_le.mp hletter.2) (by decide)

theorem ascii_of_isUpper (h : c.isUpper = true) : c.toNat < 128 := by
  have hletter : c.val ≥ 'A'.val ∧ c.val ≤ 'Z'.val := of_decide_eq_true h
  exact lt_of_le_of_lt (UInt32.le_iff_toNat_le.mp hletter.2) (by decide)

theorem isUpper_eq (h : c.toNat < 128) : isUpper c = c.isUpper := if_pos h

/-- For ASCII characters the lower case does not depend on what stands around them. -/
theorem lowerWithin_eq (h : c.toNat < 128) (before after : List Char) :
    lowerWithin before c after = [c.toLower] := by
  have hsigma : c ≠ 'Σ' := by
    rintro rfl
    exact absurd h (by decide)
  rw [lowerWithin, if_neg hsigma, lowerChars, if_pos h]

theorem isUpper_of_isLower (h : c.isLower = true) : isUpper c = false := by
  have hletter : c.isLower = true → c.isUpper = false :=
    forall_ascii (P := fun c => c.isLower = true → c.isUpper = false) (by decide)
      (ascii_of_isLower h)
  rw [isUpper_eq (ascii_of_isLower h), hletter h]

theorem isCased_of_isLower (h : c.isLower = true) : isCased c = true := by
  have hlower : isLower c = true := (if_pos (ascii_of_isLower h)).trans h
  rw [isCased, hlower, Bool.or_true, Bool.true_or]

theorem toLower_of_isLower (h : c.isLower = true) : c.toLower = c :=
  forall_ascii (P := fun c => c.isLower = true → c.toLower = c) (by decide)
    (ascii_of_isLower h) h

/-- A small letter and its capital determine each other. -/
theorem toUpper_of_isLower (h : c.isLower = true) :
    c.toUpper.isUpper = true ∧ c.toUpper.toLower = c :=
  forall_ascii (P := fun c => c.isLower = true → c.toUpper.isUpper = true ∧ c.toUpper.toLower = c)
    (by decide) (ascii_of_isLower h) h

theorem toLower_of_isUpper (h : c.isUpper = true) :
    c.toLower.isLower = true ∧ c.toLower.toUpper = c :=
  forall_ascii (P := fun c => c.isUpper = true → c.toLower.isLower = true ∧ c.toLower.toUpper = c)
    (by decide) (ascii_of_isUpper h) h

/-! ## Words and groups -/

/-- One or more letters from a to z. -/
inductive IsWord : List Char → Prop
  | letters {c : Char} {cs : List Char} (hc : c.isLower = true)
      (hcs : ∀ d ∈ cs, d.isLower = true) : IsWord (c :: cs)

/-- A letter from A to Z and any number of letters from a to z. -/
inductive IsGroup : List Char → Prop
  | letters {c : Char} {cs : List Char} (hc : c.isUpper = true)
      (hcs : ∀ d ∈ cs, d.isLower = true) : IsGroup (c :: cs)

/-- A word with a capital. -/
def raise (w : List Char) : List Char := w.modifyHead Char.toUpper

/-- A group with a small letter in the place of its capital. -/
def sink (g : List Char) : List Char := g.modifyHead Char.toLower

/-- A word with a capital is a group. -/
theorem IsWord.raise (h : IsWord w) : IsGroup (raise w) := by
  cases h with
  | letters hc hcs => exact .letters (toUpper_of_isLower hc).1 hcs

theorem IsGroup.sink (h : IsGroup g) : IsWord (sink g) := by
  cases h with
  | letters hc hcs => exact .letters (toLower_of_isUpper hc).1 hcs

/-- To raise a word and sink it again gives the word. -/
theorem IsWord.sink_raise (h : IsWord w) : Text.sink (Text.raise w) = w := by
  cases h with
  | letters hc hcs => exact congrArg (· :: _) (toUpper_of_isLower hc).2

theorem IsGroup.raise_sink (h : IsGroup g) : Text.raise (Text.sink g) = g := by
  cases h with
  | letters hc hcs => exact congrArg (· :: _) (toLower_of_isUpper hc).2

theorem IsWord.isLower (h : IsWord w) : ∀ d ∈ w, d.isLower = true := by
  cases h with
  | letters hc hcs => exact List.forall_mem_cons.mpr ⟨hc, hcs⟩

theorem IsWord.underscore_notMem (h : IsWord w) : '_' ∉ w := fun hmem =>
  absurd (h.isLower _ hmem) (by decide)

/-! ## The conversion of one word -/

/-- Behind a letter small letters stay as they are. -/
theorem titleFrom_of_isLower {p : Char} (hp : isCased p = true) (before : List Char)
    (hcs : ∀ d ∈ cs, d.isLower = true) : titleFrom (p :: before) cs = cs := by
  induction cs generalizing p before with
  | nil => rfl
  | cons d rest ih =>
    obtain ⟨hd, hrest⟩ := List.forall_mem_cons.mp hcs
    simp only [titleFrom, hp, Bool.not_true, Bool.false_eq_true, if_false,
      lowerWithin_eq (ascii_of_isLower hd), toLower_of_isLower hd,
      ih (isCased_of_isLower hd) _ hrest, List.singleton_append]

/-- The title case of a lower-case word changes its first letter only. -/
theorem IsWord.title_eq (h : IsWord w) : title w = Text.raise w := by
  cases h with
  | letters hc hcs =>
    rw [title, titleFrom, titleFrom_of_isLower (isCased_of_isLower hc) _ hcs, titleChars,
      if_pos (ascii_of_isLower hc)]
    rfl

/-- Characters that are no capitals stay as they are. -/
theorem flatMap_snakeChar_eq_self (hcs : ∀ d ∈ cs, isUpper d = false) :
    cs.flatMap snakeChar = cs := by
  have hchar : ∀ d ∈ cs, snakeChar d = [d] := fun d hd => by
    rw [snakeChar, hcs d hd, if_neg Bool.false_ne_true]
  rw [List.flatMap_def, List.map_congr_left hchar, ← List.flatMap_def, List.flatMap_singleton']

theorem IsGroup.flatMap_snakeChar (h : IsGroup g) :
    g.flatMap snakeChar = '_' :: Text.sink g := by
  cases h with
  | letters hc hcs =>
    have hascii := ascii_of_isUpper hc
    rw [List.flatMap_cons, snakeChar, isUpper_eq hascii, if_pos hc, lowerWithin_eq hascii,
      flatMap_snakeChar_eq_self fun d hd => isUpper_of_isLower (hcs d hd)]
    rfl

theorem flatMap_snakeChar_groups (hgs : ∀ g ∈ gs, IsGroup g) :
    gs.flatten.flatMap snakeChar = (gs.map sink).flatMap ('_' :: ·) := by
  induction gs with
  | nil => rfl
  | cons g rest ih =>
    obtain ⟨hg, hrest⟩ := List.forall_mem_cons.mp hgs
    rw [List.flatten_cons, List.flatMap_append, hg.flatMap_snakeChar, ih hrest, List.map_cons,
      List.flatMap_cons]

/-! ## Identifiers -/

/-- One or more words, with an underscore between each two of them. -/
inductive IsSnake : List Char → Prop
  | words {w : List Char} {ws : List (List Char)} (hws : ∀ v ∈ w :: ws, IsWord v) :
      IsSnake (['_'].intercalate (w :: ws))

/-- A word and any number of groups. -/
inductive IsCamel : List Char → Prop
  | groups {w : List Char} {gs : List (List Char)} (hw : IsWord w)
      (hgs : ∀ g ∈ gs, IsGroup g) : IsCamel (w ++ gs.flatten)

/-- What is joined by separators is a first piece, and separators with pieces behind them. -/
theorem intercalate_eq_append_flatMap (sep : Char) (w : List Char) (ws : List (List Char)) :
    [sep].intercalate (w :: ws) = w ++ ws.flatMap (sep :: ·) := by
  induction ws generalizing w with
  | nil => rw [List.intercalate_singleton, List.flatMap_nil, List.append_nil]
  | cons v rest ih =>
    rw [List.intercalate_cons_cons, ih, List.flatMap_cons, List.append_assoc,
      List.singleton_append, List.cons_append]

/-- Words after the first one are raised and joined. -/
theorem camelCase_words (hws : ∀ v ∈ w :: ws, IsWord v) :
    camelCase (['_'].intercalate (w :: ws)) = w ++ (ws.map raise).flatten := by
  have hsplit : splitAtChar '_' (['_'].intercalate (w :: ws)) = w :: ws :=
    splitAtChar_intercalate (List.cons_ne_nil w ws) fun v hv => (hws v hv).underscore_notMem
  have htitle : ∀ v ∈ ws, title v = raise v :=
    fun v hv => (hws v (List.mem_cons_of_mem w hv)).title_eq
  rw [camelCase, hsplit]
  dsimp only
  rw [List.flatMap_def, List.map_congr_left htitle]

/-- Groups are sunk and joined by underscores. -/
theorem snakeCase_groups (hw : IsWord w) (hgs : ∀ g ∈ gs, IsGroup g) :
    snakeCase (w ++ gs.flatten) = ['_'].intercalate (w :: gs.map sink) := by
  cases hw with
  | letters hc hcs =>
    rw [List.cons_append, snakeCase, List.flatMap_append,
      flatMap_snakeChar_eq_self fun d hd => isUpper_of_isLower (hcs d hd),
      flatMap_snakeChar_groups hgs, lowerWithin_eq (ascii_of_isLower hc), toLower_of_isLower hc,
      intercalate_eq_append_flatMap]
    rfl

theorem map_sink_raise (hws : ∀ v ∈ ws, IsWord v) : (ws.map raise).map sink = ws := by
  rw [List.map_map]
  exact (List.map_congr_left fun v hv => (hws v hv).sink_raise).trans (List.map_id ws)

theorem map_raise_sink (hgs : ∀ g ∈ gs, IsGroup g) : (gs.map sink).map raise = gs := by
  rw [List.map_map]
  exact (List.map_congr_left fun g hg => (hgs g hg).raise_sink).trans (List.map_id gs)

/-- The camel case of an identifier in snake case is one in camel case, and its snake case is the
    identifier again. -/
theorem IsSnake.camelCase (h : IsSnake cs) :
    IsCamel (camelCase cs) ∧ snakeCase (Text.camelCase cs) = cs := by
  cases h with
  | words hws =>
    obtain ⟨hw, hrest⟩ := List.forall_mem_cons.mp hws
    have hgroups : ∀ g ∈ _, IsGroup g :=
      List.forall_mem_map.mpr fun v hv => (hrest v hv).raise
    rw [camelCase_words hws, snakeCase_groups hw hgroups, map_sink_raise hrest]
    exact ⟨.groups hw hgroups, rfl⟩

/-- One direction and back; the other is `IsSnake.camelCase`. -/
theorem IsCamel.snakeCase (h : IsCamel cs) :
    IsSnake (snakeCase cs) ∧ camelCase (Text.snakeCase cs) = cs := by
  cases h with
  | groups hw hgs =>
    have hwords : ∀ v ∈ _ :: _, IsWord v := List.forall_mem_cons.mpr
      ⟨hw, List.forall_mem_map.mpr fun g hg => (hgs g hg).sink⟩
    rw [snakeCase_groups hw hgs, camelCase_words hwords, map_raise_sink hgs]
    exact ⟨.words hwords, rfl⟩

/-! ## Texts in snake case -/

/-- Below 128 the snake case of a text has no capitals. -/
theorem mem_snakeCase (hcs : ∀ d ∈ cs, d.toNat < 128) :
    ∀ d ∈ snakeCase cs, d.toNat < 128 ∧ d.isUpper = false := by
  have hlower : ∀ {d : Char}, d.toNat < 128 → d.toLower.toNat < 128 ∧ d.toLower.isUpper = false :=
    fun hd => forall_ascii (P := fun d => d.toLower.toNat < 128 ∧ d.toLower.isUpper = false)
      (by decide) hd
  have hchar : ∀ d ∈ cs, ∀ e ∈ snakeChar d, e.toNat < 128 ∧ e.isUpper = false := by
    intro d hd
    have hascii := hcs d hd
    rw [snakeChar, lowerWithin_eq hascii, isUpper_eq hascii]
    cases hupper : d.isUpper with
    | true =>
      exact List.forall_mem_cons.mpr
        ⟨by decide, List.forall_mem_singleton.mpr (hlower hascii)⟩
    | false => exact List.forall_mem_singleton.mpr ⟨hascii, hupper⟩
  -- the first character is lowered on its own, without an underscore
  cases cs with
  | nil => exact nofun
  | cons c rest =>
    obtain ⟨hc, -⟩ := List.forall_mem_cons.mp hcs
    obtain ⟨-, hrest⟩ := List.forall_mem_cons.mp hchar
    rw [snakeCase, lowerWithin_eq hc]
    refine List.forall_mem_append.mpr ⟨List.forall_mem_singleton.mpr (hlower hc), ?_⟩
    exact List.forall_mem_flatMap.mpr hrest

/-- Without capitals there is nothing to respell. -/
theorem snakeCase_eq_self (hcs : ∀ d ∈ cs, d.toNat < 128 ∧ d.isUpper = false) :
    snakeCase cs = cs := by
  cases cs with
  | nil => rfl
  | cons c rest =>
    obtain ⟨⟨hascii, hc⟩, hrest⟩ := List.forall_mem_cons.mp hcs
    have hsame : c.toLower = c :=
      forall_ascii (P := fun c => c.isUpper = false → c.toLower = c) (by decide) hascii hc
    rw [snakeCase, lowerWithin_eq hascii, hsame, flatMap_snakeChar_eq_self fun d hd =>
      (isUpper_eq (hrest d hd).1).trans (hrest d hd).2]
    rfl

theorem IsWord.plain (h : IsWord w) : ∀ d ∈ w, d.toNat < 128 ∧ d.isUpper = false := by
  intro d hd
  have hlower := h.isLower d hd
  have hascii := ascii_of_isLower hlower
  exact ⟨hascii, (isUpper_eq hascii).symm.trans (isUpper_of_isLower hlower)⟩

theorem IsSnake.snakeCase_eq (h : IsSnake cs) : snakeCase cs = cs := by
  refine snakeCase_eq_self ?_
  cases h with
  | words hws =>
    obtain ⟨hw, hrest⟩ := List.forall_mem_cons.mp hws
    rw [intercalate_eq_append_flatMap]
    refine List.forall_mem_append.mpr ⟨hw.plain, List.forall_mem_flatMap.mpr fun v hv => ?_⟩
    exact List.forall_mem_cons.mpr ⟨by decide, (hrest v hv).plain⟩

/-! ## Both spellings -/

/-- The conversions are inverse to each other between the identifiers in snake case and those in
    camel case, all of which they reach. The snake case of a text with characters below 128 is in
    snake case. So a key in a configuration names what its snake case names, in either spelling. -/
theorem bijOn_keyCase :
    Set.BijOn camelCase {cs | IsSnake cs} {cs | IsCamel cs} ∧
      Set.BijOn snakeCase {cs | IsCamel cs} {cs | IsSnake cs} ∧
      Set.InvOn snakeCase camelCase {cs | IsSnake cs} {cs | IsCamel cs} ∧
      (∀ cs : List Char, (∀ c ∈ cs, c.toNat < 128) →
        snakeCase (snakeCase cs) = snakeCase cs) ∧
      ∀ cs, IsSnake cs →
        Config.snakeKey (.str (String.ofList cs)) = .ok (.str (String.ofList cs)) ∧
        Config.snakeKey (.str (String.ofList (camelCase cs))) = .ok (.str (String.ofList cs)) := by
  have hcamel : Set.MapsTo camelCase {cs | IsSnake cs} {cs | IsCamel cs} :=
    fun _ h => h.camelCase.1
  have hsnake : Set.MapsTo snakeCase {cs | IsCamel cs} {cs | IsSnake cs} :=
    fun _ h => h.snakeCase.1
  have hinv : Set.InvOn snakeCase camelCase {cs | IsSnake cs} {cs | IsCamel cs} :=
    ⟨fun _ h => h.camelCase.2, fun _ h => h.snakeCase.2⟩
  refine ⟨hinv.bijOn hcamel hsnake, hinv.symm.bijOn hsnake hcamel, hinv,
    fun cs hcs => snakeCase_eq_self (mem_snakeCase hcs), fun cs hcs => ?_⟩
  rw [Config.snakeKey, Config.snakeKey, String.toList_ofList, String.toList_ofList,
    hcs.snakeCase_eq, hcs.camelCase.2]
  exact ⟨rfl, rfl⟩

/-- Words of one letter make a run of capitals, and come back. -/
theorem bijOn_keyCase_letters :
    let snake := "in_a_bc".toList
    let camel := "inABc".toList
    IsSnake snake ∧ camelCase snake = camel ∧ IsCamel camel ∧ snakeCase camel = snake ∧
      snakeCase (snakeCase "_A__b".toList) = snakeCase "_A__b".toList ∧
      Config.snakeKey (.str (String.ofList camel)) = .ok (.str (String.ofList snake)) := by
  intro snake camel
  have hwords : ∀ v ∈ [['i', 'n'], ['a'], ['b', 'c']], IsWord v := by
    simp only [List.forall_mem_cons]
    exact ⟨.letters rfl (List.forall_mem_singleton.mpr rfl), .letters rfl (List.forall_mem_nil _),
      .letters rfl (List.forall_mem_singleton.mpr rfl), nofun⟩
  have hsnake : IsSnake snake := .words hwords
  obtain ⟨hto, -, hinv, hidempotent, hkey⟩ := bijOn_keyCase
  have hcamel : camelCase snake = camel := by
    rw [show snake = ['_'].intercalate [['i', 'n'], ['a'], ['b', 'c']] from rfl,
      camelCase_words hwords]
    rfl
  have hascii : ("_A__b".toList.all fun c => decide (c.toNat < 128)) = true := rfl
  exact ⟨hsnake, hcamel, hcamel ▸ hto.mapsTo hsnake, hcamel ▸ hinv.1 hsnake,
    hidempotent _ fun c hc => of_decide_eq_true (List.all_eq_true.mp hascii c hc),
    hcamel ▸ (hkey snake hsnake).2⟩

end Muffle.Text
