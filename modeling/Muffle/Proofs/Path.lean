/-
  Muffle.Proofs.Path

  Paths and their texts, and normalized paths. A path whose components can stand between slashes
  is read back from its text. An absolute path that is normalized holds no component `..`, so
  normalizing it again changes nothing, and what lies below a directory is appended to it as it
  stands.
-/

import Muffle.Path

namespace Muffle

/-! ## Pieces between separators -/

namespace Text

theorem splitAtChar_ne_nil (sep : Char) (cs : List Char) : splitAtChar sep cs ≠ [] := by
  cases cs with
  | nil => exact List.cons_ne_nil _ _
  | cons c rest =>
    rw [splitAtChar]
    split
    · exact List.cons_ne_nil _ _
    · split <;> exact List.cons_ne_nil _ _

theorem splitAtChar_sep (sep : Char) (rest : List Char) :
    splitAtChar sep (sep :: rest) = [] :: splitAtChar sep rest := by
  rw [splitAtChar]
  split
  · rename_i h
    exact absurd h (splitAtChar_ne_nil sep rest)
  · rename_i piece pieces h
    rw [if_pos rfl, h]

/-- The first separator ends the first piece. -/
theorem splitAtChar_append_sep {sep : Char} {piece : List Char} (hpiece : sep ∉ piece)
    (rest : List Char) :
    splitAtChar sep (piece ++ sep :: rest) = piece :: splitAtChar sep rest := by
  induction piece with
  | nil => exact splitAtChar_sep sep rest
  | cons c cs ih =>
    rw [List.mem_cons, not_or] at hpiece
    rw [List.cons_append, splitAtChar, ih hpiece.2]
    exact if_neg (Ne.symm hpiece.1)

theorem splitAtChar_of_notMem {sep : Char} {piece : List Char} (hpiece : sep ∉ piece) :
    splitAtChar sep piece = [piece] := by
  induction piece with
  | nil => rfl
  | cons c cs ih =>
    rw [List.mem_cons, not_or] at hpiece
    rw [splitAtChar, ih hpiece.2]
    exact if_neg (Ne.symm hpiece.1)

/-- Pieces without separators are what lies between the separators that join them. -/
theorem splitAtChar_intercalate {sep : Char} {pieces : List (List Char)} (hne : pieces ≠ [])
    (hpieces : ∀ piece ∈ pieces, sep ∉ piece) :
    splitAtChar sep ([sep].intercalate pieces) = pieces := by
  induction pieces with
  | nil => exact absurd rfl hne
  | cons piece pieces ih =>
    have hpiece := hpieces piece List.mem_cons_self
    cases pieces with
    | nil => rw [List.intercalate_singleton, splitAtChar_of_notMem hpiece]
    | cons next pieces =>
      rw [List.intercalate_cons_cons, List.append_assoc, List.singleton_append,
        splitAtChar_append_sep hpiece,
        ih (List.cons_ne_nil _ _) fun p hp => hpieces p (List.mem_cons_of_mem _ hp)]

/-- What lies between the separators of a text makes up the text again. -/
theorem intercalate_splitAtChar (sep : Char) (cs : List Char) :
    [sep].intercalate (splitAtChar sep cs) = cs := by
  induction cs with
  | nil => rfl
  | cons c rest ih =>
    obtain ⟨piece, pieces, hsplit⟩ := List.exists_cons_of_ne_nil (splitAtChar_ne_nil sep rest)
    by_cases hc : c = sep
    · rw [hc, splitAtChar_sep, hsplit, List.intercalate_cons_cons, ← hsplit, ih]
      rfl
    · rw [hsplit] at ih
      rw [splitAtChar, hsplit]
      dsimp only
      rw [if_neg hc]
      cases pieces with
      | nil =>
        rw [List.intercalate_singleton] at ih ⊢
        rw [ih]
      | cons next pieces =>
        rw [List.intercalate_cons_cons] at ih ⊢
        rw [List.cons_append, List.cons_append, ih]

theorem notMem_of_mem_splitAtChar {sep : Char} {piece cs : List Char}
    (h : piece ∈ splitAtChar sep cs) : sep ∉ piece := by
  induction cs generalizing piece with
  | nil =>
    rw [splitAtChar, List.mem_singleton] at h
    rw [h]
    exact List.not_mem_nil
  | cons c rest ih =>
    -- a separator begins a new piece, any other character joins the first one
    by_cases hc : c = sep
    · rw [hc, splitAtChar_sep, List.mem_cons] at h
      rcases h with rfl | h
      · exact List.not_mem_nil
      · exact ih h
    · rw [splitAtChar] at h
      split at h
      · rename_i hnil
        exact absurd hnil (splitAtChar_ne_nil sep rest)
      · rename_i first pieces hsplit
        rw [if_neg hc, List.mem_cons] at h
        rw [hsplit] at ih
        rcases h with rfl | h
        · rw [List.mem_cons, not_or]
          exact ⟨Ne.symm hc, ih List.mem_cons_self⟩
        · exact ih (List.mem_cons_of_mem _ h)

end Text

namespace Path

/-! ## Components -/

/-- A component that can stand between slashes: it is not empty, not `.`, and holds no slash. -/
def IsComponent (part : String) : Prop := part ≠ "" ∧ part ≠ "." ∧ '/' ∉ part.toList

/-- All components can stand between slashes, as in every path that a text names. -/
def Proper (p : Path) : Prop := ∀ part ∈ p.parts, IsComponent part

/-- What is read from a text has no empty components and no dots. -/
theorem proper_ofText (s : String) : (ofText s).Proper := by
  intro part hpart
  obtain ⟨piece, hpiece, rfl⟩ := List.mem_map.mp hpart
  obtain ⟨hsplit, hkept⟩ := List.mem_filter.mp hpiece
  simp only [Bool.and_eq_true, bne_iff_ne, ne_eq] at hkept
  refine ⟨fun h => hkept.1 ?_, fun h => hkept.2 ?_, ?_⟩
  · rw [← String.toList_ofList (l := piece), h]
    rfl
  · rw [← String.toList_ofList (l := piece), h]
    rfl
  · rw [String.toList_ofList]
    exact Text.notMem_of_mem_splitAtChar hsplit

theorem Proper.join {base p : Path} (hbase : base.Proper) (hp : p.Proper) :
    (base.join p).Proper := by
  rw [Path.join]
  split
  · exact hp
  · intro part hpart
    exact (List.mem_append.mp hpart).elim (hbase part) (hp part)

/-! ## Reading a text back -/

theorem partsOf_slash (cs : List Char) : partsOf ('/' :: cs) = partsOf cs := by
  rw [partsOf, Text.splitAtChar_sep]
  rfl

/-- Components that are joined by slashes are read back. -/
theorem partsOf_intercalate {parts : List String} (hparts : ∀ part ∈ parts, IsComponent part) :
    partsOf (['/'].intercalate (parts.map String.toList)) = parts := by
  by_cases hne : parts = []
  · rw [hne]
    rfl
  have hsplit : Text.splitAtChar '/' (['/'].intercalate (parts.map String.toList)) =
      parts.map String.toList := by
    refine Text.splitAtChar_intercalate (fun h => hne (List.map_eq_nil_iff.mp h)) ?_
    intro piece hpiece
    obtain ⟨part, hpart, rfl⟩ := List.mem_map.mp hpiece
    exact (hparts part hpart).2.2
  have hkeep : (parts.map String.toList).filter (fun p => p != [] && p != ['.']) =
      parts.map String.toList := by
    rw [List.filter_eq_self]
    intro piece hpiece
    obtain ⟨part, hpart, rfl⟩ := List.mem_map.mp hpiece
    obtain ⟨hempty, hdot, -⟩ := hparts part hpart
    rw [Bool.and_eq_true, bne_iff_ne, bne_iff_ne]
    exact ⟨fun h => hempty (String.toList_injective h), fun h => hdot (String.toList_injective h)⟩
  rw [partsOf, hsplit, hkeep, List.map_map]
  exact (List.map_congr_left fun part _ => String.ofList_toList).trans (List.map_id parts)

/-- The components of a proper path do not start with a slash, so its root stays apart. -/
theorem takeWhile_intercalate {parts : List String} (hparts : ∀ part ∈ parts, IsComponent part) :
    (['/'].intercalate (parts.map String.toList)).takeWhile (· == '/') = [] := by
  cases parts with
  | nil => rfl
  | cons part parts =>
    obtain ⟨hempty, -, hslash⟩ := hparts part List.mem_cons_self
    obtain ⟨c, cs, hpart⟩ := List.exists_cons_of_ne_nil
      (fun h : part.toList = [] => hempty (String.toList_injective h))
    rw [hpart, List.mem_cons, not_or] at hslash
    have hfirst : ∃ rest, ['/'].intercalate ((part :: parts).map String.toList) = c :: rest := by
      rw [List.map_cons, hpart]
      cases parts with
      | nil => exact ⟨cs, List.intercalate_singleton⟩
      | cons next parts => exact ⟨_, List.intercalate_cons_cons⟩
    obtain ⟨rest, hrest⟩ := hfirst
    rw [hrest, List.takeWhile_cons_of_neg (by rw [beq_iff_eq]; exact Ne.symm hslash.1)]

/-- A proper path is read back from its text. -/
theorem ofText_text {p : Path} (hp : p.Proper) : ofText p.text = p := by
  obtain ⟨root, parts⟩ := p
  have hjoined : ("/".intercalate parts).toList = ['/'].intercalate (parts.map String.toList) :=
    String.toList_intercalate
  have hstart := takeWhile_intercalate hp
  rw [text]
  split
  · rename_i h
    obtain ⟨rfl, rfl⟩ := h
    -- the text of a relative path without components is a dot, which names none
    decide +kernel
  · rw [ofText, String.toList_append, hjoined]
    -- the slashes of the root are counted apart, and between slashes there is no component
    cases root with
    | relative =>
      rw [Root.text, String.toList_empty, List.nil_append, rootOf, hstart, partsOf_intercalate hp]
      rfl
    | single =>
      have htext : Root.single.text.toList = ['/'] := rfl
      rw [htext, List.singleton_append, rootOf, List.takeWhile_cons_of_pos rfl, hstart,
        partsOf_slash, partsOf_intercalate hp]
      rfl
    | double =>
      have htext : Root.double.text.toList = ['/', '/'] := rfl
      rw [htext, List.cons_append, List.singleton_append, rootOf, List.takeWhile_cons_of_pos rfl,
        List.takeWhile_cons_of_pos rfl, hstart, partsOf_slash, partsOf_slash,
        partsOf_intercalate hp]
      rfl

/-! ## Normalized paths -/

theorem collapse_of_ne {absolute : Bool} {reversed : List String} {part : String}
    (h : part ≠ "..") : collapse absolute reversed part = part :: reversed := if_neg h

/-- Without a step up nothing collapses. -/
theorem foldl_collapse_of_notMem {absolute : Bool} {parts : List String} (h : ".." ∉ parts)
    (reversed : List String) :
    parts.foldl (collapse absolute) reversed = parts.reverse ++ reversed := by
  induction parts generalizing reversed with
  | nil => rfl
  | cons part parts ih =>
    rw [List.mem_cons, not_or] at h
    rw [List.foldl_cons, collapse_of_ne (Ne.symm h.1), ih h.2, List.reverse_cons, List.append_assoc,
      List.singleton_append]

/-- One component at a root adds itself, unless it is `..`, and brings back nothing. -/
theorem mem_collapse {reversed : List String} {first part : String} (hreversed : ".." ∉ reversed)
    (h : part ∈ collapse true reversed first) :
    part ≠ ".." ∧ (part ∈ reversed ∨ part = first) := by
  rw [collapse.eq_def] at h
  split at h
  · split at h
    · exact absurd h List.not_mem_nil
    · -- the last component is no `..`, so it is taken away
      rename_i last rest
      rw [List.mem_cons, not_or] at hreversed
      rw [if_neg (Ne.symm hreversed.1)] at h
      exact ⟨fun hdots => hreversed.2 (hdots ▸ h), .inl (List.mem_cons_of_mem _ h)⟩
  · rename_i hne
    rcases List.mem_cons.mp h with rfl | h
    · exact ⟨hne, .inr rfl⟩
    · exact ⟨fun hdots => hreversed (hdots ▸ h), .inl h⟩

/-- At a root, what remains are components that were there, without `..`. -/
theorem mem_foldl_collapse {parts reversed : List String} {part : String}
    (hreversed : ".." ∉ reversed) (h : part ∈ parts.foldl (collapse true) reversed) :
    part ≠ ".." ∧ (part ∈ reversed ∨ part ∈ parts) := by
  induction parts generalizing reversed with
  | nil => exact ⟨fun hpart => hreversed (hpart ▸ h), .inl h⟩
  | cons first parts ih =>
    obtain ⟨hne, hmem⟩ := ih (fun hdots => (mem_collapse hreversed hdots).1 rfl) h
    refine ⟨hne, ?_⟩
    rcases hmem with hmem | hmem
    · rcases (mem_collapse hreversed hmem).2 with hmem | rfl
      · exact .inl hmem
      · exact .inr List.mem_cons_self
    · exact .inr (List.mem_cons_of_mem _ hmem)

/-- An absolute path without components `..`. -/
structure Canonical (p : Path) : Prop where
  isAbsolute : p.isAbsolute = true
  straight : ".." ∉ p.parts

theorem mem_normalize {p : Path} {part : String} (hp : p.isAbsolute = true)
    (h : part ∈ p.normalize.parts) : part ≠ ".." ∧ part ∈ p.parts := by
  rw [normalize, hp] at h
  have hpart := mem_foldl_collapse List.not_mem_nil (List.mem_reverse.mp h)
  exact ⟨hpart.1, hpart.2.resolve_left List.not_mem_nil⟩

/-- To normalize an absolute path removes all steps up. -/
theorem canonical_normalize {p : Path} (hp : p.isAbsolute = true) : p.normalize.Canonical :=
  ⟨hp, fun h => (mem_normalize hp h).1 rfl⟩

theorem Proper.normalize {p : Path} (habsolute : p.isAbsolute = true) (hp : p.Proper) :
    p.normalize.Proper := fun part hpart => hp part (mem_normalize habsolute hpart).2

theorem Canonical.normalize_eq {p : Path} (hp : p.Canonical) : p.normalize = p := by
  rw [normalize, foldl_collapse_of_notMem hp.straight, List.append_nil, List.reverse_reverse]

/-- Components other than `..` stay as they are behind what is normalized. -/
theorem normalize_append {root : Root} {parts rest : List String} (h : ".." ∉ rest) :
    normalize ⟨root, parts ++ rest⟩ =
      ⟨root, (normalize ⟨root, parts⟩).parts ++ rest⟩ := by
  simp only [normalize, isAbsolute, List.foldl_append, foldl_collapse_of_notMem h,
    List.reverse_append, List.reverse_reverse]

/-! ## Joining -/

theorem join_of_isAbsolute {base p : Path} (hp : p.isAbsolute = true) : base.join p = p :=
  if_pos hp

theorem join_of_not_isAbsolute {base p : Path} (hp : ¬p.isAbsolute = true) :
    base.join p = ⟨base.root, base.parts ++ p.parts⟩ := if_neg hp

theorem join_relative (base : Path) (parts : List String) :
    base.join ⟨.relative, parts⟩ = ⟨base.root, base.parts ++ parts⟩ := rfl

theorem isAbsolute_join {base : Path} (hbase : base.isAbsolute = true) (p : Path) :
    (base.join p).isAbsolute = true := by
  rw [join]
  split
  · assumption
  · exact hbase

theorem join_join_relative (base p : Path) (parts : List String) :
    base.join (p.join ⟨.relative, parts⟩) =
      ⟨(base.join p).root, (base.join p).parts ++ parts⟩ := by
  by_cases hp : p.isAbsolute = true
  · rw [join_of_isAbsolute hp, join_of_isAbsolute (isAbsolute_join hp _), join_relative]
  · have hroot : ¬(p.join ⟨.relative, parts⟩).isAbsolute = true := hp
    rw [join_of_not_isAbsolute hroot, join_of_not_isAbsolute hp, join_relative, List.append_assoc]

/-- A canonical path resolves to itself from anywhere. -/
theorem Canonical.resolve_eq {base p : Path} (hp : p.Canonical) : base.resolve p = p := by
  rw [resolve, join_of_isAbsolute hp.isAbsolute, hp.normalize_eq]

/-! ## Containment -/

/-- A path within a directory is the directory and the part below. -/
theorem eq_append_of_isWithin {p dir : Path} (h : p.isWithin dir = true) :
    p = ⟨dir.root, dir.parts ++ (p.below dir).parts⟩ := by
  rw [isWithin, Bool.and_eq_true, beq_iff_eq, List.isPrefixOf_iff_prefix] at h
  obtain ⟨hroot, hparts⟩ := h
  have hbelow : dir.parts ++ (p.below dir).parts = p.parts := List.prefix_iff_eq_append.mp hparts
  rw [hbelow, ← hroot]

theorem proper_below {p : Path} (hp : p.Proper) (dir : Path) : (p.below dir).Proper :=
  fun part hpart => hp part (List.mem_of_mem_drop hpart)

theorem Canonical.straight_below {p : Path} (hp : p.Canonical) (dir : Path) :
    ".." ∉ (p.below dir).parts := fun h => hp.straight (List.mem_of_mem_drop h)

end Path

end Muffle
