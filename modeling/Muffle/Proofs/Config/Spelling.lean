/-
  Muffle.Proofs.Config.Spelling

  One configuration in several spellings. Lists of texts and the switch for unused directives can
  be handed over as the options of a host, as a mapping with lists, as a mapping with semicolons
  between the texts, and as they are. Each spelling ends at the same raw values, so the results
  are the same, and so are the faults.
-/

import Mathlib.Data.List.TakeWhile
import Muffle.Pattern.Standard
import Muffle.Proofs.Config.Plain
import Muffle.Proofs.Config.SavedFields
import Muffle.Proofs.Identical

namespace Muffle.Config

open Noticed (Yields)
open Value (entries)

/-! ## Texts between semicolons -/

/-- Texts that semicolons can be put between: none is empty, and none has a semicolon itself. -/
def Listable (texts : List String) : Prop := ∀ text ∈ texts, text ≠ "" ∧ ';' ∉ text.toList

/-- Texts as one text, with semicolons between them. -/
def joinedValue (texts : List String) : Value := .str (";".intercalate texts)

/-- Of pieces between semicolons those that are not empty are read. -/
theorem listTexts_intercalate {pieces : List String} (h : ∀ piece ∈ pieces, ';' ∉ piece.toList) :
    listTexts (";".intercalate pieces).toList = pieces.filter (· != "") := by
  by_cases hne : pieces = []
  · subst hne
    rfl
  have hsplit : Text.splitAtChar ';' ([';'].intercalate (pieces.map String.toList)) =
      pieces.map String.toList := by
    refine Text.splitAtChar_intercalate (by simpa using hne) fun piece hpiece => ?_
    obtain ⟨text, htext, rfl⟩ := List.mem_map.mp hpiece
    exact h text htext
  rw [String.toList_intercalate, listTexts, listSeparator]
  show List.map _ (List.filter _ (Text.splitAtChar ';' ([';'].intercalate _))) = _
  rw [hsplit, List.filter_map, List.map_map]
  -- empty pieces are told as lists of characters or as texts alike
  have hempty : ((· != []) ∘ String.toList) = (· != "") := by
    funext text
    rw [Function.comp, Bool.eq_iff_iff, bne_iff_ne, bne_iff_ne]
    exact not_congr String.toList_eq_nil_iff
  have hback : String.ofList ∘ String.toList = id := by
    funext text
    exact String.ofList_toList
  rw [hempty, hback, List.map_id]

/-- Every text is made of pieces without semicolons. -/
theorem exists_intercalate (value : String) :
    ∃ pieces : List String, (∀ piece ∈ pieces, ';' ∉ piece.toList) ∧
      value = ";".intercalate pieces := by
  refine ⟨(Text.splitAtChar ';' value.toList).map String.ofList, fun piece hpiece => ?_, ?_⟩
  · obtain ⟨cs, hcs, rfl⟩ := List.mem_map.mp hpiece
    rw [String.toList_ofList]
    exact Text.notMem_of_mem_splitAtChar hcs
  · have hback : String.toList ∘ String.ofList = id := by
      funext cs
      exact String.toList_ofList
    rw [← String.toList_inj, String.toList_intercalate, List.map_map, hback, List.map_id]
    exact (Text.intercalate_splitAtChar ';' value.toList).symm

theorem filter_listable {texts : List String} (h : Listable texts) :
    texts.filter (· != "") = texts :=
  List.filter_eq_self.mpr fun text htext => bne_iff_ne.mpr (h text htext).1

/-! ## Options -/

/-- A text is a spelling of a key: without the blanks around it and in snake case it is the key. -/
def Spells (written key : String) : Prop :=
  '=' ∉ written.toList ∧ String.ofList (Text.snakeCase (Text.strip written.toList)) = key

/-- The keys of options that list texts. -/
def optionLists : List String := ["global_filters", "path_filters", "source_roots"]

namespace OptionSet

/-- The texts of one list and nothing else. -/
def only (key : String) (texts : List String) : OptionSet where
  globalFilters := if key = "global_filters" then texts else []
  pathFilters := if key = "path_filters" then texts else []
  sourceRoots := if key = "source_roots" then texts else []

/-- All texts of the lists can have semicolons put between them. -/
structure IsListable (s : OptionSet) : Prop where
  globalFilters : Listable s.globalFilters
  pathFilters : Listable s.pathFilters
  sourceRoots : Listable s.sourceRoots

/-- What some options and then more of them set. -/
def plus (s more : OptionSet) : OptionSet where
  globalFilters := s.globalFilters ++ more.globalFilters
  pathFilters := s.pathFilters ++ more.pathFilters
  sourceRoots := s.sourceRoots ++ more.sourceRoots
  checkUnused := s.checkUnused || more.checkUnused

/-- It does not matter where a row of options is divided. -/
theorem plus_assoc (a b c : OptionSet) : (a.plus b).plus c = a.plus (b.plus c) := by
  simp [plus, Bool.or_assoc]

theorem plus_empty (s : OptionSet) : s.plus {} = s := by
  simp [plus]

theorem empty_plus (s : OptionSet) : ({} : OptionSet).plus s = s := by
  simp [plus]

end OptionSet

/-- What one option gives: the texts that are not empty among its pieces, the switch, or nothing
    if it is not known. -/
inductive Gives : String → OptionSet → Prop
  | texts {written key : String} {pieces : List String} (hkey : Spells written key)
      (hlist : key ∈ optionLists) (hpieces : ∀ piece ∈ pieces, ';' ∉ piece.toList) :
      Gives (written ++ "=" ++ ";".intercalate pieces)
        (OptionSet.only key (pieces.filter (· != "")))
  | switch {written : String} (hkey : Spells written "check_unused") :
      Gives written { checkUnused := true }
  | unknownTexts {written key value : String} (hkey : Spells written key)
      (hunknown : key ∉ optionLists) : Gives (written ++ "=" ++ value) {}
  | unknownSwitch {written key : String} (hkey : Spells written key)
      (hunknown : key ≠ "check_unused") : Gives written {}

/-- What options give together. The texts for one key stand in the order of the options, whatever
    options for other keys are between them. -/
inductive Carries : List String → OptionSet → Prop
  | nil : Carries [] {}
  | cons {option : String} {options : List String} {first rest : OptionSet}
      (hfirst : Gives option first) (hrest : Carries options rest) :
      Carries (option :: options) (first.plus rest)

/-! ## Reading options -/

/-- No spelling of a key has an equals sign, so the first one ends the key. -/
theorem ne_equals {written key : String} (hkey : Spells written key) :
    ∀ c ∈ written.toList, (c != '=') = true :=
  fun _ hc => bne_iff_ne.mpr fun heq => hkey.1 (heq ▸ hc)

/-- An option with a value is read at its first equals sign. -/
theorem read_value {written key : String} (hkey : Spells written key) (value : String) :
    HostOption.read (written ++ "=" ++ value).toList = ⟨key, some value.toList⟩ := by
  have hoption : (written ++ "=" ++ value).toList = written.toList ++ '=' :: value.toList := by
    simp
  rw [hoption, HostOption.read, List.takeWhile_append_of_pos (ne_equals hkey),
    List.dropWhile_append_of_pos (ne_equals hkey)]
  simp [hkey.2]

/-- An option without an equals sign is a bare word. -/
theorem read_word {written key : String} (hkey : Spells written key) :
    HostOption.read written.toList = ⟨key, none⟩ := by
  rw [HostOption.read, List.takeWhile_eq_self_iff.mpr (ne_equals hkey),
    List.dropWhile_eq_nil_iff.mpr (ne_equals hkey), hkey.2]

/-- An option is a key alone, or a key and behind the first equals sign a value. -/
theorem exists_spells (option : String) :
    ∃ written key, Spells written key ∧
      (option = written ∨ ∃ value, option = written ++ "=" ++ value) := by
  let written := String.ofList (option.toList.takeWhile (· != '='))
  have hwritten : '=' ∉ written.toList := by
    rw [String.toList_ofList]
    intro hmem
    simpa using List.mem_takeWhile_imp hmem
  refine ⟨written, _, ⟨hwritten, rfl⟩, ?_⟩
  have hsplit : option.toList.takeWhile (· != '=') ++ option.toList.dropWhile (· != '=') =
      option.toList := List.takeWhile_append_dropWhile
  -- an option is a bare word, or it goes on behind the first equals sign
  cases hrest : option.toList.dropWhile (· != '=') with
  | nil =>
    left
    rw [hrest, List.append_nil] at hsplit
    show option = String.ofList _
    rw [hsplit, String.ofList_toList]
  | cons c value =>
    right
    have hc : c = '=' := by
      have hne : option.toList.dropWhile (· != '=') ≠ [] := hrest ▸ List.cons_ne_nil _ _
      have hhead := List.head_dropWhile_not (· != '=') hne
      simp only [hrest, List.head_cons, bne_eq_false_iff_eq] at hhead
      exact hhead
    refine ⟨String.ofList value, ?_⟩
    rw [← String.toList_inj]
    simpa [written, hrest, hc] using hsplit.symm

namespace OptionSet

variable {s : OptionSet} {key : String}

/-- A list option adds its texts to those that were given before. -/
theorem add?_texts (hlist : key ∈ optionLists) (cs : List Char) :
    s.add? ⟨key, some cs⟩ = some (s.plus (only key (listTexts cs))) := by
  simp only [optionLists, List.mem_cons, List.not_mem_nil, or_false] at hlist
  rcases hlist with rfl | rfl | rfl <;> simp [add?, plus, only]

theorem add?_unknownTexts (hunknown : key ∉ optionLists) (cs : List Char) :
    s.add? ⟨key, some cs⟩ = none := by
  simp only [optionLists, List.mem_cons, List.not_mem_nil, or_false, not_or] at hunknown
  simp [add?, hunknown]

/-- The switch is given by its bare name. -/
theorem add?_switch : s.add? ⟨"check_unused", none⟩ = some (s.plus { checkUnused := true }) := by
  simp [add?, plus]

theorem add?_unknownSwitch (hunknown : key ≠ "check_unused") : s.add? ⟨key, none⟩ = none :=
  if_neg hunknown

end OptionSet

/-- What an option gives is added to what those before it gave. -/
theorem Gives.yields {option : String} {first s : OptionSet} (h : Gives option first)
    {rest : List Value} {d : Except Fault OptionSet}
    (hrest : Yields ((s.plus first).addAll rest) d) :
    Yields (s.addAll (.str option :: rest)) d := by
  cases h with
  | texts hkey hlist hpieces =>
    rw [OptionSet.addAll, read_value hkey, OptionSet.add?_texts hlist,
      listTexts_intercalate hpieces]
    exact hrest
  | switch hkey =>
    rw [OptionSet.addAll, read_word hkey, OptionSet.add?_switch]
    exact hrest
  | unknownTexts hkey hunknown =>
    rw [OptionSet.addAll, read_value hkey, OptionSet.add?_unknownTexts hunknown]
    rw [OptionSet.plus_empty] at hrest
    exact hrest.notify_bind
  | unknownSwitch hkey hunknown =>
    rw [OptionSet.addAll, read_word hkey, OptionSet.add?_unknownSwitch hunknown]
    rw [OptionSet.plus_empty] at hrest
    exact hrest.notify_bind

/-- Options are collected one after the other, unknown ones with a notice only. -/
theorem Carries.yields {options : List String} {total : OptionSet} (h : Carries options total)
    (s : OptionSet) : Yields (s.addAll (options.map .str)) (.ok (s.plus total)) := by
  -- the options before these have set something already, so it is general in the induction
  induction h generalizing s with
  | nil =>
    rw [OptionSet.plus_empty]
    exact Noticed.yields_pure s
  | cons hfirst hrest ih =>
    rw [← OptionSet.plus_assoc]
    exact hfirst.yields (ih _)

/-- Every text is an option of some sort: a list, the switch, or unknown. -/
theorem exists_gives (option : String) : ∃ first, Gives option first := by
  obtain ⟨written, key, hkey, rfl | ⟨value, rfl⟩⟩ := exists_spells option
  · by_cases hswitch : key = "check_unused"
    · subst hswitch
      exact ⟨_, .switch hkey⟩
    · exact ⟨_, .unknownSwitch hkey hswitch⟩
  · by_cases hlist : key ∈ optionLists
    · obtain ⟨pieces, hpieces, rfl⟩ := exists_intercalate value
      exact ⟨_, .texts hkey hlist hpieces⟩
    · exact ⟨_, .unknownTexts hkey hlist⟩

/-- All rows of options carry something. -/
theorem exists_carries (options : List String) : ∃ total, Carries options total := by
  induction options with
  | nil => exact ⟨_, .nil⟩
  | cons option options ih =>
    obtain ⟨first, hfirst⟩ := exists_gives option
    obtain ⟨rest, hrest⟩ := ih
    exact ⟨_, .cons hfirst hrest⟩

/-- What options carry is what is read from them. -/
theorem carries_iff {options : List String} {total : OptionSet} :
    Carries options total ↔ Yields (OptionSet.addAll {} (options.map .str)) (.ok total) := by
  have hyields {s : OptionSet} (h : Carries options s) :
      Yields (OptionSet.addAll {} (options.map .str)) (.ok s) := by
    have h := h.yields {}
    rwa [OptionSet.empty_plus] at h
  constructor
  · exact hyields
  · intro h
    obtain ⟨s, hs⟩ := exists_carries options
    have hsame : Except.ok s = .ok total := (hyields hs []).symm.trans (h [])
    cases hsame
    exact hs

/-- The configuration for options that carry some lists and a switch is built from these. -/
theorem yields_ofOptions [Pattern.Compiler] {options : List String} {s : OptionSet}
    (h : Carries options s) (t : FileTree) (baseDir : Option Path) :
    Yields (ofOptions t (.list (options.map .str)) baseDir) ((s.toRaw baseDir).plain t) := by
  have hparts : (Value.list (options.map .str)).parts = .ok (options.map .str) := rfl
  intro ns
  rw [ofOptions, Noticed.on_ofExcept_bind hparts]
  exact (carries_iff.mp h).bind (fun s => RawConfig.yields_build t (s.toRaw baseDir)) ns

/-! ## Mappings -/

/-- A way to write a list of texts as a value: the conversion of keys leaves it alone, and the
    texts are read from it. -/
structure IsForm (form : List String → Value) : Prop where
  kept (texts : List String) : snakeKeys (form texts) = .ok (form texts)
  read (key : String) {texts : List String} (h : Listable texts) :
    listOf key (form texts) = .ok (textsValue texts)

/-- A list of texts stands for the texts. -/
theorem isForm_textsValue : IsForm textsValue where
  kept texts := snakeKeys_written (.list texts)
  read key texts _ := listOf_textsValue key texts

/-- So does one text with commas. -/
theorem isForm_joinedValue : IsForm joinedValue where
  kept _ := rfl
  read key texts h := by
    rw [joinedValue, listOf, listTexts_intercalate fun text htext => (h text htext).2,
      filter_listable h]

theorem textsOf_textsValue (texts : List String) : textsOf (textsValue texts) = texts := by
  show (texts.map Value.str).map (·.text) = texts
  rw [List.map_map]
  exact List.map_id _

theorem IsForm.textsOf_eq {form : List String → Value} (hform : IsForm form) {texts : List String}
    (h : Listable texts) : textsOf (form texts) = texts := by
  have hread : textsValue texts = textsValue (textsOf (form texts)) :=
    eq_of_listOf (hform.read "" h)
  have hsame := congrArg textsOf hread
  rw [textsOf_textsValue, textsOf_textsValue] at hsame
  exact hsame.symm

/-- The fields of lists of texts, which are written in some form, and of the switch. -/
def OptionSet.fields (form : List String → Value) (s : OptionSet) : List (String × Value) :=
  [("global_filters", form s.globalFilters), ("path_filters", form s.pathFilters),
    ("source_roots", form s.sourceRoots), ("check_unused", .bool s.checkUnused)]

/-- Fields tell lists of texts, which are written in some form, and the switch. They may stand in
    any order; an empty list, and the switch if it is off, may be left out. -/
structure Told (form : List String → Value) (s : OptionSet) (fields : List (String × Value)) :
    Prop where
  nodup : (fields.map (·.1)).Nodup
  told : ∀ f ∈ fields, f ∈ s.fields form
  rest : ∀ f ∈ s.fields form, f ∉ fields → f ∈ OptionSet.fields form {}

/-- A mapping tells the same by such fields, whose keys may be spelled in any way that is converted
    to them. -/
inductive Tells (form : List String → Value) (s : OptionSet) : List (Value × Value) → Prop
  | intro (spell : String → String) (fields : List (String × Value))
      (hspell : ∀ f ∈ fields, String.ofList (Text.snakeCase (spell f.1).toList) = f.1)
      (htold : Told form s fields) : Tells form s (entries (fields.map fun f => (spell f.1, f.2)))

section Fields

variable {form : List String → Value} {s : OptionSet} {fields : List (String × Value)}

/-- The fields of a set of options, one by one. -/
theorem mem_fields_iff {key : String} {v : Value} :
    (key, v) ∈ s.fields form ↔
      key = "global_filters" ∧ v = form s.globalFilters ∨
      key = "path_filters" ∧ v = form s.pathFilters ∨
      key = "source_roots" ∧ v = form s.sourceRoots ∨
      key = "check_unused" ∧ v = .bool s.checkUnused := by
  simp [OptionSet.fields]

theorem key_of_mem_fields {f : String × Value} (h : f ∈ s.fields form) :
    f.1 ∈ optionLists ++ ["check_unused"] := List.mem_map_of_mem h

theorem known_of_mem_fields {f : String × Value} (h : f ∈ s.fields form) :
    f.1 ∈ listKeys ++ switchKeys := by
  have hknown : ∀ key ∈ optionLists ++ ["check_unused"], key ∈ listKeys ++ switchKeys := by
    decide
  exact hknown _ (key_of_mem_fields h)

/-- A field has one value. -/
theorem eq_of_mem_fields {key : String} {v w : Value} (hv : (key, v) ∈ s.fields form)
    (hw : (key, w) ∈ s.fields form) : v = w := by
  rw [mem_fields_iff] at hv hw
  rcases hv with ⟨rfl, rfl⟩ | ⟨rfl, rfl⟩ | ⟨rfl, rfl⟩ | ⟨rfl, rfl⟩ <;>
  exact Eq.symm (by simpa using hw)

/-- The value at a key is that of a field with this key; without one there is none. -/
theorem lookup_cases (fields : List (String × Value)) (key : String) :
    (Value.lookupIn (.str key) (entries fields) = none ∧ ∀ v, (key, v) ∉ fields) ∨
      ∃ v, Value.lookupIn (.str key) (entries fields) = some v ∧ (key, v) ∈ fields := by
  rw [Value.lookupIn_entries]
  cases hfound : fields.find? (·.1 == key) with
  | none =>
    refine .inl ⟨rfl, fun v hmem => ?_⟩
    exact List.find?_eq_none.mp hfound _ hmem (beq_self_eq_true key)
  | some f =>
    have hkey := List.find?_some (p := fun g : String × Value => g.1 == key) hfound
    refine .inr ⟨f.2, rfl, ?_⟩
    rw [← beq_iff_eq.mp hkey]
    exact List.mem_of_find?_eq_some hfound

/-- Each field is found in the mapping, or it is left out there and is as by default. -/
theorem Told.lookup (h : Told form s fields) {key : String} {v : Value}
    (hv : (key, v) ∈ s.fields form) :
    Value.lookupIn (.str key) (entries fields) = some v ∨
      Value.lookupIn (.str key) (entries fields) = none ∧
        (key, v) ∈ OptionSet.fields form {} := by
  rcases lookup_cases fields key with ⟨hnone, hmissing⟩ | ⟨w, hw, hmem⟩
  · exact .inr ⟨hnone, h.rest _ hv (hmissing v)⟩
  · rw [hw]
    exact .inl (congrArg some (eq_of_mem_fields (h.told _ hmem) hv))

/-- No other key is in the mapping. -/
theorem Told.lookup_other (h : Told form s fields) {key : String}
    (hkey : key ∉ optionLists ++ ["check_unused"]) :
    Value.lookupIn (.str key) (entries fields) = none := by
  rcases lookup_cases fields key with ⟨hnone, -⟩ | ⟨v, -, hmem⟩
  · exact hnone
  · exact absurd (key_of_mem_fields (h.told _ hmem)) hkey

/-- A list that is left out of a mapping is empty, as in the options. -/
theorem Told.listAt_eq (h : Told form s fields) (hform : IsForm form) {key : String}
    {texts : List String} (htexts : Listable texts) (hmem : (key, form texts) ∈ s.fields form)
    (hdefault : ∀ v, (key, v) ∈ OptionSet.fields form {} → v = form []) :
    listAt (entries fields) key (.list []) = textsValue texts := by
  unfold listAt
  rcases h.lookup hmem with hfound | ⟨hmissing, hleft⟩
  · rw [hfound]
    exact congrArg textsValue (hform.textsOf_eq htexts)
  · -- only an empty list is written as by default
    have hempty : texts = [] := by
      rw [← hform.textsOf_eq htexts, hdefault _ hleft]
      exact hform.textsOf_eq nofun
    rw [hmissing, hempty]
    rfl

/-- The switch is off when a mapping leaves it out. -/
theorem Told.switchAt_eq (h : Told form s fields) :
    switchAt (entries fields) "check_unused" false = .bool s.checkUnused := by
  have hmem : ("check_unused", .bool s.checkUnused) ∈ s.fields form := by
    simp [OptionSet.fields]
  unfold switchAt
  rcases h.lookup hmem with hfound | ⟨hmissing, hleft⟩
  · rw [hfound]
    rfl
  · have hoff : Value.bool s.checkUnused = .bool false := by
      simpa [mem_fields_iff] using hleft
    rw [hmissing, hoff]
    rfl

/-- Fields that tell some lists and a switch set the same raw values as options. -/
theorem Told.rawAt_eq (h : Told form s fields) (hform : IsForm form) (hs : s.IsListable)
    (baseDir : Option Path) : rawAt (entries fields) baseDir = s.toRaw baseDir := by
  obtain ⟨hglobals, hpaths, hroots⟩ := hs
  unfold rawAt
  rw [h.listAt_eq hform hglobals (by simp [mem_fields_iff]) (by simp [mem_fields_iff]),
    h.listAt_eq hform hpaths (by simp [mem_fields_iff]) (by simp [mem_fields_iff]),
    h.listAt_eq hform hroots (by simp [mem_fields_iff]) (by simp [mem_fields_iff]), h.switchAt_eq]
  unfold listAt switchAt
  rw [h.lookup_other (by decide), h.lookup_other (by decide), h.lookup_other (by decide)]
  rfl

/-! ## Reading mappings -/

/-- A field is a list of texts that can have semicolons put between them, or it is the switch. -/
theorem shape_of_mem_fields (hs : s.IsListable) {f : String × Value} (h : f ∈ s.fields form) :
    (f.1 ∉ switchKeys ∧ ∃ texts, Listable texts ∧ f.2 = form texts) ∨
      f.1 ∉ listKeys ∧ f.2 = .bool s.checkUnused := by
  rcases mem_fields_iff.mp h with ⟨hkey, hv⟩ | ⟨hkey, hv⟩ | ⟨hkey, hv⟩ | ⟨hkey, hv⟩
  · exact .inl ⟨hkey ▸ by decide, _, hs.globalFilters, hv⟩
  · exact .inl ⟨hkey ▸ by decide, _, hs.pathFilters, hv⟩
  · exact .inl ⟨hkey ▸ by decide, _, hs.sourceRoots, hv⟩
  · exact .inr ⟨hkey ▸ by decide, hv⟩

/-- The values of the fields have no keys to respell. -/
theorem snakeKeys_of_mem_fields (hform : IsForm form) (hs : s.IsListable) {f : String × Value}
    (h : f ∈ s.fields form) : snakeKeys f.2 = .ok f.2 := by
  rcases shape_of_mem_fields hs h with ⟨-, texts, -, hv⟩ | ⟨-, hv⟩
  · rw [hv, hform.kept]
  · rw [hv]
    rfl

theorem isOk_listOf_of_mem_fields (hform : IsForm form) (hs : s.IsListable) {f : String × Value}
    (h : f ∈ s.fields form) (hkey : f.1 ∈ listKeys) : (listOf f.1 f.2).isOk = true := by
  rcases shape_of_mem_fields hs h with ⟨-, texts, htexts, hv⟩ | ⟨hswitch, -⟩
  · rw [hv, hform.read f.1 htexts]
    rfl
  · exact absurd hkey hswitch

theorem isOk_switchOf_of_mem_fields (hs : s.IsListable) {f : String × Value}
    (h : f ∈ s.fields form) (hkey : f.1 ∈ switchKeys) : (switchOf f.1 f.2).isOk = true := by
  rcases shape_of_mem_fields hs h with ⟨hlist, -⟩ | ⟨-, hv⟩
  · exact absurd hkey hlist
  · rw [hv]
    rfl

theorem mem_of_mem_foundAt {f : String × Value} {keys : List String}
    (h : f ∈ foundAt (entries fields) keys) : f ∈ fields := by
  obtain ⟨-, hfound⟩ := mem_foundAt h
  rcases lookup_cases fields f.1 with ⟨hnone, -⟩ | ⟨v, hv, hmem⟩
  · rw [hnone] at hfound
    cases hfound
  · rw [hv] at hfound
    cases hfound
    exact hmem

/-- The configuration for a mapping that tells some lists and a switch is built from these. -/
theorem Tells.yields [Pattern.Compiler] {es : List (Value × Value)} (h : Tells form s es)
    (hform : IsForm form) (hs : s.IsListable) (t : FileTree) (baseDir : Option Path) :
    Yields (ofMapping t es baseDir) ((s.toRaw baseDir).plain t) := by
  obtain ⟨spell, fields, hspell, htold⟩ := h
  -- whatever the spelling, the converted mapping has the fields themselves
  have hentries : snakeEntries (entries (fields.map fun f => (spell f.1, f.2))) =
      .ok (entries fields) :=
    snakeEntries_entries spell hspell fun f hf => snakeKeys_of_mem_fields hform hs (htold.told f hf)
  have hmerged : merged (entries fields) = entries fields :=
    Value.map.inj (Value.ofEntries_entries htold.nodup)
  have hfound {f : String × Value} {keys : List String}
      (hf : f ∈ foundAt (entries fields) keys) : f ∈ s.fields form ∧ f.1 ∈ keys :=
    ⟨htold.told f (mem_of_mem_foundAt hf), (mem_foundAt hf).1⟩
  obtain ⟨lists, hlists⟩ : ∃ lists, fieldsAt (entries fields) listOf listKeys = .ok lists :=
    exists_of_isOk (isOk_fieldsAt fun f hf =>
      isOk_listOf_of_mem_fields hform hs (hfound hf).1 (hfound hf).2)
  obtain ⟨switches, hswitches⟩ :
      ∃ switches, fieldsAt (entries fields) switchOf switchKeys = .ok switches :=
    exists_of_isOk (isOk_fieldsAt fun f hf =>
      isOk_switchOf_of_mem_fields hs (hfound hf).1 (hfound hf).2)
  have hknown : unknownKeys (entries fields) = .ok [] :=
    unknownKeys_entries fun f hf => known_of_mem_fields (htold.told f hf)
  have hplain : plainMapping t (entries (fields.map fun f => (spell f.1, f.2))) baseDir =
      (s.toRaw baseDir).plain t := by
    rw [plainMapping, hentries, ok_bind]
    dsimp only
    rw [hmerged, hlists, ok_bind, hswitches, ok_bind, hknown, ok_bind,
      htold.rawAt_eq hform hs]
  rw [← hplain]
  exact yields_ofMapping t _ baseDir

end Fields

/-! ## One configuration -/

/-- Lists of texts and the switch for unused directives give the same configuration, or the same
    fault, whether they are carried by options, told by a mapping with lists or by one with
    semicolons between the texts, or built from as they are. -/
theorem spellings_agree [Pattern.Compiler] {globals paths roots : List String} {unused : Bool}
    (hglobals : Listable globals) (hpaths : Listable paths) (hroots : Listable roots)
    {options : List String} (hoptions : Carries options ⟨globals, paths, roots, unused⟩)
    {listed joined : List (Value × Value)}
    (hlisted : Tells textsValue ⟨globals, paths, roots, unused⟩ listed)
    (hjoined : Tells joinedValue ⟨globals, paths, roots, unused⟩ joined)
    (t : FileTree) (baseDir : Option Path) :
    ∃ result : Except Fault FilterConfig,
      Yields (ofOptions t (textsValue options) baseDir) result ∧
      Yields (ofMapping t listed baseDir) result ∧
      Yields (ofMapping t joined baseDir) result ∧
      Yields (RawConfig.build t
        { globalFilters := textsValue globals
          pathFilters := textsValue paths
          sourceRoots := textsValue roots
          checkUnused := .bool unused
          baseDir := baseDir }) result := by
  have hs : OptionSet.IsListable ⟨globals, paths, roots, unused⟩ := ⟨hglobals, hpaths, hroots⟩
  exact ⟨_, yields_ofOptions hoptions t baseDir, hlisted.yields isForm_textsValue hs t baseDir,
    hjoined.yields isForm_joinedValue hs t baseDir, RawConfig.yields_build t _⟩

/-- Texts with an equals sign and with blanks, options that are not known in between, empty pieces,
    several spellings of the keys, and no path filters. -/
theorem spellings_agree_blanks :
    let tree : FileTree :=
      { nodes := [(["work"], .directory), (["work", "src"], .directory)]
        workDir := Path.ofText "/work" }
    let options := ["globalFilters=a=b;", "experimental", " source_roots =;src",
      "colour=blue;green", "GlobalFilters=; c ;;", "checkUnused", "checkUnused=no"]
    let listed : List (Value × Value) := [(.str "checkUnused", .bool true),
      (.str "sourceRoots", .list [.str "src"]),
      (.str "globalFilters", .list [.str "a=b", .str " c "])]
    let joined : List (Value × Value) := [(.str "global_filters", .str "a=b; c "),
      (.str "path_filters", .str ""), (.str "source_roots", .str "src"),
      (.str "check_unused", .bool true)]
    let s : OptionSet := ⟨["a=b", " c "], [], ["src"], true⟩
    s.IsListable ∧ Carries options s ∧ Tells textsValue s listed ∧ Tells joinedValue s joined ∧
      ∃ result : Except Fault FilterConfig, result.isOk = true ∧
        Yields (ofOptions tree (textsValue options) none) result ∧
        Yields (ofMapping tree listed none) result ∧ Yields (ofMapping tree joined none) result ∧
        Yields (RawConfig.build tree
          { globalFilters := textsValue ["a=b", " c "]
            sourceRoots := textsValue ["src"]
            checkUnused := .bool true }) result := by
  intro tree options listed joined s
  have hs : s.IsListable :=
    ⟨by unfold Listable; decide, by unfold Listable; decide, by unfold Listable; decide⟩
  have hoptions : Carries options s := carries_iff.mpr fun _ => rfl
  have hlisted : Tells textsValue s listed := by
    let camel (key : String) : String := String.ofList (Text.camelCase key.toList)
    let fields : List (String × Value) := [("check_unused", .bool true),
      ("source_roots", textsValue ["src"]), ("global_filters", textsValue ["a=b", " c "])]
    have hfields : listed = entries (fields.map fun f => (camel f.1, f.2)) := by decide +kernel
    rw [hfields]
    exact .intro camel fields (by decide +kernel)
      ⟨by decide, by decide +kernel, by decide +kernel⟩
  have hjoined : Tells joinedValue s joined :=
    .intro id (s.fields joinedValue) (by decide +kernel)
      ⟨by decide, fun _ hf => hf, fun _ hf hmissing => absurd hf hmissing⟩
  obtain ⟨result, hresult⟩ := spellings_agree hs.1 hs.2 hs.3 hoptions hlisted hjoined tree none
  have hok : result.isOk = true := by
    rw [← hresult.2.2.2 []]
    decide +kernel
  exact ⟨hs, hoptions, hlisted, hjoined, result, hok, hresult⟩

end Muffle.Config
