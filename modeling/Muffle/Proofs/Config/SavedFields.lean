/-
  Muffle.Proofs.Config.SavedFields

  What is read from a saved configuration. A field that a configuration has by default is left
  out, and the default stands for it when it is missing; a key is written in camel case and read
  in snake case; a list of texts is read as it was written. So the mapping in the file sets the
  same raw values that the configuration holds, and no key in it is unknown.
-/

import Muffle.Proofs.Config.Provenance
import Muffle.Proofs.Yaml.CarriageReturn
import Muffle.Yaml.Standard

namespace Muffle

/-! ## Entries named by texts -/

namespace Value

theorem same_str (s t : String) : (Value.str s).same (.str t) = (s == t) := by
  simp only [same]

/-- The entries of fields. -/
def entries (fields : List (String × Value)) : List (Value × Value) :=
  fields.map fun f => (.str f.1, f.2)

/-- Texts as keys are found by equality. -/
theorem lookupIn_entries (key : String) (fields : List (String × Value)) :
    lookupIn (.str key) (entries fields) = (fields.find? (·.1 == key)).map (·.2) := by
  induction fields with
  | nil => rfl
  | cons f fields ih =>
    have hcons : entries (f :: fields) = (.str f.1, f.2) :: entries fields := rfl
    rw [hcons, lookupIn, same_str]
    by_cases h : f.1 = key
    · rw [h, beq_self_eq_true, if_pos rfl, List.find?_cons_of_pos (by exact beq_iff_eq.mpr h)]
      rfl
    · rw [if_neg (by rw [beq_iff_eq]; exact Ne.symm h), ih,
        List.find?_cons_of_neg (by rw [beq_iff_eq]; exact h)]

/-- A new key goes to the end. -/
theorem insertIn_entries {key : String} {fields : List (String × Value)}
    (h : key ∉ fields.map (·.1)) (v : Value) :
    insertIn (.str key) v (entries fields) = entries (fields ++ [(key, v)]) := by
  induction fields with
  | nil => rfl
  | cons f fields ih =>
    rw [List.map_cons, List.mem_cons, not_or] at h
    have hcons : entries (f :: fields) = (.str f.1, f.2) :: entries fields := rfl
    rw [hcons, insertIn, same_str, beq_eq_false_iff_ne.mpr h.1, ih h.2]
    rfl

/-- Entries with different keys are a map as they stand. -/
theorem ofEntries_entries {fields : List (String × Value)} (h : (fields.map (·.1)).Nodup) :
    ofEntries (entries fields) = .map (entries fields) := by
  -- the entries that are in the map already are some front of the whole
  have hfold : ∀ front : List (String × Value), ((front ++ fields).map (·.1)).Nodup →
      (entries fields).foldl (fun acc e => insertIn e.1 e.2 acc) (entries front) =
        entries (front ++ fields) := by
    clear h
    induction fields with
    | nil =>
      intro front _
      rw [List.append_nil]
      rfl
    | cons f fields ih =>
      intro front hfront
      have hfresh : f.1 ∉ front.map (·.1) := by
        rw [List.map_append, List.map_cons] at hfront
        exact fun hmem => (List.nodup_append.mp hfront).2.2 _ hmem _ List.mem_cons_self rfl
      have hcons : entries (f :: fields) = (.str f.1, f.2) :: entries fields := rfl
      rw [List.append_cons] at hfront ⊢
      rw [hcons, List.foldl_cons, insertIn_entries hfresh, ih _ hfront]
  rw [ofEntries, show ([] : List (Value × Value)) = entries [] from rfl, hfold [] h,
    List.nil_append]

end Value

namespace Config

open Value (entries)

/-! ## Keys -/

/-- A known key is read back from its camel case. -/
theorem snakeCase_camelCase {key : String} (h : key ∈ listKeys ++ switchKeys) :
    String.ofList (Text.snakeCase (String.ofList (Text.camelCase key.toList)).toList) = key := by
  have hall : ∀ key ∈ listKeys ++ switchKeys,
      String.ofList (Text.snakeCase (String.ofList (Text.camelCase key.toList)).toList) = key := by
    decide +kernel
  exact hall key h

/-! ## The fields of a file -/

/-- A field that is there if `present` says so. -/
def optional (key : String) (present : Bool) (v : Value) : List (String × Value) :=
  if present then [(key, v)] else []

theorem find?_optional (key : String) (present : Bool) (v : Value) (sought : String) :
    (optional key present v).find? (·.1 == sought) =
      if present && key == sought then some (key, v) else none := by
  cases present with
  | false => rfl
  | true =>
    by_cases h : key = sought
    · rw [Bool.true_and, if_pos (beq_iff_eq.mpr h)]
      exact List.find?_cons_of_pos (by exact beq_iff_eq.mpr h)
    · rw [Bool.true_and, if_neg (by rw [beq_iff_eq]; exact h)]
      exact List.find?_cons_of_neg (by rw [beq_iff_eq]; exact h)

/-- Fields are set one after the other. -/
theorem setAll_append (raw : RawConfig) (fields more : List (String × Value)) :
    raw.setAll (fields ++ more) = raw.setAll fields >>= fun raw => raw.setAll more := by
  rw [RawConfig.setAll, List.foldlM_append]
  rfl

theorem setAll_optional (raw : RawConfig) (key : String) (present : Bool) (v : Value) :
    raw.setAll (optional key present v) = if present then raw.set key v else .ok raw := by
  cases present with
  | false => rfl
  | true =>
    rw [optional, if_pos rfl, RawConfig.setAll, List.foldlM_cons]
    cases raw.set key v <;> rfl

theorem savedList_eq_optional (key : String) (xs : List String) :
    savedList key xs = optional key (!xs.isEmpty) (textsValue xs) := by
  cases xs <;> rfl

variable (c : FilterConfig)

/-- The texts of its source roots as they are saved. -/
def savedRoots : List String := c.sourceRoots.map (portableRoot c.baseDir)

/-- The words of its severities. -/
def savedWords : List String := c.suppressible.map (·.word)

/-- What is saved, field by field, each under the condition that it differs from its default. -/
theorem savedFields_eq_optional :
    savedFields c =
      optional "global_filters" (!c.globalFilters.isEmpty)
        (textsValue (c.globalFilters.map (·.text))) ++
      optional "path_filters" (!c.pathFilters.isEmpty) (textsValue (c.pathFilters.map (·.text))) ++
      optional "source_roots" (!c.sourceRoots.isEmpty) (textsValue (savedRoots c)) ++
      optional "check_unused" true c.checkUnused ++
      optional "report_unused_in_macro_expansion" (!c.reportUnusedInMacroExpansion.truthy)
        (.bool false) ++
      optional "defer_unregistered" c.deferUnregistered.truthy (.bool true) ++
      optional "suppressible_severities" (c.suppressible != Severity.all)
        (textsValue (savedWords c)) := by
  simp only [savedFields, savedList_eq_optional, List.isEmpty_map]
  congr 1
  · congr 1
    · congr 1
      cases c.reportUnusedInMacroExpansion.truthy <;> rfl
  · by_cases h : c.suppressible = Severity.all
    · simp [h, optional]
    · simp [h, optional, savedWords]

theorem keys_optional (key : String) (present : Bool) (v : Value) :
    ((optional key present v).map (·.1)).Sublist [key] := by
  cases present with
  | false => exact List.nil_sublist _
  | true => exact List.Sublist.refl _

/-- The keys of the file are some of the known ones, each at most once. -/
theorem keys_savedFields :
    ((savedFields c).map (·.1)).Sublist
      ["global_filters", "path_filters", "source_roots", "check_unused",
        "report_unused_in_macro_expansion", "defer_unregistered", "suppressible_severities"] := by
  rw [savedFields_eq_optional]
  simp only [List.map_append]
  exact ((((((keys_optional _ _ _).append (keys_optional _ _ _)).append
    (keys_optional _ _ _)).append (keys_optional _ _ _)).append (keys_optional _ _ _)).append
    (keys_optional _ _ _)).append
    (keys_optional _ _ _)

/-- No field is saved twice. -/
theorem nodup_keys_savedFields : ((savedFields c).map (·.1)).Nodup :=
  (keys_savedFields c).nodup (by decide)

/-- Only known keys are saved. -/
theorem known_of_mem_savedFields {f : String × Value} (h : f ∈ savedFields c) :
    f.1 ∈ listKeys ++ switchKeys := by
  have hall : ∀ key ∈ ["global_filters", "path_filters", "source_roots", "check_unused",
      "report_unused_in_macro_expansion", "defer_unregistered", "suppressible_severities"],
      key ∈ listKeys ++ switchKeys := by decide
  exact hall f.1 ((keys_savedFields c).subset (List.mem_map_of_mem h))

variable {c} {t : FileTree}

/-- Lists are written for the keys of lists, and truth values for those of switches. -/
theorem shape_of_mem_savedFields [Pattern.Compiler] (hc : c.Sound t) {f : String × Value}
    (h : f ∈ savedFields c) :
    (f.1 ∈ listKeys ∧ ∃ xs, f.2 = textsValue xs) ∨ (f.1 ∈ switchKeys ∧ f.2.IsBool) := by
  have hoptional {key : String} {present : Bool} {v : Value} (hf : f ∈ optional key present v) :
      f.1 = key ∧ f.2 = v := by
    cases present with
    | false => exact absurd hf List.not_mem_nil
    | true => exact Prod.ext_iff.mp (List.mem_singleton.mp hf)
  rw [savedFields_eq_optional] at h
  simp only [List.mem_append] at h
  -- the seven fields, in the order in which they are saved
  rcases h with (((((h | h) | h) | h) | h) | h) | h <;> rw [(hoptional h).1, (hoptional h).2]
  · exact .inl ⟨by decide, _, rfl⟩
  · exact .inl ⟨by decide, _, rfl⟩
  · exact .inl ⟨by decide, _, rfl⟩
  · exact .inr ⟨by decide, hc.checkUnused⟩
  · exact .inr ⟨by decide, _, rfl⟩
  · exact .inr ⟨by decide, _, rfl⟩
  · exact .inl ⟨by decide, _, rfl⟩

/-- A field is saved in a form that the codec can be asked to invert. -/
theorem written_of_mem_savedFields [Pattern.Compiler] (hc : c.Sound t) {f : String × Value}
    (h : f ∈ savedFields c) :
    Yaml.Written f.2 := by
  rcases shape_of_mem_savedFields hc h with ⟨-, xs, hxs⟩ | ⟨-, b, hb⟩
  · rw [hxs]
    exact .list xs
  · rw [hb]
    exact .bool b

/-- The mapping that is written to a file. -/
def fileFields (c : FilterConfig) : List (String × Value) :=
  (savedFields c).map fun f => (String.ofList (Text.camelCase f.1.toList), f.2)

/-- The standard library writes the text of a file without carriage returns. -/
theorem notMem_savedText [Pattern.Compiler] (hc : c.Sound t) : '\r' ∉ savedText c := by
  refine Yaml.notMem_write fun f hf => ?_
  obtain ⟨g, hg, rfl⟩ := List.mem_map.mp hf
  have hwritten : Yaml.Written g.2 := written_of_mem_savedFields hc hg
  exact hwritten

/-! ## Reading the mapping -/

/-- Respelling leaves alone what has no keys. -/
theorem snakeKeys_written {v : Value} (hv : Yaml.Written v) : snakeKeys v = .ok v := by
  cases hv with
  | bool b => rfl
  | list xs =>
    have hitems : snakeItems (xs.map .str) = .ok (xs.map .str) := by
      induction xs with
      | nil => rfl
      | cons x xs ih =>
        have hx : snakeKeys (.str x) = .ok (.str x) := rfl
        rw [List.map_cons, snakeItems, hx, ok_bind, ih]
        rfl
    rw [snakeKeys, hitems]
    rfl

/-- Fields are read from any spelling of their keys that is converted to them. -/
theorem snakeEntries_entries (spell : String → String) {fields : List (String × Value)}
    (hkeys : ∀ f ∈ fields, String.ofList (Text.snakeCase (spell f.1).toList) = f.1)
    (hvalues : ∀ f ∈ fields, snakeKeys f.2 = .ok f.2) :
    snakeEntries (entries (fields.map fun f => (spell f.1, f.2))) = .ok (entries fields) := by
  induction fields with
  | nil => rfl
  | cons f fields ih =>
    have hkey : snakeKey (.str (spell f.1)) = .ok (.str f.1) := by
      rw [snakeKey, hkeys f List.mem_cons_self]
    have hvalue := hvalues f List.mem_cons_self
    have hrest := ih (fun g hg => hkeys g (List.mem_cons_of_mem _ hg))
      fun g hg => hvalues g (List.mem_cons_of_mem _ hg)
    show snakeEntries ((.str _, f.2) :: entries (fields.map _)) = _
    rw [snakeEntries, hkey, ok_bind, hvalue, ok_bind, hrest]
    rfl

/-- The keys of a saved file are respelled to the names of the fields. -/
theorem snakeKeys_fileFields [Pattern.Compiler] (hc : c.Sound t) :
    snakeKeys (.map (entries (fileFields c))) = .ok (.map (entries (savedFields c))) := by
  have hentries : snakeEntries (entries (fileFields c)) = .ok (entries (savedFields c)) :=
    snakeEntries_entries (fun key => String.ofList (Text.camelCase key.toList))
      (fun _ hf => snakeCase_camelCase (known_of_mem_savedFields c hf))
      fun _ hf => snakeKeys_written (written_of_mem_savedFields hc hf)
  rw [snakeKeys, hentries, ok_bind, Value.ofEntries_entries (nodup_keys_savedFields c)]
  rfl

/-- No key of a saved file gives a warning. -/
theorem unknownKeys_entries {fields : List (String × Value)}
    (h : ∀ f ∈ fields, f.1 ∈ listKeys ++ switchKeys) : unknownKeys (entries fields) = .ok [] := by
  have hknown : ((entries fields).map Prod.fst).filter (!isKnown ·) = [] := by
    rw [List.filter_eq_nil_iff]
    intro k hk
    obtain ⟨e, he, rfl⟩ := List.mem_map.mp hk
    obtain ⟨f, hf, rfl⟩ := List.mem_map.mp he
    have hkey := h f hf
    rw [List.mem_append] at hkey
    simp only [isKnown, Bool.not_eq_true', Bool.not_eq_false, Bool.or_eq_true,
      List.contains_iff_mem]
    exact hkey
  rw [unknownKeys, hknown, List.mapM_nil, pure_eq_ok, ok_bind, List.mergeSort_nil, pure_eq_ok]

/-- Fields that are read as they stand are found by their keys. -/
theorem fieldsAt_entries {fields : List (String × Value)}
    {read : String → Value → Except Fault Value} {keys : List String}
    (h : ∀ f ∈ fields, f.1 ∈ keys → read f.1 f.2 = .ok f.2) :
    fieldsAt (entries fields) read keys =
      .ok (keys.filterMap fun key => fields.find? (·.1 == key)) := by
  let find (key : String) : Option (String × Value) := fields.find? (·.1 == key)
  show _ = Except.ok (keys.filterMap find)
  induction keys with
  | nil => rfl
  | cons key keys ih =>
    have hrest := ih fun f hf hkey => h f hf (List.mem_cons_of_mem _ hkey)
    rw [fieldsAt, Value.lookupIn_entries]
    -- a field that was left out is passed over, any other is read as it is
    cases hfind : find key with
    | none =>
      have hnone : fields.find? (·.1 == key) = none := hfind
      rw [List.filterMap_cons_none hfind, hnone]
      exact hrest
    | some f =>
      have hsome : fields.find? (·.1 == key) = some f := hfind
      have hkey : f.1 = key := beq_iff_eq.mp (by simpa only using List.find?_some hsome)
      have hread := h f (List.mem_of_find?_eq_some hsome) (hkey ▸ List.mem_cons_self)
      rw [hkey] at hread
      rw [List.filterMap_cons_some hfind, hsome, Option.map_some]
      dsimp only
      rw [hread, ok_bind, hrest, ← hkey]
      rfl

theorem listOf_textsValue (key : String) (xs : List String) :
    listOf key (textsValue xs) = .ok (textsValue xs) := by
  have htexts : (xs.map Value.str).mapM Value.written = .ok (xs.map id) :=
    mapM_map_eq_ok fun x _ => rfl
  rw [textsValue, listOf, htexts, List.map_id, ok_bind]
  rfl

/-! ## The fields that are found -/

theorem filterMap_cons_toList {α β : Type} (f : α → Option β) (x : α) (xs : List α) :
    (x :: xs).filterMap f = (f x).toList ++ xs.filterMap f := by
  rw [List.filterMap_cons]
  cases f x <;> rfl

theorem toList_ite (key : String) (present : Bool) (v : Value) :
    (if present then some (key, v) else none).toList = optional key present v := by
  cases present <;> rfl

/-- The fields of a file that hold lists, in the order in which they are read. -/
def listFields (c : FilterConfig) : List (String × Value) :=
  optional "global_filters" (!c.globalFilters.isEmpty)
    (textsValue (c.globalFilters.map (·.text))) ++
  (optional "path_filters" (!c.pathFilters.isEmpty) (textsValue (c.pathFilters.map (·.text))) ++
  (optional "source_roots" (!c.sourceRoots.isEmpty) (textsValue (savedRoots c)) ++
  optional "suppressible_severities" (c.suppressible != Severity.all) (textsValue (savedWords c))))

/-- The fields of a file that hold switches, in the order in which they are read. -/
def switchFields (c : FilterConfig) : List (String × Value) :=
  optional "check_unused" true c.checkUnused ++
  (optional "report_unused_in_macro_expansion" (!c.reportUnusedInMacroExpansion.truthy)
    (.bool false) ++
  optional "defer_unregistered" c.deferUnregistered.truthy (.bool true))

/-- The lists of a saved file are read back. -/
theorem fieldsAt_listKeys [Pattern.Compiler] (hc : c.Sound t) :
    fieldsAt (entries (savedFields c)) listOf listKeys = .ok (listFields c) := by
  have hread : ∀ f ∈ savedFields c, f.1 ∈ listKeys → listOf f.1 f.2 = .ok f.2 := by
    intro f hf hkey
    rcases shape_of_mem_savedFields hc hf with ⟨-, xs, hxs⟩ | ⟨hswitch, -⟩
    · rw [hxs, listOf_textsValue]
    · have hapart : ∀ key ∈ switchKeys, key ∉ listKeys := by decide
      exact absurd hkey (hapart f.1 hswitch)
  rw [fieldsAt_entries hread]
  simp only [savedFields_eq_optional, List.find?_append, find?_optional, listKeys,
    filterMap_cons_toList, List.filterMap_nil, String.reduceBEq, Bool.and_true, Bool.and_false,
    Bool.false_eq_true, ite_false, Option.none_or, Option.or_none, toList_ite, List.append_nil]
  rfl

/-- The switches of a saved file are read back. -/
theorem fieldsAt_switchKeys [Pattern.Compiler] (hc : c.Sound t) :
    fieldsAt (entries (savedFields c)) switchOf switchKeys = .ok (switchFields c) := by
  have hread : ∀ f ∈ savedFields c, f.1 ∈ switchKeys → switchOf f.1 f.2 = .ok f.2 := by
    intro f hf hkey
    rcases shape_of_mem_savedFields hc hf with ⟨hlist, -⟩ | ⟨-, b, hb⟩
    · have hapart : ∀ key ∈ listKeys, key ∉ switchKeys := by decide
      exact absurd hkey (hapart f.1 hlist)
    · rw [hb, switchOf]
  rw [fieldsAt_entries hread]
  simp only [savedFields_eq_optional, List.find?_append, find?_optional, switchKeys,
    filterMap_cons_toList, List.filterMap_nil, String.reduceBEq, Bool.and_true, Bool.and_false,
    Bool.false_eq_true, ite_false, Option.none_or, Option.or_none, toList_ite, List.append_nil]
  rfl

/-! ## The raw values that they set -/

/-- A field that is left out only where its value is there already sets this value. -/
theorem setAll_optional_append {raw raw' : RawConfig} {key : String} {present : Bool}
    {v w : Value} {more : List (String × Value)} (hset : raw.set key w = .ok raw')
    (hpresent : present = true → v = w) (habsent : present = false → raw' = raw) :
    raw.setAll (optional key present v ++ more) = raw'.setAll more := by
  rw [setAll_append, setAll_optional]
  cases present with
  | false => rw [habsent rfl]; rfl
  | true => rw [if_pos rfl, hpresent rfl, hset, ok_bind]

/-- The raw values of a configuration that is seen from a base directory. -/
def savedRaw (c : FilterConfig) (baseDir : Path) : RawConfig where
  globalFilters := textsValue (c.globalFilters.map (·.text))
  pathFilters := textsValue (c.pathFilters.map (·.text))
  sourceRoots := textsValue (savedRoots c)
  checkUnused := c.checkUnused
  reportUnusedInMacroExpansion := c.reportUnusedInMacroExpansion
  deferUnregistered := c.deferUnregistered
  severities := if c.suppressible = Severity.all then .null else textsValue (savedWords c)
  baseDir := some baseDir

/-- The fields of a file that are there, and the defaults for those that are not, are the values
    of the configuration. -/
theorem setAll_savedFields [Pattern.Compiler] (hc : c.Sound t) (baseDir : Path) :
    RawConfig.setAll { baseDir := some baseDir } (listFields c ++ switchFields c) =
      .ok (savedRaw c baseDir) := by
  obtain ⟨report, hreport⟩ := hc.reportUnusedInMacroExpansion
  obtain ⟨defer, hdefer⟩ := hc.deferUnregistered
  have hlist {α : Type} {xs : List α} (f : α → String) (h : (!xs.isEmpty) = false) :
      textsValue (xs.map f) = .list [] := by
    rw [Bool.not_eq_false', List.isEmpty_iff] at h
    rw [h]
    rfl
  rw [listFields, switchFields, ← List.append_nil (optional "defer_unregistered" _ _)]
  simp only [List.append_assoc]
  -- each field in turn: it is there with the value, or the default is the value already
  rw [setAll_optional_append (w := textsValue (c.globalFilters.map (·.text))) rfl (fun _ => rfl)
    fun h => by rw [hlist _ h]]
  dsimp only
  rw [setAll_optional_append (w := textsValue (c.pathFilters.map (·.text))) rfl (fun _ => rfl)
    fun h => by rw [hlist _ h]]
  dsimp only
  rw [setAll_optional_append (w := textsValue (savedRoots c)) rfl (fun _ => rfl)
    fun h => by rw [savedRoots, hlist _ h]]
  dsimp only
  rw [setAll_optional_append
    (w := if c.suppressible = Severity.all then .null else textsValue (savedWords c)) rfl
    (fun h => (if_neg (bne_iff_ne.mp h)).symm) fun h => by rw [if_pos (by simpa using h)]]
  dsimp only
  rw [setAll_optional_append (w := c.checkUnused) rfl (fun _ => rfl)
    fun h : true = false => nomatch h]
  dsimp only
  rw [setAll_optional_append (w := c.reportUnusedInMacroExpansion) rfl
    (fun h => by rw [hreport] at h ⊢; cases report <;> trivial)
    fun h => by rw [hreport] at h ⊢; cases report <;> trivial]
  dsimp only
  rw [setAll_optional_append (w := c.deferUnregistered) rfl
    (fun h => by rw [hdefer] at h ⊢; cases defer <;> trivial)
    fun h => by rw [hdefer] at h ⊢; cases defer <;> trivial]
  rfl

end Config

end Muffle
