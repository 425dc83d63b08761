/-
  Muffle.Proofs.Config.Plain

  What becomes of a configuration, without the notices that are given on the way. Notices are only
  ever added, so a computation that gives some ends with the same result or fault whatever was
  given before; here each way to a configuration is followed by a plain description of its result.
  The raw values of a configuration are read and set by their names, so that the order in which a
  mapping sets them does not matter.
-/

import Muffle.Proofs.Config.Provenance

namespace Muffle

/-! ## Results without notices -/

namespace Noticed

variable {α β : Type} {x : Noticed α} {f : α → Noticed β} {g : α → Except Fault β}
  {d : Except Fault α}

/-- Whatever notices were given before, the computation ends with a certain result or fault. -/
def Yields (x : Noticed α) (d : Except Fault α) : Prop := ∀ ns, (x.on ns).1 = d

theorem yields_ofExcept (d : Except Fault α) : Yields (ofExcept d) d := fun _ => rfl

theorem yields_pure (a : α) : Yields (pure a) (.ok a) := fun _ => rfl

/-- Results without notices go through a sequence. -/
theorem Yields.bind (hx : Yields x d) (hf : ∀ a, Yields (f a) (g a)) :
    Yields (x >>= f) (d >>= g) := by
  intro ns
  rw [on_bind, ← hx ns]
  rcases x.on ns with ⟨fault | a, ns'⟩
  · rfl
  · exact hf a ns'

theorem Yields.bind_ofExcept {d : Except Fault α} (hf : ∀ a, d = .ok a → Yields (f a) (g a)) :
    Yields (ofExcept d >>= f) (d >>= g) := by
  intro ns
  cases d with
  | error fault => rfl
  | ok a =>
    rw [on_ofExcept_bind rfl]
    exact hf a rfl ns

/-- A notice changes no result. -/
theorem Yields.notify_bind {n : Notice} {y : Noticed α} (hy : Yields y d) :
    Yields (do notify n; y) d := fun ns => hy (ns ++ [n])

end Noticed

open Noticed (Yields)

namespace RawConfig

variable {t : FileTree} {raw raw' : RawConfig}

/-! ## Building -/

/-- Of the paths that some values name those that are directories, in absolute form. -/
def plainRoots (t : FileTree) (baseDir : Option Path) : List Value → Except Fault (List Path)
  | [] => .ok []
  | root :: rest => do
    let p ← pathOf root
    let found ← t.isDirectory (seenFrom baseDir p)
    let roots ← plainRoots t baseDir rest
    return if found then t.absolute (seenFrom baseDir p) :: roots else roots

/-- The configuration that is built from raw values. -/
def plain [Pattern.Compiler] (t : FileTree) (raw : RawConfig) : Except Fault FilterConfig := do
  let globals ← compileOption "globalFilters" raw.globalFilters
  let paths ← compileOption "pathFilters" raw.pathFilters
  let severities ← readSeverities raw.severities
  let roots ← plainRoots t raw.baseDir (← raw.sourceRoots.parts)
  return {
    globalFilters := globals
    pathFilters := paths
    sourceRoots := roots
    checkUnused := raw.checkUnused
    reportUnusedInMacroExpansion := raw.reportUnusedInMacroExpansion
    deferUnregistered := raw.deferUnregistered
    suppressible := severities
    baseDir := raw.baseDir.map t.absolute }

/-- Source roots that are left out are only noticed. -/
theorem yields_validRoots (t : FileTree) (baseDir : Option Path) (values : List Value) :
    Yields (validRoots t baseDir values) (plainRoots t baseDir values) := by
  induction values with
  | nil => exact Noticed.yields_pure []
  | cons root rest ih =>
    rw [validRoots_cons, plainRoots]
    refine (Noticed.yields_ofExcept _).bind fun p => ?_
    refine (Noticed.yields_ofExcept _).bind fun found => ?_
    cases found with
    | true => exact ih.bind fun roots => Noticed.yields_pure _
    | false =>
      simp only [Bool.false_eq_true, if_false]
      rw [bind_pure]
      exact ih.notify_bind

/-- The configuration that is built does not depend on what was noticed before. -/
theorem yields_build [Pattern.Compiler] (t : FileTree) (raw : RawConfig) :
    Yields (raw.build t) (raw.plain t) := by
  unfold build plain
  refine (Noticed.yields_ofExcept _).bind fun globals => ?_
  refine (Noticed.yields_ofExcept _).bind fun paths => ?_
  refine (Noticed.yields_ofExcept _).bind fun severities => ?_
  refine (Noticed.yields_ofExcept _).bind fun values => ?_
  exact (yields_validRoots t _ values).bind fun roots => Noticed.yields_pure _

/-! ## Raw values by name -/

/-- The raw value with a name in snake case. -/
def get (raw : RawConfig) (name : String) : Value :=
  match name with
  | "global_filters" => raw.globalFilters
  | "path_filters" => raw.pathFilters
  | "source_roots" => raw.sourceRoots
  | "check_unused" => raw.checkUnused
  | "report_unused_in_macro_expansion" => raw.reportUnusedInMacroExpansion
  | "defer_unregistered" => raw.deferUnregistered
  | "suppressible_severities" => raw.severities
  | _ => .null

/-- The names of all raw values. -/
def names : List String := Config.listKeys ++ Config.switchKeys

/-- Raw values with the same values at all names are the same. -/
theorem eq_of_get (h : ∀ name ∈ names, raw.get name = raw'.get name)
    (hbase : raw.baseDir = raw'.baseDir) : raw = raw' := by
  obtain ⟨globals, paths, roots, unused, report, defer, severities, base⟩ := raw
  obtain ⟨globals', paths', roots', unused', report', defer', severities', base'⟩ := raw'
  have hglobals : globals = globals' := h "global_filters" (by decide)
  have hpaths : paths = paths' := h "path_filters" (by decide)
  have hroots : roots = roots' := h "source_roots" (by decide)
  have hunused : unused = unused' := h "check_unused" (by decide)
  have hreport : report = report' := h "report_unused_in_macro_expansion" (by decide)
  have hdefer : defer = defer' := h "defer_unregistered" (by decide)
  have hseverities : severities = severities' := h "suppressible_severities" (by decide)
  have hbase' : base = base' := hbase
  subst hglobals hpaths hroots hunused hreport hdefer hseverities hbase'
  rfl

theorem mem_names_iff {name : String} :
    name ∈ names ↔ name = "global_filters" ∨ name = "path_filters" ∨ name = "source_roots" ∨
      name = "suppressible_severities" ∨ name = "check_unused" ∨
      name = "report_unused_in_macro_expansion" ∨ name = "defer_unregistered" := by
  simp [names, Config.listKeys, Config.switchKeys]

/-- To set a raw value by its name changes this one and no other. -/
theorem exists_set {name : String} (h : name ∈ names) (raw : RawConfig) (v : Value) :
    ∃ raw', raw.set name v = .ok raw' ∧ raw'.baseDir = raw.baseDir ∧
      ∀ key ∈ names, raw'.get key = if key = name then v else raw.get key := by
  rcases mem_names_iff.mp h with rfl | rfl | rfl | rfl | rfl | rfl | rfl <;>
  refine ⟨_, rfl, rfl, fun key hkey => ?_⟩ <;>
  rcases mem_names_iff.mp hkey with rfl | rfl | rfl | rfl | rfl | rfl | rfl <;>
  rfl

/-- Fields with different known names set the values at these names. -/
theorem exists_setAll {fields : List (String × Value)} (hknown : ∀ f ∈ fields, f.1 ∈ names)
    (hnodup : (fields.map (·.1)).Nodup) (raw : RawConfig) :
    ∃ raw', raw.setAll fields = .ok raw' ∧ raw'.baseDir = raw.baseDir ∧
      ∀ key ∈ names, raw'.get key =
        ((fields.find? (·.1 == key)).map (·.2)).getD (raw.get key) := by
  induction fields generalizing raw with
  | nil => exact ⟨raw, rfl, rfl, fun _ _ => rfl⟩
  | cons f fields ih =>
    obtain ⟨hf, hfields⟩ := List.forall_mem_cons.mp hknown
    rw [List.map_cons, List.nodup_cons] at hnodup
    obtain ⟨hfresh, hnodup⟩ := hnodup
    obtain ⟨raw₁, hset, hbase₁, hget₁⟩ := exists_set hf raw f.2
    obtain ⟨raw₂, hsetAll, hbase₂, hget₂⟩ := ih hfields hnodup raw₁
    refine ⟨raw₂, ?_, hbase₂.trans hbase₁, fun key hkey => ?_⟩
    · rw [setAll, List.foldlM_cons, hset]
      exact hsetAll
    · rw [hget₂ key hkey, hget₁ key hkey]
      by_cases hname : key = f.1
      · -- no later field has the name
        have hlater : fields.find? (·.1 == key) = none := by
          rw [List.find?_eq_none]
          intro g hg heq
          exact hfresh (List.mem_map.mpr ⟨g, hg, (beq_iff_eq.mp heq).trans hname⟩)
        rw [hlater, if_pos hname, List.find?_cons_of_pos (by simp [hname])]
        rfl
      · rw [if_neg hname, List.find?_cons_of_neg (by simp [Ne.symm hname])]

end RawConfig

/-! ## Mappings -/

namespace Config

/-- The values that a mapping has at some keys, with these keys. -/
def foundAt (es : List (Value × Value)) (keys : List String) : List (String × Value) :=
  keys.filterMap fun key => (Value.lookupIn (.str key) es).map fun v => (key, v)

variable {es : List (Value × Value)} {key : String}

/-- A key that is not there is passed over. -/
theorem foundAt_cons_none (h : Value.lookupIn (.str key) es = none) (keys : List String) :
    foundAt es (key :: keys) = foundAt es keys :=
  List.filterMap_cons_none (by rw [h]; rfl)

theorem foundAt_cons_some {v : Value} (h : Value.lookupIn (.str key) es = some v)
    (keys : List String) : foundAt es (key :: keys) = (key, v) :: foundAt es keys :=
  List.filterMap_cons_some (by rw [h]; rfl)

/-- Fields are read in the order of the keys that are known, not in that of the file. -/
theorem fieldsAt_eq_mapM (es : List (Value × Value)) (read : String → Value → Except Fault Value)
    (keys : List String) :
    fieldsAt es read keys =
      (foundAt es keys).mapM fun e => (read e.1 e.2).map fun x => (e.1, x) := by
  induction keys with
  | nil => rfl
  | cons key keys ih =>
    rw [fieldsAt]
    cases hfound : Value.lookupIn (.str key) es with
    | none =>
      rw [foundAt_cons_none hfound]
      exact ih
    | some v =>
      rw [foundAt_cons_some hfound, List.mapM_cons, ← ih]
      dsimp only
      cases read key v <;> rfl

/-- What is found is found under a known key. -/
theorem mem_foundAt {e : String × Value} {keys : List String} (h : e ∈ foundAt es keys) :
    e.1 ∈ keys ∧ Value.lookupIn (.str e.1) es = some e.2 := by
  obtain ⟨key, hkey, he⟩ := List.mem_filterMap.mp h
  obtain ⟨v, hv, rfl⟩ := Option.map_eq_some_iff.mp he
  exact ⟨hkey, hv⟩

/-- Values at keys are accepted if each that is found is. -/
theorem isOk_fieldsAt {read : String → Value → Except Fault Value} {keys : List String}
    (h : ∀ e ∈ foundAt es keys, (read e.1 e.2).isOk = true) :
    (fieldsAt es read keys).isOk = true := by
  rw [fieldsAt_eq_mapM, isOk_mapM_iff]
  intro e he
  rw [isOk_map]
  exact h e he

/-- A known key has the value that the file gives it. -/
theorem find?_foundAt (es : List (Value × Value)) (keys : List String) (key : String) :
    (foundAt es keys).find? (·.1 == key) =
      if key ∈ keys then (Value.lookupIn (.str key) es).map fun v => (key, v) else none := by
  induction keys with
  | nil => rfl
  | cons k keys ih =>
    -- the first known key is the one that is sought, or it does not matter
    by_cases hk : k = key
    · subst hk
      rw [if_pos List.mem_cons_self]
      cases hfound : Value.lookupIn (.str k) es with
      | none =>
        rw [foundAt_cons_none hfound, ih, hfound]
        exact ite_self none
      | some v =>
        rw [foundAt_cons_some hfound]
        exact List.find?_cons_of_pos (by simp)
    · have hmem : key ∈ k :: keys ↔ key ∈ keys := by simp [Ne.symm hk]
      simp only [hmem]
      rw [← ih]
      cases hfound : Value.lookupIn (.str k) es with
      | none => rw [foundAt_cons_none hfound]
      | some v =>
        rw [foundAt_cons_some hfound]
        exact List.find?_cons_of_neg (by simpa using hk)

theorem keys_foundAt (es : List (Value × Value)) (keys : List String) :
    ((foundAt es keys).map (·.1)).Sublist keys := by
  induction keys with
  | nil => exact List.nil_sublist _
  | cons key keys ih =>
    cases hfound : Value.lookupIn (.str key) es with
    | none =>
      rw [foundAt_cons_none hfound]
      exact ih.cons key
    | some v =>
      rw [foundAt_cons_some hfound]
      exact ih.cons_cons key

/-- The texts that a value in the place of a list stands for. -/
def textsOf (v : Value) : List String :=
  match v with
  | .str s => listTexts s.toList
  | .list xs => xs.map (·.text)
  | _ => []

/-- Whatever can be written is written as its text. -/
theorem eq_of_written {v : Value} {s : String} (h : v.written = .ok s) : s = v.text := by
  unfold Value.written at h
  split at h
  · cases h
    rfl
  · cases h

/-- Lists are read as the texts of their elements. -/
theorem eq_of_listOf {v x : Value} (h : listOf key v = .ok x) : x = textsValue (textsOf v) := by
  cases v with
  | null =>
    cases h
    rfl
  | str s =>
    cases h
    rfl
  | list xs =>
    obtain ⟨texts, htexts, h⟩ := bind_eq_ok_iff.mp h
    cases h
    rw [eq_of_mapM (fun _ _ => eq_of_written) htexts]
    rfl
  | _ => cases h

/-- Switches are read as they are. -/
theorem eq_of_switchOf {v x : Value} (h : switchOf key v = .ok x) : x = v := by
  cases v with
  | bool b =>
    cases h
    rfl
  | _ => cases h

/-- The raw value of a list: the texts that the mapping has for it, or a default. -/
def listAt (es : List (Value × Value)) (key : String) (default : Value) : Value :=
  ((Value.lookupIn (.str key) es).map fun v => textsValue (textsOf v)).getD default

/-- The raw value of a switch: the value that the mapping has for it, or a default. -/
def switchAt (es : List (Value × Value)) (key : String) (default : Bool) : Value :=
  (Value.lookupIn (.str key) es).getD (.bool default)

/-- The raw values that a mapping with keys in snake case sets. -/
def rawAt (es : List (Value × Value)) (baseDir : Option Path) : RawConfig where
  globalFilters := listAt es "global_filters" (.list [])
  pathFilters := listAt es "path_filters" (.list [])
  sourceRoots := listAt es "source_roots" (.list [])
  checkUnused := switchAt es "check_unused" false
  reportUnusedInMacroExpansion := switchAt es "report_unused_in_macro_expansion" true
  deferUnregistered := switchAt es "defer_unregistered" false
  severities := listAt es "suppressible_severities" .null
  baseDir := baseDir

/-- Fields whose values determine what is read are the found ones. -/
theorem eq_of_fieldsAt {read : String → Value → Except Fault Value} {g : Value → Value}
    (hread : ∀ key v x, read key v = .ok x → x = g v) {keys : List String}
    {fields : List (String × Value)} (h : fieldsAt es read keys = .ok fields) :
    fields = (foundAt es keys).map fun e => (e.1, g e.2) := by
  rw [fieldsAt_eq_mapM] at h
  refine eq_of_mapM (fun e y hy => ?_) h
  cases hx : read e.1 e.2 with
  | error f =>
    rw [hx] at hy
    cases hy
  | ok x =>
    rw [hx] at hy
    cases hy
    rw [hread _ _ _ hx]

theorem find?_fields (es : List (Value × Value)) (g : Value → Value) (keys : List String)
    (key : String) :
    (((foundAt es keys).map fun e => (e.1, g e.2)).find? (·.1 == key)).map (·.2) =
      if key ∈ keys then (Value.lookupIn (.str key) es).map g else none := by
  rw [List.find?_map]
  show (((foundAt es keys).find? (·.1 == key)).map _).map _ = _
  rw [find?_foundAt]
  by_cases h : key ∈ keys
  · rw [if_pos h, if_pos h]
    cases Value.lookupIn (.str key) es <;> rfl
  · rw [if_neg h, if_neg h]
    rfl

/-- The fields that are read from a mapping set its raw values. -/
theorem setAll_fieldsAt {lists switches : List (String × Value)}
    (hlists : fieldsAt es listOf listKeys = .ok lists)
    (hswitches : fieldsAt es switchOf switchKeys = .ok switches) (baseDir : Option Path) :
    RawConfig.setAll { baseDir := baseDir } (lists ++ switches) = .ok (rawAt es baseDir) := by
  have hlists' : lists = (foundAt es listKeys).map fun e => (e.1, textsValue (textsOf e.2)) :=
    eq_of_fieldsAt (fun _ _ _ h => eq_of_listOf h) hlists
  have hswitches' : switches = (foundAt es switchKeys).map fun e => (e.1, id e.2) :=
    eq_of_fieldsAt (fun _ _ _ h => eq_of_switchOf h) hswitches
  have hkeys : ((lists ++ switches).map (·.1)).Sublist RawConfig.names := by
    rw [hlists', hswitches', List.map_append, List.map_map, List.map_map]
    exact (keys_foundAt es listKeys).append (keys_foundAt es switchKeys)
  have hknown : ∀ f ∈ lists ++ switches, f.1 ∈ RawConfig.names :=
    fun f hf => hkeys.subset (List.mem_map_of_mem hf)
  -- all fields are known and none is set twice, so each keeps its value
  obtain ⟨raw, hset, hbase, hget⟩ :=
    RawConfig.exists_setAll hknown (hkeys.nodup (by decide)) { baseDir := baseDir }
  rw [hset]
  refine congrArg Except.ok (RawConfig.eq_of_get (fun key hkey => ?_) hbase)
  rw [hget key hkey, List.find?_append, Option.map_or, hlists', hswitches',
    find?_fields es (fun v => textsValue (textsOf v)), find?_fields]
  rcases RawConfig.mem_names_iff.mp hkey with rfl | rfl | rfl | rfl | rfl | rfl | rfl <;>
  simp [listKeys, switchKeys, RawConfig.get, rawAt, listAt, switchAt]

/-- The entries of the map that some entries make. -/
def merged (es : List (Value × Value)) : List (Value × Value) :=
  es.foldl (fun acc e => Value.insertIn e.1 e.2 acc) []

theorem snakeKeys_map (es : List (Value × Value)) :
    snakeKeys (.map es) = (snakeEntries es).map fun es => .map (merged es) := by
  rw [snakeKeys]
  cases snakeEntries es <;> rfl

/-- The configuration for a mapping. -/
def plainMapping [Pattern.Compiler] (t : FileTree) (es : List (Value × Value))
    (baseDir : Option Path) : Except Fault FilterConfig := do
  let es := merged (← snakeEntries es)
  let _ ← fieldsAt es listOf listKeys
  let _ ← fieldsAt es switchOf switchKeys
  let _ ← unknownKeys es
  (rawAt es baseDir).plain t

/-- A mapping is made into a configuration without looking at notices. -/
theorem yields_ofMapping [Pattern.Compiler] (t : FileTree) (es : List (Value × Value))
    (baseDir : Option Path) :
    Yields (ofMapping t es baseDir) (plainMapping t es baseDir) := by
  unfold ofMapping plainMapping
  rw [snakeKeys_map]
  cases snakeEntries es with
  | error f => exact fun _ => rfl
  | ok es =>
    have hconverted : (Except.ok es : Except Fault _).map (fun es => Value.map (merged es)) =
        .ok (.map (merged es)) := rfl
    intro ns
    rw [Noticed.on_ofExcept_bind hconverted, ok_bind]
    refine Noticed.Yields.bind_ofExcept (fun lists hlists => ?_) ns
    refine Noticed.Yields.bind_ofExcept fun switches hswitches => ?_
    refine Noticed.Yields.bind_ofExcept fun unknown _ => ?_
    have hbuild : Yields (do
        let raw ← Noticed.ofExcept
          (RawConfig.setAll { baseDir := baseDir } (lists ++ switches))
        raw.build t) ((rawAt (merged es) baseDir).plain t) := by
      rw [setAll_fieldsAt hlists hswitches]
      exact RawConfig.yields_build t _
    -- the notice of unknown keys changes nothing else
    cases !unknown.isEmpty with
    | false => exact hbuild
    | true => exact hbuild.notify_bind

end Config

end Muffle
