/-
  Muffle.Proofs.Config.Provenance

  Where configurations come from, and what holds of all of them. A configuration is built from raw
  values, from the options of a host, or from a file. In each case its filters hold what their
  texts compile to, its source roots are the absolute forms of directories, its severities stand
  in the order of all severities, and its switches are truth values if the raw ones are.
-/

import Muffle.Config.Store
import Muffle.Proofs.FileTree

namespace Muffle

/-! ## Steps that give notices -/

namespace Noticed

variable {α β : Type} {x : Noticed α} {f : α → Noticed β} {ns ns' : List Notice}

theorem on_bind (x : Noticed α) (f : α → Noticed β) (ns : List Notice) :
    (x >>= f).on ns =
      match x.on ns with
      | (.ok a, ns') => (f a).on ns'
      | (.error fault, ns') => (.error fault, ns') := by
  show (ExceptT.bindCont f (x.on ns).1) (x.on ns).2 = _
  rcases x.on ns with ⟨_ | a, ns'⟩ <;> rfl

/-- A sequence that succeeds has a first step that does. -/
theorem on_bind_eq_ok {b : β} (h : (x >>= f).on ns = (.ok b, ns')) :
    ∃ a mid, x.on ns = (.ok a, mid) ∧ (f a).on mid = (.ok b, ns') := by
  rw [on_bind] at h
  rcases hx : x.on ns with ⟨_ | a, mid⟩
  · rw [hx] at h
    cases h
  · rw [hx] at h
    exact ⟨a, mid, rfl, h⟩

theorem on_ofExcept_bind {e : Except Fault α} {a : α} (he : e = .ok a) :
    (ofExcept e >>= f).on ns = (f a).on ns := by
  rw [on_bind, he]
  rfl

/-- The same where the first step gives no notices. -/
theorem of_on_ofExcept_bind {e : Except Fault α} {b : β}
    (h : (ofExcept e >>= f).on ns = (.ok b, ns')) :
    ∃ a, e = .ok a ∧ (f a).on ns = (.ok b, ns') := by
  obtain ⟨a, mid, he, hf⟩ := on_bind_eq_ok h
  have hpair : (e, ns) = (.ok a, mid) := he
  cases hpair
  exact ⟨a, rfl, hf⟩

end Noticed

/-! ## Filters -/

section Filters

variable [Pattern.Compiler]

namespace PatternFilter

/-- A filter holds what its text compiles to. -/
def Compiled (f : PatternFilter) : Prop :=
  Pattern.Compiler.compile f.text = .ok f.program

/-- A filter that was compiled holds the pattern of its text. -/
theorem compiled_of_compile {v source : Value} {f : PatternFilter}
    (h : compile v source = .ok f) : f.Compiled := by
  cases v with
  | str text =>
    rw [compile, compileText] at h
    split at h
    · rename_i program hprogram
      cases h
      exact hprogram
    · cases h
  | _ =>
    rw [compile] at h
    · obtain ⟨_, -, h⟩ := bind_eq_ok_iff.mp h
      cases h
    · nofun

/-- To compile the text of a filter again gives the filter, up to its source. -/
theorem Compiled.compile_text {f : PatternFilter} (hf : f.Compiled) (source : Value) :
    compile (.str f.text) source = .ok { f with source := source } := by
  rw [compile, compileText, show Pattern.Compiler.compile f.text = .ok f.program from hf]

end PatternFilter

namespace RawConfig

/-- All filters of an option are compiled. -/
theorem compiled_of_compileOption {option : String} {patterns : Value} {fs : List PatternFilter}
    (h : compileOption option patterns = .ok fs) : ∀ f ∈ fs, f.Compiled := by
  have hall : PatternFilter.compileAll patterns (.str option) = .ok fs := by
    rw [compileOption] at h
    split at h
    · cases h
    · exact h
  obtain ⟨xs, -, hmap⟩ := bind_eq_ok_iff.mp hall
  intro f hf
  obtain ⟨x, -, hx⟩ := exists_of_mapM hmap f hf
  exact PatternFilter.compiled_of_compile hx

/-- The texts of compiled filters compile again, to the same programs. -/
theorem compileOption_texts {fs : List PatternFilter} (h : ∀ f ∈ fs, f.Compiled)
    (option : String) :
    compileOption option (Config.textsValue (fs.map (·.text))) =
      .ok (fs.map fun f => { f with source := .str option }) := by
  have hall : PatternFilter.compileAll (Config.textsValue (fs.map (·.text))) (.str option) =
      .ok (fs.map fun f => { f with source := .str option }) := by
    show ((fs.map (·.text)).map Value.str).mapM _ = _
    rw [List.map_map]
    exact mapM_map_eq_ok fun f hf => (h f hf).compile_text (.str option)
  rw [compileOption, hall]

end RawConfig

end Filters

/-! ## Severities -/

namespace RawConfig

/-- A set of severities has one form. -/
theorem severitySet_severitySet (ss : List Severity) :
    FilterConfig.severitySet (FilterConfig.severitySet ss) = FilterConfig.severitySet ss := by
  refine List.filter_congr fun s _ => ?_
  rw [FilterConfig.severitySet, Bool.eq_iff_iff, List.contains_iff_mem, List.contains_iff_mem,
    List.mem_filter, List.contains_iff_mem]
  exact ⟨fun h => h.2, fun h => ⟨by cases s <;> decide, h⟩⟩

theorem severitySet_of_readSeverities {v : Value} {ss : List Severity}
    (h : readSeverities v = .ok ss) : FilterConfig.severitySet ss = ss := by
  cases v with
  | null =>
    cases h
    decide
  | _ =>
    obtain ⟨xs, -, h⟩ := bind_eq_ok_iff.mp h
    obtain ⟨ys, -, h⟩ := bind_eq_ok_iff.mp h
    cases h
    exact severitySet_severitySet ys

/-- A severity is read back from its word. -/
theorem readSeverity_word (s : Severity) : readSeverity (.str s.word) = .ok s := by
  cases s <;> rfl

/-- The words of severities in order are read as these severities, and no words as none. -/
theorem readSeverities_words {ss : List Severity} (h : FilterConfig.severitySet ss = ss) :
    readSeverities (Config.textsValue (ss.map (·.word))) = .ok ss := by
  have hmap : (ss.map fun s => Value.str s.word).mapM readSeverity = .ok (ss.map id) :=
    mapM_map_eq_ok fun s _ => readSeverity_word s
  rw [Config.textsValue, List.map_map]
  show (ss.map fun s => Value.str s.word).mapM readSeverity >>= _ = _
  rw [hmap, List.map_id, ok_bind, h, pure_eq_ok]

end RawConfig

/-! ## Source roots -/

/-- An absolute path that a text can name and a file system can follow. -/
structure Path.Anchored (p : Path) : Prop where
  isAbsolute : p.isAbsolute = true
  proper : p.Proper
  passable : p.Passable

/-- A source root as configurations hold it: the normalized absolute path of a directory. -/
structure FileTree.IsRoot (t : FileTree) (p : Path) : Prop where
  proper : p.Proper
  passable : p.Passable
  canonical : p.Canonical
  isOpen : t.Open p.parts
  isDirectory : t.node? p.parts = some .directory

variable {t : FileTree} {p : Path}

/-- A directory that is made absolute can be a source root. -/
theorem FileTree.isRoot_absolute (hwork : t.workDir.Anchored) (hp : p.Proper)
    (hdir : t.leadsToDirectory p = true) : t.IsRoot (t.absolute p) := by
  have habsolute : (t.workDir.join p).isAbsolute = true := Path.isAbsolute_join hwork.isAbsolute p
  obtain ⟨place, hplace, hnode⟩ := leadsToDirectory_iff.mp hdir
  obtain ⟨hopen, rfl⟩ := placeOf_eq hwork.isAbsolute hplace
  have hpassable : (t.workDir.join p).Passable :=
    hwork.passable.join (placeOf_eq_ok_iff.mp hplace).1
  exact {
    proper := (hwork.proper.join hp).normalize habsolute
    passable := fun part hpart => hpassable part (Path.mem_normalize habsolute hpart).2
    canonical := Path.canonical_normalize habsolute
    isOpen := hopen
    isDirectory := hnode }

/-- Source roots stay source roots when files are added. -/
theorem FileTree.IsRoot.grows {t' : FileTree} (h : t.IsRoot p) (hgrows : FileTree.Grows t t') :
    t'.IsRoot p where
  proper := h.proper
  passable := h.passable
  canonical := h.canonical
  isOpen := hgrows.open h.isOpen
  isDirectory := hgrows.directory _ h.isDirectory

theorem FileTree.IsRoot.leadsToDirectory_self (h : t.IsRoot p) : t.leadsToDirectory p = true :=
  FileTree.leadsToDirectory_iff.mpr
    ⟨_, placeOf_canonical h.canonical h.passable h.isOpen, h.isDirectory⟩

namespace RawConfig

/-- A path as it is seen from the base directory, if there is one. -/
def seenFrom (baseDir : Option Path) (p : Path) : Path :=
  match baseDir with
  | some dir => dir.join p
  | none => p

theorem validRoots_cons (t : FileTree) (baseDir : Option Path) (root : Value)
    (rest : List Value) :
    validRoots t baseDir (root :: rest) = (do
      let p ← Noticed.ofExcept (pathOf root)
      if ← Noticed.ofExcept (t.isDirectory (seenFrom baseDir p)) then
        return t.absolute (seenFrom baseDir p) :: (← validRoots t baseDir rest)
      else
        Noticed.notify (.invalidSourceRoot root.text)
        validRoots t baseDir rest) := by
  cases baseDir <;> rfl

/-- The roots that are kept are absolute, and directories. -/
theorem isRoot_of_validRoots (hwork : t.workDir.Anchored) {baseDir : Option Path}
    (hbase : ∀ dir ∈ baseDir, dir.Proper) {values : List Value} {roots : List Path}
    {ns ns' : List Notice} (h : (validRoots t baseDir values).on ns = (.ok roots, ns')) :
    ∀ root ∈ roots, t.IsRoot root := by
  induction values generalizing roots ns ns' with
  | nil =>
    cases h
    exact fun _ hroot => absurd hroot List.not_mem_nil
  | cons value values ih =>
    rw [validRoots_cons] at h
    obtain ⟨p, hpath, h⟩ := Noticed.of_on_ofExcept_bind h
    have hp : p.Proper := by
      cases value <;> cases hpath
      exact Path.proper_ofText _
    have hproper : (seenFrom baseDir p).Proper := by
      cases baseDir with
      | none => exact hp
      | some dir => exact (hbase dir rfl).join hp
    obtain ⟨found, hfound, h⟩ := Noticed.of_on_ofExcept_bind h
    cases found with
    | true =>
      obtain ⟨-, hdir⟩ := FileTree.isDirectory_eq_ok_iff.mp hfound
      obtain ⟨rest, mid, hrest, h⟩ := Noticed.on_bind_eq_ok h
      cases h
      intro root hroot
      rcases List.mem_cons.mp hroot with rfl | hroot
      · exact FileTree.isRoot_absolute hwork hproper hdir
      · exact ih hrest root hroot
    | false =>
      -- what is no directory is left out, with a notice
      obtain ⟨_, mid, -, h⟩ := Noticed.on_bind_eq_ok h
      exact ih h

end RawConfig

/-! ## Configurations -/

/-- A truth value. -/
def Value.IsBool (v : Value) : Prop := ∃ b, v = .bool b

/-- The three switches are truth values. -/
structure RawConfig.HasSwitches (raw : RawConfig) : Prop where
  checkUnused : raw.checkUnused.IsBool
  reportUnusedInMacroExpansion : raw.reportUnusedInMacroExpansion.IsBool
  deferUnregistered : raw.deferUnregistered.IsBool

section Compiled

variable [Pattern.Compiler]

/-- What holds of every configuration that was made in a tree. -/
structure FilterConfig.Sound (t : FileTree) (c : FilterConfig) : Prop where
  globalFilters : ∀ f ∈ c.globalFilters, f.Compiled
  pathFilters : ∀ f ∈ c.pathFilters, f.Compiled
  sourceRoots : ∀ root ∈ c.sourceRoots, t.IsRoot root
  checkUnused : c.checkUnused.IsBool
  reportUnusedInMacroExpansion : c.reportUnusedInMacroExpansion.IsBool
  deferUnregistered : c.deferUnregistered.IsBool
  suppressible : FilterConfig.severitySet c.suppressible = c.suppressible

/-- The default configuration is sound. -/
theorem FilterConfig.sound_default (t : FileTree) : FilterConfig.Sound t {} where
  globalFilters := fun _ hf => absurd hf List.not_mem_nil
  pathFilters := fun _ hf => absurd hf List.not_mem_nil
  sourceRoots := fun _ hroot => absurd hroot List.not_mem_nil
  checkUnused := ⟨false, rfl⟩
  reportUnusedInMacroExpansion := ⟨true, rfl⟩
  deferUnregistered := ⟨false, rfl⟩
  suppressible := by decide

variable {c : FilterConfig} {ns ns' : List Notice}

/-- A sound configuration stays sound when files are added. -/
theorem FilterConfig.Sound.grows {t' : FileTree} (hc : c.Sound t) (hgrows : FileTree.Grows t t') :
    c.Sound t' :=
  { hc with sourceRoots := fun root hroot => (hc.sourceRoots root hroot).grows hgrows }

/-- What is built from options is sound; only the switches have to be checked before. -/
theorem RawConfig.sound_of_build (hwork : t.workDir.Anchored) {raw : RawConfig}
    (hswitches : raw.HasSwitches) (hbase : ∀ dir ∈ raw.baseDir, dir.Proper)
    (h : (raw.build t).on ns = (.ok c, ns')) : c.Sound t := by
  obtain ⟨globals, hglobals, h⟩ := Noticed.of_on_ofExcept_bind h
  obtain ⟨paths, hpaths, h⟩ := Noticed.of_on_ofExcept_bind h
  obtain ⟨severities, hseverities, h⟩ := Noticed.of_on_ofExcept_bind h
  obtain ⟨values, -, h⟩ := Noticed.of_on_ofExcept_bind h
  obtain ⟨roots, mid, hroots, h⟩ := Noticed.on_bind_eq_ok h
  cases h
  exact {
    globalFilters := compiled_of_compileOption hglobals
    pathFilters := compiled_of_compileOption hpaths
    sourceRoots := isRoot_of_validRoots hwork hbase hroots
    checkUnused := hswitches.checkUnused
    reportUnusedInMacroExpansion := hswitches.reportUnusedInMacroExpansion
    deferUnregistered := hswitches.deferUnregistered
    suppressible := severitySet_of_readSeverities hseverities }

namespace Config

/-- Options of the command line make sound configurations. -/
theorem sound_of_ofOptions (hwork : t.workDir.Anchored) {options : Value} {baseDir : Option Path}
    (hbase : ∀ dir ∈ baseDir, dir.Proper)
    (h : (ofOptions t options baseDir).on ns = (.ok c, ns')) : c.Sound t := by
  obtain ⟨_, -, h⟩ := Noticed.of_on_ofExcept_bind h
  obtain ⟨s, mid, -, h⟩ := Noticed.on_bind_eq_ok h
  exact RawConfig.sound_of_build hwork ⟨⟨_, rfl⟩, ⟨_, rfl⟩, ⟨_, rfl⟩⟩ hbase h

/-! ## Mappings -/

omit [Pattern.Compiler] in
/-- Every field that is read belongs to a known key. -/
theorem mem_of_fieldsAt {es : List (Value × Value)} {f : String → Value → Except Fault Value}
    {keys : List String} {fields : List (String × Value)} (h : fieldsAt es f keys = .ok fields) :
    ∀ field ∈ fields, field.1 ∈ keys ∧ ∃ v, f field.1 v = .ok field.2 := by
  induction keys generalizing fields with
  | nil =>
    cases h
    exact fun _ hfield => absurd hfield List.not_mem_nil
  | cons key keys ih =>
    rw [fieldsAt] at h
    split at h
    · intro field hfield
      exact (ih h field hfield).imp (List.mem_cons_of_mem _) id
    · rename_i v _
      obtain ⟨x, hx, h⟩ := bind_eq_ok_iff.mp h
      obtain ⟨rest, hrest, h⟩ := bind_eq_ok_iff.mp h
      cases h
      intro field hfield
      rcases List.mem_cons.mp hfield with rfl | hfield
      · exact ⟨List.mem_cons_self, v, hx⟩
      · exact (ih hrest field hfield).imp (List.mem_cons_of_mem _) id

omit [Pattern.Compiler] in
theorem isBool_of_switchOf {key : String} {v x : Value} (h : switchOf key v = .ok x) :
    x.IsBool := by
  cases v with
  | bool b =>
    cases h
    exact ⟨b, rfl⟩
  | _ => cases h

omit [Pattern.Compiler] in
/-- Setting a value keeps the base directory, and keeps the switches truth values. -/
theorem set_eq_ok {raw raw' : RawConfig} {name : String} {v : Value}
    (h : raw.set name v = .ok raw') (hv : name ∈ switchKeys → v.IsBool) :
    raw'.baseDir = raw.baseDir ∧ (raw.HasSwitches → raw'.HasSwitches) := by
  unfold RawConfig.set at h
  split at h <;> cases h
  -- three of the values are switches
  case h_4 => exact ⟨rfl, fun hraw => { hraw with checkUnused := hv (by decide) }⟩
  case h_5 => exact ⟨rfl, fun hraw => { hraw with reportUnusedInMacroExpansion := hv (by decide) }⟩
  case h_6 => exact ⟨rfl, fun hraw => { hraw with deferUnregistered := hv (by decide) }⟩
  all_goals exact ⟨rfl, fun hraw => ⟨hraw.1, hraw.2, hraw.3⟩⟩

omit [Pattern.Compiler] in
/-- Fields that are set leave the base directory as it is, and the switches switches. -/
theorem setAll_eq_ok {raw raw' : RawConfig} {fields : List (String × Value)}
    (h : raw.setAll fields = .ok raw') (hfields : ∀ f ∈ fields, f.1 ∈ switchKeys → f.2.IsBool) :
    raw'.baseDir = raw.baseDir ∧ (raw.HasSwitches → raw'.HasSwitches) := by
  induction fields generalizing raw with
  | nil =>
    cases h
    exact ⟨rfl, id⟩
  | cons f fields ih =>
    rw [RawConfig.setAll, List.foldlM_cons, bind_eq_ok_iff] at h
    obtain ⟨mid, hset, h⟩ := h
    obtain ⟨hbase, hkeep⟩ := set_eq_ok hset (hfields f List.mem_cons_self)
    obtain ⟨hbase', hkeep'⟩ := ih h fun g hg => hfields g (List.mem_cons_of_mem _ hg)
    exact ⟨hbase'.trans hbase, hkeep' ∘ hkeep⟩

/-- Mappings make sound configurations. -/
theorem sound_of_ofMapping (hwork : t.workDir.Anchored) {entries : List (Value × Value)}
    {baseDir : Option Path} (hbase : ∀ dir ∈ baseDir, dir.Proper)
    (h : (ofMapping t entries baseDir).on ns = (.ok c, ns')) : c.Sound t := by
  obtain ⟨_, -, h⟩ := Noticed.of_on_ofExcept_bind h
  obtain ⟨lists, hlists, h⟩ := Noticed.of_on_ofExcept_bind h
  obtain ⟨switches, hswitches, h⟩ := Noticed.of_on_ofExcept_bind h
  obtain ⟨unknown, -, h⟩ := Noticed.of_on_ofExcept_bind h
  -- notice of unknown keys is given or not; the rest is the same
  have hrest : ∃ mid, (Noticed.ofExcept (RawConfig.setAll { baseDir := baseDir }
      (lists ++ switches)) >>= fun raw => raw.build t).on mid = (.ok c, ns') := by
    split at h
    · obtain ⟨_, mid, -, h⟩ := Noticed.on_bind_eq_ok h
      exact ⟨mid, h⟩
    · exact ⟨_, h⟩
  obtain ⟨mid, h⟩ := hrest
  obtain ⟨raw, hraw, h⟩ := Noticed.of_on_ofExcept_bind h
  have hfields : ∀ f ∈ lists ++ switches, f.1 ∈ switchKeys → f.2.IsBool := by
    intro f hf hkey
    rcases List.mem_append.mp hf with hf | hf
    · have hlist := (mem_of_fieldsAt hlists f hf).1
      have hapart : ∀ key ∈ listKeys, key ∉ switchKeys := by decide
      exact absurd hkey (hapart f.1 hlist)
    · obtain ⟨-, v, hv⟩ := mem_of_fieldsAt hswitches f hf
      exact isBool_of_switchOf hv
  obtain ⟨hdir, hkeep⟩ := setAll_eq_ok hraw hfields
  refine RawConfig.sound_of_build hwork (hkeep ⟨⟨_, rfl⟩, ⟨_, rfl⟩, ⟨_, rfl⟩⟩) ?_ h
  rw [hdir]
  exact hbase

/-- A file makes a sound configuration, whatever is in it. -/
theorem sound_of_load [Yaml.Codec] (hwork : t.workDir.Anchored) {usual : Path} {l : Location}
    (hroot : ∀ root ∈ l.projectRoot, root.Proper)
    (h : (load t usual l).on ns = (.ok c, ns')) : c.Sound t := by
  obtain ⟨file, -, h⟩ := Noticed.of_on_ofExcept_bind h
  obtain ⟨found, -, h⟩ := Noticed.of_on_ofExcept_bind h
  cases found with
  | true =>
    obtain ⟨v, -, h⟩ := Noticed.of_on_ofExcept_bind h
    split at h
    · -- an empty file
      cases h
      exact FilterConfig.sound_default t
    · obtain ⟨d, mid, hmapping, h⟩ := Noticed.on_bind_eq_ok h
      have hbase : (l.projectRoot.getD t.workDir).Proper := by
        cases hproject : l.projectRoot with
        | none => exact hwork.proper
        | some root => exact hroot root hproject
      obtain ⟨_, _, -, h⟩ := Noticed.on_bind_eq_ok h
      cases h
      exact sound_of_ofMapping hwork (by rintro dir ⟨⟩; exact hbase) hmapping
    · cases h
  | false =>
    -- no file
    obtain ⟨_, _, -, h⟩ := Noticed.on_bind_eq_ok h
    cases h
    exact FilterConfig.sound_default t

/-! ## All origins -/

/-- The configurations that are made in a tree: built from raw values whose switches are truth
    values, from the options of a host, or from a file. -/
inductive Made [Yaml.Codec] (t : FileTree) (c : FilterConfig) : Prop where
  | built {raw : RawConfig} {ns ns' : List Notice} (hswitches : raw.HasSwitches)
      (hbase : ∀ dir ∈ raw.baseDir, dir.Proper) (h : (raw.build t).on ns = (.ok c, ns'))
  | fromOptions {options : Value} {baseDir : Option Path} {ns ns' : List Notice}
      (hbase : ∀ dir ∈ baseDir, dir.Proper)
      (h : (ofOptions t options baseDir).on ns = (.ok c, ns'))
  | loaded {usual : Path} {l : Location} {ns ns' : List Notice}
      (hroot : ∀ root ∈ l.projectRoot, root.Proper) (h : (load t usual l).on ns = (.ok c, ns'))

/-- A configuration that the program made is sound, whichever way it was made. -/
theorem Made.sound [Yaml.Codec] (hwork : t.workDir.Anchored) (h : Made t c) : c.Sound t := by
  cases h with
  | built hswitches hbase h => exact RawConfig.sound_of_build hwork hswitches hbase h
  | fromOptions hbase h => exact sound_of_ofOptions hwork hbase h
  | loaded hroot h => exact sound_of_load hwork hroot h

end Config

end Compiled

end Muffle
