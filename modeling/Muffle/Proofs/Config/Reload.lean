/-
  Muffle.Proofs.Config.Reload

  A configuration that is saved and loaded again. The file is found where it was written, with its
  text; the mapping in it sets the raw values of the configuration; and building from these in the
  tree that the file was added to gives the same configuration, since every source root is still
  a directory and is named by the text that was saved for it.
-/

import Muffle.Pattern.Standard
import Muffle.Proofs.Config.SavedFields
import Muffle.Proofs.Identical

namespace Muffle.Config

open Value (entries)

variable {t t' : FileTree} {c : FilterConfig} {base root : Path} {ns : List Notice}

/-! ## Source roots -/

/-- Where a source root is looked for that was saved as seen from `baseDir` and is read as seen
    from `base`: at the same place below `base` if it lies in `baseDir`, else where it is. -/
def moved (baseDir : Option Path) (base root : Path) : Path :=
  match baseDir with
  | some dir => if root.isWithin dir then base.join (root.below dir) else root
  | none => root

theorem moved_eq_self {baseDir : Option Path} (h : baseDir = none ∨ baseDir = some base) :
    moved baseDir base root = root := by
  rcases h with rfl | rfl
  · rfl
  · rw [moved]
    split
    · rename_i hwithin
      exact (Path.eq_append_of_isWithin hwithin).symm
    · rfl

/-- The text that a source root is saved by leads to where the root is looked for. -/
theorem read_portableRoot (hwork : t.workDir.Anchored) (hroot : t.IsRoot root)
    (hdir : t.leadsToDirectory base = true) (baseDir : Option Path) :
    t.absolute (base.join (Path.ofText (portableRoot baseDir root))) =
        moved baseDir (t.absolute base) root ∧
      t.leadsToDirectory (base.join (Path.ofText (portableRoot baseDir root))) =
        t.leadsToDirectory (moved baseDir (t.absolute base) root) := by
  have hself : t.absolute (base.join (Path.ofText root.text)) = root ∧
      t.leadsToDirectory (base.join (Path.ofText root.text)) = t.leadsToDirectory root := by
    rw [Path.ofText_text hroot.proper, Path.join_of_isAbsolute hroot.canonical.isAbsolute]
    exact ⟨hroot.canonical.resolve_eq, rfl⟩
  cases baseDir with
  | none => exact hself
  | some dir =>
    rw [portableRoot, moved]
    split
    · -- the root lies in the directory and is named by the way down to it
      have hstraight := hroot.canonical.straight_below dir
      have hpassable := Path.passable_below hroot.passable dir
      rw [Path.ofText_text (Path.proper_below hroot.proper dir)]
      refine ⟨?_, FileTree.leadsToDirectory_join hwork.isAbsolute hwork.passable hdir hpassable⟩
      show (t.workDir.join (base.join ⟨.relative, (root.below dir).parts⟩)).normalize = _
      rw [Path.join_join_relative, Path.normalize_append hstraight]
      rfl
    · exact hself

/-- The path at which a reader looks for a source root. -/
def lookout (baseDir : Option Path) (base root : Path) : Path :=
  base.join (Path.ofText (portableRoot baseDir root))

/-- The source roots of a configuration that are directories where a reader with the base
    directory `base` looks for them. -/
def foundRoots (t : FileTree) (c : FilterConfig) (base : Path) : List Path :=
  (c.sourceRoots.map (moved c.baseDir base)).filter t.leadsToDirectory

/-- The notices of the source roots that are no directories there. -/
def lostRoots (t : FileTree) (c : FilterConfig) (base : Path) : List Notice :=
  (c.sourceRoots.filter fun root => !t.leadsToDirectory (moved c.baseDir base root)).map fun root =>
    .invalidSourceRoot (portableRoot c.baseDir root)

/-- Roots that were written are read as absolute paths, and missing ones are noticed. -/
theorem on_validRoots (hwork : t.workDir.Anchored) (hdir : t.leadsToDirectory base = true)
    {baseDir : Option Path} {roots : List Path} (hroots : ∀ root ∈ roots, t.IsRoot root)
    (hlook : ∀ root ∈ roots, t.denies .look (lookout baseDir base root) = none)
    (ns : List Notice) :
    (RawConfig.validRoots t (some base)
        (roots.map fun root => .str (portableRoot baseDir root))).on ns =
      (.ok ((roots.map (moved baseDir (t.absolute base))).filter t.leadsToDirectory),
        ns ++ (roots.filter fun root =>
            !t.leadsToDirectory (moved baseDir (t.absolute base) root)).map
          fun root => .invalidSourceRoot (portableRoot baseDir root)) := by
  induction roots generalizing ns with
  | nil =>
    show (Except.ok [], ns) = (Except.ok [], ns ++ [])
    rw [List.append_nil]
  | cons root roots ih =>
    have hrest := ih (fun r hr => hroots r (List.mem_cons_of_mem _ hr))
      fun r hr => hlook r (List.mem_cons_of_mem _ hr)
    obtain ⟨habsolute, hisDir⟩ :=
      read_portableRoot hwork (hroots root List.mem_cons_self) hdir baseDir
    have hpath : RawConfig.pathOf (.str (portableRoot baseDir root)) =
        .ok (Path.ofText (portableRoot baseDir root)) := rfl
    have hfound := FileTree.isDirectory_eq_ok_iff.mpr ⟨hlook root List.mem_cons_self, rfl⟩
    rw [lookout, hisDir] at hfound
    rw [List.map_cons, RawConfig.validRoots_cons, Noticed.on_ofExcept_bind hpath,
      RawConfig.seenFrom, Noticed.on_ofExcept_bind hfound, habsolute, List.map_cons,
      List.filter_cons, List.filter_cons]
    cases t.leadsToDirectory (moved baseDir (t.absolute base) root) with
    | true =>
      simp only [if_true, Bool.not_true, Bool.false_eq_true, if_false]
      rw [Noticed.on_bind, hrest]
      rfl
    | false =>
      -- the notice of the root comes before those of the rest
      simp only [if_true, Bool.not_false, Bool.false_eq_true, if_false]
      rw [Noticed.on_bind]
      show (RawConfig.validRoots _ _ _).on (ns ++ [_]) = _
      rw [hrest, List.append_assoc]
      rfl

/-! ## Building -/

/-- The configuration with what supplied its filters, and with another base directory. -/
def reloaded (c : FilterConfig) (baseDir : Path) : FilterConfig :=
  { c with
    globalFilters := c.globalFilters.map fun f => { f with source := .str "globalFilters" }
    pathFilters := c.pathFilters.map fun f => { f with source := .str "pathFilters" }
    baseDir := some baseDir }

/-- Severities are left out of the file when all may be muffled, and this is what an absent field
    means. -/
theorem readSeverities_saved (h : FilterConfig.severitySet c.suppressible = c.suppressible) :
    RawConfig.readSeverities
      (if c.suppressible = Severity.all then .null else textsValue (savedWords c)) =
      .ok c.suppressible := by
  split
  · rename_i hall
    rw [hall]
    rfl
  · exact RawConfig.readSeverities_words h

/-- What is built from the saved fields is the configuration, at the place from which it is loaded.
    -/
theorem on_build_savedRaw [Pattern.Compiler] (hwork : t.workDir.Anchored) (hc : c.Sound t)
    (hdir : t.leadsToDirectory base = true)
    (hlook : ∀ root ∈ c.sourceRoots, t.denies .look (lookout c.baseDir base root) = none)
    (ns : List Notice) :
    ((savedRaw c base).build t).on ns =
      (.ok { reloaded c (t.absolute base) with
          sourceRoots := foundRoots t c (t.absolute base) },
        ns ++ lostRoots t c (t.absolute base)) := by
  -- each option is read back by itself
  have hglobals : RawConfig.compileOption "globalFilters" (savedRaw c base).globalFilters =
      .ok (reloaded c base).globalFilters := RawConfig.compileOption_texts hc.globalFilters _
  have hpaths : RawConfig.compileOption "pathFilters" (savedRaw c base).pathFilters =
      .ok (reloaded c base).pathFilters := RawConfig.compileOption_texts hc.pathFilters _
  have hseverities : RawConfig.readSeverities (savedRaw c base).severities =
      .ok c.suppressible := readSeverities_saved hc.suppressible
  have hvalues : (savedRaw c base).sourceRoots.parts =
      .ok (c.sourceRoots.map fun root => .str (portableRoot c.baseDir root)) := by
    show Except.ok ((savedRoots c).map Value.str) = _
    rw [savedRoots, List.map_map]
    rfl
  have hread : (RawConfig.validRoots t (savedRaw c base).baseDir
      (c.sourceRoots.map fun root => .str (portableRoot c.baseDir root))).on ns =
      (.ok (foundRoots t c (t.absolute base)), ns ++ lostRoots t c (t.absolute base)) :=
    on_validRoots hwork hdir hc.sourceRoots hlook ns
  -- and they are read in this order
  rw [RawConfig.build, Noticed.on_ofExcept_bind hglobals, Noticed.on_ofExcept_bind hpaths,
    Noticed.on_ofExcept_bind hseverities, Noticed.on_ofExcept_bind hvalues, Noticed.on_bind, hread]
  rfl

/-- Source roots that are looked for where they are are all found. -/
theorem foundRoots_eq [Pattern.Compiler] (hc : c.Sound t)
    (hmoved : ∀ root ∈ c.sourceRoots, moved c.baseDir base root = root) :
    foundRoots t c base = c.sourceRoots := by
  have hmap : c.sourceRoots.map (moved c.baseDir base) = c.sourceRoots := by
    rw [List.map_congr_left hmoved]
    exact List.map_id _
  rw [foundRoots, hmap, List.filter_eq_self]
  exact fun root hroot => (hc.sourceRoots root hroot).leadsToDirectory_self

theorem same_bool {v : Value} (hv : v.IsBool) : v.same v = true := by
  obtain ⟨b, rfl⟩ := hv
  cases b <;> decide

/-- The base directory is all that a reload can change in the comparison. -/
theorem same_reloaded [Pattern.Compiler] (hc : c.Sound t) {baseDir : Path}
    (hbase : c.baseDir = some baseDir) :
    c.same (reloaded c baseDir) = true := by
  have hfilters (fs : List PatternFilter) (source : Value) :
      FilterConfig.sameFilters fs (fs.map fun f => { f with source := source }) = true := by
    rw [FilterConfig.sameFilters, List.map_map, beq_iff_eq]
    rfl
  simp only [FilterConfig.same, reloaded, hfilters, hbase, same_bool hc.checkUnused,
    same_bool hc.reportUnusedInMacroExpansion, same_bool hc.deferUnregistered, beq_self_eq_true,
    Bool.and_self]

/-! ## Loading -/

/-- Reading the mapping of a file is building from the raw values, without any notice. -/
theorem on_ofMapping_fileFields [Pattern.Compiler] (hc : c.Sound t) :
    (ofMapping t' (entries (fileFields c)) (some base)).on ns =
      ((savedRaw c base).build t').on ns := by
  rw [ofMapping, Noticed.on_ofExcept_bind (snakeKeys_fileFields hc)]
  dsimp only
  rw [Noticed.on_ofExcept_bind (fieldsAt_listKeys hc),
    Noticed.on_ofExcept_bind (fieldsAt_switchKeys hc),
    Noticed.on_ofExcept_bind (unknownKeys_entries fun _ hf => known_of_mem_savedFields c hf)]
  show (Noticed.ofExcept _ >>= _).on ns = _
  rw [Noticed.on_ofExcept_bind (setAll_savedFields hc base)]

/-- The system denies nothing that loading a configuration from a file asks for: to look for the
    file, to read it, and to look at the source roots. -/
structure Loadable (t : FileTree) (file base : Path) (c : FilterConfig) : Prop where
  look : t.denies .look file = none
  read : t.denies .read file = none
  roots : ∀ root ∈ c.sourceRoots, t.denies .look (lookout c.baseDir base root) = none

/-- What can be loaded before a file is added can be loaded after. -/
theorem Loadable.grows {file : Path} (h : Loadable t file base c) (hgrows : FileTree.Grows t t') :
    Loadable t' file base c where
  look := by rw [hgrows.denies]; exact h.look
  read := by rw [hgrows.denies]; exact h.read
  roots := by rw [hgrows.denies]; exact h.roots

section Codec

variable [Yaml.Codec] {usual file : Path} {l : Location}

/-- A save that succeeds leaves the text in the file, and everything else in place. -/
theorem save_eq_ok (hfile : l.resolve usual = .ok file) (hopen : Loadable t file base c)
    (h : save t usual l c = .ok t') :
    FileTree.Grows t t' ∧ t'.hasPath file = .ok true ∧
      t'.readBytes file = .ok (Text.writeUtf8 (savedText c)) := by
  rw [save, hfile, ok_bind] at h
  obtain ⟨mid, hensure, hwrite⟩ := bind_eq_ok_iff.mp h
  have hmid := FileTree.grows_makeDirectories hensure
  obtain ⟨hgrows, hleads, hbytes⟩ := FileTree.write_eq_ok hwrite
  have hopen' : Loadable t' file base c := hopen.grows (hmid.trans hgrows)
  exact ⟨hmid.trans hgrows, FileTree.hasPath_eq_ok_iff.mpr ⟨hopen'.look, hleads⟩,
    hbytes (hopen.grows hmid).read⟩

/-- What a file that was saved holds is the mapping that was written. -/
theorem readFile_saved
    (hbytes : t'.readBytes file = .ok (Text.writeUtf8 (savedText c)))
    (hlines : '\r' ∉ savedText c)
    (hyaml : Yaml.Codec.load (savedText c) = .ok (.ofFields (fileFields c))) :
    readFile t' file = .ok (.map (entries (fileFields c))) := by
  rw [readFile, FileTree.readText_of_readBytes hbytes, ok_bind, Text.plainLines_of_notMem hlines,
    hyaml]
  rfl

variable [Pattern.Compiler]

/-- Loading gives the configuration again, with the source roots that are found, and with notice
    of those that are not and of the file. -/
theorem on_load_saved (hwork : t.workDir.Anchored) (hc : c.Sound t)
    (hl : l.projectRoot.getD t.workDir = base) (hdir : t.leadsToDirectory base = true)
    (hfile : l.resolve usual = .ok file) (hopen : Loadable t file base c)
    (hsave : save t usual l c = .ok t') (hlines : '\r' ∉ savedText c)
    (hyaml : Yaml.Codec.load (savedText c) = .ok (.ofFields (fileFields c))) (ns : List Notice) :
    FileTree.Grows t t' ∧
      (load t' usual l).on ns =
        (.ok { reloaded c (t.absolute base) with
            sourceRoots := foundRoots t' c (t.absolute base) },
          ns ++ lostRoots t' c (t.absolute base) ++
            [.configLoaded file c.globalFilters.length c.pathFilters.length
              (foundRoots t' c (t.absolute base)).length]) := by
  obtain ⟨hgrows, hpath, hbytes⟩ := save_eq_ok hfile hopen hsave
  have hc' : c.Sound t' := hc.grows hgrows
  have hwork' : t'.workDir.Anchored := by rw [hgrows.workDir]; exact hwork
  -- the tree has grown by the file, and sources are found in it as before
  have hbuild := on_build_savedRaw hwork' hc' (hgrows.leadsToDirectory hdir)
    (hopen.grows hgrows).roots ns
  rw [hgrows.absolute_eq] at hbuild
  refine ⟨hgrows, ?_⟩
  rw [load, Noticed.on_ofExcept_bind hfile, Noticed.on_ofExcept_bind hpath]
  simp only [if_true]
  -- this is where the codec is relied on
  rw [Noticed.on_ofExcept_bind (readFile_saved hbytes hlines hyaml)]
  dsimp only
  rw [Noticed.on_bind, hgrows.workDir, hl, on_ofMapping_fileFields hc, hbuild]
  show (Except.ok _, ns ++ lostRoots t' c (t.absolute base) ++ [_]) = _
  simp only [reloaded, List.length_map]

/-! ## Saving and loading -/

/-- A configuration that was made in a tree, and that has no base directory or the one that it is
    saved for, is loaded as it was saved. The base directory is the root of the project, without
    one the working directory. The system denies nothing that the loading asks for, and of YAML two
    things are relied on: the text of a mapping is written without carriage returns, and it is read
    back as the mapping that was written. -/
theorem load_save (hwork : t.workDir.Anchored) (hmade : Made t c)
    (hl : l.projectRoot.getD t.workDir = base) (hdir : t.isDirectory base = .ok true)
    (hbase : c.baseDir = none ∨ c.baseDir = some (t.absolute base))
    (hfile : l.resolve usual = .ok file) (hopen : Loadable t file base c)
    (hsave : save t usual l c = .ok t') (hlines : '\r' ∉ savedText c)
    (hyaml : Yaml.Codec.load (savedText c) = .ok (.ofFields (fileFields c))) (ns : List Notice) :
    ∃ d, ((load t' usual l).on ns).1 = .ok d ∧
      d.globalFilters.map (·.text) = c.globalFilters.map (·.text) ∧
      d.pathFilters.map (·.text) = c.pathFilters.map (·.text) ∧
      d.sourceRoots = c.sourceRoots ∧
      d.checkUnused = c.checkUnused ∧
      d.reportUnusedInMacroExpansion = c.reportUnusedInMacroExpansion ∧
      d.deferUnregistered = c.deferUnregistered ∧
      d.suppressible = c.suppressible ∧
      d.baseDir = some (t.absolute base) ∧
      (c.baseDir = some (t.absolute base) → c.same d = true) := by
  have hc := hmade.sound hwork
  obtain ⟨-, hleads⟩ := FileTree.isDirectory_eq_ok_iff.mp hdir
  obtain ⟨hgrows, hload⟩ := on_load_saved hwork hc hl hleads hfile hopen hsave hlines hyaml ns
  -- with this base directory no source root moves
  have hloaded : ((load t' usual l).on ns).1 = .ok (reloaded c (t.absolute base)) := by
    rw [hload, foundRoots_eq (hc.grows hgrows) fun root _ => moved_eq_self hbase]
    rfl
  have htexts (fs : List PatternFilter) (source : Value) :
      (fs.map fun f => { f with source := source }).map (·.text) = fs.map (·.text) := by
    rw [List.map_map]
    rfl
  refine ⟨reloaded c (t.absolute base), hloaded, htexts _ _, htexts _ _, rfl, rfl, rfl, rfl,
    rfl, rfl, same_reloaded hc⟩

end Codec

/-- A project that is named relatively, with a source root in it and one elsewhere, a filter with
    a separator in its text and no severity that may be muffled. -/
theorem load_save_project :
    let tree : FileTree :=
      { nodes :=
          [(["work"], .directory), (["work", "proj"], .directory),
            (["work", "proj", "src"], .directory), (["opt"], .directory)]
        workDir := Path.ofText "/work" }
    let project := Path.ofText "proj"
    let raw : RawConfig :=
      { globalFilters := textsValue ["unused;x"]
        sourceRoots := textsValue ["src", "/opt"]
        reportUnusedInMacroExpansion := .bool false
        deferUnregistered := .bool true
        severities := .list []
        baseDir := some project }
    let c := ((raw.build tree).on []).1.toOption.getD {}
    let usual := Path.ofText ".hush/suppressions.yaml"
    let l : Location := { projectRoot := some project }
    ∃ t', tree.workDir.Anchored ∧ Made tree c ∧
      l.projectRoot.getD tree.workDir = project ∧ tree.isDirectory project = .ok true ∧
      (c.baseDir = none ∨ c.baseDir = some (tree.absolute project)) ∧
      l.resolve usual = .ok (project.join usual) ∧
      Loadable tree (project.join usual) project c ∧
      save tree usual l c = .ok t' ∧ '\r' ∉ savedText c ∧
      Yaml.Codec.load (savedText c) = .ok (.ofFields (fileFields c)) ∧
      c.sourceRoots = [Path.ofText "/work/proj/src", Path.ofText "/opt"] ∧ c.suppressible = [] ∧
      ∃ d, ((load t' usual l).on []).1 = .ok d ∧
        d.globalFilters.map (·.text) = c.globalFilters.map (·.text) ∧
        d.pathFilters.map (·.text) = c.pathFilters.map (·.text) ∧
        d.sourceRoots = c.sourceRoots ∧
        d.checkUnused = c.checkUnused ∧
        d.reportUnusedInMacroExpansion = c.reportUnusedInMacroExpansion ∧
        d.deferUnregistered = c.deferUnregistered ∧
        d.suppressible = c.suppressible ∧
        d.baseDir = some (tree.absolute project) ∧
        (c.baseDir = some (tree.absolute project) → c.same d = true) := by
  intro tree project raw c usual l
  have hwork : tree.workDir.Anchored :=
    ⟨by decide +kernel, Path.proper_ofText _, by unfold Path.Passable; decide +kernel⟩
  obtain ⟨a, hbuild⟩ := exists_eq_ok (x := (raw.build tree).on []) (by decide +kernel)
  have hmade : Made tree c := by
    have hc : c = a := by
      show ((raw.build tree).on []).1.toOption.getD {} = a
      rw [hbuild]
      rfl
    rw [hc]
    exact .built ⟨⟨_, rfl⟩, ⟨_, rfl⟩, ⟨_, rfl⟩⟩ (by rintro dir ⟨⟩; exact Path.proper_ofText _)
      hbuild
  have hl : l.projectRoot.getD tree.workDir = project := rfl
  have hfile : l.resolve usual = .ok (project.join usual) := rfl
  have hopen : Loadable tree (project.join usual) project c := ⟨rfl, rfl, fun _ _ => rfl⟩
  have hdir : tree.isDirectory project = .ok true := eq_ok_of_toOption (by decide +kernel)
  have hbase : c.baseDir = none ∨ c.baseDir = some (tree.absolute project) := by decide +kernel
  obtain ⟨t', hsave⟩ := exists_of_isOk (x := save tree usual l c) (by decide +kernel)
  have hlines : '\r' ∉ savedText c := notMem_savedText (hmade.sound hwork)
  have hyaml : Yaml.Codec.load (savedText c) = .ok (.ofFields (fileFields c)) :=
    eq_ok_of_toOption (by decide +kernel)
  exact ⟨t', hwork, hmade, hl, hdir, hbase, hfile, hopen, hsave, hlines, hyaml,
    by decide +kernel, by decide +kernel,
    load_save hwork hmade hl hdir hbase hfile hopen hsave hlines hyaml []⟩

end Muffle.Config
