/-
  Muffle.Proofs.Config.Relocation

  A configuration that is saved for another base directory than its own. A source root that lies
  in the base directory of the configuration is saved as it is seen from there, and a reader sees
  it from the base directory of the reader: the root moves with the base directory, and is lost
  if there is no directory at its new place. All other roots stay where they are. So the roots are
  the same after the round trip just if the two base directories are one or no root lies in the
  one of the configuration.
-/

import Muffle.Proofs.Config.Reload

namespace Muffle.Config

variable {t t' : FileTree} {c : FilterConfig} {base : Path}

/-! ## Roots that stay -/

/-- A root outside the base directory is written as an absolute path, so it does not move. -/
theorem moved_of_outside {baseDir : Option Path} {root : Path}
    (h : ∀ dir ∈ baseDir, root.isWithin dir = false) : moved baseDir base root = root := by
  cases baseDir with
  | none => rfl
  | some dir =>
    have hout : ¬root.isWithin dir = true := Bool.eq_false_iff.mp (h dir rfl)
    rw [moved]
    exact if_neg hout

/-- A root that lies in a directory stays only if it is looked for below that same directory. -/
theorem eq_of_moved_eq {dir root : Path} (hwithin : root.isWithin dir = true)
    (h : moved (some dir) base root = root) : dir = base := by
  have hsplit : root = ⟨dir.root, dir.parts ++ (root.below dir).parts⟩ :=
    Path.eq_append_of_isWithin hwithin
  have hmoved : moved (some dir) base root =
      ⟨base.root, base.parts ++ (root.below dir).parts⟩ := if_pos hwithin
  have hpaths : (⟨dir.root, dir.parts ++ (root.below dir).parts⟩ : Path) =
      ⟨base.root, base.parts ++ (root.below dir).parts⟩ := by
    rw [← hsplit, ← hmoved, h]
  obtain ⟨hroot, hparts⟩ := Path.mk.injEq .. ▸ hpaths
  have hdir : dir.parts = base.parts := List.append_cancel_right hparts
  calc dir = ⟨dir.root, dir.parts⟩ := rfl
    _ = ⟨base.root, base.parts⟩ := by rw [hroot, hdir]

/-- If as many roots are found as there are, each of them was found where it is. -/
theorem moved_eq_of_foundRoots_eq (h : foundRoots t c base = c.sourceRoots) :
    ∀ root ∈ c.sourceRoots, moved c.baseDir base root = root := by
  have hsublist : (foundRoots t c base).Sublist (c.sourceRoots.map (moved c.baseDir base)) :=
    List.filter_sublist
  have hlength : (foundRoots t c base).length =
      (c.sourceRoots.map (moved c.baseDir base)).length := by
    rw [h, List.length_map]
  have hmap : c.sourceRoots.map (moved c.baseDir base) = c.sourceRoots.map id := by
    rw [← hsublist.eq_of_length hlength, h, List.map_id]
  exact fun root hroot => List.map_inj_left.mp hmap root hroot

/-- The roots are found again if the base is the same or none of them lies in it. -/
theorem foundRoots_eq_iff [Pattern.Compiler] (hc : c.Sound t) :
    foundRoots t c base = c.sourceRoots ↔
      c.baseDir = some base ∨
        ∀ dir ∈ c.baseDir, ∀ root ∈ c.sourceRoots, root.isWithin dir = false := by
  constructor
  · intro hfound
    have hstay := moved_eq_of_foundRoots_eq hfound
    by_cases hbase : c.baseDir = some base
    · exact .inl hbase
    · right
      intro dir hdir root hroot
      rw [Option.mem_def.mp hdir] at hbase hstay
      rw [Bool.eq_false_iff]
      intro hwithin
      exact hbase (congrArg some (eq_of_moved_eq hwithin (hstay root hroot)))
  · rintro (hbase | houtside)
    · exact foundRoots_eq hc fun root _ => moved_eq_self (.inr hbase)
    · exact foundRoots_eq hc fun root hroot =>
        moved_of_outside fun dir hdir => houtside dir hdir root hroot

theorem mem_foundRoots [Pattern.Compiler] (hc : c.Sound t) {root : Path}
    (hroot : root ∈ c.sourceRoots)
    (houtside : ∀ dir ∈ c.baseDir, root.isWithin dir = false) :
    root ∈ foundRoots t c base := by
  have hself : moved c.baseDir base root = root := moved_of_outside houtside
  rw [foundRoots, List.mem_filter, List.mem_map]
  exact ⟨⟨root, hroot, hself⟩, (hc.sourceRoots root hroot).leadsToDirectory_self⟩

/-! ## Saving for another base directory -/

/-- The source roots of a configuration that was made in a tree, after it was saved and loaded
    with any root of the project. They are the ones that are directories where a reader looks for
    them, in the order that they had; those outside the base directory of the configuration are
    among them; and they are all as they were just if the reader has the same base directory or
    no root lies in it. What is relied on of the system and of YAML is the same as for a
    configuration that is loaded as it was saved. -/
theorem sourceRoots_load_save [Pattern.Compiler] [Yaml.Codec] {usual file : Path} {l : Location}
    (hwork : t.workDir.Anchored) (hmade : Made t c) (hl : l.projectRoot.getD t.workDir = base)
    (hdir : t.isDirectory base = .ok true) (hfile : l.resolve usual = .ok file)
    (hopen : Loadable t file base c)
    (hsave : save t usual l c = .ok t') (hlines : '\r' ∉ savedText c)
    (hyaml : Yaml.Codec.load (savedText c) = .ok (.ofFields (fileFields c))) (ns : List Notice) :
    ∃ d, ((load t' usual l).on ns).1 = .ok d ∧
      d.sourceRoots =
        (c.sourceRoots.map (moved c.baseDir (t.absolute base))).filter t'.leadsToDirectory ∧
      (∀ root ∈ c.sourceRoots, (∀ dir ∈ c.baseDir, root.isWithin dir = false) →
        root ∈ d.sourceRoots) ∧
      (d.sourceRoots = c.sourceRoots ↔
        c.baseDir = some (t.absolute base) ∨
          ∀ dir ∈ c.baseDir, ∀ root ∈ c.sourceRoots, root.isWithin dir = false) := by
  have hc := hmade.sound hwork
  obtain ⟨-, hleads⟩ := FileTree.isDirectory_eq_ok_iff.mp hdir
  obtain ⟨hgrows, hload⟩ := on_load_saved hwork hc hl hleads hfile hopen hsave hlines hyaml ns
  have hc' : c.Sound t' := hc.grows hgrows
  -- all but the source roots is loaded as it was saved
  refine ⟨{ reloaded c (t.absolute base) with sourceRoots := foundRoots t' c (t.absolute base) },
    by rw [hload], rfl, ?_, foundRoots_eq_iff hc'⟩
  exact fun root hroot houtside => mem_foundRoots hc' hroot houtside

/-- A configuration of one project that is saved for another one: a source root that the other
    project has as well, one that it has not, and one outside both. -/
theorem sourceRoots_load_save_project :
    let tree : FileTree :=
      { nodes :=
          [(["work"], .directory), (["work", "a"], .directory),
            (["work", "a", "src"], .directory), (["work", "a", "lib"], .directory),
            (["work", "b"], .directory), (["work", "b", "src"], .directory),
            (["opt"], .directory)]
        workDir := Path.ofText "/work" }
    let project := Path.ofText "b"
    let options : Value := textsValue ["sourceRoots=src;lib;/opt"]
    let c := ((ofOptions tree options (some (Path.ofText "a"))).on []).1.toOption.getD {}
    let usual := Path.ofText ".hush/suppressions.yaml"
    let l : Location := { projectRoot := some project }
    ∃ t', tree.workDir.Anchored ∧ Made tree c ∧
      l.projectRoot.getD tree.workDir = project ∧ tree.isDirectory project = .ok true ∧
      l.resolve usual = .ok (project.join usual) ∧
      Loadable tree (project.join usual) project c ∧
      save tree usual l c = .ok t' ∧ '\r' ∉ savedText c ∧
      Yaml.Codec.load (savedText c) = .ok (.ofFields (fileFields c)) ∧
      c.sourceRoots = [Path.ofText "/work/a/src", Path.ofText "/work/a/lib", Path.ofText "/opt"] ∧
      ∃ d, ((load t' usual l).on []).1 = .ok d ∧
        d.sourceRoots =
          (c.sourceRoots.map (moved c.baseDir (tree.absolute project))).filter
            t'.leadsToDirectory ∧
        (∀ root ∈ c.sourceRoots, (∀ dir ∈ c.baseDir, root.isWithin dir = false) →
          root ∈ d.sourceRoots) ∧
        (d.sourceRoots = c.sourceRoots ↔
          c.baseDir = some (tree.absolute project) ∨
            ∀ dir ∈ c.baseDir, ∀ root ∈ c.sourceRoots, root.isWithin dir = false) := by
  intro tree project options c usual l
  have hwork : tree.workDir.Anchored :=
    ⟨by decide +kernel, Path.proper_ofText _, by unfold Path.Passable; decide +kernel⟩
  have hoptions : ((ofOptions tree options (some (Path.ofText "a"))).on []).1 = .ok c :=
    eq_ok_getD (by decide +kernel) {}
  have hmade : Made tree c :=
    .fromOptions (by rintro dir ⟨⟩; exact Path.proper_ofText _) (Prod.ext hoptions rfl)
  have hl : l.projectRoot.getD tree.workDir = project := rfl
  have hfile : l.resolve usual = .ok (project.join usual) := rfl
  have hopen : Loadable tree (project.join usual) project c := ⟨rfl, rfl, fun _ _ => rfl⟩
  have hdir : tree.isDirectory project = .ok true := eq_ok_of_toOption (by decide +kernel)
  obtain ⟨t', hsave⟩ := exists_of_isOk (x := save tree usual l c) (by decide +kernel)
  have hlines : '\r' ∉ savedText c := notMem_savedText (hmade.sound hwork)
  have hyaml : Yaml.Codec.load (savedText c) = .ok (.ofFields (fileFields c)) :=
    eq_ok_of_toOption (by decide +kernel)
  exact ⟨t', hwork, hmade, hl, hdir, hfile, hopen, hsave, hlines, hyaml, by decide +kernel,
    sourceRoots_load_save hwork hmade hl hdir hfile hopen hsave hlines hyaml []⟩

/-- The source root of one project that is saved for another one with a directory of the same
    name: after loading it is the directory of the other project. -/
theorem sourceRoot_repointed :
    let tree : FileTree :=
      { nodes :=
          [(["work"], .directory), (["work", "a"], .directory),
            (["work", "a", "src"], .directory), (["work", "b"], .directory),
            (["work", "b", "src"], .directory)]
        workDir := Path.ofText "/work" }
    let raw : RawConfig := { sourceRoots := textsValue ["src"], baseDir := some (Path.ofText "a") }
    let c := ((raw.build tree).on []).1.toOption.getD {}
    let usual := Path.ofText ".hush/suppressions.yaml"
    let l : Location := { projectRoot := some (Path.ofText "b") }
    let t' := (save tree usual l c).toOption.getD tree
    (∀ access p, tree.denies access p = none) ∧ Made tree c ∧
      tree.isDirectory (Path.ofText "b") = .ok true ∧
      save tree usual l c = .ok t' ∧
      Yaml.Codec.load (savedText c) = .ok (.ofFields (fileFields c)) ∧
      c.sourceRoots = [Path.ofText "/work/a/src"] ∧
      ∃ d, ((load t' usual l).on []).1 = .ok d ∧ d.sourceRoots = [Path.ofText "/work/b/src"] ∧
        d.sourceRoots ≠ c.sourceRoots := by
  intro tree raw c usual l t'
  have hbuild : ((raw.build tree).on []).1 = .ok c := eq_ok_getD (by decide +kernel) {}
  have hmade : Made tree c :=
    .built ⟨⟨_, rfl⟩, ⟨_, rfl⟩, ⟨_, rfl⟩⟩ (by rintro dir ⟨⟩; exact Path.proper_ofText _)
      (Prod.ext hbuild rfl)
  have hsave : save tree usual l c = .ok t' := eq_ok_getD (by decide +kernel) tree
  have hdir : tree.isDirectory (Path.ofText "b") = .ok true :=
    eq_ok_of_toOption (by decide +kernel)
  have hyaml : Yaml.Codec.load (savedText c) = .ok (.ofFields (fileFields c)) :=
    eq_ok_of_toOption (by decide +kernel)
  have hload := eq_ok_getD (x := ((load t' usual l).on []).1) (by decide +kernel) {}
  exact ⟨fun _ _ => rfl, hmade, hdir, hsave, hyaml, by decide +kernel, _, hload,
    by decide +kernel, by decide +kernel⟩

end Muffle.Config
