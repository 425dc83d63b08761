/-
  Muffle.Proofs.SourceRoot

  The name of a unit below its source root. The directories that contain a path form a chain, so
  of the source roots that contain a unit exactly one is innermost, in whatever order and spelling
  the roots are given. The name below it leads back to the unit; without such a root the path of
  the unit is its name.
-/

import Muffle.FilterConfig
import Muffle.Proofs.Except
import Muffle.Proofs.Path

namespace Muffle

/-! ## Directories that contain a path -/

namespace Path

variable {p dir dir' : Path}

/-- An absolute path as a text can name it. -/
structure Grounded (p : Path) : Prop where
  isAbsolute : p.isAbsolute = true
  proper : p.Proper

theorem isWithin_iff : p.isWithin dir = true ↔ p.root = dir.root ∧ dir.parts <+: p.parts := by
  rw [isWithin, Bool.and_eq_true, beq_iff_eq, List.isPrefixOf_iff_prefix]

/-- The directories that contain a path form a chain, so their number of components tells them
    apart. -/
theorem eq_of_isWithin_of_length (h : p.isWithin dir = true) (h' : p.isWithin dir' = true)
    (hlength : dir.parts.length = dir'.parts.length) : dir = dir' := by
  obtain ⟨hroot, hparts⟩ := isWithin_iff.mp h
  obtain ⟨hroot', hparts'⟩ := isWithin_iff.mp h'
  have hchain : dir.parts <+: dir'.parts :=
    List.prefix_of_prefix_length_le hparts hparts' (Nat.le_of_eq hlength)
  calc dir = ⟨dir.root, dir.parts⟩ := rfl
    _ = ⟨dir'.root, dir'.parts⟩ := by rw [← hroot, hroot', hchain.eq_of_length hlength]

theorem Grounded.resolve {base : Path} (hbase : base.Grounded) (s : String) :
    (base.resolve (ofText s)).Canonical ∧ (base.resolve (ofText s)).Proper := by
  have habsolute : (base.join (ofText s)).isAbsolute = true :=
    isAbsolute_join hbase.isAbsolute _
  have hproper : (base.join (ofText s)).Proper := hbase.proper.join (proper_ofText s)
  exact ⟨canonical_normalize habsolute, hproper.normalize habsolute⟩

/-- The text of what lies below a directory names a relative path without `..`, which leads from
    the directory back to the path. -/
theorem ofText_below (hcanonical : p.Canonical) (hproper : p.Proper)
    (h : p.isWithin dir = true) :
    (ofText (p.below dir).text).isAbsolute = false ∧ ".." ∉ (ofText (p.below dir).text).parts ∧
      dir.resolve (ofText (p.below dir).text) = p := by
  have hsplit : dir.join (p.below dir) = p := (eq_append_of_isWithin h).symm
  rw [ofText_text (proper_below hproper dir), resolve, hsplit]
  exact ⟨rfl, hcanonical.straight_below dir, hcanonical.normalize_eq⟩

end Path

/-! ## The innermost source root -/

namespace FilterConfig

variable {c : FilterConfig} {workDir p root root' : Path} {ps : List Path}

theorem deepest?_mem (h : deepest? ps = some root) : root ∈ ps := by
  induction ps generalizing root with
  | nil => cases h
  | cons q rest ih =>
    rw [deepest?] at h
    split at h
    · rename_i r hr
      split at h
      · cases h
        exact List.mem_cons_of_mem _ (ih hr)
      · cases h
        exact List.mem_cons_self
    · cases h
      exact List.mem_cons_self

theorem deepest?_eq_none_iff : deepest? ps = none ↔ ps = [] := by
  constructor
  · intro h
    cases ps with
    | nil => rfl
    | cons q rest =>
      rw [deepest?] at h
      split at h
      · split at h <;> cases h
      · cases h
  · rintro rfl
    rfl

theorem deepest?_max (h : deepest? ps = some root) : ∀ q ∈ ps, depth q ≤ depth root := by
  induction ps generalizing root with
  | nil => cases h
  | cons q rest ih =>
    rw [deepest?] at h
    cases hrest : deepest? rest with
    | none =>
      rw [hrest] at h
      cases h
      rw [deepest?_eq_none_iff.mp hrest]
      simp
    | some r =>
      rw [hrest] at h
      dsimp only at h
      have hmax := ih hrest
      intro x hx
      by_cases hdeeper : depth q < depth r
      · -- the deepest one of the rest is deeper than the first
        rw [if_pos hdeeper] at h
        cases h
        rcases List.mem_cons.mp hx with rfl | hx
        · omega
        · exact hmax x hx
      · rw [if_neg hdeeper] at h
        cases h
        rcases List.mem_cons.mp hx with rfl | hx
        · exact Nat.le_refl _
        · have hle := hmax x hx
          omega

/-- `root` is a source root that contains the path `p`, and none with more components does. -/
structure InnermostRoot (c : FilterConfig) (workDir p root : Path) : Prop where
  mem : root ∈ c.sourceRoots.map (c.absolute workDir)
  contains : p.isWithin root = true
  deepest : ∀ r ∈ c.sourceRoots.map (c.absolute workDir), p.isWithin r = true →
    r.parts.length ≤ root.parts.length

theorem InnermostRoot.unique (h : c.InnermostRoot workDir p root)
    (h' : c.InnermostRoot workDir p root') : root' = root := by
  have hle := h.deepest root' h'.mem h'.contains
  have hge := h'.deepest root h.mem h.contains
  exact Path.eq_of_isWithin_of_length h'.contains h.contains (Nat.le_antisymm hle hge)

theorem innermostRoot_of_rootOf? (h : c.rootOf? workDir p = some root) :
    c.InnermostRoot workDir p root := by
  obtain ⟨hmem, hcontains⟩ := List.mem_filter.mp (deepest?_mem h)
  refine ⟨hmem, hcontains, fun r hr hin => ?_⟩
  have hdepth : depth r ≤ depth root := deepest?_max h r (List.mem_filter.mpr ⟨hr, hin⟩)
  -- both start from the root of the path, which counts the same
  have hroot : r.root = root.root :=
    (Path.isWithin_iff.mp hin).1.symm.trans (Path.isWithin_iff.mp hcontains).1
  simpa [depth, Path.isAbsolute, hroot] using hdepth

theorem rootOf?_eq_some_iff :
    c.rootOf? workDir p = some root ↔ c.InnermostRoot workDir p root := by
  refine ⟨innermostRoot_of_rootOf?, fun h => ?_⟩
  cases hfound : c.rootOf? workDir p with
  | none =>
    have hmem := List.mem_filter.mpr ⟨h.mem, h.contains⟩
    rw [deepest?_eq_none_iff.mp hfound] at hmem
    cases hmem
  | some r => rw [(innermostRoot_of_rootOf? hfound).unique h]

theorem rootOf?_eq_none_iff :
    c.rootOf? workDir p = none ↔
      ∀ root ∈ c.sourceRoots, p.isWithin (c.absolute workDir root) = false := by
  rw [rootOf?, deepest?_eq_none_iff, List.filter_eq_nil_iff]
  simp

/-- Which source root is innermost depends on the normalized roots alone. -/
theorem rootOf?_congr {d : FilterConfig}
    (h : ∀ q, q ∈ d.sourceRoots.map (d.absolute workDir) ↔
      q ∈ c.sourceRoots.map (c.absolute workDir)) :
    d.rootOf? workDir p = c.rootOf? workDir p := by
  ext root
  rw [rootOf?_eq_some_iff, rootOf?_eq_some_iff]
  constructor
  · rintro ⟨hmem, hcontains, hdeepest⟩
    exact ⟨(h root).mp hmem, hcontains, fun r hr => hdeepest r ((h r).mpr hr)⟩
  · rintro ⟨hmem, hcontains, hdeepest⟩
    exact ⟨(h root).mpr hmem, hcontains, fun r hr => hdeepest r ((h r).mp hr)⟩

/-! ## Names of units -/

/-- A text is named by its innermost source root; without source roots nothing is looked for. -/
theorem relativize_str (s : String) :
    c.relativize workDir (.str s) = .ok (.str (c.relativizeText workDir s)) := by
  rw [relativize]
  split
  · rename_i hempty
    rw [relativizeText, rootOf?, List.isEmpty_iff.mp hempty]
    rfl
  · rfl

theorem relativizeText_eq (s : String) :
    c.relativizeText workDir s =
      match c.rootOf? workDir (c.absolute workDir (Path.ofText s)) with
      | some root => ((c.absolute workDir (Path.ofText s)).below root).text
      | none => s := rfl

/-- A unit is named by its own path if no source root contains it. Else it is named by a relative
    path without `..` that leads from the innermost source root to the unit, and all paths of the
    unit give the same name. Source roots that amount to the same, in any order, number and
    spelling, give the same names. -/
theorem relativize_innermost {workDir : Path} (hwork : workDir.Grounded) (c : FilterConfig)
    (hbase : ∀ base ∈ c.baseDir, base.Grounded) (s : String) :
    let p := c.absolute workDir (Path.ofText s)
    ((∀ root ∈ c.sourceRoots, p.isWithin (c.absolute workDir root) = false) →
      c.relativize workDir (.str s) = .ok (.str s)) ∧
    (∀ root ∈ c.sourceRoots, p.isWithin (c.absolute workDir root) = true →
      ∃ innermost name, c.InnermostRoot workDir p innermost ∧
        (∀ other, c.InnermostRoot workDir p other → other = innermost) ∧
        c.relativize workDir (.str s) = .ok (.str name) ∧
        (Path.ofText name).isAbsolute = false ∧ ".." ∉ (Path.ofText name).parts ∧
        innermost.resolve (Path.ofText name) = p ∧
        ∀ s', c.absolute workDir (Path.ofText s') = p →
          c.relativize workDir (.str s') = .ok (.str name)) ∧
    ∀ roots : List Path,
      (∀ q, q ∈ roots.map (c.absolute workDir) ↔ q ∈ c.sourceRoots.map (c.absolute workDir)) →
      FilterConfig.relativize { c with sourceRoots := roots } workDir (.str s) =
        c.relativize workDir (.str s) := by
  intro p
  have hground : (c.baseDir.getD workDir).Grounded := by
    cases hdir : c.baseDir with
    | none => exact hwork
    | some base => exact hbase base hdir
  obtain ⟨hcanonical, hproper⟩ : p.Canonical ∧ p.Proper := hground.resolve s
  refine ⟨fun houtside => ?_, fun root hroot hin => ?_, fun roots hroots => ?_⟩
  · rw [relativize_str, relativizeText_eq, rootOf?_eq_none_iff.mpr houtside]
  · cases hfound : c.rootOf? workDir p with
    | none =>
      have houtside := rootOf?_eq_none_iff.mp hfound root hroot
      rw [hin] at houtside
      cases houtside
    | some innermost =>
      have hinnermost := innermostRoot_of_rootOf? hfound
      obtain ⟨hrelative, hstraight, hback⟩ :=
        Path.ofText_below hcanonical hproper hinnermost.contains
      -- the name is made of the normalized path alone
      have hname : ∀ s', c.absolute workDir (Path.ofText s') = p →
          c.relativize workDir (.str s') = .ok (.str (p.below innermost).text) := by
        intro s' hs'
        rw [relativize_str, relativizeText_eq, hs', hfound]
      exact ⟨innermost, (p.below innermost).text, hinnermost,
        fun other hother => hinnermost.unique hother, hname s rfl, hrelative, hstraight, hback,
        hname⟩
  · have hsame : FilterConfig.rootOf? { c with sourceRoots := roots } workDir p =
        c.rootOf? workDir p := rootOf?_congr hroots
    rw [relativize_str, relativize_str, relativizeText_eq, relativizeText_eq]
    exact congrArg (fun found : Option Path => Except.ok (Value.str (match found with
      | some root => (p.below root).text
      | none => s))) hsame

/-- A unit in two nested source roots, one of which is written with `..`: the inner root names
    it. -/
theorem relativize_innermost_nested :
    let workDir := Path.ofText "/work"
    let c : FilterConfig :=
      { sourceRoots := [Path.ofText "src", Path.ofText "lib/../src/main"]
        baseDir := some (Path.ofText "/repo") }
    let p := c.absolute workDir (Path.ofText "src//main/./x/../a.c")
    workDir.Grounded ∧ (∀ base ∈ c.baseDir, base.Grounded) ∧
      p.isWithin (c.absolute workDir (Path.ofText "src")) = true ∧
      ∃ name, c.relativize workDir (.str "src//main/./x/../a.c") = .ok (.str name) ∧
        (Path.ofText "/repo/src/main").resolve (Path.ofText name) = p ∧
        ∀ s', c.absolute workDir (Path.ofText s') = p →
          c.relativize workDir (.str s') = .ok (.str name) := by
  intro workDir c p
  have hwork : workDir.Grounded := ⟨by decide +kernel, Path.proper_ofText _⟩
  have hbase : ∀ base ∈ c.baseDir, base.Grounded := by
    rintro base ⟨⟩
    exact ⟨by decide +kernel, Path.proper_ofText _⟩
  have hin : p.isWithin (c.absolute workDir (Path.ofText "src")) = true := by decide +kernel
  obtain ⟨-, hnamed, -⟩ := relativize_innermost hwork c hbase "src//main/./x/../a.c"
  obtain ⟨innermost, name, hinnermost, -, hname, -, -, hback, hall⟩ :=
    hnamed _ List.mem_cons_self hin
  have hfound : c.rootOf? workDir p = some (Path.ofText "/repo/src/main") := by decide +kernel
  have hroot : innermost = Path.ofText "/repo/src/main" :=
    (innermostRoot_of_rootOf? hfound).unique hinnermost
  exact ⟨hwork, hbase, hin, name, hname, hroot ▸ hback, hall⟩

end FilterConfig

end Muffle
