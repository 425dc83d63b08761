/-
  Muffle.Proofs.FileTree

  Where paths lead, and what writing changes. A path that leads anywhere leads to the place that
  its normalized absolute form names, and everything above that place is a directory; so the
  normalized form leads there too, and so does a path to a directory above it with the rest
  appended. Making directories and writing a file keep every directory, hence every path that led
  to one, and the file that was written is found with its bytes. What a path leads to is either a
  directory or a file that can be read, unless the system denies it.
-/

import Muffle.FileTree
import Muffle.Proofs.Except
import Muffle.Proofs.Path
import Muffle.Proofs.Text.Utf8

namespace Muffle

/-- No component holds the character that no name of a file may hold. -/
def Path.Passable (p : Path) : Prop := ∀ part ∈ p.parts, '\x00' ∉ part.toList

theorem Path.passable_below {p : Path} (hp : p.Passable) (dir : Path) : (p.below dir).Passable :=
  fun part hpart => hp part (List.mem_of_mem_drop hpart)

theorem Path.Passable.join {base p : Path} (hbase : base.Passable) (hp : p.Passable) :
    (base.join p).Passable := by
  rw [Path.join]
  split
  · exact hp
  · intro part hpart
    exact (List.mem_append.mp hpart).elim (hbase part) (hp part)

namespace FileTree

variable {t t' : FileTree} {p : Path} {place rest : List String}

/-! ## Places -/

/-- Everything above a place is a directory. -/
def Open (t : FileTree) (place : List String) : Prop :=
  ∀ front rest, place = front ++ rest → rest ≠ [] → t.node? front = some .directory

theorem open_nil (t : FileTree) : t.Open [] :=
  fun _ _ h hrest => absurd (List.append_eq_nil_iff.mp h.symm).2 hrest

theorem Open.of_append (h : t.Open (place ++ rest)) : t.Open place := by
  intro front below hplace hbelow
  refine h front (below ++ rest) (by rw [hplace, List.append_assoc]) ?_
  exact fun hnil => hbelow (List.append_eq_nil_iff.mp hnil).1

theorem Open.dropLast (h : t.Open place) : t.Open place.dropLast := by
  rcases List.eq_nil_or_concat place with rfl | ⟨front, last, rfl⟩
  · exact h
  · rw [List.concat_eq_append] at h ⊢
    rw [List.dropLast_concat]
    exact h.of_append

/-- The way on from an open directory is open. -/
theorem Open.concat (h : t.Open place) (hdir : t.node? place = some .directory) (part : String) :
    t.Open (place ++ [part]) := by
  intro front below hplace hbelow
  rcases List.eq_nil_or_concat below with rfl | ⟨below, last, rfl⟩
  · exact absurd rfl hbelow
  rw [List.concat_eq_append, ← List.append_assoc] at hplace
  have hfront : place = front ++ below := (List.append_inj' hplace rfl).1
  -- what is above the new place is the old one or above the old one
  cases below with
  | nil =>
    rw [List.append_nil] at hfront
    rwa [← hfront]
  | cons first below => exact h front (first :: below) hfront (List.cons_ne_nil _ _)

/-! ## Following a path -/

/-- One step of a walk needs a directory to start from, also the step up. -/
theorem step_eq_ok_iff {part : String} {next : List String} :
    t.step place part = .ok next ↔
      t.node? place = some .directory ∧
        next = if part = ".." then place.dropLast else place ++ [part] := by
  rw [step]
  rcases t.node? place with _ | _ | bytes
  · exact ⟨nofun, fun h => nomatch h.1⟩
  · exact ⟨fun h => ⟨rfl, (Except.ok.inj h).symm⟩, fun h => by rw [h.2]⟩
  · exact ⟨nofun, fun h => nomatch h.1⟩

/-- A step goes to the place that normalizing computes. -/
theorem step_eq_collapse (hdots : ".." ∉ place) (part : String) :
    (if part = ".." then place.dropLast else place ++ [part]) =
      (Path.collapse true place.reverse part).reverse := by
  by_cases hpart : part = ".."
  · rw [if_pos hpart, hpart]
    rcases List.eq_nil_or_concat place with rfl | ⟨front, last, rfl⟩
    · rfl
    · rw [List.concat_eq_append, List.mem_append, List.mem_singleton, not_or] at hdots
      rw [List.concat_eq_append, List.dropLast_concat, List.reverse_append, List.reverse_singleton,
        List.singleton_append]
      have hcollapse : Path.collapse true (last :: front.reverse) ".." = front.reverse :=
        if_neg (Ne.symm hdots.2)
      rw [hcollapse, List.reverse_reverse]
  · rw [if_neg hpart, Path.collapse_of_ne hpart, List.reverse_cons, List.reverse_reverse]

/-- Components that can be followed lead to the place that normalizing computes, with directories
    all the way. -/
theorem foldlM_step {parts : List String} {last : List String}
    (h : parts.foldlM t.step place = .ok last) (hopen : t.Open place) (hdots : ".." ∉ place) :
    t.Open last ∧ last = (parts.foldl (Path.collapse true) place.reverse).reverse := by
  induction parts generalizing place with
  | nil =>
    cases h
    exact ⟨hopen, (List.reverse_reverse _).symm⟩
  | cons part parts ih =>
    rw [List.foldlM_cons, bind_eq_ok_iff] at h
    obtain ⟨next, hstep, hrest⟩ := h
    obtain ⟨hdir, rfl⟩ := step_eq_ok_iff.mp hstep
    have hnext : t.Open (if part = ".." then place.dropLast else place ++ [part]) := by
      split
      · exact hopen.dropLast
      · exact hopen.concat hdir part
    have hclean : ".." ∉ (if part = ".." then place.dropLast else place ++ [part]) := by
      split
      · exact fun hmem => hdots (List.dropLast_subset _ hmem)
      · rename_i hpart
        rw [List.mem_append, List.mem_singleton, not_or]
        exact ⟨hdots, Ne.symm hpart⟩
    obtain ⟨hlast, heq⟩ := ih hrest hnext hclean
    rw [step_eq_collapse hdots, List.reverse_reverse] at heq
    exact ⟨hlast, heq⟩

/-- Down from a directory, names lead to themselves. -/
theorem foldlM_step_of_open (hopen : t.Open (place ++ rest)) (hdots : ".." ∉ rest) :
    rest.foldlM t.step place = .ok (place ++ rest) := by
  induction rest generalizing place with
  | nil => rw [List.append_nil]; rfl
  | cons part rest ih =>
    rw [List.mem_cons, not_or] at hdots
    have hdir : t.node? place = some .directory := hopen place _ rfl (List.cons_ne_nil _ _)
    have hstep : t.step place part = .ok (place ++ [part]) :=
      step_eq_ok_iff.mpr ⟨hdir, (if_neg (Ne.symm hdots.1)).symm⟩
    rw [List.append_cons] at hopen ⊢
    rw [List.foldlM_cons, hstep, ok_bind, ih hopen hdots.2]

/-- A path is followed step by step from the root, unless one of its components can be no name. -/
theorem placeOf_eq_ok_iff :
    t.placeOf p = .ok place ↔
      p.Passable ∧ (t.workDir.join p).parts.foldlM t.step [] = .ok place := by
  have hpassable : p.Passable ↔ ¬p.parts.any (fun part => part.toList.contains '\x00') = true := by
    simp only [Path.Passable, List.any_eq_true, List.contains_iff_mem, not_exists, not_and]
  rw [placeOf, hpassable]
  split
  · rename_i h
    exact ⟨nofun, fun hok => absurd h hok.1⟩
  · rename_i h
    exact ⟨fun hok => ⟨h, hok⟩, fun hok => hok.2⟩

/-- A path that leads anywhere leads to the place of its normalized absolute form. -/
theorem placeOf_eq (hwork : t.workDir.isAbsolute = true) (h : t.placeOf p = .ok place) :
    t.Open place ∧ place = (t.absolute p).parts := by
  obtain ⟨-, hfold⟩ := placeOf_eq_ok_iff.mp h
  obtain ⟨hopen, heq⟩ := foldlM_step hfold (open_nil t) List.not_mem_nil
  refine ⟨hopen, ?_⟩
  rw [absolute, Path.resolve, Path.normalize, Path.isAbsolute_join hwork]
  exact heq

/-- A canonical path leads to the place that it names, if all directories on the way are there. -/
theorem placeOf_canonical (hp : p.Canonical) (hpassable : p.Passable) (hopen : t.Open p.parts) :
    t.placeOf p = .ok p.parts := by
  rw [placeOf_eq_ok_iff, Path.join_of_isAbsolute hp.isAbsolute]
  exact ⟨hpassable, foldlM_step_of_open (by exact hopen) hp.straight⟩

/-- A path leads where its normalized absolute form leads, if it leads anywhere. -/
theorem placeOf_absolute (hwork : t.workDir.isAbsolute = true) (hpassable : t.workDir.Passable)
    (h : t.placeOf p = .ok place) : t.placeOf (t.absolute p) = .ok place := by
  have habsolute : (t.workDir.join p).isAbsolute = true := Path.isAbsolute_join hwork p
  have hjoin : (t.workDir.join p).Passable := hpassable.join (placeOf_eq_ok_iff.mp h).1
  obtain ⟨hopen, rfl⟩ := placeOf_eq hwork h
  exact placeOf_canonical (Path.canonical_normalize habsolute)
    (fun part hpart => hjoin part (Path.mem_normalize habsolute hpart).2) hopen

/-- A path with components appended is followed on from the place that it leads to. -/
theorem placeOf_join (h : t.placeOf p = .ok place)
    (hpassable : Path.Passable ⟨.relative, rest⟩) :
    t.placeOf (p.join ⟨.relative, rest⟩) = rest.foldlM t.step place := by
  obtain ⟨hp, hfold⟩ := placeOf_eq_ok_iff.mp h
  have hjoin := hp.join hpassable
  have hclean : ¬(p.join ⟨.relative, rest⟩).parts.any (fun part => part.toList.contains '\x00') =
      true := by
    simpa only [Path.Passable, List.any_eq_true, List.contains_iff_mem, not_exists, not_and]
      using hjoin
  rw [placeOf, if_neg hclean, Path.join_join_relative, List.foldlM_append, hfold, ok_bind]

/-! ## Directories -/

theorem leadsToDirectory_iff :
    t.leadsToDirectory p = true ↔
      ∃ place, t.placeOf p = .ok place ∧ t.node? place = some .directory := by
  rw [leadsToDirectory, get?]
  cases hplace : t.placeOf p with
  | error f => simp
  | ok place =>
    cases hnode : t.node? place with
    | none => simp [hnode]
    | some n => cases n <;> simp [hnode]

/-- Below a directory it makes no difference whether the directory is named in full. -/
theorem leadsToDirectory_join (hwork : t.workDir.isAbsolute = true)
    (hpassable : t.workDir.Passable) (hdir : t.leadsToDirectory p = true)
    (hrest : Path.Passable ⟨.relative, rest⟩) :
    t.leadsToDirectory (p.join ⟨.relative, rest⟩) =
      t.leadsToDirectory ((t.absolute p).join ⟨.relative, rest⟩) := by
  obtain ⟨place, hplace, -⟩ := leadsToDirectory_iff.mp hdir
  have hfull := placeOf_absolute hwork hpassable hplace
  rw [leadsToDirectory, get?, placeOf_join hplace hrest, leadsToDirectory, get?,
    placeOf_join hfull hrest]

/-! ## Permissions -/

/-- What needs a permission succeeds if it is given and the rest succeeds. -/
theorem permit_bind_eq_ok_iff {α : Type} {access : Access} {x : Except Fault α} {a : α} :
    (t.permit access p >>= fun _ => x) = .ok a ↔ t.denies access p = none ∧ x = .ok a := by
  rw [permit]
  cases t.denies access p <;> simp

/-- What needs a permission fails if it is denied, or else if the rest fails. -/
theorem permit_bind_eq_error_iff {α : Type} {access : Access} {x : Except Fault α} {f : Fault} :
    (t.permit access p >>= fun _ => x) = .error f ↔
      (∃ complaint, t.denies access p = some complaint ∧ f = .denied complaint) ∨
        t.denies access p = none ∧ x = .error f := by
  rw [permit]
  cases t.denies access p <;> simp [eq_comm]

/-- The system answers if it does not deny the look, and then it answers what the tree holds. -/
theorem hasPath_eq_ok_iff {b : Bool} :
    t.hasPath p = .ok b ↔ t.denies .look p = none ∧ t.leads p = b := by
  rw [hasPath, permit_bind_eq_ok_iff, pure_eq_ok, Except.ok.injEq]

theorem isDirectory_eq_ok_iff {b : Bool} :
    t.isDirectory p = .ok b ↔ t.denies .look p = none ∧ t.leadsToDirectory p = b := by
  rw [isDirectory, permit_bind_eq_ok_iff, pure_eq_ok, Except.ok.injEq]

/-! ## Reading -/

theorem leads_iff :
    t.leads p = true ↔ ∃ place n, t.placeOf p = .ok place ∧ t.node? place = some n := by
  rw [leads, get?]
  cases hplace : t.placeOf p with
  | error f => simp
  | ok place => simp [Option.isSome_iff_exists]

/-- A file is read if this is not denied and the path leads to one. -/
theorem readBytes_eq_ok_iff {bytes : List UInt8} :
    t.readBytes p = .ok bytes ↔ t.denies .read p = none ∧
      ∃ place, t.placeOf p = .ok place ∧ t.node? place = some (.file bytes) := by
  rw [readBytes, permit_bind_eq_ok_iff, bind_eq_ok_iff]
  refine and_congr_right fun _ => exists_congr fun place => and_congr_right fun _ => ?_
  rcases t.node? place with _ | _ | found <;> simp

/-- What is there cannot be read exactly if the system denies it or it is a directory. -/
theorem readBytes_eq_error_iff {f : Fault} (hleads : t.leads p = true) :
    t.readBytes p = .error f ↔
      (∃ complaint, t.denies .read p = some complaint ∧ f = .denied complaint) ∨
        t.denies .read p = none ∧ t.leadsToDirectory p = true ∧ f = .isDirectory := by
  obtain ⟨place, n, hplace, hnode⟩ := leads_iff.mp hleads
  rw [readBytes, permit_bind_eq_error_iff, leadsToDirectory, get?, hplace, ok_bind]
  dsimp only
  rw [hnode]
  cases n with
  | directory => simp [eq_comm]
  | file bytes => simp

/-! ## Growing -/

/-- Every directory of the one tree is one of the other. -/
structure Grows (t t' : FileTree) : Prop where
  workDir : t'.workDir = t.workDir
  denies : t'.denies = t.denies
  directory : ∀ place, t.node? place = some .directory → t'.node? place = some .directory

theorem Grows.refl (t : FileTree) : Grows t t := ⟨rfl, rfl, fun _ h => h⟩

theorem Grows.trans {t'' : FileTree} (h : Grows t t') (h' : Grows t' t'') : Grows t t'' :=
  ⟨h'.workDir.trans h.workDir, h'.denies.trans h.denies,
    fun place hplace => h'.directory place (h.directory place hplace)⟩

theorem Grows.absolute_eq (h : Grows t t') (p : Path) : t'.absolute p = t.absolute p := by
  rw [absolute, h.workDir, absolute]

theorem Grows.open (h : Grows t t') (hopen : t.Open place) : t'.Open place :=
  fun front rest hplace hrest => h.directory front (hopen front rest hplace hrest)

theorem Grows.step {part : String} {next : List String} (h : Grows t t')
    (hstep : t.step place part = .ok next) : t'.step place part = .ok next := by
  rw [step_eq_ok_iff] at hstep ⊢
  exact ⟨h.directory place hstep.1, hstep.2⟩

/-- Paths that were followed lead to the same places after files are added. -/
theorem Grows.placeOf (h : Grows t t') (hplace : t.placeOf p = .ok place) :
    t'.placeOf p = .ok place := by
  rw [placeOf_eq_ok_iff] at hplace ⊢
  rw [h.workDir]
  refine ⟨hplace.1, ?_⟩
  -- by induction on the components, from any place on the way
  generalize (t.workDir.join p).parts = parts at hplace
  generalize ([] : List String) = start at hplace
  induction parts generalizing start with
  | nil => exact hplace.2
  | cons part parts ih =>
    rw [List.foldlM_cons, bind_eq_ok_iff] at hplace
    obtain ⟨hpassable, next, hstep, hrest⟩ := hplace
    rw [List.foldlM_cons, h.step hstep, ok_bind]
    exact ih next ⟨hpassable, hrest⟩

theorem Grows.leadsToDirectory (h : Grows t t') (hp : t.leadsToDirectory p = true) :
    t'.leadsToDirectory p = true := by
  obtain ⟨place, hplace, hnode⟩ := leadsToDirectory_iff.mp hp
  exact leadsToDirectory_iff.mpr ⟨place, h.placeOf hplace, h.directory place hnode⟩

/-! ## Writing -/

theorem node?_insert_self (t : FileTree) (hplace : place ≠ []) (n : Node) :
    (t.insert place n).node? place = some n := by
  have hfilter : (t.nodes.filter (fun m => m.1 != place)).find? (fun m => m.1 == place) = none := by
    rw [List.find?_eq_none]
    intro m hm
    have hne := (List.mem_filter.mp hm).2
    rw [bne_iff_ne] at hne
    rw [beq_iff_eq]
    exact hne
  rw [node?, if_neg hplace, insert, List.find?_append, hfilter, Option.none_or,
    List.find?_cons_of_pos (by exact beq_self_eq_true place)]
  rfl

theorem node?_insert_of_ne {other : List String} (h : other ≠ place) (n : Node) :
    (t.insert place n).node? other = t.node? other := by
  have hlast : [(place, n)].find? (fun m => m.1 == other) = none := by
    rw [List.find?_cons_of_neg (by rw [beq_iff_eq]; exact Ne.symm h), List.find?_nil]
  have hfilter : (t.nodes.filter (fun m => m.1 != place)).find? (fun m => m.1 == other) =
      t.nodes.find? (fun m => m.1 == other) := by
    rw [List.find?_filter]
    congr 1
    funext m
    by_cases hm : m.1 = other
    · simp [hm, h]
    · simp [hm]
  rw [node?, node?, insert, List.find?_append, hlast, Option.or_none, hfilter]

/-- Putting something where no directory stands keeps all directories. -/
theorem grows_insert (h : t.node? place ≠ some .directory) (n : Node) :
    Grows t (t.insert place n) := by
  refine ⟨rfl, rfl, fun other hother => ?_⟩
  rw [node?_insert_of_ne (by rintro rfl; exact h hother), hother]

theorem grows_makeDirectory (h : t.makeDirectory p = .ok t') : Grows t t' := by
  obtain ⟨place, -, h⟩ := bind_eq_ok_iff.mp (permit_bind_eq_ok_iff.mp h).2
  cases hnode : t.node? place with
  | some n => rw [hnode] at h; cases h
  | none =>
    rw [hnode] at h
    cases h
    exact grows_insert (by rw [hnode]; nofun) _

theorem grows_ensureDirectory (h : t.ensureDirectory p = .ok t') : Grows t t' := by
  rw [ensureDirectory] at h
  split at h
  · rename_i hmake
    cases h
    exact grows_makeDirectory hmake
  · obtain ⟨found, -, h⟩ := bind_eq_ok_iff.mp h
    cases found with
    | true =>
      cases h
      exact Grows.refl t
    | false => cases h

/-- By induction on the components, each made if it is missing. -/
theorem grows_makeDirectories {root : Path.Root} {parts : List String}
    (h : t.makeDirectories root parts = .ok t') : Grows t t' := by
  induction parts generalizing t' with
  | nil => exact grows_ensureDirectory h
  | cons part above ih =>
    rw [makeDirectories] at h
    split at h
    · rw [bind_eq_ok_iff] at h
      obtain ⟨t₁, habove, hlast⟩ := h
      exact (ih habove).trans (grows_ensureDirectory hlast)
    · exact grows_ensureDirectory h

/-- Writing a file keeps all directories, and the file is there with its bytes, if the system lets
    it be read. -/
theorem write_eq_ok {bytes : List UInt8} (h : t.write p bytes = .ok t') :
    Grows t t' ∧ t'.leads p = true ∧ (t.denies .read p = none → t'.readBytes p = .ok bytes) := by
  obtain ⟨place, hplace, h⟩ := bind_eq_ok_iff.mp (permit_bind_eq_ok_iff.mp h).2
  -- a file is not written over a directory, so no directory is lost
  have hnode : t.node? place ≠ some .directory := by
    intro hdir
    rw [hdir] at h
    cases h
  have hroot : place ≠ [] := by
    rintro rfl
    exact hnode rfl
  have ht' : t' = t.insert place (.file bytes) := by
    split at h
    · cases h
    · cases h
      rfl
  subst ht'
  have hgrows := grows_insert hnode (.file bytes)
  have hfound := node?_insert_self t hroot (.file bytes)
  refine ⟨hgrows, leads_iff.mpr ⟨place, _, hgrows.placeOf hplace, hfound⟩, fun hread => ?_⟩
  exact readBytes_eq_ok_iff.mpr ⟨hread, place, hgrows.placeOf hplace, hfound⟩

/-- A file that was written in UTF-8 is read as its text, if this has no carriage returns. -/
theorem readText_of_readBytes {cs : List Char} (h : t.readBytes p = .ok (Text.writeUtf8 cs)) :
    t.readText p = .ok (Text.plainLines cs) := by
  rw [readText, h, ok_bind, Text.readUtf8_writeUtf8]
  rfl

end FileTree

end Muffle
