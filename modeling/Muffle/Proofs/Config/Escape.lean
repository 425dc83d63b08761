/-
  Muffle.Proofs.Config.Escape

  Faults that leave the loading of a configuration. What is wrong with the values of a file is a
  fault of the configuration, with a few exceptions: the keys of a mapping are converted before
  anybody looks at them, the items of a list are written as texts, keys that are not known are
  named, the compiler may give up on a pattern, and the system may deny to look at a source root.
  These exceptions are all that there is, whatever the compiler, the library for YAML and the
  system do; each is told by the first place in the file where it happens, in the order in which
  the file is looked through.
-/

import Muffle.Pattern.Standard
import Muffle.Proofs.Config.Plain
import Muffle.Proofs.FileTree
import Muffle.Proofs.Identical
import Muffle.Yaml.Standard

namespace Muffle.Config

open Noticed (Yields)

variable {f : Fault} {es : List (Value × Value)}

/-- A text. -/
def IsText (v : Value) : Prop := ∃ s, v = .str s

/-! ## The conversion of keys -/

/-- What the conversion of a value comes by: the keys in it, and values inside themselves. -/
inductive Visit where
  | key (k : Value)
  | endless

/-- What becomes of the conversion there. -/
def Visit.check : Visit → Except Fault Unit
  | .key k => (snakeKey k).map fun _ => ()
  | .endless => .error .endlessValue

mutual

/-- What the conversion of a value comes by, in order. -/
def visits : Value → List Visit
  | .map es => entryVisits es
  | .list xs => itemVisits xs
  | .leaf kind _ _ => if kind = Value.endlessKind then [.endless] else []
  | _ => []

/-- The same for items. -/
def itemVisits : List Value → List Visit
  | [] => []
  | x :: xs => visits x ++ itemVisits xs

/-- The same for entries: each key comes before its value. -/
def entryVisits : List (Value × Value) → List Visit
  | [] => []
  | (k, v) :: es => .key k :: (visits v ++ entryVisits es)

end

mutual

theorem snakeKeys_visits :
    ∀ v, (snakeKeys v).map (fun _ => ()) = forM (visits v) Visit.check
  | .map es => by
    rw [snakeKeys, visits, ← snakeEntries_visits es]
    cases snakeEntries es <;> rfl
  | .list xs => by
    rw [snakeKeys, visits, ← snakeItems_visits xs]
    cases snakeItems xs <;> rfl
  | .leaf kind text quoted => by
    rw [snakeKeys, visits]
    by_cases h : kind = Value.endlessKind
    · rw [if_pos h, if_pos h]
      rfl
    · rw [if_neg h, if_neg h]
      rfl
  | .null => rfl
  | .bool _ => rfl
  | .int _ => rfl
  | .float _ => rfl
  | .str _ => rfl
  | .tuple _ => rfl

theorem snakeItems_visits :
    ∀ xs, (snakeItems xs).map (fun _ => ()) = forM (itemVisits xs) Visit.check
  | [] => rfl
  | x :: xs => by
    rw [snakeItems, itemVisits, List.forM_append, ← snakeKeys_visits x, ← snakeItems_visits xs]
    cases snakeKeys x with
    | error f => rfl
    | ok x => cases snakeItems xs <;> rfl

theorem snakeEntries_visits :
    ∀ es, (snakeEntries es).map (fun _ => ()) = forM (entryVisits es) Visit.check
  | [] => rfl
  | (k, v) :: es => by
    rw [snakeEntries, entryVisits, List.forM_cons, List.forM_append, ← snakeKeys_visits v,
      ← snakeEntries_visits es, Visit.check]
    cases snakeKey k with
    | error f => rfl
    | ok k =>
      cases snakeKeys v with
      | error f => rfl
      | ok v => cases snakeEntries es <;> rfl

end

/-- The conversion passes keys that are texts, and those that count as false. -/
def Visit.Passes : Visit → Prop
  | .key k => IsText k ∨ k.truthy = false
  | .endless => False

/-- A key is respelled if it is a text; one that counts as empty is passed over. -/
theorem isOk_snakeKey_iff {k : Value} :
    (snakeKey k).isOk = true ↔ IsText k ∨ k.truthy = false := by
  cases k with
  | str s => exact iff_of_true rfl (.inl ⟨s, rfl⟩)
  | _ =>
    -- only texts are converted
    refine Iff.trans ?_ (or_iff_right fun ⟨_, h⟩ => by cases h).symm
    unfold snakeKey
    dsimp only
    split
    · rename_i htruthy
      rw [htruthy]
      split <;> exact iff_of_false nofun nofun
    · rename_i htruthy
      exact iff_of_true rfl (Bool.not_eq_true _ ▸ htruthy)

theorem Visit.isOk_check_iff {s : Visit} : s.check.isOk = true ↔ s.Passes := by
  cases s with
  | key k => rw [Visit.check, isOk_map, isOk_snakeKey_iff, Visit.Passes]
  | endless => exact iff_of_false nofun id

/-- The conversion comes to something that it does not pass, and fails with a fault. -/
def Halts (es : List (Value × Value)) (f : Fault) : Prop :=
  Reaches Visit.Passes (fun s => s.check = .error f) (entryVisits es)

/-- The walk ends at the first place that is no good, with its failure. -/
theorem snakeEntries_eq_error_iff : snakeEntries es = .error f ↔ Halts es f := by
  have hwalk : Halts es f ↔
      Reaches (fun s => s.check.isOk = true) (fun s => s.check = .error f) (entryVisits es) :=
    reaches_congr (fun _ => Visit.isOk_check_iff.symm) fun _ => Iff.rfl
  rw [hwalk, ← forM_eq_error_iff, ← snakeEntries_visits, map_eq_error_iff]

/-! ## Lists and switches -/

/-- A fault that is no report about the configuration. -/
def Stray (f : Fault) : Prop := ∀ report, f ≠ .configuration report

/-- A list with an item that has no text. -/
def Unwritable (v : Value) : Prop := ∃ xs, v = .list xs ∧ ∃ x ∈ xs, x.isWritable = false

/-- Only an integer that cannot be written fails to become a text. -/
theorem texts_eq_error_iff {xs : List Value} :
    xs.mapM Value.written = .error f ↔
      (∃ x ∈ xs, x.isWritable = false) ∧ f = .tooManyDigits 0 := by
  induction xs with
  | nil => exact iff_of_false (fun h => by cases h) (by simp)
  | cons x xs ih =>
    rw [List.mapM_cons, bind_eq_error_iff]
    cases h : x.isWritable with
    | false =>
      have hitem : x.written = .error (.tooManyDigits 0) := by rw [Value.written, h]; rfl
      rw [hitem]
      constructor
      · rintro (hx | ⟨_, hx, -⟩)
        · exact ⟨⟨x, List.mem_cons_self, h⟩, (Except.error.inj hx).symm⟩
        · cases hx
      · rintro ⟨-, rfl⟩
        exact .inl rfl
    | true => simp [Value.written, h, bind_eq_error_iff, ih]

/-- A list is refused by a fault of the configuration, unless one of its items has no text. -/
theorem listOf_strays_iff {key : String} {v : Value} :
    listOf key v = .error f ∧ Stray f ↔ Unwritable v ∧ f = .tooManyDigits 0 := by
  -- whatever is no list is reported, unless it stands for one
  have hother (h : ∃ report, listOf key v = .error (.configuration report))
      (hv : ∀ xs, v ≠ .list xs) :
      listOf key v = .error f ∧ Stray f ↔ Unwritable v ∧ f = .tooManyDigits 0 := by
    obtain ⟨report, hreport⟩ := h
    rw [hreport]
    refine iff_of_false ?_ ?_
    · rintro ⟨h, hstray⟩
      exact hstray report (Except.error.inj h).symm
    · rintro ⟨⟨xs, hxs, -⟩, -⟩
      exact hv xs hxs
  cases v with
  | null => exact iff_of_false (fun h => by cases h.1) fun ⟨⟨_, h, _⟩, _⟩ => by cases h
  | str s => exact iff_of_false (fun h => by cases h.1) fun ⟨⟨_, h, _⟩, _⟩ => by cases h
  -- a list is read item by item, and only an item without a text fails
  | list xs =>
    have hread : listOf key (.list xs) = .error f ↔ Unwritable (.list xs) ∧
        f = .tooManyDigits 0 := by
      rw [listOf, bind_eq_error_iff, texts_eq_error_iff]
      simp [Unwritable]
    rw [hread]
    refine and_iff_left_of_imp ?_
    rintro ⟨-, rfl⟩
    exact nofun
  | _ => exact hother ⟨_, rfl⟩ nofun

/-- A switch that is none is reported. -/
theorem switchOf_error {key : String} {v : Value} (h : switchOf key v = .error f) : ¬Stray f := by
  cases v with
  | bool b => cases h
  | _ =>
    cases h
    exact fun hstray => hstray _ rfl

/-- One of the lists has an item without a text, and those that are read before it are accepted. -/
def Overlong (es : List (Value × Value)) : Prop :=
  Reaches (fun e => (listOf e.1 e.2).isOk = true) (fun e => Unwritable e.2) (foundAt es listKeys)

/-- A fault of the mapping is one of its first value that is refused. -/
theorem fieldsAt_eq_error_iff {read : String → Value → Except Fault Value} {keys : List String} :
    fieldsAt es read keys = .error f ↔
      Reaches (fun e => (read e.1 e.2).isOk = true) (fun e => read e.1 e.2 = .error f)
        (foundAt es keys) := by
  rw [fieldsAt_eq_mapM, mapM_eq_error_iff]
  refine reaches_congr (fun e => ?_) fun e => ?_
  · rw [isOk_map]
  · rw [map_eq_error_iff]

/-- Lists fail unreported for one reason: an element that cannot be written. -/
theorem lists_stray_iff :
    fieldsAt es listOf listKeys = .error f ∧ Stray f ↔ Overlong es ∧ f = .tooManyDigits 0 := by
  rw [fieldsAt_eq_error_iff, reaches_and, Overlong, reaches_and]
  exact reaches_congr (fun _ => Iff.rfl) fun _ => listOf_strays_iff

/-- All failures of switches are reported. -/
theorem switches_not_stray (h : fieldsAt es switchOf switchKeys = .error f) : ¬Stray f := by
  obtain ⟨_, _, _, -, -, he⟩ := fieldsAt_eq_error_iff.mp h
  exact switchOf_error he

/-! ## Keys on top -/

/-- A key on top of the mapping is no text, and to name it fails with a fault. -/
def Unnamed (es : List (Value × Value)) (f : Fault) : Prop := ∃ e ∈ es, camelKey e.1 = .error f

/-- An unknown key that is no text cannot be named in the warning. -/
theorem camelKey_stray {k : Value} (h : camelKey k = .error f) : Stray f ∧ ¬IsText k := by
  cases k with
  | str s => cases h
  | _ =>
    unfold camelKey at h
    refine ⟨?_, fun ⟨_, h⟩ => by cases h⟩
    dsimp only at h
    split at h <;>
    · cases h
      exact nofun

theorem isOk_camelKey_iff {k : Value} : (camelKey k).isOk = true ↔ IsText k := by
  cases k with
  | str s => exact iff_of_true rfl ⟨s, rfl⟩
  | _ =>
    refine iff_of_false ?_ fun ⟨_, h⟩ => by cases h
    unfold camelKey
    dsimp only
    split <;> exact nofun

/-- All known keys are texts. -/
theorem isText_of_known {k : Value} (h : isKnown k = true) : IsText k := by
  cases k with
  | str s => exact ⟨s, rfl⟩
  | _ => cases h

/-- The keys that are not known are named as long as they are texts, as the known ones are. -/
theorem isOk_unknownKeys_iff :
    (unknownKeys es).isOk = true ↔ ∀ e ∈ es, IsText e.1 := by
  -- the walk goes over the unknown keys only, and known keys are texts
  have hnamed : (unknownKeys es).isOk = true ↔
      (((es.map Prod.fst).filter (!isKnown ·)).mapM camelKey).isOk = true := by
    rw [unknownKeys]
    cases ((es.map Prod.fst).filter (!isKnown ·)).mapM camelKey <;> rfl
  rw [hnamed, isOk_mapM_iff]
  constructor
  · intro h e he
    cases hknown : isKnown e.1 with
    | true => exact isText_of_known hknown
    | false =>
      refine isOk_camelKey_iff.mp (h e.1 (List.mem_filter.mpr ⟨List.mem_map_of_mem he, ?_⟩))
      rw [hknown]
      rfl
  · intro h k hk
    obtain ⟨e, he, rfl⟩ := List.mem_map.mp (List.mem_filter.mp hk).1
    exact isOk_camelKey_iff.mpr (h e he)

theorem unnamed_of_unknownKeys (h : unknownKeys es = .error f) : Unnamed es f := by
  rcases bind_eq_error_iff.mp h with h | ⟨_, -, h⟩
  · obtain ⟨_, k, _, hkeys, -, hk⟩ := mapM_eq_error_iff.mp h
    have hmem : k ∈ (es.map Prod.fst).filter (!isKnown ·) := by
      rw [hkeys]
      exact List.mem_append_right _ List.mem_cons_self
    obtain ⟨e, he, rfl⟩ := List.mem_map.mp (List.mem_filter.mp hmem).1
    exact ⟨e, he, hk⟩
  · cases h

/-- Where a key cannot be named, some key cannot be, though perhaps with another fault. -/
theorem Unnamed.unknownKeys (h : Unnamed es f) : ∃ f', Config.unknownKeys es = .error f' := by
  obtain ⟨e, he, hkey⟩ := h
  cases hunknown : Config.unknownKeys es with
  | error f' => exact ⟨f', rfl⟩
  | ok names =>
    have htext := isOk_unknownKeys_iff.mp (congrArg Except.isOk hunknown) e he
    exact absurd htext (camelKey_stray hkey).2

theorem Unnamed.stray (h : Unnamed es f) : Stray f := by
  obtain ⟨_, -, hkey⟩ := h
  exact (camelKey_stray hkey).1

/-! ## Patterns -/

section Patterns

variable [Pattern.Compiler]

/-- A text that is compiled as a pattern. -/
def Compiles (text : String) : Prop := (Pattern.Compiler.compile text).isOk = true

/-- The compiler gives up on a text, with a fault of its own. -/
def GivesUp (f : Fault) (text : String) : Prop :=
  ∃ fault, Pattern.Compiler.compile text = .error (.failed fault) ∧ f = .foreign fault

/-- The compiler gives up on the first text that is not compiled. -/
def FirstGivenUp (f : Fault) (texts : List String) : Prop := Reaches Compiles (GivesUp f) texts

/-- When the compiler gives up, this is not the failure that is turned into a report. -/
theorem GivesUp.stray {text : String} (h : GivesUp f text) :
    Stray f ∧ ∀ p, f ≠ .invalidPattern p := by
  obtain ⟨_, -, rfl⟩ := h
  exact ⟨nofun, nofun⟩

/-- A filter is built if its text compiles. -/
theorem isOk_compileText {text : String} {source : Value} :
    (PatternFilter.compileText text source).isOk = true ↔ Compiles text := by
  unfold PatternFilter.compileText Compiles
  cases Pattern.Compiler.compile text <;> rfl

/-- A refused text is reported; a text that the compiler gives up is not. -/
theorem compileText_strays_iff {text : String} {source : Value} :
    PatternFilter.compileText text source = .error f ∧ (∀ p, f ≠ .invalidPattern p) ↔
      GivesUp f text := by
  unfold PatternFilter.compileText GivesUp
  rcases Pattern.Compiler.compile text with (reason | fault) | program
  · -- a text that is no pattern is reported as such
    refine iff_of_false ?_ (by simp)
    rintro ⟨h, hother⟩
    exact hother _ (Except.error.inj h).symm
  · simp only [PatternFilter.faultOf, Except.error.injEq, Pattern.Rejection.failed.injEq,
      exists_eq_left']
    exact ⟨fun h => h.1.symm, fun h => ⟨h.symm, h ▸ nofun⟩⟩
  · simp

theorem compileAll_textsValue (texts : List String) (source : Value) :
    PatternFilter.compileAll (textsValue texts) source =
      texts.mapM fun text => PatternFilter.compileText text source := by
  show (texts.map Value.str).mapM (fun v => PatternFilter.compile v source) = _
  rw [List.mapM_map]
  rfl

/-- The filters of an option are refused by a fault of the configuration, unless the compiler
    gives up on the first that is not compiled. -/
theorem compileOption_strays_iff {option : String} {texts : List String} :
    RawConfig.compileOption option (textsValue texts) = .error f ∧ Stray f ↔
      FirstGivenUp f texts := by
  have hall : PatternFilter.compileAll (textsValue texts) (.str option) = .error f ∧
      (∀ p, f ≠ .invalidPattern p) ↔ FirstGivenUp f texts := by
    rw [compileAll_textsValue, mapM_eq_error_iff, reaches_and]
    exact reaches_congr (fun text => isOk_compileText) fun _ => compileText_strays_iff
  unfold RawConfig.compileOption
  constructor
  · rintro ⟨h, hstray⟩
    -- a refusal is turned into a report, everything else passes through
    split at h
    · exact absurd (Except.error.inj h).symm (hstray _)
    · rename_i hother
      exact hall.mp ⟨h, fun p hp => hother p (h.trans (congrArg Except.error hp))⟩
  · intro h
    obtain ⟨hfailed, hother⟩ := hall.mpr h
    obtain ⟨_, _, _, -, -, hgivenUp⟩ := h
    rw [hfailed]
    refine ⟨?_, hgivenUp.stray.1⟩
    split
    · rename_i heq
      exact absurd (Except.error.inj heq) (hother _)
    · rfl

/-- All filters of an option are built if all their texts compile. -/
theorem isOk_compileOption {option : String} {texts : List String} :
    (RawConfig.compileOption option (textsValue texts)).isOk = true ↔
      ∀ text ∈ texts, Compiles text := by
  have hall : (PatternFilter.compileAll (textsValue texts) (.str option)).isOk = true ↔
      ∀ text ∈ texts, Compiles text := by
    rw [compileAll_textsValue, isOk_mapM_iff]
    simp only [isOk_compileText]
  rw [← hall]
  unfold RawConfig.compileOption
  split
  · rename_i heq
    rw [heq]
    rfl
  · rfl

end Patterns

/-! ## Source roots -/

section Roots

variable {t : FileTree} {baseDir : Option Path}

/-- The path that is looked at for a source root. -/
def candidate (baseDir : Option Path) (root : String) : Path :=
  RawConfig.seenFrom baseDir (Path.ofText root)

/-- The system denies to look at one of the source roots, and lets look at those before it. -/
def FirstDenied (t : FileTree) (baseDir : Option Path) (f : Fault) (roots : List String) : Prop :=
  Reaches (fun root => t.denies .look (candidate baseDir root) = none)
    (fun root => ∃ complaint, t.denies .look (candidate baseDir root) = some complaint ∧
      f = .denied complaint) roots

/-- Source roots fail at the first one at which the system denies to look. -/
theorem plainRoots_eq_error_iff {roots : List String} :
    RawConfig.plainRoots t baseDir (roots.map .str) = .error f ↔ FirstDenied t baseDir f roots := by
  induction roots with
  | nil => exact iff_of_false (fun h => by cases h) not_reaches_nil
  | cons root roots ih =>
    have hpath : RawConfig.pathOf (.str root) = .ok (Path.ofText root) := rfl
    rw [List.map_cons, RawConfig.plainRoots, hpath, ok_bind, FileTree.isDirectory, bind_assoc,
      FileTree.permit_bind_eq_error_iff, FirstDenied, reaches_cons]
    refine or_congr Iff.rfl (and_congr_right fun _ => ?_)
    rw [← FirstDenied, ← ih, pure_eq_ok, ok_bind, bind_eq_error_iff]
    refine or_iff_left ?_
    rintro ⟨_, -, h⟩
    cases h

theorem FirstDenied.stray {roots : List String} (h : FirstDenied t baseDir f roots) : Stray f := by
  obtain ⟨_, _, _, -, -, _, -, rfl⟩ := h
  exact nofun

end Roots

/-! ## Building -/

section Building

variable [Pattern.Compiler] {t : FileTree} {raw : RawConfig}

omit [Pattern.Compiler] in
/-- Severities given as texts are known, or reported. -/
theorem readSeverities_not_stray {v : Value} (hv : v = .null ∨ ∃ words, v = textsValue words)
    (h : RawConfig.readSeverities v = .error f) : ¬Stray f := by
  rcases hv with rfl | ⟨words, rfl⟩
  · cases h
  · have hread : (words.map Value.str).mapM RawConfig.readSeverity = .error f := by
      rcases bind_eq_error_iff.mp h with h | ⟨_, hparts, h⟩
      · cases h
      · cases hparts
        rcases bind_eq_error_iff.mp h with h | ⟨_, -, h⟩
        · exact h
        · cases h
    obtain ⟨_, word, _, -, -, hword⟩ := mapM_eq_error_iff.mp hread
    unfold RawConfig.readSeverity at hword
    split at hword
    · cases hword
    · cases hword
      exact fun hstray => hstray _ rfl

/-- What makes building from lists of texts and from severities fail with a fault that is no report
    about the configuration: the compiler gives up on the first filter that is not compiled, or,
    if the filters and the severities are accepted, the system denies to look at a source root. -/
inductive Unbuilt (t : FileTree) (raw : RawConfig) (filters roots : List String) (f : Fault) : Prop
  | pattern (h : FirstGivenUp f filters)
  | root (hfilters : ∀ text ∈ filters, Compiles text)
      (hseverities : (RawConfig.readSeverities raw.severities).isOk = true)
      (h : FirstDenied t raw.baseDir f roots)

theorem Unbuilt.stray {filters roots : List String} (h : Unbuilt t raw filters roots f) :
    Stray f := by
  cases h with
  | pattern h =>
    obtain ⟨_, _, _, -, -, hgivenUp⟩ := h
    exact hgivenUp.stray.1
  | root _ _ h => exact h.stray

/-- Of all parts of a configuration, filters and source roots are the ones that can fail unreported.
    -/
theorem plain_strays_iff {globals paths roots : List String}
    (hglobals : raw.globalFilters = textsValue globals)
    (hpaths : raw.pathFilters = textsValue paths) (hroots : raw.sourceRoots = textsValue roots)
    (hseverities : raw.severities = .null ∨ ∃ words, raw.severities = textsValue words) :
    raw.plain t = .error f ∧ Stray f ↔ Unbuilt t raw (globals ++ paths) roots f := by
  have hparts : (textsValue roots).parts = .ok (roots.map .str) := rfl
  unfold RawConfig.plain
  rw [hglobals, hpaths, hroots, hparts]
  constructor
  · rintro ⟨h, hstray⟩
    rcases bind_eq_error_iff.mp h with hfailed | ⟨gs, hgs, h⟩
    · exact .pattern (reaches_append.mpr (.inl (compileOption_strays_iff.mp ⟨hfailed, hstray⟩)))
    have hglobals : ∀ text ∈ globals, Compiles text :=
      isOk_compileOption.mp (congrArg Except.isOk hgs)
    rcases bind_eq_error_iff.mp h with hfailed | ⟨ps, hps, h⟩
    · have hfirst := compileOption_strays_iff.mp ⟨hfailed, hstray⟩
      exact .pattern (reaches_append.mpr (.inr ⟨hglobals, hfirst⟩))
    have hpaths : ∀ text ∈ paths, Compiles text :=
      isOk_compileOption.mp (congrArg Except.isOk hps)
    rcases bind_eq_error_iff.mp h with hfailed | ⟨ss, hss, h⟩
    · exact absurd hstray (readSeverities_not_stray hseverities hfailed)
    refine .root (List.forall_mem_append.mpr ⟨hglobals, hpaths⟩) (congrArg Except.isOk hss) ?_
    rw [ok_bind] at h
    rcases bind_eq_error_iff.mp h with hfailed | ⟨_, -, h⟩
    · exact plainRoots_eq_error_iff.mp hfailed
    · cases h
  · intro hunbuilt
    refine ⟨?_, hunbuilt.stray⟩
    -- the options before the one that fails are compiled
    have hcompiled (option : String) {texts : List String} (h : ∀ text ∈ texts, Compiles text) :
        ∃ fs, RawConfig.compileOption option (textsValue texts) = .ok fs :=
      exists_of_isOk (isOk_compileOption.mpr h)
    cases hunbuilt with
    | pattern h =>
      rcases reaches_append.mp h with hfirst | ⟨hglobals, hfirst⟩
      · exact bind_eq_error_iff.mpr (.inl (compileOption_strays_iff.mpr hfirst).1)
      · obtain ⟨gs, hgs⟩ := hcompiled "globalFilters" hglobals
        rw [hgs, ok_bind]
        exact bind_eq_error_iff.mpr (.inl (compileOption_strays_iff.mpr hfirst).1)
    | root hfilters hseverities h =>
      obtain ⟨hglobals, hpaths⟩ := List.forall_mem_append.mp hfilters
      obtain ⟨gs, hgs⟩ := hcompiled "globalFilters" hglobals
      obtain ⟨ps, hps⟩ := hcompiled "pathFilters" hpaths
      obtain ⟨ss, hss⟩ := exists_of_isOk hseverities
      rw [hgs, ok_bind, hps, ok_bind, hss, ok_bind, ok_bind, plainRoots_eq_error_iff.mpr h,
        error_bind]

end Building

/-! ## Mappings -/

section Mappings

variable [Pattern.Compiler] {t : FileTree} {baseDir : Option Path}

/-- The texts that a mapping with keys in snake case has for a list. -/
def textsAt (es : List (Value × Value)) (key : String) : List String :=
  ((Value.lookupIn (.str key) es).map textsOf).getD []

omit [Pattern.Compiler] in
theorem listAt_eq (es : List (Value × Value)) (key : String) :
    listAt es key (.list []) = textsValue (textsAt es key) := by
  unfold listAt textsAt
  cases Value.lookupIn (.str key) es <;> rfl

omit [Pattern.Compiler] in
theorem listAt_null (es : List (Value × Value)) (key : String) :
    listAt es key .null = .null ∨ ∃ words, listAt es key .null = textsValue words := by
  unfold listAt
  cases Value.lookupIn (.str key) es with
  | none => exact .inl rfl
  | some v => exact .inr ⟨textsOf v, rfl⟩

/-- All lists and switches of a mapping with keys in snake case are accepted. -/
def Accepted (es : List (Value × Value)) : Prop :=
  (fieldsAt es listOf listKeys).isOk = true ∧ (fieldsAt es switchOf switchKeys).isOk = true

/-- The texts of the filters of a mapping with keys in snake case, in the order in which they are
    compiled. -/
def filtersAt (es : List (Value × Value)) : List String :=
  textsAt es "global_filters" ++ textsAt es "path_filters"

/-- What makes a mapping fail with a fault that is no report about the configuration: a key that
    cannot be converted, or a value inside itself; with converted keys an item of a list without a
    text, or a key on top that is no text; a pattern on which the compiler gives up, or a source
    root that the system denies to look at. Of several keys that are no texts any one may come
    first. -/
inductive Escapes (t : FileTree) (baseDir : Option Path) (es : List (Value × Value)) (f : Fault) :
    Prop
  | conversion (hhalts : Halts es f)
  | item {es' : List (Value × Value)} (hes : snakeEntries es = .ok es')
      (hitem : Overlong (merged es')) (hf : f = .tooManyDigits 0)
  | key {es' : List (Value × Value)} (hes : snakeEntries es = .ok es')
      (haccepted : Accepted (merged es')) (hkey : Unnamed (merged es') f)
  | building {es' : List (Value × Value)} (hes : snakeEntries es = .ok es')
      (haccepted : Accepted (merged es')) (hkeys : ∀ e ∈ merged es', IsText e.1)
      (hunbuilt : Unbuilt t (rawAt (merged es') baseDir) (filtersAt (merged es'))
        (textsAt (merged es') "source_roots") f)

omit [Pattern.Compiler] in
theorem Visit.stray {s : Visit} (h : s.check = .error f) : Stray f := by
  cases s with
  | key k =>
    have hkey : snakeKey k = .error f := map_eq_error_iff.mp h
    unfold snakeKey at hkey
    split at hkey
    · cases hkey
    · split at hkey
      · split at hkey <;>
        · cases hkey
          exact nofun
      · cases hkey
  | endless =>
    cases h
    exact nofun

omit [Pattern.Compiler] in
/-- Whatever stops the walk over the keys is not reported. -/
theorem Halts.stray (h : Halts es f) : Stray f := by
  obtain ⟨_, s, _, -, -, hs⟩ := h
  exact s.stray hs

theorem plain_rawAt_strays_iff :
    (rawAt es baseDir).plain t = .error f ∧ Stray f ↔
      Unbuilt t (rawAt es baseDir) (filtersAt es) (textsAt es "source_roots") f :=
  plain_strays_iff (listAt_eq es _) (listAt_eq es _) (listAt_eq es _) (listAt_null es _)

/-- The cases are the steps in which a mapping is read. -/
theorem escapes_of_plainMapping (h : plainMapping t es baseDir = .error f) (hstray : Stray f) :
    Escapes t baseDir es f := by
  rcases bind_eq_error_iff.mp h with hfailed | ⟨es', hes, h⟩
  · exact .conversion (snakeEntries_eq_error_iff.mp hfailed)
  rcases bind_eq_error_iff.mp h with hfailed | ⟨lists, hlists, h⟩
  · obtain ⟨hitem, hf⟩ := lists_stray_iff.mp ⟨hfailed, hstray⟩
    exact .item hes hitem hf
  rcases bind_eq_error_iff.mp h with hfailed | ⟨switches, hswitches, h⟩
  · -- a switch that is no truth value is reported
    exact absurd hstray (switches_not_stray hfailed)
  have haccepted : Accepted (merged es') :=
    ⟨congrArg Except.isOk hlists, congrArg Except.isOk hswitches⟩
  rcases bind_eq_error_iff.mp h with hfailed | ⟨unknown, hunknown, h⟩
  · exact .key hes haccepted (unnamed_of_unknownKeys hfailed)
  · exact .building hes haccepted (isOk_unknownKeys_iff.mp (congrArg Except.isOk hunknown))
      (plain_rawAt_strays_iff.mp ⟨h, hstray⟩)

/-- Each way out is one that is taken; for the proof, the steps before it are known to succeed. -/
theorem Escapes.plainMapping (h : Escapes t baseDir es f) :
    ∃ f', Config.plainMapping t es baseDir = .error f' ∧ Stray f' := by
  unfold Config.plainMapping
  -- each case names the steps that succeed before the one that fails
  cases h with
  | conversion hhalts =>
    rw [snakeEntries_eq_error_iff.mpr hhalts, error_bind]
    exact ⟨_, rfl, hhalts.stray⟩
  | item hes hitem hf =>
    obtain ⟨hfailed, hstray⟩ := lists_stray_iff.mpr ⟨hitem, hf⟩
    rw [hes, ok_bind]
    dsimp only
    rw [hfailed, error_bind]
    exact ⟨_, rfl, hstray⟩
  | key hes haccepted hkey =>
    obtain ⟨lists, hlists⟩ := exists_of_isOk haccepted.1
    obtain ⟨switches, hswitches⟩ := exists_of_isOk haccepted.2
    obtain ⟨f', hunknown⟩ := hkey.unknownKeys
    rw [hes, ok_bind]
    dsimp only
    rw [hlists, ok_bind, hswitches, ok_bind, hunknown, error_bind]
    exact ⟨f', rfl, (unnamed_of_unknownKeys hunknown).stray⟩
  | building hes haccepted hkeys hunbuilt =>
    obtain ⟨lists, hlists⟩ := exists_of_isOk haccepted.1
    obtain ⟨switches, hswitches⟩ := exists_of_isOk haccepted.2
    obtain ⟨unknown, hunknown⟩ := exists_of_isOk (isOk_unknownKeys_iff.mpr hkeys)
    rw [hes, ok_bind]
    dsimp only
    rw [hlists, ok_bind, hswitches, ok_bind, hunknown, ok_bind]
    exact ⟨f, plain_rawAt_strays_iff.mpr hunbuilt⟩

end Mappings

/-! ## Files -/

section Files

variable [Pattern.Compiler] {t : FileTree} {file baseDir : Path}

/-- What becomes of a file with a certain content. -/
def plainContent (t : FileTree) (file baseDir : Path) :
    Except Yaml.Refusal Value → Except Fault FilterConfig
  | .ok .null => .ok {}
  | .ok (.map es) => plainMapping t es (some baseDir)
  | .ok _ => .error (fileFault "Expected a mapping at the top of " file)
  | .error .malformed => .error (fileFault "Invalid YAML in " file)
  | .error (.fault f) => .error f

/-- A configuration is loaded from a file that is there and can be read by reading its document. -/
theorem yields_load [Yaml.Codec] {usual : Path} {l : Location} {cs : List Char}
    (hfile : l.resolve usual = .ok file) (hpath : t.hasPath file = .ok true)
    (htext : t.readText file = .ok cs) :
    Yields (load t usual l)
      (plainContent t file (l.projectRoot.getD t.workDir) (Yaml.Codec.load cs)) := by
  intro ns
  rw [load, Noticed.on_ofExcept_bind hfile, Noticed.on_ofExcept_bind hpath, if_pos rfl]
  unfold readFile plainContent
  rw [htext, ok_bind]
  rcases Yaml.Codec.load cs with (_ | f) | v
  · rfl
  · rfl
  · cases v with
    | map es =>
      dsimp only
      rw [← bind_pure (plainMapping t es _)]
      exact Yields.bind (yields_ofMapping t es _)
        (fun c => (Noticed.yields_pure c).notify_bind) ns
    | _ => rfl

/-- A fault that leaves the reading of a content is reported, or a mapping lets it escape. -/
theorem escapes_of_plainContent {content : Except Yaml.Refusal Value}
    (hyaml : ∀ f, content ≠ .error (.fault f)) (h : plainContent t file baseDir content = .error f)
    (hstray : Stray f) : ∃ es, content = .ok (.map es) ∧ Escapes t (some baseDir) es f := by
  have hreported {message : String} (h : fileFault message file = f) : False :=
    hstray _ h.symm
  rcases content with (_ | g) | v
  · exact (hreported (Except.error.inj h)).elim
  · exact absurd rfl (hyaml g)
  · cases v with
    | null => cases h
    | map es => exact ⟨es, rfl, escapes_of_plainMapping h hstray⟩
    | _ => exact (hreported (Except.error.inj h)).elim

end Files

/-- To load a file that is there and that YAML reads or rejects ends with a fault that is no report
    about the configuration exactly if the file holds a mapping that makes a fault escape, and then
    with such a fault; in all other cases it gives a configuration or a report. -/
theorem load_strays_iff [Pattern.Compiler] [Yaml.Codec] {t : FileTree} {usual file : Path}
    {l : Location} {cs : List Char} (hfile : l.resolve usual = .ok file)
    (hpath : t.hasPath file = .ok true) (htext : t.readText file = .ok cs)
    (hyaml : ∀ f, Yaml.Codec.load cs ≠ .error (.fault f)) (ns : List Notice) :
    ((∃ f, ((load t usual l).on ns).1 = .error f ∧ Stray f) ↔
      ∃ es f, Yaml.Codec.load cs = .ok (.map es) ∧
        Escapes t (some (l.projectRoot.getD t.workDir)) es f) ∧
    (∀ f, ((load t usual l).on ns).1 = .error f → Stray f →
      ∃ es, Yaml.Codec.load cs = .ok (.map es) ∧
        Escapes t (some (l.projectRoot.getD t.workDir)) es f) ∧
    ((∃ c, ((load t usual l).on ns).1 = .ok c) ∨
        (∃ report, ((load t usual l).on ns).1 = .error (.configuration report)) ↔
      ∀ es f, Yaml.Codec.load cs = .ok (.map es) →
        ¬Escapes t (some (l.projectRoot.getD t.workDir)) es f) := by
  -- one direction from the result to the mapping
  have hescapes (f : Fault) (h : ((load t usual l).on ns).1 = .error f) (hstray : Stray f) :
      ∃ es, Yaml.Codec.load cs = .ok (.map es) ∧
        Escapes t (some (l.projectRoot.getD t.workDir)) es f := by
    rw [yields_load hfile hpath htext ns] at h
    exact escapes_of_plainContent hyaml h hstray
  -- and one from the mapping to the result
  have hstrays {es : List (Value × Value)} {f : Fault} (hes : Yaml.Codec.load cs = .ok (.map es))
      (h : Escapes t (some (l.projectRoot.getD t.workDir)) es f) :
      ∃ f', ((load t usual l).on ns).1 = .error f' ∧ Stray f' := by
    rw [yields_load hfile hpath htext ns, hes]
    exact h.plainMapping
  refine ⟨⟨?_, ?_⟩, hescapes, ?_, ?_⟩
  · rintro ⟨f, h, hstray⟩
    obtain ⟨es, hes, h⟩ := hescapes f h hstray
    exact ⟨es, f, hes, h⟩
  · rintro ⟨es, f, hes, h⟩
    exact hstrays hes h
  · rintro hended es f hes h
    obtain ⟨f', hf', hstray⟩ := hstrays hes h
    rcases hended with ⟨c, hc⟩ | ⟨report, hreport⟩
    · exact nomatch hf'.symm.trans hc
    · exact hstray report (Except.error.inj (hf'.symm.trans hreport))
  · intro hnone
    cases hended : ((load t usual l).on ns).1 with
    | ok c => exact .inl ⟨c, rfl⟩
    | error f =>
      by_cases hstray : Stray f
      · obtain ⟨es, hes, h⟩ := hescapes f hended hstray
        exact absurd h (hnone es f hes)
      · obtain ⟨report, hreport⟩ := Classical.not_forall_not.mp hstray
        exact .inr ⟨report, congrArg Except.error hreport⟩

/-- A file with a single key, which is a number. -/
theorem load_strays_iff_number :
    let tree : FileTree :=
      { nodes :=
          [(["work"], .directory), (["work", "c.yaml"], .file (Text.writeUtf8 "1: x\n".toList))]
        workDir := Path.ofText "/work" }
    let usual := Path.ofText ".hush/suppressions.yaml"
    let l : Location := { file := some (Path.ofText "c.yaml") }
    let cs := "1: x\n".toList
    let es : List (Value × Value) := [(.int 1, .str "x")]
    l.resolve usual = .ok (Path.ofText "c.yaml") ∧
      tree.hasPath (Path.ofText "c.yaml") = .ok true ∧
      tree.readText (Path.ofText "c.yaml") = .ok cs ∧
      Yaml.Codec.load cs = .ok (.map es) ∧
      Escapes tree (some tree.workDir) es (.notIndexable .int) ∧
      ∃ f, ((load tree usual l).on []).1 = .error f ∧ Stray f := by
  intro tree usual l cs es
  have hpath : tree.hasPath (Path.ofText "c.yaml") = .ok true :=
    eq_ok_of_toOption (by decide +kernel)
  have htext : tree.readText (Path.ofText "c.yaml") = .ok cs :=
    eq_ok_of_toOption (by decide +kernel)
  have hread : Yaml.Codec.load cs = .ok (.map es) := eq_ok_of_toOption (by decide +kernel)
  have hescapes : Escapes tree (some tree.workDir) es (.notIndexable .int) :=
    .conversion ⟨[], .key (.int 1), [], rfl, nofun, rfl⟩
  have hfile : l.resolve usual = .ok (Path.ofText "c.yaml") := rfl
  obtain ⟨hstrays, -⟩ :=
    load_strays_iff hfile hpath htext (fun f hf => nomatch hread.symm.trans hf) []
  exact ⟨hfile, hpath, htext, hread, hescapes, hstrays.mpr ⟨es, _, hread, hescapes⟩⟩

/-- The same file is there and can be read, but it is neither loaded nor reported. -/
theorem load_number_stray :
    let tree : FileTree :=
      { nodes :=
          [(["work"], .directory), (["work", "c.yaml"], .file (Text.writeUtf8 "1: x\n".toList))]
        workDir := Path.ofText "/work" }
    let loaded := ((load tree (Path.ofText ".hush/suppressions.yaml")
      { file := some (Path.ofText "c.yaml") }).on []).1
    tree.hasPath (Path.ofText "c.yaml") = .ok true ∧
      tree.readText (Path.ofText "c.yaml") = .ok "1: x\n".toList ∧
      (Yaml.Codec.load "1: x\n".toList).isOk = true ∧
      (∀ c, loaded ≠ .ok c) ∧ ∀ report, loaded ≠ .error (.configuration report) := by
  intro tree loaded
  have hpath : tree.hasPath (Path.ofText "c.yaml") = .ok true :=
    eq_ok_of_toOption (by decide +kernel)
  have htext : tree.readText (Path.ofText "c.yaml") = .ok "1: x\n".toList :=
    eq_ok_of_toOption (by decide +kernel)
  have hread : Yaml.Codec.load "1: x\n".toList = .ok (.map [(.int 1, .str "x")]) :=
    eq_ok_of_toOption (by decide +kernel)
  have hloaded : loaded = .error (.notIndexable .int) := by
    show ((load tree _ _).on []).1 = _
    rw [yields_load rfl hpath htext, hread]
    rfl
  rw [hloaded]
  exact ⟨hpath, htext, congrArg Except.isOk hread, nofun, nofun⟩

end Muffle.Config
