/-
  Muffle.Proofs.Innermost

  The stored order of directives. Registering a directive puts it right before the first stored
  one that strictly encloses it, and stored directives never move. This is enough for the order
  "no directive stands before one inside it" to survive every registration, in whatever order the
  directives come: what the encloser encloses, the new directive cannot find behind it. A scan
  from the front therefore meets an innermost directive first.

  All directives have ranges of one kind of positions here; then nothing below can fail.
-/

import Muffle.Registry
import Muffle.Proofs.Range

namespace Muffle

/-! ## Directives that apply -/

namespace Directive

/-- The directive covers a message at a position. -/
def Applies (d : Directive) (position : Value) (message : String) : Prop :=
  d.range.Covers position ∧ ∀ f ∈ d.pattern, f.matchesText message = true

instance (d : Directive) (position : Value) (message : String) :
    Decidable (d.Applies position message) :=
  inferInstanceAs (Decidable (_ ∧ _))

/-- The directive from one offset to another, without a pattern. -/
def atOffsets (id : Nat) (start stop : Int) : Directive where
  id := id
  anchor := .int start
  range := ⟨.int start, .int stop⟩
  pattern := none
  inMacroExpansion := .bool false

variable {k : PositionKind} {d : Directive} {position : Value}

theorem appliesTo_eq (hd : d.range.OfKind k) (hp : k.HasOrNull position) (message : String) :
    d.appliesTo position (.str message) = .ok (decide (d.Applies position message)) := by
  rw [appliesTo, SourceRange.contains_eq hd hp]
  by_cases hc : d.range.Covers position
  · cases hf : d.pattern with
    | none => simp [Applies, hc, hf]
    | some f =>
      simp [Applies, hc, hf, PatternFilter.matchesValue]
  · simp [Applies, hc]

/-! ## Insertion into a stored list -/

/-- Puts a directive right before the first stored one that strictly encloses it, or at the end. -/
def insertInto (d : Directive) : List Directive → List Directive
  | [] => [d]
  | e :: rest =>
    if e.range.StrictlyEncloses d.range then d :: e :: rest else e :: d.insertInto rest

theorem insertInto_perm (d : Directive) (ds : List Directive) :
    (d.insertInto ds).Perm (d :: ds) := by
  induction ds with
  | nil => exact List.Perm.refl _
  | cons e rest ih =>
    rw [insertInto]
    split
    · exact List.Perm.refl _
    · exact (ih.cons e).trans (List.Perm.swap d e rest)

theorem mem_insertInto {d e : Directive} {ds : List Directive} :
    e ∈ d.insertInto ds ↔ e = d ∨ e ∈ ds := by
  rw [(d.insertInto_perm ds).mem_iff, List.mem_cons]

/-- No directive stands before one whose range lies strictly inside its own. -/
def InnermostFirst (ds : List Directive) : Prop :=
  ds.Pairwise fun a b => ¬ a.range.StrictlyEncloses b.range

/-- The place before the first range that strictly encloses the new one keeps the order. -/
theorem InnermostFirst.insertInto {ds : List Directive} (h : InnermostFirst ds) (d : Directive) :
    InnermostFirst (d.insertInto ds) := by
  induction ds with
  | nil => exact List.pairwise_singleton _ _
  | cons e rest ih =>
    obtain ⟨hhead, htail⟩ := List.pairwise_cons.mp h
    rw [Directive.insertInto]
    split
    · -- `d` comes before `e`, which encloses it
      rename_i henc
      refine List.pairwise_cons.mpr ⟨fun x hx => ?_, h⟩
      rcases List.mem_cons.mp hx with rfl | hx
      · exact henc.asymm
      · -- What lies inside `d` lies inside `e` too, and so cannot stand behind `e`.
        exact fun hdx => hhead x hx (henc.trans hdx)
    · -- `d` comes somewhere behind `e`, which does not enclose it
      rename_i hnot
      refine List.pairwise_cons.mpr ⟨fun x hx => ?_, ih htail⟩
      rcases mem_insertInto.mp hx with rfl | hx
      · exact hnot
      · exact hhead x hx

end Directive

/-! ## Registration -/

namespace Registry

variable {k : PositionKind}

/-- Whether all stored ranges are of one kind of positions. -/
def OfKind (g : Registry) (k : PositionKind) : Prop := ∀ d ∈ g.directives, d.range.OfKind k

theorem insertIdx_length_append {α : Type} (xs ys : List α) (a : α) :
    (xs ++ ys).insertIdx xs.length a = xs ++ a :: ys := by
  induction xs with
  | nil => rfl
  | cons x xs ih => simp [ih]

theorem crosses_ok {d : Directive} {r : SourceRange} (hd : d.range.OfKind k) (hr : r.OfKind k) :
    ∃ b, crosses d r = .ok b := by
  rw [crosses, SourceRange.overlaps_eq hd hr, SourceRange.encloses_eq hr hd]
  by_cases h : d.range.Overlaps r
  · exact ⟨!decide (r.Encloses d.range), by simp [h]⟩
  · exact ⟨false, by simp [h]⟩

/-- Ranges of one kind can always be compared. -/
theorem firstCrossing_ok {d : Directive} {r : SourceRange} (hr : r.OfKind k)
    (hd : d.range.OfKind k) (found : Option Directive) :
    ∃ c, firstCrossing r found d = .ok c := by
  cases found with
  | some c => exact ⟨some c, rfl⟩
  | none =>
    obtain ⟨b, hb⟩ := crosses_ok hd hr
    exact ⟨if b then some d else none, by rw [firstCrossing, hb]; rfl⟩

/-- The place that is found, read as an insertion. The induction carries the directives before
    the ones that are still to be looked at, since places are counted from the front. -/
theorem placeFrom_spec {d : Directive} (hd : d.range.OfKind k) (u : SourceUnit) :
    ∀ (rest before : List Directive) (crossing : Option Directive),
      (∀ e ∈ rest, e.range.OfKind k) →
      ∃ p, placeFrom d.range crossing before.length rest = .ok p ∧
        insertAt ⟨u, before ++ rest⟩ d p = ⟨u, before ++ d.insertInto rest⟩
  | [], before, crossing, _ => by
    exact ⟨.last crossing, rfl, by simp [insertAt, Directive.insertInto]⟩
  | e :: rest, before, crossing, hrest => by
    have he : e.range.OfKind k := hrest e List.mem_cons_self
    rw [placeFrom, SourceRange.strictlyEncloses_eq he hd, Directive.insertInto]
    by_cases henc : e.range.StrictlyEncloses d.range
    · -- the search ends at the first one that encloses
      refine ⟨.before before.length e, by simp [henc], ?_⟩
      simp [insertAt, henc, insertIdx_length_append]
    · -- it goes on behind `e`, which may be the first one that crosses
      obtain ⟨c, hc⟩ := firstCrossing_ok hd he crossing
      obtain ⟨p, hp, hins⟩ := placeFrom_spec hd u rest (before ++ [e]) c
        fun x hx => hrest x (List.mem_cons_of_mem _ hx)
      rw [List.length_append, List.length_singleton] at hp
      rw [List.append_assoc, List.append_assoc] at hins
      refine ⟨p, ?_, ?_⟩
      · simp [henc, hc, hp]
      · rw [if_neg henc]
        exact hins

/-- A registration is an insertion, and the notices do not matter. -/
theorem register_eq {g : Registry} {d : Directive} (hg : g.OfKind k) (hd : d.range.OfKind k) :
    ∃ ns, g.register d = .ok ({ g with directives := d.insertInto g.directives }, ns) := by
  obtain ⟨p, hp, hins⟩ := placeFrom_spec hd g.unit g.directives [] none hg
  refine ⟨g.placeNotices d p, ?_⟩
  rw [register, place, show (0 : Nat) = ([] : List Directive).length from rfl, hp]
  exact congrArg (fun h => Except.ok (h, g.placeNotices d p)) hins

theorem OfKind.insertInto {g : Registry} {d : Directive} (hg : g.OfKind k)
    (hd : d.range.OfKind k) : OfKind { g with directives := d.insertInto g.directives } k := by
  intro e he
  rcases Directive.mem_insertInto.mp he with rfl | he
  · exact hd
  · exact hg e he

/-- Registers directives in order. -/
def registerAll (g : Registry) : List Directive → Except Fault Registry
  | [] => .ok g
  | d :: rest => do
    let (g, _) ← g.register d
    g.registerAll rest

/-- Registers directives in order, where the range of each has to be written once it is stored. -/
def enterAll (g : Registry) : List Directive → Except Fault Registry
  | [] => .ok g
  | d :: rest => do
    let (g, _) ← g.register d
    let _ ← d.range.written
    g.enterAll rest

theorem enterAll_cons {g : Registry} {d : Directive} {r : Registry × List Notice}
    (h : g.register d = .ok r) (rest : List Directive) :
    g.enterAll (d :: rest) = (do let _ ← d.range.written; r.1.enterAll rest) := by
  rw [enterAll, h]
  rfl

theorem enterAll_eq_ok_iff {g g' : Registry} {ds : List Directive} :
    g.enterAll ds = .ok g' ↔
      g.registerAll ds = .ok g' ∧ ∀ d ∈ ds, d.range.isWritable = true := by
  induction ds generalizing g with
  | nil => exact (and_iff_left (List.forall_mem_nil _)).symm
  | cons d rest ih =>
    cases hreg : g.register d with
    | error f =>
      rw [enterAll, registerAll, hreg]
      exact iff_of_false nofun fun h => nomatch h.1
    | ok r =>
      have hrest : g.registerAll (d :: rest) = r.1.registerAll rest := by
        rw [registerAll, hreg]
        rfl
      rw [enterAll_cons hreg, hrest, List.forall_mem_cons]
      cases hd : d.range.isWritable with
      | false =>
        rw [SourceRange.written_eq_error hd]
        exact iff_of_false nofun fun h => nomatch h.2.1
      | true =>
        obtain ⟨text, htext⟩ := SourceRange.exists_written hd
        rw [htext, ok_bind, ih, eq_self, true_and]

/-- Where all directives have a place, only a range that cannot be written is in the way. -/
theorem enterAll_unwritable {g g' : Registry} {ds : List Directive}
    (h : g.registerAll ds = .ok g') (hw : ∃ d ∈ ds, d.range.isWritable = false) :
    g.enterAll ds = .error (.tooManyDigits 0) := by
  induction ds generalizing g with
  | nil =>
    obtain ⟨d, hd, -⟩ := hw
    cases hd
  | cons d rest ih =>
    obtain ⟨r, hreg, hrest⟩ := bind_eq_ok_iff.mp h
    rw [enterAll_cons hreg]
    cases hd : d.range.isWritable with
    | false =>
      rw [SourceRange.written_eq_error hd]
      rfl
    | true =>
      obtain ⟨text, htext⟩ := SourceRange.exists_written hd
      rw [htext, ok_bind]
      refine ih hrest ?_
      obtain ⟨x, hx, hxw⟩ := hw
      rcases List.mem_cons.mp hx with rfl | hx
      · exact absurd (hd.symm.trans hxw) nofun
      · exact ⟨x, hx, hxw⟩

/-- The stored list after some more directives. -/
def stored (ds : List Directive) : List Directive → List Directive :=
  List.foldl (fun acc d => d.insertInto acc) ds

/-- The run lemma: registrations in a row are insertions in a row. -/
theorem registerAll_eq {g : Registry} {ds : List Directive} (hg : g.OfKind k)
    (hds : ∀ d ∈ ds, d.range.OfKind k) :
    g.registerAll ds = .ok { g with directives := stored g.directives ds } := by
  induction ds generalizing g with
  | nil => rfl
  | cons d rest ih =>
    have hd : d.range.OfKind k := hds d List.mem_cons_self
    obtain ⟨ns, hns⟩ := register_eq hg hd
    have hrest := ih (hg.insertInto hd) fun e he => hds e (List.mem_cons_of_mem _ he)
    rw [registerAll, hns]
    exact hrest

theorem stored_perm (ds es : List Directive) : (stored ds es).Perm (ds ++ es) := by
  induction es generalizing ds with
  | nil => simp [stored]
  | cons d rest ih =>
    refine (ih (d.insertInto ds)).trans ?_
    refine ((d.insertInto_perm ds).append_right rest).trans ?_
    exact List.perm_middle.symm

/-- By induction on the directives, each put into its place. -/
theorem stored_innermostFirst {ds : List Directive} (h : Directive.InnermostFirst ds)
    (es : List Directive) : Directive.InnermostFirst (stored ds es) := by
  induction es generalizing ds with
  | nil => exact h
  | cons d rest ih => exact ih (h.insertInto d)

example :
    (stored [] [.atOffsets 0 0 100, .atOffsets 1 200 300, .atOffsets 2 10 20]).map (·.id) =
      [2, 0, 1] := by
  decide

/-! ## Lookup -/

/-- The search is one for the first directive that covers the position and matches the message. -/
theorem firstMatch_eq {position : Value} (hp : k.HasOrNull position) (message : String)
    {ds : List Directive} (hds : ∀ d ∈ ds, d.range.OfKind k) :
    firstMatch position (.str message) ds =
      .ok (ds.find? fun d => decide (d.Applies position message)) := by
  induction ds with
  | nil => rfl
  | cons d rest ih =>
    have hd := Directive.appliesTo_eq (hds d List.mem_cons_self) hp message
    have hrest := ih fun e he => hds e (List.mem_cons_of_mem _ he)
    rw [firstMatch, hd, hrest]
    by_cases h : d.Applies position message <;>
      simp [h]

theorem find?_eq {g : Registry} (hg : g.OfKind k) {position : Value}
    (hp : k.HasOrNull position) (message : String) :
    g.find? position (.str message) =
      .ok (g.directives.find? fun d => decide (d.Applies position message)) :=
  firstMatch_eq hp message hg

/-- Of the directives that apply, the first in an innermost-first list encloses no other one. -/
theorem innermost_of_find? {ds : List Directive} (h : Directive.InnermostFirst ds)
    {p : Directive → Bool} {d : Directive} (hd : ds.find? p = some d) :
    ∀ e ∈ ds, p e → ¬ d.range.StrictlyEncloses e.range := by
  obtain ⟨-, before, after, rfl, hbefore⟩ := List.find?_eq_some_iff_append.mp hd
  intro e he hpe
  rcases List.mem_append.mp he with he | he
  · exact absurd hpe (by simpa using hbefore e he)
  · rcases List.mem_cons.mp he with rfl | he
    · exact SourceRange.StrictlyEncloses.irrefl _
    · have htail := (List.pairwise_append.mp h).2.1
      exact (List.pairwise_cons.mp htail).1 e he

/-- After any registrations of directives of one kind of positions, in any order, the registry
    holds exactly these directives, none before one inside it. A lookup finds nothing exactly if
    none of them applies, and else one that applies and encloses no other one that does. -/
theorem registerAll_innermost (u : SourceUnit) {ds : List Directive}
    (hds : ∀ d ∈ ds, d.range.OfKind k) :
    ∃ g, ({ unit := u } : Registry).registerAll ds = .ok g ∧
      g.directives.Perm ds ∧ Directive.InnermostFirst g.directives ∧
      ∀ (position : Value) (message : String), k.HasOrNull position →
        ∃ found, g.find? position (.str message) = .ok found ∧
          (found = none ↔ ∀ d ∈ ds, ¬ d.Applies position message) ∧
          ∀ d, found = some d → d ∈ ds ∧ d.Applies position message ∧
            ∀ e ∈ ds, e.Applies position message → ¬ d.range.StrictlyEncloses e.range := by
  have hperm : (stored [] ds).Perm ds := stored_perm [] ds
  have horder : Directive.InnermostFirst (stored [] ds) := stored_innermostFirst .nil ds
  have hkind : OfKind ⟨u, stored [] ds⟩ k := fun d hd => hds d (hperm.mem_iff.mp hd)
  refine ⟨⟨u, stored [] ds⟩, registerAll_eq (fun d hd => absurd hd List.not_mem_nil) hds,
    hperm, horder, fun position message hp => ⟨_, find?_eq hkind hp message, ?_, ?_⟩⟩
  · rw [List.find?_eq_none]
    simp only [decide_eq_true_eq, hperm.mem_iff]
  · intro d hd
    have hinner := innermost_of_find? horder hd
    have happlies : d.Applies position message := by simpa using List.find?_some hd
    refine ⟨hperm.mem_iff.mp (List.mem_of_find?_eq_some hd), happlies, fun e he hae => ?_⟩
    exact hinner e (hperm.mem_iff.mpr he) (decide_eq_true hae)

/-- Of an outer directive and an inner one that comes later, the inner one is found. -/
theorem registerAll_innermost_late :
    let ds := [Directive.atOffsets 0 0 100, Directive.atOffsets 1 200 300,
      Directive.atOffsets 2 10 20]
    (∀ d ∈ ds, d.range.OfKind .offset) ∧ PositionKind.offset.HasOrNull (.int 15) ∧
      ∃ g, ({ unit := ⟨"u"⟩ } : Registry).registerAll ds = .ok g ∧
        g.find? (.int 15) (.str "x") = .ok (some (Directive.atOffsets 2 10 20)) := by
  intro ds
  have hds : ∀ d ∈ ds, d.range.OfKind .offset := by
    simp [ds, Directive.atOffsets, SourceRange.OfKind, PositionKind.Has, Value.integer?]
  have hp : PositionKind.offset.HasOrNull (.int 15) := Or.inr rfl
  refine ⟨hds, hp, ?_⟩
  obtain ⟨g, hg, -, -, hfind⟩ := registerAll_innermost ⟨"u"⟩ hds
  obtain ⟨found, hfound, hnone, hsome⟩ := hfind (.int 15) "x" hp
  refine ⟨g, hg, hfound.trans ?_⟩
  have happlies : (Directive.atOffsets 2 10 20).Applies (.int 15) "x" := by decide
  cases hd : found with
  | none => exact absurd happlies (hnone.mp hd _ (by simp [ds]))
  | some d =>
    obtain ⟨hmem, hd15, hinner⟩ := hsome d hd
    simp only [ds, List.mem_cons, List.not_mem_nil, or_false] at hmem
    rcases hmem with rfl | rfl | rfl
    · exact absurd (by decide) (hinner (Directive.atOffsets 2 10 20) (by simp [ds]) happlies)
    · exact absurd hd15 (by decide)
    · rfl
end Registry

end Muffle
