/-
  Muffle.Proofs.Ties

  Directives that the order of ranges leaves open. A new directive goes in front of the first
  stored one that strictly encloses it; in an innermost-first list everything that strictly
  encloses a stored directive stands behind it. So a new directive stays behind a stored one
  whenever each of its enclosers encloses the stored one as well, and later registrations move
  neither of them: of such directives the one that was registered first is found first.

  The ends of the ranges may be values of any one ordered kind, so the relation between ranges is
  the computed one here.
-/

import Muffle.Proofs.OrderedKind

namespace Muffle

variable {k : OrderedKind}

/-! ## Strict enclosure as it is computed -/

namespace SourceRange

variable {r s t : SourceRange}

/-- The second range turns out to lie inside the first and to be another range. -/
def Wraps (r s : SourceRange) : Prop := r.strictlyEncloses s = .ok true

theorem HasEnds.wraps_iff (hr : r.HasEnds k) (hs : s.HasEnds k) :
    r.Wraps s ↔ (k.key r.start ≤ k.key s.start ∧ k.key s.stop ≤ k.key r.stop) ∧
      ¬(k.key r.start = k.key s.start ∧ k.key r.stop = k.key s.stop) := by
  rw [Wraps, hr.strictlyEncloses_eq hs, Except.ok.injEq, Bool.and_eq_true, decide_eq_true_iff,
    Bool.not_eq_true', ← hr.same_iff hs, Bool.not_eq_true]

theorem HasEnds.not_wraps_self (hr : r.HasEnds k) : ¬r.Wraps r := by
  rw [hr.wraps_iff hr]
  exact fun h => h.2 ⟨rfl, rfl⟩

/-- A range that wraps another wraps all that this one wraps. -/
theorem HasEnds.wraps_trans (hr : r.HasEnds k) (hs : s.HasEnds k) (ht : t.HasEnds k)
    (h : r.Wraps s) (h' : s.Wraps t) : r.Wraps t := by
  rw [hr.wraps_iff hs] at h
  rw [hs.wraps_iff ht] at h'
  obtain ⟨⟨hstart, hstop⟩, hne⟩ := h
  obtain ⟨⟨hstart', hstop'⟩, -⟩ := h'
  refine (hr.wraps_iff ht).mpr ⟨⟨hstart.trans hstart', hstop'.trans hstop⟩, ?_⟩
  -- if the outermost and the innermost range had the same ends, so would the one between them
  rintro ⟨heq, heq'⟩
  exact hne ⟨le_antisymm hstart (heq ▸ hstart'), le_antisymm (heq' ▸ hstop') hstop⟩

end SourceRange

/-! ## Where a new directive goes -/

namespace Directive

variable {a b d : Directive} {ds ds' before after : List Directive}

/-- A list with a new directive right before the first one that strictly encloses it, or at the
    end. -/
inductive Inserted (d : Directive) : List Directive → List Directive → Prop
  | last : Inserted d [] [d]
  | before {e : Directive} {rest : List Directive} (h : e.range.Wraps d.range) :
      Inserted d (e :: rest) (d :: e :: rest)
  | behind {e : Directive} {rest rest' : List Directive} (h : ¬e.range.Wraps d.range)
      (hrest : Inserted d rest rest') : Inserted d (e :: rest) (e :: rest')

theorem Inserted.sublist (h : Inserted d ds ds') : ds.Sublist ds' := by
  induction h with
  | last => exact List.nil_sublist _
  | before => exact List.sublist_cons_self d _
  | behind _ _ ih => exact ih.cons_cons _

theorem Inserted.mem_iff (h : Inserted d ds ds') {x : Directive} : x ∈ ds' ↔ x = d ∨ x ∈ ds := by
  induction h with
  | last => simp
  | before => simp
  | behind _ _ ih =>
    rw [List.mem_cons, List.mem_cons, ih]
    exact or_left_comm

/-- No directive stands before one that it strictly encloses. -/
def Innermost (ds : List Directive) : Prop := ds.Pairwise fun x y => ¬x.range.Wraps y.range

/-- The step lemma: an insertion at the right place keeps inner ranges first. -/
theorem Inserted.innermost (h : Inserted d ds ds') (hds : ∀ x ∈ ds, x.range.HasEnds k)
    (hd : d.range.HasEnds k) (hfirst : Innermost ds) : Innermost ds' := by
  induction h with
  | last => exact List.pairwise_singleton _ _
  | @before e rest henc =>
    have he : e.range.HasEnds k := hds e List.mem_cons_self
    refine List.pairwise_cons.mpr ⟨fun x hx hdx => ?_, hfirst⟩
    have hex := he.wraps_trans hd (hds x hx) henc hdx
    rcases List.mem_cons.mp hx with rfl | hx
    · exact he.not_wraps_self hex
    · -- what lies inside `d` lies inside `e` too, and so cannot stand behind `e`
      exact (List.pairwise_cons.mp hfirst).1 x hx hex
  | behind hnot hrest ih =>
    obtain ⟨hhead, htail⟩ := List.pairwise_cons.mp hfirst
    refine List.pairwise_cons.mpr ⟨fun x hx => ?_, ih (List.forall_mem_cons.mp hds).2 htail⟩
    rcases hrest.mem_iff.mp hx with rfl | hx
    · exact hnot
    · exact hhead x hx

/-! ## Directives with the same enclosers -/

/-- Of some directives, each one that strictly encloses `b` strictly encloses `a` too. -/
def SharesEnclosers (ds : List Directive) (a b : Directive) : Prop :=
  ∀ x ∈ ds, x.range.Wraps b.range → x.range.Wraps a.range

/-- Equal ranges are enclosed by the same ranges. -/
theorem sharesEnclosers_of_same (hds : ∀ x ∈ ds, x.range.HasEnds k) (ha : a.range.HasEnds k)
    (hb : b.range.HasEnds k) (h : a.range.same b.range = true) : SharesEnclosers ds a b := by
  obtain ⟨hstart, hstop⟩ := (ha.same_iff hb).mp h
  intro x hx hxb
  rw [(hds x hx).wraps_iff hb] at hxb
  rwa [(hds x hx).wraps_iff ha, hstart, hstop]

/-- Two directives that cross or lie apart share their enclosers if the others enclose both or
    neither of them. -/
theorem sharesEnclosers_of_containers (hnot : ¬a.range.Wraps b.range)
    (h : ∀ x ∈ before ++ after, x.range.Wraps b.range ↔ x.range.Wraps a.range) :
    SharesEnclosers (before ++ a :: after) a b := by
  intro x hx hxb
  rw [List.mem_append, List.mem_cons, or_left_comm, ← List.mem_append] at hx
  rcases hx with rfl | hx
  · exact absurd hxb hnot
  · exact (h x hx).mp hxb

/-- A directive whose enclosers enclose a stored one as well goes behind that one. -/
theorem Inserted.behind_of_shares (h : Inserted b ds ds') (hfirst : Innermost ds)
    (hshare : SharesEnclosers ds a b) (ha : a ∈ ds) (hself : ¬a.range.Wraps a.range) :
    [a, b].Sublist ds' := by
  induction h with
  | last => cases ha
  | @before e rest henc =>
    -- what encloses `b` encloses `a`, and so does not stand in front of it
    have hea := hshare e List.mem_cons_self henc
    rcases List.mem_cons.mp ha with rfl | ha
    · exact absurd hea hself
    · exact absurd hea ((List.pairwise_cons.mp hfirst).1 a ha)
  | @behind e rest rest' hnot hrest ih =>
    rcases List.mem_cons.mp ha with rfl | ha
    · exact (List.singleton_sublist.mpr (hrest.mem_iff.mpr (.inl rfl))).cons_cons a
    · have hshare' : SharesEnclosers rest a b := fun y hy => hshare y (List.mem_cons_of_mem _ hy)
      exact (ih (List.pairwise_cons.mp hfirst).2 hshare' ha).cons e

end Directive

/-! ## Registration -/

namespace Registry

variable {g g' : Registry} {d : Directive} {ds es : List Directive} {ns : List Notice}
  {position message : Value}

/-- The place that is found, read as an insertion. The induction carries the directives before
    the ones that are still to be looked at, since places are counted from the front. -/
theorem placeFrom_inserted {p : Place} {crossing : Option Directive} (u : SourceUnit)
    {rest : List Directive} (before : List Directive)
    (h : placeFrom d.range crossing before.length rest = .ok p) :
    ∃ rest', d.Inserted rest rest' ∧
      (insertAt ⟨u, before ++ rest⟩ d p).directives = before ++ rest' := by
  induction rest generalizing before crossing with
  | nil =>
    cases h
    exact ⟨[d], .last, by simp [insertAt]⟩
  | cons e rest ih =>
    obtain ⟨encloses, hencloses, h⟩ := bind_eq_ok_iff.mp h
    -- the first range that encloses the new one is the place; else the walk goes on
    cases encloses with
    | true =>
      cases h
      exact ⟨d :: e :: rest, .before hencloses, insertIdx_length_append _ _ _⟩
    | false =>
      obtain ⟨c, -, h⟩ := bind_eq_ok_iff.mp h
      have hnext : placeFrom d.range c (before ++ [e]).length rest = .ok p := by
        rw [List.length_append]
        exact h
      obtain ⟨rest', hins, hat⟩ := ih (before ++ [e]) hnext
      rw [List.append_assoc, List.append_assoc, List.singleton_append,
        List.singleton_append] at hat
      have hnot : ¬e.range.Wraps d.range := fun hwraps => by
        rw [SourceRange.Wraps, hencloses] at hwraps
        cases hwraps
      exact ⟨e :: rest', .behind hnot hins, hat⟩

theorem register_inserted (h : g.register d = .ok (g', ns)) :
    d.Inserted g.directives g'.directives := by
  obtain ⟨p, hp, h⟩ := bind_eq_ok_iff.mp h
  cases h
  obtain ⟨ds, hins, hat⟩ := placeFrom_inserted g.unit [] hp
  rw [List.nil_append, List.nil_append] at hat
  rw [hat]
  exact hins

theorem registerAll_cons_eq_ok_iff :
    g.registerAll (d :: ds) = .ok g' ↔
      ∃ g₁ ns, g.register d = .ok (g₁, ns) ∧ g₁.registerAll ds = .ok g' := by
  rw [registerAll, bind_eq_ok_iff]
  exact Prod.exists

theorem registerAll_append_eq_ok_iff :
    g.registerAll (ds ++ es) = .ok g' ↔
      ∃ g₁, g.registerAll ds = .ok g₁ ∧ g₁.registerAll es = .ok g' := by
  induction ds generalizing g with
  | nil => simp [registerAll]
  | cons d rest ih =>
    simp only [List.cons_append, registerAll_cons_eq_ok_iff, ih]
    constructor
    · rintro ⟨g₁, ns, hd, g₂, hrest, hes⟩
      exact ⟨g₂, ⟨g₁, ns, hd, hrest⟩, hes⟩
    · rintro ⟨g₂, ⟨g₁, ns, hd, hrest⟩, hes⟩
      exact ⟨g₁, ns, hd, g₂, hrest, hes⟩

/-- Registrations keep the order of what was stored before. -/
theorem registerAll_sublist (h : g.registerAll ds = .ok g') :
    g.directives.Sublist g'.directives := by
  induction ds generalizing g with
  | nil =>
    cases h
    exact List.Sublist.refl _
  | cons d rest ih =>
    obtain ⟨g₁, ns, hd, hrest⟩ := registerAll_cons_eq_ok_iff.mp h
    exact (register_inserted hd).sublist.trans (ih hrest)

/-- The run lemma. -/
theorem registerAll_innermostFirst (h : g.registerAll ds = .ok g')
    (hg : ∀ x ∈ g.directives, x.range.HasEnds k) (hds : ∀ d ∈ ds, d.range.HasEnds k)
    (hfirst : Directive.Innermost g.directives) : Directive.Innermost g'.directives := by
  induction ds generalizing g with
  | nil =>
    cases h
    exact hfirst
  | cons d rest ih =>
    obtain ⟨hd, hrest⟩ := List.forall_mem_cons.mp hds
    obtain ⟨g₁, ns, hreg, h⟩ := registerAll_cons_eq_ok_iff.mp h
    have hins := register_inserted hreg
    refine ih h (fun x hx => ?_) hrest (hins.innermost hg hd hfirst)
    rcases hins.mem_iff.mp hx with rfl | hx
    · exact hd
    · exact hg x hx

/-- A directive that was registered stands before a later one whose enclosers, as far as they were
    registered by then, enclose both; more registrations do not change this. -/
theorem registerAll_split {u : SourceUnit} {before between after : List Directive}
    {a b : Directive} (hds : ∀ d ∈ before ++ a :: between ++ b :: after, d.range.HasEnds k)
    (hshare : Directive.SharesEnclosers (before ++ a :: between) a b)
    (h : ({ unit := u } : Registry).registerAll (before ++ a :: between ++ b :: after) = .ok g) :
    ∃ inner mid outer, g.directives = inner ++ a :: mid ++ b :: outer := by
  obtain ⟨g₁, hfront, h⟩ := registerAll_append_eq_ok_iff.mp h
  obtain ⟨g₂, ns, hb, hafter⟩ := registerAll_cons_eq_ok_iff.mp h
  have hfrontKind := fun d hd => hds d (List.mem_append_left _ hd)
  have hperm : g₁.directives.Perm (before ++ a :: between) := registerAll_perm hfront
  have hfirst : Directive.Innermost g₁.directives :=
    registerAll_innermostFirst hfront nofun hfrontKind .nil
  have hmem : a ∈ before ++ a :: between := List.mem_append_right _ List.mem_cons_self
  -- `b` went behind `a`, and later registrations keep the order
  have hpair : [a, b].Sublist g₂.directives :=
    (register_inserted hb).behind_of_shares hfirst (fun x hx => hshare x (hperm.mem_iff.mp hx))
      (hperm.mem_iff.mpr hmem) (hfrontKind a hmem).not_wraps_self
  obtain ⟨left, right, hstored, ha, hb⟩ :=
    List.cons_sublist_iff.mp (hpair.trans (registerAll_sublist hafter))
  obtain ⟨inner, mid₁, rfl⟩ := List.append_of_mem ha
  obtain ⟨mid₂, outer, rfl⟩ := List.append_of_mem (List.singleton_sublist.mp hb)
  refine ⟨inner, mid₁ ++ mid₂, outer, ?_⟩
  rw [hstored]
  simp only [List.append_assoc, List.cons_append]

/-! ## Lookup -/

/-- A lookup ends at the first directive that applies, at the latest. -/
theorem firstMatch_append_cons {a : Directive} (ha : a.appliesTo position message = .ok true)
    (inner rest : List Directive) :
    firstMatch position message (inner ++ a :: rest) =
      firstMatch position message (inner ++ [a]) := by
  induction inner with
  | nil => rw [List.nil_append, List.nil_append, firstMatch, firstMatch, ha]; rfl
  | cons x inner ih => rw [List.cons_append, List.cons_append, firstMatch, firstMatch, ih]

/-- A lookup that succeeds finds something if one of the directives applies. -/
theorem mem_of_firstMatch {found : Option Directive} {a : Directive} (hmem : a ∈ ds)
    (ha : a.appliesTo position message = .ok true)
    (h : firstMatch position message ds = .ok found) : ∃ d ∈ ds, found = some d := by
  cases found with
  | none =>
    have hrefuses := firstMatch_eq_none_iff.mp h a hmem
    rw [ha] at hrefuses
    cases hrefuses
  | some d => exact ⟨d, (firstMatch_eq_some_iff.mp h).mem, rfl⟩

/-- Of two directives the one that is registered first stands before the other one from then on,
    if what was registered so far and strictly encloses the second one strictly encloses the first
    one too. This is so for equal ranges, and for ranges that cross or lie apart and have the same
    containers. A lookup that both apply to then ends before it comes to the second one. -/
theorem registerAll_ties (u : SourceUnit) {before between after : List Directive}
    {a b : Directive}
    (hds : ∀ d ∈ before ++ a :: between ++ b :: after, d.range.HasEnds k) :
    ∃ g, ({ unit := u } : Registry).registerAll (before ++ a :: between ++ b :: after) = .ok g ∧
      (a.range.same b.range = true →
        Directive.SharesEnclosers (before ++ a :: between) a b) ∧
      (¬a.range.Wraps b.range →
        (∀ x ∈ before ++ between, x.range.Wraps b.range ↔ x.range.Wraps a.range) →
        Directive.SharesEnclosers (before ++ a :: between) a b) ∧
      (Directive.SharesEnclosers (before ++ a :: between) a b →
        ∃ inner mid outer, g.directives = inner ++ a :: mid ++ b :: outer ∧
          ((before ++ a :: between ++ b :: after).Nodup → b ∉ inner ++ [a]) ∧
          (∀ position message found, a.appliesTo position message = .ok true →
            b.appliesTo position message = .ok true →
            g.find? position message = .ok found → ∃ d ∈ inner ++ [a], found = some d) ∧
          ∀ (position : Value) (message : String), position = .null ∨ k.Has position →
            a.appliesTo position (.str message) = .ok true →
            b.appliesTo position (.str message) = .ok true →
            ∃ d ∈ inner ++ [a], g.find? position (.str message) = .ok (some d)) := by
  obtain ⟨g, hg⟩ := exists_registerAll (g := { unit := u }) nofun hds
  have hperm : g.directives.Perm (before ++ a :: between ++ b :: after) := registerAll_perm hg
  have hfront := fun d hd => hds d (List.mem_append_left _ hd)
  refine ⟨g, hg, Directive.sharesEnclosers_of_same hfront (hds a (by simp)) (hds b (by simp)),
    Directive.sharesEnclosers_of_containers, fun hshare => ?_⟩
  obtain ⟨inner, mid, outer, hstored⟩ := registerAll_split hds hshare hg
  have hcut : inner ++ a :: mid ++ b :: outer = inner ++ a :: (mid ++ b :: outer) := by
    rw [List.append_assoc, List.cons_append]
  -- a lookup goes no further than `a`, which applies
  have hfound : ∀ position message found, a.appliesTo position message = .ok true →
      g.find? position message = .ok found → ∃ d ∈ inner ++ [a], found = some d := by
    intro position message found ha hfind
    rw [find?, hstored, hcut, firstMatch_append_cons ha] at hfind
    exact mem_of_firstMatch (List.mem_append_right _ List.mem_cons_self) ha hfind
  refine ⟨inner, mid, outer, hstored, fun hnodup => ?_, fun position message found ha _ =>
    hfound position message found ha, fun position message hp ha _ => ?_⟩
  · have hdistinct : (inner ++ a :: mid ++ b :: outer).Nodup :=
      hstored ▸ hperm.nodup_iff.mpr hnodup
    intro hb
    have hin : b ∈ inner ++ a :: mid := by
      rw [List.mem_append, List.mem_singleton] at hb
      rw [List.mem_append, List.mem_cons]
      exact hb.imp_right .inl
    exact (List.nodup_append.mp hdistinct).2.2 b hin b List.mem_cons_self rfl
  · obtain ⟨found, hfind⟩ := exists_of_isOk
      (isOk_firstMatch (fun d hd => hds d (hperm.mem_iff.mp hd)) hp message)
    obtain ⟨d, hd, rfl⟩ := hfound position (.str message) found ha hfind
    exact ⟨d, hd, hfind⟩

/-- A directive, one that crosses it inside the same outer one, and two that come later, all of
    them between texts: the first one is found before the second one. -/
theorem registerAll_ties_crossing :
    let ranging (id : Nat) (start stop : String) : Directive :=
      ⟨id, .null, ⟨.str start, .str stop⟩, none, .bool false⟩
    let a := ranging 1 "c" "m"
    let b := ranging 2 "g" "r"
    let ds := [ranging 0 "a" "z"] ++ a :: [] ++ b :: [ranging 3 "d" "f", ranging 4 "" "zz"]
    (∀ d ∈ ds, d.range.HasEnds .texts) ∧
      ∃ g, ({ unit := ⟨"u"⟩ } : Registry).registerAll ds = .ok g ∧
        ∃ inner mid outer, g.directives = inner ++ a :: mid ++ b :: outer ∧
          ∃ d ∈ inner ++ [a], g.find? (.str "h") (.str "x") = .ok (some d) := by
  intro ranging a b ds
  have htext (s : String) : OrderedKind.texts.Has (.str s) := ⟨s, rfl⟩
  have hds : ∀ d ∈ ds, d.range.HasEnds .texts := by
    simp only [ds, a, b, ranging, List.cons_append, List.nil_append, List.forall_mem_cons]
    exact ⟨⟨htext _, htext _⟩, ⟨htext _, htext _⟩, ⟨htext _, htext _⟩, ⟨htext _, htext _⟩,
      ⟨htext _, htext _⟩, nofun⟩
  obtain ⟨g, hg, -, hcontainers, hties⟩ := registerAll_ties ⟨"u"⟩ hds
  have hshare : Directive.SharesEnclosers ([ranging 0 "a" "z"] ++ [a]) a b := by
    refine hcontainers nofun ?_
    simp only [List.append_nil, List.forall_mem_singleton]
    exact iff_of_true rfl rfl
  obtain ⟨inner, mid, outer, hstored, -, -, hfound⟩ := hties hshare
  exact ⟨hds, g, hg, inner, mid, outer, hstored,
    hfound (.str "h") "x" (.inr (htext _)) rfl rfl⟩

end Registry

end Muffle
