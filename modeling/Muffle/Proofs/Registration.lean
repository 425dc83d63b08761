/-
  Muffle.Proofs.Registration

  What can be said of registration and lookup whatever the positions are, ordered or not. A
  registration that succeeds adds its directive once and drops none. A lookup that succeeds gives
  the first stored directive that applies, and none only if each of them was asked and refused.
-/

import Mathlib.Data.List.Perm.Basic
import Muffle.Proofs.Innermost

namespace Muffle.Registry

variable {position message : Value}

/-! ## Registration -/

/-- A place in front of a directive is one inside the list. -/
theorem placeFrom_before {r : SourceRange} {c : Option Directive} {index i : Nat} {e : Directive}
    {ds : List Directive} (h : placeFrom r c index ds = .ok (.before i e)) :
    i < index + ds.length := by
  induction ds generalizing c index with
  | nil => cases h
  | cons d rest ih =>
    obtain ⟨b, -, h⟩ := bind_eq_ok_iff.mp h
    rw [List.length_cons]
    cases b with
    | true =>
      cases h
      omega
    | false =>
      obtain ⟨c', -, h⟩ := bind_eq_ok_iff.mp h
      have hlt := ih h
      omega

/-- A registration adds the directive and loses none. -/
theorem register_perm {g g' : Registry} {d : Directive} {ns : List Notice}
    (h : g.register d = .ok (g', ns)) : g'.directives.Perm (d :: g.directives) := by
  obtain ⟨place, hplace, h⟩ := bind_eq_ok_iff.mp h
  cases h
  cases place with
  | before i e =>
    have hlt := placeFrom_before hplace
    exact List.perm_insertIdx _ _ (by omega)
  | last c => exact List.perm_append_singleton d _

/-- By induction on the directives. -/
theorem registerAll_perm {g g' : Registry} {ds : List Directive}
    (h : g.registerAll ds = .ok g') : g'.directives.Perm (g.directives ++ ds) := by
  induction ds generalizing g with
  | nil =>
    cases h
    rw [List.append_nil]
  | cons d rest ih =>
    obtain ⟨⟨g₁, ns⟩, hd, hrest⟩ := bind_eq_ok_iff.mp h
    have hfirst := (register_perm hd).append_right rest
    exact ((ih hrest).trans hfirst).trans List.perm_middle.symm

/-! ## Lookup -/

/-- Of some directives in stored order, `d` is the first one that applies. -/
def FirstToApply (ds : List Directive) (position message : Value) (d : Directive) : Prop :=
  ∃ before after, ds = before ++ d :: after ∧ d.appliesTo position message = .ok true ∧
    ∀ x ∈ before, x.appliesTo position message = .ok false

theorem FirstToApply.mem {ds : List Directive} {d : Directive}
    (h : FirstToApply ds position message d) : d ∈ ds := by
  obtain ⟨before, after, rfl, -⟩ := h
  exact List.mem_append_right _ List.mem_cons_self

theorem FirstToApply.applies {ds : List Directive} {d : Directive}
    (h : FirstToApply ds position message d) : d.appliesTo position message = .ok true := by
  obtain ⟨_, _, -, happlies, -⟩ := h
  exact happlies

/-- The first directive applies, or it does not and the search goes on. -/
theorem firstToApply_cons {x d : Directive} {ds : List Directive} :
    FirstToApply (x :: ds) position message d ↔
      x.appliesTo position message = .ok true ∧ x = d ∨
        x.appliesTo position message = .ok false ∧ FirstToApply ds position message d := by
  constructor
  · rintro ⟨before, after, heq, hd, hbefore⟩
    cases before with
    | nil =>
      cases heq
      exact .inl ⟨hd, rfl⟩
    | cons y before =>
      cases heq
      obtain ⟨hx, hbefore⟩ := List.forall_mem_cons.mp hbefore
      exact .inr ⟨hx, before, after, rfl, hd, hbefore⟩
  · rintro (⟨hx, rfl⟩ | ⟨hx, before, after, rfl, hd, hbefore⟩)
    · exact ⟨[], ds, rfl, hx, nofun⟩
    · exact ⟨x :: before, after, rfl, hd, List.forall_mem_cons.mpr ⟨hx, hbefore⟩⟩

/-- What a lookup finds is the first directive that applies; all before it were asked and do not. -/
theorem firstMatch_eq_some_iff {ds : List Directive} {d : Directive} :
    firstMatch position message ds = .ok (some d) ↔ FirstToApply ds position message d := by
  induction ds with
  | nil => simp [firstMatch, FirstToApply]
  | cons x rest ih =>
    rw [firstToApply_cons, ← ih, firstMatch]
    cases hx : x.appliesTo position message with
    | error f => simp
    | ok b => cases b <;> simp

theorem firstMatch_eq_none_iff {ds : List Directive} :
    firstMatch position message ds = .ok none ↔
      ∀ d ∈ ds, d.appliesTo position message = .ok false := by
  induction ds with
  | nil => simp [firstMatch]
  | cons x rest ih =>
    rw [List.forall_mem_cons, ← ih, firstMatch]
    cases hx : x.appliesTo position message with
    | error f => simp
    | ok b => cases b <;> simp

/-! ## Kinds that met

A registration compares with the first stored directive at least, and so does a lookup. -/

variable {k l : PositionKind}

/-- After a registration all stored ranges are of one kind, if they were before. -/
theorem register_ofKind {g g' : Registry} {d : Directive} {ns : List Notice} (hg : g.OfKind k)
    (hd : d.range.OfKind l) (h : g.register d = .ok (g', ns)) : ∃ m, g'.OfKind m := by
  have hmem : ∀ x ∈ g'.directives, x = d ∨ x ∈ g.directives := by
    intro x hx
    rwa [(register_perm h).mem_iff, List.mem_cons] at hx
  -- a first directive gives its kind to the registry
  cases hds : g.directives with
  | nil =>
    refine ⟨l, fun x hx => ?_⟩
    rcases hmem x hx with rfl | hx
    · exact hd
    · rw [hds] at hx
      cases hx
  | cons y rest =>
    have hy : y.range.OfKind k := hg y (hds ▸ List.mem_cons_self)
    obtain ⟨_, hplace, -⟩ := bind_eq_ok_iff.mp h
    rw [place, hds] at hplace
    -- the comparison with the head of the list succeeded, so the kinds are one
    obtain ⟨_, hencloses, -⟩ := bind_eq_ok_iff.mp hplace
    obtain rfl := SourceRange.kind_eq_of_strictlyEncloses hy hd hencloses
    refine ⟨k, fun x hx => ?_⟩
    rcases hmem x hx with rfl | hx
    · exact hd
    · exact hg x hx

theorem registerAll_ofKind {g g' : Registry} {ds : List Directive} (hg : ∃ k, g.OfKind k)
    (hds : ∀ d ∈ ds, ∃ k, d.range.OfKind k) (h : g.registerAll ds = .ok g') :
    ∃ k, g'.OfKind k := by
  induction ds generalizing g with
  | nil =>
    cases h
    exact hg
  | cons d rest ih =>
    obtain ⟨⟨g₁, ns⟩, hd, hrest⟩ := bind_eq_ok_iff.mp h
    obtain ⟨k, hk⟩ := hg
    obtain ⟨l, hl⟩ := hds d List.mem_cons_self
    exact ih (register_ofKind hk hl hd) (fun x hx => hds x (List.mem_cons_of_mem _ hx)) hrest

/-- A lookup that gets past a directive had a position that could be compared with its range. -/
theorem hasOrNull_of_firstMatch {d : Directive} {rest : List Directive} {c : Option Directive}
    (hd : d.range.OfKind k) (hp : l.HasOrNull position)
    (h : firstMatch position message (d :: rest) = .ok c) : k.HasOrNull position := by
  obtain ⟨_, happlies, -⟩ := bind_eq_ok_iff.mp h
  obtain ⟨_, hcontains, -⟩ := bind_eq_ok_iff.mp happlies
  exact SourceRange.hasOrNull_of_contains hd hp hcontains

end Muffle.Registry
