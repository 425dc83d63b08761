/-
  Muffle.Proofs.Nesting

  Directives of which any two nest or lie apart. Those that cover one position lie inside each
  other, so an innermost-first list has only one order for them; and a lookup sees no others. The
  lookup therefore does not depend on the order in which such directives were registered, although
  the stored order does.
-/

import Mathlib.Data.List.Perm.Basic
import Muffle.Proofs.Registration

namespace Muffle

namespace Directive

/-- The range of one directive lies strictly inside that of the other, or the two have no position
    in common. -/
def Nested (a b : Directive) : Prop :=
  a.range.StrictlyEncloses b.range ∨ b.range.StrictlyEncloses a.range ∨
    ¬ a.range.Overlaps b.range

instance (a b : Directive) : Decidable (a.Nested b) := inferInstanceAs (Decidable (_ ∨ _ ∨ _))

variable {a b : Directive} {position : Value}

theorem Nested.symm (h : a.Nested b) : b.Nested a := by
  rcases h with h | h | h
  · exact .inr (.inl h)
  · exact .inl h
  · exact .inr (.inr fun hover => h ⟨hover.2, hover.1⟩)

/-- Of two nested directives that cover a position, one encloses the other. -/
theorem Nested.comparable (h : a.Nested b) (ha : a.range.Covers position)
    (hb : b.range.Covers position) :
    a.range.StrictlyEncloses b.range ∨ b.range.StrictlyEncloses a.range := by
  rcases h with h | h | h
  · exact .inl h
  · exact .inr h
  · exact absurd ⟨ha.2.1.trans hb.2.2, hb.2.1.trans ha.2.2⟩ h

/-- The directives that cover a position, in stored order. -/
def covering (position : Value) (ds : List Directive) : List Directive :=
  ds.filter fun d => d.range.Covers position

theorem mem_covering {d : Directive} {ds : List Directive} :
    d ∈ covering position ds ↔ d ∈ ds ∧ d.range.Covers position := by
  rw [covering, List.mem_filter, decide_eq_true_iff]

/-- In an innermost-first list, what covers a position stands from the inside to the outside. -/
theorem covering_pairwise {ds : List Directive} (hfirst : InnermostFirst ds)
    (hnested : ds.Pairwise Nested) (position : Value) :
    (covering position ds).Pairwise fun a b => b.range.StrictlyEncloses a.range := by
  have hboth : (covering position ds).Pairwise fun a b =>
      ¬ a.range.StrictlyEncloses b.range ∧ a.Nested b :=
    (hfirst.and hnested).filter _
  refine hboth.imp_of_mem fun {a b} ha hb ⟨hnot, hab⟩ => ?_
  have hcomparable := hab.comparable (mem_covering.mp ha).2 (mem_covering.mp hb).2
  exact hcomparable.resolve_left hnot

/-- Two stored orders of the same directives agree on what covers a position. -/
theorem covering_eq {ds ds' : List Directive} (hperm : ds.Perm ds') (h : InnermostFirst ds)
    (h' : InnermostFirst ds') (hnested : ds.Pairwise Nested) (position : Value) :
    covering position ds = covering position ds' := by
  have hnested' : ds'.Pairwise Nested := (hperm.pairwise_iff Nested.symm).mp hnested
  have hsame : (covering position ds).Perm (covering position ds') := hperm.filter _
  refine hsame.eq_of_pairwise ?_ (covering_pairwise h hnested position)
    (covering_pairwise h' hnested' position)
  intro a b _ _ hab hba
  exact absurd hba hab.asymm

end Directive

namespace Registry

open Directive (covering)

variable {k : PositionKind} {position : Value}

/-- A lookup asks only the directives that cover the position, whatever the message is. -/
theorem firstMatch_covering {ds : List Directive} (hds : ∀ d ∈ ds, d.range.OfKind k)
    (hp : k.HasOrNull position) (message : Value) :
    firstMatch position message ds = firstMatch position message (covering position ds) := by
  induction ds with
  | nil => rfl
  | cons d rest ih =>
    obtain ⟨hd, hrest⟩ := List.forall_mem_cons.mp hds
    have hcontains := SourceRange.contains_eq hd hp
    rw [covering, List.filter_cons]
    by_cases hc : d.range.Covers position
    · rw [if_pos (decide_eq_true hc), firstMatch, firstMatch, ih hrest, covering]
    · have hrefuses : d.appliesTo position message = .ok false := by
        rw [Directive.appliesTo, hcontains, decide_eq_false hc]
        rfl
      rw [if_neg (by simpa using hc), firstMatch, hrefuses, ok_bind, if_neg Bool.false_ne_true,
        ih hrest, covering]

/-- Two stored orders of nested directives give the same lookups: the same result, or a failure in
    both, where positions of different kinds meet. -/
theorem firstMatch_eq_of_perm {ds ds' : List Directive} (hperm : ds.Perm ds')
    (hds : ∀ d ∈ ds, d.range.OfKind k) (h : Directive.InnermostFirst ds)
    (h' : Directive.InnermostFirst ds') (hnested : ds.Pairwise Directive.Nested)
    {l : PositionKind} (hp : l.HasOrNull position) (message : Value) :
    (firstMatch position message ds').toOption = (firstMatch position message ds).toOption := by
  have hds' : ∀ d ∈ ds', d.range.OfKind k := fun d hd => hds d (hperm.mem_iff.mpr hd)
  by_cases hk : k.HasOrNull position
  · rw [firstMatch_covering hds hk, firstMatch_covering hds' hk,
      Directive.covering_eq hperm h h' hnested]
  · -- without directives nothing fails, and with directives the first one fails
    have hfails : ∀ xs : List Directive, (∀ d ∈ xs, d.range.OfKind k) → xs ≠ [] →
        (firstMatch position message xs).toOption = none := by
      intro xs hxs hne
      obtain ⟨d, rest, rfl⟩ := List.exists_cons_of_ne_nil hne
      cases hc : firstMatch position message (d :: rest) with
      | error f => rfl
      | ok c => exact absurd (hasOrNull_of_firstMatch (hxs d List.mem_cons_self) hp hc) hk
    by_cases hnil : ds = []
    · subst hnil
      rw [hperm.nil_eq]
    · have hne' : ds' ≠ [] := fun heq => hnil (heq ▸ hperm).eq_nil
      rw [hfails ds hds hnil, hfails ds' hds' hne']

end Registry

end Muffle
