/-
  Muffle.Proofs.Engine.Orderly

  Engines that were given positions of the documented kinds only. A host may mix the kinds: what it
  registers for one unit is still of one kind as long as nothing fails, since a registration
  compares the new directive with the first stored one.
-/

import Muffle.Proofs.Engine.Step

namespace Muffle

/-- The position of a diagnostic is absent, an integer or a tuple of integers, and its message is a
    text. -/
def Diagnostic.WellTyped (d : Diagnostic) : Prop :=
  d.position.IsPosition ∧ ∃ m, d.message = .str m

namespace Engine

variable {p : Policy} {e e' : Engine} {u : SourceUnit}

/-- What an operation hands over has positions of the documented kinds; different operations may
    use different kinds. -/
structure Operation.WellTyped (op : Operation) : Prop where
  diagnostic : ∀ d, op.diagnostic? = some d → d.WellTyped
  handed : ∀ x ∈ op.handed, ∃ k, x.2.range.OfKind k

/-- The ranges of a unit are of one kind, and what waits has a position of a documented kind. -/
structure Orderly (e : Engine) : Prop where
  registry : ∀ u, ∃ k, (e.registryD u).OfKind k
  waiting : ∀ u, ∀ d ∈ e.waiting u, d.WellTyped

/-- Registrations that succeeded leave ranges of one kind, since they compared them. -/
theorem Orderly.performed {op : Operation} {a : Answer} (ho : Orderly e) (hop : op.WellTyped)
    (h : Performed p e op a e') : Orderly e' where
  waiting u d hd := by
    rcases h.mem_waiting hd with hd | ⟨hd, -⟩
    · exact ho.waiting u d hd
    · exact hop.diagnostic d hd
  registry v := by
    -- most operations leave the registries alone
    have hsame : e'.registries = e.registries → ∃ k, (e'.registryD v).OfKind k := by
      intro hr
      rw [registryD_congr hr]
      exact ho.registry v
    cases h with
    | @registered u s g ns _ hg _ hs =>
      rw [registryD_of_find hs.find]
      split
      · obtain ⟨k, hk⟩ := ho.registry u
        obtain ⟨l, hl⟩ := hop.handed (u, s) List.mem_cons_self
        exact Registry.register_ofKind hk hl hg
      · exact ho.registry v
    | @replayed u ss g _ hg _ hs =>
      rw [registryD_of_find hs.find]
      split
      · refine Registry.registerAll_ofKind (ho.registry u) (fun s hmem => ?_) hg
        exact hop.handed (u, s) (List.mem_map_of_mem hmem)
      · exact ho.registry v
    | reported _ hr => exact hsame hr.registries
    | released hs => exact hsame hs.registries
    | releasedAll hr => exact hsame hr.registries
    | unusedReported | emitted => exact hsame rfl

theorem orderly_empty : Orderly {} := ⟨fun _ => ⟨.offset, nofun⟩, fun _ _ hd => by cases hd⟩

theorem Orderly.directivesIn (ho : Orderly e) (u : SourceUnit) :
    ∃ k, ∀ s ∈ directivesIn (e.findRegistry u), s.range.OfKind k := by
  rw [directivesIn_findRegistry]
  exact ho.registry u

theorem Orderly.settled (ho : Orderly e)
    (hs : Settled (e.findRegistry u) (e.waiting u) (e.withoutWaiting u) e') : Orderly e' where
  registry v := by
    rw [registryD_congr (e := e) hs.registries]
    exact ho.registry v
  waiting v d hd := ho.waiting v d (mem_waiting_of_withoutWaiting hs.backlogs hd)

end Engine

end Muffle
