/-
  Muffle.Proofs.Engine.Call

  All that a host can ask of an engine: besides operations, the registry of a unit, which is made
  if there is none, whether there is one, and whether directives can be used at all. Making a
  registry has an effect, since the diagnostics of its unit do not have to wait any more.
-/

import Muffle.Proofs.Engine.Step

namespace Muffle.Engine

/-- What a host can ask of an engine. -/
inductive Call where
  | operation (op : Operation)
  | openRegistry (u : SourceUnit)
  | hasRegistry (u : SourceUnit)
  | requireDirectives (available : Bool)

/-- What the engine replies. -/
inductive Reply where
  | answer (a : Answer)
  | registry (g : Registry)
  | truth (b : Bool)

/-- Makes one call. -/
def call (p : Policy) : Call → Run Reply
  | .operation op => do return .answer (← perform p op)
  | .openRegistry u => do return .registry (← openRegistry u)
  | .hasRegistry u => do return .truth ((← get).hasRegistry u)
  | .requireDirectives available => do return .truth (← requireDirectives p available)

/-- Makes calls in order. -/
def callAll (p : Policy) : List Call → Run (List Reply)
  | [] => pure []
  | c :: rest => do
    let r ← call p c
    let rs ← callAll p rest
    return r :: rs

variable {p : Policy} {e e' : Engine}

theorem callAll_cons_eq_ok_iff {c : Call} {cs : List Call} {replies : List Reply} :
    (callAll p (c :: cs)).on e = (.ok replies, e') ↔
      ∃ r rs e₁, replies = r :: rs ∧ (call p c).on e = (.ok r, e₁) ∧
        (callAll p cs).on e₁ = (.ok rs, e') := by
  rw [callAll, on_bind_eq_ok_iff]
  constructor
  · rintro ⟨r, e₁, hc, h⟩
    obtain ⟨rs, e₂, hcs, h⟩ := on_bind_eq_ok_iff.mp h
    cases h
    exact ⟨r, rs, e₁, rfl, hc, hcs⟩
  · rintro ⟨r, rs, e₁, rfl, hc, hcs⟩
    exact ⟨r, e₁, hc, by rw [on_bind_of_ok hcs]; rfl⟩

/-- A run that succeeds goes on from where its first calls led. -/
theorem callAll_append_ok {cs cs' : List Call} {replies rs : List Reply} {e₁ : Engine}
    (h : (callAll p (cs ++ cs')).on e = (.ok replies, e'))
    (hcs : (callAll p cs).on e = (.ok rs, e₁)) :
    ∃ rs', (callAll p cs').on e₁ = (.ok rs', e') := by
  induction cs generalizing e replies rs with
  | nil =>
    cases hcs
    exact ⟨replies, h⟩
  | cons c cs ih =>
    obtain ⟨r, rest, e₂, -, hc, hrest⟩ := callAll_cons_eq_ok_iff.mp h
    obtain ⟨r', rs', e₃, -, hc', hcs'⟩ := callAll_cons_eq_ok_iff.mp hcs
    cases hc.symm.trans hc'
    exact ih hrest hcs'

/-- What a call that succeeds does, case by case. -/
inductive Called (p : Policy) (e : Engine) : Call → Reply → Engine → Prop
  | performed {op : Operation} {a : Answer} {e' : Engine} (h : Performed p e op a e') :
      Called p e (.operation op) (.answer a) e'
  | opened {u : SourceUnit} {e' : Engine} (hs : Stored u (e.registryD u) e e') :
      Called p e (.openRegistry u) (.registry (e.registryD u)) e'
  /-- The call changed nothing but the notices. -/
  | viewed {c : Call} (b : Bool) (ns : List Notice) (hc : ∀ op, c ≠ .operation op) :
      Called p e c (.truth b) (e.withNotices ns)

theorem withNotices_nil (e : Engine) : e.withNotices [] = e := by
  rw [withNotices, List.append_nil]

theorem call_ok {c : Call} {r : Reply} (h : (call p c).on e = (.ok r, e')) :
    Called p e c r e' := by
  cases c with
  | operation op =>
    obtain ⟨a, e₁, hop, h⟩ := on_bind_eq_ok_iff.mp h
    cases h
    exact .performed (perform_ok hop)
  | openRegistry u =>
    obtain ⟨e₁, hopen, hs⟩ := openRegistry_on u e
    rw [call, on_bind_of_ok hopen] at h
    cases h
    exact .opened hs
  -- the remaining calls only look at the engine, perhaps with a notice
  | hasRegistry u =>
    rw [call, on_bind_of_ok (on_get e)] at h
    cases h
    have hviewed := Called.viewed (p := p) (e := e) (c := .hasRegistry u) (e.hasRegistry u) [] nofun
    rwa [withNotices_nil] at hviewed
  | requireDirectives available =>
    obtain ⟨b, e₁, hreq, h⟩ := on_bind_eq_ok_iff.mp h
    cases h
    unfold requireDirectives at hreq
    split at hreq
    · cases hreq
      have hviewed := Called.viewed (p := p) (e := e) (c := .requireDirectives available) true []
        nofun
      rwa [withNotices_nil] at hviewed
    · split at hreq
      · cases hreq
        exact .viewed false _ nofun
      · cases hreq

end Muffle.Engine
