/-
  Muffle.Proofs.Follows

  Computations with a state against plain descriptions of what they do. A computation follows a
  description if it fails with the fault of the description where that fails, and else ends with
  a result and a state that stand in a given relation to what is described. The rules below
  compare a sequence of steps with a description step by step, so that success and failure are
  settled by one proof.
-/

import Muffle.Fault
import Muffle.Proofs.Except

namespace Muffle

variable {α β γ δ σ : Type}

/-- What a computation ended with agrees with its description. -/
def Follows (ended : Except Fault α × σ) (described : Except Fault β)
    (post : β → α → σ → Prop) : Prop :=
  match described with
  | .error f => ended.1 = .error f
  | .ok b => ∃ a s, ended = (.ok a, s) ∧ post b a s

theorem Follows.described {ended : Except Fault α × σ} {described : Except Fault β}
    {post : β → α → σ → Prop} (h : Follows ended described post) :
    Follows ended described fun b a s => described = .ok b ∧ post b a s := by
  cases described with
  | error f => exact h
  | ok b =>
    obtain ⟨a, s, hended, hpost⟩ := h
    exact ⟨a, s, hended, rfl, hpost⟩

/-- A computation succeeds exactly where its description does. -/
theorem Follows.isOk_eq {ended : Except Fault α × σ} {described : Except Fault β}
    {post : β → α → σ → Prop} (h : Follows ended described post) :
    ended.1.isOk = described.isOk := by
  cases described with
  | error f => exact congrArg Except.isOk h
  | ok b =>
    obtain ⟨a, s, rfl, -⟩ := h
    rfl

/-- The same computation with another view of its state. -/
theorem Follows.view {σ' : Type} {ended : Except Fault α × σ} {described : Except Fault β}
    {post : β → α → σ → Prop} {w : σ → σ'} {post' : β → α → σ' → Prop}
    (h : Follows ended described post) (himp : ∀ b a s, post b a s → post' b a (w s)) :
    Follows (ended.1, w ended.2) described post' := by
  cases described with
  | error f => exact h
  | ok b =>
    obtain ⟨a, s, rfl, hpost⟩ := h
    exact ⟨a, w s, rfl, himp b a s hpost⟩

/-- The same computation, with something made of what is described. -/
theorem Follows.bind_described {ended : Except Fault α × σ} {described : Except Fault β}
    {post : β → α → σ → Prop} {f : β → δ} {post' : δ → α → σ → Prop}
    (h : Follows ended described post) (himp : ∀ b a s, post b a s → post' (f b) a s) :
    Follows ended (described >>= fun b => .ok (f b)) post' := by
  cases described with
  | error fault => exact h
  | ok b =>
    obtain ⟨a, s, hended, hpost⟩ := h
    exact ⟨a, s, hended, himp b a s hpost⟩

/-! ## Sequences -/

variable {x : ExceptT Fault (StateM σ) α} {f : α → ExceptT Fault (StateM σ) γ} {s : σ}

theorem run_bind {ε : Type} (x : ExceptT ε (StateM σ) α) (f : α → ExceptT ε (StateM σ) γ) (s : σ) :
    (x >>= f).run.run s =
      match x.run.run s with
      | (.ok a, s') => (f a).run.run s'
      | (.error fault, s') => (.error fault, s') := by
  show (ExceptT.bindCont f (x.run.run s).1) (x.run.run s).2 = _
  rcases x.run.run s with ⟨_ | a, s'⟩ <;> rfl

theorem run_bind_of_ok {a : α} {s' : σ} (hx : x.run.run s = (.ok a, s')) :
    (x >>= f).run.run s = (f a).run.run s' := by
  rw [run_bind, hx]

theorem run_bind_of_error {fault : Fault} {s' : σ} (hx : x.run.run s = (.error fault, s')) :
    (x >>= f).run.run s = (.error fault, s') := by
  rw [run_bind, hx]

theorem run_tryCatch (x : ExceptT Fault (StateM σ) α) (h : Fault → ExceptT Fault (StateM σ) α)
    (s : σ) :
    (tryCatch x h).run.run s =
      match x.run.run s with
      | (.ok a, s') => (.ok a, s')
      | (.error fault, s') => (h fault).run.run s' := by
  show (ExceptT.tryCatch x h).run.run s = _
  rw [ExceptT.run, ExceptT.tryCatch, ExceptT.mk, StateT.run_bind, ExceptT.run]
  rcases StateT.run x s with ⟨fault | a, s'⟩ <;> rfl

/-- The rule of the sequence: first steps that follow each other, then the rest from related states.
    -/
theorem Follows.bind {described : Except Fault β} {g : β → Except Fault δ}
    {post : β → α → σ → Prop} {post' : δ → γ → σ → Prop}
    (hx : Follows (x.run.run s) described post)
    (hf : ∀ b a s', post b a s' → Follows ((f a).run.run s') (g b) post') :
    Follows ((x >>= f).run.run s) (described >>= g) post' := by
  rw [run_bind]
  cases described with
  | error fault =>
    have herror : (x.run.run s).1 = .error fault := hx
    rcases hon : x.run.run s with ⟨r, s'⟩
    rw [hon] at herror
    cases herror
    rfl
  | ok b =>
    obtain ⟨a, s', hon, hpost⟩ := hx
    rw [hon]
    exact hf b a s' hpost

/-- A step that the description does not mention. -/
theorem Follows.bind_of_ok {described : Except Fault δ} {post : δ → γ → σ → Prop} {a : α} {s' : σ}
    (hx : x.run.run s = (.ok a, s')) (hf : Follows ((f a).run.run s') described post) :
    Follows ((x >>= f).run.run s) described post := by
  rw [run_bind, hx]
  exact hf

/-- After a failure there is nothing more to follow. -/
theorem Follows.bind_of_error {post : δ → γ → σ → Prop} {fault : Fault} {s' : σ}
    (hx : x.run.run s = (.error fault, s')) :
    Follows ((x >>= f).run.run s) (.error fault) post := by
  rw [run_bind, hx]
  rfl

end Muffle
