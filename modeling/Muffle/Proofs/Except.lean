/-
  Muffle.Proofs.Except

  Equations for computations that may fail, so that proofs read a sequence of steps one by one.
-/

namespace Muffle

variable {ε α β : Type}

@[simp] theorem ok_bind (a : α) (f : α → Except ε β) : (Except.ok a >>= f) = f a := rfl

@[simp] theorem error_bind (e : ε) (f : α → Except ε β) :
    ((Except.error e : Except ε α) >>= f) = .error e := rfl

@[simp] theorem pure_eq_ok (a : α) : (pure a : Except ε α) = .ok a := rfl

theorem bind_eq_ok_iff {x : Except ε α} {f : α → Except ε β} {b : β} :
    (x >>= f) = .ok b ↔ ∃ a, x = .ok a ∧ f a = .ok b := by
  cases x with
  | error e => simp
  | ok a => simp

theorem bind_eq_error_iff {x : Except ε α} {f : α → Except ε β} {e : ε} :
    (x >>= f) = .error e ↔ x = .error e ∨ ∃ a, x = .ok a ∧ f a = .error e := by
  cases x with
  | error e' => simp
  | ok a => simp

theorem map_eq_error_iff {g : α → β} {x : Except ε α} {e : ε} :
    x.map g = .error e ↔ x = .error e := by
  cases x <;> simp [Except.map]

/-- Naming the faults of a sequence differently is naming those of its steps differently. -/
theorem mapError_bind {ε' : Type} (g : ε → ε') (x : Except ε α) (f : α → Except ε β) :
    (x >>= f).mapError g = x.mapError g >>= fun a => (f a).mapError g := by
  cases x <;> rfl

theorem isOk_map (g : α → β) (x : Except ε α) : (x.map g).isOk = x.isOk := by
  cases x <;> rfl

theorem exists_of_isOk {x : Except ε α} (h : x.isOk = true) : ∃ a, x = .ok a := by
  cases x with
  | error e => cases h
  | ok a => exact ⟨a, rfl⟩

instance decidableEqError [DecidableEq ε] : (x : Except ε α) → (e : ε) → Decidable (x = .error e)
  | .ok _, _ => isFalse nofun
  | .error e', e => decidable_of_iff (e' = e) (by rw [Except.error.injEq])

theorem eq_ok_of_toOption {x : Except ε α} {a : α} (h : x.toOption = some a) : x = .ok a := by
  cases x with
  | error e => cases h
  | ok b => cases h; rfl

/-- A success is that of its value, whatever stands in for a failure. -/
theorem eq_ok_getD {x : Except ε α} (h : x.isOk = true) (other : α) :
    x = .ok (x.toOption.getD other) := by
  obtain ⟨a, rfl⟩ := exists_of_isOk h
  rfl

/-- A run whose first part is a success, as the pair of it and of what it leaves behind. -/
theorem exists_eq_ok {x : Except ε α × β} (h : x.1.isOk = true) : ∃ a, x = (.ok a, x.2) := by
  obtain ⟨a, ha⟩ := exists_of_isOk h
  exact ⟨a, Prod.ext ha rfl⟩

/-- The same for a run whose first part is a failure. -/
theorem exists_eq_error {x : Except ε α × β} (h : x.1.isOk = false) :
    ∃ e, x = (.error e, x.2) := by
  obtain ⟨first, second⟩ := x
  cases first with
  | error e => exact ⟨e, rfl⟩
  | ok a => cases h

/-! ## Going through lists -/

theorem exists_of_mapM {f : α → Except ε β} {xs : List α} {ys : List β} (h : xs.mapM f = .ok ys) :
    ∀ y ∈ ys, ∃ x ∈ xs, f x = .ok y := by
  induction xs generalizing ys with
  | nil =>
    cases h
    exact fun _ hy => absurd hy List.not_mem_nil
  | cons x xs ih =>
    rw [List.mapM_cons, bind_eq_ok_iff] at h
    obtain ⟨y, hy, h⟩ := h
    obtain ⟨rest, hrest, h⟩ := bind_eq_ok_iff.mp h
    cases h
    intro z hz
    rcases List.mem_cons.mp hz with rfl | hz
    · exact ⟨x, List.mem_cons_self, hy⟩
    · obtain ⟨x', hx', hz⟩ := ih hrest z hz
      exact ⟨x', List.mem_cons_of_mem _ hx', hz⟩

/-- Where each result is determined by what it is read from, so is the list of them. -/
theorem eq_of_mapM {f : α → Except ε β} {g : α → β} {xs : List α} {ys : List β}
    (hf : ∀ x y, f x = .ok y → y = g x) (h : xs.mapM f = .ok ys) : ys = xs.map g := by
  induction xs generalizing ys with
  | nil =>
    cases h
    rfl
  | cons x xs ih =>
    rw [List.mapM_cons] at h
    obtain ⟨y, hy, h⟩ := bind_eq_ok_iff.mp h
    obtain ⟨rest, hrest, h⟩ := bind_eq_ok_iff.mp h
    cases h
    rw [List.map_cons, hf x y hy, ih hrest]

/-- A walk over a list succeeds if each element does. -/
theorem isOk_mapM_iff {f : α → Except ε β} {xs : List α} :
    (xs.mapM f).isOk = true ↔ ∀ x ∈ xs, (f x).isOk = true := by
  induction xs with
  | nil => exact iff_of_true rfl nofun
  | cons x xs ih =>
    rw [List.mapM_cons, List.forall_mem_cons, ← ih]
    cases f x with
    | error e => exact iff_of_false nofun nofun
    | ok y => cases xs.mapM f <;> simp [Except.isOk, Except.toBool]

/-- Forms that are read one by one are read as a list. -/
theorem mapM_map_eq_ok {γ : Type} {written : α → γ} {read : γ → Except ε β} {g : α → β}
    {xs : List α} (h : ∀ x ∈ xs, read (written x) = .ok (g x)) :
    (xs.map written).mapM read = .ok (xs.map g) := by
  induction xs with
  | nil => rfl
  | cons x xs ih =>
    rw [List.map_cons, List.mapM_cons, h x List.mem_cons_self, ok_bind,
      ih fun y hy => h y (List.mem_cons_of_mem _ hy)]
    rfl

/-- A walk that goes on at some elements and stops at others comes to one where it stops. -/
def Reaches (goesOn stops : α → Prop) (xs : List α) : Prop :=
  ∃ before x after, xs = before ++ x :: after ∧ (∀ y ∈ before, goesOn y) ∧ stops x

theorem not_reaches_nil {goesOn stops : α → Prop} : ¬Reaches goesOn stops [] := by
  rintro ⟨before, x, after, hnil, -⟩
  exact absurd hnil.symm (List.append_ne_nil_of_right_ne_nil before (List.cons_ne_nil x after))

/-- A walk is stopped by its first element, or passes it. -/
theorem reaches_cons {goesOn stops : α → Prop} {x : α} {xs : List α} :
    Reaches goesOn stops (x :: xs) ↔ stops x ∨ goesOn x ∧ Reaches goesOn stops xs := by
  constructor
  · rintro ⟨before, y, after, hxs, hbefore, hy⟩
    cases before with
    | nil =>
      cases hxs
      exact .inl hy
    | cons b before =>
      cases hxs
      obtain ⟨hb, hbefore⟩ := List.forall_mem_cons.mp hbefore
      exact .inr ⟨hb, before, y, after, rfl, hbefore, hy⟩
  · rintro (hx | ⟨hx, before, y, after, rfl, hbefore, hy⟩)
    · exact ⟨[], x, xs, rfl, nofun, hx⟩
    · exact ⟨x :: before, y, after, rfl, List.forall_mem_cons.mpr ⟨hx, hbefore⟩, hy⟩

theorem reaches_append {goesOn stops : α → Prop} {xs ys : List α} :
    Reaches goesOn stops (xs ++ ys) ↔
      Reaches goesOn stops xs ∨ (∀ x ∈ xs, goesOn x) ∧ Reaches goesOn stops ys := by
  induction xs with
  | nil => simp [not_reaches_nil]
  | cons x xs ih =>
    rw [List.cons_append, reaches_cons, reaches_cons, ih, List.forall_mem_cons, and_or_left,
      or_assoc, and_assoc]

theorem reaches_congr {goesOn goesOn' stops stops' : α → Prop}
    (hgoesOn : ∀ x, goesOn x ↔ goesOn' x) (hstops : ∀ x, stops x ↔ stops' x) {xs : List α} :
    Reaches goesOn stops xs ↔ Reaches goesOn' stops' xs := by
  simp only [Reaches, hgoesOn, hstops]

theorem reaches_and {goesOn stops : α → Prop} {c : Prop} {xs : List α} :
    Reaches goesOn stops xs ∧ c ↔ Reaches goesOn (fun x => stops x ∧ c) xs := by
  constructor
  · rintro ⟨⟨before, x, after, hxs, hbefore, hx⟩, hc⟩
    exact ⟨before, x, after, hxs, hbefore, hx, hc⟩
  · rintro ⟨before, x, after, hxs, hbefore, hx, hc⟩
    exact ⟨⟨before, x, after, hxs, hbefore, hx⟩, hc⟩

/-- A list is read up to the first element that cannot be read. -/
theorem mapM_eq_error_iff {f : α → Except ε β} {xs : List α} {e : ε} :
    xs.mapM f = .error e ↔ Reaches (fun x => (f x).isOk = true) (fun x => f x = .error e) xs := by
  induction xs with
  | nil => exact iff_of_false (fun h => by cases h) not_reaches_nil
  | cons x xs ih =>
    rw [List.mapM_cons, bind_eq_error_iff, reaches_cons]
    refine or_congr_right ?_
    cases hx : f x with
    | error e' => simp [Except.isOk, Except.toBool]
    | ok y =>
      rw [← ih]
      simp [Except.isOk, Except.toBool, bind_eq_error_iff]

/-- A walk fails at the first element that does, after all before it passed. -/
theorem forM_eq_error_iff {f : α → Except ε Unit} {xs : List α} {e : ε} :
    forM xs f = .error e ↔ Reaches (fun x => (f x).isOk = true) (fun x => f x = .error e) xs := by
  induction xs with
  | nil => exact iff_of_false (fun h => by cases h) not_reaches_nil
  | cons x xs ih =>
    rw [List.forM_cons, bind_eq_error_iff, reaches_cons, ← ih]
    refine or_congr_right ?_
    cases f x <;> simp [Except.isOk, Except.toBool]

end Muffle
