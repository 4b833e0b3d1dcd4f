import Mathlib.Data.List.Forall2

/-! # Steps that may fail -/

namespace GuardedQuery

variable {ε ε' α β : Type}

@[simp] theorem except_ok_bind (a : α) (f : α → Except ε β) : (Except.ok a >>= f) = f a := rfl

@[simp] theorem except_error_bind (e : ε) (f : α → Except ε β) :
    ((Except.error e : Except ε α) >>= f) = .error e := rfl

@[simp] theorem except_map_ok (f : α → β) (a : α) :
    (Except.ok a : Except ε α).map f = .ok (f a) := rfl

@[simp] theorem except_map_error (f : α → β) (e : ε) :
    (Except.error e : Except ε α).map f = .error e := rfl

@[simp] theorem except_mapError_ok (f : ε → ε') (a : α) :
    (Except.ok a : Except ε α).mapError f = .ok a := rfl

@[simp] theorem except_mapError_error (f : ε → ε') (e : ε) :
    (Except.error e : Except ε α).mapError f = .error (f e) := rfl

@[simp] theorem except_toOption_ok (a : α) : (Except.ok a : Except ε α).toOption = some a := rfl

@[simp] theorem except_toOption_error (e : ε) : (Except.error e : Except ε α).toOption = none := rfl

theorem except_toOption_eq_some {x : Except ε α} {a : α} : x.toOption = some a ↔ x = .ok a := by
  cases x with
  | ok a => simp
  | error e => simp

/-- Computations that succeed alike have the same result, if any. -/
theorem except_toOption_eq {x y : Except ε α} (h : ∀ a, x = .ok a ↔ y = .ok a) :
    x.toOption = y.toOption := by
  apply Option.ext
  intro a
  rw [except_toOption_eq_some, except_toOption_eq_some, h]

/-- Two steps succeed if the first one does and the second one does from there. -/
theorem except_bind_eq_ok {x : Except ε α} {f : α → Except ε β} {b : β} :
    (x >>= f) = .ok b ↔ ∃ a, x = .ok a ∧ f a = .ok b := by
  cases x with
  | ok a => simp
  | error e => simp

theorem except_map_eq_ok {x : Except ε α} {f : α → β} {b : β} :
    x.map f = .ok b ↔ ∃ a, x = .ok a ∧ f a = b := by
  cases x with
  | ok a => simp
  | error e => simp

theorem except_map_eq_error {x : Except ε α} {f : α → β} {e : ε} :
    x.map f = .error e ↔ x = .error e := by
  cases x with
  | ok a => simp
  | error e => simp

theorem exists_except_map_eq_ok {x : Except ε α} {f : α → β} :
    (∃ b, x.map f = .ok b) ↔ ∃ a, x = .ok a := by
  cases x with
  | ok a => simp
  | error e => simp

theorem except_mapError_eq_ok {x : Except ε α} {f : ε → ε'} {a : α} :
    x.mapError f = .ok a ↔ x = .ok a := by
  cases x with
  | ok a => simp
  | error e => simp

theorem except_mapError_eq_error {x : Except ε α} {f : ε → ε'} {e' : ε'} :
    x.mapError f = .error e' ↔ ∃ e, x = .error e ∧ f e = e' := by
  cases x with
  | ok a => simp
  | error e => simp

/-- A step that is only taken under a condition, before all others. -/
theorem except_ite_bind_eq_ok {p : Prop} [Decidable p] {x : Except ε Unit} {f : Unit → Except ε β}
    {b : β} : (if p then x >>= f else f ()) = .ok b ↔ (p → x = .ok ()) ∧ f () = .ok b := by
  by_cases hp : p
  · cases x with
    | ok u => simp [hp]
    | error e => simp [hp]
  · simp [hp]

theorem except_ite_bind {p : Prop} [Decidable p] {x : Except ε Unit} {f : Unit → Except ε β} :
    (if p then x >>= f else f ()) = (if p then x else .ok ()) >>= f := by
  split <;> rfl

/-! ## One step for each element of a list -/

/-- The steps for a list succeed if each of them does. -/
theorem except_mapM_eq_ok {f : α → Except ε β} {xs : List α} {ys : List β} :
    xs.mapM f = .ok ys ↔ List.Forall₂ (fun x y => f x = .ok y) xs ys := by
  induction xs generalizing ys with
  | nil =>
      rw [List.mapM_nil, List.forall₂_nil_left_iff]
      exact ⟨fun h => (Except.ok.inj h).symm, fun h => by rw [h]; rfl⟩
  | cons x xs ih =>
      rw [List.mapM_cons, List.forall₂_cons_left_iff, except_bind_eq_ok]
      constructor
      · rintro ⟨y, hy, h⟩
        obtain ⟨rest, hrest, hys⟩ := except_bind_eq_ok.mp h
        exact ⟨y, rest, hy, ih.mp hrest, (Except.ok.inj hys).symm⟩
      · rintro ⟨y, rest, hy, hrest, rfl⟩
        exact ⟨y, hy, except_bind_eq_ok.mpr ⟨rest, ih.mpr hrest, rfl⟩⟩

theorem exists_except_mapM_eq_ok {f : α → Except ε β} {xs : List α} :
    (∃ ys, xs.mapM f = .ok ys) ↔ ∀ x ∈ xs, ∃ y, f x = .ok y := by
  induction xs with
  | nil =>
      constructor
      · intro _ x hx
        cases hx
      · intro _
        exact ⟨[], rfl⟩
  | cons x xs ih =>
      simp only [except_mapM_eq_ok] at ih ⊢
      rw [List.forall_mem_cons, ← ih]
      constructor
      · rintro ⟨_, _ | ⟨hx, hxs⟩⟩
        exact ⟨⟨_, hx⟩, _, hxs⟩
      · rintro ⟨⟨y, hx⟩, ys, hxs⟩
        exact ⟨y :: ys, .cons hx hxs⟩

/-- What every step keeps of its element is kept of the list. -/
theorem map_eq_of_except_mapM {γ : Type} {f : α → Except ε β} {xs : List α} {ys : List β}
    {g : β → γ} {h : α → γ} (hmap : xs.mapM f = .ok ys)
    (hstep : ∀ x ∈ xs, ∀ y, f x = .ok y → g y = h x) : ys.map g = xs.map h := by
  rw [except_mapM_eq_ok] at hmap
  induction hmap with
  | nil => rfl
  | @cons x y xs ys hy _ ih =>
      rw [List.map_cons, List.map_cons, hstep x (by simp) y hy,
        ih fun z hz => hstep z (by simp [hz])]

/-- The steps for a list fail as the first of them does that fails. -/
theorem except_mapM_eq_error {f : α → Except ε β} {xs : List α} {e : ε} :
    xs.mapM f = .error e ↔ ∃ front x back, xs = front ++ x :: back ∧
      (∀ y ∈ front, ∃ b, f y = .ok b) ∧ f x = .error e := by
  induction xs with
  | nil =>
      constructor
      · intro h
        cases h
      · rintro ⟨front, x, back, h, -⟩
        cases front <;> cases h
  | cons x xs ih =>
      rw [List.mapM_cons]
      cases hx : f x with
      | error e' =>
          rw [except_error_bind]
          constructor
          · intro h
            cases h
            exact ⟨[], x, xs, rfl, by simp, hx⟩
          · rintro ⟨_ | ⟨y, front⟩, z, back, h, hfront, hz⟩
            · cases h
              rw [hx] at hz
              cases hz
              rfl
            · cases h
              obtain ⟨b, hb⟩ := hfront x (by simp)
              rw [hx] at hb
              cases hb
      | ok b =>
          rw [except_ok_bind]
          have hrest : (xs.mapM f >>= fun ys => Except.ok (b :: ys)) = .error e ↔
              xs.mapM f = .error e := by
            cases xs.mapM f <;> simp
          refine hrest.trans (ih.trans ?_)
          constructor
          · rintro ⟨front, z, back, rfl, hfront, hz⟩
            exact ⟨x :: front, z, back, rfl, List.forall_mem_cons.mpr ⟨⟨b, hx⟩, hfront⟩, hz⟩
          · rintro ⟨_ | ⟨y, front⟩, z, back, h, hfront, hz⟩
            · cases h
              rw [hx] at hz
              cases hz
            · cases h
              exact ⟨front, z, back, rfl, (List.forall_mem_cons.mp hfront).2, hz⟩

/-- The first failure is that of one of the elements. -/
theorem exists_of_except_mapM_eq_error {f : α → Except ε β} {xs : List α} {e : ε}
    (h : xs.mapM f = .error e) : ∃ x ∈ xs, f x = .error e := by
  obtain ⟨front, x, back, rfl, -, hx⟩ := except_mapM_eq_error.mp h
  exact ⟨x, by simp, hx⟩

/-- All steps succeed if and only if each of them does. -/
theorem option_mapM_eq_some_map {f : α → Option β} {g : α → β} {xs : List α} :
    xs.mapM f = some (xs.map g) ↔ ∀ x ∈ xs, f x = some (g x) := by
  induction xs with
  | nil => simp
  | cons x xs ih =>
      rw [List.mapM_cons, List.map_cons, List.forall_mem_cons, ← ih]
      cases f x <;> cases xs.mapM f <;> simp

theorem option_mapM_eq_none {f : α → Option β} {xs : List α} (h : ∃ x ∈ xs, f x = none) :
    xs.mapM f = none := by
  induction xs with
  | nil => simp at h
  | cons x xs ih =>
      rw [List.mapM_cons]
      cases hx : f x with
      | none => rfl
      | some y =>
          have hxs : xs.mapM f = none := ih (by simpa [hx] using h)
          simp [hxs]

end GuardedQuery
