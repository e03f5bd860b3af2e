import Mathlib.Data.List.Forall2

/-!
# Outcomes

What the outcome of a composed step says about its parts. A sequence of steps succeeds exactly if
each of them does, and otherwise fails as the first one that fails.
-/
namespace RoutineBindings
variable {ε ε' α β : Type} {x : Except ε α}

theorem bind_eq_ok {f : α → Except ε β} {b : β} :
    (x >>= f) = .ok b ↔ ∃ a, x = .ok a ∧ f a = .ok b := by
  cases x <;> simp [bind, Except.bind]

theorem bind_eq_error {f : α → Except ε β} {e : ε} :
    (x >>= f) = .error e ↔ x = .error e ∨ ∃ a, x = .ok a ∧ f a = .error e := by
  cases x <;> simp [bind, Except.bind]

theorem mapError_eq_ok {f : ε → ε'} {a : α} : x.mapError f = .ok a ↔ x = .ok a := by
  cases x with
  | error e => exact ⟨fun h => (nomatch h), fun h => (nomatch h)⟩
  | ok b =>
    constructor
    · intro h
      cases h
      rfl
    · intro h
      cases h
      rfl

section Sequences
variable {f : α → Except ε β} {xs : List α}

theorem mapM_eq_ok {ys : List β} :
    xs.mapM f = .ok ys ↔ List.Forall₂ (fun x y => f x = .ok y) xs ys := by
  induction xs generalizing ys with
  | nil => cases ys <;> simp [pure, Except.pure]
  | cons x xs ih =>
    rw [List.mapM_cons, bind_eq_ok]
    constructor
    · rintro ⟨y, hx, h⟩
      obtain ⟨ys', hxs, hys⟩ := bind_eq_ok.1 h
      cases hys
      exact .cons hx (ih.1 hxs)
    · rintro (_ | ⟨hx, hxs⟩)
      exact ⟨_, hx, bind_eq_ok.2 ⟨_, ih.2 hxs, rfl⟩⟩

/-- The first element that fails. -/
def FirstError (f : α → Except ε β) (xs : List α) (e : ε) : Prop :=
  ∃ before x after, xs = before ++ x :: after ∧ (∀ y ∈ before, ∃ b, f y = .ok b) ∧ f x = .error e

theorem firstError_cons {x : α} {e : ε} : FirstError f (x :: xs) e ↔
    f x = .error e ∨ (∃ b, f x = .ok b) ∧ FirstError f xs e := by
  constructor
  · rintro ⟨before, y, after, hsplit, hbefore, hy⟩
    cases before with
    | nil =>
      obtain ⟨rfl, rfl⟩ := List.cons.inj hsplit
      exact .inl hy
    | cons z before =>
      obtain ⟨rfl, rfl⟩ := List.cons.inj hsplit
      exact .inr ⟨hbefore x List.mem_cons_self, before, y, after, rfl,
        fun w hw => hbefore w (List.mem_cons_of_mem x hw), hy⟩
  · rintro (hx | ⟨hx, before, y, after, rfl, hbefore, hy⟩)
    · exact ⟨[], x, xs, rfl, by simp, hx⟩
    · refine ⟨x :: before, y, after, rfl, fun w hw => ?_, hy⟩
      rcases List.mem_cons.1 hw with rfl | hw
      · exact hx
      · exact hbefore w hw

theorem mapM_eq_error {e : ε} : xs.mapM f = .error e ↔ FirstError f xs e := by
  induction xs with
  | nil => simp [FirstError, pure, Except.pure]
  | cons x xs ih =>
    have hrest : ∀ b, (xs.mapM f >>= fun bs => pure (b :: bs)) = .error e ↔
        FirstError f xs e := fun b => by
      rw [bind_eq_error, ih]
      exact or_iff_left fun ⟨_, _, h⟩ => nomatch h
    rw [List.mapM_cons, bind_eq_error, firstError_cons]
    simp only [hrest, exists_and_right]

/-- Any element that fails makes one the first. -/
theorem exists_firstError_iff : (∃ e, FirstError f xs e) ↔ ∃ x ∈ xs, ∃ e, f x = .error e := by
  induction xs with
  | nil => simp [FirstError]
  | cons x xs ih =>
    simp only [firstError_cons, exists_or, exists_and_left, ih, List.mem_cons,
      exists_eq_or_imp]
    cases hx : f x with
    | error e => simp
    | ok b => simp

end Sequences
end RoutineBindings
