import Mathlib.Data.List.Forall2

/-! # Results of steps

Work in steps succeeds when every step does, and its failure is that of the first step that fails.
-/

namespace Lending

universe u v

variable {ε : Type u} {α β : Type v}

theorem bind_eq_ok_iff {x : Except ε α} {f : α → Except ε β} {b : β} :
    x >>= f = .ok b ↔ ∃ a, x = .ok a ∧ f a = .ok b := by
  cases x <;> simp [bind, Except.bind]

theorem pure_eq_ok_iff {a b : α} : (pure a : Except ε α) = .ok b ↔ a = b := by
  simp [pure, Except.pure]

@[simp] theorem ok_bind {a : α} {f : α → Except ε β} : (Except.ok a : Except ε α) >>= f = f a := rfl

theorem bind_eq_error_iff {x : Except ε α} {f : α → Except ε β} {e : ε} :
    x >>= f = .error e ↔ x = .error e ∨ ∃ a, x = .ok a ∧ f a = .error e := by
  cases x <;> simp [bind, Except.bind]

theorem bind_ne_error {x : Except ε α} {f : α → Except ε β} {e : ε} (hx : x ≠ .error e)
    (hf : ∀ a, f a ≠ .error e) : x >>= f ≠ .error e := by
  rw [ne_eq, bind_eq_error_iff]
  rintro (h | ⟨a, -, h⟩)
  · exact hx h
  · exact hf a h

@[simp] theorem map_eq_error_iff {f : α → β} {x : Except ε α} {e : ε} :
    f <$> x = .error e ↔ x = .error e := by
  cases x <;> simp [Functor.map, Except.map]

theorem map_eq_ok_iff {f : α → β} {x : Except ε α} {b : β} :
    f <$> x = .ok b ↔ ∃ a, x = .ok a ∧ f a = b := by
  cases x <;> simp [Functor.map, Except.map]

theorem mapError_eq_ok_iff {ε' : Type u} {f : ε → ε'} {x : Except ε α} {a : α} :
    x.mapError f = .ok a ↔ x = .ok a := by
  cases x <;> simp [Except.mapError]

@[simp] theorem pure_ne_error {a : α} {e : ε} : (pure a : Except ε α) ≠ .error e := by
  simp [pure, Except.pure]

theorem exists_of_mapM_eq_error {f : α → Except ε β} {xs : List α} {e : ε}
    (h : xs.mapM f = .error e) : ∃ x ∈ xs, f x = .error e := by
  induction xs with
  | nil => cases h
  | cons x xs ih =>
    rw [List.mapM_cons, bind_eq_error_iff] at h
    obtain h | ⟨y, -, h⟩ := h
    · exact ⟨x, by simp, h⟩
    · obtain h | ⟨ys, -, h⟩ := bind_eq_error_iff.mp h
      · obtain ⟨x', hx, h⟩ := ih h
        exact ⟨x', List.mem_cons_of_mem _ hx, h⟩
      · exact absurd h pure_ne_error

theorem mapM_eq_ok_iff {f : α → Except ε β} {xs : List α} {ys : List β} :
    xs.mapM f = .ok ys ↔ List.Forall₂ (fun x y => f x = .ok y) xs ys := by
  induction xs generalizing ys with
  | nil => rw [List.mapM_nil, pure_eq_ok_iff, List.forall₂_nil_left_iff, eq_comm]
  | cons x xs ih =>
    simp only [List.mapM_cons, bind_eq_ok_iff, pure_eq_ok_iff, ih]
    constructor
    · rintro ⟨y, hy, ys', hys, rfl⟩
      exact .cons hy hys
    · rintro (_ | ⟨hy, hys⟩)
      exact ⟨_, hy, _, hys, rfl⟩

theorem exists_of_mapM_eq_ok {f : α → Except ε β} {xs : List α} {ys : List β} {y : β}
    (h : xs.mapM f = .ok ys) (hy : y ∈ ys) : ∃ x ∈ xs, f x = .ok y := by
  have hr := mapM_eq_ok_iff.mp h
  clear h
  induction hr with
  | nil => cases hy
  | @cons x _ xs _ hx _ ih =>
    obtain rfl | hy := List.mem_cons.mp hy
    · exact ⟨x, by simp, hx⟩
    · obtain ⟨x', hx', hy⟩ := ih hy
      exact ⟨x', List.mem_cons_of_mem _ hx', hy⟩

theorem exists_forall₂_iff {R : α → β → Prop} {xs : List α} :
    (∃ ys, List.Forall₂ R xs ys) ↔ ∀ x ∈ xs, ∃ y, R x y := by
  induction xs with
  | nil => simp
  | cons x xs ih =>
    simp only [List.forall_mem_cons, ← ih]
    constructor
    · rintro ⟨_, _ | ⟨hy, hys⟩⟩
      exact ⟨⟨_, hy⟩, _, hys⟩
    · rintro ⟨⟨y, hy⟩, ys, hys⟩
      exact ⟨y :: ys, .cons hy hys⟩

theorem exists_forall₂_cons_iff {R : α → β → Prop} {P : List β → Prop} {x : α} {xs : List α} :
    (∃ ys, List.Forall₂ R (x :: xs) ys ∧ P ys) ↔
      ∃ y, R x y ∧ ∃ ys, List.Forall₂ R xs ys ∧ P (y :: ys) := by
  constructor
  · rintro ⟨_, _ | ⟨hy, hys⟩, hp⟩
    exact ⟨_, hy, _, hys, hp⟩
  · rintro ⟨y, hy, ys, hys, hp⟩
    exact ⟨y :: ys, .cons hy hys, hp⟩

theorem exists_forall₂_of_perm {R : α → β → Prop} {xs xs' : List α} {ys : List β}
    (hp : xs.Perm xs') (h : List.Forall₂ R xs ys) :
    ∃ ys', List.Forall₂ R xs' ys' ∧ (xs.zip ys).Perm (xs'.zip ys') := by
  induction hp generalizing ys with
  | nil => exact ⟨ys, h, .refl _⟩
  | cons x _ ih =>
    obtain _ | ⟨hy, h⟩ := h
    obtain ⟨ys', h', hz⟩ := ih h
    exact ⟨_ :: ys', .cons hy h', hz.cons _⟩
  | swap x x' xs =>
    obtain _ | ⟨hy, _ | ⟨hy', h⟩⟩ := h
    exact ⟨_ :: _ :: _, .cons hy' (.cons hy h), .swap _ _ _⟩
  | trans _ _ ih ih' =>
    obtain ⟨ys', h', hz⟩ := ih h
    obtain ⟨ys'', h'', hz'⟩ := ih' h'
    exact ⟨ys'', h'', hz.trans hz'⟩

end Lending
