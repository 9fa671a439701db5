import Mathlib.Data.List.Forall2

/-! # Sequences of fallible steps

Steps after each other fail as the first of them that fails, and a list is mapped by a function that
can fail exactly if every element is mapped.
-/

namespace PromptGateway

variable {α β ε : Type} {f : α → Except ε β} {xs : List α} {ys : List β}

theorem bind_eq_ok_iff {x : Except ε α} {b : β} :
    x >>= f = .ok b ↔ ∃ a, x = .ok a ∧ f a = .ok b := by
  cases x with
  | error e => simp [bind, Except.bind]
  | ok a => simp [bind, Except.bind]

theorem bind_eq_error_iff {x : Except ε α} {e : ε} :
    x >>= f = .error e ↔ x = .error e ∨ ∃ a, x = .ok a ∧ f a = .error e := by
  cases x with
  | error e' => simp [bind, Except.bind]
  | ok a => simp [bind, Except.bind]

theorem map_eq_ok_iff {g : α → β} {x : Except ε α} {b : β} :
    x.map g = .ok b ↔ ∃ a, x = .ok a ∧ g a = b := by
  cases x <;> simp [Except.map]

theorem mapError_eq_ok_iff {ε' : Type} {x : Except ε α} {g : ε → ε'} {a : α} :
    x.mapError g = .ok a ↔ x = .ok a := by
  cases x <;> simp [Except.mapError]

theorem mapError_eq_error_iff {ε' : Type} {x : Except ε α} {g : ε → ε'} {e : ε'} :
    x.mapError g = .error e ↔ ∃ e', x = .error e' ∧ g e' = e := by
  cases x <;> simp [Except.mapError]

theorem mapM_eq_ok_iff :
    xs.mapM f = .ok ys ↔ List.Forall₂ (fun x y => f x = .ok y) xs ys := by
  induction xs generalizing ys with
  | nil =>
    rw [List.mapM_nil, List.forall₂_nil_left_iff]
    simp [pure, Except.pure, eq_comm]
  | cons x xs ih =>
    rw [List.mapM_cons, List.forall₂_cons_left_iff]
    simp only [bind_eq_ok_iff, ih]
    constructor
    · rintro ⟨y, hx, zs, hs, h⟩
      cases h
      exact ⟨y, zs, hx, hs, rfl⟩
    · rintro ⟨y, zs, hx, hs, rfl⟩
      exact ⟨y, hx, zs, hs, rfl⟩

theorem exists_of_mem_mapM (h : xs.mapM f = .ok ys) {y : β} (hy : y ∈ ys) :
    ∃ x ∈ xs, f x = .ok y := by
  obtain ⟨hl, hg⟩ := List.forall₂_iff_get.mp (mapM_eq_ok_iff.mp h)
  obtain ⟨i, rfl⟩ := List.mem_iff_get.mp hy
  exact ⟨xs.get ⟨i, by rw [hl]; exact i.isLt⟩, List.get_mem _ _, hg i _ i.isLt⟩

theorem map_eq_map_iff_forall₂ {γ : Type} {g : α → γ} {h : β → γ} :
    xs.map g = ys.map h ↔ List.Forall₂ (fun x y => g x = h y) xs ys := by
  rw [← List.forall₂_map_right_iff (R := fun x z => g x = z),
    ← List.forall₂_map_left_iff (R := fun z z' => z = z')]
  exact iff_of_eq (congrFun₂ List.forall₂_eq_eq_eq.symm _ _)

/-- A step that commutes with a change of its input does so along a list. -/
theorem mapM_map_of_comm {g : α → α} {h : β → β} (hf : ∀ x, f (g x) = (f x).map h) (xs : List α) :
    (xs.map g).mapM f = (xs.mapM f).map (List.map h) := by
  induction xs with
  | nil => rfl
  | cons x xs ih =>
    rw [List.map_cons, List.mapM_cons, List.mapM_cons, hf, ih]
    cases f x with
    | error e => rfl
    | ok y => cases xs.mapM f <;> rfl

end PromptGateway
