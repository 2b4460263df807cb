-- Computations over a list that may raise: each of them returns just when
-- every element does.
import Asoe.Lib.Prog
import Mathlib.Data.List.Forall2

namespace prog

variable {ε α β : Type}

/-- `mapM` returns what each element returns. -/
theorem mapM_ok_iff {f : α → Except ε β} {xs : List α} {ys : List β} :
    xs.mapM f = .ok ys ↔ List.Forall₂ (fun x y => f x = .ok y) xs ys := by
  induction xs generalizing ys with
  | nil =>
    rw [List.mapM_nil, List.forall₂_nil_left_iff]
    constructor
    · intro h
      cases h
      rfl
    · rintro rfl
      rfl
  | cons x xs ih =>
    rw [List.mapM_cons]
    constructor
    · intro h
      cases hx : f x with
      | error e =>
        rw [hx, error_bind rfl] at h
        cases h
      | ok y =>
        rw [hx, ok_bind rfl] at h
        cases hrest : xs.mapM f with
        | error e =>
          rw [hrest, error_bind rfl] at h
          cases h
        | ok rest =>
          rw [hrest, ok_bind rfl] at h
          cases h
          exact List.Forall₂.cons hx (ih.mp hrest)
    · intro h
      obtain ⟨y, rest, hx, hrest, rfl⟩ := List.forall₂_cons_left_iff.mp h
      rw [ok_bind hx, ok_bind (ih.mpr hrest)]
      rfl

theorem returned_of_mapM {f : α → Except ε β} {xs : List α} {ys : List β}
    (h : xs.mapM f = .ok ys) : ∀ x ∈ xs, ∃ y, f x = .ok y := by
  have hall := mapM_ok_iff.mp h
  clear h
  induction hall with
  | nil => simp
  | @cons x y _ _ hx _ ih =>
    intro z hz
    rcases List.mem_cons.mp hz with rfl | hz
    · exact ⟨y, hx⟩
    · exact ih z hz

theorem source_of_mapM {f : α → Except ε β} {xs : List α} {ys : List β}
    (h : xs.mapM f = .ok ys) : ∀ y ∈ ys, ∃ x ∈ xs, f x = .ok y := by
  have hall := mapM_ok_iff.mp h
  clear h
  induction hall with
  | nil => simp
  | @cons x y _ _ hx _ ih =>
    intro z hz
    rcases List.mem_cons.mp hz with rfl | hz
    · exact ⟨x, List.mem_cons_self, hx⟩
    · obtain ⟨w, hw, hz⟩ := ih z hz
      exact ⟨w, List.mem_cons_of_mem x hw, hz⟩

/-- An exception of `mapM` is one of an element. -/
theorem mapM_error {f : α → Except ε β} {Q : ε → Prop} {xs : List α}
    (h : ∀ x ∈ xs, ∀ e, f x = .error e → Q e) : ∀ e, xs.mapM f = .error e → Q e := by
  induction xs with
  | nil =>
    intro e he
    cases he
  | cons x xs ih =>
    intro e he
    rw [List.mapM_cons] at he
    cases hx : f x with
    | error e' =>
      rw [hx, error_bind rfl] at he
      cases he
      exact h x (by simp) e hx
    | ok y =>
      rw [hx, ok_bind rfl] at he
      cases hrest : xs.mapM f with
      | error e' =>
        rw [hrest, error_bind rfl] at he
        cases he
        exact ih (fun z hz => h z (by simp [hz])) e hrest
      | ok rest =>
        rw [hrest, ok_bind rfl] at he
        cases he

theorem mapM_eq_ok_map {f : α → Except ε β} {g : α → β} {xs : List α}
    (h : ∀ x ∈ xs, f x = .ok (g x)) : xs.mapM f = .ok (xs.map g) := by
  rw [mapM_ok_iff, List.forall₂_map_right_iff]
  exact List.forall₂_same.mpr h

/-- `forM` returns just when every element is let through. -/
theorem forM_ok_iff {f : α → Except ε Unit} {xs : List α} :
    forM xs f = .ok () ↔ ∀ x ∈ xs, f x = .ok () := by
  induction xs with
  | nil => simp [pure, Except.pure]
  | cons x xs ih =>
    rw [List.forM_cons]
    constructor
    · intro h
      cases hx : f x with
      | error e =>
        rw [hx, error_bind rfl] at h
        cases h
      | ok u =>
        rw [hx, ok_bind rfl] at h
        intro y hy
        rcases List.mem_cons.mp hy with rfl | hy
        · exact hx
        · exact ih.mp h y hy
    · intro h
      rw [ok_bind (h x (by simp))]
      exact ih.mpr fun y hy => h y (by simp [hy])

end prog
