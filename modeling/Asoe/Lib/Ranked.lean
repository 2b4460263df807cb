-- Lists whose elements have a rank. `max(xs, key=rank)` walks the list and
-- keeps the first element that no later one outranks.
import Mathlib.Tactic.Common

namespace ranked

variable {α : Type} (rank : α → ℕ)

/-- An element that no other one of the list outranks. -/
def Highest (a : α) (xs : List α) : Prop := a ∈ xs ∧ ∀ x ∈ xs, rank x ≤ rank a

variable {rank}

theorem Highest.mono {a : α} {xs ys : List α} (h : Highest rank a xs) (hsub : ∀ x ∈ xs, x ∈ ys)
    (hseen : ∀ y ∈ ys, ∃ x ∈ xs, rank y ≤ rank x) : Highest rank a ys := by
  refine ⟨hsub a h.1, fun y hy => ?_⟩
  obtain ⟨x, hx, hle⟩ := hseen y hy
  exact Nat.le_trans hle (h.2 x hx)

/-- What the walk is left with. -/
theorem foldl_highest (xs : List α) (m : α) :
    Highest rank (xs.foldl (fun m x => if rank m < rank x then x else m) m) (m :: xs) := by
  induction xs generalizing m with
  | nil =>
    refine ⟨List.mem_cons_self, fun x hx => ?_⟩
    rw [List.mem_singleton.mp hx]
    exact Nat.le_refl _
  | cons x xs ih =>
    rw [List.foldl_cons]
    obtain ⟨hmem, hmax⟩ := ih (if rank m < rank x then x else m)
    by_cases h : rank m < rank x
    · simp only [if_pos h] at hmem hmax ⊢
      refine ⟨List.mem_cons_of_mem _ hmem, fun y hy => ?_⟩
      rcases List.mem_cons.mp hy with rfl | hy
      · exact Nat.le_trans (Nat.le_of_lt h) (hmax x List.mem_cons_self)
      · exact hmax y hy
    · simp only [if_neg h] at hmem hmax ⊢
      refine ⟨?_, fun y hy => ?_⟩
      · rcases List.mem_cons.mp hmem with hm | hm
        · rw [hm]
          exact List.mem_cons_self
        · exact List.mem_cons_of_mem _ (List.mem_cons_of_mem _ hm)
      · rcases List.mem_cons.mp hy with rfl | hy
        · exact hmax _ List.mem_cons_self
        rcases List.mem_cons.mp hy with rfl | hy
        · exact Nat.le_trans (Nat.le_of_not_lt h) (hmax m List.mem_cons_self)
        · exact hmax y (List.mem_cons_of_mem _ hy)

end ranked
