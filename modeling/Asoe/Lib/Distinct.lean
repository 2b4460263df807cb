-- Distinct images of a list, one part of it at a time.
import Mathlib.Data.List.Perm.Basic
import Mathlib.Data.List.Nodup

namespace distinct

variable {α β : Type}

theorem map_parts_perm (p : α → Bool) (f : α → β) (xs : List α) :
    (xs.map f).Perm ((xs.filter p).map f ++ (xs.filter fun a => !p a).map f) := by
  rw [← List.map_append]
  exact (List.filter_append_perm p xs).symm.map f

theorem nodup_map_iff (p : α → Bool) (f : α → β) (xs : List α) :
    (xs.map f).Nodup ↔ ((xs.filter p).map f).Nodup ∧ ((xs.filter fun a => !p a).map f).Nodup ∧
      ∀ b ∈ (xs.filter p).map f, b ∉ (xs.filter fun a => !p a).map f := by
  rw [(map_parts_perm p f xs).nodup_iff, List.nodup_append']
  rfl

end distinct
