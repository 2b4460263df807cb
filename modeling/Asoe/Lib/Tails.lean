-- Tails of a growing log: the newest `n` entries, the entries of a bound on,
-- and what one tail of a log without repeats has of another.
import Mathlib.Data.List.Infix
import Mathlib.Data.List.Nodup
import Mathlib.Order.Lattice

namespace tails

variable {α κ : Type}

/-- `xs[-n:]`, for a positive `n`. -/
def lastOf (n : ℕ) (xs : List α) : List α := xs.drop (xs.length - n)

theorem lastOf_suffix (n : ℕ) (xs : List α) : lastOf n xs <:+ xs := List.drop_suffix _ xs

theorem length_lastOf (n : ℕ) (xs : List α) : (lastOf n xs).length = min n xs.length := by
  unfold lastOf
  rw [List.length_drop]
  omega

theorem drop_suffix_of_suffix {xs ys : List α} (h : xs <:+ ys) (n : ℕ) : xs.drop n <:+ ys :=
  (List.drop_suffix n xs).trans h

theorem suffix_concat {xs ys : List α} (h : xs <:+ ys) (x : α) : xs ++ [x] <:+ ys ++ [x] := by
  obtain ⟨pre, rfl⟩ := h
  exact ⟨pre, by rw [List.append_assoc]⟩

theorem suffix_eq_iff {xs ys l : List α} (hx : xs <:+ l) (hy : ys <:+ l) :
    xs = ys ↔ xs.length = ys.length := by
  constructor
  · rintro rfl
    rfl
  · intro hlen
    exact (List.suffix_of_suffix_length_le hx hy (le_of_eq hlen)).eq_of_length hlen

theorem filter_from_suffix [LinearOrder κ] (key : α → κ) (bound : κ) {xs : List α}
    (h : xs.Pairwise fun a b => key a ≤ key b) : (xs.filter fun x => bound ≤ key x) <:+ xs := by
  induction xs with
  | nil => exact List.suffix_refl _
  | cons x xs ih =>
    obtain ⟨hx, hxs⟩ := List.pairwise_cons.mp h
    by_cases hbound : bound ≤ key x
    · have hall : ((x :: xs).filter fun y => bound ≤ key y) = x :: xs := by
        rw [List.filter_eq_self]
        intro y hy
        rcases List.mem_cons.mp hy with rfl | hy
        · exact decide_eq_true hbound
        · exact decide_eq_true (hbound.trans (hx y hy))
      rw [hall]
    · rw [List.filter_cons_of_neg (by simpa using hbound)]
      exact (ih hxs).trans (List.suffix_cons x xs)

theorem filter_suffix_eq_iff {xs l : List α} (hnodup : l.Nodup) (hx : xs <:+ l) (p : α → Bool) :
    xs.filter p = l.filter p ↔ ∀ x ∈ l, p x = true → x ∈ xs := by
  constructor
  · intro heq x hmem hp
    have hkept : x ∈ xs.filter p := by
      rw [heq]
      exact List.mem_filter.mpr ⟨hmem, hp⟩
    exact List.mem_of_mem_filter hkept
  · intro hall
    obtain ⟨pre, rfl⟩ := hx
    have hdisjoint := (List.nodup_append.mp hnodup).2.2
    have hpre : pre.filter p = [] := by
      rw [List.filter_eq_nil_iff]
      intro x hmem hp
      exact hdisjoint x hmem x (hall x (List.mem_append_left _ hmem) hp) rfl
    rw [List.filter_append, hpre, List.nil_append]

section within

variable [DecidableEq α] {xs ys l : List α}

theorem filter_mem_of_le (hx : xs <:+ l) (hy : ys <:+ l) (hlen : xs.length ≤ ys.length) :
    (xs.filter fun x => x ∈ ys) = xs := by
  rw [List.filter_eq_self]
  intro x hxs
  exact decide_eq_true ((List.suffix_of_suffix_length_le hx hy hlen).subset hxs)

theorem filter_mem_of_ge (hnodup : l.Nodup) (hx : xs <:+ l) (hy : ys <:+ l)
    (hlen : ys.length ≤ xs.length) : (xs.filter fun x => x ∈ ys) = ys := by
  obtain ⟨pre, rfl⟩ := List.suffix_of_suffix_length_le hy hx hlen
  have hdisjoint := (List.nodup_append.mp (hnodup.sublist hx.sublist)).2.2
  have hpre : (pre.filter fun x => x ∈ ys) = [] := by
    rw [List.filter_eq_nil_iff]
    intro x hpre hmem
    exact hdisjoint x hpre x (of_decide_eq_true hmem) rfl
  rw [List.filter_append, hpre, List.nil_append, List.filter_eq_self]
  exact fun x hxs => decide_eq_true hxs

/-- A tail has of `old ++ new`, a tail too, exactly the part `new`: it is as
long as that part, or longer where there is no old one. -/
theorem filter_mem_eq_iff {old new : List α} (hnodup : l.Nodup) (hx : xs <:+ l)
    (hy : old ++ new <:+ l) :
    (xs.filter fun x => x ∈ old ++ new) = new ↔
      xs.length = new.length ∨ old = [] ∧ new.length ≤ xs.length := by
  have hnew : new <:+ l := (List.suffix_append old new).trans hy
  by_cases hlen : xs.length ≤ (old ++ new).length
  · rw [filter_mem_of_le hx hy hlen, suffix_eq_iff hx hnew]
    refine ⟨Or.inl, fun h => h.elim id fun h => ?_⟩
    obtain ⟨rfl, hle⟩ := h
    rw [List.nil_append] at hlen
    exact le_antisymm hlen hle
  · have hge : (old ++ new).length ≤ xs.length := le_of_not_ge hlen
    rw [filter_mem_of_ge hnodup hx hy hge]
    rw [List.length_append] at hlen hge
    constructor
    · intro h
      have hold : old = [] := List.append_left_eq_self.mp h
      exact Or.inr ⟨hold, by omega⟩
    · rintro (h | ⟨rfl, -⟩)
      · omega
      · rfl

end within

end tails
