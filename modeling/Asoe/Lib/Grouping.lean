-- Grouping by a key: `setdefault(key, []).append(x)` for each item in turn.
-- Each group holds the items of its key in their order, and each key has one
-- group. A dict without a key twice is read by its entries.
import Asoe.Lib.PyValue
import Mathlib.Data.List.Nodup

namespace grouping

open py

/-! ## Keys that occur once -/

section once

variable {κ ν : Type} [DecidableEq κ] {d : List (κ × ν)} {k : κ} {v : ν}

/-- No key has two entries. -/
def Once (d : List (κ × ν)) : Prop := (d.map Prod.fst).Nodup

instance : Decidable (Once d) := inferInstanceAs (Decidable (d.map Prod.fst).Nodup)

omit [DecidableEq κ] in
theorem Once.filter (h : Once d) (p : κ × ν → Bool) : Once (d.filter p) := by
  have hsub : (d.filter p).Sublist d := List.filter_sublist
  exact h.sublist (hsub.map Prod.fst)

theorem Once.get_of_mem (h : Once d) (hmem : (k, v) ∈ d) : dict.get d k = some v := by
  induction d with
  | nil => cases hmem
  | cons p d ih =>
    obtain ⟨a, b⟩ := p
    have hcons : a ∉ d.map Prod.fst ∧ Once d := List.nodup_cons.mp h
    rw [dict.get_cons]
    rcases List.mem_cons.mp hmem with heq | hrest
    · cases heq
      rw [if_pos rfl]
    · have hne : k ≠ a := by
        intro hk
        subst hk
        exact hcons.1 (List.mem_map.mpr ⟨(k, v), hrest, rfl⟩)
      rw [if_neg hne]
      exact ih hcons.2 hrest

theorem Once.mem_iff (h : Once d) : (k, v) ∈ d ↔ dict.get d k = some v :=
  ⟨h.get_of_mem, dict.mem_of_get⟩

theorem Once.get_filter (h : Once d) {p : κ × ν → Bool} :
    dict.get (d.filter p) k = some v ↔ dict.get d k = some v ∧ p (k, v) = true := by
  rw [← (h.filter p).mem_iff, ← h.mem_iff, List.mem_filter]

theorem mem_keys_set (x : κ) :
    x ∈ (dict.set d k v).map Prod.fst ↔ x = k ∨ x ∈ d.map Prod.fst := by
  induction d with
  | nil => simp [dict.set]
  | cons p d ih =>
    obtain ⟨a, b⟩ := p
    unfold dict.set
    by_cases ha : a = k
    · simp [ha]
    · rw [if_neg ha, List.map_cons, List.mem_cons, ih, List.map_cons, List.mem_cons]
      constructor
      · rintro (hx | hx | hx)
        · exact Or.inr (Or.inl hx)
        · exact Or.inl hx
        · exact Or.inr (Or.inr hx)
      · rintro (hx | hx | hx)
        · exact Or.inr (Or.inl hx)
        · exact Or.inl hx
        · exact Or.inr (Or.inr hx)

theorem Once.set (h : Once d) (k : κ) (v : ν) : Once (dict.set d k v) := by
  induction d with
  | nil => exact List.nodup_singleton k
  | cons p d ih =>
    obtain ⟨a, b⟩ := p
    have hcons : a ∉ d.map Prod.fst ∧ Once d := List.nodup_cons.mp h
    unfold dict.set
    by_cases ha : a = k
    · subst ha
      rw [if_pos rfl]
      exact h
    · rw [if_neg ha]
      refine List.nodup_cons.mpr ⟨?_, ih hcons.2⟩
      rw [mem_keys_set]
      rintro (hx | hx)
      · exact ha hx
      · exact hcons.1 hx

theorem set_of_not_mem_keys (h : k ∉ d.map Prod.fst) : dict.set d k v = d ++ [(k, v)] := by
  apply dict.set_of_none
  cases hget : dict.get d k with
  | none => rfl
  | some v => exact absurd (List.mem_map_of_mem (dict.mem_of_get hget)) h

theorem length_set_le (d : List (κ × ν)) (k : κ) (v : ν) :
    (dict.set d k v).length ≤ d.length + 1 := by
  induction d with
  | nil => simp [dict.set]
  | cons p d ih =>
    obtain ⟨a, b⟩ := p
    unfold dict.set
    split
    · simp
    · simpa using ih

/-- What is written over a dict hides what it had. -/
theorem Once.get_update {e : List (κ × ν)} (he : Once e) (d : List (κ × ν)) (k : κ) :
    dict.get (dict.update d e) k = (dict.get e k).or (dict.get d k) := by
  induction e generalizing d with
  | nil => rfl
  | cons p e ih =>
    obtain ⟨a, b⟩ := p
    have hcons : a ∉ e.map Prod.fst ∧ Once e := List.nodup_cons.mp he
    have hfold : dict.update d ((a, b) :: e) = dict.update (dict.set d a b) e := rfl
    rw [hfold, ih hcons.2, dict.get_cons]
    by_cases hk : k = a
    · subst hk
      have hnone : dict.get e k = none := by
        cases hget : dict.get e k with
        | none => rfl
        | some v => exact absurd (List.mem_map_of_mem (dict.mem_of_get hget)) hcons.1
      rw [hnone, if_pos rfl, dict.get_set_self]
      rfl
    · rw [if_neg hk, dict.get_set_of_ne _ _ hk]

end once

/-! ## Groups -/

variable {α κ : Type} [DecidableEq κ]

/-- One item joins the group of its key, if it has one. -/
def join (key : α → Option κ) (groups : List (κ × List α)) (x : α) : List (κ × List α) :=
  match key x with
  | none => groups
  | some k => dict.set groups k ((dict.get groups k).getD [] ++ [x])

def group (key : α → Option κ) (xs : List α) : List (κ × List α) := xs.foldl (join key) []

section group

variable {key : α → Option κ} {groups : List (κ × List α)} {xs : List α} {k : κ}

theorem once_join (h : Once groups) (x : α) : Once (join key groups x) := by
  unfold join
  split
  · exact h
  · exact h.set _ _

theorem once_group : Once (group key xs) := by
  have hfold : ∀ groups : List (κ × List α), Once groups → Once (xs.foldl (join key) groups) := by
    induction xs with
    | nil =>
      intro groups h
      exact h
    | cons x xs ih =>
      intro groups h
      exact ih _ (once_join h x)
  exact hfold [] List.nodup_nil

theorem get_join (x : α) (k : κ) : (dict.get (join key groups x) k).getD [] =
    (dict.get groups k).getD [] ++ if key x = some k then [x] else [] := by
  unfold join
  split
  · rename_i hx
    simp [hx]
  · rename_i k' hx
    rw [hx]
    by_cases hk : k = k'
    · subst hk
      simp
    · rw [dict.get_set_of_ne _ _ hk, if_neg (by simpa using Ne.symm hk), List.append_nil]

theorem get_group (key : α → Option κ) (xs : List α) (k : κ) :
    (dict.get (group key xs) k).getD [] = xs.filter fun x => key x = some k := by
  have hfold : ∀ groups : List (κ × List α), (dict.get (xs.foldl (join key) groups) k).getD [] =
      (dict.get groups k).getD [] ++ xs.filter fun x => key x = some k := by
    induction xs with
    | nil =>
      intro groups
      simp
    | cons x xs ih =>
      intro groups
      rw [List.foldl_cons, ih, get_join, List.filter_cons, List.append_assoc]
      by_cases hx : key x = some k
      · simp [hx]
      · simp [hx]
  unfold group
  simpa using hfold []

theorem mem_group {g : List α} (h : (k, g) ∈ group key xs) :
    g = xs.filter fun x => key x = some k := by
  have hget := get_group key xs k
  rwa [once_group.get_of_mem h, Option.getD_some] at hget

end group

end grouping
