-- An index from keys to owners. An item carries several keys, in order: it
-- belongs to the owner of the first one that is known, and then all its
-- keys are pointed at that owner.
import Asoe.Lib.PyValue

namespace keyindex

open py

variable {κ ν : Type} [DecidableEq κ]

/-! ## The operations -/

/-- The owner that the first known key names. -/
def first (index : List (κ × ν)) (ks : List κ) : Option ν := ks.findSome? (dict.get index)

/-- Every key is pointed at the owner. -/
def attach (index : List (κ × ν)) (ks : List κ) (v : ν) : List (κ × ν) :=
  ks.foldl (fun index k => dict.set index k v) index

/-- The index without the keys of an owner. -/
def detach [DecidableEq ν] (index : List (κ × ν)) (v : ν) : List (κ × ν) :=
  index.filter fun p => !decide (p.2 = v)

/-! ## What they do to one key -/

@[simp] theorem first_nil (index : List (κ × ν)) : first index [] = none := rfl

theorem first_cons (index : List (κ × ν)) (k : κ) (ks : List κ) :
    first index (k :: ks) = (dict.get index k).or (first index ks) := by
  unfold first
  rw [List.findSome?_cons]
  rcases dict.get index k with _ | v
  · rfl
  · rfl

@[simp] theorem attach_nil (index : List (κ × ν)) (v : ν) : attach index [] v = index := rfl

@[simp] theorem attach_cons (index : List (κ × ν)) (k : κ) (ks : List κ) (v : ν) :
    attach index (k :: ks) v = attach (dict.set index k v) ks v := rfl

theorem first_of_known {index : List (κ × ν)} {k : κ} {ks : List κ} {v : ν} (hk : k ∈ ks)
    (h : dict.get index k = some v) : ∃ w, first index ks = some w := by
  rcases hfirst : first index ks with _ | w
  · rw [first, List.findSome?_eq_none_iff] at hfirst
    cases h.symm.trans (hfirst k hk)
  · exact ⟨w, rfl⟩

theorem known_of_first {index : List (κ × ν)} {ks : List κ} {v : ν}
    (h : first index ks = some v) : ∃ k ∈ ks, dict.get index k = some v :=
  List.exists_of_findSome?_eq_some h

theorem get_attach_of_notMem {index : List (κ × ν)} {ks : List κ} {k : κ} (v : ν) (hk : k ∉ ks) :
    dict.get (attach index ks v) k = dict.get index k := by
  induction ks generalizing index with
  | nil => rfl
  | cons k' ks ih =>
    rw [List.mem_cons, not_or] at hk
    rw [attach_cons, ih hk.2, dict.get_set_of_ne _ _ hk.1]

theorem get_attach_of_mem {index : List (κ × ν)} {ks : List κ} {k : κ} (v : ν) (hk : k ∈ ks) :
    dict.get (attach index ks v) k = some v := by
  induction ks generalizing index with
  | nil => cases hk
  | cons k' ks ih =>
    rw [attach_cons]
    by_cases hrest : k ∈ ks
    · exact ih hrest
    · have hsame : k = k' := by simpa [hrest] using hk
      rw [get_attach_of_notMem v hrest, hsame, dict.get_set_self]

theorem get_detach_of_ne [DecidableEq ν] {index : List (κ × ν)} {k : κ} {v w : ν} (hne : v ≠ w)
    (h : dict.get index k = some v) : dict.get (detach index w) k = some v := by
  obtain ⟨pre, post, rfl, -⟩ := dict.split_of_get h
  induction pre with
  | nil => simp [detach, hne, dict.get_cons]
  | cons p pre ih =>
    obtain ⟨k', v'⟩ := p
    rw [List.cons_append, dict.get_cons] at h
    by_cases hk : k = k'
    · subst hk
      rw [if_pos rfl] at h
      cases h
      simp [detach, hne, dict.get_cons]
    · rw [if_neg hk] at h
      have hrest := ih h
      unfold detach at hrest ⊢
      rw [List.cons_append, List.filter_cons]
      split
      · rw [dict.get_cons, if_neg hk, hrest]
      · exact hrest

/-! ## What holds of every entry -/

theorem mem_attach {index : List (κ × ν)} {ks : List κ} {v : ν} {x : κ × ν}
    (h : x ∈ attach index ks v) : x ∈ index ∨ x.1 ∈ ks ∧ x.2 = v := by
  induction ks generalizing index with
  | nil => exact Or.inl h
  | cons k ks ih =>
    rcases ih h with hset | ⟨hk, hv⟩
    · rcases dict.mem_set hset with rfl | hold
      · exact Or.inr ⟨List.mem_cons_self, rfl⟩
      · exact Or.inl hold
    · exact Or.inr ⟨List.mem_cons_of_mem _ hk, hv⟩

omit [DecidableEq κ] in
theorem mem_detach [DecidableEq ν] {index : List (κ × ν)} {v : ν} {x : κ × ν} :
    x ∈ detach index v ↔ x ∈ index ∧ x.2 ≠ v := by
  simp [detach]

end keyindex
