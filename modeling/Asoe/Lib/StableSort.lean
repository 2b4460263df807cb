-- A stable sort by a rank: what is in the list, in which order, and where two
-- elements of one rank stand.
import Mathlib.Data.List.Sort

namespace stable_sort

variable {α L : Type} [LinearOrder L] (r : α → α → Prop) [DecidableRel r] (rank : α → L)

/-- On the list, the sort compares by the rank. -/
def SortsBy (xs : List α) : Prop := ∀ a ∈ xs, ∀ b ∈ xs, (r a b ↔ rank a ≤ rank b)

variable {r rank} {xs : List α} (h : SortsBy r rank xs)

include h

theorem sort_eq : xs.insertionSort r = xs.insertionSort fun a b => rank a ≤ rank b := by
  have hmap := List.map_insertionSort r (fun a b => rank a ≤ rank b) id xs h
  simpa using hmap

theorem pairwise_sort : (xs.insertionSort r).Pairwise fun a b => rank a ≤ rank b := by
  have : Std.Total fun a b : α => rank a ≤ rank b := ⟨fun a b => le_total (rank a) (rank b)⟩
  have : IsTrans α fun a b => rank a ≤ rank b := ⟨fun _ _ _ => le_trans⟩
  rw [sort_eq h]
  exact List.pairwise_insertionSort _ _

theorem filter_sort (k : L) :
    (xs.insertionSort r).filter (fun a => decide (rank a = k)) =
      xs.filter fun a => decide (rank a = k) := by
  have hequal : (xs.filter fun a => decide (rank a = k)).Pairwise r := by
    refine List.pairwise_of_forall_mem_list fun a ha b hb => ?_
    rw [List.mem_filter, decide_eq_true_eq] at ha hb
    exact (h a ha.1 b hb.1).mpr (by rw [ha.2, hb.2])
  have hsub : (xs.filter fun a => decide (rank a = k)).Sublist (xs.insertionSort r) :=
    List.sublist_insertionSort hequal List.filter_sublist
  have hfiltered : (xs.filter fun a => decide (rank a = k)).Sublist
      ((xs.insertionSort r).filter fun a => decide (rank a = k)) := by
    have := hsub.filter fun a => decide (rank a = k)
    simpa only [List.filter_filter, Bool.and_self] using this
  have hlength := ((List.perm_insertionSort r xs).filter fun a => decide (rank a = k)).length_eq
  exact (hfiltered.eq_of_length hlength.symm).symm

theorem pair_sort_iff {a b : α} (hrank : rank a = rank b) :
    [a, b].Sublist (xs.insertionSort r) ↔ [a, b].Sublist xs := by
  have hpair : [a, b].filter (fun c => decide (rank c = rank b)) = [a, b] := by
    simp [hrank]
  constructor
  · intro hsub
    have hfiltered := hsub.filter fun c => decide (rank c = rank b)
    rw [hpair, filter_sort h] at hfiltered
    exact hfiltered.trans List.filter_sublist
  · intro hsub
    have hfiltered := hsub.filter fun c => decide (rank c = rank b)
    rw [hpair, ← filter_sort h] at hfiltered
    exact hfiltered.trans List.filter_sublist

theorem worse_behind_iff (worse : α → α → Prop)
    (hworse : ∀ a ∈ xs, ∀ b ∈ xs, worse a b → rank b ≤ rank a) :
    (xs.insertionSort r).Pairwise (fun a b => ¬ worse a b) ↔
      xs.Pairwise fun a b => worse a b → rank a ≠ rank b := by
  rw [List.pairwise_iff_forall_sublist, List.pairwise_iff_forall_sublist]
  constructor
  · intro hsorted a b hsub hab hrank
    exact hsorted ((pair_sort_iff h hrank).mpr hsub) hab
  · intro hbefore a b hsub hab
    have hmem := (List.perm_insertionSort r xs).subset
    have ha : a ∈ xs := hmem (hsub.subset (by simp))
    have hb : b ∈ xs := hmem (hsub.subset (by simp))
    have hle : rank a ≤ rank b :=
      List.pairwise_iff_forall_sublist.mp (pairwise_sort h) hsub
    have hrank : rank a = rank b := le_antisymm hle (hworse a ha b hb hab)
    exact hbefore ((pair_sort_iff h hrank).mp hsub) hab hrank

end stable_sort
