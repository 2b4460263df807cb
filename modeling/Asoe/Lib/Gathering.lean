-- Entries that come in one after another, each written under its key, up to
-- one that halts. With distinct keys the order matters only for which one
-- halts, and for what was written before it.
import Asoe.Lib.PyValue
import Mathlib.Data.List.Nodup

namespace gathering

open py

variable {δ κ ν : Type} [DecidableEq κ]

/-- Write the entries in order. -/
def written (key : δ → κ) (value : δ → ν) (d : List (κ × ν)) (xs : List δ) : List (κ × ν) :=
  xs.foldl (fun d x => dict.set d (key x) (value x)) d

variable (key : δ → κ) (value : δ → ν) (halts : δ → Prop) [DecidablePred halts]

/-- Write the entries up to the first that halts, and tell which one it was. -/
def gather (d : List (κ × ν)) : List δ → List (κ × ν) × Option δ
  | [] => (d, none)
  | x :: xs => if halts x then (d, some x) else gather (dict.set d (key x) (value x)) xs

variable {key value halts} {d : List (κ × ν)} {xs ys : List δ}

theorem get_written_of_notMem {k : κ} (h : k ∉ xs.map key) :
    dict.get (written key value d xs) k = dict.get d k := by
  induction xs generalizing d with
  | nil => rfl
  | cons x xs ih =>
    rw [List.map_cons, List.mem_cons, not_or] at h
    obtain ⟨hx, hxs⟩ := h
    exact (ih hxs).trans (dict.get_set_of_ne d (value x) hx)

theorem get_written_of_mem {x : δ} (hkeys : (xs.map key).Nodup) (hx : x ∈ xs) :
    dict.get (written key value d xs) (key x) = some (value x) := by
  induction xs generalizing d with
  | nil => cases hx
  | cons y xs ih =>
    obtain ⟨hy, hxs⟩ := List.nodup_cons.mp hkeys
    rcases List.mem_cons.mp hx with rfl | hx
    · exact (get_written_of_notMem hy).trans (dict.get_set_self d (key x) (value x))
    · exact ih hxs hx

theorem get_written_perm (hkeys : (xs.map key).Nodup) (h : xs.Perm ys) (k : κ) :
    dict.get (written key value d xs) k = dict.get (written key value d ys) k := by
  by_cases hk : k ∈ xs.map key
  · obtain ⟨x, hx, rfl⟩ := List.mem_map.mp hk
    have hkeys' : (ys.map key).Nodup := (h.map key).nodup_iff.mp hkeys
    rw [get_written_of_mem hkeys hx, get_written_of_mem hkeys' (h.mem_iff.mp hx)]
  · have hk' : k ∉ ys.map key := fun hmem => hk ((h.map key).mem_iff.mpr hmem)
    rw [get_written_of_notMem hk, get_written_of_notMem hk']

theorem gather_of_none (h : ∀ x ∈ xs, ¬ halts x) :
    gather key value halts d xs = (written key value d xs, none) := by
  induction xs generalizing d with
  | nil => rfl
  | cons x xs ih =>
    rw [gather, if_neg (h x List.mem_cons_self), ih fun y hy => h y (List.mem_cons_of_mem x hy)]
    rfl

/-- Something halts: the first such entry, and what came before it is written. -/
theorem gather_of_some (key : δ → κ) (value : δ → ν) (d : List (κ × ν))
    (h : ∃ x ∈ xs, halts x) :
    ∃ before x after, xs = before ++ x :: after ∧ (∀ y ∈ before, ¬ halts y) ∧ halts x ∧
      gather key value halts d xs = (written key value d before, some x) := by
  induction xs generalizing d with
  | nil =>
    obtain ⟨x, hx, -⟩ := h
    cases hx
  | cons x xs ih =>
    by_cases hx : halts x
    · exact ⟨[], x, xs, rfl, by simp, hx, by rw [gather, if_pos hx]; rfl⟩
    · have hrest : ∃ y ∈ xs, halts y := by
        obtain ⟨y, hy, hhalts⟩ := h
        rcases List.mem_cons.mp hy with rfl | hy
        · exact absurd hhalts hx
        · exact ⟨y, hy, hhalts⟩
      obtain ⟨before, z, after, rfl, hbefore, hz, hgather⟩ := ih _ hrest
      refine ⟨x :: before, z, after, rfl, ?_, hz, ?_⟩
      · intro y hy
        rcases List.mem_cons.mp hy with rfl | hy
        · exact hx
        · exact hbefore y hy
      · rw [gather, if_neg hx, hgather]
        rfl

end gathering
