-- One write to the outside that must not happen twice, with a queue of
-- failed tries that a worker runs again. What has been done and what still
-- waits together are the exposure of the write; a new try is safe exactly
-- while the exposure is zero.
import Mathlib.Logic.Relation
import Mathlib.Tactic.Common

namespace once

/-! ## The write as an abstract machine -/

/-- How often the write was done, and how many of its tries are queued. -/
structure Tally where
  done : ℕ
  queued : ℕ

def Tally.exposure (t : Tally) : ℕ := t.done + t.queued

/-- A turn of the worker: nothing comes of it, or a queued try is settled,
with the write done or not, and leaves the queue. -/
inductive Retry (t t' : Tally) : Prop where
  | idle (hdone : t'.done = t.done) (hqueued : t'.queued = t.queued)
  | settled (hdone : t'.done = t.done + 1) (hqueued : t.queued = t'.queued + 1)
  | dropped (hdone : t'.done = t.done) (hqueued : t.queued = t'.queued + 1)

/-- A new try: it is done, queued or lost. -/
inductive Attempt (t t' : Tally) : Prop where
  | done (hdone : t'.done = t.done + 1) (hqueued : t'.queued = t.queued)
  | queued (hdone : t'.done = t.done) (hqueued : t'.queued = t.queued + 1)
  | lost (hdone : t'.done = t.done) (hqueued : t'.queued = t.queued)

/-- What may happen to the write: any retry, and a new try without exposure. -/
def Turn (t t' : Tally) : Prop := Retry t t' ∨ (t.exposure = 0 ∧ Attempt t t')

theorem Retry.exposure_le {t t' : Tally} (h : Retry t t') : t'.exposure ≤ t.exposure := by
  cases h <;> simp only [Tally.exposure] <;> omega

theorem Attempt.exposure_le {t t' : Tally} (h : Attempt t t') :
    t'.exposure ≤ t.exposure + 1 := by
  cases h <;> simp only [Tally.exposure] <;> omega

theorem Turn.exposure_le_one {t t' : Tally} (h : Turn t t') (ht : t.exposure ≤ 1) :
    t'.exposure ≤ 1 := by
  rcases h with h | ⟨hzero, h⟩
  · exact Nat.le_trans h.exposure_le ht
  · have := h.exposure_le
    omega

/-- Any number of turns. -/
abbrev Turns := Relation.ReflTransGen Turn

abbrev Retries := Relation.ReflTransGen Retry

theorem Retries.turns {t t' : Tally} (h : Retries t t') : Turns t t' :=
  Relation.ReflTransGen.mono (fun _ _ h => Or.inl h) _ _ h

theorem Retries.exposure_le {t t' : Tally} (h : Retries t t') : t'.exposure ≤ t.exposure := by
  induction h with
  | refl => exact Nat.le_refl _
  | tail _ hlast ih => exact Nat.le_trans hlast.exposure_le ih

theorem Turns.exposure_le_one {t t' : Tally} (h : Turns t t') (ht : t.exposure ≤ 1) :
    t'.exposure ≤ 1 := by
  induction h with
  | refl => exact ht
  | tail _ hlast ih => exact hlast.exposure_le_one ih

theorem at_most_once {t t' : Tally} (h : Turns t t') (ht : t.exposure = 0) : t'.done ≤ 1 := by
  have := h.exposure_le_one (by omega)
  simp only [Tally.exposure] at this
  omega

/-! ## A queue with unique keys -/

section queue

variable {ε κ : Type} [DecidableEq κ] (key : ε → κ) (f : ε → ε)

/-- Apply `f` to the entries with key `k`. -/
def updateAt (k : κ) (entries : List ε) : List ε :=
  entries.map fun e => if key e = k then f e else e

theorem mem_updateAt_of_ne {k : κ} {entries : List ε} {e : ε} (he : e ∈ entries)
    (hk : key e ≠ k) : e ∈ updateAt key f k entries :=
  List.mem_map.mpr ⟨e, he, if_neg hk⟩

theorem updateAt_keys (hf : ∀ e, key (f e) = key e) (k : κ) (entries : List ε) :
    (updateAt key f k entries).map key = entries.map key := by
  unfold updateAt
  rw [List.map_map]
  refine List.map_congr_left fun e _ => ?_
  simp only [Function.comp_apply]
  split
  · exact hf e
  · rfl

theorem updateAt_of_not_mem {k : κ} {entries : List ε} (h : k ∉ entries.map key) :
    updateAt key f k entries = entries := by
  unfold updateAt
  rw [List.map_congr_left (g := id), List.map_id]
  intro e he
  exact if_neg fun hk => h (List.mem_map.mpr ⟨e, he, hk⟩)

/-- One entry changes, so a count changes by what it says of that entry. -/
theorem countP_updateAt {entries : List ε} (hkeys : (entries.map key).Nodup) {e : ε}
    (he : e ∈ entries) (p : ε → Bool) :
    (updateAt key f (key e) entries).countP p + (if p e = true then 1 else 0)
      = entries.countP p + (if p (f e) = true then 1 else 0) := by
  induction entries with
  | nil => cases he
  | cons x xs ih =>
    simp only [List.map_cons, List.nodup_cons] at hkeys
    by_cases hx : key x = key e
    · have hxe : x = e := by
        rcases List.mem_cons.mp he with rfl | hin
        · rfl
        · exact absurd (List.mem_map.mpr ⟨e, hin, hx.symm⟩) hkeys.1
      subst hxe
      have hrest : updateAt key f (key x) xs = xs := updateAt_of_not_mem key f hkeys.1
      simp only [updateAt, List.map_cons, if_true, List.countP_cons] at hrest ⊢
      rw [hrest]
      omega
    · have hin : e ∈ xs := by
        rcases List.mem_cons.mp he with rfl | hin
        · exact absurd rfl hx
        · exact hin
      have hrest := ih hkeys.2 hin
      simp only [updateAt, List.map_cons, if_neg hx, List.countP_cons] at hrest ⊢
      omega

end queue

end once
