-- A read-through cache. An entry is filled from its source when it is first
-- asked for, and dropped when the source may have changed. The cache is
-- coherent when each entry is what its source gives, but for the keys whose
-- entries a write in flight has still to drop.
import Asoe.Lib.PyValue
import Asoe.Lib.Runs

namespace readthrough

open py runs

variable {κ ν : Type} [DecidableEq κ]

/-! ## One key -/

/-- What a reader is answered: the entry, else what the source gives. -/
def answer (cache : List (κ × ν)) (source : κ → ν) (k : κ) : ν :=
  (dict.get cache k).getD (source k)

/-- There is no entry of the key, or it is what the source gives. -/
def Current (cache : List (κ × ν)) (source : κ → ν) (k : κ) : Prop :=
  ∀ v, dict.get cache k = some v → v = source k

section keys

variable {cache : List (κ × ν)} {source source' : κ → ν} {k k' : κ} {v : ν}

theorem answer_eq_iff : answer cache source k = source k ↔ Current cache source k := by
  unfold answer Current
  rcases dict.get cache k with _ | w
  · simp
  · simp

theorem current_of_none (h : dict.get cache k = none) : Current cache source k := by
  intro v hv
  cases h.symm.trans hv

theorem current_congr (h : source k = source' k) :
    Current cache source k ↔ Current cache source' k := by
  unfold Current
  rw [h]

theorem current_fill : Current (dict.set cache k v) source k ↔ v = source k := by
  unfold Current
  rw [dict.get_set_self]
  exact ⟨fun h => h v rfl, fun h w hw => Option.some.inj hw ▸ h⟩

theorem current_fill_of_ne (h : k' ≠ k) :
    Current (dict.set cache k v) source k' ↔ Current cache source k' := by
  unfold Current
  rw [dict.get_set_of_ne _ _ h]

theorem current_drop : Current (dict.pop cache k) source k :=
  current_of_none (dict.get_pop_self _ _)

theorem current_drop_of_ne (h : k' ≠ k) :
    Current (dict.pop cache k) source k' ↔ Current cache source k' := by
  unfold Current
  rw [dict.get_pop_of_ne _ h]

theorem current_write (h : Current cache source k) :
    Current cache source' k ↔ dict.get cache k = none ∨ source' k = source k := by
  unfold Current at h ⊢
  rcases hget : dict.get cache k with _ | w
  · simp
  · have hw : w = source k := h w hget
    simp [hw, eq_comm]

end keys

/-! ## All keys -/

/-- Each key is current whose entry no write in flight has still to drop. -/
def Coherent (cache : List (κ × ν)) (source : κ → ν) (Owed : κ → Prop) : Prop :=
  ∀ k, ¬ Owed k → Current cache source k

section coherence

variable {cache : List (κ × ν)} {source source' : κ → ν} {Owed Owed' : κ → Prop} {k : κ} {v : ν}

theorem coherent_nil : Coherent ([] : List (κ × ν)) source Owed := fun _ _ =>
  current_of_none rfl

theorem Coherent.mono (h : Coherent cache source Owed) (howed : ∀ k, Owed k → Owed' k) :
    Coherent cache source Owed' := fun k hk => h k fun hno => hk (howed k hno)

theorem coherent_fill (h : Coherent cache source Owed) :
    Coherent (dict.set cache k v) source Owed ↔ Owed k ∨ v = source k := by
  constructor
  · intro h'
    by_cases hk : Owed k
    · exact Or.inl hk
    · exact Or.inr (current_fill.mp (h' k hk))
  · intro hv k' hk'
    by_cases hne : k' = k
    · subst hne
      exact current_fill.mpr (hv.resolve_left hk')
    · exact (current_fill_of_ne hne).mpr (h k' hk')

theorem coherent_write (h : Coherent cache source Owed) :
    Coherent cache source' Owed ↔
      ∀ k, ¬ Owed k → dict.get cache k = none ∨ source' k = source k :=
  forall_congr' fun k => forall_congr' fun hk => current_write (h k hk)

end coherence

end readthrough
