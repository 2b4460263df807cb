-- A table beside the log of its edits. Each edit gives one key a value or
-- takes it away; the log tells the table when replaying the edits in their
-- order gives back the key and the value of each row.
import Asoe.Lib.Grouping

namespace tablelog

open py grouping

variable {κ ν ρ : Type} [DecidableEq κ]

/-! ## Replay -/

/-- A key with its new value, or with none when it goes. -/
abbrev Edit (κ ν : Type) := κ × Option ν

def edit (m : List (κ × ν)) (e : Edit κ ν) : List (κ × ν) :=
  match e.2 with
  | some v => dict.set m e.1 v
  | none => dict.pop m e.1

def replay (es : List (Edit κ ν)) : List (κ × ν) := es.foldl edit []

theorem replay_concat (es : List (Edit κ ν)) (e : Edit κ ν) :
    replay (es ++ [e]) = edit (replay es) e := by
  rw [replay, List.foldl_append]
  rfl

theorem once_edit {m : List (κ × ν)} (h : Once m) (e : Edit κ ν) : Once (edit m e) := by
  unfold edit
  split
  · exact h.set _ _
  · exact h.filter _

theorem once_replay (es : List (Edit κ ν)) : Once (replay es) := by
  have hfold : ∀ m : List (κ × ν), Once m → Once (es.foldl edit m) := by
    induction es with
    | nil => exact fun m h => h
    | cons e es ih => exact fun m h => ih _ (once_edit h e)
  exact hfold [] List.nodup_nil

/-- A key that is there once gets its value where it stands. -/
theorem set_eq_map {m : List (κ × ν)} (h : Once m) {k : κ} (hk : k ∈ m.map Prod.fst) (v : ν) :
    dict.set m k v = m.map fun p => if p.1 = k then (k, v) else p := by
  induction m with
  | nil => cases hk
  | cons p m ih =>
    obtain ⟨a, b⟩ := p
    have hcons : a ∉ m.map Prod.fst ∧ Once m := List.nodup_cons.mp h
    unfold dict.set
    by_cases ha : a = k
    · subst ha
      have hrest : (m.map fun p => if p.1 = a then (a, v) else p) = m.map fun p => p := by
        refine List.map_congr_left fun p hp => if_neg ?_
        rintro rfl
        exact hcons.1 (List.mem_map_of_mem hp)
      rw [if_pos rfl, List.map_cons, if_pos rfl, hrest, List.map_id']
    · have hk : k ∈ m.map Prod.fst := (List.mem_cons.mp hk).resolve_left (Ne.symm ha)
      rw [if_neg ha, List.map_cons, if_neg ha, ih hcons.2 hk]

/-! ## Tables -/

/-- The log tells the table: its replay is the rows, with their keys and
values. -/
def Tells (entry : ρ → κ × ν) (rows : List ρ) (es : List (Edit κ ν)) : Prop :=
  (rows.map entry).Perm (replay es)

section tells

variable {entry : ρ → κ × ν} {rows : List ρ} {es : List (Edit κ ν)} {k : κ} {v : ν}

theorem Tells.inserted (h : Tells entry rows es) {row : ρ} (hrow : entry row = (k, v))
    (hnew : ∀ r ∈ rows, (entry r).1 ≠ k) : Tells entry (rows ++ [row]) (es ++ [(k, some v)]) := by
  have hnone : dict.get (replay es) k = none := by
    cases hget : dict.get (replay es) k with
    | none => rfl
    | some w =>
      have hmem := h.mem_iff.mpr (dict.mem_of_get hget)
      obtain ⟨r, hr, heq⟩ := List.mem_map.mp hmem
      exact absurd (congrArg Prod.fst heq) (hnew r hr)
  rw [Tells, List.map_append, replay_concat]
  show (rows.map entry ++ [entry row]).Perm (dict.set (replay es) k v)
  rw [dict.set_of_none v hnone, hrow]
  exact h.append_right _

section place

variable {p : ρ → Prop} [DecidablePred p]

/-- The rows at the place of the key, and no others, get its value. -/
theorem Tells.updated (h : Tells entry rows es) {f : ρ → ρ}
    (hplace : ∀ r ∈ rows, p r ↔ (entry r).1 = k) (hvalue : ∀ r ∈ rows, p r → entry (f r) = (k, v))
    (hthere : ∃ r ∈ rows, p r) :
    Tells entry (rows.map fun r => if p r then f r else r) (es ++ [(k, some v)]) := by
  obtain ⟨r, hr, hp⟩ := hthere
  have hk : k ∈ (replay es).map Prod.fst := by
    rw [← (h.map Prod.fst).mem_iff, List.map_map]
    exact List.mem_map.mpr ⟨r, hr, (hplace r hr).mp hp⟩
  have hrows : (rows.map fun r => if p r then f r else r).map entry =
      (rows.map entry).map fun e => if e.1 = k then (k, v) else e := by
    rw [List.map_map, List.map_map]
    refine List.map_congr_left fun r hr => ?_
    simp only [Function.comp_apply]
    by_cases hp : p r
    · rw [if_pos hp, if_pos ((hplace r hr).mp hp), hvalue r hr hp]
    · rw [if_neg hp, if_neg fun hk => hp ((hplace r hr).mpr hk)]
  rw [Tells, hrows, replay_concat]
  show (List.map _ _).Perm (dict.set (replay es) k v)
  rw [set_eq_map (once_replay es) hk]
  exact h.map _

theorem Tells.removed (h : Tells entry rows es) (hplace : ∀ r ∈ rows, p r ↔ (entry r).1 = k) :
    Tells entry (rows.filter fun r => ¬ p r) (es ++ [(k, none)]) := by
  have hrows : (rows.filter fun r => ¬ p r).map entry =
      (rows.map entry).filter fun e => !decide (e.1 = k) := by
    rw [List.filter_map]
    congr 1
    refine List.filter_congr fun r hr => ?_
    simp [hplace r hr]
  rw [Tells, hrows, replay_concat]
  exact h.filter _

end place

end tells

end tablelog
