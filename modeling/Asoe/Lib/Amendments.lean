-- Edits laid over a record: each edit of a known key that changes the value is
-- written and noted with the value before and after. What is noted is what was
-- changed, and the rest is as it was.
import Asoe.Lib.Grouping

namespace amendments

open py grouping

variable {κ ν : Type} [DecidableEq κ] (known : κ → Bool) (read : Option ν → ν)
  (same : ν → ν → Bool)

/-- The record after the edits, and the notes: key, before, after. -/
def amend : List (κ × ν) → List (κ × ν) → List (κ × ν) × List (κ × ν × ν)
  | [], target => (target, [])
  | (k, after) :: edits, target =>
    if known k && !same (read (dict.get target k)) after then
      let (amended, notes) := amend edits (dict.set target k after)
      (amended, (k, read (dict.get target k), after) :: notes)
    else amend edits target

/-- The edits give this key another value. -/
def Amends (edits target : List (κ × ν)) (k : κ) (after : ν) : Prop :=
  known k = true ∧ dict.get edits k = some after ∧ same (read (dict.get target k)) after = false

variable {known read same} {edits target : List (κ × ν)} {k : κ} {before after : ν}

theorem amends_cons_of_ne {k' : κ} {v : ν} {target' : List (κ × ν)} (hne : k ≠ k')
    (htarget : dict.get target' k = dict.get target k) :
    Amends known read same ((k', v) :: edits) target k after ↔
      Amends known read same edits target' k after := by
  unfold Amends
  rw [dict.get_cons, if_neg hne, htarget]

theorem amends_head {v : ν} (honce : Once ((k, v) :: edits)) (target : List (κ × ν)) (after : ν) :
    (Amends known read same ((k, v) :: edits) target k after ↔
      after = v ∧ known k = true ∧ same (read (dict.get target k)) v = false) ∧
      ∀ target', ¬ Amends known read same edits target' k after := by
  have hcons : k ∉ edits.map Prod.fst ∧ Once edits := List.nodup_cons.mp honce
  refine ⟨?_, fun target' h => hcons.1 (List.mem_map_of_mem (dict.mem_of_get h.2.1))⟩
  unfold Amends
  rw [dict.get_cons, if_pos rfl]
  constructor
  · rintro ⟨hknown, hv, hother⟩
    obtain rfl := Option.some.inj hv
    exact ⟨rfl, hknown, hother⟩
  · rintro ⟨rfl, hknown, hother⟩
    exact ⟨hknown, rfl, hother⟩

/-- What is noted is what the edits change. -/
theorem mem_notes_iff (honce : Once edits) :
    (k, before, after) ∈ (amend known read same edits target).2 ↔
      before = read (dict.get target k) ∧ Amends known read same edits target k after := by
  induction edits generalizing target with
  | nil => simp [amend, Amends]
  | cons edit edits ih =>
    obtain ⟨k', v⟩ := edit
    have hrest : Once edits := (List.nodup_cons.mp honce).2
    unfold amend
    by_cases hk : k = k'
    · subst hk
      obtain ⟨hhead, htail⟩ : (Amends known read same ((k, v) :: edits) target k after ↔ _) ∧ _ :=
        amends_head honce target after
      rw [hhead]
      split
      · rename_i hamends
        rw [Bool.and_eq_true, Bool.not_eq_true'] at hamends
        dsimp only
        rw [List.mem_cons, ih hrest]
        constructor
        · rintro (heq | ⟨-, h⟩)
          · cases heq
            exact ⟨rfl, rfl, hamends⟩
          · exact absurd h (htail _)
        · rintro ⟨rfl, rfl, -⟩
          exact Or.inl rfl
      · rename_i hamends
        rw [ih hrest]
        constructor
        · rintro ⟨-, h⟩
          exact absurd h (htail _)
        · rintro ⟨-, -, hknown, hother⟩
          rw [hknown, hother] at hamends
          exact absurd rfl hamends
    · split
      · have hget : dict.get (dict.set target k' v) k = dict.get target k :=
          dict.get_set_of_ne _ _ hk
        dsimp only
        rw [List.mem_cons, ih hrest, hget, amends_cons_of_ne hk hget]
        constructor
        · rintro (heq | h)
          · cases heq
            exact absurd rfl hk
          · exact h
        · exact Or.inr
      · rw [ih hrest, amends_cons_of_ne hk rfl]

/-- A key has the value that the edits give it, or the one it had. -/
theorem get_amended (honce : Once edits) :
    (∀ after, Amends known read same edits target k after →
      dict.get (amend known read same edits target).1 k = some after) ∧
      ((∀ after, ¬ Amends known read same edits target k after) →
        dict.get (amend known read same edits target).1 k = dict.get target k) := by
  induction edits generalizing target with
  | nil => simp [amend, Amends]
  | cons edit edits ih =>
    obtain ⟨k', v⟩ := edit
    have hrest : Once edits := (List.nodup_cons.mp honce).2
    unfold amend
    by_cases hk : k = k'
    · subst hk
      have hhead : ∀ after, (Amends known read same ((k, v) :: edits) target k after ↔ _) ∧ _ :=
        fun after => amends_head honce target after
      split
      · rename_i hamends
        rw [Bool.and_eq_true, Bool.not_eq_true'] at hamends
        have hlast : dict.get (amend known read same edits (dict.set target k v)).1 k = some v := by
          rw [(ih hrest).2 fun after => (hhead after).2 _, dict.get_set_self]
        refine ⟨fun after h => ?_, fun h => absurd ((hhead v).1.mpr ⟨rfl, hamends⟩) (h v)⟩
        rw [((hhead after).1.mp h).1]
        exact hlast
      · rename_i hamends
        rw [(ih hrest).2 fun after => (hhead after).2 _]
        refine ⟨fun after h => ?_, fun _ => rfl⟩
        obtain ⟨-, hknown, hother⟩ := (hhead after).1.mp h
        rw [hknown, hother] at hamends
        exact absurd rfl hamends
    · split
      · have hget : dict.get (dict.set target k' v) k = dict.get target k :=
          dict.get_set_of_ne _ _ hk
        simp only [amends_cons_of_ne hk hget]
        rw [← hget]
        exact ih hrest
      · simp only [amends_cons_of_ne hk (rfl : dict.get target k = dict.get target k)]
        exact ih hrest

theorem nodup_notes (honce : Once edits) :
    ((amend known read same edits target).2.map Prod.fst).Nodup := by
  induction edits generalizing target with
  | nil => exact List.nodup_nil
  | cons edit edits ih =>
    obtain ⟨k', v⟩ := edit
    have hcons : k' ∉ edits.map Prod.fst ∧ Once edits := List.nodup_cons.mp honce
    unfold amend
    split
    · refine List.nodup_cons.mpr ⟨fun hmem => ?_, ih hcons.2⟩
      obtain ⟨⟨k, before, after⟩, hnote, rfl⟩ := List.mem_map.mp hmem
      have hamends := ((mem_notes_iff hcons.2).mp hnote).2
      exact hcons.1 (List.mem_map_of_mem (dict.mem_of_get hamends.2.1))
    · exact ih hcons.2

end amendments
