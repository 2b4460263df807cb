-- A memo: the answer to a question is kept under a key, and the key need not
-- tell the questions apart. What is kept is the first answer under its key.
import Asoe.Lib.PyValue

namespace memo

open py

variable {ι κ ν ε : Type} [DecidableEq κ] (key : ι → κ) (compute : ι → Except ε ν)

/-- A question is answered by what is kept, or else computed, and kept when
that succeeds. -/
def ask (cache : List (κ × ν)) (i : ι) : Except ε ν × List (κ × ν) :=
  match dict.get cache (key i) with
  | some v => (.ok v, cache)
  | none =>
    match compute i with
    | .ok v => (.ok v, dict.set cache (key i) v)
    | .error e => (.error e, cache)

/-- The cache after some questions. -/
def after (cache : List (κ × ν)) (asked : List ι) : List (κ × ν) :=
  asked.foldl (fun cache i => (ask key compute cache i).2) cache

/-- The first answer that was computed under a key. -/
def first (asked : List ι) (k : κ) : Option ν :=
  asked.findSome? fun i => if key i = k then (compute i).toOption else none

/-- What is answered when `kept` is in the cache. -/
def answer (kept : Option ν) (computed : Except ε ν) : Except ε ν :=
  match kept with
  | some v => .ok v
  | none => computed

theorem ask_fst (cache : List (κ × ν)) (i : ι) :
    (ask key compute cache i).1 = answer (dict.get cache (key i)) (compute i) := by
  unfold ask answer
  cases dict.get cache (key i) with
  | some v => rfl
  | none =>
    cases compute i with
    | ok v => rfl
    | error e => rfl

/-- One question fills its own key, if nothing is kept there. -/
theorem get_ask (cache : List (κ × ν)) (i : ι) (k : κ) :
    dict.get (ask key compute cache i).2 k =
      (dict.get cache k).or (if key i = k then (compute i).toOption else none) := by
  unfold ask
  by_cases hk : key i = k
  · subst hk
    cases hget : dict.get cache (key i) with
    | some v => simp [hget]
    | none =>
      cases compute i with
      | ok v => simp [dict.get_set_self, Except.toOption]
      | error e => simp [hget, Except.toOption]
  · cases dict.get cache (key i) with
    | some v => simp [hk]
    | none =>
      cases compute i with
      | ok v => simp [hk, dict.get_set_of_ne _ _ (Ne.symm hk)]
      | error e => simp [hk]

theorem get_after (cache : List (κ × ν)) (asked : List ι) (k : κ) :
    dict.get (after key compute cache asked) k =
      (dict.get cache k).or (first key compute asked k) := by
  induction asked generalizing cache with
  | nil => simp [after, first]
  | cons i asked ih =>
    have hstep : after key compute cache (i :: asked) =
        after key compute (ask key compute cache i).2 asked := rfl
    rw [hstep, ih, get_ask, Option.or_assoc, first, first, List.findSome?_cons]
    cases (if key i = k then (compute i).toOption else none) with
    | some v => rfl
    | none => rfl

/-- The question whose answer is given to `i` after some questions: the first
one with its key that was answered, or `i` itself. -/
def source (asked : List ι) (i : ι) : ι :=
  (asked.find? fun j => key j = key i && (compute j).toOption.isSome).getD i

theorem answer_first (asked : List ι) (i : ι) :
    answer (first key compute asked (key i)) (compute i) =
      compute (source key compute asked i) := by
  unfold first source
  induction asked with
  | nil => rfl
  | cons j asked ih =>
    rw [List.findSome?_cons, List.find?_cons]
    by_cases hkey : key j = key i
    · cases hj : compute j with
      | ok v => simp [hkey, answer, hj, Except.toOption]
      | error e => simpa [hkey, hj, Except.toOption] using ih
    · simpa [hkey] using ih

theorem ask_after (asked : List ι) (i : ι) :
    (ask key compute (after key compute [] asked) i).1 =
      compute (source key compute asked i) := by
  rw [ask_fst, get_after]
  exact answer_first key compute asked i

theorem source_cases (asked : List ι) (i : ι) :
    source key compute asked i = i ∨
      (source key compute asked i ∈ asked ∧ key (source key compute asked i) = key i) := by
  unfold source
  cases hfind : asked.find? fun j => key j = key i && (compute j).toOption.isSome with
  | none => exact Or.inl rfl
  | some j =>
    have hj := List.find?_some hfind
    simp only [Bool.and_eq_true, decide_eq_true_eq] at hj
    exact Or.inr ⟨List.mem_of_find?_eq_some hfind, hj.1⟩

theorem key_source (asked : List ι) (i : ι) : key (source key compute asked i) = key i := by
  rcases source_cases key compute asked i with h | h
  · rw [h]
  · exact h.2

end memo
