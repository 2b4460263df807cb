-- The values of Python that come from JSON, and dictionaries that keep
-- the order of insertion, as the handlers and the recipes read and write
-- them: truth, equality, text and conversion.
import Asoe.Lib.PyFloat
import Mathlib.Data.Int.Log

namespace py

/-! ## Dictionaries -/

namespace dict

variable {κ ν : Type} [DecidableEq κ]

/-- `d.get(k)`. -/
def get (d : List (κ × ν)) (k : κ) : Option ν := d.lookup k

/-- `d[k] = v`: a key that is there keeps its place. -/
def set : List (κ × ν) → κ → ν → List (κ × ν)
  | [], k, v => [(k, v)]
  | (k', v') :: d, k, v => if k' = k then (k, v) :: d else (k', v') :: set d k v

/-- `d.pop(k, None)`. -/
def pop (d : List (κ × ν)) (k : κ) : List (κ × ν) := d.filter (fun p => !decide (p.1 = k))

/-- `d.update(e)`. -/
def update (d e : List (κ × ν)) : List (κ × ν) := e.foldl (fun d p => set d p.1 p.2) d

@[simp] theorem get_nil (k : κ) : get ([] : List (κ × ν)) k = none := rfl

theorem get_cons (k k' : κ) (v : ν) (d : List (κ × ν)) :
    get ((k', v) :: d) k = if k = k' then some v else get d k := by
  unfold get
  rw [List.lookup_cons]
  by_cases h : k = k'
  · simp [h]
  · simp [h, beq_eq_false_iff_ne.mpr h]

@[simp] theorem get_set_self (d : List (κ × ν)) (k : κ) (v : ν) :
    get (set d k v) k = some v := by
  induction d with
  | nil => simp [set, get_cons]
  | cons p d ih =>
    simp only [set]
    split
    · simp [get_cons]
    · rename_i h
      rw [get_cons, if_neg (Ne.symm h), ih]

theorem get_set_of_ne (d : List (κ × ν)) {k k' : κ} (v : ν) (h : k ≠ k') :
    get (set d k' v) k = get d k := by
  induction d with
  | nil => simp [set, get_cons, h]
  | cons p d ih =>
    obtain ⟨a, b⟩ := p
    simp only [set]
    split
    · rename_i hk
      subst hk
      simp [get_cons, h]
    · simp only [get_cons, ih]

theorem set_of_none {d : List (κ × ν)} {k : κ} (v : ν) (h : get d k = none) :
    set d k v = d ++ [(k, v)] := by
  induction d with
  | nil => rfl
  | cons p d ih =>
    obtain ⟨a, b⟩ := p
    rw [get_cons] at h
    by_cases ha : k = a
    · simp [ha] at h
    · rw [if_neg ha] at h
      rw [set, if_neg (Ne.symm ha), ih h]
      rfl

theorem set_of_get {d : List (κ × ν)} {k : κ} {v : ν} (h : get d k = some v) : set d k v = d := by
  induction d with
  | nil => cases h
  | cons p d ih =>
    obtain ⟨a, b⟩ := p
    rw [get_cons] at h
    by_cases ha : k = a
    · subst ha
      simp only [if_true, Option.some.injEq] at h
      simp [set, h]
    · rw [if_neg ha] at h
      simp [set, Ne.symm ha, ih h]

/-- A key that is there has its place. -/
theorem split_of_get {d : List (κ × ν)} {k : κ} {v : ν} (h : get d k = some v) :
    ∃ pre post, d = pre ++ (k, v) :: post ∧ ∀ v', set d k v' = pre ++ (k, v') :: post := by
  induction d with
  | nil => cases h
  | cons p d ih =>
    obtain ⟨a, b⟩ := p
    rw [get_cons] at h
    by_cases ha : k = a
    · subst ha
      simp only [if_true, Option.some.injEq] at h
      subst h
      exact ⟨[], d, rfl, fun v' => by simp [set]⟩
    · rw [if_neg ha] at h
      obtain ⟨pre, post, hd, hset⟩ := ih h
      refine ⟨(a, b) :: pre, post, by rw [hd]; rfl, fun v' => ?_⟩
      rw [set, if_neg (Ne.symm ha), hset]
      rfl

theorem mem_set {d : List (κ × ν)} {k : κ} {v : ν} {x : κ × ν} (h : x ∈ set d k v) :
    x = (k, v) ∨ x ∈ d := by
  induction d with
  | nil => exact Or.inl (by simpa [set] using h)
  | cons p d ih =>
    obtain ⟨a, b⟩ := p
    unfold set at h
    split at h
    · rcases List.mem_cons.mp h with h | h
      · exact Or.inl h
      · exact Or.inr (List.mem_cons_of_mem _ h)
    · rcases List.mem_cons.mp h with h | h
      · exact Or.inr (by rw [h]; exact List.mem_cons_self)
      · rcases ih h with h | h
        · exact Or.inl h
        · exact Or.inr (List.mem_cons_of_mem _ h)

/-- What is stored under another key stays. -/
theorem mem_set_of_ne {d : List (κ × ν)} {k : κ} {v : ν} {x : κ × ν} (h : x ∈ d)
    (hne : x.1 ≠ k) : x ∈ set d k v := by
  induction d with
  | nil => cases h
  | cons p d ih =>
    obtain ⟨a, b⟩ := p
    unfold set
    split
    · rename_i ha
      rcases List.mem_cons.mp h with h | h
      · rw [h] at hne
        exact absurd ha hne
      · exact List.mem_cons_of_mem _ h
    · rcases List.mem_cons.mp h with h | h
      · rw [h]
        exact List.mem_cons_self
      · exact List.mem_cons_of_mem _ (ih h)

theorem mem_of_get {d : List (κ × ν)} {k : κ} {v : ν} (h : get d k = some v) : (k, v) ∈ d := by
  obtain ⟨pre, post, hd, -⟩ := split_of_get h
  rw [hd]
  exact List.mem_append_right _ List.mem_cons_self

@[simp] theorem set_set (d : List (κ × ν)) (k : κ) (v v' : ν) :
    set (set d k v) k v' = set d k v' := by
  induction d with
  | nil => simp [set]
  | cons p d ih =>
    obtain ⟨a, b⟩ := p
    by_cases h : a = k
    · simp [set, h]
    · simp [set, h, ih]

@[simp] theorem get_pop_self (d : List (κ × ν)) (k : κ) : get (pop d k) k = none := by
  induction d with
  | nil => rfl
  | cons p d ih =>
    obtain ⟨a, b⟩ := p
    unfold pop at ih ⊢
    by_cases h : a = k
    · simpa [h] using ih
    · simpa [h, get_cons, Ne.symm h] using ih

theorem get_pop_of_ne (d : List (κ × ν)) {k k' : κ} (h : k ≠ k') :
    get (pop d k') k = get d k := by
  induction d with
  | nil => rfl
  | cons p d ih =>
    obtain ⟨a, b⟩ := p
    unfold pop at ih ⊢
    by_cases ha : a = k'
    · subst ha
      simpa [get_cons, h] using ih
    · simp [ha, get_cons, ih]

end dict

/-! ## Values -/

inductive PyVal where
  | none
  | bool (b : Bool)
  | int (n : ℤ)
  | float (x : PyFloat)
  | str (s : String)
  | list (xs : List PyVal)
  | dict (d : List (String × PyVal))

abbrev PyDict := List (String × PyVal)

/-- An exception of Python: its class and its text. -/
structure PyErr where
  kind : String
  text : String
  deriving DecidableEq

namespace PyVal

mutual

def decEq : (v w : PyVal) → Decidable (v = w)
  | .none, .none => isTrue rfl
  | .bool a, .bool b => decidable_of_iff (a = b) (by simp)
  | .int a, .int b => decidable_of_iff (a = b) (by simp)
  | .float a, .float b => decidable_of_iff (a = b) (by simp)
  | .str a, .str b => decidable_of_iff (a = b) (by simp)
  | .list a, .list b =>
    match decEqList a b with
    | isTrue h => isTrue (by rw [h])
    | isFalse h => isFalse (by simpa using h)
  | .dict a, .dict b =>
    match decEqDict a b with
    | isTrue h => isTrue (by rw [h])
    | isFalse h => isFalse (by simpa using h)
  | .none, .bool _ | .none, .int _ | .none, .float _ | .none, .str _ | .none, .list _
  | .none, .dict _ | .bool _, .none | .bool _, .int _ | .bool _, .float _ | .bool _, .str _
  | .bool _, .list _ | .bool _, .dict _ | .int _, .none | .int _, .bool _ | .int _, .float _
  | .int _, .str _ | .int _, .list _ | .int _, .dict _ | .float _, .none | .float _, .bool _
  | .float _, .int _ | .float _, .str _ | .float _, .list _ | .float _, .dict _ | .str _, .none
  | .str _, .bool _ | .str _, .int _ | .str _, .float _ | .str _, .list _ | .str _, .dict _
  | .list _, .none | .list _, .bool _ | .list _, .int _ | .list _, .float _ | .list _, .str _
  | .list _, .dict _ | .dict _, .none | .dict _, .bool _ | .dict _, .int _ | .dict _, .float _
  | .dict _, .str _ | .dict _, .list _ => isFalse (by simp)

def decEqList : (v w : List PyVal) → Decidable (v = w)
  | [], [] => isTrue rfl
  | [], _ :: _ | _ :: _, [] => isFalse (by simp)
  | a :: v, b :: w =>
    match decEq a b, decEqList v w with
    | isTrue h, isTrue h' => isTrue (by rw [h, h'])
    | isFalse h, _ => isFalse (by simp [h])
    | _, isFalse h' => isFalse (by simp [h'])

def decEqDict : (v w : List (String × PyVal)) → Decidable (v = w)
  | [], [] => isTrue rfl
  | [], _ :: _ | _ :: _, [] => isFalse (by simp)
  | (k, a) :: v, (l, b) :: w =>
    match (inferInstance : Decidable (k = l)), decEq a b, decEqDict v w with
    | isTrue hk, isTrue h, isTrue h' => isTrue (by rw [hk, h, h'])
    | isFalse hk, _, _ => isFalse (by simp [hk])
    | _, isFalse h, _ => isFalse (by simp [h])
    | _, _, isFalse h' => isFalse (by simp [h'])

end

instance : DecidableEq PyVal := decEq

/-- Truth of a value, as `if v` reads it. -/
def truthy : PyVal → Bool
  | .none => false
  | .bool b => b
  | .int n => n != 0
  | .float x => x != .fin 0
  | .str s => s != ""
  | .list xs => !xs.isEmpty
  | .dict d => !d.isEmpty

/-- `v or w`. -/
def or (v w : PyVal) : PyVal := if v.truthy then v else w

/-- The value that `d.get(k)` has, `None` when the key is not there. -/
def ofOption : Option PyVal → PyVal
  | some v => v
  | Option.none => .none

theorem ofOption_eq_str {o : Option PyVal} {s : String} :
    ofOption o = .str s ↔ o = some (.str s) := by
  cases o <;> simp [ofOption]

/-- The number a value stands for in a comparison: a truth value counts as
an integer. -/
def number? : PyVal → Option (ℤ ⊕ PyFloat)
  | .bool b => some (.inl (if b then 1 else 0))
  | .int n => some (.inl n)
  | .float x => some (.inr x)
  | _ => Option.none

def eqNumber : ℤ ⊕ PyFloat → ℤ ⊕ PyFloat → Bool
  | .inl a, .inl b => a = b
  | .inl a, .inr (.fin q) | .inr (.fin q), .inl a => (a : ℚ) = q
  | .inr x, .inr y => x.eq y
  | _, _ => false

mutual

/-- `v == w` of Python. -/
def eq : PyVal → PyVal → Bool
  | .none, .none => true
  | .str a, .str b => a = b
  | .list a, .list b => eqList a b
  | .dict a, .dict b => a.length = b.length && subDict a b
  | v, w =>
    match number? v, number? w with
    | some a, some b => eqNumber a b
    | _, _ => false

def eqList : List PyVal → List PyVal → Bool
  | [], [] => true
  | a :: v, b :: w => eq a b && eqList v w
  | _, _ => false

/-- Each key of `v` is in `w`, with an equal value. -/
def subDict : List (String × PyVal) → List (String × PyVal) → Bool
  | [], _ => true
  | (k, a) :: v, w =>
    (match w.lookup k with
      | some b => eq a b
      | Option.none => false) && subDict v w

end

theorem eq_str {v : PyVal} {s : String} : v.eq (.str s) = true ↔ v = .str s := by
  cases v <;> simp [eq, number?]

/-- `isinstance(v, (int, float))` and then `float(v)`. A value of another
type is `none`; an integer past the largest float raises. -/
def numberAsFloat? (v : PyVal) : Except PyErr (Option PyFloat) :=
  match number? v with
  | some (.inl n) =>
    match PyFloat.ofInt? n with
    | some x => .ok (some x)
    | Option.none => .error ⟨"OverflowError", "int too large to convert to float"⟩
  | some (.inr x) => .ok (some x)
  | Option.none => .ok Option.none

end PyVal

end py
