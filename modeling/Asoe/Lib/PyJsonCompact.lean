-- The JSON text of an object without blanks, as `json.dumps` writes it with
-- `separators=(",", ":")`, for values that are no containers. `json.loads`
-- reads it back.
import Asoe.Lib.PyJsonRead

namespace py.json

/-! ## Writing -/

def compactMember (p : String × List Char) : List Char := quoted p.1 ++ ':' :: p.2

/-- The members one after the other, with a comma between them. -/
def compactMembers : List (String × List Char) → List Char
  | [] => []
  | [p] => compactMember p
  | p :: q :: ms => compactMember p ++ ',' :: compactMembers (q :: ms)

/-- `json.dumps(d, separators=(",", ":"))`. -/
def dumps_compact (d : PyDict) : List Char :=
  '\x7b' :: compactMembers (dumpsDict false d) ++ ['\x7d']

/-! ## Reading back -/

/-- A member whose value can be read is read up to what stops it. -/
theorem pairs?_member {k : String} {v : PyVal} (h : loadable v = true) {n : ℕ} {r : List Char}
    (hn : 2 * (dumps false v).length ≤ n) (hr : Stops r) :
    pairs? (n + 1) (compactMember (k, dumps false v) ++ r) =
      if r.head? = some ',' then
        (pairs? n (skip r.tail)).map fun p => ((k, v) :: p.1, p.2)
      else if r.head? = some '\x7d' then some ([(k, v)], r.tail)
      else none := by
  have hv := value?_dumps v h n hn hr
  have hk := string?_quoted k (':' :: (dumps false v ++ r))
  have htext : compactMember (k, dumps false v) ++ r =
      '"' :: (k.toList.flatMap escape ++ '"' :: ':' :: (dumps false v ++ r)) := by
    simp [compactMember, quoted]
  obtain ⟨c, cs, hcons, hblank, -, -⟩ := head_dumps h
  rw [htext, pairs?, List.head?_cons, if_pos rfl, List.tail_cons, hk]
  simp only [skip_cons (show isBlank ':' = false by decide), List.head?_cons, if_true,
    List.tail_cons]
  rw [hcons, List.cons_append] at hv ⊢
  rw [skip_cons hblank, hv]
  simp [skip_stops hr]

theorem head_compactMembers (p : String × List Char) (ms : List (String × List Char))
    (r : List Char) : ∃ cs, compactMembers (p :: ms) ++ r = '"' :: cs := by
  cases ms with
  | nil => exact ⟨_, by simp [compactMembers, compactMember, quoted]; rfl⟩
  | cons q ms => exact ⟨_, by simp [compactMembers, compactMember, quoted]; rfl⟩

theorem pairs?_compact : (p : String × PyVal) → (d : PyDict) → loadableDict (p :: d) = true →
    (n : ℕ) → 2 * (compactMembers (dumpsDict false (p :: d))).length + 1 ≤ n → (r : List Char) →
      pairs? n (compactMembers (dumpsDict false (p :: d)) ++ '\x7d' :: r) = some (p :: d, r)
  | (k, v), [], h, n, hn, r => by
    obtain ⟨m, rfl⟩ : ∃ m, n = m + 1 := ⟨n - 1, by omega⟩
    simp only [loadableDict, Bool.and_true] at h
    simp only [dumpsDict, compactMembers, compactMember, List.length_append, List.length_cons] at hn
    rw [dumpsDict, dumpsDict, compactMembers, pairs?_member h (by omega) (by simp [Stops])]
    simp
  | (k, v), (k', v') :: d, h, n, hn, r => by
    obtain ⟨m, rfl⟩ : ∃ m, n = m + 1 := ⟨n - 1, by omega⟩
    rw [loadableDict, Bool.and_eq_true] at h
    have hstop :
        Stops (',' :: (compactMembers (dumpsDict false ((k', v') :: d)) ++ '\x7d' :: r)) := by
      simp [Stops]
    have htext : compactMembers (dumpsDict false ((k, v) :: (k', v') :: d)) ++ '\x7d' :: r =
        compactMember (k, dumps false v) ++
          ',' :: (compactMembers (dumpsDict false ((k', v') :: d)) ++ '\x7d' :: r) := by
      simp [dumpsDict, compactMembers]
    have hlength : (dumps false v).length +
        (compactMembers (dumpsDict false ((k', v') :: d))).length + 1 ≤
          (compactMembers (dumpsDict false ((k, v) :: (k', v') :: d))).length := by
      simp [dumpsDict, compactMembers, compactMember]
      omega
    have hrest := pairs?_compact (k', v') d h.2 m (by omega) r
    obtain ⟨cs, hcs⟩ := head_compactMembers (k', dumps false v') (dumpsDict false d) ('\x7d' :: r)
    have hquote : skip (compactMembers (dumpsDict false ((k', v') :: d)) ++ '\x7d' :: r) =
        compactMembers (dumpsDict false ((k', v') :: d)) ++ '\x7d' :: r := by
      rw [dumpsDict, hcs, skip_cons (by decide)]
    rw [htext, pairs?_member h.1 (by omega) hstop, List.head?_cons, if_pos rfl, List.tail_cons,
      hquote, hrest]
    rfl

/-- `json.loads` gives back the object that was written. -/
theorem loads_dumps_compact {d : PyDict} (h : loadable (.dict d) = true) :
    loads (dumps_compact d) = some (.dict d) := by
  simp only [loadable, Bool.and_eq_true, decide_eq_true_eq] at h
  cases d with
  | nil => decide
  | cons p d =>
    have hpairs := pairs?_compact p d h.2 (2 * (dumps_compact (p :: d)).length + 1)
      (by simp [dumps_compact]; omega) []
    obtain ⟨cs, hcs⟩ := head_compactMembers (p.1, dumps false p.2) (dumpsDict false d) ['\x7d']
    have htext : dumps_compact (p :: d) =
        '\x7b' :: (compactMembers (dumpsDict false (p :: d)) ++ ['\x7d']) := rfl
    have hcs' : compactMembers (dumpsDict false (p :: d)) ++ ['\x7d'] = '"' :: cs := hcs
    have hvalue : value? (2 * (dumps_compact (p :: d)).length + 1 + 1) (dumps_compact (p :: d)) =
        some (.dict (p :: d), []) := by
      generalize 2 * (dumps_compact (p :: d)).length + 1 = n at hpairs ⊢
      rw [hcs'] at hpairs
      rw [htext, hcs']
      simp only [value?, Char.reduceEq, if_false, if_true]
      rw [skip_cons (by decide), List.head?_cons, if_neg (by simp), hpairs]
      simp [update_nodup h.1]
    have hskip : skip (dumps_compact (p :: d)) = dumps_compact (p :: d) := by
      rw [htext, skip_cons (by decide)]
    rw [loads, hskip, hvalue]
    rfl

/-! ## The text is ASCII -/

theorem ascii_compactMembers {ms : List (String × List Char)} (h : ∀ p ∈ ms, Ascii p.2) :
    Ascii (compactMembers ms) := by
  have hmember : ∀ p ∈ ms, Ascii (compactMember p) := fun p hp =>
    ascii_append (ascii_quoted p.1) (ascii_cons (by decide) (h p hp))
  induction ms with
  | nil => exact ascii_nil
  | cons p ms ih =>
    have hp := hmember p List.mem_cons_self
    cases ms with
    | nil => exact hp
    | cons q ms =>
      exact ascii_append hp (ascii_cons (by decide)
        (ih (fun p hp => h p (List.mem_cons_of_mem _ hp))
          fun p hp => hmember p (List.mem_cons_of_mem _ hp)))

theorem ascii_dumps_compact {d : PyDict} (h : loadable (.dict d) = true) :
    Ascii (dumps_compact d) := by
  simp only [loadable, Bool.and_eq_true, decide_eq_true_eq] at h
  exact ascii_append (ascii_cons (by decide) (ascii_compactMembers (ascii_dumpsDict d h.2)))
    (ascii_cons (by decide) ascii_nil)

end py.json
