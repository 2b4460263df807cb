-- The value of a JSON text, as `json.loads` reads it: `none` where Python
-- raises.
import Asoe.Lib.PyJson
import Mathlib.Data.List.TakeWhile

namespace py.json

/-! ## Numbers and words -/

def isNumeric (c : Char) : Bool := c.isDigit || c ∈ ['-', '+', '.', 'e', 'E']

/-- Digits without a zero in front. -/
def isWhole (ds : List Char) : Bool :=
  !ds.isEmpty && ds.all Char.isDigit && (ds.length = 1 || ds.head? ≠ some '0')

def isDigits (ds : List Char) : Bool := !ds.isEmpty && ds.all Char.isDigit

def isExponent : List Char → Bool
  | [] => true
  | c :: cs => (c = 'e' || c = 'E') && isDigits (signOf cs).2

def isFraction : List Char → Bool
  | '.' :: cs => isDigits (cs.takeWhile Char.isDigit) && isExponent (cs.dropWhile Char.isDigit)
  | cs => isExponent cs

/-- The value of the text of a number. -/
def numeral? (text : List Char) : Option PyVal :=
  let (neg, ds) := if text.head? = some '-' then (true, text.tail) else (false, text)
  let whole := ds.takeWhile Char.isDigit
  let fraction := ds.dropWhile Char.isDigit
  if isWhole whole then
    if fraction.isEmpty then
      let n : ℤ := Nat.ofDigitChars 10 whole 0
      some (.int (if neg then -n else n))
    else if isFraction fraction then (floatOfText? (String.ofList text)).map .float
    else none
  else none

def number? (cs : List Char) : Option (PyVal × List Char) :=
  (numeral? (cs.takeWhile isNumeric)).map fun v => (v, cs.dropWhile isNumeric)

/-- The words of JSON, and those that Python reads besides. -/
def keywords : List (List Char × PyVal) :=
  [(['n', 'u', 'l', 'l'], .none), (['t', 'r', 'u', 'e'], .bool true),
    (['f', 'a', 'l', 's', 'e'], .bool false), (['N', 'a', 'N'], .float .nan),
    ("Infinity".toList, .float (.inf false)), ("-Infinity".toList, .float (.inf true))]

def keyword? (cs : List Char) : Option (PyVal × List Char) :=
  (keywords.find? fun k => k.1.isPrefixOf cs).map fun k => (k.2, cs.drop k.1.length)

/-! ## Values -/

def isBlank (c : Char) : Bool := c ∈ [' ', '\t', '\n', '\r']

def skip (cs : List Char) : List Char := cs.dropWhile isBlank

mutual

/-- A value at the start of a text, and the text after it. -/
def value? : ℕ → List Char → Option (PyVal × List Char)
  | 0, _ => none
  | _ + 1, [] => none
  | n + 1, c :: cs =>
    if c = '"' then (string? (cs.length + 1) cs).map fun p => (.str (String.ofList p.1), p.2)
    else if c = '[' then
      if (skip cs).head? = some ']' then some (.list [], (skip cs).tail)
      else (elements? n (skip cs)).map fun p => (.list p.1, p.2)
    else if c = '\x7b' then
      if (skip cs).head? = some '\x7d' then some (.dict [], (skip cs).tail)
      else (pairs? n (skip cs)).map fun p => (.dict (dict.update [] p.1), p.2)
    else
      match keyword? (c :: cs) with
      | some p => some p
      | none => number? (c :: cs)

def elements? : ℕ → List Char → Option (List PyVal × List Char)
  | 0, _ => none
  | n + 1, cs =>
    match value? n cs with
    | none => none
    | some (v, cs) =>
      if (skip cs).head? = some ',' then
        (elements? n (skip (skip cs).tail)).map fun p => (v :: p.1, p.2)
      else if (skip cs).head? = some ']' then some ([v], (skip cs).tail)
      else none

def pairs? : ℕ → List Char → Option (List (String × PyVal) × List Char)
  | 0, _ => none
  | n + 1, cs =>
    if cs.head? = some '"' then
      match string? (cs.tail.length + 1) cs.tail with
      | none => none
      | some (k, cs) =>
        if (skip cs).head? = some ':' then
          match value? n (skip (skip cs).tail) with
          | none => none
          | some (v, cs) =>
            if (skip cs).head? = some ',' then
              (pairs? n (skip (skip cs).tail)).map fun p => ((String.ofList k, v) :: p.1, p.2)
            else if (skip cs).head? = some '\x7d' then
              some ([(String.ofList k, v)], (skip cs).tail)
            else none
        else none
    else none

end

/-- `json.loads(text)`. -/
def loads (text : List Char) : Option PyVal :=
  match value? (2 * text.length + 2) (skip text) with
  | none => none
  | some (v, rest) => if (skip rest).isEmpty then some v else none

/-! ## What was written is read back -/

theorem head_toDigits {n : ℕ} (h : 0 < n) : (Nat.toDigits 10 n).head? ≠ some '0' := by
  induction n using Nat.strong_induction_on with
  | _ n ih =>
    by_cases hsmall : n < 10
    · rw [Nat.toDigits_of_lt_base hsmall]
      interval_cases n <;> decide
    · rw [Nat.toDigits_of_base_le (by omega) (by omega), List.head?_append]
      have hrest := ih (n / 10) (by omega) (by omega)
      cases hhead : (Nat.toDigits 10 (n / 10)).head? with
      | none => exact absurd (List.head?_eq_none_iff.mp hhead) Nat.toDigits_ne_nil
      | some c => simpa [hhead] using hrest

theorem isWhole_toDigits (n : ℕ) : isWhole (Nat.toDigits 10 n) = true := by
  have hdigits : (Nat.toDigits 10 n).all Char.isDigit = true := by
    rw [List.all_eq_true]
    exact fun c hc => Nat.isDigit_of_mem_toDigits (by omega) (by omega) hc
  have hempty : (Nat.toDigits 10 n).isEmpty = false := by
    simp
  rcases Nat.eq_zero_or_pos n with rfl | hpos
  · decide
  · simp [isWhole, hempty, hdigits, head_toDigits hpos]

theorem takeWhile_toDigits (n : ℕ) :
    (Nat.toDigits 10 n).takeWhile Char.isDigit = Nat.toDigits 10 n :=
  List.takeWhile_eq_self_iff.mpr fun _ hc => Nat.isDigit_of_mem_toDigits (by omega) (by omega) hc

theorem dropWhile_toDigits (n : ℕ) : (Nat.toDigits 10 n).dropWhile Char.isDigit = [] :=
  List.dropWhile_eq_nil_iff.mpr fun _ hc => Nat.isDigit_of_mem_toDigits (by omega) (by omega) hc

theorem toList_toString_int (n : ℤ) :
    (toString n).toList =
      if n < 0 then '-' :: Nat.toDigits 10 n.natAbs else Nat.toDigits 10 n.toNat := by
  cases n with
  | ofNat n => simp [toString, Int.repr]
  | negSucc n => simp [toString, Int.repr, Int.negSucc_lt_zero]

theorem numeral?_int (n : ℤ) : numeral? (toString n).toList = some (.int n) := by
  rw [toList_toString_int]
  split
  · simp only [numeral?, List.head?_cons, if_true, List.tail_cons, takeWhile_toDigits,
      dropWhile_toDigits, isWhole_toDigits, List.isEmpty_nil, Nat.ofDigitChars_ten_toDigits,
      Option.some.injEq, PyVal.int.injEq]
    omega
  · have hminus : (Nat.toDigits 10 n.toNat).head? ≠ some '-' := by
      intro hhead
      have hdigit := Nat.isDigit_of_mem_toDigits (b := 10) (by omega) (by omega)
        (List.mem_of_mem_head? hhead)
      revert hdigit
      decide
    simp only [numeral?, hminus, if_false, takeWhile_toDigits, dropWhile_toDigits,
      isWhole_toDigits, if_true, List.isEmpty_nil, Nat.ofDigitChars_ten_toDigits,
      Option.some.injEq, PyVal.int.injEq, Bool.false_eq_true]
    omega

/-- What can follow a value. -/
def Stops (r : List Char) : Prop := ∀ c ∈ r.head?, c ∈ [',', ']', '\x7d']

theorem skip_stops {r : List Char} (h : Stops r) : skip r = r := by
  cases r with
  | nil => rfl
  | cons c r =>
    have hc := h c rfl
    simp only [List.mem_cons, List.not_mem_nil, or_false] at hc
    rcases hc with rfl | rfl | rfl <;> rfl

theorem isNumeric_int (n : ℤ) : ∀ c ∈ (toString n).toList, isNumeric c = true := by
  have hdigits : ∀ m, ∀ c ∈ Nat.toDigits 10 m, isNumeric c = true := fun m c hc => by
    simp [isNumeric, Nat.isDigit_of_mem_toDigits (b := 10) (by omega) (by omega) hc]
  rw [toList_toString_int]
  split
  · intro c hc
    rcases List.mem_cons.mp hc with rfl | hc
    · rfl
    · exact hdigits _ c hc
  · exact hdigits _

theorem number?_int (n : ℤ) {r : List Char} (h : Stops r) :
    number? ((toString n).toList ++ r) = some (.int n, r) := by
  have hstop : ∀ c ∈ r.head?, isNumeric c = false := by
    intro c hc
    have hc := h c hc
    simp only [List.mem_cons, List.not_mem_nil, or_false] at hc
    rcases hc with rfl | rfl | rfl <;> rfl
  have htake : r.takeWhile isNumeric = [] := by
    cases r with
    | nil => rfl
    | cons c r => simp [hstop c rfl]
  have hdrop : r.dropWhile isNumeric = r := by
    cases r with
    | nil => rfl
    | cons c r => simp [hstop c rfl]
  rw [number?, List.takeWhile_append_of_pos (isNumeric_int n),
    List.dropWhile_append_of_pos (isNumeric_int n), htake, hdrop, List.append_nil, numeral?_int]
  rfl

/-! ## Values -/

mutual

/-- No floats, and each key of an object once. -/
def loadable : PyVal → Bool
  | .float _ => false
  | .list xs => loadableList xs
  | .dict d => (d.map Prod.fst).Nodup && loadableDict d
  | _ => true

def loadableList : List PyVal → Bool
  | [] => true
  | v :: xs => loadable v && loadableList xs

def loadableDict : List (String × PyVal) → Bool
  | [] => true
  | (_, v) :: d => loadable v && loadableDict d

end

/-- How the text of a value begins. -/
theorem head_dumps {v : PyVal} (h : loadable v = true) :
    ∃ c cs, dumps false v = c :: cs ∧ isBlank c = false ∧ c ≠ ']' ∧ c ≠ '\x7d' := by
  cases v with
  | none => exact ⟨_, _, rfl, by decide⟩
  | bool b => cases b <;> exact ⟨_, _, rfl, by decide⟩
  | float x => simp [loadable] at h
  | str s => exact ⟨_, _, rfl, by decide⟩
  | list xs => exact ⟨_, _, rfl, by decide⟩
  | dict d => exact ⟨_, _, rfl, by decide⟩
  | int n =>
    cases htext : (toString n).toList with
    | nil =>
      rw [toList_toString_int] at htext
      split at htext
      · cases htext
      · exact absurd htext Nat.toDigits_ne_nil
    | cons c cs =>
      have hc := isNumeric_int n c (by rw [htext]; exact List.mem_cons_self)
      refine ⟨c, cs, htext, ?_, ?_, ?_⟩
      · by_contra hblank
        simp only [isBlank, Bool.not_eq_false, decide_eq_true_eq, List.mem_cons,
          List.not_mem_nil, or_false] at hblank
        rcases hblank with rfl | rfl | rfl | rfl <;> revert hc <;> decide
      · rintro rfl
        revert hc
        decide
      · rintro rfl
        revert hc
        decide

theorem skip_cons {c : Char} (h : isBlank c = false) (cs : List Char) :
    skip (c :: cs) = c :: cs := by
  simp [skip, h]

theorem skip_blank (cs : List Char) : skip (' ' :: cs) = skip cs := rfl

theorem cons_toDigits (n : ℕ) : ∃ d ds, Nat.toDigits 10 n = d :: ds ∧ d.isDigit = true := by
  obtain ⟨d, ds, hcons⟩ := List.exists_cons_of_ne_nil (Nat.toDigits_ne_nil (n := n) (b := 10))
  refine ⟨d, ds, hcons, Nat.isDigit_of_mem_toDigits (b := 10) (n := n) (by omega) (by omega) ?_⟩
  rw [hcons]
  exact List.mem_cons_self

theorem beq_isDigit {d : Char} (hd : d.isDigit = true) (c : Char) (hc : c.isDigit = false) :
    (c == d) = false := by
  rw [beq_eq_false_iff_ne]
  rintro rfl
  rw [hd] at hc
  cases hc

theorem keyword?_int (n : ℤ) (r : List Char) : keyword? ((toString n).toList ++ r) = none := by
  rw [toList_toString_int]
  split
  · obtain ⟨d, ds, hcons, hd⟩ := cons_toDigits n.natAbs
    have hne := beq_isDigit hd
    simp [hcons, keyword?, keywords, List.find?, List.isPrefixOf, hne 'I' rfl]
  · obtain ⟨d, ds, hcons, hd⟩ := cons_toDigits n.toNat
    have hne := beq_isDigit hd
    simp [hcons, keyword?, keywords, List.find?, List.isPrefixOf, hne 'n' rfl, hne 't' rfl,
      hne 'f' rfl, hne 'N' rfl, hne 'I' rfl, hne '-' rfl]

theorem value?_int (n : ℤ) (m : ℕ) {r : List Char} (hr : Stops r) :
    value? (m + 1) ((toString n).toList ++ r) = some (.int n, r) := by
  have hword := keyword?_int n r
  have hnumber := number?_int n hr
  obtain ⟨c, cs, hcons, -, -, -⟩ := head_dumps (v := .int n) rfl
  have htext : (toString n).toList = c :: cs := hcons
  have hc := isNumeric_int n c (by rw [htext]; exact List.mem_cons_self)
  have hquote : c ≠ '"' := by rintro rfl; revert hc; decide
  have hbracket : c ≠ '[' := by rintro rfl; revert hc; decide
  have hbrace : c ≠ '\x7b' := by rintro rfl; revert hc; decide
  rw [htext, List.cons_append] at hword hnumber ⊢
  simp only [value?, hquote, hbracket, hbrace, if_false, hword, hnumber]

/-- The members of an object whose keys differ are taken in their order. -/
theorem update_nodup {d : List (String × PyVal)} (h : (d.map Prod.fst).Nodup) :
    dict.update [] d = d := by
  have hgeneral : ∀ (done rest : List (String × PyVal)), ((done ++ rest).map Prod.fst).Nodup →
      dict.update done rest = done ++ rest := by
    intro done rest
    induction rest generalizing done with
    | nil => simp [dict.update]
    | cons p rest ih =>
      intro hnodup
      have hnone : dict.get done p.1 = none := by
        rw [dict.get, List.lookup_eq_none_iff]
        intro q hq
        rw [List.map_append, List.nodup_append] at hnodup
        simpa using (hnodup.2.2 q.1 (List.mem_map_of_mem hq) p.1 (by simp)).symm
      have hset : dict.set done p.1 p.2 = done ++ [p] := dict.set_of_none p.2 hnone
      have hstep := ih (done ++ [p]) (by simpa using hnodup)
      simp only [dict.update, List.foldl_cons] at hstep ⊢
      rw [hset, hstep, List.append_assoc, List.singleton_append]
  simpa using hgeneral [] d (by simpa using h)

theorem head_elements (v : PyVal) (xs : List PyVal) (h : loadableList (v :: xs) = true)
    (r : List Char) : ∃ c cs, commas (dumpsList false (v :: xs)) ++ r = c :: cs ∧
      isBlank c = false ∧ c ≠ ']' ∧ c ≠ '\x7d' := by
  rw [loadableList, Bool.and_eq_true] at h
  obtain ⟨c, cs, hcons, hc⟩ := head_dumps h.1
  cases xs with
  | nil => exact ⟨c, cs ++ r, by simp [dumpsList, commas, hcons], hc⟩
  | cons w xs => exact ⟨c, _, by simp [dumpsList, commas, hcons]; rfl, hc⟩

theorem head_pairs (p : String × PyVal) (d : List (String × PyVal)) (r : List Char) :
    ∃ cs, commas ((dumpsDict false (p :: d)).map member) ++ r = '"' :: cs := by
  obtain ⟨k, v⟩ := p
  cases d with
  | nil => exact ⟨_, by simp [dumpsDict, commas, member, quoted]; rfl⟩
  | cons q d => exact ⟨_, by simp [dumpsDict, commas, member, quoted]; rfl⟩

mutual

/-- `value?` reads a value before what stops it; two steps of fuel for each
character are enough. -/
theorem value?_dumps : (v : PyVal) → loadable v = true → (n : ℕ) →
    2 * (dumps false v).length ≤ n → {r : List Char} → Stops r →
      value? n (dumps false v ++ r) = some (v, r)
  | .none, _, n, hn, r, _ => by
    obtain ⟨m, rfl⟩ : ∃ m, n = m + 1 := ⟨n - 1, by simp [dumps] at hn; omega⟩
    simp [dumps, value?, keyword?, keywords, List.isPrefixOf]
  | .bool b, _, n, hn, r, _ => by
    cases b
    · obtain ⟨m, rfl⟩ : ∃ m, n = m + 1 := ⟨n - 1, by simp [dumps] at hn; omega⟩
      simp [dumps, value?, keyword?, keywords, List.find?, List.isPrefixOf]
    · obtain ⟨m, rfl⟩ : ∃ m, n = m + 1 := ⟨n - 1, by simp [dumps] at hn; omega⟩
      simp [dumps, value?, keyword?, keywords, List.find?, List.isPrefixOf]
  | .int k, _, n, hn, r, hr => by
    obtain ⟨c, cs, hcons, -, -, -⟩ := head_dumps (v := .int k) rfl
    obtain ⟨m, rfl⟩ : ∃ m, n = m + 1 := ⟨n - 1, by rw [hcons] at hn; simp at hn; omega⟩
    exact value?_int k m hr
  | .float _, h, _, _, _, _ => by simp [loadable] at h
  | .str s, _, n, hn, r, _ => by
    obtain ⟨m, rfl⟩ : ∃ m, n = m + 1 := ⟨n - 1, by simp [dumps, quoted] at hn; omega⟩
    have hread := string?_quoted s r
    simp only [dumps, quoted, List.cons_append, List.append_assoc, List.nil_append, value?,
      if_true, hread, Option.map_some, String.ofList_toList]
  | .list [], _, n, hn, r, _ => by
    obtain ⟨m, rfl⟩ : ∃ m, n = m + 1 := ⟨n - 1, by simp [dumps] at hn; omega⟩
    simp [dumps, dumpsList, commas, value?, skip, isBlank]
  | .list (v :: xs), h, n, hn, r, hr => by
    obtain ⟨m, rfl⟩ : ∃ m, n = m + 1 := ⟨n - 1, by simp [dumps] at hn; omega⟩
    simp only [loadable] at h
    have hrest := elements?_dumps v xs h m (by simp [dumps] at hn; omega) r
    obtain ⟨c, cs, hcons, hblank, hclose, -⟩ := head_elements v xs h (']' :: r)
    simp only [dumps, List.cons_append, List.append_assoc, List.nil_append, value?,
      Char.reduceEq, if_false, if_true]
    rw [hcons] at hrest ⊢
    rw [skip_cons hblank, List.head?_cons, if_neg (by simpa using hclose), hrest]
    rfl
  | .dict [], _, n, hn, r, _ => by
    obtain ⟨m, rfl⟩ : ∃ m, n = m + 1 := ⟨n - 1, by simp [dumps] at hn; omega⟩
    simp [dumps, dumpsDict, members, commas, value?, skip, isBlank]
  | .dict (p :: d), h, n, hn, r, hr => by
    obtain ⟨m, rfl⟩ : ∃ m, n = m + 1 := ⟨n - 1, by simp [dumps] at hn; omega⟩
    simp only [loadable, Bool.and_eq_true, decide_eq_true_eq] at h
    have hrest := pairs?_dumps p d h.2 m (by simp [dumps, members] at hn; omega) r
    obtain ⟨cs, hcons⟩ := head_pairs p d ('\x7d' :: r)
    simp only [dumps, members, List.cons_append, List.append_assoc, List.nil_append, value?,
      Char.reduceEq, if_false, if_true, Bool.false_eq_true]
    rw [hcons] at hrest ⊢
    rw [skip_cons (by decide), List.head?_cons, if_neg (by simp), hrest]
    simp [update_nodup h.1]

theorem elements?_dumps : (v : PyVal) → (xs : List PyVal) → loadableList (v :: xs) = true →
    (n : ℕ) → 2 * (commas (dumpsList false (v :: xs))).length + 1 ≤ n → (r : List Char) →
      elements? n (commas (dumpsList false (v :: xs)) ++ ']' :: r) = some (v :: xs, r)
  | v, [], h, n, hn, r => by
    obtain ⟨m, rfl⟩ : ∃ m, n = m + 1 := ⟨n - 1, by omega⟩
    simp only [loadableList, Bool.and_true] at h
    have hstop : Stops (']' :: r) := by simp [Stops]
    have hv := value?_dumps v h m (by simp [dumpsList, commas] at hn; omega) hstop
    simp only [dumpsList, commas, elements?, hv, skip_stops hstop]
    simp
  | v, w :: xs, h, n, hn, r => by
    obtain ⟨m, rfl⟩ : ∃ m, n = m + 1 := ⟨n - 1, by omega⟩
    rw [loadableList, Bool.and_eq_true] at h
    have hstop : Stops (',' :: ' ' :: (commas (dumpsList false (w :: xs)) ++ ']' :: r)) := by
      simp [Stops]
    have hv := value?_dumps v h.1 m (by simp [dumpsList, commas] at hn; omega) hstop
    have hrest := elements?_dumps w xs h.2 m (by simp [dumpsList, commas] at hn ⊢; omega) r
    obtain ⟨c, cs, hcons, hblank, -, -⟩ := head_elements w xs h.2 (']' :: r)
    have htext : commas (dumpsList false (v :: w :: xs)) ++ ']' :: r =
        dumps false v ++ ',' :: ' ' :: (commas (dumpsList false (w :: xs)) ++ ']' :: r) := by
      simp [dumpsList, commas]
    rw [htext, elements?, hv]
    simp only [skip_stops hstop, List.head?_cons, if_true, List.tail_cons, skip_blank]
    rw [hcons] at hrest ⊢
    rw [skip_cons hblank, hrest]
    rfl

theorem pairs?_dumps : (p : String × PyVal) → (d : List (String × PyVal)) →
    loadableDict (p :: d) = true → (n : ℕ) →
    2 * (commas ((dumpsDict false (p :: d)).map member)).length + 1 ≤ n → (r : List Char) →
      pairs? n (commas ((dumpsDict false (p :: d)).map member) ++ '\x7d' :: r) =
        some (p :: d, r)
  | (k, v), [], h, n, hn, r => by
    obtain ⟨m, rfl⟩ : ∃ m, n = m + 1 := ⟨n - 1, by omega⟩
    simp only [loadableDict, Bool.and_true] at h
    have hstop : Stops ('\x7d' :: r) := by simp [Stops]
    have hv := value?_dumps v h m (by simp [dumpsDict, commas, member] at hn; omega) hstop
    have hk := string?_quoted k (':' :: ' ' :: (dumps false v ++ '\x7d' :: r))
    have htext : commas ((dumpsDict false [(k, v)]).map member) ++ '\x7d' :: r =
        '"' :: (k.toList.flatMap escape ++ '"' :: ':' :: ' ' ::
          (dumps false v ++ '\x7d' :: r)) := by
      simp [dumpsDict, commas, member, quoted]
    obtain ⟨c, cs, hcons, hblank, -, -⟩ := head_dumps h
    rw [htext, pairs?, List.head?_cons, if_pos rfl, List.tail_cons, hk]
    simp only [skip_cons (show isBlank ':' = false by decide), List.head?_cons, if_true,
      List.tail_cons, skip_blank]
    rw [hcons, List.cons_append] at hv ⊢
    rw [skip_cons hblank, hv]
    simp [skip_stops hstop]
  | (k, v), q :: d, h, n, hn, r => by
    obtain ⟨m, rfl⟩ : ∃ m, n = m + 1 := ⟨n - 1, by omega⟩
    rw [loadableDict, Bool.and_eq_true] at h
    have hstop : Stops (',' :: ' ' ::
        (commas ((dumpsDict false (q :: d)).map member) ++ '\x7d' :: r)) := by simp [Stops]
    have hv := value?_dumps v h.1 m (by simp [dumpsDict, commas, member] at hn; omega) hstop
    have hk := string?_quoted k (':' :: ' ' :: (dumps false v ++ ',' :: ' ' ::
      (commas ((dumpsDict false (q :: d)).map member) ++ '\x7d' :: r)))
    have hrest := pairs?_dumps q d h.2 m (by simp [dumpsDict, commas, member] at hn ⊢; omega) r
    have htext : commas ((dumpsDict false ((k, v) :: q :: d)).map member) ++ '\x7d' :: r =
        '"' :: (k.toList.flatMap escape ++ '"' :: ':' :: ' ' :: (dumps false v ++ ',' :: ' ' ::
          (commas ((dumpsDict false (q :: d)).map member) ++ '\x7d' :: r))) := by
      simp [dumpsDict, commas, member, quoted]
    obtain ⟨c, cs, hcons, hblank, -, -⟩ := head_dumps h.1
    obtain ⟨ds, hds⟩ := head_pairs q d ('\x7d' :: r)
    rw [htext, pairs?, List.head?_cons, if_pos rfl, List.tail_cons, hk]
    simp only [skip_cons (show isBlank ':' = false by decide), List.head?_cons, if_true,
      List.tail_cons, skip_blank]
    rw [hcons, List.cons_append] at hv ⊢
    rw [skip_cons hblank, hv]
    simp only [skip_stops hstop, List.head?_cons, if_true, List.tail_cons, skip_blank]
    rw [hds] at hrest ⊢
    rw [skip_cons (show isBlank '"' = false by decide), hrest]
    simp

end

/-! ## The text is ASCII -/

def Ascii (t : List Char) : Prop := ∀ c ∈ t, c.toNat < 128

theorem ascii_append {s t : List Char} (hs : Ascii s) (ht : Ascii t) : Ascii (s ++ t) := by
  intro c hc
  rcases List.mem_append.mp hc with hc | hc
  · exact hs c hc
  · exact ht c hc

theorem ascii_cons {c : Char} {t : List Char} (hc : c.toNat < 128) (ht : Ascii t) :
    Ascii (c :: t) := by
  intro d hd
  rcases List.mem_cons.mp hd with rfl | hd
  · exact hc
  · exact ht d hd

theorem ascii_nil : Ascii [] := by simp [Ascii]

theorem ascii_hex4 (n : ℕ) : Ascii (hex4 n) := by
  have hdigit : ∀ d < 16, (Nat.digitChar d).toNat < 128 := by
    intro d hd
    interval_cases d <;> decide
  intro c hc
  obtain ⟨i, -, rfl⟩ := List.mem_map.mp hc
  exact hdigit _ (Nat.mod_lt _ (by omega))

theorem ascii_escape (c : Char) : Ascii (escape c) := by
  unfold escape
  split_ifs with _ _ _ _ _ _ _ hplain
  all_goals first
    | exact ascii_cons (by decide) (ascii_cons (by decide) ascii_nil)
    | exact ascii_cons (by omega) ascii_nil
    | exact ascii_cons (by decide) (ascii_cons (by decide) (ascii_hex4 _))
    | exact ascii_append (ascii_cons (by decide) (ascii_cons (by decide) (ascii_hex4 _)))
        (ascii_cons (by decide) (ascii_cons (by decide) (ascii_hex4 _)))

theorem ascii_quoted (s : String) : Ascii (quoted s) := by
  refine ascii_cons (by decide) (ascii_append (fun c hc => ?_) (ascii_cons (by decide) ascii_nil))
  obtain ⟨d, -, hc⟩ := List.mem_flatMap.mp hc
  exact ascii_escape d c hc

theorem ascii_int (n : ℤ) : Ascii (toString n).toList := by
  have hdigits : ∀ m, Ascii (Nat.toDigits 10 m) := fun m c hc => by
    have hdigit := Nat.isDigit_of_mem_toDigits (b := 10) (by omega) (by omega) hc
    simp only [Char.isDigit, Bool.and_eq_true, decide_eq_true_eq] at hdigit
    have hle : c.val.toNat ≤ 57 := by simpa [UInt32.le_iff_toNat_le] using hdigit.2
    exact Nat.lt_of_le_of_lt hle (by decide)
  rw [toList_toString_int]
  split
  · exact ascii_cons (by decide) (hdigits _)
  · exact hdigits _

theorem ascii_commas {ts : List (List Char)} (h : ∀ t ∈ ts, Ascii t) : Ascii (commas ts) := by
  induction ts with
  | nil => exact ascii_nil
  | cons t ts ih =>
    have ht := h t List.mem_cons_self
    cases ts with
    | nil => exact ht
    | cons u ts =>
      exact ascii_append ht (ascii_cons (by decide) (ascii_cons (by decide)
        (ih fun t ht => h t (List.mem_cons_of_mem _ ht))))

mutual

theorem ascii_dumps : (v : PyVal) → loadable v = true → Ascii (dumps false v)
  | .none, _ => by simp [dumps, Ascii]
  | .bool true, _ => by simp [dumps, Ascii]
  | .bool false, _ => by simp [dumps, Ascii]
  | .int n, _ => ascii_int n
  | .float _, h => by simp [loadable] at h
  | .str s, _ => ascii_quoted s
  | .list xs, h => by
    rw [loadable] at h
    exact ascii_append (ascii_cons (by decide) (ascii_commas (ascii_dumpsList xs h)))
      (ascii_cons (by decide) ascii_nil)
  | .dict d, h => by
    simp only [loadable, Bool.and_eq_true] at h
    refine ascii_append (ascii_cons (by decide) (ascii_commas fun t ht => ?_))
      (ascii_cons (by decide) ascii_nil)
    obtain ⟨p, hp, rfl⟩ := List.mem_map.mp ht
    exact ascii_append (ascii_quoted p.1) (ascii_cons (by decide) (ascii_cons (by decide)
      (ascii_dumpsDict d h.2 p hp)))

theorem ascii_dumpsList : (xs : List PyVal) → loadableList xs = true →
    ∀ t ∈ dumpsList false xs, Ascii t
  | [], _, t, ht => by cases ht
  | v :: xs, h, t, ht => by
    rw [loadableList, Bool.and_eq_true] at h
    rw [dumpsList] at ht
    rcases List.mem_cons.mp ht with rfl | ht
    · exact ascii_dumps v h.1
    · exact ascii_dumpsList xs h.2 t ht

theorem ascii_dumpsDict : (d : List (String × PyVal)) → loadableDict d = true →
    ∀ p ∈ dumpsDict false d, Ascii p.2
  | [], _, p, hp => by cases hp
  | (k, v) :: d, h, p, hp => by
    rw [loadableDict, Bool.and_eq_true] at h
    rw [dumpsDict] at hp
    rcases List.mem_cons.mp hp with rfl | hp
    · exact ascii_dumps v h.1
    · exact ascii_dumpsDict d h.2 p hp

end

theorem loads_dumps {v : PyVal} (h : loadable v = true) : loads (dumps false v) = some v := by
  have hstop : Stops [] := by simp [Stops]
  have hv := value?_dumps v h (2 * (dumps false v).length + 2) (by omega) hstop
  rw [List.append_nil] at hv
  obtain ⟨c, cs, hcons, hblank, -, -⟩ := head_dumps h
  have hskip : skip (dumps false v) = dumps false v := by rw [hcons, skip_cons hblank]
  simp only [loads, hskip, hv, skip_stops hstop, List.isEmpty_nil, if_true]

end py.json
