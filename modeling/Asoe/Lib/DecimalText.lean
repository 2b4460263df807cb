-- Decimal numbers as texts: a literal with a sign and a decimal point stands
-- for its digits over a power of ten, and a number with a fixed count of
-- places still does when the zeros at its end are dropped.
import Asoe.Lib.PyText
import Asoe.Lib.DecimalRounding
import Asoe.Lib.FloatMonotone
import Mathlib.Data.List.DropRight

open py

namespace decimal_text

/-! ## Digits -/

/-- A text of digits. -/
def Digits (cs : List Char) : Prop := ∀ c ∈ cs, c.isDigit = true

/-- A text that does not go on with a digit or a separator of digits. -/
def Stops (cs : List Char) : Prop := ∀ c ∈ cs.head?, c.isDigit = false ∧ c ≠ '_'

theorem digits_toDigits (n : ℕ) : Digits (Nat.toDigits 10 n) :=
  fun _ hc => Nat.isDigit_of_mem_toDigits (by omega) (by omega) hc

theorem digits_zeros (n : ℕ) : Digits (zeros n) := by
  intro c hc
  rw [List.eq_of_mem_replicate hc]
  rfl

theorem Digits.append {cs ds : List Char} (hcs : Digits cs) (hds : Digits ds) :
    Digits (cs ++ ds) := by
  intro c hc
  rcases List.mem_append.mp hc with hc | hc
  · exact hcs c hc
  · exact hds c hc

theorem Digits.mono {cs ds : List Char} (hds : Digits ds) (h : cs ⊆ ds) : Digits cs :=
  fun c hc => hds c (h hc)

theorem digit_ne_separator {c : Char} (h : c.isDigit = true) : c ≠ '_' := by
  rintro rfl
  revert h
  decide

theorem digitRun_of_stops {cs : List Char} (h : Stops cs) : digitRun cs = none := by
  cases cs with
  | nil => rfl
  | cons c cs =>
    have hc := (h c rfl).1
    cases cs with
    | nil => simp [digitRun, hc]
    | cons d cs => simp [digitRun, hc]

theorem digitRun_append {ds rest : List Char} (hds : Digits ds) (hne : ds ≠ [])
    (hrest : Stops rest) : digitRun (ds ++ rest) = some (ds, rest) := by
  induction ds with
  | nil => exact absurd rfl hne
  | cons c ds ih =>
    have hc : c.isDigit = true := hds c List.mem_cons_self
    cases ds with
    | nil =>
      cases rest with
      | nil => simp [digitRun, hc]
      | cons d rest =>
        have hd : d ≠ '_' := (hrest d rfl).2
        simp [digitRun, hc, hd, digitRun_of_stops hrest]
    | cons d ds =>
      have hd : d ≠ '_' := digit_ne_separator (hds d (by simp))
      have htail := ih (hds.mono (List.subset_cons_self _ _)) (List.cons_ne_nil _ _)
      rw [List.cons_append] at htail
      simp [digitRun, hc, hd, htail]

/-! ## The value of digits -/

theorem natOfDigits_eq (ds : List Char) : natOfDigits ds = Nat.ofDigitChars 10 ds 0 := by
  rw [Nat.ofDigitChars_eq_foldl]
  rfl

theorem natOfDigits_toDigits (n : ℕ) : natOfDigits (Nat.toDigits 10 n) = n := by
  rw [natOfDigits_eq, Nat.ofDigitChars_ten_toDigits]

theorem natOfDigits_zeros_append (n : ℕ) (ds : List Char) :
    natOfDigits (zeros n ++ ds) = natOfDigits ds := by
  rw [natOfDigits_eq, natOfDigits_eq, Nat.ofDigitChars_append, zeros,
    Nat.ofDigitChars_replicate_zero, Nat.mul_zero]

theorem natOfDigits_append_zeros (ds : List Char) (n : ℕ) :
    natOfDigits (ds ++ zeros n) = 10 ^ n * natOfDigits ds := by
  rw [natOfDigits_eq, natOfDigits_eq, Nat.ofDigitChars_append, zeros,
    Nat.ofDigitChars_replicate_zero]

/-! ## Literals -/

/-- The number that a decimal literal with a sign stands for. -/
def literal? (cs : List Char) : Option ℚ :=
  let (neg, cs) := signOf cs
  (decimal? cs).map fun q => if neg then -q else q

theorem stops_nil : Stops [] := by
  rintro c ⟨⟩

theorem stops_point (cs : List Char) : Stops ('.' :: cs) := by
  rintro c ⟨⟩
  decide

theorem decimal?_whole {whole : List Char} (hwhole : Digits whole) (hne : whole ≠ []) :
    decimal? whole = some (natOfDigits whole : ℚ) := by
  have hrun := digitRun_append hwhole hne stops_nil
  rw [List.append_nil] at hrun
  simp [decimal?, hrun, hne, exponentPart]

theorem decimal?_point {whole frac : List Char} (hwhole : Digits whole) (hne : whole ≠ [])
    (hfrac : Digits frac) (hfne : frac ≠ []) :
    decimal? (whole ++ '.' :: frac) =
      some (natOfDigits (whole ++ frac) / (10 : ℚ) ^ frac.length) := by
  have hrun := digitRun_append hwhole hne (stops_point frac)
  have hfrun := digitRun_append hfrac hfne stops_nil
  rw [List.append_nil] at hfrun
  simp [decimal?, hrun, hfrun, hne, exponentPart, div_eq_mul_inv]

theorem signOf_minus (cs : List Char) : signOf ('-' :: cs) = (true, cs) := rfl

theorem signOf_digits {c : Char} (hc : c.isDigit = true) (cs : List Char) :
    signOf (c :: cs) = (false, c :: cs) := by
  have hminus : c ≠ '-' := by rintro rfl; revert hc; decide
  have hplus : c ≠ '+' := by rintro rfl; revert hc; decide
  unfold signOf
  split
  · rename_i heq
    exact absurd (List.cons.inj heq).1 hminus
  · rename_i heq
    exact absurd (List.cons.inj heq).1 hplus
  · rfl

theorem literal?_signed {cs : List Char} {q : ℚ}
    (hcs : ∃ c rest, cs = c :: rest ∧ c.isDigit = true) (hq : decimal? cs = some q) (neg : Bool) :
    literal? ((if neg then ['-'] else []) ++ cs) = some (if neg then -q else q) := by
  obtain ⟨c, rest, rfl, hc⟩ := hcs
  cases neg with
  | true =>
    have hcut : (if true then ['-'] else []) ++ c :: rest = '-' :: c :: rest := rfl
    rw [hcut, literal?, signOf_minus]
    simp [hq]
  | false =>
    have hcut : (if false then ['-'] else []) ++ c :: rest = c :: rest := rfl
    rw [hcut, literal?, signOf_digits hc]
    simp [hq]

theorem head_of_digits {cs : List Char} (hcs : Digits cs) (hne : cs ≠ []) (rest : List Char) :
    ∃ c tail, cs ++ rest = c :: tail ∧ c.isDigit = true := by
  cases cs with
  | nil => exact absurd rfl hne
  | cons c cs => exact ⟨c, cs ++ rest, rfl, hcs c List.mem_cons_self⟩

theorem literal?_int (n : ℤ) : literal? (toString n).toList = some (n : ℚ) := by
  have htext : (toString n).toList =
      (if n < 0 then ['-'] else []) ++ Nat.toDigits 10 n.natAbs := by
    cases n with
    | ofNat n => simp [toString, Int.repr]
    | negSucc n => simp [toString, Int.repr, Int.negSucc_lt_zero]
  have hne : Nat.toDigits 10 n.natAbs ≠ [] := Nat.toDigits_ne_nil
  have hdigits := digits_toDigits n.natAbs
  have hhead := head_of_digits hdigits hne []
  rw [List.append_nil] at hhead
  have hsigned := literal?_signed hhead (decimal?_whole hdigits hne) (decide (n < 0))
  rw [natOfDigits_toDigits] at hsigned
  simp only [decide_eq_true_eq] at hsigned
  rw [htext, hsigned]
  have hcast : ((n.natAbs : ℕ) : ℚ) = ((|n| : ℤ) : ℚ) := Nat.cast_natAbs n
  rw [hcast]
  split
  · rename_i hneg
    rw [abs_of_neg hneg, Int.cast_neg, neg_neg]
  · rename_i hpos
    rw [abs_of_nonneg (not_lt.mp hpos)]

/-! ## A fixed count of places -/

/-- The digits of `m` over ten to the power `places`, before and after the
point. -/
structure Places (places m : ℕ) (whole frac : List Char) : Prop where
  whole_digits : Digits whole
  frac_digits : Digits frac
  whole_ne : whole ≠ []
  length : frac.length = places
  value : natOfDigits (whole ++ frac) = m

theorem fixed_eq (places : ℕ) (hplaces : places ≠ 0) (q : ℚ) : ∃ whole frac,
    Places places (PyFloat.roundHalfEven (|q| * 10 ^ places)).toNat whole frac ∧
      (fixed places (.fin q)).toList = (if q < 0 then ['-'] else []) ++ (whole ++ '.' :: frac) := by
  generalize hm : (PyFloat.roundHalfEven (|q| * 10 ^ places)).toNat = m
  let padded := zeros (places + 1 - (Nat.toDigits 10 m).length) ++ Nat.toDigits 10 m
  have hdigits : Digits padded := (digits_zeros _).append (digits_toDigits m)
  have hlength : places + 1 ≤ padded.length := by
    simp only [padded, zeros, List.length_append, List.length_replicate]
    omega
  refine ⟨padded.take (padded.length - places), padded.drop (padded.length - places),
    ⟨hdigits.mono (List.take_subset _ _), hdigits.mono (List.drop_subset _ _), ?_, ?_, ?_⟩, ?_⟩
  · rw [ne_eq, List.take_eq_nil_iff, not_or]
    exact ⟨by omega, fun hnil => by simp [hnil] at hlength⟩
  · rw [List.length_drop]
    omega
  · rw [List.take_append_drop, natOfDigits_zeros_append, natOfDigits_toDigits]
  · simp only [fixed, hm, hplaces, if_false, String.toList_ofList, List.append_assoc]
    rfl

/-- The rounding of a size, with the sign of the number put back. -/
theorem round_to_signed (places : ℕ) (q : ℚ) :
    (if q < 0 then -(((PyFloat.roundHalfEven (|q| * 10 ^ places)).toNat : ℚ) / 10 ^ places)
      else ((PyFloat.roundHalfEven (|q| * 10 ^ places)).toNat : ℚ) / 10 ^ places) =
      round_to places q := by
  have hnonneg : 0 ≤ PyFloat.roundHalfEven (|q| * 10 ^ places) :=
    PyFloat.roundHalfEven_nonneg (by positivity)
  have hcast : ((PyFloat.roundHalfEven (|q| * 10 ^ places)).toNat : ℚ) =
      (PyFloat.roundHalfEven (|q| * 10 ^ places) : ℚ) := by
    exact_mod_cast Int.toNat_of_nonneg hnonneg
  rw [hcast]
  split
  · rename_i hneg
    rw [abs_of_neg hneg, neg_mul, PyFloat.roundHalfEven_neg, round_to]
    push_cast
    rw [neg_div, neg_neg]
  · rename_i hpos
    rw [abs_of_nonneg (not_lt.mp hpos), round_to]

theorem literal?_fixed (places : ℕ) (hplaces : places ≠ 0) (q : ℚ) :
    literal? (fixed places (.fin q)).toList = some (round_to places q) := by
  obtain ⟨whole, frac, hplaced, hfixed⟩ := fixed_eq places hplaces q
  have hfne : frac ≠ [] := by
    rintro rfl
    exact hplaces hplaced.length.symm
  have hread := literal?_signed (head_of_digits hplaced.whole_digits hplaced.whole_ne _)
    (decimal?_point hplaced.whole_digits hplaced.whole_ne hplaced.frac_digits hfne)
    (decide (q < 0))
  rw [hplaced.value, hplaced.length] at hread
  simp only [decide_eq_true_eq] at hread
  rw [hfixed, hread, round_to_signed]

/-- The characters before the last ones that are all `c`. -/
def dropEnd (c : Char) (cs : List Char) : List Char := cs.rdropWhile (· = c)

theorem dropEnd_append (c : Char) (cs ds : List Char) :
    dropEnd c (cs ++ ds) =
      if dropEnd c ds = [] then dropEnd c cs else cs ++ dropEnd c ds := by
  unfold dropEnd List.rdropWhile
  rw [List.reverse_append, List.dropWhile_append]
  split
  · rename_i hempty
    rw [if_pos (by simpa using hempty)]
  · rename_i hfull
    rw [if_neg (by simpa using hfull), List.reverse_append, List.reverse_reverse]

theorem dropEnd_cons (c d : Char) (cs : List Char) (h : d ≠ c) :
    dropEnd c (d :: cs) = d :: dropEnd c cs := by
  rw [← List.singleton_append, dropEnd_append]
  split
  · rename_i hempty
    rw [hempty]
    simp [dropEnd, h]
  · rfl

theorem eq_dropEnd_append (c : Char) (cs : List Char) :
    ∃ n, cs = dropEnd c cs ++ List.replicate n c := by
  let ends := cs.reverse.takeWhile fun d => decide (d = c)
  have hall : ∀ d ∈ ends, d = c := fun d hd => by
    simpa using List.mem_takeWhile_imp (p := fun d => decide (d = c)) hd
  have hends : ends = List.replicate ends.length c := List.eq_replicate_of_mem hall
  refine ⟨ends.length, ?_⟩
  calc cs = (ends ++ cs.reverse.dropWhile fun d => decide (d = c)).reverse := by
        rw [List.takeWhile_append_dropWhile, List.reverse_reverse]
    _ = dropEnd c cs ++ ends.reverse := List.reverse_append
    _ = dropEnd c cs ++ List.replicate ends.length c := by
        conv_lhs => rw [hends, List.reverse_replicate]

theorem dropEnd_digits {c : Char} (hc : c.isDigit = false) {cs : List Char} (h : Digits cs) :
    dropEnd c cs = cs := by
  unfold dropEnd
  rw [List.rdropWhile_eq_self_iff]
  intro hne
  have hlast := h _ (List.getLast_mem hne)
  simp only [decide_eq_true_eq]
  intro heq
  rw [heq, hc] at hlast
  cases hlast

/-- What is left of a number without the zeros at its end, and without a point
that would then stand last. -/
def trimmed (whole frac : List Char) : List Char :=
  whole ++ if dropEnd '0' frac = [] then [] else '.' :: dropEnd '0' frac

theorem dropEnd_point {whole frac : List Char} (hwhole : Digits whole) (hne : whole ≠ [])
    (hfrac : Digits frac) (pre : List Char) :
    dropEnd '.' (dropEnd '0' (pre ++ (whole ++ '.' :: frac))) = pre ++ trimmed whole frac := by
  have hfrac' : Digits (dropEnd '0' frac) := hfrac.mono (List.rdropWhile_prefix _ _).subset
  have hcut : dropEnd '0' (whole ++ '.' :: frac) = whole ++ '.' :: dropEnd '0' frac := by
    rw [dropEnd_append, dropEnd_cons _ _ _ (by decide), if_neg (List.cons_ne_nil _ _)]
  have hpoint : dropEnd '.' (whole ++ '.' :: dropEnd '0' frac) = trimmed whole frac := by
    rw [dropEnd_append, trimmed]
    by_cases hempty : dropEnd '0' frac = []
    · rw [hempty, if_pos (by decide), if_pos rfl, dropEnd_digits (by decide) hwhole,
        List.append_nil]
    · have hkeep : dropEnd '.' ('.' :: dropEnd '0' frac) = '.' :: dropEnd '0' frac := by
        rw [← List.singleton_append, dropEnd_append, dropEnd_digits (by decide) hfrac',
          if_neg hempty]
      rw [hkeep, if_neg (List.cons_ne_nil _ _), if_neg hempty]
  have hfull : trimmed whole frac ≠ [] := by simp [trimmed, hne]
  rw [dropEnd_append, hcut, if_neg (by simp), dropEnd_append, hpoint, if_neg hfull]

/-- A number with a fixed count of places is the same number when it is
trimmed. -/
theorem decimal?_trimmed {places m : ℕ} {whole frac : List Char} (h : Places places m whole frac) :
    decimal? (trimmed whole frac) = some ((m : ℚ) / 10 ^ places) := by
  obtain ⟨n, hn⟩ := eq_dropEnd_append '0' frac
  have hvalue : (m : ℚ) / 10 ^ places =
      natOfDigits (whole ++ dropEnd '0' frac) / 10 ^ (dropEnd '0' frac).length := by
    have hscale : (10 : ℚ) ^ n ≠ 0 := by positivity
    have hlength : places = (dropEnd '0' frac).length + n := by
      rw [← h.length]
      conv_lhs => rw [hn]
      rw [List.length_append, List.length_replicate]
    have hm : m = 10 ^ n * natOfDigits (whole ++ dropEnd '0' frac) := by
      rw [← natOfDigits_append_zeros, List.append_assoc, zeros, ← hn, h.value]
    rw [hlength, hm, pow_add]
    push_cast
    field_simp
  have hfrac : Digits (dropEnd '0' frac) :=
    h.frac_digits.mono (List.rdropWhile_prefix _ _).subset
  rw [hvalue, trimmed]
  by_cases hempty : dropEnd '0' frac = []
  · rw [if_pos hempty, hempty, List.append_nil, decimal?_whole h.whole_digits h.whole_ne]
    simp
  · rw [if_neg hempty, decimal?_point h.whole_digits h.whole_ne hfrac hempty]

theorem literal?_trimmed {places m : ℕ} {whole frac : List Char} (h : Places places m whole frac)
    (neg : Bool) :
    literal? (dropEnd '.' (dropEnd '0' ((if neg then ['-'] else []) ++ (whole ++ '.' :: frac)))) =
      some (if neg then -((m : ℚ) / 10 ^ places) else (m : ℚ) / 10 ^ places) := by
  rw [dropEnd_point h.whole_digits h.whole_ne h.frac_digits]
  exact literal?_signed (head_of_digits h.whole_digits h.whole_ne _) (decimal?_trimmed h) neg

end decimal_text
