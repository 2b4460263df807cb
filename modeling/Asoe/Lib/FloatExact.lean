-- Doubles among the rational numbers: the difference of two doubles that are
-- close to each other is exact, and no rounding more than doubles a number.
import Asoe.Lib.FloatMonotone

namespace py

namespace PyFloat

/-! ## Doubles -/

/-- A finite float is a number that rounding leaves as it is. -/
def IsDouble (x : PyFloat) : Prop := ∀ q, x = fin q → ofRat q = fin q

theorem nearest_of_double {q : ℚ} (h : IsDouble (fin q)) : nearest q = q := by
  have hq := h q rfl
  rw [ofRat_eq] at hq
  split at hq
  · cases hq
  · exact fin.inj hq

theorem double_multiple {q : ℚ} (h : IsDouble (fin q)) : ∃ n : ℤ, q = n * (2 : ℚ) ^ lastPlace q :=
  ⟨_, (nearest_of_double h).symm⟩

theorem nearest_multiple {q : ℚ} {n : ℤ} (h : q = n * (2 : ℚ) ^ lastPlace q) : nearest q = q := by
  refine le_antisymm ?_ ?_
  · exact (nearest_le_multiple h.le).trans h.ge
  · exact h.le.trans (multiple_le_nearest h.ge)

theorem nearest_zero : nearest 0 = 0 := by
  unfold nearest
  rw [zero_div, roundHalfEven_zero, Int.cast_zero, zero_mul]

/-- The nearest float is a multiple of its own last place too. -/
theorem nearest_nearest_of_nonneg {q : ℚ} (h : 0 ≤ q) : nearest (nearest q) = nearest q := by
  by_cases hzero : nearest q = 0
  · rw [hzero, nearest_zero]
  have hpos : 0 < nearest q := lt_of_le_of_ne (nearest_nonneg h) (Ne.symm hzero)
  have hq : q ≠ 0 := by
    rintro rfl
    exact hzero nearest_zero
  obtain ⟨hlow, -⟩ := exponentOf_bounds hzero
  have hhigh := (exponentOf_bounds hq).2
  rw [abs_of_pos hpos] at hlow
  rw [abs_of_nonneg h] at hhigh
  by_cases hplace : lastPlace (nearest q) ≤ lastPlace q
  · obtain ⟨i, hi⟩ := two_zpow_multiple hplace
    refine @nearest_multiple _ (roundHalfEven (q / (2 : ℚ) ^ lastPlace q) * i) ?_
    conv_lhs => unfold nearest
    rw [hi]
    push_cast
    ring
  · -- the rounding reaches the next power of two, which is a multiple of every last place
    have hnext : exponentOf q + 1 ≤ exponentOf (nearest q) ∧
        lastPlace (nearest q) ≤ exponentOf (nearest q) ∧ lastPlace q ≤ exponentOf (nearest q) := by
      unfold lastPlace at hplace ⊢
      omega
    obtain ⟨m, hm⟩ := two_zpow_multiple hnext.2.2
    have hbound : nearest q ≤ (2 : ℚ) ^ exponentOf (nearest q) := by
      rw [hm]
      refine nearest_le_multiple ?_
      rw [← hm]
      exact hhigh.le.trans (two_zpow_mono hnext.1)
    obtain ⟨n, hn⟩ := two_zpow_multiple hnext.2.1
    exact nearest_multiple ((le_antisymm hbound hlow).trans hn)

theorem nearest_nearest (q : ℚ) : nearest (nearest q) = nearest q := by
  rcases le_total 0 q with h | h
  · exact nearest_nearest_of_nonneg h
  · have hneg := nearest_nearest_of_nonneg (neg_nonneg.mpr h)
    rw [nearest_neg, nearest_neg] at hneg
    exact neg_inj.mp hneg

theorem double_ofRat (q : ℚ) : IsDouble (ofRat q) := by
  intro v hv
  rw [ofRat_eq] at hv
  split at hv
  · cases hv
  · rename_i hlt
    rw [← fin.inj hv, ofRat_eq, nearest_nearest, if_neg hlt]

theorem lastPlace_mono {p q : ℚ} (hp : p ≠ 0) (h : |p| ≤ |q|) : lastPlace p ≤ lastPlace q := by
  have hexponent := exponentOf_mono hp h
  unfold lastPlace
  omega

theorem abs_lt_of_double {q : ℚ} (h : IsDouble (fin q)) : |q| < (2 : ℚ) ^ (1024 : ℤ) := by
  have hq := h q rfl
  rw [ofRat_eq, nearest_of_double h] at hq
  split at hq
  · cases hq
  · rename_i hlt
    exact not_le.mp hlt

/-- The difference of two doubles that is at most as large as each of them is exact. -/
theorem sub_exact {a b : ℚ} (ha : IsDouble (fin a)) (hb : IsDouble (fin b)) (hle : |a - b| ≤ |a|)
    (hle' : |a - b| ≤ |b|) : (fin a).sub (fin b) = fin (a - b) := by
  have hsub : (fin a).sub (fin b) = ofRat (a - b) := by
    rw [sub_eq_add_neg]
    rfl
  by_cases hzero : a - b = 0
  · rw [hsub, hzero]
    rfl
  obtain ⟨m, hm⟩ := double_multiple ha
  obtain ⟨n, hn⟩ := double_multiple hb
  obtain ⟨i, hi⟩ := two_zpow_multiple (lastPlace_mono hzero hle)
  obtain ⟨j, hj⟩ := two_zpow_multiple (lastPlace_mono hzero hle')
  have hmultiple : a - b = (m * i - n * j : ℤ) * (2 : ℚ) ^ lastPlace (a - b) := by
    have hdiff : a - b = m * (2 : ℚ) ^ lastPlace a - n * (2 : ℚ) ^ lastPlace b :=
      congrArg₂ (· - ·) hm hn
    rw [hi, hj] at hdiff
    push_cast
    linarith
  rw [hsub, ofRat_eq, nearest_multiple hmultiple, if_neg]
  exact not_le.mpr (hle.trans_lt (abs_lt_of_double ha))

/-! ## Roundings are at most double -/

theorem roundHalfEven_of_half {q : ℚ} (h : |q| ≤ 1 / 2) : roundHalfEven q = 0 := by
  rcases h.eq_or_lt with heq | hlt
  · rcases (abs_eq (by norm_num)).mp heq with rfl | rfl
    · decide +kernel
    · decide +kernel
  · exact roundHalfEven_near (by simpa using hlt)

theorem abs_roundHalfEven_le (q : ℚ) : |(roundHalfEven q : ℚ)| ≤ 2 * |q| := by
  have hnear := abs_roundHalfEven_sub q
  by_cases hsmall : |q| ≤ 1 / 2
  · rw [roundHalfEven_of_half hsmall, Int.cast_zero, abs_zero]
    positivity
  · have htriangle := abs_sub_abs_le_abs_sub (roundHalfEven q : ℚ) q
    linarith [not_le.mp hsmall]

theorem abs_nearest_le (q : ℚ) : |nearest q| ≤ 2 * |q| := by
  have hplace : (0 : ℚ) < (2 : ℚ) ^ lastPlace q := by positivity
  have hround := abs_roundHalfEven_le (q / (2 : ℚ) ^ lastPlace q)
  unfold nearest
  rw [abs_mul, abs_of_pos hplace]
  rw [abs_div, abs_of_pos hplace, ← mul_div_assoc, le_div_iff₀ hplace] at hround
  exact hround

theorem abs_le_of_ofRat {q v : ℚ} (h : ofRat q = fin v) : |v| ≤ 2 * |q| := by
  rw [ofRat_eq] at h
  split at h
  · cases h
  · rw [← fin.inj h]
    exact abs_nearest_le q

theorem abs_le_of_roundTo {digits : ℕ} {x : PyFloat} {v : ℚ} (h : x.roundTo digits = fin v) :
    ∃ q, x = fin q ∧ |v| ≤ 4 * |q| := by
  cases x with
  | nan => cases h
  | inf s => cases h
  | fin q =>
    refine ⟨q, rfl, ?_⟩
    have hpow : (0 : ℚ) < 10 ^ digits := by positivity
    have hround := abs_roundHalfEven_le (q * 10 ^ digits)
    have hv := abs_le_of_ofRat h
    rw [abs_div, abs_of_pos hpow] at hv
    rw [abs_mul, abs_of_pos hpow] at hround
    have hshare : |(roundHalfEven (q * 10 ^ digits) : ℚ)| / 10 ^ digits ≤ 2 * |q| := by
      rw [div_le_iff₀ hpow]
      linarith
    linarith

theorem abs_nearest (q : ℚ) : |nearest q| = nearest |q| := by
  rcases le_total 0 q with h | h
  · rw [abs_of_nonneg h, abs_of_nonneg (nearest_nonneg h)]
  · have hneg := nearest_nonneg (neg_nonneg.mpr h)
    rw [abs_of_nonpos h, nearest_neg]
    rw [nearest_neg] at hneg
    exact abs_of_nonpos (neg_nonneg.mp hneg)

theorem nearest_le_of_lt_middle {q : ℚ} {n : ℤ}
    (h : q < (n + 1 / 2) * (2 : ℚ) ^ lastPlace q) : nearest q ≤ n * (2 : ℚ) ^ lastPlace q := by
  have hplace : (0 : ℚ) < (2 : ℚ) ^ lastPlace q := by positivity
  have hshare : q / (2 : ℚ) ^ lastPlace q < n + 1 / 2 := (div_lt_iff₀ hplace).mpr h
  have hround := (abs_le.mp (abs_roundHalfEven_sub (q / (2 : ℚ) ^ lastPlace q))).2
  have hbelow : roundHalfEven (q / (2 : ℚ) ^ lastPlace q) < n + 1 := by
    have hcast : (roundHalfEven (q / (2 : ℚ) ^ lastPlace q) : ℚ) < ((n + 1 : ℤ) : ℚ) := by
      push_cast
      linarith
    exact_mod_cast hcast
  have hle : (roundHalfEven (q / (2 : ℚ) ^ lastPlace q) : ℚ) ≤ n := by
    exact_mod_cast Int.lt_add_one_iff.mp hbelow
  unfold nearest
  gcongr

theorem ofRat_fin {q : ℚ} (h : |q| ≤ (2 : ℚ) ^ (1022 : ℤ)) : ofRat q = fin (nearest q) := by
  obtain ⟨v, hv, -⟩ := ofRat_near (by norm_num) le_rfl h
  rw [hv]
  rw [ofRat_eq] at hv
  split at hv
  · cases hv
  · exact hv.symm

theorem abs_le_of_eighth {q s : ℚ} (hs : IsDouble (fin s)) (h : |q| ≤ |s| / 8) :
    |q| ≤ (2 : ℚ) ^ (1021 : ℤ) := by
  have hlarge := abs_lt_of_double hs
  have hpow : (2 : ℚ) ^ (1024 : ℤ) = 8 * (2 : ℚ) ^ (1021 : ℤ) := by
    rw [show (1024 : ℤ) = 3 + 1021 by norm_num, zpow_add₀ (by norm_num)]
    norm_num
  rw [hpow] at hlarge
  generalize (2 : ℚ) ^ (1021 : ℤ) = bound at hlarge ⊢
  linarith

theorem abs_le_of_one {q : ℚ} (h : |q| ≤ 1) (n : ℕ) : |q| ≤ (2 : ℚ) ^ (n : ℤ) :=
  h.trans (one_le_zpow₀ (by norm_num) (Int.natCast_nonneg n))

theorem roundTo_fin {digits : ℕ} {q : ℚ} (h : |q| ≤ (2 : ℚ) ^ (1021 : ℤ)) :
    ∃ v, (fin q).roundTo digits = fin v := by
  have hpow : (0 : ℚ) < 10 ^ digits := by positivity
  have hround := abs_roundHalfEven_le (q * 10 ^ digits)
  rw [abs_mul, abs_of_pos hpow] at hround
  refine ⟨_, ofRat_fin ?_⟩
  have hdouble : (2 : ℚ) ^ (1022 : ℤ) = 2 * (2 : ℚ) ^ (1021 : ℤ) := by
    rw [← zpow_one_add₀ (by norm_num)]
    norm_num
  rw [abs_div, abs_of_pos hpow, div_le_iff₀ hpow, hdouble]
  have hscaled := mul_le_mul_of_nonneg_right h hpow.le
  linarith

theorem sub_exact_of_close {a b : ℚ} (ha : IsDouble (fin a)) (hb : IsDouble (fin b)) (hpos : 0 < b)
    (h : |a - b| ≤ b / 2) : (fin a).sub (fin b) = fin (a - b) := by
  have hle := abs_le.mp h
  refine sub_exact ha hb ?_ ?_
  · rw [abs_of_pos (by linarith : 0 < a)]
    linarith
  · rw [abs_of_pos hpos]
    linarith

end PyFloat

end py
