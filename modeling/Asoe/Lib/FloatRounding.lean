-- How far a rounding to a float moves a number, and that it keeps the order;
-- how far the sum of floats is from the exact sum.
import Asoe.Lib.DecimalRounding
import Asoe.Lib.FloatOrder
import Mathlib.Algebra.Order.Field.Power
import Mathlib.Tactic.NormNum
import Mathlib.Tactic.Ring

namespace py

namespace PyFloat

/-! ## Powers of two -/

theorem pow2_eq (k : ℤ) : pow2 k = (2 : ℚ) ^ k := by
  cases k with
  | ofNat n =>
    change ((2 ^ n : ℕ) : ℚ) = (2 : ℚ) ^ ((n : ℕ) : ℤ)
    rw [zpow_natCast]
    push_cast
    rfl
  | negSucc n =>
    change mkRat 1 (2 ^ (n + 1)) = (2 : ℚ) ^ (Int.negSucc n)
    rw [Rat.mkRat_eq_div, zpow_negSucc]
    push_cast
    rw [one_div]

theorem two_zpow_mono {i j : ℤ} (h : i ≤ j) : (2 : ℚ) ^ i ≤ (2 : ℚ) ^ j :=
  zpow_le_zpow_right₀ (by norm_num) h

theorem two_zpow_multiple {i j : ℤ} (h : i ≤ j) : ∃ n : ℤ, (2 : ℚ) ^ j = n * (2 : ℚ) ^ i := by
  refine ⟨2 ^ (j - i).toNat, ?_⟩
  have hsplit : j = ((j - i).toNat : ℤ) + i := by omega
  conv_lhs => rw [hsplit]
  rw [zpow_add₀ (by norm_num), zpow_natCast]
  push_cast
  rfl

/-! ## The exponent of a number -/

theorem log2_bounds {n : ℕ} (h : n ≠ 0) :
    (2 : ℚ) ^ (n.log2 : ℤ) ≤ n ∧ (n : ℚ) < (2 : ℚ) ^ ((n.log2 : ℤ) + 1) := by
  have hlow : 2 ^ n.log2 ≤ n := Nat.log2_self_le h
  have hhigh : n < 2 ^ (n.log2 + 1) := Nat.lt_log2_self
  constructor
  · rw [zpow_natCast]
    exact_mod_cast hlow
  · have hcast : ((n.log2 : ℤ) + 1) = ((n.log2 + 1 : ℕ) : ℤ) := by push_cast; rfl
    rw [hcast, zpow_natCast]
    exact_mod_cast hhigh

theorem abs_eq_num_div_den (q : ℚ) : |q| = (q.num.natAbs : ℚ) / q.den := by
  conv_lhs => rw [← Rat.num_div_den q]
  rw [abs_div, Nat.abs_cast, Nat.cast_natAbs, Int.cast_abs]

theorem exponentOf_bounds {q : ℚ} (h : q ≠ 0) :
    (2 : ℚ) ^ exponentOf q ≤ |q| ∧ |q| < (2 : ℚ) ^ (exponentOf q + 1) := by
  have hnum : q.num.natAbs ≠ 0 := by simpa using h
  have hden : q.den ≠ 0 := q.den_nz
  obtain ⟨hnlow, hnhigh⟩ := log2_bounds hnum
  obtain ⟨hdlow, hdhigh⟩ := log2_bounds hden
  have hdpos : (0 : ℚ) < q.den := by exact_mod_cast q.den_pos
  have habs := abs_eq_num_div_den q
  -- the quotient of the two leading powers is off by less than a factor of two
  have hhigh : |q| < (2 : ℚ) ^ ((q.num.natAbs.log2 : ℤ) - q.den.log2 + 1) := by
    rw [habs, div_lt_iff₀ hdpos]
    calc (q.num.natAbs : ℚ) < (2 : ℚ) ^ ((q.num.natAbs.log2 : ℤ) + 1) := hnhigh
      _ = (2 : ℚ) ^ ((q.num.natAbs.log2 : ℤ) - q.den.log2 + 1) * (2 : ℚ) ^ (q.den.log2 : ℤ) := by
        rw [← zpow_add₀ (by norm_num)]
        congr 1
        ring
      _ ≤ (2 : ℚ) ^ ((q.num.natAbs.log2 : ℤ) - q.den.log2 + 1) * q.den := by gcongr
  have hlow : (2 : ℚ) ^ ((q.num.natAbs.log2 : ℤ) - q.den.log2 - 1) ≤ |q| := by
    rw [habs, le_div_iff₀ hdpos]
    calc (2 : ℚ) ^ ((q.num.natAbs.log2 : ℤ) - q.den.log2 - 1) * q.den
        ≤ (2 : ℚ) ^ ((q.num.natAbs.log2 : ℤ) - q.den.log2 - 1) *
          (2 : ℚ) ^ ((q.den.log2 : ℤ) + 1) := by gcongr
      _ = (2 : ℚ) ^ (q.num.natAbs.log2 : ℤ) := by
        rw [← zpow_add₀ (by norm_num)]
        congr 1
        ring
      _ ≤ q.num.natAbs := hnlow
  unfold exponentOf
  dsimp only
  rw [pow2_eq]
  split
  · rename_i hk
    exact ⟨hk, hhigh⟩
  · rename_i hk
    refine ⟨hlow, ?_⟩
    rw [sub_add_cancel]
    exact not_le.mp hk

theorem exponentOf_mono {p q : ℚ} (hp : p ≠ 0) (h : |p| ≤ |q|) : exponentOf p ≤ exponentOf q := by
  have hq : q ≠ 0 := by
    intro hzero
    rw [hzero, abs_zero] at h
    exact hp (abs_nonpos_iff.mp h)
  by_contra hlt
  have hstep : (2 : ℚ) ^ (exponentOf q + 1) ≤ (2 : ℚ) ^ exponentOf p := two_zpow_mono (by omega)
  have hphigh := (exponentOf_bounds hp).1
  have hqlow := (exponentOf_bounds hq).2
  linarith

/-! ## The nearest float -/

/-- The exponent of the last place of a number. -/
def lastPlace (q : ℚ) : ℤ := Max.max (exponentOf q - 52) (-1074)

/-- The float nearest to a number, before it is too large. -/
def nearest (q : ℚ) : ℚ := roundHalfEven (q / (2 : ℚ) ^ lastPlace q) * (2 : ℚ) ^ lastPlace q

theorem ofRat_eq (q : ℚ) :
    ofRat q =
      if (2 : ℚ) ^ (1024 : ℤ) ≤ |nearest q| then inf (nearest q < 0) else fin (nearest q) := by
  unfold ofRat
  split
  · rename_i hzero
    have hnearest : nearest q = 0 := by
      unfold nearest
      rw [hzero, zero_div, roundHalfEven_zero, Int.cast_zero, zero_mul]
    have hpos : (0 : ℚ) < (2 : ℚ) ^ (1024 : ℤ) := by positivity
    rw [hnearest, abs_zero, if_neg (not_le.mpr hpos)]
  · dsimp only
    rw [pow2_eq, pow2_eq]
    rfl

theorem abs_nearest_sub (q : ℚ) : |nearest q - q| ≤ (2 : ℚ) ^ lastPlace q / 2 := by
  have hplace : (0 : ℚ) < (2 : ℚ) ^ lastPlace q := by positivity
  have hround := abs_roundHalfEven_sub (q / (2 : ℚ) ^ lastPlace q)
  have heq : nearest q - q =
      (roundHalfEven (q / (2 : ℚ) ^ lastPlace q) - q / (2 : ℚ) ^ lastPlace q) *
        (2 : ℚ) ^ lastPlace q := by
    unfold nearest
    field_simp
  rw [heq, abs_mul, abs_of_pos hplace]
  calc |(roundHalfEven (q / (2 : ℚ) ^ lastPlace q) : ℚ) - q / (2 : ℚ) ^ lastPlace q| *
        (2 : ℚ) ^ lastPlace q ≤ 1 / 2 * (2 : ℚ) ^ lastPlace q := by gcongr
    _ = (2 : ℚ) ^ lastPlace q / 2 := by ring

/-- Up to a power of two, the rounding moves a number by at most a 53rd part
of binary places. -/
theorem abs_nearest_sub_le {q : ℚ} {n : ℤ} (hn : -1022 ≤ n) (h : |q| ≤ (2 : ℚ) ^ n) :
    |nearest q - q| ≤ (2 : ℚ) ^ (n - 53) := by
  by_cases hzero : q = 0
  · have hnearest : nearest q = 0 := by
      unfold nearest
      rw [hzero, zero_div, roundHalfEven_zero, Int.cast_zero, zero_mul]
    rw [hnearest, hzero, sub_zero, abs_zero]
    positivity
  have hexponent : exponentOf q ≤ n := by
    by_contra hlt
    have hstep : (2 : ℚ) ^ (n + 1) ≤ (2 : ℚ) ^ exponentOf q := two_zpow_mono (by omega)
    have hlow := (exponentOf_bounds hzero).1
    have hdouble : (2 : ℚ) ^ (n + 1) = 2 * (2 : ℚ) ^ n := by
      rw [zpow_add₀ (by norm_num), zpow_one, mul_comm]
    have hpos : (0 : ℚ) < (2 : ℚ) ^ n := by positivity
    linarith
  have hplace : lastPlace q ≤ n - 52 := by
    unfold lastPlace
    omega
  calc |nearest q - q| ≤ (2 : ℚ) ^ lastPlace q / 2 := abs_nearest_sub q
    _ ≤ (2 : ℚ) ^ (n - 52) / 2 := by
      have := two_zpow_mono hplace
      linarith
    _ = (2 : ℚ) ^ (n - 53) := by
      have hsplit : n - 52 = n - 53 + 1 := by omega
      rw [hsplit, zpow_add₀ (by norm_num), zpow_one]
      ring

theorem ofRat_near {q : ℚ} {n : ℤ} (hn : -1022 ≤ n) (hsmall : n ≤ 1022) (h : |q| ≤ (2 : ℚ) ^ n) :
    ∃ v, ofRat q = fin v ∧ |v - q| ≤ (2 : ℚ) ^ (n - 53) := by
  have hnear := abs_nearest_sub_le hn h
  refine ⟨nearest q, ?_, hnear⟩
  rw [ofRat_eq, if_neg]
  rw [not_le]
  have hsum : |nearest q| ≤ |nearest q - q| + |q| := by
    have := abs_add_le (nearest q - q) q
    rwa [sub_add_cancel] at this
  have hone : (2 : ℚ) ^ (n - 53) ≤ (2 : ℚ) ^ n := two_zpow_mono (by omega)
  have hdouble : (2 : ℚ) ^ (n + 1) = 2 * (2 : ℚ) ^ n := by
    rw [zpow_add₀ (by norm_num), zpow_one, mul_comm]
  have hlast : (2 : ℚ) ^ (n + 1) < (2 : ℚ) ^ (1024 : ℤ) :=
    zpow_lt_zpow_right₀ (by norm_num) (by omega)
  linarith

/-! ## The order of the roundings -/

theorem nearest_nonneg {q : ℚ} (h : 0 ≤ q) : 0 ≤ nearest q := by
  have hplace : (0 : ℚ) < (2 : ℚ) ^ lastPlace q := by positivity
  have hround : (0 : ℚ) ≤ roundHalfEven (q / (2 : ℚ) ^ lastPlace q) := by
    exact_mod_cast roundHalfEven_nonneg (div_nonneg h hplace.le)
  exact mul_nonneg hround hplace.le

theorem nearest_le_multiple {q : ℚ} {n : ℤ} (h : q ≤ n * (2 : ℚ) ^ lastPlace q) :
    nearest q ≤ n * (2 : ℚ) ^ lastPlace q := by
  have hplace : (0 : ℚ) < (2 : ℚ) ^ lastPlace q := by positivity
  have hround : roundHalfEven (q / (2 : ℚ) ^ lastPlace q) ≤ n := by
    have := roundHalfEven_mono ((div_le_iff₀ hplace).mpr h)
    rwa [roundHalfEven_int] at this
  unfold nearest
  gcongr

theorem multiple_le_nearest {q : ℚ} {n : ℤ} (h : n * (2 : ℚ) ^ lastPlace q ≤ q) :
    n * (2 : ℚ) ^ lastPlace q ≤ nearest q := by
  have hplace : (0 : ℚ) < (2 : ℚ) ^ lastPlace q := by positivity
  have hround : n ≤ roundHalfEven (q / (2 : ℚ) ^ lastPlace q) := by
    have := roundHalfEven_mono ((le_div_iff₀ hplace).mpr h)
    rwa [roundHalfEven_int] at this
  unfold nearest
  gcongr

theorem nearest_mono {p q : ℚ} (hp : 0 ≤ p) (h : p ≤ q) : nearest p ≤ nearest q := by
  rcases hp.eq_or_lt with rfl | hpos
  · have hzero : nearest 0 = 0 := by
      unfold nearest
      rw [zero_div, roundHalfEven_zero, Int.cast_zero, zero_mul]
    rw [hzero]
    exact nearest_nonneg h
  have hqpos : 0 < q := lt_of_lt_of_le hpos h
  have hexponents : exponentOf p ≤ exponentOf q :=
    exponentOf_mono hpos.ne' (by rwa [abs_of_pos hpos, abs_of_pos hqpos])
  have hplaces : lastPlace p ≤ lastPlace q := by
    unfold lastPlace
    omega
  rcases hplaces.eq_or_lt with heq | hlt
  · unfold nearest
    rw [← heq]
    have hplace : (0 : ℚ) < (2 : ℚ) ^ lastPlace p := by positivity
    have hround := roundHalfEven_mono (div_le_div_of_nonneg_right h hplace.le)
    gcongr
  · -- in different binades, the power of two between them separates the roundings
    have hexponent : exponentOf p + 1 ≤ exponentOf q ∧ lastPlace q = exponentOf q - 52 := by
      unfold lastPlace at hlt ⊢
      omega
    obtain ⟨m, hm⟩ := two_zpow_multiple (i := lastPlace p) (j := exponentOf q)
      (by unfold lastPlace at hlt ⊢; omega)
    obtain ⟨n, hn⟩ := two_zpow_multiple (i := lastPlace q) (j := exponentOf q) (by omega)
    have hpbelow : p ≤ m * (2 : ℚ) ^ lastPlace p := by
      rw [← hm]
      calc p = |p| := (abs_of_pos hpos).symm
        _ ≤ (2 : ℚ) ^ (exponentOf p + 1) := (exponentOf_bounds hpos.ne').2.le
        _ ≤ (2 : ℚ) ^ exponentOf q := two_zpow_mono hexponent.1
    have hqabove : n * (2 : ℚ) ^ lastPlace q ≤ q := by
      rw [← hn]
      calc (2 : ℚ) ^ exponentOf q ≤ |q| := (exponentOf_bounds hqpos.ne').1
        _ = q := abs_of_pos hqpos
    calc nearest p ≤ m * (2 : ℚ) ^ lastPlace p := nearest_le_multiple hpbelow
      _ = n * (2 : ℚ) ^ lastPlace q := by rw [← hm, hn]
      _ ≤ nearest q := multiple_le_nearest hqabove

theorem ofRat_mono {p q : ℚ} (hp : 0 ≤ p) (h : p ≤ q) : (ofRat p).le (ofRat q) = true := by
  have hmono := nearest_mono hp h
  have hpos := nearest_nonneg hp
  have hqpos : 0 ≤ nearest q := hpos.trans hmono
  rw [ofRat_eq, ofRat_eq, abs_of_nonneg hpos, abs_of_nonneg hqpos]
  by_cases hlarge : (2 : ℚ) ^ (1024 : ℤ) ≤ nearest p
  · have hqlarge : (2 : ℚ) ^ (1024 : ℤ) ≤ nearest q := hlarge.trans hmono
    rw [if_pos hlarge, if_pos hqlarge]
    simp [le, lt, eq, not_lt.mpr hpos, not_lt.mpr hqpos]
  · rw [if_neg hlarge]
    split
    · simp [le, lt, not_lt.mpr hqpos]
    · simp only [le, lt, eq, Bool.or_eq_true, decide_eq_true_eq, fin.injEq]
      exact hmono.lt_or_eq

theorem le_fin {a b : ℚ} : (fin a).le (fin b) = true ↔ a ≤ b := by
  simp only [le, lt, eq, Bool.or_eq_true, decide_eq_true_eq, fin.injEq]
  exact le_iff_lt_or_eq.symm

theorem le_trans {x y z : PyFloat} (hxy : x.le y = true) (hyz : y.le z = true) :
    x.le z = true := by
  cases x with
  | nan => cases hxy
  | inf s =>
    cases y with
    | nan => cases hxy
    | inf t => cases z <;> cases s <;> cases t <;> simp_all [le, lt, eq]
    | fin b => cases z <;> cases s <;> simp_all [le, lt, eq]
  | fin a =>
    cases y with
    | nan => cases hxy
    | inf t => cases z <;> cases t <;> simp_all [le, lt, eq]
    | fin b =>
      cases z with
      | nan => cases hyz
      | inf u => simpa [le, lt, eq] using hyz
      | fin c =>
        rw [le_fin] at hxy hyz ⊢
        exact hxy.trans hyz

theorem ofRat_unit {q : ℚ} (hlow : 0 ≤ q) (hhigh : q ≤ 1) :
    ∃ v, ofRat q = fin v ∧ 0 ≤ v ∧ v ≤ 1 ∧ |v - q| ≤ (2 : ℚ) ^ (-53 : ℤ) := by
  have habs : |q| ≤ (2 : ℚ) ^ (0 : ℤ) := by
    rw [abs_of_nonneg hlow, zpow_zero]
    exact hhigh
  obtain ⟨v, hv, hnear⟩ := ofRat_near (by norm_num) (by norm_num) habs
  have hzero : ofRat 0 = fin 0 := by decide +kernel
  have hone : ofRat 1 = fin 1 := by decide +kernel
  have hbelow := ofRat_mono hlow hhigh
  have habove := ofRat_mono le_rfl hlow
  rw [hv, hone, le_fin] at hbelow
  rw [hv, hzero, le_fin] at habove
  exact ⟨v, hv, habove, hbelow, by simpa using hnear⟩

/-! ## The sum of floats -/

/-- The step of the rounding that the sums below allow for. -/
def sumError : ℚ := (2 : ℚ) ^ (-40 : ℤ)

theorem sumError_pos : 0 < sumError := by
  unfold sumError
  positivity

theorem add_near {a b : ℚ} (h : |a + b| ≤ 8192) :
    ∃ v, add (fin a) (fin b) = fin v ∧ |v - (a + b)| ≤ sumError := by
  have hbound : |a + b| ≤ (2 : ℚ) ^ (13 : ℤ) := by norm_num; exact h
  exact ofRat_near (by norm_num) (by norm_num) hbound

/-- What the loop has gathered is near the exact sum. -/
structure Near (n : ℕ) (total s c : ℚ) : Prop where
  sum_near : |s - total| ≤ n * sumError
  correction : |c| ≤ 4 * n * sumError
  bounds : 0 ≤ total ∧ total ≤ n

theorem sumError_le : sumError ≤ 1 / 1000000000000 * 2 := by
  unfold sumError
  norm_num

/-- The correction of one addition is of the size of its error. -/
theorem correction_near {a b t c : ℚ} (ht : |t - (a + b)| ≤ sumError) (hb : |b| ≤ 4000)
    (hc : |c| ≤ 4000) :
    ∃ c', add (fin c) (add (sub (fin a) (fin t)) (fin b)) = fin c' ∧
      |c'| ≤ |c| + 4 * sumError := by
  have hsmall := sumError_le
  rw [abs_le] at ht hb
  have hdiff : |a + -t| ≤ 8192 := by
    rw [abs_le]
    constructor <;> linarith
  obtain ⟨d, hd, hdnear⟩ := add_near hdiff
  rw [abs_le] at hdnear
  have hsum : |d + b| ≤ 8192 := by
    rw [abs_le]
    constructor <;> linarith
  obtain ⟨e, he, henear⟩ := add_near hsum
  rw [abs_le] at henear
  have hesmall : |e| ≤ 3 * sumError := by
    rw [abs_le]
    constructor <;> linarith
  have hlast : |c + e| ≤ 8192 := by
    have := abs_add_le c e
    linarith
  obtain ⟨c', hc', hcnear⟩ := add_near hlast
  refine ⟨c', ?_, ?_⟩
  · change add (fin c) (add (add (fin a) (fin (-t))) (fin b)) = fin c'
    rw [hd, he, hc']
  · have hadd := abs_add_le c e
    have hback := abs_add_le (c' - (c + e)) (c + e)
    rw [sub_add_cancel] at hback
    linarith

theorem sum_step {n : ℕ} {total s c x : ℚ} (h : Near n total s c) (hn : n ≤ 1000)
    (hlow : 0 ≤ x) (hhigh : x ≤ 1) :
    ∃ t c', add (fin s) (fin x) = fin t ∧
      (if le (abs (fin x)) (abs (fin s)) then add (fin c) (add (sub (fin s) (fin t)) (fin x))
        else add (fin c) (add (sub (fin x) (fin t)) (fin s))) = fin c' ∧
      Near (n + 1) (total + x) t c' := by
  have hsmall := sumError_le
  have hpos := sumError_pos
  have hcount : (n : ℚ) ≤ 1000 := by exact_mod_cast hn
  have hdrift : (n : ℚ) * sumError ≤ 1 := by nlinarith
  obtain ⟨hsum, hcorrection, htotal⟩ := h
  have hs := abs_le.mp hsum
  have hsbound : |s| ≤ 4000 := by
    rw [abs_le]
    constructor <;> linarith
  have hxbound : |x| ≤ 4000 := by
    rw [abs_le]
    constructor <;> linarith
  have hcbound : |c| ≤ 4000 := by linarith
  have hadd : |s + x| ≤ 8192 := by
    have := abs_add_le s x
    linarith
  obtain ⟨t, ht, htnear⟩ := add_near hadd
  have hswapped : |t - (x + s)| ≤ sumError := by rwa [add_comm x s]
  have hnext : ∀ c', |c'| ≤ |c| + 4 * sumError → Near (n + 1) (total + x) t c' := by
    intro c' hc'
    refine ⟨?_, ?_, ?_, ?_⟩
    · rw [abs_le] at htnear ⊢
      push_cast
      constructor <;> linarith
    · push_cast
      linarith
    · linarith
    · push_cast
      linarith
  split
  · obtain ⟨c', hc', hbound⟩ := correction_near htnear hxbound hcbound
    exact ⟨t, c', ht, hc', hnext c' hbound⟩
  · obtain ⟨c', hc', hbound⟩ := correction_near hswapped hsbound hcbound
    exact ⟨t, c', ht, hc', hnext c' hbound⟩

theorem sumLoop_near {xs : List ℚ} {n : ℕ} {total s c : ℚ} (h : Near n total s c)
    (hn : n + xs.length ≤ 1000) (hxs : ∀ x ∈ xs, 0 ≤ x ∧ x ≤ 1) :
    ∃ v, sumLoop (fin s) (fin c) (xs.map fin) = fin v ∧
      |v - (total + xs.sum)| ≤ (5 * (n + xs.length) + 1) * sumError := by
  have hsmall := sumError_le
  have hpos := sumError_pos
  induction xs generalizing n total s c with
  | nil =>
    have hcount : (n : ℚ) ≤ 1000 := by exact_mod_cast (by simpa using hn)
    have hdrift : (n : ℚ) * sumError ≤ 1 := by nlinarith
    obtain ⟨hsum, hcorrection, htotal⟩ := h
    have hs := abs_le.mp hsum
    have hc := abs_le.mp hcorrection
    simp only [List.map_nil, sumLoop, List.sum_nil, add_zero, List.length_nil, Nat.cast_zero]
    split
    · refine ⟨s, rfl, ?_⟩
      rw [abs_le]
      constructor <;> nlinarith
    · have hadd : |s + c| ≤ 8192 := by
        rw [abs_le]
        constructor <;> linarith
      obtain ⟨v, hv, hvnear⟩ := add_near hadd
      refine ⟨v, hv, ?_⟩
      rw [abs_le] at hvnear ⊢
      constructor <;> nlinarith
  | cons x xs ih =>
    obtain ⟨hlow, hhigh⟩ := hxs x (by simp)
    rw [List.length_cons] at hn
    obtain ⟨t, c', ht, hc', hnext⟩ := sum_step h (by omega) hlow hhigh
    obtain ⟨v, hv, hvnear⟩ := ih hnext (by omega) fun y hy => hxs y (by simp [hy])
    refine ⟨v, ?_, ?_⟩
    · rw [List.map_cons, sumLoop, ht, hc', hv]
    · rw [List.sum_cons, List.length_cons]
      push_cast at hvnear ⊢
      rw [← add_assoc]
      calc |v - (total + x + xs.sum)|
          ≤ (5 * ((n : ℚ) + 1 + xs.length) + 1) * sumError := hvnear
        _ = (5 * ((n : ℚ) + (xs.length + 1)) + 1) * sumError := by ring

theorem sum_near {xs : List ℚ} (hlength : xs.length ≤ 1000) (hxs : ∀ x ∈ xs, 0 ≤ x ∧ x ≤ 1) :
    ∃ v, sum (xs.map fin) = fin v ∧ |v - xs.sum| ≤ (5 * xs.length + 1) * sumError := by
  have hstart : Near 0 0 0 0 := ⟨by simp, by simp, le_rfl, by simp⟩
  obtain ⟨v, hv, hnear⟩ := sumLoop_near hstart (by simpa using hlength) hxs
  exact ⟨v, hv, by simpa using hnear⟩

theorem sumLoop_nan (c : PyFloat) (xs : List PyFloat) : sumLoop nan c xs = nan := by
  induction xs generalizing c with
  | nil =>
    unfold sumLoop
    split
    · split <;> rfl
    · rfl
  | cons x xs ih =>
    have hadd : add nan x = nan := by cases x <;> rfl
    rw [sumLoop, hadd]
    exact ih _

theorem sum_nan {xs : List PyFloat} (h : nan ∈ xs) : sum xs = nan := by
  have hloop : ∀ s c, sumLoop s c xs = nan := by
    induction xs with
    | nil => cases h
    | cons x xs ih =>
      intro s c
      rw [sumLoop]
      rcases List.mem_cons.mp h with rfl | hmem
      · have hadd : add s nan = nan := by cases s <;> rfl
        rw [hadd]
        exact sumLoop_nan _ xs
      · exact ih hmem _ _
  exact hloop _ _

/-! ## Sums of rounded decimals -/

theorem ofRat_of_unit {q : ℚ} (hlow : 0 ≤ q) (hhigh : q ≤ 1) : ofRat q = fin (nearest q) := by
  obtain ⟨v, hv, -⟩ := ofRat_unit hlow hhigh
  rw [ofRat_eq] at hv ⊢
  split at hv
  · cases hv
  · rename_i hsmall
    rw [if_neg hsmall]

theorem roundHalfEven_near {q : ℚ} {n : ℤ} (h : |q - n| < 1 / 2) : roundHalfEven q = n := by
  have hround := abs_le.mp (abs_roundHalfEven_sub q)
  have hnear := abs_lt.mp h
  have hlow : ((roundHalfEven q - n : ℤ) : ℚ) < 1 := by push_cast; linarith
  have hhigh : (-1 : ℚ) < ((roundHalfEven q - n : ℤ) : ℚ) := by push_cast; linarith
  have hlow' : roundHalfEven q - n < 1 := by exact_mod_cast hlow
  have hhigh' : -1 < roundHalfEven q - n := by exact_mod_cast hhigh
  omega

theorem sum_nearest_near {ns : List ℤ} (hns : ∀ n ∈ ns, 0 ≤ n ∧ n ≤ 10 ^ 6) :
    |(ns.map fun n : ℤ => nearest (n / 10 ^ 6)).sum - (ns.sum : ℚ) / 10 ^ 6| ≤
      ns.length * sumError := by
  induction ns with
  | nil => simp
  | cons n ns ih =>
    have htail := ih fun m hm => hns m (by simp [hm])
    obtain ⟨hlow, hhigh⟩ := hns n (by simp)
    have hq : |(n : ℚ) / 10 ^ 6| ≤ (2 : ℚ) ^ (0 : ℤ) := by
      have hn : (0 : ℚ) ≤ n := by exact_mod_cast hlow
      have hn' : (n : ℚ) ≤ 10 ^ 6 := by exact_mod_cast hhigh
      rw [abs_of_nonneg (by positivity), zpow_zero, div_le_one (by norm_num)]
      exact hn'
    have hhead : |nearest ((n : ℚ) / 10 ^ 6) - n / 10 ^ 6| ≤ sumError :=
      (abs_nearest_sub_le (by norm_num) hq).trans (two_zpow_mono (by norm_num))
    rw [List.map_cons, List.sum_cons, List.sum_cons, List.length_cons, Int.cast_add,
      Nat.cast_add, Nat.cast_one]
    rw [abs_le] at htail hhead ⊢
    constructor <;> linarith

/-- A sum of few numbers of six decimal places between zero and one, rounded
to six places, is the float of the exact sum. -/
theorem roundTo_sum {ns : List ℤ} (hlength : ns.length ≤ 1000)
    (hns : ∀ n ∈ ns, 0 ≤ n ∧ n ≤ 10 ^ 6) :
    (sum (ns.map fun n : ℤ => ofRat (n / 10 ^ 6))).roundTo 6 =
      ofRat ((ns.sum : ℚ) / 10 ^ 6) := by
  have hunit : ∀ n ∈ ns, (0 : ℚ) ≤ n / 10 ^ 6 ∧ (n : ℚ) / 10 ^ 6 ≤ 1 := by
    intro n hn
    obtain ⟨hlow, hhigh⟩ := hns n hn
    have hlow' : (0 : ℚ) ≤ n := by exact_mod_cast hlow
    have hhigh' : (n : ℚ) ≤ 10 ^ 6 := by exact_mod_cast hhigh
    refine ⟨by positivity, ?_⟩
    rw [div_le_one (by norm_num)]
    exact hhigh'
  have hfins : (ns.map fun n : ℤ => ofRat (n / 10 ^ 6)) =
      (ns.map fun n : ℤ => nearest (n / 10 ^ 6)).map fin := by
    rw [List.map_map]
    refine List.map_congr_left fun n hn => ?_
    exact ofRat_of_unit (hunit n hn).1 (hunit n hn).2
  have hbounds : ∀ x ∈ ns.map fun n : ℤ => nearest (n / 10 ^ 6), 0 ≤ x ∧ x ≤ 1 := by
    intro x hx
    obtain ⟨n, hn, rfl⟩ := List.mem_map.mp hx
    obtain ⟨v, hv, hlow, hhigh, -⟩ := ofRat_unit (hunit n hn).1 (hunit n hn).2
    rw [ofRat_of_unit (hunit n hn).1 (hunit n hn).2] at hv
    cases hv
    exact ⟨hlow, hhigh⟩
  obtain ⟨v, hv, hnear⟩ := sum_near (by simpa using hlength) hbounds
  have hexact := sum_nearest_near hns
  have hsmall := sumError_le
  have hpos := sumError_pos
  have hcount : (ns.length : ℚ) ≤ 1000 := by exact_mod_cast hlength
  rw [List.length_map] at hnear
  have hround : roundHalfEven (v * 10 ^ 6) = ns.sum := by
    apply roundHalfEven_near
    have hv' := abs_le.mp hnear
    have he' := abs_le.mp hexact
    have hscaled : v * 10 ^ 6 - (ns.sum : ℤ) = (v - (ns.sum : ℚ) / 10 ^ 6) * 10 ^ 6 := by
      field_simp
    rw [hscaled, abs_lt]
    constructor <;> nlinarith
  rw [hfins, hv]
  change ofRat (roundHalfEven (v * 10 ^ 6) / 10 ^ 6) = _
  rw [hround]

end PyFloat

end py
