-- The order of floats: what is below and above zero, and the operators of
-- Python values on two floats.
import Asoe.Lib.PyArith
import Asoe.Lib.DecimalRounding

namespace py

namespace PyFloat

/-! ## Rounding to a float -/

theorem pow2_pos (k : ℤ) : 0 < pow2 k := by
  cases k with
  | ofNat n =>
    change (0 : ℚ) < ((2 ^ n : ℕ) : ℚ)
    positivity
  | negSucc n =>
    change (0 : ℚ) < mkRat 1 (2 ^ (n + 1))
    rw [Rat.mkRat_eq_div]
    positivity

theorem ofRat_nonpos {q : ℚ} (h : q ≤ 0) : (ofRat q).le (fin 0) = true := by
  unfold ofRat
  split
  · rfl
  · rename_i hne
    have hulp := pow2_pos (Max.max (exponentOf q - 52) (-1074))
    have hround : roundHalfEven (q / pow2 (Max.max (exponentOf q - 52) (-1074))) ≤ 0 :=
      roundHalfEven_nonpos (div_nonpos_of_nonpos_of_nonneg h hulp.le)
    have hv : (roundHalfEven (q / pow2 (Max.max (exponentOf q - 52) (-1074))) : ℚ) *
        pow2 (Max.max (exponentOf q - 52) (-1074)) ≤ 0 :=
      mul_nonpos_of_nonpos_of_nonneg (by exact_mod_cast hround) hulp.le
    dsimp only
    split
    · rename_i hbig
      have hneg : (roundHalfEven (q / pow2 (Max.max (exponentOf q - 52) (-1074))) : ℚ) *
          pow2 (Max.max (exponentOf q - 52) (-1074)) < 0 := by
        rcases hv.lt_or_eq with hlt | heq
        · exact hlt
        · rw [heq, abs_zero] at hbig
          exact absurd hbig (not_le.mpr (pow2_pos 1024))
      simp [le, lt, hneg]
    · simp only [le, lt, eq, Bool.or_eq_true, decide_eq_true_eq, fin.injEq]
      exact hv.lt_or_eq

/-! ## Comparing floats -/

theorem not_zero_lt_of_le {x : PyFloat} (h : x.le (fin 0) = true) : (fin 0).lt x = false := by
  cases x with
  | nan => rfl
  | inf s => cases s <;> simp_all [le, lt, eq]
  | fin a =>
    simp only [le, lt, eq, Bool.or_eq_true, decide_eq_true_eq, fin.injEq] at h
    simp only [lt, decide_eq_false_iff_not, not_lt]
    exact h.elim le_of_lt le_of_eq

theorem pos_or_nan {x : PyFloat} (h : x.le (fin 0) = false) : (fin 0).lt x = true ∨ x = nan := by
  cases x with
  | nan => exact Or.inr rfl
  | inf s => cases s <;> simp_all [le, lt, eq]
  | fin a =>
    simp only [le, lt, eq, Bool.or_eq_false_iff, decide_eq_false_iff_not, not_lt, fin.injEq,
      decide_eq_true_eq] at *
    exact Or.inl (lt_of_le_of_ne h.1 (Ne.symm h.2))

theorem zero_lt_of_lt {thr x : PyFloat} (hthr : (fin 0).le thr = true) (h : thr.lt x = true) :
    (fin 0).lt x = true := by
  cases thr with
  | nan => cases hthr
  | inf s => cases s <;> cases x <;> simp_all [le, lt, eq]
  | fin t =>
    cases x with
    | nan => cases h
    | inf s => exact h
    | fin a =>
      simp only [le, lt, eq, Bool.or_eq_true, decide_eq_true_eq, fin.injEq] at *
      rcases hthr with hpos | hzero
      · linarith
      · rw [hzero]
        exact h

theorem le_eq_false_of_le_zero {thr x : PyFloat} (hthr : (fin 0).lt thr = true)
    (hx : x.le (fin 0) = true) : thr.le x = false := by
  cases thr with
  | nan => cases hthr
  | inf s => cases s <;> cases x <;> simp_all [le, lt, eq]
  | fin t =>
    cases x with
    | nan => rfl
    | inf s => cases s <;> simp_all [le, lt, eq]
    | fin a =>
      simp only [le, lt, eq, Bool.or_eq_true, decide_eq_true_eq, fin.injEq,
        Bool.or_eq_false_iff, decide_eq_false_iff_not, not_lt] at *
      have ha : a ≤ 0 := hx.elim le_of_lt le_of_eq
      exact ⟨by linarith, by intro heq; linarith⟩

end PyFloat

/-! ## Floats as values -/

theorem leNumber_float (x y : PyFloat) : leNumber (.inr x) (.inr y) = x.le y := by
  cases x <;> cases y <;> rfl

theorem ltNumber_float (x y : PyFloat) : ltNumber (.inr x) (.inr y) = x.lt y := by
  cases x <;> cases y <;> rfl

theorem compare_float (op : PyVal.CmpOp) (x y : PyFloat) :
    (PyVal.float x).compare op (.float y) = .ok (op.holds PyFloat.lt PyFloat.le x y) := by
  cases op <;>
    simp [PyVal.compare, PyVal.number?, PyVal.CmpOp.holds, leNumber_float, ltNumber_float]

theorem compare_float_zero (op : PyVal.CmpOp) (x : PyFloat) :
    (PyVal.float x).compare op (.int 0) = .ok (op.holds PyFloat.lt PyFloat.le x (.fin 0)) := by
  have hlt : ltNumber (.inr x) (.inl 0) = x.lt (.fin 0) := by
    cases x <;> simp [ltNumber, PyFloat.lt]
  have hgt : ltNumber (.inl 0) (.inr x) = (PyFloat.fin 0).lt x := by
    cases x <;> simp [ltNumber, PyFloat.lt]
  have heq : PyVal.eqNumber (.inr x) (.inl 0) = x.eq (.fin 0) := by
    cases x <;> simp [PyVal.eqNumber, PyFloat.eq, eq_comm]
  have heq' : PyVal.eqNumber (.inl 0) (.inr x) = (PyFloat.fin 0).eq x := by
    cases x <;> simp [PyVal.eqNumber, PyFloat.eq, eq_comm]
  cases op <;>
    simp [PyVal.compare, PyVal.number?, PyVal.CmpOp.holds, leNumber, PyFloat.le, hlt, hgt, heq,
      heq']

theorem sub_float (x y : PyFloat) : (PyVal.float x).sub (.float y) = .ok (.float (x.sub y)) := rfl

theorem mul_float (x y : PyFloat) : (PyVal.float x).mul (.float y) = .ok (.float (x.mul y)) := rfl

theorem round_float (digits : ℕ) (x : PyFloat) :
    (PyVal.float x).round digits = .ok (.float (x.roundTo digits)) := rfl

theorem format_float (spec : PyFloat → String) (x : PyFloat) :
    (PyVal.float x).format spec = .ok (spec x) := rfl

theorem div_float (x y : PyFloat) :
    (PyVal.float x).div (.float y) =
      match x.div? y with
      | some z => .ok (.float z)
      | none => .error ⟨"ZeroDivisionError", "float division by zero"⟩ := rfl

theorem maxZero_float (x : PyFloat) :
    (PyVal.float x).maxZero = .ok (.float ((PyFloat.fin 0).max x)) := by
  simp only [PyVal.maxZero, compare_float, PyVal.CmpOp.holds, PyFloat.max]
  by_cases h : (PyFloat.fin 0).lt x = true <;> simp [h, pure, Except.pure, bind, Except.bind]

end py
