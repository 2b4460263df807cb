-- Rounding half to even: to an integer, and to a number of decimal places in
-- exact arithmetic.
import Asoe.Lib.PyFloat
import Mathlib.Tactic.Linarith
import Mathlib.Tactic.Positivity
import Mathlib.Tactic.FieldSimp
import Mathlib.Tactic.GCongr
import Mathlib.Tactic.Ring

namespace py

namespace PyFloat

/-! ## Rounding to an integer -/

theorem roundHalfEven_cases (q : ℚ) :
    (q - q.floor ≤ 1 / 2 ∧ roundHalfEven q = q.floor) ∨
      (1 / 2 ≤ q - q.floor ∧ roundHalfEven q = q.floor + 1) := by
  unfold roundHalfEven
  dsimp only
  split
  · rename_i hlow
    exact Or.inl ⟨le_of_lt hlow, rfl⟩
  · rename_i hlow
    have hhalf : 1 / 2 ≤ q - q.floor := not_lt.mp hlow
    split
    · exact Or.inr ⟨hhalf, rfl⟩
    · rename_i hhigh
      split
      · exact Or.inl ⟨not_lt.mp hhigh, rfl⟩
      · exact Or.inr ⟨hhalf, rfl⟩

theorem abs_roundHalfEven_sub (q : ℚ) : |(roundHalfEven q : ℚ) - q| ≤ 1 / 2 := by
  have hfloor : (q.floor : ℚ) ≤ q := Rat.floor_le q
  have hnext : q - 1 < q.floor := Rat.lt_floor
  rw [abs_le]
  rcases roundHalfEven_cases q with ⟨hr, heq⟩ | ⟨hr, heq⟩
  · rw [heq]
    constructor <;> linarith
  · rw [heq]
    push_cast
    constructor <;> linarith

theorem roundHalfEven_int (n : ℤ) : roundHalfEven (n : ℚ) = n := by
  simp [roundHalfEven]

theorem roundHalfEven_mono {p q : ℚ} (h : p ≤ q) : roundHalfEven p ≤ roundHalfEven q := by
  have hfloors : p.floor ≤ q.floor := Rat.floor_monotone h
  rcases hfloors.lt_or_eq with hlt | heq
  · -- on different integers, the two roundings can at most meet
    have hp : roundHalfEven p ≤ p.floor + 1 := by
      rcases roundHalfEven_cases p with ⟨-, hp⟩ | ⟨-, hp⟩ <;> omega
    have hq : q.floor ≤ roundHalfEven q := by
      rcases roundHalfEven_cases q with ⟨-, hq⟩ | ⟨-, hq⟩ <;> omega
    omega
  · unfold roundHalfEven
    dsimp only
    rw [heq]
    have hr : p - q.floor ≤ q - q.floor := by linarith
    split_ifs <;> first | omega | (exfalso; linarith)

theorem roundHalfEven_zero : roundHalfEven 0 = 0 := roundHalfEven_int 0

theorem roundHalfEven_nonneg {q : ℚ} (h : 0 ≤ q) : 0 ≤ roundHalfEven q :=
  roundHalfEven_zero ▸ roundHalfEven_mono h

theorem roundHalfEven_nonpos {q : ℚ} (h : q ≤ 0) : roundHalfEven q ≤ 0 :=
  roundHalfEven_zero ▸ roundHalfEven_mono h

end PyFloat

/-! ## Rounding to decimal places -/

/-- `round(q, digits)` in exact arithmetic. -/
def round_to (digits : ℕ) (q : ℚ) : ℚ := PyFloat.roundHalfEven (q * 10 ^ digits) / 10 ^ digits

theorem round_to_mono (digits : ℕ) {p q : ℚ} (h : p ≤ q) :
    round_to digits p ≤ round_to digits q := by
  have hscale : (0 : ℚ) < 10 ^ digits := by positivity
  have hround := PyFloat.roundHalfEven_mono (mul_le_mul_of_nonneg_right h hscale.le)
  unfold round_to
  gcongr

theorem abs_round_to_sub (digits : ℕ) (q : ℚ) :
    |round_to digits q - q| ≤ 1 / (2 * 10 ^ digits) := by
  have hscale : (0 : ℚ) < 10 ^ digits := by positivity
  have hround := PyFloat.abs_roundHalfEven_sub (q * 10 ^ digits)
  have heq : round_to digits q - q =
      (PyFloat.roundHalfEven (q * 10 ^ digits) - q * 10 ^ digits) / 10 ^ digits := by
    unfold round_to
    field_simp
  rw [heq, abs_div, abs_of_pos hscale, div_le_iff₀ hscale]
  calc |(PyFloat.roundHalfEven (q * 10 ^ digits) : ℚ) - q * 10 ^ digits| ≤ 1 / 2 := hround
    _ = 1 / (2 * 10 ^ digits) * 10 ^ digits := by field_simp

theorem round_to_of_grid (digits : ℕ) (n : ℤ) :
    round_to digits (n / 10 ^ digits) = n / 10 ^ digits := by
  have hscale : (10 : ℚ) ^ digits ≠ 0 := by positivity
  unfold round_to
  rw [div_mul_cancel₀ _ hscale, PyFloat.roundHalfEven_int]

theorem round_to_int (digits : ℕ) (n : ℤ) : round_to digits n = n := by
  have hscale : (10 : ℚ) ^ digits ≠ 0 := by positivity
  have hgrid := round_to_of_grid digits (n * 10 ^ digits)
  push_cast at hgrid
  rwa [mul_div_cancel_right₀ _ hscale] at hgrid

theorem round_to_zero (digits : ℕ) : round_to digits 0 = 0 := by
  simpa using round_to_int digits 0

theorem round_to_nonneg (digits : ℕ) {q : ℚ} (h : 0 ≤ q) : 0 ≤ round_to digits q :=
  round_to_zero digits ▸ round_to_mono digits h

theorem round_to_nonpos (digits : ℕ) {q : ℚ} (h : q ≤ 0) : round_to digits q ≤ 0 :=
  round_to_zero digits ▸ round_to_mono digits h

/-- A number is rounded below zero when it is below half a last place. -/
theorem round_to_nonneg_iff (digits : ℕ) {q : ℚ} :
    0 ≤ round_to digits q ↔ -(1 / (2 * 10 ^ digits)) ≤ q := by
  have hscale : (0 : ℚ) < 10 ^ digits := by positivity
  have hhalf : -(1 / (2 * 10 ^ digits)) ≤ q ↔ (-(1 / 2) : ℚ) ≤ q * 10 ^ digits := by
    have hbound : -(1 / (2 * 10 ^ digits)) = -(1 / 2 : ℚ) / 10 ^ digits := by field_simp
    rw [hbound, div_le_iff₀ hscale]
  have hnonneg : 0 ≤ round_to digits q ↔ 0 ≤ PyFloat.roundHalfEven (q * 10 ^ digits) := by
    rw [round_to, le_div_iff₀ hscale, zero_mul]
    exact Int.cast_nonneg_iff
  rw [hhalf, hnonneg]
  constructor
  · intro h
    have hnear := abs_le.mp (PyFloat.abs_roundHalfEven_sub (q * 10 ^ digits))
    have hcast : (0 : ℚ) ≤ PyFloat.roundHalfEven (q * 10 ^ digits) := by exact_mod_cast h
    linarith [hnear.2]
  · intro h
    have hround := PyFloat.roundHalfEven_mono h
    have hzero : PyFloat.roundHalfEven (-(1 / 2)) = 0 := by decide +kernel
    rwa [hzero] at hround

theorem sum_round_to_grid (digits : ℕ) (xs : List ℚ) :
    ∃ n : ℤ, (xs.map (round_to digits)).sum = n / 10 ^ digits := by
  have hscale : (10 : ℚ) ^ digits ≠ 0 := by positivity
  induction xs with
  | nil => exact ⟨0, by simp⟩
  | cons x xs ih =>
    obtain ⟨n, hn⟩ := ih
    refine ⟨PyFloat.roundHalfEven (x * 10 ^ digits) + n, ?_⟩
    rw [List.map_cons, List.sum_cons, hn, round_to]
    push_cast
    field_simp

theorem round_to_sum (digits : ℕ) (xs : List ℚ) :
    round_to digits (xs.map (round_to digits)).sum = (xs.map (round_to digits)).sum := by
  obtain ⟨n, hn⟩ := sum_round_to_grid digits xs
  rw [hn, round_to_of_grid]

end py
