-- The arithmetic of floats keeps their order, over the whole line: a rounded
-- result of a larger operand is not smaller.
import Asoe.Lib.FloatRounding
import Asoe.Lib.FloatOrder
import Mathlib.Order.WithBot

namespace py

namespace PyFloat

/-! ## Floats as an ordered line -/

/-- The place of a float on the line from minus to plus infinity. -/
def place : PyFloat → WithBot (WithTop ℚ)
  | nan => ⊥
  | inf true => ⊥
  | inf false => ((⊤ : WithTop ℚ) : WithBot (WithTop ℚ))
  | fin q => ((q : WithTop ℚ) : WithBot (WithTop ℚ))

variable {x y : PyFloat}

theorem le_iff_place (hx : x ≠ nan) (hy : y ≠ nan) : x.le y = true ↔ x.place ≤ y.place := by
  rcases x with _ | s | a <;> rcases y with _ | t | b
  case fin.fin => simp [le_fin, place]
  all_goals first | exact absurd rfl hx | exact absurd rfl hy | skip
  · cases s <;> cases t <;> simp [le, lt, eq, place]
  · cases s <;> simp [le, lt, eq, place]
  · cases t <;> simp [le, lt, eq, place]

theorem lt_iff_place (hx : x ≠ nan) (hy : y ≠ nan) : x.lt y = true ↔ x.place < y.place := by
  rcases x with _ | s | a <;> rcases y with _ | t | b
  case fin.fin => simp [lt, place]
  all_goals first | exact absurd rfl hx | exact absurd rfl hy | skip
  · cases s <;> cases t <;> simp [lt, place]
  · cases s <;> simp [lt, place]
  · cases t
    · simpa [lt, place] using WithBot.coe_lt_coe.mpr (WithTop.coe_lt_top a)
    · simp [lt, place]

theorem place_eq_iff (hx : x ≠ nan) (hy : y ≠ nan) : x.place = y.place ↔ x = y := by
  rcases x with _ | s | a <;> rcases y with _ | t | b
  case fin.fin => simp [place]
  all_goals first | exact absurd rfl hx | exact absurd rfl hy | skip
  · cases s <;> cases t <;> simp [place]
  · cases s <;> simp [place]
  · cases t <;> simp [place]

/-! ## Rounding -/

theorem floor_neg {q : ℚ} (h : (q.floor : ℚ) < q) : (-q).floor = -q.floor - 1 := by
  have hnext : q < q.floor + 1 := by
    have hbelow : q - 1 < q.floor := Rat.lt_floor
    linarith
  refine (Int.floor_eq_iff (a := -q)).mpr ?_
  push_cast
  constructor <;> linarith

theorem roundHalfEven_neg (q : ℚ) : roundHalfEven (-q) = -roundHalfEven q := by
  rcases (Rat.floor_le q).lt_or_eq with hlt | heq
  · unfold roundHalfEven
    dsimp only
    rw [floor_neg hlt]
    have hfraction : -q - ((-q.floor - 1 : ℤ) : ℚ) = 1 - (q - q.floor) := by
      push_cast
      ring
    rw [hfraction]
    rcases lt_trichotomy (q - q.floor) (1 / 2) with hlow | hmid | hhigh
    · rw [if_pos hlow, if_neg (by linarith), if_pos (by linarith)]
      omega
    · have hhalf : (1 : ℚ) - 1 / 2 = 1 / 2 := by norm_num
      simp only [hmid, hhalf, lt_irrefl, if_false]
      split <;> split <;> omega
    · rw [if_neg (not_lt.mpr hhigh.le), if_pos hhigh, if_pos (by linarith)]
      omega
  · rw [← heq, roundHalfEven_int, ← Int.cast_neg, roundHalfEven_int]

theorem nearest_neg (q : ℚ) : nearest (-q) = -nearest q := by
  have hexponent : exponentOf (-q) = exponentOf q := by simp [exponentOf]
  unfold nearest lastPlace
  rw [hexponent, neg_div, roundHalfEven_neg, Int.cast_neg, neg_mul]

theorem ofRat_neg (q : ℚ) : ofRat (-q) = (ofRat q).neg := by
  rw [ofRat_eq, ofRat_eq, nearest_neg, abs_neg]
  split
  · rename_i hlarge
    have hpos : (0 : ℚ) < (2 : ℚ) ^ (1024 : ℤ) := by positivity
    have hne : nearest q ≠ 0 := abs_pos.mp (hpos.trans_le hlarge)
    rcases lt_or_gt_of_ne hne with hneg | hposq
    · simp [neg, hneg, hneg.le]
    · simp [neg, hposq, hposq.le]
  · rfl

theorem ofRat_ne_nan (q : ℚ) : ofRat q ≠ nan := by
  rw [ofRat_eq]
  split <;> simp

theorem le_neg_neg (h : x.le y = true) : y.neg.le x.neg = true := by
  rcases x with _ | s | a <;> rcases y with _ | t | b
  case fin.fin =>
    rw [le_fin] at h
    exact le_fin.mpr (neg_le_neg h)
  all_goals first | cases h | skip
  · cases s <;> cases t <;> simp_all [le, lt, eq, neg]
  · cases s <;> simp_all [le, lt, eq, neg]
  · cases t <;> simp_all [le, lt, eq, neg]

theorem minus_inf_le (hx : x ≠ nan) : (inf true).le x = true := by
  cases x <;> simp_all [le, lt, eq]

theorem le_plus_inf (hx : x ≠ nan) : x.le (inf false) = true := by
  rcases x with _ | s | a
  · exact absurd rfl hx
  · cases s <;> rfl
  · rfl

theorem ofRat_le {p q : ℚ} (h : p ≤ q) : (ofRat p).le (ofRat q) = true := by
  by_cases hp : 0 ≤ p
  · exact ofRat_mono hp h
  · have hpneg : p ≤ 0 := (not_le.mp hp).le
    by_cases hq : 0 ≤ q
    · have hzero : ofRat 0 = fin 0 := rfl
      exact le_trans (ofRat_nonpos hpneg) (hzero ▸ ofRat_mono le_rfl hq)
    · have hmono := ofRat_mono (neg_nonneg.mpr (not_le.mp hq).le) (neg_le_neg h)
      rw [ofRat_neg, ofRat_neg] at hmono
      have hback := le_neg_neg hmono
      have hneg : ∀ x : PyFloat, x.neg.neg = x := by
        intro x
        cases x <;> simp [neg]
      rwa [hneg, hneg] at hback

/-! ## Operations -/

theorem add_le {a : ℚ} (h : x.le y = true) : ((fin a).add x).le ((fin a).add y) = true := by
  rcases x with _ | s | b <;> rcases y with _ | t | c
  case fin.fin =>
    rw [le_fin] at h
    exact ofRat_le (by linarith)
  all_goals first | cases h | skip
  · exact h
  · obtain rfl : s = true := by simpa [le, lt, eq] using h
    exact minus_inf_le (ofRat_ne_nan _)
  · obtain rfl : t = false := by simpa [le, lt, eq] using h
    exact le_plus_inf (ofRat_ne_nan _)

theorem sub_le {a : ℚ} (h : x.le y = true) :
    ((fin a).sub y).le ((fin a).sub x) = true := add_le (le_neg_neg h)

theorem fin_mul_inf {c : ℚ} (hc : 0 < c) (s : Bool) : (fin c).mul (inf s) = inf s := by
  simp [mul, hc.ne', hc.not_gt]

theorem mul_le {c : ℚ} (hc : 0 < c) (h : x.le y = true) :
    ((fin c).mul x).le ((fin c).mul y) = true := by
  rcases x with _ | s | a <;> rcases y with _ | t | b
  case fin.fin =>
    rw [le_fin] at h
    exact ofRat_le (mul_le_mul_of_nonneg_left h hc.le)
  all_goals first | cases h | skip
  · rw [fin_mul_inf hc, fin_mul_inf hc]
    exact h
  · obtain rfl : s = true := by simpa [le, lt, eq] using h
    rw [fin_mul_inf hc]
    exact minus_inf_le (ofRat_ne_nan (c * b))
  · obtain rfl : t = false := by simpa [le, lt, eq] using h
    rw [fin_mul_inf hc]
    exact le_plus_inf (ofRat_ne_nan (c * a))

theorem div_le {v : ℚ} (hv : 0 < v) (h : x.le y = true) :
    ((x.div? (fin v)).getD nan).le ((y.div? (fin v)).getD nan) = true := by
  rcases x with _ | s | a <;> rcases y with _ | t | b
  case fin.fin =>
    rw [le_fin] at h
    simpa [div?, hv.ne'] using ofRat_le (div_le_div_of_nonneg_right h hv.le)
  all_goals first | cases h | skip
  · simpa [div?, hv.ne', hv.not_gt] using h
  · obtain rfl : s = true := by simpa [le, lt, eq] using h
    simpa [div?, hv.ne', hv.not_gt] using minus_inf_le (ofRat_ne_nan (b / v))
  · obtain rfl : t = false := by simpa [le, lt, eq] using h
    simpa [div?, hv.ne', hv.not_gt] using le_plus_inf (ofRat_ne_nan (a / v))

theorem roundTo_le {digits : ℕ} (h : x.le y = true) :
    (x.roundTo digits).le (y.roundTo digits) = true := by
  rcases x with _ | s | a <;> rcases y with _ | t | b
  case fin.fin =>
    rw [le_fin] at h
    refine ofRat_le ?_
    have hscale : (0 : ℚ) ≤ 10 ^ digits := by positivity
    have hround := roundHalfEven_mono (mul_le_mul_of_nonneg_right h hscale)
    have hcast : (roundHalfEven (a * 10 ^ digits) : ℚ) ≤ roundHalfEven (b * 10 ^ digits) := by
      exact_mod_cast hround
    exact div_le_div_of_nonneg_right hcast hscale
  all_goals first | cases h | skip
  · exact h
  · obtain rfl : s = true := by simpa [le, lt, eq] using h
    exact minus_inf_le (ofRat_ne_nan _)
  · obtain rfl : t = false := by simpa [le, lt, eq] using h
    exact le_plus_inf (ofRat_ne_nan _)

end PyFloat

end py
