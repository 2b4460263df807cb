-- The percentages in the headlines of the queue, against the ratios that they
-- stand for and against the root cause of the detail view. The analyses carry
-- fractions, and the headlines print them as they are.
import Asoe.RootCause
import Asoe.Lib.DecimalText
import Asoe.Lib.FloatExact

namespace asoe

open py prog analysis PyFloat

/-! ## Headlines with a percentage in its place -/

def price_line (data : PriceAnalysisData) (pct : String) : String :=
  "PO $" ++ fixed 2 data.po_unit_price ++ "/" ++ data.uom ++ " vs ERP $"
    ++ fixed 2 data.erp_unit_price ++ " — " ++ pct ++ "% delta, $"
    ++ groupedCents data.total_at_risk ++ " at risk"

def gap_line (data : BackOrderAnalysisData) (pct : String) : String :=
  "Short stock: " ++ general data.available_qty ++ "/" ++ general data.ordered_qty ++ " "
    ++ data.uom ++ " (" ++ pct ++ "% gap, ATP " ++ data.atp_date ++ ")"

def over_line (data : OverMaxAnalysisData) (pct : String) : String :=
  "Over max by " ++ general data.excess_qty ++ " " ++ data.uom ++ " (" ++ pct ++ "% over)"

theorem price_line_inj {data : PriceAnalysisData} {s t : String} :
    price_line data s = price_line data t ↔ s = t := by
  unfold price_line
  simp only [← String.toList_inj, String.toList_append, List.append_cancel_right_eq,
    List.append_cancel_left_eq]

theorem gap_line_inj {data : BackOrderAnalysisData} {s t : String} :
    gap_line data s = gap_line data t ↔ s = t := by
  unfold gap_line
  simp only [← String.toList_inj, String.toList_append, List.append_cancel_right_eq,
    List.append_cancel_left_eq]

theorem over_line_inj {data : OverMaxAnalysisData} {s t : String} :
    over_line data s = over_line data t ↔ s = t := by
  unfold over_line
  simp only [← String.toList_inj, String.toList_append, List.append_cancel_right_eq,
    List.append_cancel_left_eq]

theorem price_sentence_inj {po erp : PyFloat} {s t : String} :
    price_sentence po erp s = price_sentence po erp t ↔ s = t := by
  unfold price_sentence
  simp only [← String.toList_inj, String.toList_append, List.append_cancel_right_eq,
    List.append_cancel_left_eq]

/-! ## Percentages as numbers -/

/-- The number that a percentage is read as. -/
def PercentReads (pct : String) (x : ℚ) : Prop := decimal_text.literal? pct.toList = some x

/-- A hundred times the ratio, rounded to one place. -/
def IsPercent (x ratio : ℚ) : Prop := |x - 100 * ratio| ≤ 1 / 20

theorem reads_fixed_iff {x : PyFloat} {v : ℚ} :
    PercentReads (fixed 1 x) v ↔ ∃ q, x = .fin q ∧ v = round_to 1 q := by
  unfold PercentReads
  cases x with
  | nan =>
    refine iff_of_false ?_ (by rintro ⟨q, ⟨⟩, -⟩)
    rintro ⟨⟩
  | inf s =>
    refine iff_of_false ?_ (by rintro ⟨q, ⟨⟩, -⟩)
    cases s with
    | true => rintro ⟨⟩
    | false => rintro ⟨⟩
  | fin q =>
    rw [decimal_text.literal?_fixed 1 (by decide)]
    constructor
    · intro h
      exact ⟨q, rfl, (Option.some.inj h).symm⟩
    · rintro ⟨q', hq, rfl⟩
      rw [PyFloat.fin.inj hq]

/-- A text without a minus sign has no sign. -/
theorem signOf_fixed {x : PyFloat} (h : (fixed 1 x).toList.head? ≠ some '-') :
    signOf (fixed 1 x).toList = (false, (fixed 1 x).toList) := by
  cases x with
  | nan => rfl
  | inf s =>
    cases s with
    | true => exact absurd rfl h
    | false => rfl
  | fin q =>
    obtain ⟨whole, frac, hplaces, hfixed⟩ := decimal_text.fixed_eq 1 (by decide) q
    rw [hfixed] at h ⊢
    by_cases hneg : q < 0
    · rw [if_pos hneg] at h
      exact absurd rfl h
    · rw [if_neg hneg, List.nil_append]
      obtain ⟨c, tail, htail, hc⟩ :=
        decimal_text.head_of_digits hplaces.whole_digits hplaces.whole_ne ('.' :: frac)
      rw [htail]
      exact decimal_text.signOf_digits hc tail

theorem reads_signed_iff {x : PyFloat} {v : ℚ} :
    PercentReads (signed 1 x) v ↔ PercentReads (fixed 1 x) v := by
  unfold signed
  dsimp only
  split
  · exact Iff.rfl
  · rename_i hminus
    have hplus : signOf ("+".toList ++ (fixed 1 x).toList) = (false, (fixed 1 x).toList) := rfl
    unfold PercentReads decimal_text.literal?
    rw [String.toList_append, hplus, signOf_fixed hminus]

theorem round_to_eq_zero_iff {q : ℚ} : round_to 1 q = 0 ↔ |q| ≤ 1 / 20 := by
  have hnear := abs_round_to_sub 1 q
  constructor
  · intro h
    rw [h, zero_sub, abs_neg] at hnear
    norm_num at hnear ⊢
    exact hnear
  · intro h
    have hhalf : |q * 10 ^ 1| ≤ 1 / 2 := by
      rw [abs_mul, abs_of_pos (by norm_num : (0 : ℚ) < 10 ^ 1)]
      linarith
    unfold round_to
    rw [PyFloat.roundHalfEven_of_half hhalf, Int.cast_zero, zero_div]

/-! ## Figures that are carried -/

/-- A fraction of at most a twentieth of a percent, or what is no fraction of the ratio and is
the percentage already. -/
def ShareFits (f ratio : ℚ) : Prop :=
  if |f - ratio| ≤ 1 / 1000 then |ratio| ≤ 1 / 2000 else IsPercent (round_to 1 f) ratio

/-- A figure that is printed as it is carried is the percentage of the ratio. -/
theorem isPercent_iff_shareFits {f ratio : ℚ} :
    IsPercent (round_to 1 f) ratio ↔ ShareFits f ratio := by
  unfold ShareFits
  split
  · rename_i hfraction
    have hround : |round_to 1 f - f| ≤ 1 / 20 := (abs_round_to_sub 1 f).trans (by norm_num)
    have hzero : |ratio| ≤ 1 / 500 → round_to 1 f = 0 := by
      intro h
      rw [round_to_eq_zero_iff]
      rw [abs_le] at h hfraction ⊢
      constructor <;> linarith
    unfold IsPercent
    constructor
    · intro h
      have hsmall : |ratio| ≤ 1 / 500 := by
        rw [abs_le] at h hfraction hround ⊢
        constructor <;> linarith
      rw [hzero hsmall] at h
      rw [abs_le] at h ⊢
      constructor <;> linarith
    · intro h
      rw [hzero (h.trans (by norm_num))]
      rw [abs_le] at h ⊢
      constructor <;> linarith
  · exact Iff.rfl

/-! ## Prices that are close -/

/-- The double nearest to 0.0005 is this number over `2 ^ 63`. -/
def mantissa : ℕ := 0x10624dd2f1a9fc

/-- Half a unit of the last place below that double: shares below it are rounded down. -/
def close_share : ℚ := (2 * mantissa - 1 : ℕ) / 2 ^ 64

theorem close_share_lt : close_share < 1 / 2000 := by decide +kernel

theorem nearest_close {x : ℚ} (hnonneg : 0 ≤ x) (h : x < close_share) :
    nearest x ≤ (mantissa - 1 : ℕ) / 2 ^ 63 := by
  by_cases hbinade : x ≤ 1 / 2048
  · refine (nearest_mono hnonneg hbinade).trans ?_
    decide +kernel
  · have hx : 0 < x := lt_of_not_ge fun hle => hbinade (hle.trans (by norm_num))
    have hplace : lastPlace x = -63 := by
      have hlow : lastPlace (1 / 2048) ≤ lastPlace x := by
        refine lastPlace_mono (by norm_num) ?_
        rw [abs_of_pos hx, abs_of_pos (by norm_num)]
        exact (not_le.mp hbinade).le
      have hhigh : lastPlace x ≤ lastPlace close_share := by
        refine lastPlace_mono hx.ne' ?_
        rw [abs_of_pos hx, abs_of_pos (hx.trans h)]
        exact h.le
      have hone : lastPlace (1 / 2048) = -63 := by decide +kernel
      have hclose : lastPlace close_share = -63 := by decide +kernel
      omega
    have hbound := @nearest_le_of_lt_middle x (mantissa - 1 : ℕ) (by
      rw [hplace]
      refine h.trans_le ?_
      decide +kernel)
    rw [hplace] at hbound
    refine hbound.trans ?_
    decide +kernel

/-- What the detail view says of the share is nothing, to one place, exactly below that share. -/
theorem nearest_percent_iff {x : ℚ} (hnonneg : 0 ≤ x) :
    nearest (100 * nearest x) ≤ 1 / 20 ↔ x < close_share := by
  constructor
  · intro h
    by_contra hfar
    have hshare : close_share ≤ x := not_lt.mp hfar
    have hclose : (0 : ℚ) ≤ close_share := by decide +kernel
    have hmono := nearest_mono hclose hshare
    have hzero : 0 ≤ 100 * nearest close_share := mul_nonneg (by norm_num) (nearest_nonneg hclose)
    have hscaled := nearest_mono hzero (mul_le_mul_of_nonneg_left hmono (by norm_num))
    have hover : 1 / 20 < nearest (100 * nearest close_share) := by decide +kernel
    exact absurd (hover.trans_le (hscaled.trans h)) (lt_irrefl _)
  · intro h
    have hle := nearest_close hnonneg h
    have hscaled := nearest_mono (mul_nonneg (by norm_num) (nearest_nonneg hnonneg))
      (mul_le_mul_of_nonneg_left hle (by norm_num : (0 : ℚ) ≤ 100))
    refine hscaled.trans ?_
    decide +kernel

/-- `round(round(sap - po, 4) / sap, 6)`. -/
def variance_share (erp_price po_price : PyFloat) : PyFloat :=
  ((((erp_price.sub po_price).roundTo 4).div? erp_price).getD .nan).roundTo 6

theorem div_fin (a : ℚ) {b : ℚ} (hb : b ≠ 0) :
    (PyFloat.fin a).div? (.fin b) = some (ofRat (a / b)) := by
  rw [PyFloat.div?, if_neg hb]

theorem abs_share_le {d : PyFloat} {s w : ℚ} (hs : 0 < s)
    (h : (((d.roundTo 4).div? (.fin s)).getD .nan).roundTo 6 = .fin w) :
    ∃ a, d = .fin a ∧ |w| ≤ 32 * (|a| / s) := by
  obtain ⟨u, hu, hwu⟩ := abs_le_of_roundTo h
  cases hb : d.roundTo 4 with
  | nan =>
    rw [hb, PyFloat.div?, if_neg hs.ne'] at hu
    cases hu
  | inf neg =>
    rw [hb, PyFloat.div?, if_neg hs.ne'] at hu
    cases hu
  | fin b =>
    rw [hb, div_fin b hs.ne'] at hu
    have hub := abs_le_of_ofRat (Option.some.inj (congrArg some hu))
    obtain ⟨a, rfl, hba⟩ := abs_le_of_roundTo hb
    refine ⟨a, rfl, ?_⟩
    rw [abs_div, abs_of_pos hs] at hub
    have hshare : |b| / s ≤ 4 * (|a| / s) := by
      rw [← mul_div_assoc]
      exact div_le_div_of_nonneg_right hba hs.le
    linarith

section close

variable {s p : ℚ} (hs : 0 < s) (hsd : IsDouble (.fin s)) (hpd : IsDouble (.fin p))

include hs

theorem ratio_abs : |(s - p) / s| = |p - s| / s := by
  rw [abs_div, abs_of_pos hs, abs_sub_comm]

include hsd hpd

theorem sub_close (h : |p - s| ≤ s / 2) :
    (PyFloat.fin s).sub (.fin p) = .fin (s - p) ∧ (PyFloat.fin p).sub (.fin s) = .fin (p - s) := by
  have hpos : 0 < p := by
    have := (abs_le.mp h).1
    linarith
  refine ⟨?_, sub_exact_of_close hpd hsd hs h⟩
  refine sub_exact hsd hpd ?_ ?_
  · rw [abs_sub_comm, abs_of_pos hs]
    linarith
  · rw [abs_sub_comm, abs_of_pos hpos]
    have := (abs_le.mp h).1
    linarith

/-- A headline that prints the percentage has prices that are close. -/
theorem ratio_small {x : ℚ} (hx : PercentReads (fixed 1 (variance_share (.fin s) (.fin p))) x)
    (hpercent : IsPercent x ((s - p) / s)) :
    |p - s| / s ≤ 1 / 2000 ∧ x = 0 := by
  obtain ⟨w, hw, rfl⟩ := reads_fixed_iff.mp hx
  have hround : |round_to 1 w - w| ≤ 1 / 20 := (abs_round_to_sub 1 w).trans (by norm_num)
  have hfar : 100 * (|p - s| / s) ≤ |w| + 1 / 10 := by
    rw [← ratio_abs hs]
    have h₁ := abs_sub_abs_le_abs_sub (100 * ((s - p) / s)) w
    have h₂ := abs_sub_le (100 * ((s - p) / s)) (round_to 1 w) w
    unfold IsPercent at hpercent
    rw [abs_sub_comm] at hpercent
    rw [abs_mul, abs_of_pos (by norm_num : (0 : ℚ) < 100)] at h₁
    linarith
  obtain ⟨a, ha, hwa⟩ := abs_share_le hs hw
  have hnear : |p - s| / s ≤ 1 / 2 := by
    have hab := abs_le_of_ofRat (show ofRat (s + -p) = .fin a from ha)
    rw [← sub_eq_add_neg, abs_sub_comm] at hab
    have hshare : |a| / s ≤ 2 * (|p - s| / s) := by
      rw [← mul_div_assoc]
      exact div_le_div_of_nonneg_right hab hs.le
    linarith
  have hclose : |p - s| ≤ s / 2 := by
    rw [div_le_iff₀ hs] at hnear
    linarith
  rw [(sub_close hs hsd hpd hclose).1] at ha
  rw [← PyFloat.fin.inj ha, abs_sub_comm] at hwa
  have hzero : round_to 1 w = 0 := round_to_eq_zero_iff.mpr (by linarith)
  refine ⟨?_, hzero⟩
  unfold IsPercent at hpercent
  rw [hzero, zero_sub, abs_neg, abs_mul, ratio_abs hs,
    abs_of_pos (by norm_num : (0 : ℚ) < 100)] at hpercent
  linarith

/-- The headline of prices that are close prints nothing, to one place. -/
theorem headline_close (h : |p - s| / s ≤ 1 / 2000) :
    PercentReads (fixed 1 (variance_share (.fin s) (.fin p))) 0 := by
  have hdiff : |s - p| ≤ s / 2000 := by
    rw [abs_sub_comm]
    rw [div_le_iff₀ hs] at h
    linarith
  obtain ⟨b, hb⟩ := @roundTo_fin 4 (s - p) (abs_le_of_eighth hsd (by
    rw [abs_of_pos hs]
    linarith))
  obtain ⟨d, hd, hbd⟩ := abs_le_of_roundTo hb
  rw [← PyFloat.fin.inj hd] at hbd
  have hshare : |b / s| ≤ 1 / 500 := by
    rw [abs_div, abs_of_pos hs, div_le_iff₀ hs]
    linarith
  have hu := ofRat_fin (abs_le_of_one (hshare.trans (by norm_num)) 1022)
  have hsmall : |nearest (b / s)| ≤ 1 / 250 := (abs_nearest_le (b / s)).trans (by linarith)
  obtain ⟨w, hw⟩ := @roundTo_fin 6 (nearest (b / s))
    (abs_le_of_one (hsmall.trans (by norm_num)) 1021)
  obtain ⟨v, hv, hwv⟩ := abs_le_of_roundTo hw
  rw [← PyFloat.fin.inj hv] at hwv
  have hshown : variance_share (.fin s) (.fin p) = .fin w := by
    unfold variance_share
    rw [(sub_close hs hsd hpd (by rw [abs_sub_comm]; linarith)).1, hb, div_fin b hs.ne', hu]
    exact hw
  rw [hshown]
  exact reads_fixed_iff.mpr ⟨w, rfl, (round_to_eq_zero_iff.mpr (by linarith)).symm⟩

/-- The percentage of the detail view, for prices that are close. -/
theorem detail_close (h : |p - s| / s ≤ 1 / 2000) :
    ∃ w, delta_pct (.fin p) (.fin s) = .fin w ∧ |w| = nearest (100 * nearest (|p - s| / s)) := by
  have hdiff : |p - s| ≤ s / 2 := by
    rw [div_le_iff₀ hs] at h
    linarith
  have hratio : |(p - s) / s| = |p - s| / s := by
    rw [abs_div, abs_of_pos hs]
  have hu := ofRat_fin (abs_le_of_one ((hratio.trans_le h).trans (by norm_num)) 1022)
  have hsmall : |nearest ((p - s) / s)| ≤ 1 / 1000 := by
    have := abs_nearest_le ((p - s) / s)
    rw [hratio] at this
    linarith
  have hscaled : |nearest ((p - s) / s) * 100| ≤ 1 := by
    rw [abs_mul, abs_of_pos (by norm_num : (0 : ℚ) < 100)]
    linarith
  refine ⟨nearest (nearest ((p - s) / s) * 100), ?_, ?_⟩
  · unfold delta_pct
    rw [(sub_close hs hsd hpd hdiff).2, div_fin _ hs.ne', hu]
    exact ofRat_fin (abs_le_of_one hscaled 1022)
  · rw [abs_nearest, abs_mul, abs_nearest, hratio, mul_comm,
      abs_of_pos (by norm_num : (0 : ℚ) < 100)]

end close

/-! ## The figures of the price -/

structure PriceFigures (event : PyDict) (data : PriceAnalysisData) : Prop where
  erp : as_float (value_at event "sap_base_price") = .ok (some data.erp_unit_price)
  po : float_or (value_at event "po_price") (.fin 0) = .ok data.po_unit_price
  positive : data.erp_unit_price.le (.fin 0) = false
  share : data.variance_pct = variance_share data.erp_unit_price data.po_unit_price

theorem returns_unless_malformed {α : Type} {x : Except PyErr (Option α)} {Q : α → Prop}
    (h : returns x fun found => ∀ a ∈ found, Q a) :
    returns (unless_malformed x) fun found => ∀ a ∈ found, Q a := by
  unfold unless_malformed
  split
  · exact h
  · split
    · exact (returns_ok _).mpr (by simp)
    · exact returns_error _

theorem read_or_missing {v : PyVal} {x : PyFloat} (h : float_or v (.fin 0) = .ok x) :
    as_float v = .ok (some x) ∨ (as_float v = .ok none ∧ x = .fin 0) := by
  unfold float_or at h
  cases hv : as_float v with
  | error e =>
    rw [hv] at h
    cases h
  | ok found =>
    rw [hv] at h
    cases found with
    | none => exact Or.inr ⟨rfl, (Except.ok.inj h).symm⟩
    | some y =>
      obtain rfl := Except.ok.inj h
      exact Or.inl rfl

theorem read_of_positive {v : PyVal} {x : PyFloat} (h : float_or v (.fin 0) = .ok x)
    (hpos : x.le (.fin 0) = false) : as_float v = .ok (some x) := by
  rcases read_or_missing h with hread | ⟨-, rfl⟩
  · exact hread
  · exact absurd hpos (by decide)

theorem adapt_price_figures (record : ChildRecord) :
    returns (adapt_price record) fun found =>
      ∀ data ∈ found, PriceFigures (record.original_event.getD []) data := by
  unfold adapt_price
  dsimp only
  refine returns_bind fun doc_type _ => returns_bind fun doc_number _ => ?_
  refine returns_bind fun rule_id _ => returns_bind fun category _ => ?_
  dsimp only
  split
  · exact (returns_pure _).mpr (by simp)
  refine returns_bind fun po hpo => returns_bind fun erp herp => ?_
  dsimp only
  split
  · exact (returns_pure _).mpr (by simp)
  rename_i hpos
  refine returns_bind fun lines _ => returns_bind fun meta_qty _ => ?_
  refine returns_bind fun total_quantity _ => returns_bind fun uom _ => ?_
  dsimp only
  refine returns_unless_malformed ?_
  refine returns_bind fun sku _ => returns_bind fun ref _ => returns_bind fun contract_ref _ => ?_
  refine returns_bind fun promo _ => returns_bind fun promotion_ref _ => ?_
  refine returns_bind fun desc _ => returns_bind fun material_desc _ => ?_
  refine returns_bind fun date _ => returns_bind fun order_date _ => (returns_pure _).mpr ?_
  rintro data ⟨⟩
  have hpos := Bool.eq_false_of_not_eq_true hpos
  exact ⟨read_of_positive herp hpos, hpo, hpos, rfl⟩

/-! ## The headlines of the queue -/

def headline (from_iso : FromIso) (record : ChildRecord) : Except PyErr (Option String) :=
  (·.one_liner) <$> render_template from_iso (some record)

/-- The headline has the percentage of the two prices, and a root cause of the detail view has
one of the same size. -/
def PriceScaled (from_iso : FromIso) (final_status : Option String) (record : ChildRecord)
    (data : PriceAnalysisData) : Prop :=
  ∃ pct x erp po, headline from_iso record = .ok (some (price_line data pct)) ∧
    PercentReads pct x ∧ data.erp_unit_price = .fin erp ∧ data.po_unit_price = .fin po ∧
    IsPercent x ((erp - po) / erp) ∧
    ∀ sentence, synthesise_root_cause record final_status = .ok (some sentence) →
      ∃ pct' x', sentence = price_sentence data.po_unit_price data.erp_unit_price pct' ∧
        PercentReads pct' x' ∧ |x'| = |x|

def GapScaled (from_iso : FromIso) (record : ChildRecord) (data : BackOrderAnalysisData) : Prop :=
  ∃ pct x gap ordered, headline from_iso record = .ok (some (gap_line data pct)) ∧
    PercentReads pct x ∧ data.gap_qty = .fin gap ∧ data.ordered_qty = .fin ordered ∧
    IsPercent x (gap / ordered)

def OverScaled (from_iso : FromIso) (record : ChildRecord) (data : OverMaxAnalysisData) : Prop :=
  ∃ pct x excess max_qty, headline from_iso record = .ok (some (over_line data pct)) ∧
    PercentReads pct x ∧ data.excess_qty = .fin excess ∧ data.max_qty = .fin max_qty ∧
    IsPercent x (excess / max_qty)

/-- Each percentage of the queue is that of the ratio which it summarises. -/
structure PercentsScaled (from_iso : FromIso) (final_status : Option String)
    (record : ChildRecord) : Prop where
  price : record.intent = some "CONTRACTUAL_CORRECTION" →
    ∀ data, adapt_price record = .ok (some data) → PriceScaled from_iso final_status record data
  gap : record.intent = some "BACK_ORDER" →
    ∀ data, adapt_back_order record = .ok (some data) → GapScaled from_iso record data
  excess : record.intent = some "OVER_MAX" →
    ∀ data, adapt_overmax record = .ok (some data) → OverScaled from_iso record data

/-- The prices are close, and the shares fit as they are carried. -/
structure SharesFit (record : ChildRecord) : Prop where
  price : record.intent = some "CONTRACTUAL_CORRECTION" →
    ∀ data, adapt_price record = .ok (some data) →
      ∃ erp po, data.erp_unit_price = .fin erp ∧ data.po_unit_price = .fin po ∧
        |po - erp| < close_share * erp
  gap : record.intent = some "BACK_ORDER" →
    ∀ data, adapt_back_order record = .ok (some data) →
      ∃ share gap ordered, data.gap_pct = .fin share ∧ data.gap_qty = .fin gap ∧
        data.ordered_qty = .fin ordered ∧ ShareFits share (gap / ordered)
  excess : record.intent = some "OVER_MAX" →
    ∀ data, adapt_overmax record = .ok (some data) →
      ∃ share excess max_qty, data.exceedance_pct = .fin share ∧ data.excess_qty = .fin excess ∧
        data.max_qty = .fin max_qty ∧ ShareFits share (excess / max_qty)

/-- The floats among the prices of the event are doubles. -/
def DoublePrices (record : ChildRecord) : Prop :=
  ∀ key ∈ ["po_price", "sap_base_price"], ∀ x,
    value_at (record.original_event.getD []) key = .float x → IsDouble x

section lines

variable {from_iso : FromIso} {record : ChildRecord}

theorem headline_of {intent : String} {template : TemplateFn} {α : Type}
    {adapted : Except PyErr (Option α)} {render : α → RenderedTemplate} {data : α}
    (hintent : record.intent = some intent)
    (hget : dict.get (INTENT_TEMPLATES from_iso) intent = some template)
    (htemplate : template record = .ok ((unless_raised adapted).map render))
    (h : adapted = .ok (some data)) : headline from_iso record = .ok (render data).one_liner := by
  unfold headline render_template
  dsimp only
  rw [hintent, Option.bind_some, hget]
  dsimp only
  rw [htemplate, h]
  rfl

theorem price_headline (hintent : record.intent = some "CONTRACTUAL_CORRECTION")
    {data : PriceAnalysisData} (h : adapt_price record = .ok (some data)) :
    headline from_iso record = .ok (some (price_line data (fixed 1 data.variance_pct))) :=
  headline_of hintent rfl rfl h

theorem gap_headline (hintent : record.intent = some "BACK_ORDER")
    {data : BackOrderAnalysisData} (h : adapt_back_order record = .ok (some data)) :
    headline from_iso record = .ok (some (gap_line data (fixed 1 data.gap_pct))) :=
  headline_of hintent rfl rfl h

theorem over_headline (hintent : record.intent = some "OVER_MAX")
    {data : OverMaxAnalysisData} (h : adapt_overmax record = .ok (some data)) :
    headline from_iso record = .ok (some (over_line data (fixed 1 data.exceedance_pct))) :=
  headline_of hintent rfl rfl h

end lines

/-! ## Doubles -/

theorem double_zero : IsDouble (.fin 0) := double_ofRat 0

theorem double_of_ofInt {n : ℤ} {x : PyFloat} (h : PyFloat.ofInt? n = some x) : IsDouble x := by
  unfold PyFloat.ofInt? at h
  split at h
  · rename_i q hq
    obtain rfl := Option.some.inj h
    exact hq ▸ double_ofRat n
  · cases h

/-- What `float` makes of a value is a double, when a float is one. -/
theorem double_of_toFloat {v : PyVal} {x : PyFloat} (hv : ∀ y, v = .float y → IsDouble y)
    (h : v.toFloat = .ok x) : IsDouble x := by
  have hinfinite : ∀ s, IsDouble (.inf s) := by
    rintro s q ⟨⟩
  have hnan : IsDouble .nan := by
    rintro q ⟨⟩
  cases v with
  | str s =>
    rw [PyVal.toFloat] at h
    cases htext : floatOfText? s with
    | none =>
      rw [htext] at h
      cases h
    | some y =>
      rw [htext] at h
      obtain rfl := Except.ok.inj h
      unfold floatOfText? at htext
      dsimp only at htext
      split at htext
      · rw [← Option.some.inj htext]
        exact hinfinite _
      · split at htext
        · rw [← Option.some.inj htext]
          exact hnan
        · obtain ⟨q, -, hq⟩ := Option.map_eq_some_iff.mp htext
          exact hq ▸ double_ofRat _
  | float y => exact Except.ok.inj h ▸ hv y rfl
  | int n =>
    simp only [PyVal.toFloat, PyVal.numberAsFloat?, PyVal.number?] at h
    cases hn : PyFloat.ofInt? n with
    | none =>
      rw [hn] at h
      cases h
    | some y =>
      rw [hn] at h
      exact Except.ok.inj h ▸ double_of_ofInt hn
  | bool b =>
    simp only [PyVal.toFloat, PyVal.numberAsFloat?, PyVal.number?] at h
    cases hn : PyFloat.ofInt? (if b then 1 else 0) with
    | none =>
      rw [hn] at h
      cases h
    | some y =>
      rw [hn] at h
      exact Except.ok.inj h ▸ double_of_ofInt hn
  | none => cases h
  | list xs => cases h
  | dict d => cases h

theorem double_of_as_float {v : PyVal} {x : PyFloat} (hv : ∀ y, v = .float y → IsDouble y)
    (h : as_float v = .ok (some x)) : IsDouble x := by
  unfold as_float at h
  split at h
  · cases h
  · split at h
    · rename_i y hy
      obtain rfl := Option.some.inj (Except.ok.inj h)
      exact double_of_toFloat hv hy
    · split at h
      · cases h
      · cases h

/-! ## When the percentages are scaled -/

section scaled

variable {from_iso : FromIso} {final_status : Option String} {record : ChildRecord}

theorem root_cause_of_prices (hintent : record.intent = some "CONTRACTUAL_CORRECTION")
    {erp : PyFloat} {po : Option PyFloat} (hne : erp ≠ .fin 0)
    (herp : as_float (value_at (record.original_event.getD []) "sap_base_price") = .ok (some erp))
    (hpo : as_float (value_at (record.original_event.getD []) "po_price") = .ok po) :
    synthesise_root_cause record final_status =
      .ok (po.map fun po => price_sentence po erp (signed 1 (delta_pct po erp))) := by
  have hupper : "CONTRACTUAL_CORRECTION".toUpper = "CONTRACTUAL_CORRECTION" := by decide +kernel
  unfold synthesise_root_cause
  dsimp only
  rw [hintent, Option.getD_some, hupper, if_pos rfl]
  unfold contractual_root_cause
  rw [ok_bind hpo, ok_bind herp]
  cases po with
  | none => rfl
  | some po =>
    dsimp only
    rw [if_neg hne]
    rfl

theorem price_scaled_iff (hintent : record.intent = some "CONTRACTUAL_CORRECTION")
    (hdouble : DoublePrices record) {data : PriceAnalysisData}
    (h : adapt_price record = .ok (some data)) :
    PriceScaled from_iso final_status record data ↔
      ∃ erp po, data.erp_unit_price = .fin erp ∧ data.po_unit_price = .fin po ∧
        |po - erp| < close_share * erp := by
  have hfigures : PriceFigures (record.original_event.getD []) data :=
    adapt_price_figures record _ h data rfl
  have hline : headline from_iso record =
      .ok (some (price_line data (fixed 1 data.variance_pct))) := price_headline hintent h
  have herpd := double_of_as_float (hdouble _ (by simp)) hfigures.erp
  have hpod : IsDouble data.po_unit_price := by
    rcases read_or_missing hfigures.po with hread | ⟨-, hzero⟩
    · exact double_of_as_float (hdouble _ (by simp)) hread
    · exact hzero ▸ double_zero
  have hpositive : ∀ erp, data.erp_unit_price = .fin erp → 0 < erp := by
    intro erp herp
    have hpos := hfigures.positive
    rw [herp] at hpos
    exact not_le.mp fun hle => Bool.false_ne_true (hpos.symm.trans (le_fin.mpr hle))
  constructor
  · rintro ⟨pct, x, erp, po, hpct, hreads, herp, hpo, hpercent, hdetail⟩
    obtain rfl := price_line_inj.mp (Option.some.inj (Except.ok.inj (hpct.symm.trans hline)))
    have hs := hpositive erp herp
    rw [hfigures.share] at hreads
    rw [herp] at herpd hreads
    rw [hpo] at hpod hreads
    obtain ⟨hsmall, rfl⟩ := ratio_small hs herpd hpod hreads hpercent
    obtain ⟨w, hw, hsize⟩ := detail_close hs herpd hpod hsmall
    rcases read_or_missing hfigures.po with hread | ⟨-, hzero⟩
    · obtain ⟨pct', x', hpct', hreads', hzero⟩ := hdetail _ (root_cause_of_prices hintent
        (fun heq => hs.ne' (PyFloat.fin.inj (herp.symm.trans heq))) hfigures.erp hread)
      obtain rfl := price_sentence_inj.mp hpct'
      rw [reads_signed_iff, reads_fixed_iff, herp, hpo] at hreads'
      obtain ⟨v, hv, rfl⟩ := hreads'
      obtain rfl := PyFloat.fin.inj (hv.symm.trans hw)
      rw [abs_zero, abs_eq_zero, round_to_eq_zero_iff, hsize,
        nearest_percent_iff (div_nonneg (abs_nonneg _) hs.le), div_lt_iff₀ hs] at hzero
      exact ⟨erp, po, herp, hpo, hzero⟩
    · -- without a price of the purchase order the prices would not be close
      obtain rfl := PyFloat.fin.inj (hpo.symm.trans hzero)
      rw [zero_sub, abs_neg, abs_of_pos hs, div_self hs.ne'] at hsmall
      norm_num at hsmall
  · rintro ⟨erp, po, herp, hpo, hclose⟩
    have hs := hpositive erp herp
    rw [← div_lt_iff₀ hs] at hclose
    have hsmall := hclose.le.trans close_share_lt.le
    rw [herp] at herpd
    rw [hpo] at hpod
    refine ⟨_, 0, erp, po, hline, ?_, herp, hpo, ?_, ?_⟩
    · rw [hfigures.share, herp, hpo]
      exact headline_close hs herpd hpod hsmall
    · unfold IsPercent
      rw [zero_sub, abs_neg, abs_mul, ratio_abs hs, abs_of_pos (by norm_num : (0 : ℚ) < 100)]
      linarith
    · intro sentence hsentence
      obtain ⟨w, hw, hsize⟩ := detail_close hs herpd hpod hsmall
      have hne : data.erp_unit_price ≠ .fin 0 :=
        fun heq => hs.ne' (PyFloat.fin.inj (herp.symm.trans heq))
      rcases read_or_missing hfigures.po with hread | ⟨hread, -⟩
      · rw [root_cause_of_prices hintent hne hfigures.erp hread] at hsentence
        refine ⟨_, 0, (Option.some.inj (Except.ok.inj hsentence)).symm, ?_, rfl⟩
        rw [reads_signed_iff, reads_fixed_iff, herp, hpo]
        refine ⟨w, hw, (round_to_eq_zero_iff.mpr ?_).symm⟩
        rw [hsize]
        exact (nearest_percent_iff (div_nonneg (abs_nonneg _) hs.le)).mpr hclose
      · rw [root_cause_of_prices hintent hne hfigures.erp hread] at hsentence
        cases hsentence

theorem gap_scaled_iff (hintent : record.intent = some "BACK_ORDER") {data : BackOrderAnalysisData}
    (h : adapt_back_order record = .ok (some data)) :
    GapScaled from_iso record data ↔ ∃ share gap ordered, data.gap_pct = .fin share ∧
      data.gap_qty = .fin gap ∧ data.ordered_qty = .fin ordered ∧
        ShareFits share (gap / ordered) := by
  have hline : headline from_iso record = .ok (some (gap_line data (fixed 1 data.gap_pct))) :=
    gap_headline hintent h
  constructor
  · rintro ⟨pct, x, gap, ordered, hpct, hreads, hgap, hordered, hpercent⟩
    obtain rfl := gap_line_inj.mp (Option.some.inj (Except.ok.inj (hpct.symm.trans hline)))
    obtain ⟨share, hshare, rfl⟩ := reads_fixed_iff.mp hreads
    exact ⟨share, gap, ordered, hshare, hgap, hordered, isPercent_iff_shareFits.mp hpercent⟩
  · rintro ⟨share, gap, ordered, hshare, hgap, hordered, hfits⟩
    exact ⟨_, _, gap, ordered, hline, reads_fixed_iff.mpr ⟨share, hshare, rfl⟩, hgap, hordered,
      isPercent_iff_shareFits.mpr hfits⟩

theorem over_scaled_iff (hintent : record.intent = some "OVER_MAX") {data : OverMaxAnalysisData}
    (h : adapt_overmax record = .ok (some data)) :
    OverScaled from_iso record data ↔ ∃ share excess max_qty, data.exceedance_pct = .fin share ∧
      data.excess_qty = .fin excess ∧ data.max_qty = .fin max_qty ∧
        ShareFits share (excess / max_qty) := by
  have hline : headline from_iso record =
      .ok (some (over_line data (fixed 1 data.exceedance_pct))) := over_headline hintent h
  constructor
  · rintro ⟨pct, x, excess, max_qty, hpct, hreads, hexcess, hmax, hpercent⟩
    obtain rfl := over_line_inj.mp (Option.some.inj (Except.ok.inj (hpct.symm.trans hline)))
    obtain ⟨share, hshare, rfl⟩ := reads_fixed_iff.mp hreads
    exact ⟨share, excess, max_qty, hshare, hexcess, hmax, isPercent_iff_shareFits.mp hpercent⟩
  · rintro ⟨share, excess, max_qty, hshare, hexcess, hmax, hfits⟩
    exact ⟨_, _, excess, max_qty, hline, reads_fixed_iff.mpr ⟨share, hshare, rfl⟩, hexcess, hmax,
      isPercent_iff_shareFits.mpr hfits⟩

end scaled

/-- The queue tells the percentages, and those of the detail view, exactly when the two prices
are close and the shares of the other analyses fit. -/
theorem percents_scaled_exactly_when_shares_fit (from_iso : FromIso) (final_status : Option String)
    (record : ChildRecord) (hdouble : DoublePrices record) :
    PercentsScaled from_iso final_status record ↔ SharesFit record := by
  constructor
  · intro h
    refine ⟨fun hintent data hdata => ?_, fun hintent data hdata => ?_,
      fun hintent data hdata => ?_⟩
    · exact (price_scaled_iff hintent hdouble hdata).mp (h.price hintent data hdata)
    · exact (gap_scaled_iff hintent hdata).mp (h.gap hintent data hdata)
    · exact (over_scaled_iff hintent hdata).mp (h.excess hintent data hdata)
  · intro h
    refine ⟨fun hintent data hdata => ?_, fun hintent data hdata => ?_,
      fun hintent data hdata => ?_⟩
    · exact (price_scaled_iff hintent hdouble hdata).mpr (h.price hintent data hdata)
    · exact (gap_scaled_iff hintent hdata).mpr (h.gap hintent data hdata)
    · exact (over_scaled_iff hintent hdata).mpr (h.excess hintent data hdata)

/-! ## A record of two prices -/

def pricedRecord (po erp : ℤ) : ChildRecord where
  intent := some "CONTRACTUAL_CORRECTION"
  shadow_verdict := none
  enrichment_context := some
    [("sap_doc_context", .dict [("doc_type", .str "ZOR"), ("doc_number", .str "1")]),
      ("contract_context", .dict [("rule_id", .str "R1"), ("root_cause_category", .str "PROMO")])]
  original_event := some [("po_price", .int po), ("sap_base_price", .int erp)]

theorem pricedRecord_double (po erp : ℤ) : DoublePrices (pricedRecord po erp) := by
  intro key hkey x hx
  rcases List.mem_cons.mp hkey with rfl | hkey
  · cases hx
  · obtain rfl := List.mem_singleton.mp hkey
    cases hx

theorem pricedRecord_prices {po erp : ℤ} {p s : ℚ} {data : PriceAnalysisData}
    (h : adapt_price (pricedRecord po erp) = .ok (some data))
    (hpo : as_float (.int po) = .ok (some (.fin p)))
    (herp : as_float (.int erp) = .ok (some (.fin s))) :
    data.erp_unit_price = .fin s ∧ data.po_unit_price = .fin p := by
  have hfigures := adapt_price_figures _ _ h data rfl
  refine ⟨Option.some.inj (Except.ok.inj (hfigures.erp.symm.trans herp)), ?_⟩
  have hread : float_or (.int po) (.fin 0) = .ok (.fin p) := by
    unfold float_or
    rw [hpo]
    rfl
  exact Except.ok.inj (hfigures.po.symm.trans hread)

def noOrdinals : FromIso := fun s => .error ⟨"ValueError", s⟩

theorem percents_scaled_of_equal_prices :
    PercentsScaled noOrdinals none (pricedRecord 100 100) :=
  (percents_scaled_exactly_when_shares_fit noOrdinals none _ (pricedRecord_double 100 100)).mpr
    { price := fun _ data hdata =>
        have hprices := pricedRecord_prices hdata (p := 100) (s := 100) (by decide +kernel)
          (by decide +kernel)
        ⟨100, 100, hprices.1, hprices.2, by decide +kernel⟩
      gap := fun hintent => absurd hintent (by decide)
      excess := fun hintent => absurd hintent (by decide) }

/-- A price a quarter below the other one is shown as a fifth of a percent. -/
theorem a_quarter_off_is_shown_as_a_fraction :
    headline noOrdinals (pricedRecord 75 100) =
        .ok (some "PO $75.00/EA vs ERP $100.00 — 0.2% delta, $25.00 at risk") ∧
      ¬ PercentsScaled noOrdinals none (pricedRecord 75 100) := by
  refine ⟨by decide +kernel, fun h => ?_⟩
  have hsome : (adapt_price (pricedRecord 75 100)).toOption.join.isSome = true := by
    decide +kernel
  cases hdata : adapt_price (pricedRecord 75 100) with
  | error e =>
    rw [hdata] at hsome
    cases hsome
  | ok found =>
    cases found with
    | none =>
      rw [hdata] at hsome
      cases hsome
    | some data =>
      obtain ⟨erp, po, herp, hpo, hclose⟩ :=
        (price_scaled_iff rfl (pricedRecord_double 75 100) hdata).mp (h.price rfl data hdata)
      have hprices := pricedRecord_prices hdata (p := 75) (s := 100) (by decide +kernel)
        (by decide +kernel)
      obtain rfl := PyFloat.fin.inj (herp.symm.trans hprices.1)
      obtain rfl := PyFloat.fin.inj (hpo.symm.trans hprices.2)
      exact absurd hclose (by decide +kernel)

end asoe
