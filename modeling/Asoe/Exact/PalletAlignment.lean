-- The pallet alignment on whole quantities, in exact arithmetic: what the
-- suggested plan is, and when it needs no second alignment.
import Asoe.QuantityRecipes
import Asoe.Lib.DecimalRounding

namespace asoe.exact

open py

/-! ## The recipe -/

structure PalletLine where
  sku : String
  description : Option String := none
  uom : String := "CS"
  layer_qty : ℤ
  pallet_qty : ℤ
  ordered_qty : ℤ
  deriving DecidableEq

/-- What the recipe reports of one line. -/
structure PalletDetail where
  line : PalletLine
  complete_layers : ℤ
  loose_qty : ℤ
  full_pallets : ℤ
  pallet_fill_pct : ℚ
  violation_type : Option String
  deriving DecidableEq

structure PalletSuggestion where
  sku : String
  description : Option String
  current : ℤ
  suggested : ℤ
  delta : ℤ
  layers : ℤ
  full_pallets : ℤ
  reason : String
  deriving DecidableEq

def full_pallets (line : PalletLine) : ℤ := line.ordered_qty / line.pallet_qty

def residual_after_pallets (line : PalletLine) : ℤ :=
  line.ordered_qty - full_pallets line * line.pallet_qty

def complete_layers (line : PalletLine) : ℤ := residual_after_pallets line / line.layer_qty

def loose (line : PalletLine) : ℤ :=
  residual_after_pallets line - complete_layers line * line.layer_qty

def pallet_fill_pct (line : PalletLine) : ℚ :=
  if residual_after_pallets line = 0 then 1
  else residual_after_pallets line / line.pallet_qty

/-- The violation of a line with a valid spec. -/
def violation (min_fill_pct broken_layer_fill_pct : ℚ) (line : PalletLine) :
    Option PalletViolation :=
  if 0 < loose line then some .brokenLayer
  else if 0 < residual_after_pallets line ∧ pallet_fill_pct line < min_fill_pct then
    some .partialPallet
  -- between the two thresholds the line stays as it is, as above them
  else if 0 < residual_after_pallets line ∧ pallet_fill_pct line < broken_layer_fill_pct then none
  else none

def target_qty (min_fill_pct broken_layer_fill_pct : ℚ) (line : PalletLine) : ℤ :=
  match violation min_fill_pct broken_layer_fill_pct line with
  | some .brokenLayer =>
    full_pallets line * line.pallet_qty + complete_layers line * line.layer_qty
  | some .partialPallet => full_pallets line * line.pallet_qty
  | none => line.ordered_qty

def reason_for (violation : Option PalletViolation) (line : PalletLine) : String :=
  match violation with
  | some .brokenLayer =>
    "Round down to " ++ toString (complete_layers line) ++ " full layer(s) of "
      ++ toString line.layer_qty ++ " " ++ (if line.pallet_qty ≠ 0 then "CS" else "")
      ++ " — preserves layer integrity (SD-PLT-001)."
  | some .partialPallet =>
    "Round down to full pallets of " ++ toString line.pallet_qty
      ++ " to eliminate partial-pallet freight waste (SD-PLT-002)."
  | none => "Line aligned to pallet config; no alignment change needed."

/-- A line without a valid pallet or layer is not reasoned about. -/
def invalid_spec (line : PalletLine) : Bool := line.pallet_qty ≤ 0 || line.layer_qty ≤ 0

def detail_of (min_fill_pct broken_layer_fill_pct : ℚ) (line : PalletLine) : PalletDetail :=
  if invalid_spec line then
    { line := line, complete_layers := 0, loose_qty := line.ordered_qty, full_pallets := 0
      pallet_fill_pct := 0, violation_type := some "Invalid Pallet Spec" }
  else
    { line := line, complete_layers := complete_layers line, loose_qty := loose line
      full_pallets := full_pallets line, pallet_fill_pct := round_to 4 (pallet_fill_pct line)
      violation_type := (violation min_fill_pct broken_layer_fill_pct line).map (·.value) }

def suggestion_of (min_fill_pct broken_layer_fill_pct : ℚ) (line : PalletLine) :
    PalletSuggestion :=
  if invalid_spec line then
    { sku := line.sku, description := line.description, current := line.ordered_qty
      suggested := line.ordered_qty, delta := 0, layers := 0, full_pallets := 0
      reason := "Missing / zero layer or pallet qty — cannot align." }
  else
    { sku := line.sku, description := line.description, current := line.ordered_qty
      suggested := target_qty min_fill_pct broken_layer_fill_pct line
      delta := target_qty min_fill_pct broken_layer_fill_pct line - line.ordered_qty
      layers := complete_layers line, full_pallets := full_pallets line
      reason := reason_for (violation min_fill_pct broken_layer_fill_pct line) line }

structure PalletOutputs where
  status : String
  classification : Option String
  total_ordered_cases : ℤ
  loose_cases_total : ℤ
  order_line_count : ℕ
  lines : List PalletDetail
  suggested_plan : List PalletSuggestion
  recommended_action : Option String
  order_id : String
  reason : Option String := none
  deriving DecidableEq

def has_violation (kind : PalletViolation) (min_fill_pct broken_layer_fill_pct : ℚ)
    (lines : List PalletLine) : Bool :=
  lines.any fun line =>
    !invalid_spec line && violation min_fill_pct broken_layer_fill_pct line = some kind

def align_pallets (order_id : String) (lines : List PalletLine)
    (min_fill_pct broken_layer_fill_pct : ℚ) : PalletOutputs :=
  if lines.isEmpty then
    { status := "FAILED", classification := none, total_ordered_cases := 0
      loose_cases_total := 0, order_line_count := 0, lines := [], suggested_plan := []
      recommended_action := none, order_id := order_id
      reason := some "lines must be a non-empty list." }
  else
    let has_broken := has_violation .brokenLayer min_fill_pct broken_layer_fill_pct lines
    let has_partial := has_violation .partialPallet min_fill_pct broken_layer_fill_pct lines
    let details := lines.map (detail_of min_fill_pct broken_layer_fill_pct)
    { status := if has_broken || has_partial then "REVIEW_REQUIRED" else "COMPLETE"
      classification := some (if has_broken && has_partial then "MIXED_VIOLATION"
        else if has_broken then "BROKEN_LAYER"
        else if has_partial then "PARTIAL_PALLET"
        else "NO_VIOLATION")
      total_ordered_cases := (lines.map (·.ordered_qty)).sum
      loose_cases_total := (details.map (·.loose_qty)).sum
      order_line_count := lines.length
      lines := details
      suggested_plan := lines.map (suggestion_of min_fill_pct broken_layer_fill_pct)
      recommended_action :=
        some (if has_broken || has_partial then "ROUND_DOWN_TO_LAYERS" else "ACCEPT_AS_IS")
      order_id := order_id }

/-! ## One line -/

/-- A line with a pallet, a layer and a quantity that is not negative. -/
def ValidLine (line : PalletLine) : Prop :=
  0 < line.layer_qty ∧ 0 < line.pallet_qty ∧ 0 ≤ line.ordered_qty

section line

variable {line : PalletLine} {min_fill_pct broken_layer_fill_pct : ℚ}

theorem residual_eq_emod (line : PalletLine) :
    residual_after_pallets line = line.ordered_qty % line.pallet_qty := by
  have hdecomposed := Int.mul_ediv_add_emod line.ordered_qty line.pallet_qty
  unfold residual_after_pallets full_pallets
  rw [Int.mul_comm]
  omega

theorem loose_eq_emod (line : PalletLine) :
    loose line = line.ordered_qty % line.pallet_qty % line.layer_qty := by
  have hdecomposed := Int.mul_ediv_add_emod (residual_after_pallets line) line.layer_qty
  unfold loose complete_layers
  rw [← residual_eq_emod, Int.mul_comm]
  omega

theorem quantity_decomposed (line : PalletLine) :
    line.ordered_qty = full_pallets line * line.pallet_qty +
      complete_layers line * line.layer_qty + loose line := by
  unfold loose residual_after_pallets
  omega

theorem loose_bounds (h : ValidLine line) : 0 ≤ loose line ∧ loose line < line.layer_qty := by
  rw [loose_eq_emod]
  exact ⟨Int.emod_nonneg _ h.1.ne', Int.emod_lt_of_pos _ h.1⟩

theorem residual_bounds (h : ValidLine line) :
    0 ≤ residual_after_pallets line ∧ residual_after_pallets line < line.pallet_qty := by
  rw [residual_eq_emod]
  exact ⟨Int.emod_nonneg _ h.2.1.ne', Int.emod_lt_of_pos _ h.2.1⟩

theorem layers_bounds (h : ValidLine line) :
    0 ≤ complete_layers line * line.layer_qty ∧
      complete_layers line * line.layer_qty < line.pallet_qty := by
  obtain ⟨hlow, hhigh⟩ := residual_bounds h
  obtain ⟨hloose, -⟩ := loose_bounds h
  have hlayers : 0 ≤ complete_layers line := Int.ediv_nonneg hlow h.1.le
  have hwhole : 0 ≤ complete_layers line * line.layer_qty := mul_nonneg hlayers h.1.le
  have heq : residual_after_pallets line = complete_layers line * line.layer_qty + loose line := by
    unfold loose
    omega
  omega

theorem target_bounds (h : ValidLine line) :
    0 ≤ target_qty min_fill_pct broken_layer_fill_pct line ∧
      target_qty min_fill_pct broken_layer_fill_pct line ≤ line.ordered_qty := by
  have hpallets : 0 ≤ full_pallets line * line.pallet_qty :=
    mul_nonneg (Int.ediv_nonneg h.2.2 h.2.1.le) h.2.1.le
  have hlayers := layers_bounds h
  have hloose := loose_bounds h
  have hquantity := quantity_decomposed line
  unfold target_qty
  split <;> omega

/-- The line with another quantity. -/
def PalletLine.with_qty (line : PalletLine) (qty : ℤ) : PalletLine :=
  { line with ordered_qty := qty }

theorem residual_of_rest {rest : ℤ} (hlow : 0 ≤ rest)
    (hhigh : rest < line.pallet_qty) :
    residual_after_pallets (line.with_qty (full_pallets line * line.pallet_qty + rest)) = rest := by
  rw [residual_eq_emod]
  simp only [PalletLine.with_qty]
  rw [Int.add_comm, Int.add_mul_emod_self_right]
  exact Int.emod_eq_of_lt hlow hhigh

/-- The layers that a loose rest leaves fill the pallet enough, or there are
none of them. -/
def LayersFill (min_fill_pct : ℚ) (line : PalletLine) : Prop :=
  let residual := line.ordered_qty % line.pallet_qty
  let layers := residual / line.layer_qty * line.layer_qty
  residual % line.layer_qty ≠ 0 → layers = 0 ∨ min_fill_pct ≤ (layers : ℚ) / line.pallet_qty

theorem violation_eq_none_iff (hloose : loose line = 0) :
    violation min_fill_pct broken_layer_fill_pct line = none ↔
      ¬ (0 < residual_after_pallets line ∧ pallet_fill_pct line < min_fill_pct) := by
  unfold violation
  rw [hloose, if_neg (lt_irrefl 0)]
  split
  · rename_i hpart
    simp [hpart]
  · rename_i hpart
    simp [hpart]

theorem layersFill_iff (hloose : 0 < loose line) :
    LayersFill min_fill_pct line ↔ complete_layers line * line.layer_qty = 0 ∨
      min_fill_pct ≤ ((complete_layers line * line.layer_qty : ℤ) : ℚ) / line.pallet_qty := by
  have hne : line.ordered_qty % line.pallet_qty % line.layer_qty ≠ 0 := by
    rw [← loose_eq_emod]
    omega
  unfold LayersFill complete_layers
  rw [residual_eq_emod]
  simp [hne]

/-- Rounding down to the layers leaves no violation just when the layers fill
the pallet enough. -/
theorem layers_mended_iff (h : ValidLine line) :
    violation min_fill_pct broken_layer_fill_pct (line.with_qty
        (full_pallets line * line.pallet_qty + complete_layers line * line.layer_qty)) = none ↔
      complete_layers line * line.layer_qty = 0 ∨
        min_fill_pct ≤ ((complete_layers line * line.layer_qty : ℤ) : ℚ) / line.pallet_qty := by
  obtain ⟨hlow, hhigh⟩ := layers_bounds h
  have hrest := residual_of_rest hlow hhigh
  have hwhole : loose (line.with_qty
      (full_pallets line * line.pallet_qty + complete_layers line * line.layer_qty)) = 0 := by
    rw [loose_eq_emod, ← residual_eq_emod, hrest]
    exact Int.mul_emod_left _ _
  rw [violation_eq_none_iff hwhole]
  unfold pallet_fill_pct
  rw [hrest]
  by_cases hnone : complete_layers line * line.layer_qty = 0
  · simp [hnone]
  · have hpos : 0 < complete_layers line * line.layer_qty := by omega
    rw [if_neg hnone]
    simp only [hpos, hnone, true_and, false_or, not_lt]
    rfl

/-- The mended line is without a violation just when its layers fill the
pallet enough. -/
theorem mended_iff (h : ValidLine line) :
    violation min_fill_pct broken_layer_fill_pct
        (line.with_qty (target_qty min_fill_pct broken_layer_fill_pct line)) = none ↔
      LayersFill min_fill_pct line := by
  by_cases hloose : 0 < loose line
  · have htarget : target_qty min_fill_pct broken_layer_fill_pct line =
        full_pallets line * line.pallet_qty + complete_layers line * line.layer_qty := by
      simp [target_qty, violation, hloose]
    rw [htarget]
    exact (layers_mended_iff h).trans (layersFill_iff hloose).symm
  · have hzero : loose line = 0 := by
      have := (loose_bounds h).1
      omega
    have hfills : LayersFill min_fill_pct line := by
      intro hne
      rw [← loose_eq_emod] at hne
      exact absurd hzero hne
    refine iff_of_true ?_ hfills
    by_cases hnone : violation min_fill_pct broken_layer_fill_pct line = none
    · simp [target_qty, hnone, PalletLine.with_qty]
    · have hpart : violation min_fill_pct broken_layer_fill_pct line =
          some .partialPallet := by
        unfold violation at hnone ⊢
        rw [if_neg hloose] at hnone ⊢
        split_ifs at hnone ⊢
        · rfl
        all_goals exact absurd rfl hnone
      have hrest := residual_of_rest (le_refl (0 : ℤ)) h.2.1
      have hwhole : loose (line.with_qty (full_pallets line * line.pallet_qty + 0)) = 0 := by
        rw [loose_eq_emod, ← residual_eq_emod, hrest]
        exact Int.zero_emod _
      rw [show target_qty min_fill_pct broken_layer_fill_pct line =
        full_pallets line * line.pallet_qty + 0 by simp [target_qty, hpart]]
      rw [violation_eq_none_iff hwhole, hrest]
      simp

end line

/-! ## The plan -/

/-- The lines with the suggested quantities in place of the ordered ones. -/
def with_suggested (lines : List PalletLine) (plan : List PalletSuggestion) : List PalletLine :=
  List.zipWith (fun line suggestion => line.with_qty suggestion.suggested) lines plan

/-- A plan that needs no second alignment, and whose quantities add up. -/
structure AlreadyAligned (order_id : String) (lines : List PalletLine)
    (min_fill_pct broken_layer_fill_pct : ℚ) : Prop where
  no_violation : (align_pallets order_id (with_suggested lines
    (align_pallets order_id lines min_fill_pct broken_layer_fill_pct).suggested_plan)
    min_fill_pct broken_layer_fill_pct).classification = some "NO_VIOLATION"
  unchanged : ∀ suggestion ∈ (align_pallets order_id (with_suggested lines
    (align_pallets order_id lines min_fill_pct broken_layer_fill_pct).suggested_plan)
    min_fill_pct broken_layer_fill_pct).suggested_plan, suggestion.suggested = suggestion.current
  bounded : ∀ suggestion ∈
    (align_pallets order_id lines min_fill_pct broken_layer_fill_pct).suggested_plan,
    0 ≤ suggestion.suggested ∧ suggestion.suggested ≤ suggestion.current
  decomposed : ∀ detail ∈
    (align_pallets order_id lines min_fill_pct broken_layer_fill_pct).lines,
    detail.line.ordered_qty = detail.full_pallets * detail.line.pallet_qty +
      detail.complete_layers * detail.line.layer_qty + detail.loose_qty ∧
    0 ≤ detail.loose_qty ∧ detail.loose_qty < detail.line.layer_qty

section plan

variable {lines : List PalletLine} {min_fill_pct broken_layer_fill_pct : ℚ} (order_id : String)

theorem valid_spec {line : PalletLine} (h : ValidLine line) : invalid_spec line = false := by
  simp [invalid_spec, h.1, h.2.1]

theorem suggested_plan_eq (hne : lines ≠ []) :
    (align_pallets order_id lines min_fill_pct broken_layer_fill_pct).suggested_plan =
      lines.map (suggestion_of min_fill_pct broken_layer_fill_pct) := by
  unfold align_pallets
  rw [if_neg (by simpa using hne)]

theorem details_eq (hne : lines ≠ []) :
    (align_pallets order_id lines min_fill_pct broken_layer_fill_pct).lines =
      lines.map (detail_of min_fill_pct broken_layer_fill_pct) := by
  unfold align_pallets
  rw [if_neg (by simpa using hne)]

theorem has_violation_eq_false (kind : PalletViolation) :
    has_violation kind min_fill_pct broken_layer_fill_pct lines = false ↔
      ∀ line ∈ lines, invalid_spec line = false →
        violation min_fill_pct broken_layer_fill_pct line ≠ some kind := by
  simp [has_violation, List.any_eq_false]

theorem no_violation_iff (hne : lines ≠ []) :
    (align_pallets order_id lines min_fill_pct broken_layer_fill_pct).classification =
        some "NO_VIOLATION" ↔
      ∀ line ∈ lines, invalid_spec line = false →
        violation min_fill_pct broken_layer_fill_pct line = none := by
  have hclass : (align_pallets order_id lines min_fill_pct
      broken_layer_fill_pct).classification = some "NO_VIOLATION" ↔
      has_violation .brokenLayer min_fill_pct broken_layer_fill_pct lines = false ∧
      has_violation .partialPallet min_fill_pct broken_layer_fill_pct lines = false := by
    unfold align_pallets
    rw [if_neg (by simpa using hne)]
    dsimp only
    cases has_violation .brokenLayer min_fill_pct broken_layer_fill_pct lines <;>
      cases has_violation .partialPallet min_fill_pct broken_layer_fill_pct lines <;> decide
  rw [hclass, has_violation_eq_false, has_violation_eq_false]
  constructor
  · rintro ⟨hbroken, hpart⟩ line hline hspec
    cases hviolation : violation min_fill_pct broken_layer_fill_pct line with
    | none => rfl
    | some kind =>
      cases kind
      · exact absurd hviolation (hbroken line hline hspec)
      · exact absurd hviolation (hpart line hline hspec)
  · intro hnone
    constructor <;> intro line hline hspec <;> simp [hnone line hline hspec]

variable (min_fill_pct broken_layer_fill_pct) in
theorem with_suggested_eq (hvalid : ∀ line ∈ lines, ValidLine line) (hne : lines ≠ []) :
    with_suggested lines
        (align_pallets order_id lines min_fill_pct broken_layer_fill_pct).suggested_plan =
      lines.map fun line =>
        line.with_qty (target_qty min_fill_pct broken_layer_fill_pct line) := by
  rw [suggested_plan_eq order_id hne, with_suggested, List.zipWith_map_right,
    List.zipWith_self]
  refine List.map_congr_left fun line hline => ?_
  simp [suggestion_of, valid_spec (hvalid line hline)]

theorem mended_valid {line : PalletLine} (h : ValidLine line) :
    ValidLine (line.with_qty (target_qty min_fill_pct broken_layer_fill_pct line)) :=
  ⟨h.1, h.2.1, (target_bounds h).1⟩

variable (min_fill_pct broken_layer_fill_pct) in
theorem suggestion_valid {line : PalletLine} (h : ValidLine line) :
    (suggestion_of min_fill_pct broken_layer_fill_pct line).current = line.ordered_qty ∧
      (suggestion_of min_fill_pct broken_layer_fill_pct line).suggested =
        target_qty min_fill_pct broken_layer_fill_pct line := by
  simp [suggestion_of, valid_spec h]

end plan

/-- Fifteen cases of a pallet of a hundred, in layers of ten. -/
def brokenLayerLine : PalletLine :=
  { sku := "A", layer_qty := 10, pallet_qty := 100, ordered_qty := 15 }

end asoe.exact
