-- The trim of an order over its maximum, in exact arithmetic up to the rounding
-- of the recipe: when the plan stays within the lines, and within the maximum
-- or with a row for a human.
import Asoe.QuantityRecipes
import Asoe.Lib.DecimalRounding
import Mathlib.Algebra.Order.BigOperators.Group.List

namespace asoe.exact

open py

/-! ## The recipe -/

structure OverMaxLine where
  sku : String := ""
  description : Option String := none
  qty : ℚ := 0
  max_line_qty : Option ℚ := none
  is_even_layer_item : Bool := true
  deriving DecidableEq

/-- Why a row is as it is. -/
inductive TrimReason where
  | exceeds_max_line_qty | within_contract_max
  | proportional (share : ℚ)
  | broken_layer
  deriving DecidableEq

structure TrimPlanRow where
  sku : String
  description : Option String
  ordered : ℚ
  trimmed_to : ℚ
  delta : ℚ
  action : TrimAction
  reason : TrimReason
  is_even_layer_item : Bool
  deriving DecidableEq

/-- `line.get("max_line_qty") or ordered`. -/
def line_max (line : OverMaxLine) : ℚ :=
  match line.max_line_qty with
  | some m => if m = 0 then line.qty else m
  | none => line.qty

/-- Each line is trimmed to its own ceiling; the excess that is left goes on. -/
def ceiling_trims (remaining_excess : ℚ) : List OverMaxLine → ℚ × List TrimPlanRow
  | [] => (remaining_excess, [])
  | line :: lines =>
    if line_max line < line.qty then
      let delta := round_to 3 (line_max line - line.qty)
      let (left, rows) := ceiling_trims (max 0 (remaining_excess + delta)) lines
      (left, ⟨line.sku, line.description, line.qty, line_max line, delta, .TRIM,
        .exceeds_max_line_qty, line.is_even_layer_item⟩ :: rows)
    else
      let (left, rows) := ceiling_trims remaining_excess lines
      (left, ⟨line.sku, line.description, line.qty, line.qty, 0, .OK, .within_contract_max,
        line.is_even_layer_item⟩ :: rows)

def TrimPlanRow.eligible (row : TrimPlanRow) : Bool := row.action = .OK && row.is_even_layer_item

/-- The share of one even-layer line in the excess that is left. -/
def proportional_trim (remaining_excess total_ok_qty : ℚ) (row : TrimPlanRow) : TrimPlanRow :=
  if row.eligible then
    let share := row.ordered / total_ok_qty
    let trim_by := round_to 3 (share * remaining_excess)
    if trim_by ≤ 0 then row
    else { row with
      trimmed_to := round_to 3 (row.ordered - trim_by), delta := -trim_by, action := .TRIM
      reason := .proportional share }
  else row

/-- The excess that is left is shared by the even-layer lines. -/
def residual_trims (remaining_excess : ℚ) (plan : List TrimPlanRow) : List TrimPlanRow :=
  let total_ok_qty := ((plan.filter (·.eligible)).map (·.ordered)).sum
  if 0 < remaining_excess ∧ 0 < total_ok_qty then
    plan.map (proportional_trim remaining_excess total_ok_qty)
  else plan

/-- A broken-layer line that the trims leave over the ceiling needs a human. -/
def skip_broken (excess unresolved : ℚ) (row : TrimPlanRow) : TrimPlanRow :=
  if row.action = .OK ∧ row.is_even_layer_item = false ∧ 0 < excess ∧ 1 / 1000 < unresolved then
    { row with action := .SKIP, reason := .broken_layer }
  else row

def plan_trim (excess : ℚ) (order_lines : List OverMaxLine) : List TrimPlanRow :=
  let (remaining_excess, plan) := ceiling_trims excess order_lines
  let plan := residual_trims remaining_excess plan
  let trimmed := ((plan.filter (·.action = .TRIM)).map fun row => |row.delta|).sum
  plan.map (skip_broken excess (remaining_excess - trimmed))

structure OverMaxOutputs where
  status : String
  classification : Option String
  excess_qty : Option ℚ
  exceedance_pct : Option ℚ
  at_risk : Option ℚ
  trim_plan : List TrimPlanRow
  recommended_action : Option String
  order_id : String
  reason : Option String := none
  deriving DecidableEq

def trim_over_max (order_id : String) (total_ordered max_qty severe_exceedance_pct : ℚ)
    (order_lines : List OverMaxLine) (unit_cost_per_line : List (String × ℚ)) : OverMaxOutputs :=
  if total_ordered ≤ 0 ∨ max_qty ≤ 0 then
    { status := "FAILED", classification := none, excess_qty := none, exceedance_pct := none
      at_risk := none, trim_plan := [], recommended_action := none, order_id := order_id
      reason := some ("total_ordered and max_qty must be > 0; got "
        ++ reprFloat (.ofRat total_ordered) ++ ", " ++ reprFloat (.ofRat max_qty) ++ ".") }
  else
    let excess := max 0 (total_ordered - max_qty)
    let exceedance_pct := excess / max_qty
    if excess = 0 then
      { status := "COMPLETE", classification := some "NO_EXCEEDANCE", excess_qty := some 0
        exceedance_pct := some 0, at_risk := some 0, trim_plan := []
        recommended_action := some "NO_ACTION", order_id := order_id }
    else
      let severe := severe_exceedance_pct < exceedance_pct
      let trim_plan := plan_trim excess order_lines
      let at_risk := ((trim_plan.filter (·.action = .TRIM)).map fun row =>
        |row.delta| * (dict.get unit_cost_per_line row.sku).getD 0).sum
      { status := if severe then "ESCALATE" else "REVIEW_REQUIRED"
        classification := some (if severe then "SEVERE" else "MINOR")
        excess_qty := some (round_to 3 excess)
        exceedance_pct := some (round_to 4 exceedance_pct), at_risk := some (round_to 2 at_risk)
        trim_plan := trim_plan
        recommended_action := some (if severe then "ESCALATE" else "TRIM_TO_MAX")
        order_id := order_id }

/-! ## The plan line by line -/

/-- The line is over its own ceiling. -/
def OverMaxLine.over (line : OverMaxLine) : Bool := line_max line < line.qty

def OverMaxLine.even_within (line : OverMaxLine) : Bool :=
  !line.over && line.is_even_layer_item

def OverMaxLine.broken_within (line : OverMaxLine) : Bool :=
  !line.over && !line.is_even_layer_item

/-- What the ceiling of a line cuts off, as it is rounded. -/
def cut (line : OverMaxLine) : ℚ :=
  if line.over then -round_to 3 (line_max line - line.qty) else 0

def ceiling_cut (lines : List OverMaxLine) : ℚ := (lines.map cut).sum

/-- The excess that the ceilings leave. -/
def left_over (excess : ℚ) (lines : List OverMaxLine) : ℚ := max 0 (excess - ceiling_cut lines)

def even_qty (lines : List OverMaxLine) : ℚ :=
  ((lines.filter (·.even_within)).map (·.qty)).sum

/-- The share of an even-layer line in what is left, as it is rounded. -/
def share_of_line (excess : ℚ) (lines : List OverMaxLine) (line : OverMaxLine) : ℚ :=
  if line.even_within ∧ 0 < left_over excess lines ∧ 0 < even_qty lines then
    round_to 3 (line.qty / even_qty lines * left_over excess lines)
  else 0

/-- What the ceilings and the shares do not account for. The cuts are taken
off a second time here. -/
def unresolved (excess : ℚ) (lines : List OverMaxLine) : ℚ :=
  left_over excess lines - (ceiling_cut lines + (lines.map (share_of_line excess lines)).sum)

/-- The row of a line, with the whole order given. -/
def row_of (excess : ℚ) (lines : List OverMaxLine) (line : OverMaxLine) : TrimPlanRow :=
  if line.over then
    ⟨line.sku, line.description, line.qty, line_max line, -cut line, .TRIM,
      .exceeds_max_line_qty, line.is_even_layer_item⟩
  else if 0 < share_of_line excess lines line then
    ⟨line.sku, line.description, line.qty,
      round_to 3 (line.qty - share_of_line excess lines line), -share_of_line excess lines line,
      .TRIM, .proportional (line.qty / even_qty lines), line.is_even_layer_item⟩
  else if line.broken_within ∧ 0 < excess ∧ 1 / 1000 < unresolved excess lines then
    ⟨line.sku, line.description, line.qty, line.qty, 0, .SKIP, .broken_layer,
      line.is_even_layer_item⟩
  else
    ⟨line.sku, line.description, line.qty, line.qty, 0, .OK, .within_contract_max,
      line.is_even_layer_item⟩

/-- The row of a line after the first pass. -/
def ceiling_row (line : OverMaxLine) : TrimPlanRow :=
  if line.over then
    ⟨line.sku, line.description, line.qty, line_max line, -cut line, .TRIM,
      .exceeds_max_line_qty, line.is_even_layer_item⟩
  else
    ⟨line.sku, line.description, line.qty, line.qty, 0, .OK, .within_contract_max,
      line.is_even_layer_item⟩

theorem cut_nonneg (line : OverMaxLine) : 0 ≤ cut line := by
  unfold cut
  split
  · rename_i hover
    have hmax : line_max line < line.qty := by simpa [OverMaxLine.over] using hover
    have hround := round_to_nonpos 3 (show line_max line - line.qty ≤ 0 by linarith)
    linarith
  · exact le_rfl

theorem ceiling_cut_nonneg (lines : List OverMaxLine) : 0 ≤ ceiling_cut lines := by
  refine List.sum_nonneg fun x hx => ?_
  obtain ⟨line, -, rfl⟩ := List.mem_map.mp hx
  exact cut_nonneg line

/-- The first pass takes each cut off the excess, and stops at zero. -/
theorem ceiling_trims_eq {excess : ℚ} (hexcess : 0 ≤ excess) (lines : List OverMaxLine) :
    ceiling_trims excess lines = (left_over excess lines, lines.map ceiling_row) := by
  induction lines generalizing excess with
  | nil => simp [ceiling_trims, left_over, ceiling_cut, hexcess]
  | cons line lines ih =>
    have hcuts := ceiling_cut_nonneg lines
    unfold ceiling_trims
    by_cases hover : line_max line < line.qty
    · have hover' : line.over = true := by simpa [OverMaxLine.over] using hover
      have hcut : round_to 3 (line_max line - line.qty) = -cut line := by
        rw [cut, if_pos hover', neg_neg]
      have hleft : left_over (max 0 (excess - cut line)) lines =
          left_over excess (line :: lines) := by
        unfold left_over
        have hsum : ceiling_cut (line :: lines) = cut line + ceiling_cut lines := rfl
        rw [hsum]
        rcases max_cases 0 (excess - cut line) with ⟨h, hle⟩ | ⟨h, hlt⟩
        · rw [h, max_eq_left (by linarith), max_eq_left (by linarith)]
        · rw [h, sub_sub]
      rw [if_pos hover, hcut]
      dsimp only
      rw [← sub_eq_add_neg, ih (le_max_left _ _), hleft]
      simp [ceiling_row, hover']
    · have hover' : line.over = false := by simpa [OverMaxLine.over] using hover
      have hleft : left_over excess lines = left_over excess (line :: lines) := by
        unfold left_over
        have hsum : ceiling_cut (line :: lines) = cut line + ceiling_cut lines := rfl
        rw [hsum, cut, if_neg (by simp [hover']), zero_add]
      rw [if_neg hover, ih hexcess, hleft]
      simp [ceiling_row, hover']

variable {excess : ℚ} {lines : List OverMaxLine}

theorem share_of_over {line : OverMaxLine}
    (h : line.over = true) : share_of_line excess lines line = 0 := by
  simp [share_of_line, OverMaxLine.even_within, h]

theorem share_nonneg (excess : ℚ) (lines : List OverMaxLine) {line : OverMaxLine}
    (hqty : 0 ≤ line.qty) : 0 ≤ share_of_line excess lines line := by
  unfold share_of_line
  split
  · rename_i h
    exact round_to_nonneg 3 (mul_nonneg (div_nonneg hqty h.2.2.le) h.2.1.le)
  · exact le_rfl

/-- The row of a line after the second pass. -/
def shared_row (excess : ℚ) (lines : List OverMaxLine) (line : OverMaxLine) : TrimPlanRow :=
  if 0 < share_of_line excess lines line then
    ⟨line.sku, line.description, line.qty,
      round_to 3 (line.qty - share_of_line excess lines line), -share_of_line excess lines line,
      .TRIM, .proportional (line.qty / even_qty lines), line.is_even_layer_item⟩
  else ceiling_row line

theorem ceiling_row_eligible (line : OverMaxLine) :
    (ceiling_row line).eligible = line.even_within := by
  unfold ceiling_row OverMaxLine.even_within TrimPlanRow.eligible
  cases line.over <;> simp

theorem ceiling_row_ordered (line : OverMaxLine) : (ceiling_row line).ordered = line.qty := by
  unfold ceiling_row
  split <;> rfl

theorem eligible_qty (lines : List OverMaxLine) :
    (((lines.map ceiling_row).filter (·.eligible)).map (·.ordered)).sum = even_qty lines := by
  rw [List.filter_map, List.map_map, even_qty]
  have heligible : (fun row : TrimPlanRow => row.eligible) ∘ ceiling_row =
      fun line => line.even_within := funext ceiling_row_eligible
  have hordered : (fun row : TrimPlanRow => row.ordered) ∘ ceiling_row = fun line => line.qty :=
    funext ceiling_row_ordered
  rw [heligible, hordered]

theorem residual_trims_eq (excess : ℚ) (lines : List OverMaxLine) :
    residual_trims (left_over excess lines) (lines.map ceiling_row) =
      lines.map (shared_row excess lines) := by
  unfold residual_trims
  rw [eligible_qty]
  dsimp only
  split
  · rename_i hleft
    rw [List.map_map]
    refine List.map_congr_left fun line _ => ?_
    have hshare : share_of_line excess lines line =
        if line.even_within then
          round_to 3 (line.qty / even_qty lines * left_over excess lines) else 0 := by
      simp [share_of_line, hleft.1, hleft.2]
    unfold Function.comp proportional_trim shared_row
    rw [ceiling_row_eligible, ceiling_row_ordered, hshare]
    by_cases heven : line.even_within = true
    · have hover : line.over = false := by
        simp only [OverMaxLine.even_within, Bool.and_eq_true, Bool.not_eq_true'] at heven
        exact heven.1
      simp only [heven, if_true]
      split
      · rename_i hnot
        rw [if_neg (not_lt.mpr hnot)]
      · rename_i hpos
        rw [if_pos (not_le.mp hpos)]
        simp [ceiling_row, hover]
    · simp [heven]
  · rename_i hnone
    refine List.map_congr_left fun line _ => ?_
    have hshare : share_of_line excess lines line = 0 := by
      unfold share_of_line
      exact if_neg fun h => hnone h.2
    rw [shared_row, hshare, if_neg (lt_irrefl 0)]

theorem sum_filter_map {α : Type} (p : α → Bool) (f : α → ℚ) (xs : List α) :
    ((xs.filter p).map f).sum = (xs.map fun x => if p x then f x else 0).sum := by
  induction xs with
  | nil => rfl
  | cons x xs ih =>
    rw [List.map_cons, List.sum_cons, ← ih]
    by_cases hx : p x = true
    · rw [List.filter_cons_of_pos hx, if_pos hx, List.map_cons, List.sum_cons]
    · rw [List.filter_cons_of_neg hx, if_neg hx, zero_add]

/-- What the rows of the first two passes trim, in all. -/
theorem trimmed_eq (hqty : ∀ line ∈ lines, 0 ≤ line.qty) :
    ((((lines.map (shared_row excess lines)).filter (·.action = .TRIM)).map
        fun row => |row.delta|).sum) =
      ceiling_cut lines + (lines.map (share_of_line excess lines)).sum := by
  rw [sum_filter_map, List.map_map, ceiling_cut, ← List.sum_map_add]
  refine congrArg List.sum (List.map_congr_left fun line hline => ?_)
  have hshare := share_nonneg excess lines (hqty line hline)
  unfold Function.comp shared_row
  by_cases hpos : 0 < share_of_line excess lines line
  · have hover : line.over = false := by
      by_contra hover
      rw [share_of_over (by simpa using hover)] at hpos
      exact lt_irrefl 0 hpos
    simp [hpos, cut, hover, abs_of_pos hpos]
  · have hzero : share_of_line excess lines line = 0 := le_antisymm (not_lt.mp hpos) hshare
    have hcut := cut_nonneg line
    rw [if_neg hpos, hzero]
    unfold ceiling_row
    cases hover : line.over with
    | true => simp [abs_of_nonneg hcut]
    | false => simp [cut, hover]

/-- The plan has one row for each line. -/
theorem plan_trim_eq (hexcess : 0 ≤ excess) (hqty : ∀ line ∈ lines, 0 ≤ line.qty) :
    plan_trim excess lines = lines.map (row_of excess lines) := by
  unfold plan_trim
  rw [ceiling_trims_eq hexcess]
  dsimp only
  rw [residual_trims_eq, trimmed_eq hqty, List.map_map]
  refine List.map_congr_left fun line _ => ?_
  have hunresolved : left_over excess lines -
      (ceiling_cut lines + (lines.map (share_of_line excess lines)).sum) =
      unresolved excess lines := rfl
  unfold Function.comp skip_broken shared_row row_of
  rw [hunresolved]
  by_cases hpos : 0 < share_of_line excess lines line
  · have hover : line.over = false := by
      by_contra hover
      rw [share_of_over (by simpa using hover)] at hpos
      exact lt_irrefl 0 hpos
    simp [hpos, hover]
  · unfold ceiling_row
    cases hover : line.over with
    | true => simp [hpos]
    | false =>
      simp only [hpos, if_false, Bool.false_eq_true, true_and, OverMaxLine.broken_within, hover,
        Bool.not_false, Bool.true_and, Bool.not_eq_true']

/-! ## Sound plans -/

/-- Each line is trimmed to between zero and what was ordered, and the lines
come to the maximum at most or a row is for a human. -/
structure PlanSound (max_qty : ℚ) (lines : List OverMaxLine) (plan : List TrimPlanRow) : Prop where
  rows : List.Forall₂ (fun line row => row.sku = line.sku ∧ row.ordered = line.qty ∧
    0 ≤ row.trimmed_to ∧ row.trimmed_to ≤ line.qty) lines plan
  total : (plan.map (·.trimmed_to)).sum ≤ max_qty ∨ ∃ row ∈ plan, row.action = .SKIP

/-- What a line gives up to its ceiling or to its share. -/
def given_up (excess : ℚ) (lines : List OverMaxLine) (line : OverMaxLine) : ℚ :=
  if line.over then line.qty - line_max line
  else if 0 < share_of_line excess lines line then
    line.qty - round_to 3 (line.qty - share_of_line excess lines line)
  else 0

/-- No ceiling is below zero, no share is larger than its line (up to the
rounding), and where the lines give up less than the excess a broken-layer
line is there to be skipped and what is unresolved stays in sight. -/
structure TrimsFit (excess : ℚ) (lines : List OverMaxLine) : Prop where
  ceilings : ∀ line ∈ lines, line.over → 0 ≤ line_max line
  shares : ∀ line ∈ lines, share_of_line excess lines line ≤ line.qty + 1 / 2000
  surfaced : (lines.map (given_up excess lines)).sum < excess →
    (∃ line ∈ lines, line.broken_within) ∧ 1 / 1000 < unresolved excess lines

theorem row_of_ordered (excess : ℚ) (lines : List OverMaxLine) (line : OverMaxLine) :
    (row_of excess lines line).sku = line.sku ∧ (row_of excess lines line).ordered = line.qty := by
  unfold row_of
  split_ifs <;> exact ⟨rfl, rfl⟩

theorem row_of_trimmed_to (excess : ℚ) (lines : List OverMaxLine) (line : OverMaxLine) :
    (row_of excess lines line).trimmed_to = line.qty - given_up excess lines line := by
  unfold row_of given_up
  split_ifs <;> simp

/-- A share that is not zero is a thousandth at least. -/
theorem share_ge {line : OverMaxLine} (h : 0 < share_of_line excess lines line) :
    1 / 1000 ≤ share_of_line excess lines line := by
  unfold share_of_line at h ⊢
  split at h
  · rename_i hshare
    rw [if_pos hshare]
    unfold round_to at h ⊢
    have hscale : (0 : ℚ) < 10 ^ 3 := by norm_num
    have hpos : 0 < PyFloat.roundHalfEven
        (line.qty / even_qty lines * left_over excess lines * 10 ^ 3) := by
      have hnum := (div_pos_iff_of_pos_right hscale).mp h
      exact_mod_cast hnum
    have hone : (1 : ℚ) ≤ (PyFloat.roundHalfEven
        (line.qty / even_qty lines * left_over excess lines * 10 ^ 3) : ℤ) := by
      exact_mod_cast hpos
    rw [le_div_iff₀ hscale]
    norm_num
    exact hone
  · exact absurd h (lt_irrefl 0)

/-- A line stays between zero and what was ordered just when its ceiling is not
below zero and its share is not larger than the line. -/
theorem row_within_iff (excess : ℚ) (lines : List OverMaxLine) {line : OverMaxLine}
    (hqty : 0 ≤ line.qty) :
    0 ≤ (row_of excess lines line).trimmed_to ∧ (row_of excess lines line).trimmed_to ≤ line.qty ↔
      (line.over → 0 ≤ line_max line) ∧
        share_of_line excess lines line ≤ line.qty + 1 / 2000 := by
  rw [row_of_trimmed_to]
  unfold given_up
  cases hover : line.over with
  | true =>
    have hmax : line_max line < line.qty := by simpa [OverMaxLine.over] using hover
    rw [share_of_over hover]
    simp only [if_true, forall_true_left, sub_sub_cancel]
    constructor
    · intro h
      exact ⟨h.1, by linarith⟩
    · intro h
      exact ⟨h.1, hmax.le⟩
  | false =>
    simp only [Bool.false_eq_true, if_false, false_implies, true_and]
    split
    · rename_i hpos
      have hge := share_ge hpos
      have hnear := abs_le.mp (abs_round_to_sub 3 (line.qty - share_of_line excess lines line))
      rw [sub_sub_cancel, round_to_nonneg_iff]
      constructor
      · rintro ⟨h, -⟩
        norm_num at h
        linarith
      · intro h
        norm_num at hnear ⊢
        constructor <;> linarith [hnear.2]
    · rename_i hnot
      have hshare := not_lt.mp hnot
      constructor
      · intro _
        linarith
      · intro _
        constructor <;> linarith

theorem plan_total (excess : ℚ) (lines : List OverMaxLine) :
    ((lines.map (row_of excess lines)).map (·.trimmed_to)).sum =
      (lines.map (·.qty)).sum - (lines.map (given_up excess lines)).sum := by
  rw [List.map_map, eq_sub_iff_add_eq, ← List.sum_map_add]
  refine congrArg List.sum (List.map_congr_left fun line _ => ?_)
  rw [Function.comp_apply, row_of_trimmed_to, sub_add_cancel]

theorem plan_skips_iff (hexcess : 0 < excess) :
    (∃ row ∈ lines.map (row_of excess lines), row.action = .SKIP) ↔
      (∃ line ∈ lines, line.broken_within) ∧ 1 / 1000 < unresolved excess lines := by
  have hrow : ∀ line, (row_of excess lines line).action = .SKIP ↔
      line.broken_within = true ∧ 1 / 1000 < unresolved excess lines := by
    intro line
    unfold row_of
    cases hover : line.over with
    | true => simp [OverMaxLine.broken_within, hover]
    | false =>
      cases heven : line.is_even_layer_item with
      | true =>
        simp only [OverMaxLine.broken_within, hover, heven]
        split_ifs <;> simp_all
      | false =>
        have hshare : share_of_line excess lines line = 0 := by
          simp [share_of_line, OverMaxLine.even_within, hover, heven]
        simp only [OverMaxLine.broken_within, hover, heven, hshare]
        split_ifs <;> simp_all
  simp only [List.mem_map, exists_exists_and_eq_and, hrow]
  constructor
  · rintro ⟨line, hline, hbroken, hunresolved⟩
    exact ⟨⟨line, hline, hbroken⟩, hunresolved⟩
  · rintro ⟨⟨line, hline, hbroken⟩, hunresolved⟩
    exact ⟨line, hline, hbroken, hunresolved⟩

/-- For an order over its maximum, the plan is sound just when the trims
fit. -/
theorem trim_plan_is_sound_iff (order_id : String) {total_ordered max_qty : ℚ}
    (severe_exceedance_pct : ℚ) {order_lines : List OverMaxLine}
    (unit_cost_per_line : List (String × ℚ)) (hmax : 0 < max_qty) (hover : max_qty < total_ordered)
    (hqty : ∀ line ∈ order_lines, 0 ≤ line.qty)
    (htotal : (order_lines.map (·.qty)).sum = total_ordered) :
    PlanSound max_qty order_lines (trim_over_max order_id total_ordered max_qty
        severe_exceedance_pct order_lines unit_cost_per_line).trim_plan ↔
      TrimsFit (total_ordered - max_qty) order_lines := by
  have hexcess : 0 < total_ordered - max_qty := by linarith
  have hplan : (trim_over_max order_id total_ordered max_qty severe_exceedance_pct order_lines
      unit_cost_per_line).trim_plan =
      order_lines.map (row_of (total_ordered - max_qty) order_lines) := by
    unfold trim_over_max
    rw [if_neg (by rw [not_or, not_le, not_le]; constructor <;> linarith)]
    dsimp only
    rw [max_eq_right hexcess.le, if_neg hexcess.ne', plan_trim_eq hexcess.le hqty]
  have hrows : (List.Forall₂ (fun (line : OverMaxLine) row => row.sku = line.sku ∧
      row.ordered = line.qty ∧ 0 ≤ row.trimmed_to ∧ row.trimmed_to ≤ line.qty) order_lines
      (order_lines.map (row_of (total_ordered - max_qty) order_lines))) ↔
      ∀ line ∈ order_lines, (line.over → 0 ≤ line_max line) ∧
        share_of_line (total_ordered - max_qty) order_lines line ≤ line.qty + 1 / 2000 := by
    rw [List.forall₂_map_right_iff, List.forall₂_same]
    refine forall₂_congr fun line hline => ?_
    obtain ⟨hsku, hordered⟩ := row_of_ordered (total_ordered - max_qty) order_lines line
    rw [← row_within_iff _ _ (hqty line hline)]
    simp only [hsku, hordered, true_and]
  rw [hplan]
  constructor
  · intro h
    have hwithin := hrows.mp h.rows
    refine ⟨fun line hline => (hwithin line hline).1, fun line hline => (hwithin line hline).2,
      fun hless => ?_⟩
    rcases h.total with hsum | hskip
    · rw [plan_total, htotal] at hsum
      linarith
    · exact (plan_skips_iff hexcess).mp hskip
  · intro h
    refine ⟨hrows.mpr fun line hline => ⟨h.ceilings line hline, h.shares line hline⟩, ?_⟩
    rw [plan_total, htotal]
    by_cases hless : (order_lines.map
        (given_up (total_ordered - max_qty) order_lines)).sum < total_ordered - max_qty
    · exact Or.inr ((plan_skips_iff hexcess).mpr (h.surfaced hless))
    · exact Or.inl (by linarith [not_lt.mp hless])

/-- An even layer that takes the whole excess. -/
def evenOrder : List OverMaxLine := [{ sku := "SKU-1", qty := 10 }, { sku := "SKU-2", qty := 30 }]

theorem trim_plan_is_sound_even_layers :
    PlanSound 30 evenOrder (trim_over_max "ORD-1" 40 30 (1 / 2) evenOrder []).trim_plan := by
  refine (trim_plan_is_sound_iff "ORD-1" (1 / 2) [] (by norm_num) (by norm_num) (by decide +kernel)
    (by decide +kernel)).mpr ⟨by decide +kernel, by decide +kernel, fun hless => ?_⟩
  exact absurd hless (by decide +kernel)

/-- One line over its ceiling, and a broken layer within its own. -/
def brokenOrder : List OverMaxLine :=
  [{ sku := "SKU-1", qty := 10, max_line_qty := some 5 },
    { sku := "SKU-2", qty := 10, is_even_layer_item := false }]

/-- A short even layer beside a long broken one. -/
def shortEvenOrder : List OverMaxLine :=
  [{ sku := "SKU-1", qty := 1 }, { sku := "SKU-2", qty := 100, is_even_layer_item := false }]

/-- The cut of a ceiling is taken off twice, and the broken layer is not
skipped although the lines stay over the maximum; and a short even layer is
trimmed below zero. -/
theorem trim_plans_can_be_unsound :
    (¬ PlanSound 12 brokenOrder (trim_over_max "ORD-1" 20 12 (1 / 2) brokenOrder []).trim_plan) ∧
      ¬ PlanSound 50 shortEvenOrder
        (trim_over_max "ORD-2" 101 50 (1 / 2) shortEvenOrder []).trim_plan := by
  refine ⟨fun h => ?_, fun h => ?_⟩
  · have htotal : ¬ (((trim_over_max "ORD-1" 20 12 (1 / 2) brokenOrder []).trim_plan.map
        (·.trimmed_to)).sum ≤ 12 ∨ ∃ row ∈ (trim_over_max "ORD-1" 20 12 (1 / 2) brokenOrder
        []).trim_plan, row.action = .SKIP) := by decide +kernel
    exact htotal h.total
  · have hbelow : (trim_over_max "ORD-2" 101 50 (1 / 2) shortEvenOrder []).trim_plan.map
        (·.trimmed_to) = [-50, 100] := by decide +kernel
    obtain ⟨row, rows, hrow, -, hplan⟩ := List.forall₂_cons_left_iff.mp h.rows
    rw [hplan, List.map_cons, List.cons.injEq] at hbelow
    linarith [hrow.2.2.1, hbelow.1]

end asoe.exact
