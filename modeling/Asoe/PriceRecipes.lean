-- The recipes on prices and credit: the price correction, the release of a
-- price hold, and the release of a credit hold.
import Asoe.Recipes

namespace asoe

open py

/-! ## Price adjustment -/

def execute_price_correction (order_id line_item requested_price erp_context : PyVal) :
    Except PyErr PyDict := do
  let base_price ← erp_context.item "base_price"
  let threshold ← erp_context.item "max_discount_allowed"
  let condition_type ← erp_context.item "condition_type"
  let calculated_discount ← (← base_price.sub requested_price).div base_price
  if ← calculated_discount.compare .gt threshold then
    let discount ← calculated_discount.format (percent 2)
    let limit ← threshold.format (percent 0)
    return [("status", .str "FAILED"),
      ("reason", .str ("Discount " ++ discount ++ " exceeds " ++ limit ++ " threshold."))]
  let payload : PyDict :=
    [("OrderID", order_id), ("Item", line_item), ("ConditionType", condition_type),
      ("NewValue", requested_price), ("ReasonCode", .str "CUST_MATCH")]
  return [("status", .str "SUCCESS"), ("applied_condition", condition_type),
    ("new_net_price", requested_price), ("payload", .dict payload)]

/-! ## Credit hold -/

def release_credit_hold (order_id requester_role credit_limit current_exposure authorized_roles
    exposure_tolerance : PyVal) : Except PyErr PyDict := do
  if !(← requester_role.isIn authorized_roles) then
    return [("status", .str "BLOCKED"),
      ("reason", .str "Insufficient permissions for Credit Release.")]
  if ← (← current_exposure.sub credit_limit).compare .gt exposure_tolerance then
    let tolerance ← exposure_tolerance.format grouped
    return [("status", .str "REJECTED"),
      ("reason", .str ("Exposure exceeds limit by >$" ++ tolerance
        ++ ". Manual Finance review required."))]
  return [("status", .str "RELEASED"), ("order_id", order_id), ("workflow", .str "AUTO_APPROVED")]

/-! ## Price hold -/

inductive PriceHoldAction where
  | AUTO_RELEASE | ESCALATE | HARD_BLOCK
  deriving DecidableEq

def PriceHoldAction.value : PriceHoldAction → String
  | AUTO_RELEASE => "AUTO_RELEASE"
  | ESCALATE => "ESCALATE"
  | HARD_BLOCK => "HARD_BLOCK"

def PriceHoldAction.status : PriceHoldAction → String
  | AUTO_RELEASE => "RELEASED"
  | ESCALATE => "REVIEW_REQUIRED"
  | HARD_BLOCK => "REJECTED"

/-- The action for a variance, and its reason. -/
def price_hold_decision (variance_pct tolerance_pct hard_block_pct : PyVal) :
    Except PyErr (PriceHoldAction × String) := do
  let abs_variance ← variance_pct.abs
  if ← abs_variance.compare .le tolerance_pct then
    return (.AUTO_RELEASE, "Variance " ++ (← variance_pct.format (fixed 4))
      ++ " within tolerance " ++ (← tolerance_pct.format (fixed 4)) ++ "; auto-release.")
  if ← abs_variance.compare .le hard_block_pct then
    return (.ESCALATE, "Variance " ++ (← variance_pct.format (fixed 4))
      ++ " above tolerance " ++ (← tolerance_pct.format (fixed 4)) ++ " but within hard-block "
      ++ (← hard_block_pct.format (fixed 4)) ++ "; manual review required.")
  return (.HARD_BLOCK, "Variance " ++ (← variance_pct.format (fixed 4))
    ++ " exceeds hard-block " ++ (← hard_block_pct.format (fixed 4)) ++ "; order rejected.")

def execute_price_hold_release (order_id line_item po_price sap_base_price tolerance_pct
    hard_block_pct hold_status requester_role : PyVal) : Except PyErr PyDict := do
  if !(← tolerance_pct.compare .lt hard_block_pct) then
    throw ⟨"AssertionError", "tolerance_pct must be strictly less than hard_block_pct"⟩
  if !hold_status.eq (.str "HELD") then
    return [("status", .str "FAILED"), ("action", .none), ("variance_pct", .none),
      ("reason", .str ("hold_status must be HELD, got " ++ hold_status.repr)), ("payload", .none)]
  let variance_pct ← (← po_price.sub sap_base_price).div sap_base_price
  let (action, reason) ← price_hold_decision variance_pct tolerance_pct hard_block_pct
  let rounded ← variance_pct.round 6
  let payload : PyDict :=
    [("OrderID", order_id), ("Line", line_item), ("Action", .str action.value), ("VariancePct", rounded),
      ("RequesterRole", requester_role)]
  return [("status", .str action.status), ("action", .str action.value), ("variance_pct", rounded),
    ("reason", .str reason), ("payload", .dict payload), ("order_id", order_id)]

end asoe
