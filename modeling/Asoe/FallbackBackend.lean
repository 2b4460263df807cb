-- The deterministic backend: the intent, the recipe and the Shadow verdict
-- of a graph state, computed by code alone.
import Asoe.Contracts

namespace asoe

open py

structure IntentDecision where
  intent : Intent
  confidence : PyFloat
  deriving DecidableEq

structure ShadowDecision where
  status : ShadowStatus
  reasons : List String
  policy_hits : List String
  deriving DecidableEq

/-! ## Reading the metadata -/

def metadata_get (event : OrderEvent) (key : String) : PyVal :=
  .ofOption (dict.get event.metadata key)

/-- `float(meta.get(key) or 0.0)`. -/
def metadata_float (event : OrderEvent) (key : String) : Except PyErr PyFloat :=
  ((metadata_get event key).or (.float (.fin 0))).toFloat

/-! ## The intent -/

def classify_intent (event : OrderEvent) : IntentDecision :=
  if event.line_count > MASS_UPDATE_LINE_COUNT_THRESHOLD then ⟨.MASS_PRICING_ERROR, lit (95 / 100)⟩
  else if event.event_type ∈ ["EDI_850_DUPLICATE_PO", "DUPLICATE"] then
    ⟨.DUPLICATE_PO, lit (90 / 100)⟩
  else if event.event_type = "EDI_850_PRICE_HOLD" then ⟨.PRICE_HOLD_RELEASE, lit (95 / 100)⟩
  else if event.event_type = "EDI_850_LINE_MISMATCH" then
    if metadata_get event "mismatch_sub_type" = .str "PRICE_MISMATCH" then
      ⟨.CONTRACTUAL_CORRECTION, lit (90 / 100)⟩
    else ⟨.EDI_MISMATCH, lit (90 / 100)⟩
  else if event.event_type = "BACK_ORDER_OOS" then ⟨.BACK_ORDER, lit (95 / 100)⟩
  else if event.event_type = "OVER_MAX_QTY" then ⟨.OVER_MAX, lit (95 / 100)⟩
  else if event.event_type = "MIN_ORDER_QTY" then ⟨.MIN_ORDER_QTY, lit (95 / 100)⟩
  else if event.event_type = "PALLET_CONFIG_VIOLATION" then ⟨.PALLET_CONFIG, lit (95 / 100)⟩
  else if event.event_type = "DELIVERY_DELAY" then ⟨.DELIVERY_DELAY, lit (95 / 100)⟩
  else if event.event_type ∈ ["EMAIL_ORDER_ENTRY_REQUEST", "EMAIL_ORDER", "MANUAL_ORDER_INTAKE"] then
    ⟨.MANUAL_ORDER_INTAKE, lit (95 / 100)⟩
  else if (event.requester_role.getD "" ≠ "" ∧ event.credit_limit.isSome)
      ∧ event.current_exposure.isSome then ⟨.CREDIT_BLOCK, lit (80 / 100)⟩
  else ⟨.CONTRACTUAL_CORRECTION, lit (90 / 100)⟩

/-! ## The recipe -/

def propose_recipe (intent : Intent) : Option RecipeName :=
  match intent with
  | .CONTRACTUAL_CORRECTION => some .PriceAdjustmentRecipe
  | .CREDIT_BLOCK => some .CreditHoldReleaseRecipe
  | .DUPLICATE_PO => some .DuplicatePORecipe
  | .PRICE_HOLD_RELEASE => some .PriceHoldReleaseRecipe
  | .EDI_MISMATCH => some .EdiMismatchRecipe
  | .BACK_ORDER => some .BackOrderResolutionRecipe
  | .OVER_MAX => some .OverMaxTrimRecipe
  | .MIN_ORDER_QTY => some .MOQRoundUpRecipe
  | .PALLET_CONFIG => some .PalletAlignmentRecipe
  | .DELIVERY_DELAY => some .DeliveryDelayResolutionRecipe
  | .MANUAL_ORDER_INTAKE => some .ManualOrderIntakeRecipe
  | .MASS_PRICING_ERROR | .UNKNOWN => none

/-! ## The Shadow verdict -/

/-- A quotient whose divisor the caller has found to be above zero. -/
def quotient (x y : PyFloat) : PyFloat := (x.div? y).getD .nan

def shadow_for_price_hold_release (event : OrderEvent) : ShadowDecision :=
  let base := event.sap_base_price
  if base.le (.fin 0) then
    ⟨.RED, ["Invalid SAP base price; cannot compute variance."], ["PRICE_HOLD_INVALID_BASE"]⟩
  else
    let abs_variance := (quotient (event.po_price.sub base) base).abs
    if PRICE_HOLD_HARD_BLOCK_PCT.lt abs_variance then
      ⟨.RED, ["Variance " ++ fixed 4 abs_variance ++ " exceeds hard-block threshold "
        ++ fixed 4 PRICE_HOLD_HARD_BLOCK_PCT ++ "."], ["PRICE_HOLD_HARD_BLOCK"]⟩
    else if PRICE_HOLD_TOLERANCE_PCT.lt abs_variance then
      ⟨.YELLOW, ["Variance " ++ fixed 4 abs_variance ++ " exceeds tolerance "
        ++ fixed 4 PRICE_HOLD_TOLERANCE_PCT ++ "; manual review required."],
        ["PRICE_HOLD_TOLERANCE_ESCALATE"]⟩
    else ⟨.GREEN, ["Variance within tolerance; auto-release permitted."],
      ["PRICE_HOLD_TOLERANCE_OK"]⟩

def shadow_for_edi_mismatch (event : OrderEvent) : ShadowDecision :=
  let sub_type := metadata_get event "mismatch_sub_type"
  if sub_type = .str "SKU_MISMATCH" then
    ⟨.RED, ["SKU mismatch — order cannot fulfil as received."], ["EDI_SKU_MISMATCH_HARD_REJECT"]⟩
  else if sub_type = .str "SHIP_TO_MISMATCH" then
    ⟨.YELLOW, ["Ship-to mismatch — escalation required."], ["EDI_SHIP_TO_ESCALATE"]⟩
  else if sub_type = .str "QTY_MISMATCH" then
    ⟨.YELLOW, ["Quantity mismatch — buyer confirmation required."], ["EDI_QTY_MISMATCH_REVIEW"]⟩
  else if sub_type = .str "UOM_MISMATCH" then
    ⟨.YELLOW, ["Unit-of-measure mismatch — buyer confirmation required."],
      ["EDI_UOM_MISMATCH_REVIEW"]⟩
  else
    ⟨.RED, ["Unrecognised EDI mismatch sub_type " ++ sub_type.repr ++ "."],
      ["EDI_UNKNOWN_SUB_TYPE"]⟩

def shadow_for_back_order (event : OrderEvent) : Except PyErr ShadowDecision := do
  let ordered ← metadata_float event "ordered_qty"
  let available ← metadata_float event "available_qty"
  if ordered.le (.fin 0) then
    return ⟨.YELLOW, ["Back-order event missing ordered_qty; review required."],
      ["BACK_ORDER_MISSING_INPUT"]⟩
  let gap_pct := (PyFloat.fin 0).max (quotient (ordered.sub available) ordered)
  if BACK_ORDER_SEVERE_GAP_PCT.le gap_pct then
    return ⟨.RED, ["Gap " ++ percent 2 gap_pct ++ " at/above severe threshold "
      ++ percent 2 BACK_ORDER_SEVERE_GAP_PCT ++ "."], ["BACK_ORDER_SEVERE_GAP"]⟩
  return ⟨.YELLOW, ["Gap " ++ percent 2 gap_pct
    ++ " below severe threshold — resolution options presented for review."],
    ["BACK_ORDER_MINOR_GAP_REVIEW"]⟩

def shadow_for_over_max (event : OrderEvent) : Except PyErr ShadowDecision := do
  let total_ordered ← metadata_float event "total_ordered"
  let max_qty ← metadata_float event "max_qty"
  if max_qty.le (.fin 0) then
    return ⟨.YELLOW, ["Over-max event missing max_qty; review required."],
      ["OVER_MAX_MISSING_INPUT"]⟩
  let exceedance := (PyFloat.fin 0).max (quotient (total_ordered.sub max_qty) max_qty)
  if OVER_MAX_SEVERE_EXCEEDANCE_PCT.lt exceedance then
    return ⟨.RED, ["Exceedance " ++ percent 2 exceedance ++ " above severe threshold "
      ++ percent 2 OVER_MAX_SEVERE_EXCEEDANCE_PCT ++ "."], ["OVER_MAX_SEVERE_EXCEEDANCE"]⟩
  return ⟨.YELLOW, ["Exceedance " ++ percent 2 exceedance
    ++ " within auto-trim band; operator review required before applying trim plan."],
    ["OVER_MAX_MINOR_REVIEW"]⟩

def shadow_for_moq (event : OrderEvent) : Except PyErr ShadowDecision := do
  let ordered ← metadata_float event "ordered_qty"
  let moq ← metadata_float event "moq_qty"
  if moq.le (.fin 0) then
    return ⟨.YELLOW, ["MOQ event missing moq_qty; review required."], ["MOQ_MISSING_INPUT"]⟩
  if moq.le ordered then
    return ⟨.GREEN, ["Ordered qty at/above MOQ — no shortfall."], ["MOQ_NO_SHORTFALL"]⟩
  let shortfall_pct := quotient (moq.sub ordered) moq
  if MOQ_SEVERE_SHORTFALL_PCT.le shortfall_pct then
    return ⟨.RED, ["Shortfall " ++ percent 2 shortfall_pct ++ " at/above severe threshold "
      ++ percent 2 MOQ_SEVERE_SHORTFALL_PCT ++ "; KNMT waiver required."],
      ["MOQ_SEVERE_SHORTFALL"]⟩
  return ⟨.YELLOW, ["Shortfall " ++ percent 2 shortfall_pct
    ++ " within round-up band; operator confirmation required."], ["MOQ_ROUND_UP_REVIEW"]⟩

def shadow_for_pallet_config (event : OrderEvent) : ShadowDecision :=
  if !(metadata_get event "pallet_lines").truthy then
    ⟨.YELLOW, ["Pallet-config event missing pallet_lines; review required."],
      ["PALLET_CONFIG_MISSING_INPUT"]⟩
  else
    ⟨.YELLOW, ["Pallet alignment review required; min-fill threshold "
      ++ percent 0 PALLET_CONFIG_MIN_FILL_PCT ++ "."], ["PALLET_CONFIG_REVIEW"]⟩

def shadow_for_delivery_delay (event : OrderEvent) : Except PyErr ShadowDecision := do
  let days_late := metadata_get event "days_late"
  if days_late = .none then
    return ⟨.YELLOW, ["Delivery-delay event pending severity computation."],
      ["DELIVERY_DELAY_PENDING_COMPUTE"]⟩
  let days_late ← days_late.toInt
  if days_late ≥ DELIVERY_DELAY_SEVERE_DAYS then
    return ⟨.RED, [toString days_late ++ " days late at/above severe threshold "
      ++ toString DELIVERY_DELAY_SEVERE_DAYS ++ "."], ["DELIVERY_DELAY_SEVERE"]⟩
  if days_late ≥ DELIVERY_DELAY_MINOR_DAYS then
    return ⟨.YELLOW, [toString days_late
      ++ " days late — alternate delivery options presented for review."],
      ["DELIVERY_DELAY_MINOR_REVIEW"]⟩
  return ⟨.GREEN, ["Delivery within planned window; no action required."],
    ["DELIVERY_DELAY_ON_TIME"]⟩

/-- The verdict on a state. It reads the intent, the batch variance and the
event, and nothing else of the state. -/
def shadow_decision (intent : Intent) (batch_total_variance : PyFloat) (event : OrderEvent) :
    Except PyErr ShadowDecision :=
  if intent = .MASS_PRICING_ERROR then
    .ok ⟨.RED, ["Systemic pricing failure requires human escalation."],
      ["HITL_REQUIRED_FOR_SYSTEMIC_FAILURE"]⟩
  else if CIRCUIT_BREAKER_MAX_VARIANCE.lt batch_total_variance then
    .ok ⟨.RED, ["Circuit breaker threshold exceeded for total batch variance."],
      ["CIRCUIT_BREAKER_VARIANCE"]⟩
  else if event.line_count > MASS_UPDATE_LINE_COUNT_THRESHOLD then
    .ok ⟨.RED, [">" ++ toString MASS_UPDATE_LINE_COUNT_THRESHOLD
      ++ " line items suggests mass update risk."], ["MASS_UPDATE_DETECTED"]⟩
  else match intent with
    | .CREDIT_BLOCK =>
      .ok ⟨.YELLOW, ["Credit path requires manual review by policy."], ["CREDIT_RELEASE_REVIEW"]⟩
    | .PRICE_HOLD_RELEASE => .ok (shadow_for_price_hold_release event)
    | .EDI_MISMATCH => .ok (shadow_for_edi_mismatch event)
    | .BACK_ORDER => shadow_for_back_order event
    | .OVER_MAX => shadow_for_over_max event
    | .MIN_ORDER_QTY => shadow_for_moq event
    | .PALLET_CONFIG => .ok (shadow_for_pallet_config event)
    | .DELIVERY_DELAY => shadow_for_delivery_delay event
    | _ => .ok ⟨.GREEN, ["No blocking policy hit detected."], []⟩

end asoe
