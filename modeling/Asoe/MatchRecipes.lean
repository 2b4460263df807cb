-- The recipes that compare an order with what is on record: the duplicate
-- order, the mismatch of an EDI line, and the intake of an order by mail.
import Asoe.Recipes

namespace asoe

open py

/-- The actions that these recipes recommend. -/
inductive ResolutionAction where
  | BLOCK_AND_NOTIFY | MERGE | SUPERSEDE | ALLOW_BOTH | ESCALATE | REQUEST_BUYER_CONFIRMATION
  | ONE_CLICK_APPROVE | STANDARD_REVIEW | LOW_CONFIDENCE_FLAG | AUTO_CORRECT
  | REQUEST_CLARIFICATION | REJECT
  deriving DecidableEq

def ResolutionAction.value : ResolutionAction → String
  | BLOCK_AND_NOTIFY => "BLOCK_AND_NOTIFY"
  | MERGE => "MERGE"
  | SUPERSEDE => "SUPERSEDE"
  | ALLOW_BOTH => "ALLOW_BOTH"
  | ESCALATE => "ESCALATE"
  | REQUEST_BUYER_CONFIRMATION => "REQUEST_BUYER_CONFIRMATION"
  | ONE_CLICK_APPROVE => "ONE_CLICK_APPROVE"
  | STANDARD_REVIEW => "STANDARD_REVIEW"
  | LOW_CONFIDENCE_FLAG => "LOW_CONFIDENCE_FLAG"
  | AUTO_CORRECT => "AUTO_CORRECT"
  | REQUEST_CLARIFICATION => "REQUEST_CLARIFICATION"
  | REJECT => "REJECT"

/-! ## Duplicate order -/

def WEIGHTS : PyDict :=
  [("po_number", .float (PyFloat.ofRat (30 / 100))),
    ("customer_id", .float (PyFloat.ofRat (15 / 100))),
    ("line_items", .float (PyFloat.ofRat (20 / 100))),
    ("amount", .float (PyFloat.ofRat (10 / 100))),
    ("timestamp", .float (PyFloat.ofRat (10 / 100))),
    ("ship_to", .float (PyFloat.ofRat (5 / 100))),
    ("channel", .float (PyFloat.ofRat (5 / 100))),
    ("delivery_date", .float (PyFloat.ofRat (5 / 100)))]

def WEIGHT_SUM_TOLERANCE : PyFloat := PyFloat.ofRat (1 / 10000)

/-- `sorted(...)` of strings. -/
def sorted_names (names : List String) : List String := names.insertionSort fun a b => ¬ b < a

def weight_violation {α : Type} (text : String) : Except PyErr α :=
  .error ⟨"WeightContractViolation", text⟩

/-- One weight: a number between zero and one. -/
def assert_weight (key : String) (value : PyVal) : Except PyErr PyFloat := do
  match value.number? with
  | none => weight_violation ("Weight " ++ py.reprStr key ++ " is not numeric: " ++ value.repr)
  | some n =>
    if ltNumber n (.inr (.fin 0)) || ltNumber (.inr (.fin 1)) n then
      weight_violation ("Weight " ++ py.reprStr key ++ "=" ++ value.repr ++ " outside [0.0, 1.0]")
    else floatOfNumber n

/-- `assert_weight_contract`; the weights as floats are handed on. -/
def assert_weight_contract (weights : PyDict) : Except PyErr (List (String × PyFloat)) := do
  let expected_keys := WEIGHTS.map (·.1)
  let got_keys := weights.map (·.1)
  let missing := expected_keys.filter (· ∉ got_keys)
  let extra := got_keys.filter (· ∉ expected_keys)
  if !missing.isEmpty || !extra.isEmpty then
    weight_violation ("Weight key set mismatch — missing: "
      ++ (PyVal.list ((sorted_names missing).map .str)).repr ++ ", extra: "
      ++ (PyVal.list ((sorted_names extra).map .str)).repr)
  let checked ← weights.mapM fun p => do return (p.1, ← assert_weight p.1 p.2)
  let total := PyFloat.sum (checked.map (·.2))
  if WEIGHT_SUM_TOLERANCE.lt (total.sub (.fin 1)).abs then
    weight_violation ("Weight sum " ++ reprFloat total ++ " not within "
      ++ reprFloat WEIGHT_SUM_TOLERANCE ++ " of 1.0")
  return checked

inductive DuplicateClass where
  | AUTO_BLOCK | REVIEW_REQUIRED | SOFT_FLAG | PASS
  deriving DecidableEq

def DuplicateClass.value : DuplicateClass → String
  | AUTO_BLOCK => "AUTO_BLOCK"
  | REVIEW_REQUIRED => "REVIEW_REQUIRED"
  | SOFT_FLAG => "SOFT_FLAG"
  | PASS => "PASS"

def DuplicateClass.status : DuplicateClass → String
  | AUTO_BLOCK => "BLOCKED"
  | REVIEW_REQUIRED => "REVIEW_REQUIRED"
  | SOFT_FLAG => "SOFT_FLAG"
  | PASS => "PASS"

def DEFAULT_ACTIONS : DuplicateClass → ResolutionAction
  | .AUTO_BLOCK => .BLOCK_AND_NOTIFY
  | .REVIEW_REQUIRED => .ESCALATE
  | .SOFT_FLAG => .REQUEST_BUYER_CONFIRMATION
  | .PASS => .ALLOW_BOTH

/-- The decision tree over the resolution context. -/
def resolve_action (classification : DuplicateClass)
    (original_fulfilled has_revision_indicator line_items_identical : PyVal) : ResolutionAction :=
  let has_context := original_fulfilled ≠ .none ∨ has_revision_indicator ≠ .none
    ∨ line_items_identical ≠ .none
  if ¬ has_context then DEFAULT_ACTIONS classification
  else match classification with
    | .AUTO_BLOCK =>
      if line_items_identical.truthy && !original_fulfilled.truthy then .BLOCK_AND_NOTIFY
      else if line_items_identical.truthy && original_fulfilled.truthy then .ALLOW_BOTH
      else if has_revision_indicator.truthy then .SUPERSEDE
      else .MERGE
    | .REVIEW_REQUIRED =>
      if has_revision_indicator.truthy then .SUPERSEDE
      else if line_items_identical.truthy then .ESCALATE
      else .REQUEST_BUYER_CONFIRMATION
    | classification => DEFAULT_ACTIONS classification

def duplicate_notification : ResolutionAction → PyVal
  | .BLOCK_AND_NOTIFY => .str "duplicate_po_blocked"
  | .MERGE | .SUPERSEDE => .str "duplicate_po_amended"
  | .REQUEST_BUYER_CONFIRMATION => .str "duplicate_po_inquiry"
  | _ => .none

/-- The class of a score: each threshold is the closed lower bound. -/
def classify_score (composite_score : PyFloat)
    (threshold_auto_block threshold_review_required threshold_soft_flag : PyVal) :
    Except PyErr DuplicateClass := do
  let score := PyVal.float composite_score
  if ← score.compare .ge threshold_auto_block then return .AUTO_BLOCK
  if ← score.compare .ge threshold_review_required then return .REVIEW_REQUIRED
  if ← score.compare .ge threshold_soft_flag then return .SOFT_FLAG
  return .PASS

/-- The weighted contribution of each signal. -/
def signal_breakdown (weights : List (String × PyFloat)) (signal_scores : PyVal) :
    Except PyErr (List (String × PyFloat)) :=
  weights.mapM fun w => do
    let scores ← method_of "get" signal_scores
    let score ← ((dict.get scores w.1).getD (.float (.fin 0))).toFloat
    return (w.1, (w.2.mul score).roundTo 6)

/-- `weights if weights is not None else _WEIGHTS`. -/
def weights_or_default (weights : PyVal) : Except PyErr PyDict :=
  if weights = .none then .ok WEIGHTS else method_of "keys" weights

/-- `autonomy_levels.get(action)`, `None` without a mapping. -/
def autonomy_of (autonomy_levels : PyVal) (action : String) : Except PyErr PyVal :=
  if autonomy_levels.truthy then get_attr autonomy_levels action else .ok .none

def detect_duplicate_po (incoming_po_number customer_id signal_scores threshold_auto_block
    threshold_review_required threshold_soft_flag original_fulfilled has_revision_indicator
    line_items_identical autonomy_levels weights : PyVal) : Except PyErr PyDict := do
  let effective_weights ← assert_weight_contract (← weights_or_default weights)
  let breakdown ← signal_breakdown effective_weights signal_scores
  let composite_score := (PyFloat.sum (breakdown.map (·.2))).roundTo 6
  let classification ← classify_score composite_score threshold_auto_block
    threshold_review_required threshold_soft_flag
  let recommended_action := resolve_action classification original_fulfilled
    has_revision_indicator line_items_identical
  let autonomy_level ← autonomy_of autonomy_levels recommended_action.value
  return [("status", .str classification.status), ("composite_score", .float composite_score),
    ("classification", .str classification.value),
    ("recommended_action", .str recommended_action.value), ("autonomy_level", autonomy_level),
    ("notification_template", duplicate_notification recommended_action),
    ("signal_breakdown", .dict (breakdown.map fun p => (p.1, .float p.2))),
    ("incoming_po_number", incoming_po_number), ("customer_id", customer_id)]

/-! ## EDI mismatch -/

inductive EdiMismatchClass where
  | HARD_REJECT | REVIEW | ESCALATE
  deriving DecidableEq

def EdiMismatchClass.value : EdiMismatchClass → String
  | HARD_REJECT => "HARD_REJECT"
  | REVIEW => "REVIEW"
  | ESCALATE => "ESCALATE"

def CLASSIFICATION_BY_SUB_TYPE : List (String × EdiMismatchClass) :=
  [("SKU_MISMATCH", .HARD_REJECT), ("QTY_MISMATCH", .REVIEW), ("UOM_MISMATCH", .REVIEW),
    ("SHIP_TO_MISMATCH", .ESCALATE)]

def STATUS_BY_CLASSIFICATION : EdiMismatchClass → String
  | .HARD_REJECT => "REJECTED"
  | .REVIEW => "REVIEW_REQUIRED"
  | .ESCALATE => "REVIEW_REQUIRED"

def ACTION_BY_CLASSIFICATION : EdiMismatchClass → ResolutionAction
  | .HARD_REJECT => .BLOCK_AND_NOTIFY
  | .REVIEW => .REQUEST_BUYER_CONFIRMATION
  | .ESCALATE => .ESCALATE

def edi_notification : ResolutionAction → PyVal
  | .BLOCK_AND_NOTIFY => .str "edi_line_mismatch_blocked"
  | .REQUEST_BUYER_CONFIRMATION => .str "edi_line_mismatch_inquiry"
  | _ => .none

/-- Why a sub type is not one of the vocabulary. -/
def sub_type_error (sub_type : PyVal) : String × String :=
  if sub_type.eq (.str "PRICE_MISMATCH") then
    ("SUB_TYPE_ROUTING_ERROR",
      "PRICE_MISMATCH must be routed to CONTRACTUAL_CORRECTION / "
        ++ "PriceAdjustmentRecipe.py at classifier time — reaching "
        ++ "EdiMismatchRecipe with this sub_type indicates a routing "
        ++ "invariant break (constraints/fallback_backend.py:"
        ++ "classify_intent or skills/loader.py:select_for_event).")
  else
    ("UNKNOWN_SUB_TYPE",
      "sub_type " ++ sub_type.repr ++ " is not a recognised EDI mismatch sub_type; expected one of "
        ++ (PyVal.list ((sorted_names (CLASSIFICATION_BY_SUB_TYPE.map (·.1))).map .str)).repr)

def detect_edi_mismatch (order_id sub_type expected_value received_value autonomy_levels : PyVal) :
    Except PyErr PyDict := do
  match ← sub_type.lookupIn CLASSIFICATION_BY_SUB_TYPE with
  | none =>
    let (error_code, reason) := sub_type_error sub_type
    return [("status", .str "FAILED"), ("sub_type", sub_type), ("classification", .none),
      ("recommended_action", .none), ("autonomy_level", .none), ("notification_template", .none),
      ("expected_value", expected_value), ("received_value", received_value),
      ("order_id", order_id), ("error_code", .str error_code), ("reason", .str reason)]
  | some classification =>
    let recommended_action := ACTION_BY_CLASSIFICATION classification
    let autonomy_level ← get_attr autonomy_levels sub_type.toStr
    return [("status", .str (STATUS_BY_CLASSIFICATION classification)), ("sub_type", sub_type),
      ("classification", .str classification.value),
      ("recommended_action", .str recommended_action.value), ("autonomy_level", autonomy_level),
      ("notification_template", edi_notification recommended_action),
      ("expected_value", expected_value), ("received_value", received_value),
      ("order_id", order_id)]

/-! ## Order intake -/

def FLOOR_KEYS : List String :=
  ["sender_authorized", "customer_resolved", "duplicate_po_clear", "credit_clear"]

def ALLOWED_REJECT_REASONS : List String :=
  ["sender_unauthorized", "customer_unresolved", "duplicate_po_confirmed", "credit_block",
    "corrupt_input", "policy_floor_breach"]

inductive IntakeClass where
  | ONE_CLICK_APPROVE | STANDARD_REVIEW | LOW_CONFIDENCE | FATAL_REJECT
  deriving DecidableEq

def IntakeClass.value : IntakeClass → String
  | ONE_CLICK_APPROVE => "ONE_CLICK_APPROVE"
  | STANDARD_REVIEW => "STANDARD_REVIEW"
  | LOW_CONFIDENCE => "LOW_CONFIDENCE"
  | FATAL_REJECT => "FATAL_REJECT"

def DEFAULT_STATUS_BY_CLASSIFICATION : IntakeClass → String
  | .ONE_CLICK_APPROVE => "SUCCESS"
  | .STANDARD_REVIEW => "REVIEW_REQUIRED"
  | .LOW_CONFIDENCE => "REVIEW_REQUIRED"
  | .FATAL_REJECT => "REJECTED"

def intake_notification : ResolutionAction → PyVal
  | .AUTO_CORRECT => .str "email_order_auto_corrected"
  | .REQUEST_CLARIFICATION => .str "email_order_clarification_request"
  | .REJECT => .str "email_order_rejected"
  | _ => .none

def AUTO_CORRECTABLE_FAILURES : List String :=
  ["uom_normalisation_required", "ship_to_address_format", "po_number_padding"]

def CUSTOMER_CLARIFICATION_FAILURES : List String :=
  ["missing_delivery_date", "ambiguous_ship_to", "missing_po_number"]

def has_clarification_failure (failures : List PyVal) : Except PyErr Bool :=
  failures.anyM fun f => f.memberOf CUSTOMER_CLARIFICATION_FAILURES

def floor_breach_reason (floor_key : String) : String :=
  (dict.get [("sender_authorized", "sender_unauthorized"),
    ("customer_resolved", "customer_unresolved"), ("duplicate_po_clear", "duplicate_po_confirmed"),
    ("credit_clear", "credit_block")] floor_key).getD "policy_floor_breach"

/-- `max(0.0, min(1.0, x))`. -/
def clamp_confidence (x : PyFloat) : PyFloat :=
  (PyFloat.fin 0).max (if x.lt (.fin 1) then x else .fin 1)

/-- The thresholds of the intake, as the orchestration hands them in. -/
structure IntakeThresholds where
  auto_approve : PyVal
  review_band_low : PyVal
  auto_correct : PyVal

/-- The class and the action for an order without a fatal finding. -/
def intake_decision (confidence : PyVal) (failures : List PyVal) (t : IntakeThresholds) :
    Except PyErr (IntakeClass × ResolutionAction) := do
  if ← has_clarification_failure failures then return (.STANDARD_REVIEW, .REQUEST_CLARIFICATION)
  if ← confidence.compare .ge t.auto_correct then
    if !failures.isEmpty then
      if ← failures.allM fun f => f.memberOf AUTO_CORRECTABLE_FAILURES then
        return (.STANDARD_REVIEW, .AUTO_CORRECT)
  if ← confidence.compare .ge t.auto_approve then
    if failures.isEmpty then return (.ONE_CLICK_APPROVE, .ONE_CLICK_APPROVE)
  if ← confidence.compare .ge t.review_band_low then return (.STANDARD_REVIEW, .STANDARD_REVIEW)
  return (.LOW_CONFIDENCE, .LOW_CONFIDENCE_FLAG)

/-- The class, the action and the reason of a rejection. -/
def intake_classification (confidence : PyVal) (floor_breaches : List String)
    (failures : List PyVal) (t : IntakeThresholds) (reject_reason_code : PyVal) :
    Except PyErr (IntakeClass × ResolutionAction × PyVal) :=
  if reject_reason_code ≠ .none then
    let known := ALLOWED_REJECT_REASONS.any fun r => reject_reason_code.eq (.str r)
    .ok (.FATAL_REJECT, .REJECT, if known then reject_reason_code else .str "corrupt_input")
  else match floor_breaches with
    | key :: _ => .ok (.FATAL_REJECT, .REJECT, .str (floor_breach_reason key))
    | [] => do
      let (classification, action) ← intake_decision confidence failures t
      return (classification, action, .none)

/-- A failure that neither the agent nor the buyer can settle escalates a
standard review. -/
def escalate_review (action : ResolutionAction) (failures : List PyVal) :
    Except PyErr ResolutionAction := do
  if action = .STANDARD_REVIEW && !failures.isEmpty then
    let settled ← failures.allM fun f => do
      if ← f.memberOf AUTO_CORRECTABLE_FAILURES then return true
      f.memberOf CUSTOMER_CLARIFICATION_FAILURES
    if !settled then return .ESCALATE
  return action

def classify_manual_order_intake (order_id customer_id composite_confidence validation_failures
    non_disableable_floor autonomy_levels threshold_auto_approve threshold_review_band_low
    threshold_auto_correct reject_reason_code : PyVal) : Except PyErr PyDict := do
  let raw_confidence ← composite_confidence.toFloat
  let confidence := clamp_confidence raw_confidence
  let floor ← method_of "get" non_disableable_floor
  let floor_breaches := FLOOR_KEYS.filter fun key =>
    !((dict.get floor key).getD (.bool false)).truthy
  let failures ← iterate (validation_failures.or (.list []))
  let (classification, action, resolved_reject_reason) ←
    intake_classification (.float confidence) floor_breaches failures
      ⟨threshold_auto_approve, threshold_review_band_low, threshold_auto_correct⟩
      reject_reason_code
  let recommended_action ← escalate_review action failures
  let autonomy_level ← get_attr autonomy_levels recommended_action.value
  return [("status", .str (DEFAULT_STATUS_BY_CLASSIFICATION classification)),
    ("classification", .str classification.value),
    ("recommended_action", .str recommended_action.value), ("autonomy_level", autonomy_level),
    ("notification_template", intake_notification recommended_action),
    ("composite_confidence", .float raw_confidence), ("validation_failures", .list failures),
    ("floor_breaches", .list (floor_breaches.map .str)),
    ("reject_reason_code", resolved_reject_reason), ("order_id", order_id),
    ("customer_id", customer_id)]

end asoe
