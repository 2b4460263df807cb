-- The data model of the service: the vocabularies, the order event, the
-- state that one graph run carries, and the policy constants.
import Asoe.Lib.PyText

namespace asoe

open py

/-! ## Vocabularies -/

inductive Intent where
  | CONTRACTUAL_CORRECTION | CREDIT_BLOCK | MASS_PRICING_ERROR | DUPLICATE_PO
  | PRICE_HOLD_RELEASE | EDI_MISMATCH | BACK_ORDER | OVER_MAX | MIN_ORDER_QTY
  | PALLET_CONFIG | DELIVERY_DELAY | MANUAL_ORDER_INTAKE | UNKNOWN
  deriving DecidableEq

def Intent.value : Intent → String
  | CONTRACTUAL_CORRECTION => "CONTRACTUAL_CORRECTION"
  | CREDIT_BLOCK => "CREDIT_BLOCK"
  | MASS_PRICING_ERROR => "MASS_PRICING_ERROR"
  | DUPLICATE_PO => "DUPLICATE_PO"
  | PRICE_HOLD_RELEASE => "PRICE_HOLD_RELEASE"
  | EDI_MISMATCH => "EDI_MISMATCH"
  | BACK_ORDER => "BACK_ORDER"
  | OVER_MAX => "OVER_MAX"
  | MIN_ORDER_QTY => "MIN_ORDER_QTY"
  | PALLET_CONFIG => "PALLET_CONFIG"
  | DELIVERY_DELAY => "DELIVERY_DELAY"
  | MANUAL_ORDER_INTAKE => "MANUAL_ORDER_INTAKE"
  | UNKNOWN => "UNKNOWN"

inductive ShadowStatus where
  | GREEN | YELLOW | RED
  deriving DecidableEq

def ShadowStatus.value : ShadowStatus → String
  | GREEN => "GREEN"
  | YELLOW => "YELLOW"
  | RED => "RED"

inductive TerminalStatus where
  | COMPLETE | FAIL_TO_HUMAN | MANUAL_REVIEW_REQUIRED | BLOCKED | REJECTED
  | COMPLETE_WITH_CHILDREN | AUDIT_CONTEXT_MISSING
  deriving DecidableEq

def TerminalStatus.value : TerminalStatus → String
  | COMPLETE => "COMPLETE"
  | FAIL_TO_HUMAN => "FAIL_TO_HUMAN"
  | MANUAL_REVIEW_REQUIRED => "MANUAL_REVIEW_REQUIRED"
  | BLOCKED => "BLOCKED"
  | REJECTED => "REJECTED"
  | COMPLETE_WITH_CHILDREN => "COMPLETE_WITH_CHILDREN"
  | AUDIT_CONTEXT_MISSING => "AUDIT_CONTEXT_MISSING"

/-- The twelve states of one exception record. -/
inductive LifecycleState where
  | INGESTED | CLASSIFYING | AUDITING | PENDING_REVIEW | ESCALATED | PENDING_ADMIN_REVIEW
  | PENDING_COSIGN | RESOLVED | FAILED | BLOCKED | REJECTED | CLOSED
  deriving DecidableEq

def LifecycleState.value : LifecycleState → String
  | INGESTED => "INGESTED"
  | CLASSIFYING => "CLASSIFYING"
  | AUDITING => "AUDITING"
  | PENDING_REVIEW => "PENDING_REVIEW"
  | ESCALATED => "ESCALATED"
  | PENDING_ADMIN_REVIEW => "PENDING_ADMIN_REVIEW"
  | PENDING_COSIGN => "PENDING_COSIGN"
  | RESOLVED => "RESOLVED"
  | FAILED => "FAILED"
  | BLOCKED => "BLOCKED"
  | REJECTED => "REJECTED"
  | CLOSED => "CLOSED"

/-- The lifecycle state that a terminal status is stored under. -/
def STATUS_TO_LIFECYCLE : TerminalStatus → LifecycleState
  | .COMPLETE => .RESOLVED
  | .FAIL_TO_HUMAN => .FAILED
  | .MANUAL_REVIEW_REQUIRED => .PENDING_REVIEW
  | .BLOCKED => .BLOCKED
  | .REJECTED => .REJECTED
  | .COMPLETE_WITH_CHILDREN => .RESOLVED
  | .AUDIT_CONTEXT_MISSING => .FAILED

/-- `STATUS_TO_LIFECYCLE.get(final_status or "", "INGESTED")`. -/
def resolve_lifecycle : Option TerminalStatus → LifecycleState
  | some st => STATUS_TO_LIFECYCLE st
  | none => .INGESTED

def HITL_OVERRIDE_STATES : List LifecycleState :=
  [.PENDING_REVIEW, .ESCALATED, .RESOLVED, .BLOCKED, .PENDING_ADMIN_REVIEW]

def COSIGN_ELIGIBLE_STATES : List LifecycleState := [.PENDING_COSIGN]

def HITL_DISPOSITION_STATES : List LifecycleState :=
  [.PENDING_REVIEW, .ESCALATED, .PENDING_ADMIN_REVIEW]

def CHALLENGE_SOURCE_STATES : List LifecycleState := [.RESOLVED]

def ADMIN_RELEASE_SOURCE_STATES : List LifecycleState := [.BLOCKED]

def ESCALATE_ELIGIBLE_STATES : List LifecycleState := [.PENDING_REVIEW, .FAILED, .BLOCKED]

theorem resolve_lifecycle_ne_pending_cosign (st : Option TerminalStatus) :
    resolve_lifecycle st ≠ .PENDING_COSIGN := by
  rcases st with _ | st
  · simp [resolve_lifecycle]
  · cases st <;> simp [resolve_lifecycle, STATUS_TO_LIFECYCLE]

/-- The names that a recipe proposal may carry. -/
inductive RecipeName where
  | PriceAdjustmentRecipe | CreditHoldReleaseRecipe | DuplicatePORecipe | PriceHoldReleaseRecipe
  | EdiMismatchRecipe | BackOrderResolutionRecipe | OverMaxTrimRecipe | MOQRoundUpRecipe
  | PalletAlignmentRecipe | DeliveryDelayResolutionRecipe | ManualOrderIntakeRecipe
  | SubmitToErpRecipe | ReplyDraftRecipe | EmailOrderEntryRecipe
  deriving DecidableEq

def RecipeName.value : RecipeName → String
  | PriceAdjustmentRecipe => "PriceAdjustmentRecipe.py"
  | CreditHoldReleaseRecipe => "CreditHoldReleaseRecipe.py"
  | DuplicatePORecipe => "DuplicatePORecipe.py"
  | PriceHoldReleaseRecipe => "PriceHoldReleaseRecipe.py"
  | EdiMismatchRecipe => "EdiMismatchRecipe.py"
  | BackOrderResolutionRecipe => "BackOrderResolutionRecipe.py"
  | OverMaxTrimRecipe => "OverMaxTrimRecipe.py"
  | MOQRoundUpRecipe => "MOQRoundUpRecipe.py"
  | PalletAlignmentRecipe => "PalletAlignmentRecipe.py"
  | DeliveryDelayResolutionRecipe => "DeliveryDelayResolutionRecipe.py"
  | ManualOrderIntakeRecipe => "ManualOrderIntakeRecipe.py"
  | SubmitToErpRecipe => "SubmitToErpRecipe.py"
  | ReplyDraftRecipe => "ReplyDraftRecipe.py"
  | EmailOrderEntryRecipe => "EmailOrderEntryRecipe.py"

/-! ## Policy constants -/

/-- A float literal of the source. -/
def lit (q : ℚ) : PyFloat := PyFloat.ofRat q

def MAX_DISCOUNT_ALLOWED : PyFloat := lit (15 / 100)
def PRICE_CONDITION_TYPE : String := "YK07"
def CREDIT_AUTHORIZED_ROLES : List String := ["ORDER_MANAGER", "FINANCE_DIRECTOR"]
def CREDIT_EXPOSURE_TOLERANCE : PyFloat := lit 5000
def DUPLICATE_PO_THRESHOLD_AUTO_BLOCK : PyFloat := lit (90 / 100)
def DUPLICATE_PO_THRESHOLD_REVIEW_REQUIRED : PyFloat := lit (70 / 100)
def DUPLICATE_PO_THRESHOLD_SOFT_FLAG : PyFloat := lit (50 / 100)

def DUPLICATE_PO_AUTONOMY_LEVELS : PyDict :=
  [("BLOCK_AND_NOTIFY", .str "L2"), ("MERGE", .str "L3"), ("SUPERSEDE", .str "L3"),
    ("ALLOW_BOTH", .str "L2"), ("ESCALATE", .str "L4"), ("REQUEST_BUYER_CONFIRMATION", .str "L3")]

def MASS_UPDATE_LINE_COUNT_THRESHOLD : ℤ := 10
def CIRCUIT_BREAKER_MAX_UPDATES : ℤ := 50
def CIRCUIT_BREAKER_MAX_VARIANCE : PyFloat := lit 10000
def REANALYSIS_MAX_ATTEMPTS : ℕ := 3
def HIGH_VALUE_OVERRIDE_THRESHOLD_USD : PyFloat := lit 10000
def PRICE_HOLD_TOLERANCE_PCT : PyFloat := lit (2 / 100)
def PRICE_HOLD_HARD_BLOCK_PCT : PyFloat := lit (10 / 100)

def EDI_MISMATCH_AUTONOMY_LEVELS : PyDict :=
  [("SKU_MISMATCH", .str "L2"), ("QTY_MISMATCH", .str "L3"), ("UOM_MISMATCH", .str "L3"),
    ("SHIP_TO_MISMATCH", .str "L4")]

def BACK_ORDER_SEVERE_GAP_PCT : PyFloat := lit (50 / 100)
def OVER_MAX_SEVERE_EXCEEDANCE_PCT : PyFloat := lit (50 / 100)
def MOQ_SEVERE_SHORTFALL_PCT : PyFloat := lit (25 / 100)
def MOQ_UPLIFT_REVIEW_PCT : PyFloat := lit (10 / 100)
def PALLET_CONFIG_MIN_FILL_PCT : PyFloat := lit (90 / 100)
def PALLET_CONFIG_BROKEN_LAYER_FILL_PCT : PyFloat := lit 1
def DELIVERY_DELAY_MINOR_DAYS : ℤ := 2
def DELIVERY_DELAY_SEVERE_DAYS : ℤ := 5
def EMAIL_ORDER_AUTO_APPROVE_CONFIDENCE : PyFloat := lit (95 / 100)
def EMAIL_ORDER_REVIEW_BAND_LOW : PyFloat := lit (85 / 100)
def EMAIL_ORDER_AUTO_CORRECT_CONFIDENCE : PyFloat := lit (99 / 100)

def MANUAL_ORDER_INTAKE_AUTONOMY_LEVELS : PyDict :=
  [("ONE_CLICK_APPROVE", .str "L2"), ("STANDARD_REVIEW", .str "L3"),
    ("LOW_CONFIDENCE_FLAG", .str "L4"), ("AUTO_CORRECT", .str "L2"),
    ("REQUEST_CLARIFICATION", .str "L3"), ("ESCALATE", .str "L4"), ("REJECT", .str "L4")]

/-! ## The order event -/

structure OrderEvent where
  order_id : String
  line_item : ℤ := 1
  sku : Option String := none
  event_type : String := "EDI_850_PRICE_MISMATCH"
  po_price : PyFloat
  sap_base_price : PyFloat
  retailer_id : Option String := none
  requester_role : Option String := none
  credit_limit : Option PyFloat := none
  current_exposure : Option PyFloat := none
  line_count : ℤ := 1
  metadata : PyDict := []
  deriving DecidableEq

/-! ## Gateways -/

inductive GatewayStatus where
  | SUCCESS | FAILED | TIMEOUT | UNAVAILABLE
  deriving DecidableEq

def GatewayStatus.value : GatewayStatus → String
  | SUCCESS => "SUCCESS"
  | FAILED => "FAILED"
  | TIMEOUT => "TIMEOUT"
  | UNAVAILABLE => "UNAVAILABLE"

structure GatewayRequest where
  gateway_name : String
  operation : String
  params : PyDict
  trace_id : String
  deriving DecidableEq

structure GatewayResponse where
  gateway_name : String
  operation : String
  status : GatewayStatus
  data : PyDict := []
  error : Option String := none
  deriving DecidableEq

/-- The attributes of the event that a dependency reads. -/
inductive StatePath where
  | event_order_id | event_line_item | event_retailer_id | event_sku
  deriving DecidableEq

structure GatewayDependency where
  gateway_name : String
  operation : String
  params_from_state : List (String × StatePath)
  result_key : String
  required_for_audit : Bool := true

structure GatewayEffect where
  gateway_name : String
  operation : String
  params_from_output : List (String × String)
  only_on_recipe_status : Option (List String) := none

/-! ## The state of a graph run -/

/-- The verdict of the second, model-backed Shadow. -/
structure ShadowLLMVerdict where
  action : String
  reason : String
  policy_concerns : List String
  deriving DecidableEq

structure ComplianceDecision where
  status : ShadowStatus
  trace_id : String
  reasons : List String
  policy_hits : List String
  llm_shadow_verdict : Option ShadowLLMVerdict := none
  deriving DecidableEq

structure RecipeInvocation where
  recipe_name : RecipeName
  params : PyDict
  deriving DecidableEq

structure ExecutionLog where
  trace_id : String
  recipe_name : RecipeName
  inputs : PyDict
  outputs : PyDict := []
  errors : List String := []
  constrained_outputs : List (String × String) := []
  intent_selected : Option Intent := none
  shadow_policy_hits : List String := []
  skill_name : Option String := none
  shadow_verdict : Option ShadowStatus := none
  deriving DecidableEq

inductive NodeName where
  | ingest | classify | load_skill | validate_circuit_breaker | select_recipe
  | resolve_dependencies | validate_types | shadow_audit | execute_recipe | apply_effects
  | explain_only | build_analysis
  deriving DecidableEq

inductive NodeStatus where
  | completed | halted | errored
  deriving DecidableEq

/-- What a node leaves on the trace of its run. -/
structure ExecutedNode where
  node : NodeName
  status : NodeStatus
  exit_verdict : Option String := none
  policy_hits : List String := []
  deriving DecidableEq

structure GraphState where
  event : OrderEvent
  tenant_id : Option String := none
  request_trace_id : String := ""
  skill : Option String := none
  intent : Intent := .UNKNOWN
  confidence : PyFloat := .fin 0
  shadow : Option ComplianceDecision := none
  selected_recipe : Option RecipeName := none
  directed_recipe : Option RecipeName := none
  directed_corrections : PyDict := []
  invocation : Option RecipeInvocation := none
  execution_log : Option ExecutionLog := none
  final_status : Option TerminalStatus := none
  explanation : Option String := none
  update_count : ℤ := 0
  batch_total_variance : PyFloat := .fin 0
  effect_results : List GatewayResponse := []
  enrichment_context : PyDict := []
  execution_trace : List ExecutedNode := []
  deriving DecidableEq

/-- The outputs of the recipe that ran, `{}` when none did. -/
def GraphState.outputs (state : GraphState) : PyDict :=
  match state.execution_log with
  | some log => log.outputs
  | none => []

end asoe
