-- The nodes of the graph, in the order in which a run visits them, and
-- `run_graph` with its live and its explain variant.
import Asoe.FallbackBackend
import Asoe.Outbox
import Asoe.Recipes

namespace asoe

open py prog

/-! ## What a run reads from outside -/

/-- The result of the analysis composer on a graph state. -/
structure ComposedAnalysis where
  class_name : String
  missing_audit_fields : List String
  should_route_to_audit_context_missing : Bool
  deriving DecidableEq

/-- The services and the switches that one graph run meets. A backend that
is `none` is the deterministic one. -/
structure RunEnv where
  kill_switch : Bool := false
  explain_mode : Bool := false
  intent_backend : Option (GraphState → IntentDecision) := none
  recipe_backend : Option (GraphState → Option RecipeName) := none
  shadow_backend : Option (GraphState → ShadowDecision) := none
  l2_shadow : Option (GraphState → PyFloat → Option ShadowLLMVerdict) := none
  l2_threshold : Option PyFloat := none
  select_skill : OrderEvent → Except PyErr String
  dependency_order : List GatewayDependency → List GatewayDependency := id
  dependency_order_perm : ∀ deps, (dependency_order deps).Perm deps := by
    exact fun _ => List.Perm.refl _
  read_gateway : GatewayRequest → GatewayResponse
  gateway : Gateways
  other_recipes : RecipeName → PyDict → Except PyErr PyDict
  duplicate_po_offenders : GraphState → Except PyErr (Option (String × List (String × String)))
  compose_from_state : GraphState → Except PyErr ComposedAnalysis
  request_trace_id : String
  shadow_trace_id : String

/-- Append the entry of one node to the trace. -/
def record_node (state : GraphState) (node : NodeName) (exit_verdict : Option String)
    (policy_hits : List String) (errored : Bool) : GraphState :=
  let status : NodeStatus :=
    if errored then .errored else if state.final_status.isSome then .halted else .completed
  { state with execution_trace := state.execution_trace ++
      [⟨node, status, exit_verdict, policy_hits⟩] }

/-- A node that leaves without a verdict. -/
def record_plain (state : GraphState) (node : NodeName) : GraphState :=
  record_node state node none [] false

/-- A node that leaves through a gate. -/
def record (state : GraphState) (node : NodeName) (exit_verdict : String) : GraphState :=
  record_node state node (some exit_verdict) [] false

/-! ## ingest -/

/-- `abs((po_price - sap_base_price) * line_count)`. -/
def batch_variance (event : OrderEvent) : Except PyErr PyFloat :=
  match PyFloat.ofInt? event.line_count with
  | some n => .ok ((event.po_price.sub event.sap_base_price).mul n).abs
  | none => .error ⟨"OverflowError", "int too large to convert to float"⟩

def ingest (env : RunEnv) (state : GraphState) : Except PyErr GraphState := do
  if state.event.order_id = "" then
    let state := { state with
      final_status := some .FAIL_TO_HUMAN
      explanation := some
        "Input validation failed: OrderEvent missing required fields: ['order_id']" }
    return record_node state .ingest none [] true
  let variance ← batch_variance state.event
  let state := { state with
    request_trace_id :=
      if state.request_trace_id = "" then env.request_trace_id else state.request_trace_id
    update_count := state.update_count + 1
    batch_total_variance := variance }
  return record_plain state .ingest

/-! ## classify -/

/-- The deterministic intent wins: a model that disagrees only sends the
run to manual review. -/
def classify (env : RunEnv) (state : GraphState) : GraphState :=
  let deterministic := classify_intent state.event
  match env.intent_backend with
  | none =>
    record { state with intent := deterministic.intent, confidence := deterministic.confidence }
      .classify "ok"
  | some backend =>
    let decision := backend state
    if decision.intent = deterministic.intent then
      record { state with intent := decision.intent, confidence := decision.confidence }
        .classify "ok"
    else
      record { state with
        intent := deterministic.intent
        confidence := deterministic.confidence
        final_status := some .MANUAL_REVIEW_REQUIRED
        explanation := some ("LLM/deterministic classification disagreement: llm="
          ++ decision.intent.value ++ ", deterministic=" ++ deterministic.intent.value
          ++ ". Routing to manual review per cross-check policy "
          ++ "(LLM_DETERMINISTIC_DISAGREEMENT).") }
        .classify "cross_check_disagreement"

/-! ## load_skill -/

def load_skill (env : RunEnv) (state : GraphState) : Except PyErr GraphState := do
  let skill ← env.select_skill state.event
  return record_plain { state with skill := some skill } .load_skill

/-! ## validate_circuit_breaker -/

/-- The reasons of a breach, none when the batch may go on. -/
def circuit_breaker (update_count : ℤ) (batch_total_variance : PyFloat) : List String :=
  (if update_count > CIRCUIT_BREAKER_MAX_UPDATES then
    ["Max 50 updates / 5-minute window exceeded."] else [])
  ++ (if CIRCUIT_BREAKER_MAX_VARIANCE.lt batch_total_variance then
    ["Total dollar variance exceeds $10,000."] else [])

def validate_circuit_breaker (state : GraphState) : GraphState :=
  let reasons := circuit_breaker state.update_count state.batch_total_variance
  if reasons.isEmpty then record state .validate_circuit_breaker "ok"
  else
    record { state with
      final_status := some .FAIL_TO_HUMAN
      explanation := some (join "; " reasons) } .validate_circuit_breaker "breach"

/-! ## select_recipe -/

def select_recipe (env : RunEnv) (state : GraphState) : GraphState :=
  match state.directed_recipe with
  | some name =>
    record { state with selected_recipe := some name } .select_recipe "directed"
  | none =>
    let proposal :=
      match env.recipe_backend with
      | some backend => backend state
      | none => propose_recipe state.intent
    match proposal with
    | none =>
      record { state with explanation := some "No deterministic recipe available for this intent." }
        .select_recipe "no_recipe"
    | some name => record { state with selected_recipe := some name } .select_recipe "ok"

/-! ## resolve_dependencies -/

def ofString? : Option String → PyVal
  | some s => .str s
  | none => .none

def StatePath.read (event : OrderEvent) : StatePath → PyVal
  | event_order_id => .str event.order_id
  | event_line_item => .int event.line_item
  | event_retailer_id => ofString? event.retailer_id
  | event_sku => ofString? event.sku

/-- `response.error or response.status`. -/
def GatewayResponse.failure (response : GatewayResponse) : String :=
  match response.error with
  | some e => if e = "" then response.status.value else e
  | none => response.status.value

/-- The dependencies as they complete: a required one that failed halts the
run, another one leaves an empty bag. -/
def resolve_each (env : RunEnv) (state : GraphState) : List GatewayDependency → GraphState
  | [] => record state .resolve_dependencies "ok"
  | dep :: deps =>
    let response := env.read_gateway
      { gateway_name := dep.gateway_name, operation := dep.operation,
        params := dep.params_from_state.map fun p => (p.1, p.2.read state.event),
        trace_id := state.request_trace_id }
    let put (data : PyDict) : GraphState :=
      { state with
        enrichment_context := dict.set state.enrichment_context dep.result_key (.dict data) }
    if response.status = .SUCCESS then resolve_each env (put response.data) deps
    else if dep.required_for_audit then
      record { state with
        final_status := some .FAIL_TO_HUMAN
        explanation := some ("Gateway dependency failed: " ++ dep.gateway_name ++ "/"
          ++ dep.operation ++ " — " ++ response.failure) }
        .resolve_dependencies "required_gw_fail"
    else resolve_each env (put []) deps

def resolve_dependencies (env : RunEnv) (state : GraphState) : GraphState :=
  match state.selected_recipe with
  | none => record state .resolve_dependencies "ok"
  | some name => resolve_each env state (env.dependency_order (get_recipe name).dependencies)

/-! ## validate_types -/

def ofFloatField : Option PyFloat → PyVal
  | some x => .float x
  | none => .none

def enrichment_get (state : GraphState) (key : String) (default : PyVal) : PyVal :=
  (dict.get state.enrichment_context key).getD default

/-- `enrichment_context.get("order_entry_extraction") or {}`. -/
def extraction_of (enrichment_context : PyDict) : PyVal :=
  (PyVal.ofOption (dict.get enrichment_context "order_entry_extraction")).or (.dict [])

def submit_params (state : GraphState) : Except PyErr PyDict := do
  let extraction := extraction_of state.enrichment_context
  let customer_bp ← get_attr extraction "customer_bp"
  let header ← get_attr extraction "header"
  let line_items ← get_attr extraction "line_items"
  return [("order_id", .str state.event.order_id), ("customer_bp", customer_bp),
    ("header", header.or (.dict [])), ("line_items", line_items.or (.list [])),
    ("corrections", .dict state.directed_corrections)]

def reply_params (state : GraphState) : Except PyErr PyDict := do
  let extraction := extraction_of state.enrichment_context
  let params (key : String) := PyVal.ofOption (dict.get state.directed_corrections key)
  let header := (← get_attr extraction "header").or (.dict [])
  let flags ← iterate ((← get_attr extraction "validation_flags").or (.list []))
  let recipient := (params "recipient").or (← get_attr extraction "customer_email")
  let customer_name ← get_attr extraction "customer_name"
  let customer_po ← get_attr header "customer_po"
  let points :=
    if flags.isEmpty then [.str "Please confirm the order details before we proceed."]
    else flags.map fun f => .str f.toStr
  return [("order_id", .str state.event.order_id), ("recipient", recipient),
    ("template_name", (params "template_name").or (.str ORDER_CLARIFICATION)),
    ("customer_name", customer_name),
    ("context", .dict [("customer_po", customer_po), ("clarification_points", .list points)]),
    ("edits", (params "edits").or (.dict [])), ("mode", (params "mode").or (.str "draft"))]

def price_adjustment_params (event : OrderEvent) : PyDict :=
  [("order_id", .str event.order_id), ("line_item", .int event.line_item),
    ("requested_price", .float event.po_price),
    ("erp_context", .dict [("base_price", .float event.sap_base_price),
      ("max_discount_allowed", .float MAX_DISCOUNT_ALLOWED),
      ("condition_type", .str PRICE_CONDITION_TYPE)])]

def credit_hold_params (event : OrderEvent) : PyDict :=
  [("order_id", .str event.order_id), ("requester_role", ofString? event.requester_role),
    ("credit_limit", ofFloatField event.credit_limit),
    ("current_exposure", ofFloatField event.current_exposure),
    ("authorized_roles", .list (CREDIT_AUTHORIZED_ROLES.map .str)),
    ("exposure_tolerance", .float CREDIT_EXPOSURE_TOLERANCE)]

def duplicate_po_params (state : GraphState) : Except PyErr PyDict := do
  let event := state.event
  let fulfilled ← get_attr (enrichment_get state "fulfillment_status" (.dict [])) "fulfilled"
  let matched := enrichment_get state "matched_po_details" (.dict [])
  let revision ← get_attr matched "has_revision_indicator"
  let identical ← get_attr matched "line_items_identical"
  let weights ← get_attr (enrichment_get state "tenant_config" (.dict [])) "weights"
  return [("incoming_po_number", .str event.order_id),
    ("customer_id", .str (event.retailer_id.getD "")),
    ("signal_scores", (dict.get event.metadata "signal_scores").getD (.dict [])),
    ("threshold_auto_block", .float DUPLICATE_PO_THRESHOLD_AUTO_BLOCK),
    ("threshold_review_required", .float DUPLICATE_PO_THRESHOLD_REVIEW_REQUIRED),
    ("threshold_soft_flag", .float DUPLICATE_PO_THRESHOLD_SOFT_FLAG),
    ("original_fulfilled", fulfilled), ("has_revision_indicator", revision),
    ("line_items_identical", identical), ("autonomy_levels", .dict DUPLICATE_PO_AUTONOMY_LEVELS),
    ("weights", weights)]

def price_hold_params (state : GraphState) : PyDict :=
  let event := state.event
  let gateway_status :=
    match enrichment_get state "price_hold_status" (.dict []) with
    | .dict d => PyVal.ofOption (dict.get d "status")
    | _ => .none
  [("order_id", .str event.order_id), ("line_item", .int event.line_item),
    ("po_price", .float event.po_price), ("sap_base_price", .float event.sap_base_price),
    ("tolerance_pct",
      (dict.get event.metadata "tolerance_pct").getD (.float PRICE_HOLD_TOLERANCE_PCT)),
    ("hard_block_pct", .float PRICE_HOLD_HARD_BLOCK_PCT),
    ("hold_status", gateway_status.or
      ((dict.get event.metadata "price_hold_status").getD (.str "HELD"))),
    ("requester_role", ofString? event.requester_role)]

def edi_mismatch_params (event : OrderEvent) : PyDict :=
  [("order_id", .str event.order_id), ("sub_type", metadata_get event "mismatch_sub_type"),
    ("expected_value", metadata_get event "expected_value"),
    ("received_value", metadata_get event "received_value"),
    ("autonomy_levels", .dict EDI_MISMATCH_AUTONOMY_LEVELS)]

/-- `event.sku or meta.get("sku") or ""`. -/
def sku_of (event : OrderEvent) : PyVal :=
  (ofString? event.sku).or ((metadata_get event "sku").or (.str ""))

def back_order_params (event : OrderEvent) : Except PyErr PyDict := do
  let ordered_qty ← metadata_float event "ordered_qty"
  let available_qty ← metadata_float event "available_qty"
  let unit_price ← metadata_float event "unit_price"
  return [("order_id", .str event.order_id), ("sku", sku_of event),
    ("ordered_qty", .float ordered_qty), ("available_qty", .float available_qty),
    ("unit_price", .float unit_price), ("uom", (metadata_get event "uom").or (.str "CS")),
    ("severe_gap_pct", .float BACK_ORDER_SEVERE_GAP_PCT),
    ("alternate_warehouses", metadata_get event "alternate_warehouses"),
    ("substitutes", metadata_get event "substitutes")]

def over_max_params (event : OrderEvent) : Except PyErr PyDict := do
  let total_ordered ← metadata_float event "total_ordered"
  let max_qty ← metadata_float event "max_qty"
  return [("order_id", .str event.order_id), ("total_ordered", .float total_ordered),
    ("max_qty", .float max_qty),
    ("severe_exceedance_pct", .float OVER_MAX_SEVERE_EXCEEDANCE_PCT),
    ("order_lines", metadata_get event "order_lines"),
    ("unit_cost_per_line", metadata_get event "unit_cost_per_line")]

def moq_params (event : OrderEvent) : Except PyErr PyDict := do
  let ordered_qty ← metadata_float event "ordered_qty"
  let moq_qty ← metadata_float event "moq_qty"
  let unit_cost ← metadata_float event "unit_cost"
  return [("order_id", .str event.order_id), ("sku", sku_of event),
    ("ordered_qty", .float ordered_qty), ("moq_qty", .float moq_qty),
    ("unit_cost", .float unit_cost), ("uom", (metadata_get event "uom").or (.str "CS")),
    ("severe_shortfall_pct", .float MOQ_SEVERE_SHORTFALL_PCT),
    ("uplift_review_pct", .float MOQ_UPLIFT_REVIEW_PCT)]

def pallet_params (event : OrderEvent) : PyDict :=
  [("order_id", .str event.order_id), ("lines", metadata_get event "pallet_lines"),
    ("min_fill_pct", .float PALLET_CONFIG_MIN_FILL_PCT),
    ("broken_layer_fill_pct", .float PALLET_CONFIG_BROKEN_LAYER_FILL_PCT)]

/-- One floor check: the gateway's flag when it answered with one, else the
flag of the metadata. -/
def floor_check (enrichment_context floor_meta : PyDict) (gw_key flag : String) : PyDict :=
  let from_meta : PyDict :=
    match dict.get floor_meta flag with
    | some v => [(flag, .bool v.truthy)]
    | none => []
  match dict.get enrichment_context gw_key with
  | some (.dict gw) =>
    match dict.get gw flag with
    | some v => [(flag, .bool v.truthy)]
    | none => from_meta
  | _ => from_meta

def order_intake_params (state : GraphState) : Except PyErr PyDict := do
  let event := state.event
  let floor_meta : PyDict :=
    match metadata_get event "non_disableable_floor" with
    | .dict d => d
    | _ => []
  let check := floor_check state.enrichment_context floor_meta
  let failures : List PyVal :=
    match metadata_get event "validation_failures" with
    | .list xs => xs
    | _ => []
  let composite_confidence ← metadata_float event "composite_confidence"
  return [("order_id", .str event.order_id), ("customer_id", .str (event.retailer_id.getD "")),
    ("composite_confidence", .float composite_confidence),
    ("validation_failures", .list failures),
    ("non_disableable_floor", .dict
      (check "sender_auth_context" "sender_authorized"
        ++ check "customer_resolution_context" "customer_resolved"
        ++ check "duplicate_po_pre_check_context" "duplicate_po_clear"
        ++ check "credit_check_context" "credit_clear")),
    ("autonomy_levels", .dict MANUAL_ORDER_INTAKE_AUTONOMY_LEVELS),
    ("threshold_auto_approve", .float EMAIL_ORDER_AUTO_APPROVE_CONFIDENCE),
    ("threshold_review_band_low", .float EMAIL_ORDER_REVIEW_BAND_LOW),
    ("threshold_auto_correct", .float EMAIL_ORDER_AUTO_CORRECT_CONFIDENCE),
    ("reject_reason_code", metadata_get event "reject_reason_code")]

def delivery_delay_params (event : OrderEvent) : PyDict :=
  [("order_id", .str event.order_id),
    ("planned_date", (metadata_get event "planned_date").or (.str "")),
    ("projected_eta", (metadata_get event "projected_eta").or (.str "")),
    ("minor_days", .int DELIVERY_DELAY_MINOR_DAYS),
    ("severe_days", .int DELIVERY_DELAY_SEVERE_DAYS), ("carrier", metadata_get event "carrier"),
    ("route", metadata_get event "route"),
    ("delay_category", metadata_get event "delay_category"),
    ("alternate_options", metadata_get event "alternate_options")]

/-- The parameters of the selected recipe. -/
def invocation_params (state : GraphState) : RecipeName → Except PyErr PyDict
  | .SubmitToErpRecipe => submit_params state
  | .ReplyDraftRecipe => reply_params state
  | .PriceAdjustmentRecipe => .ok (price_adjustment_params state.event)
  | .CreditHoldReleaseRecipe => .ok (credit_hold_params state.event)
  | .DuplicatePORecipe => duplicate_po_params state
  | .PriceHoldReleaseRecipe => .ok (price_hold_params state)
  | .EdiMismatchRecipe => .ok (edi_mismatch_params state.event)
  | .BackOrderResolutionRecipe => back_order_params state.event
  | .OverMaxTrimRecipe => over_max_params state.event
  | .MOQRoundUpRecipe => moq_params state.event
  | .PalletAlignmentRecipe => .ok (pallet_params state.event)
  | .ManualOrderIntakeRecipe | .EmailOrderEntryRecipe => order_intake_params state
  | .DeliveryDelayResolutionRecipe => .ok (delivery_delay_params state.event)

def validate_types (state : GraphState) : Except PyErr GraphState := do
  match state.selected_recipe with
  | none => return record state .validate_types "ok"
  | some name =>
    if name = .PriceHoldReleaseRecipe ∧ state.event.sap_base_price.le (.fin 0) then
      return record { state with
        final_status := some .FAIL_TO_HUMAN
        explanation := some ("PriceHoldReleaseRecipe requires sap_base_price > 0; got "
          ++ reprFloat state.event.sap_base_price ++ ". Order cannot be classified "
          ++ "deterministically; routing to human review.") }
        .validate_types "invocation_fail"
    let params ← invocation_params state name
    return record { state with invocation := some ⟨name, params⟩ } .validate_types "ok"

/-! ## shadow_audit -/

/-- The first verdict: the Shadow backend's, with a fresh trace id. -/
def l1_audit (env : RunEnv) (state : GraphState) : Except PyErr ComplianceDecision := do
  let raw ←
    match env.shadow_backend with
    | some backend => .ok (backend state)
    | none => shadow_decision state.intent state.batch_total_variance state.event
  return { status := raw.status, trace_id := env.shadow_trace_id, reasons := raw.reasons,
           policy_hits := raw.policy_hits }

/-- The impact that the second Shadow is gated on. -/
def estimate_financial_impact_usd (state : GraphState) : Except PyErr PyFloat := do
  match ← (metadata_get state.event "financial_impact_usd").numberAsFloat? with
  | some explicit => return state.batch_total_variance.max explicit
  | none => return state.batch_total_variance

/-- The second verdict can only turn a GREEN into a YELLOW, and only at or
above the threshold of its rollout. -/
def combine_verdicts (base : ShadowStatus) (llm_verdict : ShadowLLMVerdict) (impact : PyFloat)
    (threshold : Option PyFloat) : ShadowStatus :=
  match threshold, base with
  | some t, .GREEN =>
    if llm_verdict.action = "DISAGREE_DOWNGRADE" ∧ t.le impact then .YELLOW else .GREEN
  | _, _ => base

def invoke_l2_shadow (env : RunEnv) (state : GraphState) (shadow : ComplianceDecision) :
    Except PyErr ComplianceDecision :=
  match env.l2_shadow with
  | none => .ok shadow
  | some l2 => do
    let impact ← estimate_financial_impact_usd state
    match l2 { state with shadow := some shadow } impact with
    | none => return shadow
    | some verdict =>
      let new_status := combine_verdicts shadow.status verdict impact env.l2_threshold
      if new_status = shadow.status then return { shadow with llm_shadow_verdict := some verdict }
      else return { shadow with
        status := new_status
        llm_shadow_verdict := some verdict
        reasons := shadow.reasons ++ ["LLM_SHADOW: " ++ verdict.reason]
        policy_hits := shadow.policy_hits
          ++ verdict.policy_concerns.map fun c => "LLM_SHADOW:" ++ c }

/-- `enforce(decision).explanation`. -/
def enforce_explanation (decision : ComplianceDecision) : String :=
  let description :=
    match decision.status with
    | .RED => "Execution halted."
    | .YELLOW => "Routing to MANUAL_REVIEW_REQUIRED."
    | .GREEN => "Auto-proceed is allowed."
  "Compliance Shadow returned " ++ decision.status.value ++ ". " ++ description
    ++ (if decision.status ≠ .GREEN ∧ decision.reasons ≠ [] then
      " " ++ join "; " decision.reasons else "")

/-- GREEN proceeds, YELLOW escalates, RED blocks. -/
def enforce (state : GraphState) (shadow : ComplianceDecision) : GraphState :=
  let state := { state with shadow := some shadow }
  let halt (st : TerminalStatus) : GraphState :=
    { state with final_status := some st, explanation := some (enforce_explanation shadow) }
  let leave (state : GraphState) (verdict : String) : GraphState :=
    record_node state .shadow_audit (some verdict) shadow.policy_hits false
  match shadow.status with
  | .RED => leave (halt .BLOCKED) "red"
  | .YELLOW => leave (halt .MANUAL_REVIEW_REQUIRED) "yellow"
  | .GREEN => leave state "green"

def shadow_audit (env : RunEnv) (state : GraphState) : Except PyErr GraphState := do
  let shadow ← l1_audit env state
  let shadow ← invoke_l2_shadow env state shadow
  return enforce state shadow

/-! ## execute_recipe -/

/-- The autonomy levels that need a human, by rank. A level that cannot be
a key of the rank table raises. -/
def requires_human : PyVal → Except PyErr Bool
  | .str s => .ok (s = "L3" || s = "L4")
  | .list xs =>
    if xs.isEmpty then .ok false else .error ⟨"TypeError", "unhashable type: 'list'"⟩
  | .dict d => if d.isEmpty then .ok false else .error ⟨"TypeError", "unhashable type: 'dict'"⟩
  | _ => .ok false

/-- The terminal status and the explanation that the recipe's own status
asks for. -/
def status_of_recipe (outputs : PyDict) : TerminalStatus × Option String :=
  let reason (default : String) : Option String :=
    match dict.get outputs "reason" with
    | none => some default
    | some .none => none
    | some v => some v.toStr
  match dict.get outputs "status" with
  | some (.str "FAILED") => (.FAIL_TO_HUMAN, reason "Recipe returned FAILED.")
  | some (.str "BLOCKED") => (.BLOCKED, reason "Recipe returned BLOCKED.")
  | some (.str "REJECTED") => (.REJECTED, reason "Recipe returned REJECTED.")
  | some (.str "REVIEW_REQUIRED") =>
    (.MANUAL_REVIEW_REQUIRED, reason "Recipe returned REVIEW_REQUIRED.")
  | _ => (.COMPLETE, some "Deterministic execution completed successfully.")

/-- An order intake is never completed by the graph alone. -/
def gate_intake (state : GraphState) : GraphState :=
  if state.final_status = some .COMPLETE ∧ state.intent = .MANUAL_ORDER_INTAKE
      ∧ state.selected_recipe = some .ManualOrderIntakeRecipe then
    { state with
      final_status := some .MANUAL_REVIEW_REQUIRED
      explanation := some ("Order intake classified one-click-approve; the ERP submit is "
        ++ "operator-gated (ADR-042 §2.2.6 / DoR #2), so the record is routed "
        ++ "to manual review for human authorisation rather than auto-executed.") }
  else state

/-- Route the run on the outputs of a recipe that did not fail. -/
def route_outputs (state : GraphState) (log : ExecutionLog) : Except PyErr GraphState := do
  let autonomy := PyVal.ofOption (dict.get log.outputs "autonomy_level")
  let log := if autonomy.truthy then
    { log with outputs := dict.set log.outputs "autonomy_vocab_version" (.str "v2") } else log
  if ← requires_human autonomy then
    let action := ((dict.get log.outputs "recommended_action").getD (.str "")).toStr
    return gate_intake { state with
      execution_log := some log
      final_status := some .MANUAL_REVIEW_REQUIRED
      explanation := some ("Autonomy level " ++ autonomy.toStr ++ ": " ++ action
        ++ " requires human approval.") }
  let (status, explanation) := status_of_recipe log.outputs
  return gate_intake { state with
    execution_log := some log, final_status := some status, explanation := explanation }

def execute_recipe (env : RunEnv) (state : GraphState) : Except PyErr GraphState := do
  match state.invocation with
  | none =>
    return record_plain { state with
      final_status := some .FAIL_TO_HUMAN
      explanation :=
        if (state.explanation.getD "") ≠ "" then state.explanation
        else some ("No recipe invocation available; validate_types may have found no recipe.") }
      .execute_recipe
  | some inv =>
    let log : ExecutionLog := run_recipe env.other_recipes inv.recipe_name inv.params
      ((state.shadow.map (·.trace_id)).getD env.shadow_trace_id) state.intent
      ((state.shadow.map (·.policy_hits)).getD [])
    let log : ExecutionLog := { log with
      constrained_outputs := dict.update log.constrained_outputs
        [("intent", "IntentDecision"), ("shadow", "ShadowDecisionSchema"),
          ("recipe", "RecipeProposal")]
      skill_name := state.skill
      shadow_verdict := state.shadow.map (·.status) }
    if !log.errors.isEmpty then
      return record_plain { state with
        execution_log := some log
        final_status := some .FAIL_TO_HUMAN
        explanation := some (join "; " log.errors) } .execute_recipe
    let state ← route_outputs state log
    return record_plain state .execute_recipe

/-! ## apply_effects -/

/-- One effect: the call, its entry in the outbox, and the note on a
failure. -/
def apply_effect (env : RunEnv) (origin : Option String) (name : RecipeName) (outputs : PyDict)
    (state : GraphState) (effect : GatewayEffect) (ext : External) : External × GraphState :=
  let recipe_status := PyVal.ofOption (dict.get outputs "status")
  if effect.only_on_recipe_status.any fun allowed => recipe_status ∉ allowed.map .str then
    (ext, state)
  else
    let params : PyDict :=
      effect.params_from_output.map fun p => (p.1, .ofOption (dict.get outputs p.2))
    let trace_id := (state.shadow.map (·.trace_id)).getD state.request_trace_id
    let (ext, response) := run_gateway env.gateway origin
      { gateway_name := effect.gateway_name, operation := effect.operation, params := params,
        trace_id := trace_id } ext
    let ext := record_effect origin
      (if state.tenant_id.getD "" = "" then "default" else state.tenant_id.getD "")
      effect.gateway_name effect.operation response.status (some name) recipe_status
      (some trace_id) response.error params ext
    let state := { state with effect_results := state.effect_results ++ [response] }
    if response.status = .SUCCESS then (ext, state)
    else (ext, { state with explanation := some ("Effect partially failed: "
      ++ effect.gateway_name ++ "/" ++ effect.operation ++ " — " ++ response.failure
      ++ ". Recipe completed but side effect requires manual follow-up.") })

def apply_effects (env : RunEnv) (origin : Option String) (state : GraphState) (ext : External) :
    External × GraphState :=
  match state.selected_recipe, state.execution_log with
  | some name, some log =>
    let (ext, state) := (get_recipe name).effects.foldl
      (fun (acc : External × GraphState) effect =>
        apply_effect env origin name log.outputs acc.2 effect acc.1) (ext, state)
    (ext, record_plain state .apply_effects)
  | _, _ => (ext, record_plain state .apply_effects)

/-! ## explain_only -/

def build_explain_summary (state : GraphState) : String :=
  let hits := (state.shadow.map (·.policy_hits)).getD []
  let params := (state.invocation.map (·.params)).getD []
  join "\n"
    (["EXPLAIN MODE — dry-run only, no recipe was executed.",
      "  Intent classified : " ++ state.intent.value,
      "  Shadow verdict    : "
        ++ ((state.shadow.map fun s => s.status.value).getD "not reached")]
    ++ (if hits = [] then [] else ["  Shadow policy hits: " ++ join ", " hits])
    ++ ((state.selected_recipe.map fun r => "  Would execute     : " ++ r.value).toList)
    ++ [if params = [] then "  With params       : (not yet validated)"
        else "  With params       : " ++ (PyVal.dict params).repr]
    ++ ["Activate without ASOE_EXPLAIN_MODE to execute."])

def explain_only (state : GraphState) : GraphState :=
  record_plain { state with
    explanation := some (build_explain_summary state)
    final_status := some .MANUAL_REVIEW_REQUIRED } .explain_only

/-! ## build_analysis -/

/-- `f"{preamble}\n\n{suffix}" if preamble else suffix`. -/
def with_preamble (explanation : Option String) (suffix : String) : Option String :=
  if explanation.getD "" = "" then some suffix
  else some (explanation.getD "" ++ "\n\n" ++ suffix)

def audit_context_missing (state : GraphState) (suffix : String) : GraphState :=
  record_plain { state with
    final_status := some .AUDIT_CONTEXT_MISSING
    explanation := with_preamble state.explanation suffix } .build_analysis

/-- The offenders against the metadata contract of a duplicate order. -/
def metadata_offenders (env : RunEnv) (state : GraphState) :
    Except PyErr (Option (String × List (String × String))) :=
  if state.intent = .DUPLICATE_PO then env.duplicate_po_offenders state else .ok none

def build_analysis (env : RunEnv) (state : GraphState) : Except PyErr GraphState := do
  if state.final_status = some .AUDIT_CONTEXT_MISSING
      ∨ state.final_status = some .FAIL_TO_HUMAN then
    return record_plain state .build_analysis
  match ← metadata_offenders env state with
  | some (contract, offenders) =>
    return audit_context_missing state ("Metadata-contract violation in " ++ contract ++ ": ["
      ++ join "; " (offenders.map fun o => o.1 ++ ": " ++ o.2) ++ "]. See "
      ++ "docs/specs/duplicate-po/metadata-contract.md for the binding key/type rules.")
  | none =>
    let composed ← env.compose_from_state state
    if !composed.should_route_to_audit_context_missing then return record_plain state .build_analysis
    return audit_context_missing state ("Audit-bearing fields missing from "
      ++ composed.class_name ++ ": [" ++ join ", " composed.missing_audit_fields
      ++ "]. Record cannot be presented to an operator without authoritative values for "
      ++ "these fields — see compliance/audit_bearing_registry.yaml.")

/-! ## The graph -/

/-- `route_after_gate`: a state with a terminal status skips the rest of
the proposal phase. -/
def after_gate (state : GraphState) (rest : GraphState → Except PyErr GraphState) :
    Except PyErr GraphState :=
  if state.final_status.isSome then .ok state else rest state

/-- The nodes that the live and the explain graph share, up to the Shadow. -/
def proposal_phase (env : RunEnv) (state : GraphState) : Except PyErr GraphState := do
  let state ← ingest env state
  let state ← load_skill env (classify env state)
  after_gate (validate_circuit_breaker state) fun state =>
    after_gate (select_recipe env state) fun state =>
      after_gate (resolve_dependencies env state) fun state => do
        let state ← validate_types state
        after_gate state (shadow_audit env)

/-- What follows a Shadow that let the run pass. -/
def after_shadow (env : RunEnv) (origin : Option String) (state : GraphState) :
    EStateM PyErr External GraphState :=
  if env.explain_mode then pure (explain_only state)
  else do
    let state ← ofExcept (execute_recipe env state)
    let ext ← get
    let (ext, state) := apply_effects env origin state ext
    set ext
    return state

/-- The default explanation that the state model puts for a terminal state
that has none. -/
def explain_terminal (state : GraphState) : GraphState :=
  match state.final_status with
  | some st =>
    if state.explanation.getD "" = "" then
      { state with explanation := some ("Workflow terminated with status: " ++ st.value) }
    else state
  | none => state

def KILL_SWITCH_EXPLANATION : String :=
  "Automated execution halted: ASOE_KILL_SWITCH is active. "
    ++ "All recipe execution is disabled by operator configuration. Route to human review."

def run_graph (env : RunEnv) (origin : Option String) (state : GraphState) :
    EStateM PyErr External GraphState :=
  if env.kill_switch then
    pure { state with
      final_status := some .FAIL_TO_HUMAN, explanation := some KILL_SWITCH_EXPLANATION }
  else do
    let state ← ofExcept (proposal_phase env state)
    let state ← if state.final_status.isSome then pure state else after_shadow env origin state
    let state ← ofExcept (build_analysis env state)
    return explain_terminal state

end asoe
