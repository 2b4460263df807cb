-- From an order event to a stored record: the dispatch between the graph
-- and the case agent, and how the final state of a run is persisted.
import Asoe.Records

namespace asoe

open py prog

/-- Run a part of the service that raises Python exceptions only. -/
def lift_py {α : Type} (r : Except PyErr α) : ApiM α :=
  MonadExcept.ofExcept (r.mapError .raised)

/-- `run_graph`, on the outbox and the gateways of the service. -/
def run_graph_safe (env : RunEnv) (origin : Option String) (state : GraphState) :
    ApiM GraphState :=
  zoom Api.external (fun ext api => { api with external := ext })
    (mapError .raised (run_graph env origin state))

/-! ## The case agent -/

def ROUTABLE_EVENT_TYPES : List String := ["MANUAL_ORDER_INTAKE", "EMAIL_ORDER_ENTRY_REQUEST"]

def should_route_to_case_agent (event : OrderEvent) (enabled : Bool) : Bool :=
  enabled && decide (event.event_type ∈ ROUTABLE_EVENT_TYPES)

/-- The Shadow that gates the agent. It audits the state as it came in:
neither `ingest` nor `classify` has run on it. -/
def agent_audit (env : StepEnv) (state : GraphState) : Except PyErr ComplianceDecision :=
  l1_audit { env.first_run with shadow_backend := env.agent_backend } state

/-- The terminal status of an agent outcome. `TerminalStatus` has no
`RESOLVED`, so that outcome raises. -/
def status_of_outcome (result : AgentRunResult) (state : GraphState) : Except PyErr GraphState :=
  match result.outcome with
  | .RESOLVED => .error ⟨"AttributeError", "RESOLVED"⟩
  | .ESCALATED =>
    .ok { state with
      final_status := some .MANUAL_REVIEW_REQUIRED, explanation := result.halt_reason }
  | .AWAITING_BUYER | .AWAITING_ERP =>
    .ok { state with
      final_status := some .MANUAL_REVIEW_REQUIRED
      explanation := some ("Case-agent halted in " ++ result.outcome.value
        ++ "; awaiting external response.") }
  | .BUDGET_EXHAUSTED | .ERROR =>
    .ok { state with
      final_status := some .FAIL_TO_HUMAN
      explanation := if result.halt_reason.getD "" = "" then some result.outcome.value
        else result.halt_reason }

def resolve_via_case_agent (env : StepEnv) (state : GraphState) : ApiM GraphState := do
  let shadow ← lift_py (agent_audit env state)
  let state := { state with shadow := some shadow }
  if shadow.status = .RED then
    return { state with
      final_status := some .BLOCKED, explanation := some (enforce_explanation shadow) }
  else do
    let api ← get
    let (cases, _) ← lift_py (env.lookup_or_create state.event api.cases)
    modify fun api => { api with cases := cases }
    let _ ← lift_py (batch_variance state.event)
    let result ← lift_py (env.run_agent_step state)
    lift_py (status_of_outcome result state)

/-- One dispatch point: the case agent when its predicate fires, the graph
otherwise. -/
def resolve_state (env : StepEnv) (origin : String) (state : GraphState) : ApiM GraphState :=
  if should_route_to_case_agent state.event env.case_agent_enabled then
    resolve_via_case_agent env state
  else run_graph_safe env.first_run (some origin) state

/-! ## Line items -/

/-- `raw.get(key) or default`, read as text. -/
def line_text (raw : PyDict) (key : String) (default : String) : PyVal :=
  .str ((PyVal.ofOption (dict.get raw key)).or (.str default)).toStr

/-- `float(raw.get(key, default) or default)`. -/
def line_price (raw : PyDict) (key : String) (default : PyFloat) : Except PyErr PyVal := do
  let x ← (((dict.get raw key).getD (.float default)).or (.float default)).toFloat
  return .float x

def fallback_sku (event : OrderEvent) : String :=
  if event.sku.getD "" = "" then event.order_id else event.sku.getD ""

def fallback_description (event : OrderEvent) : String :=
  if event.event_type = "" then "Order line" else event.event_type

/-- `int(event.line_count or 1)`. -/
def fallback_qty (event : OrderEvent) : ℤ := if event.line_count = 0 then 1 else event.line_count

def project_line (event : OrderEvent) (idx : ℕ) (raw : PyDict) : Except PyErr PyVal := do
  let line_no := (PyVal.ofOption (dict.get raw "line_id")).or
    (.str (event.order_id ++ "-" ++ ((dict.get raw "line_item").getD (.int idx)).toStr))
  let quantity ← (((dict.get raw "quantity").getD (.int (fallback_qty event))).or
    (.int (fallback_qty event))).toInt
  let erp_price ← line_price raw "erp_price" event.sap_base_price
  let po_price ← line_price raw "po_price" event.po_price
  return .dict [("line_id", .str line_no.toStr), ("sku", line_text raw "sku" (fallback_sku event)),
    ("description", line_text raw "description" (fallback_description event)),
    ("uom", line_text raw "uom" "EA"), ("quantity", .int quantity), ("erp_price", erp_price),
    ("po_price", po_price), ("root_cause", .ofOption (dict.get raw "root_cause"))]

/-- The entries of `metadata.line_items`, numbered from one; an entry that
is no mapping is skipped. -/
def project_lines (event : OrderEvent) : ℕ → List PyVal → Except PyErr (List PyVal)
  | _, [] => .ok []
  | idx, .dict raw :: rest => do
    let line ← project_line event idx raw
    let lines ← project_lines event (idx + 1) rest
    return line :: lines
  | idx, _ :: rest => project_lines event (idx + 1) rest

def project_line_items (event : OrderEvent) : Except PyErr (List PyVal) := do
  let lines ←
    match metadata_get event "line_items" with
    | .list raws => project_lines event 1 raws
    | _ => .ok []
  if !lines.isEmpty then return lines
  else return [.dict [
    ("line_id", .str (event.order_id ++ "-" ++ toString event.line_item)),
    ("sku", .str (fallback_sku event)), ("description", .str (fallback_description event)),
    ("uom", .str "EA"), ("quantity", .int (fallback_qty event)),
    ("erp_price", .float event.sap_base_price), ("po_price", .float event.po_price)]]

/-! ## Persisting a final state -/

/-- The resolution data of a new record: the outputs of the recipe, with
the line items of the event where the recipe wrote none. -/
def resolution_data_of (state : GraphState) : Except PyErr ResolutionData := do
  let outputs := state.outputs
  if (PyVal.ofOption (dict.get outputs "line_items")).truthy then return { outputs := outputs }
  else
    let lines ← project_line_items state.event
    return { outputs := dict.set outputs "line_items" (.list lines) }

def shadow_verdict_of (state : GraphState) : Option ShadowStatus := state.shadow.map (·.status)

/-- The part of the trace that both writers fill in alike. -/
def trace_data_of (trace_id : String) (state : GraphState) : TraceData :=
  { trace_id := trace_id
    event_id := state.event.order_id
    skill_name := state.skill
    intent_selected := some state.intent
    intent_confidence := state.confidence
    shadow_verdict := shadow_verdict_of state
    shadow_policy_hits := (state.shadow.map (·.policy_hits)).getD []
    llm_shadow_verdict_action :=
      state.shadow.bind fun s => s.llm_shadow_verdict.map (·.action)
    recipe_name := state.selected_recipe
    constrained_output_schemas := (state.execution_log.map (·.constrained_outputs)).getD []
    final_status := state.final_status
    explanation := state.explanation
    executed_nodes := state.execution_trace }

/-- The trace with the audit gap that the composer found, if it found one. -/
def with_audit_gap (composed : ComposedAnalysis) (trace : TraceData) : TraceData :=
  if composed.class_name ≠ "" ∧ composed.missing_audit_fields ≠ [] then
    { trace with
      audit_context_missing_class := some composed.class_name
      audit_context_missing_fields := composed.missing_audit_fields }
  else trace

/-- The record that `exception_store.create` builds from a final state. -/
def record_of (env : StepEnv) (tenant_id trace_id : String) (case : OrderCase)
    (resolution_data : ResolutionData) (state : GraphState) : ChildCase :=
  { id := env.new_id
    tenant_id := tenant_id
    order_id := state.event.order_id
    event_type := state.event.event_type
    trace_id := trace_id
    intent := some state.intent
    lifecycle_state := resolve_lifecycle state.final_status
    shadow_verdict := shadow_verdict_of state
    selected_recipe := state.selected_recipe
    final_status := state.final_status
    resolution_data := resolution_data
    parent_case_id := some case.case_id
    supergroup_code := case.supergroup_code
    original_event := some state.event
    enrichment_context := state.enrichment_context
    created_at := env.now_iso
    updated_at := env.now_iso }

/-- `_persist_exception`: every event opens or joins a case, then the record
is created and its trace is stored. -/
def persist_exception (cfg : Config) (env : StepEnv) (tenant_id trace_id : String)
    (state : GraphState) : ApiM String := do
  let resolution_data ← lift_py (resolution_data_of state)
  let api ← get
  let (cases, case) ← lift_py (env.lookup_or_create state.event api.cases)
  modify fun api => { api with cases := cases }
  recompute_case_status cfg env tenant_id case.case_id [resolve_lifecycle state.final_status]
  let record := record_of env tenant_id trace_id case resolution_data state
  modify fun api => put_record api env.new_id record
  let composed ← lift_py (env.compose_record record)
  modify (store_trace env.new_id (with_audit_gap composed (trace_data_of trace_id state)))
  return env.new_id

/-- The trace id of a run: the one of its Shadow decision, else that of the
request. -/
def run_trace_id (env : StepEnv) (state : GraphState) : String :=
  match state.shadow with
  | some shadow => shadow.trace_id
  | none => env.request_trace_id

/-- A graph run that raised, as an endpoint reports it. -/
def graph_error (text : String) : ApiError → ApiError
  | .raised e => .asoe_error "GRAPH_EXECUTION_ERROR" (text ++ ": " ++ e.text) 500
  | .asoe_error _ message _ => .asoe_error "GRAPH_EXECUTION_ERROR" (text ++ ": " ++ message) 500

/-- The resolve endpoints. `explain` is the dry run, which never takes the
agent path. -/
def resolve (cfg : Config) (env : StepEnv) (tenant_id : String) (event : OrderEvent)
    (explain : Bool) : ApiM String := do
  let state : GraphState := { event := event, tenant_id := some tenant_id }
  let state ← mapError (graph_error "Graph execution failed")
    (if explain then run_graph_safe { env.first_run with explain_mode := true } (some env.new_id) state
     else resolve_state env env.new_id state)
  persist_exception cfg env tenant_id (run_trace_id env state) state

end asoe
