-- The exception records and the stores behind the API: records, traces,
-- the audit log, the parent cases, and what an update of each one does.
import Asoe.Graph

namespace asoe

open py prog

/-! ## The resolution data of a record -/

/-- A disposition that waits for a second reviewer. -/
structure PendingOverride where
  action : String
  notes : String
  reason_tag : String
  corrections : Option PyDict
  initiator : String
  initiated_at : String
  financial_impact_usd : PyFloat
  from_lifecycle_state : LifecycleState
  deriving DecidableEq

structure ErpSubmission where
  status : PyVal
  reason : PyVal
  erp_payload : PyVal
  sap_doc_number : PyVal
  corrections_applied : PyVal
  submitted_by : String
  submitted_at : String
  deriving DecidableEq

structure CosignMeta where
  cosigned_by : String
  cosigned_at : String
  cosign_notes : String
  initiator : String
  initiated_at : String
  deriving DecidableEq

structure CosignRejection where
  rejected_by : String
  rejected_at : String
  rejection_notes : String
  initiator : String
  deriving DecidableEq

structure Escalation where
  reason : String
  to_role : Option String
  escalated_by : String
  escalated_at : String
  from_lifecycle_state : LifecycleState
  deriving DecidableEq

structure ReplyRevision where
  version : ℕ
  subject : PyVal
  body : PyVal
  edits_applied : List PyVal
  author : String
  authored_at : String
  source : String
  deriving DecidableEq

structure ReplyDraftEntry where
  status : PyVal
  reason : PyVal
  draft : PyDict
  edits_applied : PyVal
  drafted_by : String
  drafted_at : String
  revisions : List ReplyRevision
  deriving DecidableEq

structure ReplySentEntry where
  status : String
  reason : PyVal
  recipient : PyVal
  subject : PyVal
  gateway_status : Option GatewayStatus
  delivered : Bool
  delivery_key : String
  sent_by : String
  sent_at : String
  deriving DecidableEq

/-- The open dictionary of the source, with a field for each key that the
handlers own. `outputs` holds the keys that the recipe wrote; no recipe
writes a key that the handlers own. -/
structure ResolutionData where
  outputs : PyDict := []
  pending_override : Option PendingOverride := none
  erp_submission : Option ErpSubmission := none
  cosign : Option CosignMeta := none
  cosign_rejection : Option CosignRejection := none
  escalations : List Escalation := []
  reply_draft : Option ReplyDraftEntry := none
  reply_sent : Option ReplySentEntry := none
  deriving DecidableEq

/-! ## Records -/

structure ReanalysisEntry where
  attempt : ℕ
  triggered_at : String
  triggered_by : String
  reason : String
  prior_trace_id : String
  prior_shadow_verdict : Option ShadowStatus
  prior_final_status : Option TerminalStatus
  prior_lifecycle_state : LifecycleState
  new_trace_id : String
  new_shadow_verdict : Option ShadowStatus
  new_final_status : Option TerminalStatus
  new_lifecycle_state : LifecycleState
  executed_nodes : List ExecutedNode
  deriving DecidableEq

structure ChildCase where
  id : String
  tenant_id : String
  order_id : String
  event_type : String
  trace_id : String
  intent : Option Intent
  lifecycle_state : LifecycleState
  shadow_verdict : Option ShadowStatus
  selected_recipe : Option RecipeName
  final_status : Option TerminalStatus
  resolution_data : ResolutionData
  resolved_by : Option String := none
  resolved_action : Option String := none
  resolution_notes : Option String := none
  parent_case_id : Option String := none
  supergroup_code : Option String := none
  intent_code : Option String := none
  divergence_reason : Option String := none
  original_event : Option OrderEvent := none
  enrichment_context : PyDict := []
  reanalysis_history : List ReanalysisEntry := []
  created_at : String
  updated_at : String
  deriving DecidableEq

/-- The body of a handler's answer. -/
structure ExceptionDetailResponse where
  id : String
  tenant_id : String
  order_id : String
  event_type : String
  intent : Option Intent
  lifecycle_state : LifecycleState
  shadow_verdict : Option ShadowStatus
  selected_recipe : Option RecipeName
  final_status : Option TerminalStatus
  trace_id : String
  parent_case_id : Option String
  supergroup_code : Option String
  resolution_data : ResolutionData
  resolved_by : Option String
  resolved_action : Option String
  resolution_notes : Option String
  reanalysis_history : List ReanalysisEntry
  created_at : String
  updated_at : String
  deriving DecidableEq

def ChildCase.to_detail (r : ChildCase) : ExceptionDetailResponse :=
  { id := r.id, tenant_id := r.tenant_id, order_id := r.order_id, event_type := r.event_type,
    intent := r.intent, lifecycle_state := r.lifecycle_state, shadow_verdict := r.shadow_verdict,
    selected_recipe := r.selected_recipe, final_status := r.final_status, trace_id := r.trace_id,
    parent_case_id := r.parent_case_id, supergroup_code := r.supergroup_code,
    resolution_data := r.resolution_data, resolved_by := r.resolved_by,
    resolved_action := r.resolved_action, resolution_notes := r.resolution_notes,
    reanalysis_history := r.reanalysis_history, created_at := r.created_at,
    updated_at := r.updated_at }

/-- The trace of a run, as the trace endpoint reads it back: the two audit
fields are `None` and `[]` when the writer left them out. -/
structure TraceData where
  trace_id : String
  event_id : String
  skill_name : Option String
  intent_selected : Option Intent
  intent_confidence : PyFloat
  shadow_verdict : Option ShadowStatus
  shadow_policy_hits : List String
  llm_shadow_verdict_action : Option String
  recipe_name : Option RecipeName
  constrained_output_schemas : List (String × String)
  final_status : Option TerminalStatus
  explanation : Option String
  audit_context_missing_class : Option String := none
  audit_context_missing_fields : List String := []
  executed_nodes : List ExecutedNode
  deriving DecidableEq

/-- One event of the audit log. The hash chain over the events is not part
of this model. -/
structure AuditEvent where
  tenant_id : String
  policy_key : String
  previous_value : PyDict
  new_value : PyDict
  changed_by : String
  change_reason : String
  deriving DecidableEq

/-! ## Cases -/

inductive CaseStatus where
  | OPEN_AGENT_PROCESSING | OPEN_AWAITING_HUMAN | OPEN_AWAITING_BUYER | OPEN_AWAITING_ERP
  | RESOLVED | FAILED | BLOCKED
  deriving DecidableEq

def CaseStatus.value : CaseStatus → String
  | .OPEN_AGENT_PROCESSING => "OPEN_AGENT_PROCESSING"
  | .OPEN_AWAITING_HUMAN => "OPEN_AWAITING_HUMAN"
  | .OPEN_AWAITING_BUYER => "OPEN_AWAITING_BUYER"
  | .OPEN_AWAITING_ERP => "OPEN_AWAITING_ERP"
  | .RESOLVED => "RESOLVED"
  | .FAILED => "FAILED"
  | .BLOCKED => "BLOCKED"

structure OrderCase where
  case_id : String
  tenant_id : String
  status : CaseStatus
  supergroup_code : Option String
  pending_override : Option String
  closed_at : Option String
  deriving DecidableEq

def SG_NEEDS_TRIAGE : String := "SG_NEEDS_TRIAGE"

def case_status_from_lifecycle : LifecycleState → CaseStatus
  | .RESOLVED | .CLOSED | .REJECTED => .RESOLVED
  | .BLOCKED => .BLOCKED
  | .FAILED => .FAILED
  | _ => .OPEN_AWAITING_HUMAN

def CASE_STATUS_RANK : CaseStatus → ℕ
  | .OPEN_AWAITING_HUMAN => 3
  | .BLOCKED => 2
  | .FAILED => 1
  | _ => 0

/-- `max(candidates, key=rank)`: the first of the highest rank. -/
def max_status : List CaseStatus → Option CaseStatus
  | [] => none
  | c :: cs => some (cs.foldl (fun m s => if CASE_STATUS_RANK m < CASE_STATUS_RANK s then s else m) c)

def TERMINAL_CASE_STATUSES : List CaseStatus := [.RESOLVED, .FAILED, .BLOCKED]

/-! ## The state of the service -/

/-- The in-memory store hands out its own record objects; the store on a
database hands out copies. -/
inductive StoreKind where
  | memory | database
  deriving DecidableEq

structure Config where
  store : StoreKind
  sha256 : String → String
  lower : String → String

/-- How a run of the case agent ends. -/
inductive AgentOutcome where
  | RESOLVED | ESCALATED | AWAITING_BUYER | AWAITING_ERP | BUDGET_EXHAUSTED | ERROR
  deriving DecidableEq

def AgentOutcome.value : AgentOutcome → String
  | RESOLVED => "RESOLVED"
  | ESCALATED => "ESCALATED"
  | AWAITING_BUYER => "AWAITING_BUYER"
  | AWAITING_ERP => "AWAITING_ERP"
  | BUDGET_EXHAUSTED => "BUDGET_EXHAUSTED"
  | ERROR => "ERROR"

structure AgentRunResult where
  outcome : AgentOutcome
  halt_reason : Option String
  deriving DecidableEq

/-- What one request meets: the clock, the graph runs it starts, and the
parts of the service that the model leaves open. -/
structure StepEnv where
  now : ℚ
  now_iso : String
  new_id : String
  request_trace_id : String
  first_run : RunEnv
  second_run : RunEnv
  audit_insert_ok : Bool := true
  case_agent_enabled : Bool := false
  agent_backend : Option (GraphState → ShadowDecision) := none
  run_agent_step : GraphState → Except PyErr AgentRunResult
  lookup_or_create : OrderEvent → List (String × OrderCase) →
    Except PyErr (List (String × OrderCase) × OrderCase)
  compose_record : ChildCase → Except PyErr ComposedAnalysis

/-- Tenant, exception, user and key of a cached answer. -/
abbrev CacheKey := String × String × String × String

structure CacheEntry where
  created_at : ℚ
  request_body : PyDict
  response : ExceptionDetailResponse
  deriving DecidableEq

structure Api where
  records : List (String × ChildCase) := []
  traces : List (String × TraceData) := []
  audit_log : List AuditEvent := []
  cases : List (String × OrderCase) := []
  idempotency_cache : List (CacheKey × CacheEntry) := []
  delivery_dedup : List ((String × String) × ReplySentEntry) := []
  external : External := {}
  llm_downgrade_overrides : ℕ := 0
  deriving DecidableEq

/-- An error of a request: one that a handler raises on purpose, or an
exception of Python that nothing caught. -/
inductive ApiError where
  | asoe_error (code message : String) (status_code : ℕ)
  | raised (e : PyErr)
  deriving DecidableEq

abbrev ApiM := EStateM ApiError Api

/-! ## The stores -/

/-- `exception_store.get(...)`: a record of another tenant is not found. -/
def get_record (api : Api) (exception_id tenant_id : String) : Option ChildCase :=
  match dict.get api.records exception_id with
  | some record => if record.tenant_id = tenant_id then some record else none
  | none => none

def put_record (api : Api) (exception_id : String) (record : ChildCase) : Api :=
  { api with records := dict.set api.records exception_id record }

/-- `exception_store.update(...)`. A missing record is the `UPDATE_FAILED`
of every caller. -/
def update_record (env : StepEnv) (exception_id tenant_id message : String)
    (fields : ChildCase → ChildCase) : ApiM ChildCase := do
  let api ← get
  match get_record api exception_id tenant_id with
  | some record =>
    let updated := { fields record with updated_at := env.now_iso }
    set (put_record api exception_id updated)
    return updated
  | none => throw (.asoe_error "UPDATE_FAILED" message 500)

/-- The record that a handler holds after it updated the store: the live
object of the in-memory store, or the copy it read from the database. -/
def held (cfg : Config) (record updated : ChildCase) : ChildCase :=
  match cfg.store with
  | .memory => updated
  | .database => record

/-- `exception_store.log_audit_event(...)`: the database store swallows an
insert that fails. -/
def log_audit_event (cfg : Config) (env : StepEnv) (event : AuditEvent) (api : Api) : Api :=
  if cfg.store = .database ∧ env.audit_insert_ok = false then api
  else { api with audit_log := api.audit_log ++ [event] }

def store_trace (exception_id : String) (trace : TraceData) (api : Api) : Api :=
  { api with traces := dict.set api.traces exception_id trace }

/-- The children of a case. The database store looks through the newest
500 records of the tenant. -/
def list_by_case (cfg : Config) (api : Api) (tenant_id case_id : String) : List ChildCase :=
  let records := (api.records.map (·.2)).filter fun r => r.tenant_id = tenant_id
  match cfg.store with
  | .memory => records.filter fun r => r.parent_case_id = some case_id
  | .database => (records.reverse.take 500).filter fun r => r.parent_case_id = some case_id

/-- `case_store.update(case_id, status=..., closed_at=...)`. -/
def update_case_status (case_id : String) (case : OrderCase) (status : CaseStatus)
    (closed_at : Option String) : ApiM Unit := do
  require (¬ (status = .RESOLVED ∧ case.supergroup_code = some SG_NEEDS_TRIAGE))
    (.raised ⟨"NeedsTriageCloseBlocked", "Case " ++ case_id ++ " is in SG_NEEDS_TRIAGE and cannot "
      ++ "be RESOLVED without reclassification (requirements §8.2)."⟩)
  modify fun api =>
    let updated := { case with status := status, closed_at := closed_at }
    { api with cases := dict.set api.cases case_id updated }

/-- Roll the status of a case up from its children, and from one more that
is not stored yet. A case that waits for a cosign is left alone. -/
def recompute_case_status (cfg : Config) (env : StepEnv) (tenant_id case_id : String)
    (incoming : List LifecycleState) : ApiM Unit := do
  let api ← get
  match dict.get api.cases case_id with
  | none => pure ()
  | some case =>
    if case.pending_override.isSome then pure ()
    else
      let children := (list_by_case cfg api tenant_id case_id).map (·.lifecycle_state)
      match max_status ((children ++ incoming).map case_status_from_lifecycle) with
      | none => pure ()
      | some status =>
        if status = case.status then pure ()
        else if status ∈ TERMINAL_CASE_STATUSES then
          update_case_status case_id case status (some (case.closed_at.getD env.now_iso))
        else update_case_status case_id case status none

end asoe
