-- The HITL endpoints on exception records: disposition, cosign, escalate,
-- reanalyze, challenge and admin-release, with the idempotency cache and the
-- delivery ledger that they share.
import Asoe.Resolve

namespace asoe

open py prog

/-! ## Users and requests -/

structure AuthenticatedUser where
  sub : String
  roles : List String
  org : String
  permissions : List String
  deriving DecidableEq

structure DispositionRequest where
  action : String
  notes : String
  reason_tag : String
  corrections : Option PyDict := none
  reply : Option PyDict := none
  deriving DecidableEq

structure CosignRequest where
  approve : Bool
  notes : String
  deriving DecidableEq

structure EscalateRequest where
  reason : String
  to_role : Option String := none
  deriving DecidableEq

def ofDict? : Option PyDict → PyVal
  | some d => .dict d
  | none => .none

def DispositionRequest.model_dump (req : DispositionRequest) : PyDict :=
  [("action", .str req.action), ("notes", .str req.notes), ("reason_tag", .str req.reason_tag),
    ("corrections", ofDict? req.corrections), ("reply", ofDict? req.reply)]

def CosignRequest.model_dump (req : CosignRequest) : PyDict :=
  [("approve", .bool req.approve), ("notes", .str req.notes)]

def EscalateRequest.model_dump (req : EscalateRequest) : PyDict :=
  [("reason", .str req.reason), ("to_role", ofString? req.to_role)]

/-! ## Vocabularies of the disposition -/

def ALLOWED_RESOLUTION_ACTIONS : List String :=
  ["BLOCK_AND_NOTIFY", "MERGE", "SUPERSEDE", "ALLOW_BOTH", "ESCALATE",
    "REQUEST_BUYER_CONFIRMATION", "ONE_CLICK_APPROVE", "STANDARD_REVIEW", "LOW_CONFIDENCE_FLAG",
    "AUTO_CORRECT", "REQUEST_CLARIFICATION", "REJECT", "SUBMIT_TO_ERP", "DRAFT_REPLY",
    "SEND_REPLY"]

def GLOBAL_REASON_TAGS : List String :=
  ["customer_concession", "contract_stale", "data_error", "policy_exception",
    "agent_misclassification", "other"]

/-- The curated reason tags of an intent. -/
def INTENT_REASON_TAGS : Intent → Option (List String)
  | .DUPLICATE_PO => some ["INTENTIONAL_REORDER", "AMENDED_PO", "BLANKET_RELEASE",
      "SYSTEM_RETRY_VALID", "DIFFERENT_SHIP_TO", "CONFIRMED_DUPLICATE", "PARTIAL_OVERLAP", "OTHER"]
  | .CONTRACTUAL_CORRECTION => some ["CONTRACT_STALE_PRICE", "PROMO_WINDOW_EXPIRED",
      "SAP_MASTER_PRICE_ERROR", "CUSTOMER_CONCESSION_LOW", "CUSTOMER_CONCESSION_HIGH",
      "BAND_REVIEW_OVERRIDDEN", "OTHER"]
  | .CREDIT_BLOCK => some ["FINANCE_RELEASED_ONE_TIME", "CREDIT_LINE_ADJUSTED",
      "CUSTOMER_PREPAY_ARRANGED", "RISK_ACCEPTED_OPS", "OTHER"]
  | .MANUAL_ORDER_INTAKE => some ["EXTRACTION_LOW_CONFIDENCE", "FIELD_MISSING_BUYER_CLARIFIED",
      "FIELD_MISSING_BUYER_UNREACHABLE", "UNSUPPORTED_FORMAT", "MULTI_PO_SPLIT", "OTHER"]
  | .EDI_MISMATCH => some ["EDI_PARTNER_MAPPING_ERROR", "CUSTOMER_EDI_MISCONFIGURED",
      "SAP_MASTER_DIFF", "TOLERANCE_BAND_ACCEPTED", "RESUBMITTED_TO_PARTNER", "OTHER"]
  | .BACK_ORDER => some ["ALTERNATE_WAREHOUSE_APPROVED", "SUBSTITUTE_SKU_APPROVED",
      "CUSTOMER_ACCEPTS_DELAY", "PARTIAL_FULFILMENT_ACCEPTED", "CANCELLATION_ACCEPTED", "OTHER"]
  | .PRICE_HOLD_RELEASE => some ["OPERATIONS_AUTHORISED", "FINANCE_AUTHORISED",
      "CONTRACT_VERIFIED", "BULK_RELEASE_APPROVED", "OTHER"]
  | .OVER_MAX => some ["TRIM_APPLIED", "OVER_MAX_ALLOWED_CUSTOMER_REQUEST",
      "OVER_MAX_ALLOWED_SEASONAL", "CUSTOMER_MAX_STALE", "OTHER"]
  | .MIN_ORDER_QTY => some ["ROUND_UP_APPLIED", "PARTIAL_FULFILMENT_ACCEPTED",
      "CANCELLATION_ACCEPTED", "OPT_OUT_VIOLATION_ROUND_UP", "OTHER"]
  | .PALLET_CONFIG => some ["TIE_LAYER_OVERRIDDEN", "PALLET_HEIGHT_OVERRIDDEN",
      "FREIGHT_CLASS_OVERRIDDEN", "CASE_COUNT_OVERRIDDEN", "OTHER"]
  | .DELIVERY_DELAY => some ["CUSTOMER_ACCEPTS_NEW_DATE", "EXPEDITE_APPROVED",
      "CANCELLATION_ACCEPTED", "PARTIAL_SPLIT_SHIPMENT", "OTHER"]
  | .MASS_PRICING_ERROR => some ["BULK_DATA_ERROR_CONFIRMED", "BULK_PROMO_EXTENSION",
      "MASS_CONCESSION_HONOURED", "FALSE_POSITIVE", "OTHER"]
  | .UNKNOWN => none

def reason_tags_for (intent : Option Intent) : List String :=
  (intent.bind INTENT_REASON_TAGS).getD GLOBAL_REASON_TAGS

def is_valid_reason_tag_for_write (intent : Option Intent) (tag : String) : Bool :=
  tag ∈ reason_tags_for intent

/-! ## Guards -/

def require_role (user : AuthenticatedUser) (allowed : List String) : ApiM Unit :=
  require (∃ r ∈ user.roles, r ∈ allowed)
    (.asoe_error "FORBIDDEN" ("Requires one of roles: " ++ join ", " allowed ++ ".") 403)

def require_permission (user : AuthenticatedUser) (permission : String) : ApiM Unit :=
  require (permission ∈ user.permissions)
    (.asoe_error "FORBIDDEN" ("Requires one of permissions: " ++ permission ++ ".") 403)

def get_or_404 (exception_id tenant_id : String) : ApiM ChildCase := do
  let api ← get
  match get_record api exception_id tenant_id with
  | some record => return record
  | none => throw (.asoe_error "NOT_FOUND" ("Exception " ++ exception_id ++ " not found.") 404)

def require_state (record : ChildCase) (allowed : List LifecycleState) (action : String) :
    ApiM Unit :=
  require (record.lifecycle_state ∈ allowed)
    (.asoe_error "INVALID_STATE" ("Cannot " ++ action ++ ": exception is in state '"
      ++ record.lifecycle_state.value ++ "', expected one of: "
      ++ join ", " ((allowed.map (·.value)).mergeSort fun a b => a ≤ b) ++ ".") 409)

/-- `req.notes and req.notes.strip()`. -/
def has_notes (notes : String) : Bool := strip notes != ""

def require_notes (notes message : String) : ApiM Unit :=
  require (has_notes notes = true) (.asoe_error "NOTES_REQUIRED" message 422)

def SOX_NOTES : String := "Notes are required (SOX audit trail)."

def reaggregate_parent_case (cfg : Config) (env : StepEnv) (tenant_id : String)
    (record : ChildCase) : ApiM Unit :=
  match record.parent_case_id with
  | some case_id => if case_id = "" then pure () else
      recompute_case_status cfg env tenant_id case_id []
  | none => pure ()

/-- Count an operator who overrides a downgrade of the second Shadow. -/
def record_reviewer_override_of_llm_downgrade (exception_id : String) (api : Api) : Api :=
  match dict.get api.traces exception_id with
  | some trace =>
    if trace.llm_shadow_verdict_action = some "DISAGREE_DOWNGRADE" then
      { api with llm_downgrade_overrides := api.llm_downgrade_overrides + 1 }
    else api
  | none => api

/-! ## The idempotency cache -/

def IDEMPOTENCY_TTL_SECONDS : ℚ := 24 * 60 * 60

def is_key_char (c : Char) : Bool := c.isAlphanum || c = '_' || c = '-'

def is_idempotency_key (key : String) : Bool :=
  1 ≤ key.length && key.length ≤ 128 && key.toList.all is_key_char

def validate_idempotency_key (key : Option String) : ApiM Unit :=
  require (∀ k ∈ key, is_idempotency_key k = true)
    (.asoe_error "INVALID_IDEMPOTENCY_KEY"
      "Idempotency-Key must be 1-128 chars of [A-Za-z0-9_-]." 422)

/-- The cached answer under a key. An entry that is past its time is
evicted; another body under the same key is a conflict. -/
def idempotency_lookup (env : StepEnv) (cache_key : CacheKey) (request_body : PyDict) :
    ApiM (Option ExceptionDetailResponse) := do
  let api ← get
  match dict.get api.idempotency_cache cache_key with
  | none => return none
  | some entry =>
    if IDEMPOTENCY_TTL_SECONDS < env.now - entry.created_at then
      set { api with idempotency_cache := dict.pop api.idempotency_cache cache_key }
      return none
    else
      require (PyVal.eq (.dict entry.request_body) (.dict request_body) = true)
        (.asoe_error "IDEMPOTENCY_CONFLICT"
          "Idempotency-Key reused with a different request body." 409)
      return some entry.response

def idempotency_store (env : StepEnv) (cache_key : CacheKey) (request_body : PyDict)
    (response : ExceptionDetailResponse) (api : Api) : Api :=
  { api with
    idempotency_cache :=
      dict.set api.idempotency_cache cache_key ⟨env.now, request_body, response⟩ }

/-- Answer a request under its idempotency key: from the cache when it is
there, else from the handler, whose answer is then cached. -/
def with_idempotency (env : StepEnv) (user : AuthenticatedUser) (exception_id : String)
    (key : Option String) (request_body : PyDict) (handler : ApiM ExceptionDetailResponse) :
    ApiM ExceptionDetailResponse := do
  validate_idempotency_key key
  match key with
  | none => handler
  | some k =>
    let cache_key : CacheKey := (user.org, exception_id, user.sub, k)
    match ← idempotency_lookup env cache_key request_body with
    | some cached => return cached
    | none =>
      let response ← handler
      modify (idempotency_store env cache_key request_body response)
      return response

/-! ## Materiality -/

/-- The first of the impact figures that is a number. -/
def first_number (data : PyDict) : List String → Except PyErr (Option PyFloat)
  | [] => .ok none
  | key :: keys => do
    match ← (PyVal.ofOption (dict.get data key)).numberAsFloat? with
    | some x => return some x
    | none => first_number data keys

def financial_impact_usd (record : ChildCase) : Except PyErr (Option PyFloat) :=
  first_number record.resolution_data.outputs
    ["financial_impact_usd", "financial_impact", "impact_usd"]

/-- The figure that gates the second reviewer: the order value that SAP
gave, else the impact that the recipe wrote. -/
def cosign_materiality_usd (record : ChildCase) : Except PyErr (Option PyFloat) :=
  match dict.get record.enrichment_context "sap_data" with
  | some (.dict sap) => do
    match ← (PyVal.ofOption (dict.get sap "order_value_usd")).numberAsFloat? with
    | some x => return some x
    | none => financial_impact_usd record
  | _ => financial_impact_usd record

/-- `materiality is not None and materiality >= HIGH_VALUE_OVERRIDE_THRESHOLD_USD`. -/
def is_high_value : Option PyFloat → Bool
  | some x => HIGH_VALUE_OVERRIDE_THRESHOLD_USD.le x
  | none => false

/-! ## Directed graph re-entry -/

/-- The state of a run whose recipe is named, not proposed. -/
def directed_state (tenant_id : String) (record : ChildCase) (recipe : RecipeName)
    (corrections : PyDict) (event : OrderEvent) : GraphState :=
  { event := event, tenant_id := some tenant_id, enrichment_context := record.enrichment_context,
    directed_recipe := some recipe, directed_corrections := corrections }

def run_directed (env : RunEnv) (exception_id tenant_id : String) (record : ChildCase)
    (recipe : RecipeName) (corrections : PyDict) : ApiM GraphState :=
  match record.original_event with
  | none => throw (.raised ⟨"ValidationError", "validation errors for OrderEvent"⟩)
  | some event =>
    run_graph_safe env (some exception_id)
      (directed_state tenant_id record recipe corrections event)

def run_erp_submit (env : RunEnv) (exception_id tenant_id : String) (record : ChildCase)
    (corrections : Option PyDict) : ApiM GraphState :=
  run_directed env exception_id tenant_id record .SubmitToErpRecipe (corrections.getD [])

def run_reply_draft (env : RunEnv) (exception_id tenant_id : String) (record : ChildCase)
    (reply_params : PyDict) : ApiM GraphState :=
  run_directed env exception_id tenant_id record .ReplyDraftRecipe reply_params

/-! ## Submit to ERP -/

def ofLifecycle (s : LifecycleState) : PyVal := .str s.value

def output_of (state : GraphState) (key : String) : PyVal :=
  .ofOption (dict.get state.outputs key)

/-- The document number of the first successful `erp` effect. -/
def sap_doc_number_of (result : GraphState) : PyVal :=
  match result.effect_results.find? fun er => er.gateway_name = "erp" ∧ er.status = .SUCCESS with
  | some er => .ofOption (dict.get er.data "sap_doc_number")
  | none => .none

def erp_submission_record (env : StepEnv) (result : GraphState) (submitted_by : String) :
    ErpSubmission :=
  { status := output_of result "status"
    reason := output_of result "reason"
    erp_payload := output_of result "erp_payload"
    sap_doc_number := sap_doc_number_of result
    corrections_applied := (dict.get result.outputs "corrections_applied").getD (.list [])
    submitted_by := submitted_by
    submitted_at := env.now_iso }

/-- The record after a submit run: resolved when the recipe reported
success, else only the submission is noted. The pending override goes either
way. -/
def submitted_record (submission : ErpSubmission) (user_sub notes : String)
    (extra_resolution : Option CosignMeta) (record : ChildCase) : ChildCase :=
  let merged := { record.resolution_data with
    pending_override := none
    erp_submission := some submission
    cosign := extra_resolution.or record.resolution_data.cosign }
  if submission.status = .str "SUCCESS" then
    { record with
      lifecycle_state := .RESOLVED
      final_status := some .COMPLETE
      resolved_by := some user_sub
      resolved_action := some "SUBMIT_TO_ERP"
      resolution_notes := some notes
      resolution_data := merged }
  else { record with resolution_data := merged }

/-- `record` is the object that the handler holds when it writes the event. -/
def erp_submit_event (exception_id tenant_id user_sub changed_notes : String)
    (submission : ErpSubmission) (record : ChildCase) : AuditEvent :=
  let success := decide (submission.status = .str "SUCCESS")
  { tenant_id := tenant_id
    policy_key := if success then "EXCEPTION_ERP_SUBMITTED" else "EXCEPTION_ERP_SUBMIT_REJECTED"
    previous_value := [("lifecycle_state", ofLifecycle record.lifecycle_state),
      ("exception_id", .str exception_id)]
    new_value := [
      ("lifecycle_state", ofLifecycle (if success then .RESOLVED else record.lifecycle_state)),
      ("resolved_action", .str "SUBMIT_TO_ERP"), ("erp_status", submission.status),
      ("sap_doc_number", submission.sap_doc_number),
      ("corrections_applied", submission.corrections_applied), ("submitted_by", .str user_sub)]
    changed_by := user_sub
    change_reason := changed_notes }

def persist_erp_submit (cfg : Config) (env : StepEnv) (exception_id tenant_id : String)
    (record : ChildCase) (result : GraphState) (user_sub changed_notes : String)
    (extra_resolution : Option CosignMeta) : ApiM ChildCase := do
  let submission := erp_submission_record env result user_sub
  let updated ← update_record env exception_id tenant_id "Failed to persist ERP submit."
    (submitted_record submission user_sub changed_notes extra_resolution)
  modify (log_audit_event cfg env (erp_submit_event exception_id tenant_id user_sub changed_notes
    submission (held cfg record updated)))
  return updated

/-- A parked record: it waits for a second reviewer on `pending`. -/
def parked_record (pending : PendingOverride) (record : ChildCase) : ChildCase :=
  { record with
    lifecycle_state := .PENDING_COSIGN
    resolution_data := { record.resolution_data with pending_override := some pending } }

def pending_submit (env : StepEnv) (user : AuthenticatedUser) (record : ChildCase)
    (req : DispositionRequest) (materiality : PyFloat) : PendingOverride :=
  { action := "SUBMIT_TO_ERP", notes := req.notes, reason_tag := req.reason_tag,
    corrections := some (req.corrections.getD []), initiator := user.sub,
    initiated_at := env.now_iso, financial_impact_usd := materiality,
    from_lifecycle_state := record.lifecycle_state }

/-- `record` is the object that the handler holds when it writes the event. -/
def submit_staged_event (user : AuthenticatedUser) (exception_id notes : String)
    (materiality : PyFloat) (record : ChildCase) : AuditEvent :=
  { tenant_id := user.org
    policy_key := "EXCEPTION_ERP_SUBMIT_INITIATED"
    previous_value := [("lifecycle_state", ofLifecycle record.lifecycle_state),
      ("exception_id", .str exception_id)]
    new_value := [("lifecycle_state", ofLifecycle .PENDING_COSIGN),
      ("pending_action", .str "SUBMIT_TO_ERP"), ("financial_impact_usd", .float materiality),
      ("initiator", .str user.sub)]
    changed_by := user.sub
    change_reason := notes }

/-- Park the submit for a second reviewer. -/
def stage_erp_submit (cfg : Config) (env : StepEnv) (user : AuthenticatedUser)
    (exception_id : String) (record : ChildCase) (req : DispositionRequest)
    (materiality : PyFloat) : ApiM ChildCase := do
  let updated ← update_record env exception_id user.org "Failed to stage pending submit."
    (parked_record (pending_submit env user record req materiality))
  modify (log_audit_event cfg env
    (submit_staged_event user exception_id req.notes materiality (held cfg record updated)))
  return updated

/-- The guards that the three order-entry dispositions share. -/
def require_order_entry (record : ChildCase) (req : DispositionRequest)
    (code applies no_order action : String) : ApiM Unit := do
  require_notes req.notes SOX_NOTES
  require (record.intent = some .MANUAL_ORDER_INTAKE)
    (.asoe_error code
      (applies ++ " applies only to order-entry (MANUAL_ORDER_INTAKE) records.") 409)
  require ((PyVal.ofOption
      (dict.get record.enrichment_context "order_entry_extraction")).truthy = true)
    (.asoe_error "NO_EXTRACTED_ORDER" ("Record carries no extracted order to " ++ no_order ++ ".")
      409)
  require_state record HITL_DISPOSITION_STATES action

def disposition_erp_submit (cfg : Config) (env : StepEnv) (user : AuthenticatedUser)
    (exception_id : String) (record : ChildCase) (req : DispositionRequest) :
    ApiM ExceptionDetailResponse := do
  require_order_entry record req "NOT_SUBMITTABLE" "SUBMIT_TO_ERP" "submit" "submit_to_erp"
  let materiality ← lift_py (cosign_materiality_usd record)
  if is_high_value materiality then
    let updated ← stage_erp_submit cfg env user exception_id record req
      (materiality.getD (.fin 0))
    return updated.to_detail
  else
    let result ← run_erp_submit env.first_run exception_id user.org record req.corrections
    let updated ← persist_erp_submit cfg env exception_id user.org record result user.sub
      req.notes none
    return updated.to_detail

/-! ## Draft reply -/

def REPLY_DRAFT_AI_AUTHOR : String := "ai:ReplyDraftRecipe.py"

def draft_of (result : GraphState) : PyDict :=
  match output_of result "draft" with
  | .dict d => d
  | _ => []

def draft_get (draft : PyDict) (key : String) : PyVal := .ofOption (dict.get draft key)

/-- The changed fields between the previous revision and a draft. -/
def diff_reply_fields (prev : Option ReplyRevision) (curr : PyDict) : List PyVal :=
  match prev with
  | none => []
  | some rev =>
    [("subject", rev.subject), ("body", rev.body)].filterMap fun f =>
      let after := draft_get curr f.1
      if f.2.eq after then none
      else some (.dict [("field", .str f.1), ("before", f.2), ("after", after)])

/-- The revision chain after one more compose. A rejected compose, and one
that changes no field, leave it as it is. -/
def append_reply_revision (prior : List ReplyRevision) (draft : PyDict) (status : PyVal)
    (user_sub now : String) : List ReplyRevision :=
  if status ≠ .str "DRAFTED" then prior
  else
    let prev_rev := prior.getLast?
    let edits := diff_reply_fields prev_rev draft
    if prev_rev.isSome ∧ edits = [] then prior
    else prior ++ [
      { version := (prev_rev.map (·.version + 1)).getD 1
        subject := draft_get draft "subject"
        body := draft_get draft "body"
        edits_applied := edits
        author := if prev_rev.isNone then REPLY_DRAFT_AI_AUTHOR else user_sub
        authored_at := now
        source := if prev_rev.isNone then "AI_GENERATED" else "OPERATOR_EDIT" }]

def ofNat? : Option ℕ → PyVal
  | some n => .int n
  | none => .none

def reply_draft_entry (env : StepEnv) (record : ChildCase) (result : GraphState)
    (user_sub : String) : ReplyDraftEntry :=
  let status := output_of result "status"
  let draft := draft_of result
  let prior := (record.resolution_data.reply_draft.map (·.revisions)).getD []
  let revisions := append_reply_revision prior draft status user_sub env.now_iso
  { status := status
    reason := output_of result "reason"
    draft := draft
    edits_applied :=
      match revisions.getLast? with
      | some rev =>
        if rev.source = "OPERATOR_EDIT" then .list rev.edits_applied
        else (dict.get result.outputs "edits_applied").getD (.list [])
      | none => (dict.get result.outputs "edits_applied").getD (.list [])
    drafted_by := user_sub
    drafted_at := env.now_iso
    revisions := revisions }

/-- The audit key of a draft: edited, drafted or rejected. -/
def reply_draft_policy_key (entry : ReplyDraftEntry) : String :=
  if (entry.revisions.getLast?.map (·.source)) = some "OPERATOR_EDIT" then
    "EXCEPTION_REPLY_EDITED"
  else if entry.status = .str "DRAFTED" then "EXCEPTION_REPLY_DRAFTED"
  else "EXCEPTION_REPLY_DRAFT_REJECTED"

def drafted_record (entry : ReplyDraftEntry) (record : ChildCase) : ChildCase :=
  { record with resolution_data := { record.resolution_data with reply_draft := some entry } }

def reply_draft_event (exception_id tenant_id user_sub notes : String) (entry : ReplyDraftEntry) :
    AuditEvent :=
  { tenant_id := tenant_id
    policy_key := reply_draft_policy_key entry
    previous_value := [("exception_id", .str exception_id)]
    new_value := [("reply_status", entry.status),
      ("template_name", draft_get entry.draft "template_name"),
      ("recipient", draft_get entry.draft "recipient"), ("edits_applied", entry.edits_applied),
      ("drafted_by", .str user_sub),
      ("revision_version", ofNat? (entry.revisions.getLast?.map (·.version))),
      ("revision_source", ofString? (entry.revisions.getLast?.map (·.source)))]
    changed_by := user_sub
    change_reason := notes }

def persist_reply_draft (cfg : Config) (env : StepEnv) (exception_id tenant_id : String)
    (record : ChildCase) (result : GraphState) (user_sub notes : String) : ApiM ChildCase := do
  let entry := reply_draft_entry env record result user_sub
  let updated ← update_record env exception_id tenant_id "Failed to persist reply draft."
    (drafted_record entry)
  modify (log_audit_event cfg env
    (reply_draft_event exception_id tenant_id user_sub notes entry))
  return updated

def disposition_draft_reply (cfg : Config) (env : StepEnv) (user : AuthenticatedUser)
    (exception_id : String) (record : ChildCase) (req : DispositionRequest) :
    ApiM ExceptionDetailResponse := do
  require_order_entry record req "NOT_DRAFTABLE" "DRAFT_REPLY" "reply about" "draft_reply"
  let result ← run_reply_draft env.first_run exception_id user.org record (req.reply.getD [])
  let updated ← persist_reply_draft cfg env exception_id user.org record result user.sub req.notes
  return updated.to_detail

/-! ## Send reply -/

/-- `(v or "")`, used where only a string has the method that is called. -/
def text_of (attr : String) (v : PyVal) : Except PyErr String :=
  match v with
  | .str s => .ok s
  | v =>
    if v.truthy then
      .error ⟨"AttributeError", "'" ++ type_name v ++ "' object has no attribute '" ++ attr ++ "'"⟩
    else .ok ""

/-- The text that stands for one delivery: the record, the recipient up to
case and outer spaces, the subject and the body. -/
def reply_delivery_raw (cfg : Config) (exception_id : String) (draft : PyDict) :
    Except PyErr String := do
  let recipient ← text_of "strip" (draft_get draft "recipient")
  let subject ← text_of "join" (draft_get draft "subject")
  let body ← text_of "join" (draft_get draft "body")
  return join "\x1f" [exception_id, cfg.lower (strip recipient), subject, body]

def reply_delivery_key (cfg : Config) (exception_id : String) (draft : PyDict) :
    Except PyErr String := do
  let raw ← reply_delivery_raw cfg exception_id draft
  return cfg.sha256 raw

def delivery_seen (api : Api) (tenant_id delivery_key : String) : Option ReplySentEntry :=
  dict.get api.delivery_dedup (tenant_id, delivery_key)

def delivery_record (tenant_id delivery_key : String) (entry : ReplySentEntry) (api : Api) : Api :=
  { api with delivery_dedup := dict.set api.delivery_dedup (tenant_id, delivery_key) entry }

/-- A send that the gateway took and delivered. -/
def GatewayResponse.isDelivered (response : GatewayResponse) : Bool :=
  response.status = .SUCCESS && (PyVal.ofOption (dict.get response.data "delivered")).truthy

/-- The first answer of the send gateway in a run. -/
def send_response_of (result : GraphState) : Option GatewayResponse :=
  result.effect_results.find? fun er =>
    er.gateway_name = "buyer_notification" ∧ er.operation = "send"

def reply_sent_ok (result : GraphState) : Bool :=
  output_of result "status" = .str "READY_TO_SEND" &&
    ((send_response_of result).map (·.isDelivered)).getD false

def reply_sent_entry (env : StepEnv) (result : GraphState) (delivery_key user_sub : String) :
    ReplySentEntry :=
  let gw_status := (send_response_of result).map (·.status)
  let sent_ok := reply_sent_ok result
  { status := if sent_ok then "SENT" else "FAILED"
    reason := if sent_ok then .none
      else (output_of result "reason").or ((ofString? (gw_status.map (·.value))).or
        (.str "Send did not complete."))
    recipient := draft_get (draft_of result) "recipient"
    subject := draft_get (draft_of result) "subject"
    gateway_status := gw_status
    delivered := ((send_response_of result).map (·.isDelivered)).getD false
    delivery_key := delivery_key
    sent_by := user_sub
    sent_at := env.now_iso }

def sent_record (entry : ReplySentEntry) (record : ChildCase) : ChildCase :=
  { record with resolution_data := { record.resolution_data with reply_sent := some entry } }

def reply_sent_event (exception_id tenant_id user_sub notes : String) (sent_ok : Bool)
    (entry : ReplySentEntry) : AuditEvent :=
  { tenant_id := tenant_id
    policy_key := if sent_ok then "EXCEPTION_REPLY_SENT" else "EXCEPTION_REPLY_SEND_FAILED"
    previous_value := [("exception_id", .str exception_id)]
    new_value := [("reply_status", .str entry.status), ("recipient", entry.recipient),
      ("gateway_status", ofString? (entry.gateway_status.map (·.value))),
      ("sent_by", .str user_sub)]
    changed_by := user_sub
    change_reason := notes }

def persist_reply_sent (cfg : Config) (env : StepEnv) (exception_id tenant_id : String)
    (result : GraphState) (user_sub notes : String) : ApiM ChildCase := do
  let delivery_key ← lift_py (reply_delivery_key cfg exception_id (draft_of result))
  let entry := reply_sent_entry env result delivery_key user_sub
  let sent_ok := reply_sent_ok result
  modify fun api => if sent_ok then delivery_record tenant_id delivery_key entry api else api
  let updated ← update_record env exception_id tenant_id "Failed to persist reply send."
    (sent_record entry)
  modify (log_audit_event cfg env
    (reply_sent_event exception_id tenant_id user_sub notes sent_ok entry))
  return updated

/-- The key of a reply that the preview composed, when it composed one. -/
def preview_key (cfg : Config) (exception_id : String) (preview : GraphState) :
    Except PyErr (Option String) :=
  if output_of preview "status" = .str "DRAFTED"
      ∧ (draft_get (draft_of preview) "recipient").truthy = true then do
    let dkey ← reply_delivery_key cfg exception_id (draft_of preview)
    return some dkey
  else .ok none

def reply_deduped_event (user : AuthenticatedUser) (exception_id notes : String)
    (preview : GraphState) (dkey : String) : AuditEvent :=
  { tenant_id := user.org
    policy_key := "EXCEPTION_REPLY_SEND_DEDUPED"
    previous_value := [("exception_id", .str exception_id)]
    new_value := [("recipient", draft_get (draft_of preview) "recipient"),
      ("delivery_key", .str dkey)]
    changed_by := user.sub
    change_reason := notes }

/-- A reply that the ledger has seen: only an audit event is written. -/
def dedupe_reply (cfg : Config) (env : StepEnv) (user : AuthenticatedUser) (exception_id : String)
    (record : ChildCase) (req : DispositionRequest) (preview : GraphState) (dkey : String) :
    ApiM ExceptionDetailResponse := do
  modify (log_audit_event cfg env
    (reply_deduped_event user exception_id req.notes preview dkey))
  let api ← get
  return ((get_record api exception_id user.org).getD record).to_detail

/-- Send, and note whether the reply was delivered. -/
def send_reply (cfg : Config) (env : StepEnv) (user : AuthenticatedUser) (exception_id : String)
    (record : ChildCase) (req : DispositionRequest) : ApiM ExceptionDetailResponse := do
  let result ← run_reply_draft env.second_run exception_id user.org record
    (dict.set (req.reply.getD []) "mode" (.str "send"))
  let updated ← persist_reply_sent cfg env exception_id user.org result user.sub req.notes
  return updated.to_detail

def disposition_send_reply (cfg : Config) (env : StepEnv) (user : AuthenticatedUser)
    (exception_id : String) (record : ChildCase) (req : DispositionRequest) :
    ApiM ExceptionDetailResponse := do
  require_order_entry record req "NOT_SENDABLE" "SEND_REPLY" "reply about" "send_reply"
  let preview ← run_reply_draft env.first_run exception_id user.org record (req.reply.getD [])
  let dkey ← lift_py (preview_key cfg exception_id preview)
  let api ← get
  match dkey.filter fun k => (delivery_seen api user.org k).isSome with
  | some k => dedupe_reply cfg env user exception_id record req preview k
  | none => send_reply cfg env user exception_id record req

/-! ## Approve, reject, override -/

inductive SubType where
  | APPROVE | REJECT | OVERRIDE
  deriving DecidableEq

def SubType.value : SubType → String
  | APPROVE => "APPROVE"
  | REJECT => "REJECT"
  | OVERRIDE => "OVERRIDE"

def SubType.lower : SubType → String
  | APPROVE => "approve"
  | REJECT => "reject"
  | OVERRIDE => "override"

def recommended_action_of (record : ChildCase) : Option String :=
  match dict.get record.resolution_data.outputs "recommended_action" with
  | some (.str s) => some s
  | _ => none

def sub_type_of (record : ChildCase) (action : String) : SubType :=
  if action = "NO_ACTION" then .REJECT
  else if recommended_action_of record = some action then .APPROVE
  else .OVERRIDE

/-- The snapshot that the disposition audits, taken before any update. -/
def prior_snapshot (exception_id : String) (record : ChildCase) : PyDict :=
  [("lifecycle_state", ofLifecycle record.lifecycle_state),
    ("shadow_verdict", ofString? (record.shadow_verdict.map (·.value))),
    ("recommended_action", ofString? (recommended_action_of record)),
    ("exception_id", .str exception_id)]

def pending_override_of (env : StepEnv) (user : AuthenticatedUser) (record : ChildCase)
    (req : DispositionRequest) (impact : PyFloat) : PendingOverride :=
  { action := req.action, notes := req.notes, reason_tag := req.reason_tag, corrections := none,
    initiator := user.sub, initiated_at := env.now_iso, financial_impact_usd := impact,
    from_lifecycle_state := record.lifecycle_state }

def override_staged_event (user : AuthenticatedUser) (exception_id : String) (record : ChildCase)
    (req : DispositionRequest) (impact : PyFloat) : AuditEvent :=
  { tenant_id := user.org
    policy_key := "EXCEPTION_OVERRIDE_INITIATED"
    previous_value := prior_snapshot exception_id record
    new_value := [("lifecycle_state", ofLifecycle .PENDING_COSIGN),
      ("pending_action", .str req.action), ("reason_tag", .str req.reason_tag),
      ("financial_impact_usd", .float impact), ("initiated_via", .str "disposition")]
    changed_by := user.sub
    change_reason := req.notes }

/-- Park a high-value override for a second reviewer. -/
def stage_override (cfg : Config) (env : StepEnv) (user : AuthenticatedUser)
    (exception_id : String) (record : ChildCase) (req : DispositionRequest) (impact : PyFloat) :
    ApiM ExceptionDetailResponse := do
  let updated ← update_record env exception_id user.org "Failed to stage pending override."
    (parked_record (pending_override_of env user record req impact))
  modify (log_audit_event cfg env (override_staged_event user exception_id record req impact))
  return updated.to_detail

def SubType.lifecycle (sub_type : SubType) : LifecycleState :=
  if sub_type = .REJECT then .REJECTED else .RESOLVED

def disposed_record (user : AuthenticatedUser) (req : DispositionRequest) (sub_type : SubType)
    (record : ChildCase) : ChildCase :=
  { record with
    resolved_by := some user.sub
    resolved_action := some req.action
    resolution_notes := some req.notes
    lifecycle_state := sub_type.lifecycle
    final_status := some (if sub_type.lifecycle = .RESOLVED then .COMPLETE else .REJECTED) }

def disposed_event (user : AuthenticatedUser) (exception_id : String) (record : ChildCase)
    (req : DispositionRequest) (sub_type : SubType) : AuditEvent :=
  { tenant_id := user.org
    policy_key := "EXCEPTION_RESOLVED"
    previous_value := prior_snapshot exception_id record
    new_value := [("sub_type", .str sub_type.value), ("resolved_action", .str req.action),
      ("lifecycle_state", ofLifecycle sub_type.lifecycle), ("reason_tag", .str req.reason_tag),
      ("initiated_via", .str "disposition")]
    changed_by := user.sub
    change_reason := req.notes }

/-- Apply the chosen action at once. -/
def apply_disposition (cfg : Config) (env : StepEnv) (user : AuthenticatedUser)
    (exception_id : String) (record : ChildCase) (req : DispositionRequest) (sub_type : SubType) :
    ApiM ExceptionDetailResponse := do
  let updated ← update_record env exception_id user.org "Failed to update exception."
    (disposed_record user req sub_type)
  modify (log_audit_event cfg env (disposed_event user exception_id record req sub_type))
  modify fun api =>
    if sub_type = .OVERRIDE then record_reviewer_override_of_llm_downgrade exception_id api else api
  reaggregate_parent_case cfg env user.org updated
  return updated.to_detail

/-- An override: another permission, another set of states, and a second
reviewer from the threshold on. -/
def override_exception (cfg : Config) (env : StepEnv) (user : AuthenticatedUser)
    (exception_id : String) (record : ChildCase) (req : DispositionRequest) :
    ApiM ExceptionDetailResponse := do
  require ("exceptions:override" ∈ user.permissions)
    (.asoe_error "PERMISSION_DENIED" ("This disposition differs from the recommended action and "
      ++ "requires the exceptions:override permission.") 403)
  require (record.shadow_verdict.isSome = true)
    (.asoe_error "INVALID_VERDICT"
      "Cannot override: shadow_verdict='None' has no overridable agent decision." 409)
  require_state record HITL_OVERRIDE_STATES "override"
  let impact ← lift_py (cosign_materiality_usd record)
  if is_high_value impact then
    stage_override cfg env user exception_id record req (impact.getD (.fin 0))
  else apply_disposition cfg env user exception_id record req .OVERRIDE

def dispose_agent_action (cfg : Config) (env : StepEnv) (user : AuthenticatedUser)
    (exception_id : String) (record : ChildCase) (req : DispositionRequest) :
    ApiM ExceptionDetailResponse := do
  require (is_valid_reason_tag_for_write record.intent req.reason_tag = true)
    (.asoe_error "INVALID_REASON_TAG" ("reason_tag '" ++ req.reason_tag ++ "' is not allowed"
      ++ (match record.intent with
          | some intent =>
            if (INTENT_REASON_TAGS intent).isSome then " for intent '" ++ intent.value ++ "'" else ""
          | none => "")
      ++ ". Valid: " ++ (PyVal.list ((reason_tags_for record.intent).map .str)).repr) 422)
  require_notes req.notes SOX_NOTES
  let sub_type := sub_type_of record req.action
  if sub_type = .OVERRIDE then override_exception cfg env user exception_id record req
  else do
    require_state record HITL_DISPOSITION_STATES sub_type.lower
    apply_disposition cfg env user exception_id record req sub_type

/-- The disposition of one action, without the idempotency cache. -/
def dispose (cfg : Config) (env : StepEnv) (user : AuthenticatedUser) (exception_id : String)
    (record : ChildCase) (req : DispositionRequest) : ApiM ExceptionDetailResponse := do
  require (req.action = "NO_ACTION" ∨ req.action ∈ ALLOWED_RESOLUTION_ACTIONS)
    (.asoe_error "INVALID_ACTION" ("Action '" ++ req.action ++ "' is not allowed. Valid: "
      ++ (PyVal.list ((ALLOWED_RESOLUTION_ACTIONS ++ ["NO_ACTION"]).map .str)).repr) 422)
  if req.action = "SUBMIT_TO_ERP" then
    disposition_erp_submit cfg env user exception_id record req
  else if req.action = "DRAFT_REPLY" then
    disposition_draft_reply cfg env user exception_id record req
  else if req.action = "SEND_REPLY" then
    disposition_send_reply cfg env user exception_id record req
  else dispose_agent_action cfg env user exception_id record req

def disposition_exception (cfg : Config) (env : StepEnv) (user : AuthenticatedUser)
    (exception_id : String) (key : Option String) (req : DispositionRequest) :
    ApiM ExceptionDetailResponse := do
  require_permission user "exceptions:approve"
  let record ← get_or_404 exception_id user.org
  with_idempotency env user exception_id key req.model_dump
    (dispose cfg env user exception_id record req)

/-! ## Cosign -/

def cosign_meta (env : StepEnv) (user : AuthenticatedUser) (req : CosignRequest)
    (pending : PendingOverride) : CosignMeta :=
  { cosigned_by := user.sub, cosigned_at := env.now_iso, cosign_notes := req.notes,
    initiator := pending.initiator, initiated_at := pending.initiated_at }

/-- The snapshot that the cosign audits, taken before any update. -/
def cosign_snapshot (exception_id : String) (record : ChildCase) (pending : PendingOverride) :
    PyDict :=
  [("lifecycle_state", ofLifecycle record.lifecycle_state),
    ("pending_action", .str pending.action), ("pending_reason_tag", .str pending.reason_tag),
    ("initiator", .str pending.initiator), ("exception_id", .str exception_id)]

/-- The parked submit runs now. -/
def cosign_erp_submit (cfg : Config) (env : StepEnv) (user : AuthenticatedUser)
    (exception_id : String) (record : ChildCase) (req : CosignRequest)
    (pending : PendingOverride) : ApiM ExceptionDetailResponse := do
  let result ← run_erp_submit env.first_run exception_id user.org record pending.corrections
  let updated ← persist_erp_submit cfg env exception_id user.org record result pending.initiator
    req.notes (some (cosign_meta env user req pending))
  return updated.to_detail

def cosigned_record (env : StepEnv) (user : AuthenticatedUser) (req : CosignRequest)
    (pending : PendingOverride) (record : ChildCase) : ChildCase :=
  { record with
    resolved_by := some pending.initiator
    resolved_action := some pending.action
    resolution_notes := some pending.notes
    lifecycle_state := .RESOLVED
    final_status := some .COMPLETE
    resolution_data := { record.resolution_data with
      pending_override := none
      cosign := some (cosign_meta env user req pending) } }

def cosigned_event (user : AuthenticatedUser) (exception_id : String) (record : ChildCase)
    (req : CosignRequest) (pending : PendingOverride) : AuditEvent :=
  { tenant_id := user.org
    policy_key := "EXCEPTION_OVERRIDE_COSIGNED"
    previous_value := cosign_snapshot exception_id record pending
    new_value := [("lifecycle_state", ofLifecycle .RESOLVED),
      ("resolved_action", .str pending.action), ("reason_tag", .str pending.reason_tag),
      ("initiator", .str pending.initiator), ("cosigned_by", .str user.sub)]
    changed_by := user.sub
    change_reason := req.notes }

/-- The parked override is applied now. -/
def cosign_approve (cfg : Config) (env : StepEnv) (user : AuthenticatedUser)
    (exception_id : String) (record : ChildCase) (req : CosignRequest)
    (pending : PendingOverride) : ApiM ExceptionDetailResponse := do
  let updated ← update_record env exception_id user.org "Failed to apply override."
    (cosigned_record env user req pending)
  modify (log_audit_event cfg env (cosigned_event user exception_id record req pending))
  modify (record_reviewer_override_of_llm_downgrade exception_id)
  reaggregate_parent_case cfg env user.org updated
  return updated.to_detail

def cosign_rejected_record (env : StepEnv) (user : AuthenticatedUser) (req : CosignRequest)
    (pending : PendingOverride) (record : ChildCase) : ChildCase :=
  let rejection : CosignRejection :=
    { rejected_by := user.sub, rejected_at := env.now_iso, rejection_notes := req.notes,
      initiator := pending.initiator }
  { record with
    lifecycle_state := pending.from_lifecycle_state
    resolution_data := { record.resolution_data with
      pending_override := none, cosign_rejection := some rejection } }

def cosign_rejected_event (user : AuthenticatedUser) (exception_id : String) (record : ChildCase)
    (req : CosignRequest) (pending : PendingOverride) : AuditEvent :=
  { tenant_id := user.org
    policy_key := "EXCEPTION_OVERRIDE_REJECTED"
    previous_value := cosign_snapshot exception_id record pending
    new_value := [("lifecycle_state", ofLifecycle pending.from_lifecycle_state),
      ("initiator", .str pending.initiator), ("rejected_by", .str user.sub)]
    changed_by := user.sub
    change_reason := req.notes }

/-- The parked override is dropped, and the record goes back. -/
def cosign_reject (cfg : Config) (env : StepEnv) (user : AuthenticatedUser)
    (exception_id : String) (record : ChildCase) (req : CosignRequest)
    (pending : PendingOverride) : ApiM ExceptionDetailResponse := do
  let updated ← update_record env exception_id user.org "Failed to reject override."
    (cosign_rejected_record env user req pending)
  modify (log_audit_event cfg env (cosign_rejected_event user exception_id record req pending))
  reaggregate_parent_case cfg env user.org updated
  return updated.to_detail

/-- The second reviewer's decision, without the idempotency cache. -/
def cosign (cfg : Config) (env : StepEnv) (user : AuthenticatedUser) (exception_id : String)
    (record : ChildCase) (req : CosignRequest) : ApiM ExceptionDetailResponse := do
  require_state record COSIGN_ELIGIBLE_STATES "override/cosign"
  match record.resolution_data.pending_override with
  | none => throw (.asoe_error "NO_PENDING_OVERRIDE"
      "Record is in PENDING_COSIGN but carries no pending_override metadata." 409)
  | some pending => do
    require (pending.initiator ≠ user.sub)
      (.asoe_error "SOD_VIOLATION" ("Segregation of duties: the user who initiated the override "
        ++ "cannot cosign their own action. A different authorized user must cosign.") 403)
    require_notes req.notes "Cosign notes are mandatory (SOX audit requirement)."
    if req.approve = true ∧ pending.action = "SUBMIT_TO_ERP" then
      cosign_erp_submit cfg env user exception_id record req pending
    else if req.approve then cosign_approve cfg env user exception_id record req pending
    else cosign_reject cfg env user exception_id record req pending

def cosign_override (cfg : Config) (env : StepEnv) (user : AuthenticatedUser)
    (exception_id : String) (key : Option String) (req : CosignRequest) :
    ApiM ExceptionDetailResponse := do
  require_role user ["manager", "admin"]
  let record ← get_or_404 exception_id user.org
  with_idempotency env user exception_id key req.model_dump
    (cosign cfg env user exception_id record req)

/-! ## Escalate -/

def escalated_record (env : StepEnv) (user : AuthenticatedUser) (req : EscalateRequest)
    (record : ChildCase) : ChildCase :=
  let entry : Escalation :=
    { reason := req.reason, to_role := req.to_role, escalated_by := user.sub,
      escalated_at := env.now_iso, from_lifecycle_state := record.lifecycle_state }
  { record with
    lifecycle_state := .ESCALATED
    resolution_data := { record.resolution_data with
      escalations := record.resolution_data.escalations ++ [entry] } }

def escalated_event (user : AuthenticatedUser) (exception_id : String)
    (prior_lifecycle : LifecycleState) (req : EscalateRequest) : AuditEvent :=
  { tenant_id := user.org
    policy_key := "EXCEPTION_ESCALATED"
    previous_value := [("lifecycle_state", ofLifecycle prior_lifecycle),
      ("exception_id", .str exception_id)]
    new_value := [("lifecycle_state", ofLifecycle .ESCALATED), ("reason", .str req.reason),
      ("to_role", ofString? req.to_role)]
    changed_by := user.sub
    change_reason := req.reason }

/-- The escalation, without its guards and the idempotency cache. -/
def escalate (cfg : Config) (env : StepEnv) (user : AuthenticatedUser) (exception_id : String)
    (record : ChildCase) (req : EscalateRequest) : ApiM ExceptionDetailResponse := do
  let prior_lifecycle := record.lifecycle_state
  let updated ← update_record env exception_id user.org "Failed to update exception."
    (escalated_record env user req)
  modify (log_audit_event cfg env (escalated_event user exception_id prior_lifecycle req))
  reaggregate_parent_case cfg env user.org updated
  return updated.to_detail

/-- The state guard of this endpoint stands before the idempotency cache. -/
def escalate_exception (cfg : Config) (env : StepEnv) (user : AuthenticatedUser)
    (exception_id : String) (key : Option String) (req : EscalateRequest) :
    ApiM ExceptionDetailResponse := do
  require_permission user "exceptions:escalate"
  let record ← get_or_404 exception_id user.org
  require_state record ESCALATE_ELIGIBLE_STATES "escalate"
  with_idempotency env user exception_id key req.model_dump
    (escalate cfg env user exception_id record req)

/-! ## Reanalyze -/

def REANALYZE_ELIGIBLE_VERDICTS : List ShadowStatus := [.YELLOW, .RED]

def REANALYZE_ELIGIBLE_LIFECYCLES : List LifecycleState :=
  [.PENDING_REVIEW, .ESCALATED, .PENDING_ADMIN_REVIEW, .BLOCKED, .FAILED]

/-- The record may be replayed: by its verdict or by its state. -/
def is_reanalyzable (record : ChildCase) : Bool :=
  (record.shadow_verdict.any fun v => v ∈ REANALYZE_ELIGIBLE_VERDICTS) ||
    decide (record.lifecycle_state ∈ REANALYZE_ELIGIBLE_LIFECYCLES)

/-- The fields of the record that a replay writes. -/
def reanalyzed_record (env : StepEnv) (final_state : GraphState) (record : ChildCase) :
    ChildCase :=
  { record with
    trace_id := run_trace_id env final_state
    intent := some final_state.intent
    shadow_verdict := shadow_verdict_of final_state
    selected_recipe := final_state.selected_recipe
    final_status := final_state.final_status
    lifecycle_state := resolve_lifecycle final_state.final_status }

def reanalysis_entry (env : StepEnv) (user : AuthenticatedUser) (reason : String)
    (record : ChildCase) (prior_executed_nodes : List ExecutedNode) (final_state : GraphState) :
    ReanalysisEntry :=
  { attempt := record.reanalysis_history.length + 1
    triggered_at := env.now_iso
    triggered_by := user.sub
    reason := reason
    prior_trace_id := record.trace_id
    prior_shadow_verdict := record.shadow_verdict
    prior_final_status := record.final_status
    prior_lifecycle_state := record.lifecycle_state
    new_trace_id := run_trace_id env final_state
    new_shadow_verdict := shadow_verdict_of final_state
    new_final_status := final_state.final_status
    new_lifecycle_state := resolve_lifecycle final_state.final_status
    executed_nodes := prior_executed_nodes }

def with_reanalysis (entry : ReanalysisEntry) (record : ChildCase) : ChildCase :=
  { record with reanalysis_history := record.reanalysis_history ++ [entry] }

def reanalyzed_event (user : AuthenticatedUser) (exception_id reason : String)
    (entry : ReanalysisEntry) : AuditEvent :=
  { tenant_id := user.org
    policy_key := "EXCEPTION_REANALYZE"
    previous_value := [
      ("shadow_verdict", ofString? (entry.prior_shadow_verdict.map (·.value))),
      ("final_status", ofString? (entry.prior_final_status.map (·.value))),
      ("lifecycle_state", ofLifecycle entry.prior_lifecycle_state),
      ("trace_id", .str entry.prior_trace_id), ("exception_id", .str exception_id)]
    new_value := [("shadow_verdict", ofString? (entry.new_shadow_verdict.map (·.value))),
      ("final_status", ofString? (entry.new_final_status.map (·.value))),
      ("lifecycle_state", ofLifecycle entry.new_lifecycle_state),
      ("trace_id", .str entry.new_trace_id), ("attempt", .int entry.attempt)]
    changed_by := user.sub
    change_reason := reason }

/-- Store the outcome of a replay: the trace, the fields of the record, the
history entry and the audit event. -/
def persist_reanalysis (cfg : Config) (env : StepEnv) (user : AuthenticatedUser)
    (exception_id : String) (reason : String) (record : ChildCase) (final_state : GraphState)
    (prior_executed_nodes : List ExecutedNode) : ApiM ChildCase := do
  let entry := reanalysis_entry env user reason record prior_executed_nodes final_state
  modify (store_trace exception_id (trace_data_of (run_trace_id env final_state) final_state))
  let _ ← update_record env exception_id user.org "Failed to update exception after reanalysis."
    (reanalyzed_record env final_state)
  let updated ← update_record env exception_id user.org "Failed to persist reanalysis history."
    (with_reanalysis entry)
  modify (log_audit_event cfg env (reanalyzed_event user exception_id reason entry))
  return updated

def reanalyze_exception (cfg : Config) (env : StepEnv) (user : AuthenticatedUser)
    (exception_id : String) (reason : String) : ApiM ExceptionDetailResponse := do
  require_role user ["manager", "admin"]
  let record ← get_or_404 exception_id user.org
  require (is_reanalyzable record = true)
    (.asoe_error "INVALID_STATE" ("Cannot reanalyze: exception verdict is '"
      ++ ((record.shadow_verdict.map (·.value)).getD "None") ++ "' and lifecycle is '"
      ++ record.lifecycle_state.value ++ "'. Reanalysis is permitted only on YELLOW/RED verdicts "
      ++ "or on FAILED/BLOCKED/ESCALATED lifecycles.") 409)
  require (record.reanalysis_history.length < REANALYSIS_MAX_ATTEMPTS)
    (.asoe_error "RATE_LIMITED" ("Reanalysis limit reached (" ++ toString REANALYSIS_MAX_ATTEMPTS
      ++ " attempts). Escalate to admin for manual resolution.") 429)
  match record.original_event with
  | none => throw (.asoe_error "REPLAY_UNAVAILABLE" ("Cannot reanalyze: the original event is not "
      ++ "on file for this exception. Reanalysis requires the source event.") 409)
  | some event => do
    let api ← get
    let prior_executed_nodes :=
      ((dict.get api.traces exception_id).map (·.executed_nodes)).getD []
    let final_state ← mapError (graph_error "Graph execution failed during reanalysis")
      (resolve_state env exception_id { event := event, tenant_id := some user.org })
    let updated ← persist_reanalysis cfg env user exception_id reason record final_state
      prior_executed_nodes
    reaggregate_parent_case cfg env user.org updated
    return updated.to_detail

/-! ## Challenge and admin-release -/

/-- Move a record to a fixed state, with both states written into the audit
event as literals. -/
def move_record (cfg : Config) (env : StepEnv) (user : AuthenticatedUser) (exception_id : String)
    (fields : ChildCase → ChildCase) (event : AuditEvent) : ApiM ExceptionDetailResponse := do
  let updated ← update_record env exception_id user.org "Failed to update." fields
  modify (log_audit_event cfg env event)
  reaggregate_parent_case cfg env user.org updated
  return updated.to_detail

def challenged_record (challenge_reason : String) (record : ChildCase) : ChildCase :=
  { record with
    lifecycle_state := .ESCALATED
    resolution_notes := some ("CHALLENGED: " ++ challenge_reason) }

def challenge_event (user : AuthenticatedUser) (exception_id challenge_reason : String) :
    AuditEvent :=
  { tenant_id := user.org
    policy_key := "EXCEPTION_CHALLENGE"
    previous_value := [("lifecycle_state", ofLifecycle .RESOLVED),
      ("exception_id", .str exception_id)]
    new_value := [("lifecycle_state", ofLifecycle .ESCALATED),
      ("challenge_reason", .str challenge_reason)]
    changed_by := user.sub
    change_reason := challenge_reason }

def challenge_exception (cfg : Config) (env : StepEnv) (user : AuthenticatedUser)
    (exception_id challenge_reason : String) : ApiM ExceptionDetailResponse := do
  require_role user ["analyst", "manager", "admin"]
  let record ← get_or_404 exception_id user.org
  require_state record CHALLENGE_SOURCE_STATES "challenge"
  move_record cfg env user exception_id (challenged_record challenge_reason)
    (challenge_event user exception_id challenge_reason)

def released_record (release_reason : String) (record : ChildCase) : ChildCase :=
  { record with
    lifecycle_state := .PENDING_ADMIN_REVIEW
    resolution_notes := some ("ADMIN_RELEASE: " ++ release_reason) }

def admin_release_event (user : AuthenticatedUser) (exception_id : String) (record : ChildCase)
    (release_reason : String) : AuditEvent :=
  { tenant_id := user.org
    policy_key := "EXCEPTION_ADMIN_RELEASE"
    previous_value := [("lifecycle_state", ofLifecycle .BLOCKED),
      ("shadow_verdict", ofString? (record.shadow_verdict.map (·.value))),
      ("exception_id", .str exception_id)]
    new_value := [("lifecycle_state", ofLifecycle .PENDING_ADMIN_REVIEW),
      ("release_reason", .str release_reason), ("risk_acknowledged", .bool true)]
    changed_by := user.sub
    change_reason := release_reason }

def admin_release_exception (cfg : Config) (env : StepEnv) (user : AuthenticatedUser)
    (exception_id release_reason : String) (risk_acknowledgment : Bool) :
    ApiM ExceptionDetailResponse := do
  require_role user ["admin"]
  let record ← get_or_404 exception_id user.org
  require_state record ADMIN_RELEASE_SOURCE_STATES "admin-release"
  require (risk_acknowledgment = true)
    (.asoe_error "RISK_NOT_ACKNOWLEDGED"
      "risk_acknowledgment must be true to release a RED-blocked exception." 422)
  move_record cfg env user exception_id (released_record release_reason)
    (admin_release_event user exception_id record release_reason)

/-! ## Steps of the service -/

/-- What a client, or the scheduler of the outbox worker, can ask for. -/
inductive Request where
  | resolve (event : OrderEvent) (explain : Bool)
  | disposition (exception_id : String) (key : Option String) (req : DispositionRequest)
  | cosign (exception_id : String) (key : Option String) (req : CosignRequest)
  | escalate (exception_id : String) (key : Option String) (req : EscalateRequest)
  | reanalyze (exception_id reason : String)
  | challenge (exception_id reason : String)
  | admin_release (exception_id reason : String) (risk_acknowledgment : Bool)
  | reconcile (tenant_id : Option String) (max_attempts : ℕ)
  deriving DecidableEq

structure Step where
  env : StepEnv
  user : AuthenticatedUser
  request : Request

/-- The answer to a request: the record, or nothing for the requests that
return something else. -/
def handle (cfg : Config) (st : Step) : ApiM (Option ExceptionDetailResponse) :=
  match st.request with
  | .resolve event explain => do
    let _ ← resolve cfg st.env st.user.org event explain
    return none
  | .disposition id key req => some <$> disposition_exception cfg st.env st.user id key req
  | .cosign id key req => some <$> cosign_override cfg st.env st.user id key req
  | .escalate id key req => some <$> escalate_exception cfg st.env st.user id key req
  | .reanalyze id reason => some <$> reanalyze_exception cfg st.env st.user id reason
  | .challenge id reason => some <$> challenge_exception cfg st.env st.user id reason
  | .admin_release id reason risk =>
    some <$> admin_release_exception cfg st.env st.user id reason risk
  | .reconcile tenant_id max_attempts => do
    modify fun api => { api with
      external := reconcile_pending st.env.first_run.gateway tenant_id max_attempts api.external }
    return none

/-- The state after one request, whether it was answered or refused. -/
def step (cfg : Config) (st : Step) (api : Api) : Api := endState (handle cfg st api)

end asoe
