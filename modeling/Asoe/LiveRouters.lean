-- The gateways that route a request to a live backend or to its stub. The
-- shadow runner calls both and keeps the live answer, or the one of the stub
-- when the live call failed; a failed live call goes to the dead letters.
import Asoe.Contracts
import Asoe.Lib.Prog
import Asoe.Lib.PyText
import Asoe.Lib.Sha256

namespace asoe

open py prog

/-! ## The canary -/

/-- What the routers read of their process: the environment variables, the
clock, and two functions on texts. -/
structure LiveEnv where
  getenv : String → Option String
  now : ℤ
  lower : String → String
  redact_for_azure_di : String → String

/-- `_hash_to_unit(case_id)`: the first eight bytes of the digest over 2^64. -/
def hash_to_unit (case_id : String) : PyFloat :=
  if case_id = "" then .fin 0
  else
    let digest := sha256.bytes ((case_id.toList.flatMap String.utf8EncodeChar).map (·.toNat))
    let n : ℕ := (digest.take 8).foldl (fun n b => n * 256 + b) 0
    PyFloat.ofRat ((n : ℚ) / 2 ^ 64)

def is_canary_eligible (case_id : String) (pct : PyFloat) : Bool :=
  if PyFloat.le pct (.fin 0) then false
  else if PyFloat.le (.fin 1) pct then true
  else PyFloat.lt (hash_to_unit case_id) pct

def current_canary_pct (env : LiveEnv) (connector : String) : PyFloat :=
  let upper := String.ofList (connector.toList.map fun c => if c = '-' then '_' else c.toUpper)
  let raw := strip ((env.getenv ("ASOE_CANARY_PCT_" ++ upper)).getD "")
  if raw = "" then .fin 0
  else
    match floatOfText? raw with
    | none => .fin 0
    | some v => PyFloat.max (.fin 0) (if PyFloat.lt v (.fin 1) then v else .fin 1)

/-! ## The dead letters -/

structure DLQEntry where
  source : String
  operation : String
  tenant_id : String
  reason : String
  payload : PyDict
  recorded_at : ℤ
  deriving DecidableEq

/-! ## The shadow runner -/

structure DiffEntry where
  connector : String
  operation : String
  recorded_at : ℤ
  audit_bearing_diffs : List String
  derived_diffs : List String
  real_error : Option String
  stub_error : Option String
  deriving DecidableEq

/-- `_diff`: a key that is absent differs from one that holds `None`. -/
def diff (real stub : PyDict) (fields : List String) : List String :=
  fields.filter fun f =>
    (dict.get real f).isSome != (dict.get stub f).isSome ||
      !((dict.get real f).getD .none).eq ((dict.get stub f).getD .none)

structure ShadowRunner where
  connector : String
  operation : String
  audit_bearing_fields : List String
  derived_fields : List String

/-- `f"{type(exc).__name__}: {exc}"`, when a call raised. -/
def error_text {α : Type} : Except PyErr α → Option String
  | .ok _ => none
  | .error exc => some (exc.kind ++ ": " ++ exc.text)

/-- `ShadowRunner.run`: the entry of the call, and what it gives back. -/
def ShadowRunner.run (runner : ShadowRunner) (real stub : Except PyErr PyDict) (now : ℤ) :
    DiffEntry × Except PyErr PyDict :=
  let diffs (fields : List String) : List String :=
    match real, stub with
    | .ok real_out, .ok stub_out => diff real_out stub_out fields
    | _, _ => []
  let entry : DiffEntry :=
    { connector := runner.connector, operation := runner.operation, recorded_at := now
      audit_bearing_diffs := diffs runner.audit_bearing_fields
      derived_diffs := diffs runner.derived_fields
      real_error := error_text real, stub_error := error_text stub }
  match real, stub with
  | .ok real_out, _ => (entry, .ok real_out)
  | .error _, .ok stub_out => (entry, .ok stub_out)
  | .error _, .error _ =>
    (entry, .error ⟨"RuntimeError", "shadow runner: both real and stub failed connector=" ++
      runner.connector ++ " op=" ++ runner.operation ++ " real_err=" ++
      (error_text real).getD "None" ++ " stub_err=" ++ (error_text stub).getD "None"⟩)

/-! ## The routers -/

structure LiveBackend where
  supports : Option (List String → Except PyErr PyVal)
  execute : GatewayRequest → Except PyErr GatewayResponse

/-- What a router is built with. A call of the factory raises, gives nothing,
or gives a backend. -/
structure Backends where
  stub : GatewayRequest → Except PyErr GatewayResponse
  live_backend_factory : Option (Except PyErr (Option LiveBackend))

structure RouterState where
  live_backend : Option LiveBackend := none
  dead_letters : List DLQEntry := []
  diff_log : List DiffEntry := []

/-- `dead_letter_queue.record`. -/
def record_dead_letter (entry : DLQEntry) : EStateM PyErr RouterState Unit := do
  if entry.source = "" ∨ entry.operation = "" ∨ entry.tenant_id = "" then
    throw ⟨"ValueError", "dead_letter_queue.record requires source/operation/tenant_id"⟩
  modify fun s => { s with dead_letters := s.dead_letters ++ [entry] }

/-- The values in which the three routers differ. -/
structure LiveRouter where
  connector : String
  dlq_source : String
  driver_env : String
  live_driver : String
  canary_key : String
  audit_bearing_fields : List (String × List String)
  derived_fields : List (String × List String)
  supports_args : String → List String := fun operation => [operation]
  payload : PyDict := []
  on_live_response : LiveEnv → GatewayResponse → GatewayResponse := fun _ response => response

namespace LiveRouter

def driver (env : LiveEnv) (router : LiveRouter) : String :=
  let set := (env.getenv router.driver_env).getD ""
  env.lower (strip (if set = "" then "recorded" else set))

/-- `_resolve_live_backend()`. -/
def resolve_live_backend (backends : Backends) :
    EStateM PyErr RouterState (Option LiveBackend) := do
  match (← get).live_backend with
  | some backend => return some backend
  | none =>
    match backends.live_backend_factory with
    | some (.ok made) =>
      modify fun s => { s with live_backend := made }
      return made
    | _ => return none

def live_supports (router : LiveRouter) (backend : LiveBackend) (operation : String) : Bool :=
  match backend.supports with
  | none => true
  | some supports =>
    match supports (router.supports_args operation) with
    | .ok answer => answer.truthy
    | .error _ => false

/-- `str((request.params or {}).get(key) or default)`. -/
def param (request : GatewayRequest) (key default : String) : String :=
  (((dict.get request.params key).getD .none).or (.str default)).toStr

def should_route_live (env : LiveEnv) (router : LiveRouter) (backends : Backends)
    (request : GatewayRequest) : EStateM PyErr RouterState Bool := do
  if router.driver env ≠ router.live_driver then return false
  match ← resolve_live_backend backends with
  | none => return false
  | some backend =>
    if !router.live_supports backend request.operation then return false
    let case_id := param request "case_id" ""
    if case_id = "" then return false
    return is_canary_eligible case_id (current_canary_pct env router.canary_key)

/-- `_real_call`: a status other than SUCCESS is raised. -/
def real_call (env : LiveEnv) (router : LiveRouter) (backend : LiveBackend)
    (request : GatewayRequest) : Except PyErr PyDict :=
  match backend.execute request with
  | .error exc => .error exc
  | .ok answer =>
    let response := router.on_live_response env answer
    if response.status ≠ .SUCCESS then
      .error ⟨"RuntimeError", "live " ++ router.connector ++ " op=" ++ request.operation ++
        " status=" ++ response.status.value ++ " err=" ++ response.error.getD "None"⟩
    else .ok response.data

/-- `_stub_call`: the status is not read. -/
def stub_call (backends : Backends) (request : GatewayRequest) : Except PyErr PyDict :=
  match backends.stub request with
  | .error exc => .error exc
  | .ok response => .ok response.data

def dead_letter (env : LiveEnv) (router : LiveRouter) (request : GatewayRequest) (reason : String) :
    DLQEntry where
  source := router.dlq_source
  operation := request.operation
  tenant_id := param request "tenant_id" "unknown"
  reason := reason
  payload := ("trace_id", .str request.trace_id) :: router.payload
  recorded_at := env.now

/-- The part of `execute` after the routing. -/
def call_both (env : LiveEnv) (router : LiveRouter) (backends : Backends) (request : GatewayRequest)
    (backend : LiveBackend) : EStateM PyErr RouterState GatewayResponse := do
  let operation := request.operation
  let runner : ShadowRunner :=
    { connector := router.connector, operation := operation
      audit_bearing_fields := (dict.get router.audit_bearing_fields operation).getD []
      derived_fields := (dict.get router.derived_fields operation).getD [] }
  let (entry, out) :=
    runner.run (router.real_call env backend request) (stub_call backends request) env.now
  modify fun s => { s with diff_log := s.diff_log ++ [entry] }
  match out with
  | .error exc =>
    record_dead_letter
      (router.dead_letter env request ("both real and stub failed: " ++ exc.kind))
    return { gateway_name := router.connector, operation := operation, status := .FAILED
             error := some exc.text }
  | .ok data =>
    match entry.real_error with
    | some real_error => record_dead_letter (router.dead_letter env request real_error)
    | none => pure ()
    return { gateway_name := router.connector, operation := operation, status := .SUCCESS
             data := data }

def execute (env : LiveEnv) (router : LiveRouter) (backends : Backends) (request : GatewayRequest) :
    EStateM PyErr RouterState GatewayResponse := do
  if !(← router.should_route_live env backends request) then
    MonadExcept.ofExcept (backends.stub request)
  else
    match ← resolve_live_backend backends with
    | none => throw ⟨"AssertionError", ""⟩
    | some backend => router.call_both env backends request backend

end LiveRouter

/-! ## The three routers -/

namespace msgraph_intake

def AUDIT_BEARING_FIELDS : List (String × List String) :=
  [("sender_auth", ["sender_authorized"]),
    ("resolve_customer", ["customer_resolved", "customer_name"]),
    ("duplicate_po_pre_check", ["duplicate_po_clear", "matched_po_id"]),
    ("credit_check", ["credit_clear", "credit_limit"]),
    ("fetch_message", ["source_email_id", "from_address", "received_at"])]

def DERIVED_FIELDS : List (String × List String) :=
  [("sender_auth", ["auth_method", "auth_evidence"]),
    ("resolve_customer", ["match_method", "match_confidence"]),
    ("duplicate_po_pre_check", ["match_score"]), ("credit_check", ["current_exposure", "headroom"]),
    ("fetch_message", ["subject", "body_excerpt", "body_hash", "attachment_manifest"])]

/-- `_redact_fetch_message_body`. -/
def redact_fetch_message_body (env : LiveEnv) (response : GatewayResponse) : GatewayResponse :=
  if response.operation ≠ "fetch_message" then response
  else
    match dict.get response.data "body_excerpt" with
    | some (.str body) =>
      let redacted := env.redact_for_azure_di body
      if redacted = body then response
      else { response with data := dict.set response.data "body_excerpt" (.str redacted) }
    | _ => response

def GraphIntakeGateway : LiveRouter where
  connector := "email_intake"
  dlq_source := "graph"
  driver_env := "ASOE_EMAIL_INTAKE_DRIVER"
  live_driver := "graph"
  canary_key := "email_intake"
  audit_bearing_fields := AUDIT_BEARING_FIELDS
  derived_fields := DERIVED_FIELDS
  on_live_response := redact_fetch_message_body

end msgraph_intake

namespace sap_live

def AUDIT_BEARING_FIELDS : List (String × List (String × List String)) :=
  [("sap_order", [("validate", ["system", "validation_status", "sap_doc_number"])]),
    ("sap_doc", [("lookup", ["doc_type", "doc_number", "applied_condition_chain"])]),
    ("sap_contract", [("lookup", ["contract_ref", "rule_id", "root_cause_category"])]),
    ("promotion", [("lookup", ["promotion_ref", "root_cause_category"])]),
    ("sap_block", [("lookup", ["block_status", "block_reason"])]),
    ("sap_customer_master", [("lookup", ["moq_source", "channel"])]),
    ("sla_contract", [("lookup", ["sla_deadline", "at_risk"])])]

def DERIVED_FIELDS : List (String × List (String × List String)) :=
  [("sap_order", [("validate", ["order_value_usd"])]),
    ("sap_doc", [("lookup", ["sku", "uom", "material_desc", "order_date"])]),
    ("sap_contract", [("lookup", [])]), ("promotion", [("lookup", [])]),
    ("sap_block", [("lookup", ["block_message"])]), ("sap_customer_master", [("lookup", [])]),
    ("sla_contract", [("lookup", [])])]

def SapDomainGateway (connector : String) : LiveRouter where
  connector := connector
  dlq_source := "sap"
  driver_env := "ASOE_SAP_DRIVER"
  live_driver := "s4hana"
  canary_key := "sap"
  audit_bearing_fields := (dict.get AUDIT_BEARING_FIELDS connector).getD []
  derived_fields := (dict.get DERIVED_FIELDS connector).getD []
  supports_args := fun operation => [connector, operation]
  payload := [("connector", .str connector), ("domain", .str connector)]

end sap_live

namespace oms_live

def AUDIT_BEARING_FIELDS : List (String × List String) :=
  [("get_fulfillment_status", ["fulfilled"]),
    ("get_inventory_snapshot", ["primary_dc", "atp_date"]),
    ("get_matched_po_details",
      ["has_revision_indicator", "line_items_identical", "cancellation_target", "customer_id"]),
    ("get_price_hold_status", ["status"]), ("write_order_acceptance", ["oms_order_id"]),
    ("write_order_cancellation", ["oms_order_id", "cancelled_at"])]

def DERIVED_FIELDS : List (String × List String) :=
  [("get_fulfillment_status", []),
    ("get_inventory_snapshot", ["alternate_warehouses", "substitutes", "production", "inbound_po"]),
    ("get_matched_po_details",
      ["days_between", "detection_method", "matching_fields", "differing_fields", "original_order",
        "duplicate_order"]),
    ("get_price_hold_status", []), ("write_order_acceptance", []), ("write_order_cancellation", [])]

def OmsGateway : LiveRouter where
  connector := "oms"
  dlq_source := "oms"
  driver_env := "ASOE_OMS_DRIVER"
  live_driver := "live"
  canary_key := "oms"
  audit_bearing_fields := AUDIT_BEARING_FIELDS
  derived_fields := DERIVED_FIELDS

end oms_live

inductive LiveGateway where
  | GraphIntakeGateway
  | SapDomainGateway (connector : String)
  | OmsGateway
  deriving DecidableEq

def LiveGateway.router : LiveGateway → LiveRouter
  | GraphIntakeGateway => msgraph_intake.GraphIntakeGateway
  | SapDomainGateway connector => sap_live.SapDomainGateway connector
  | OmsGateway => oms_live.OmsGateway

/-! ## What an answer has to be -/

/-- The live backend that a request is sent to, when it is. -/
def LiveRouter.routed (env : LiveEnv) (router : LiveRouter) (backends : Backends)
    (request : GatewayRequest) (s : RouterState) : Option LiveBackend :=
  match router.should_route_live env backends request s with
  | .ok true s' => s'.live_backend
  | _ => none

/-- The call was answered, with SUCCESS. -/
def Succeeds (call : Except PyErr GatewayResponse) : Prop :=
  ∃ response, call = .ok response ∧ response.status = .SUCCESS

/-- The tenant that the request names, if any. -/
def request_tenant (request : GatewayRequest) : Option String :=
  (dict.get request.params "tenant_id").bind fun v => if v.truthy then some v.toStr else none

def OMS_WRITES : List String := ["write_order_acceptance", "write_order_cancellation"]

section honest

variable (env : LiveEnv) (gateway : LiveGateway) (backends : Backends) (request : GatewayRequest)
  (s : RouterState)

/-- An answer of the stub, or of the live backend where the request is sent to
it, as the router passes it on. -/
def BackendAnswer (own : GatewayResponse) : Prop :=
  backends.stub request = .ok own ∨
    ∃ backend ∈ gateway.router.routed env backends request s, ∃ live,
      backend.execute request = .ok live ∧ own = gateway.router.on_live_response env live

/-- What a response has to be, by the answers of the backends. -/
structure HonestResponse (response : GatewayResponse) : Prop where
  backed : response.status = .SUCCESS → ∃ own, BackendAnswer env gateway backends request s own ∧
    own.status = .SUCCESS ∧ response.data = own.data
  live : ∀ backend ∈ gateway.router.routed env backends request s, ∀ live,
    backend.execute request = .ok live → live.status = .SUCCESS →
      response.status = .SUCCESS ∧
        response.data = (gateway.router.on_live_response env live).data
  written : gateway = .OmsGateway → request.operation ∈ OMS_WRITES → response.status = .SUCCESS →
    ∀ backend ∈ gateway.router.routed env backends request s, Succeeds (backend.execute request)

/-- A failed live call leaves one dead letter, with the tenant of the request. -/
def DeadLettered (s' : RouterState) : Prop :=
  ∀ backend ∈ gateway.router.routed env backends request s, ¬ Succeeds (backend.execute request) →
    ∃ entry, s'.dead_letters = s.dead_letters ++ [entry] ∧
      ∀ tenant ∈ request_tenant request, entry.tenant_id = tenant

/-- The router answers as its backends did, and accounts for a failed live
call. It raises only when no live call succeeded. -/
def AnswersHonestly : Prop :=
  wp (gateway.router.execute env backends request)
    (fun response s' => HonestResponse env gateway backends request s response ∧
      DeadLettered env gateway backends request s s')
    (fun _ s' => DeadLettered env gateway backends request s s' ∧
      ∀ backend ∈ gateway.router.routed env backends request s,
        ¬ Succeeds (backend.execute request))
    s

/-- A live call that fails is one of a named operation, and what the stub
answers to it is a success, and no write to the OMS. -/
def FallsBackSafely : Prop :=
  ∀ backend ∈ gateway.router.routed env backends request s, ¬ Succeeds (backend.execute request) →
    request.operation ≠ "" ∧ ∀ own, backends.stub request = .ok own →
      own.status = .SUCCESS ∧ ¬ (gateway = .OmsGateway ∧ request.operation ∈ OMS_WRITES)

end honest

/-! ## Routing -/

section routing

variable {env : LiveEnv} {router : LiveRouter} {backends : Backends} {request : GatewayRequest}
  {s : RouterState}

theorem wp_resolve_live_backend :
    wp (LiveRouter.resolve_live_backend backends)
      (fun backend s' => s' = { s with live_backend := backend }) (fun _ _ => False) s := by
  unfold LiveRouter.resolve_live_backend
  rw [wp_bind, wp_get]
  split
  · rename_i backend hbackend
    rw [wp_pure, ← hbackend]
  · rename_i hnone
    split
    · simp only [wp_bind, wp_modify, wp_pure]
    · rw [wp_pure, ← hnone]

theorem wp_should_route_live :
    wp (router.should_route_live env backends request)
      (fun live s' => ∃ backend, s' = { s with live_backend := backend } ∧
        (live = true → ∃ b, backend = some b))
      (fun _ _ => False) s := by
  unfold LiveRouter.should_route_live
  simp only [wp_bind, wp_ite, wp_pure]
  refine ⟨fun _ => ⟨s.live_backend, rfl, by simp⟩, fun _ => ?_⟩
  refine wp_mono wp_resolve_live_backend ?_ (by simp)
  rintro backend s' rfl
  cases backend with
  | none => exact ⟨none, rfl, by simp⟩
  | some backend =>
    simp only [wp_ite, wp_pure]
    exact ⟨fun _ => ⟨_, rfl, by simp⟩, fun _ => ⟨fun _ => ⟨_, rfl, by simp⟩,
      fun _ => ⟨_, rfl, fun _ => ⟨backend, rfl⟩⟩⟩⟩

/-- A request that meets all that the routing asks for. -/
theorem routed_of_eligible {b : LiveBackend} (hdriver : router.driver env = router.live_driver)
    (hbackend : s.live_backend = some b)
    (hsupports : router.live_supports b request.operation = true)
    (hcase : LiveRouter.param request "case_id" "" ≠ "")
    (hcanary : is_canary_eligible (LiveRouter.param request "case_id" "")
      (current_canary_pct env router.canary_key) = true) :
    router.routed env backends request s = some b := by
  have hresolve : LiveRouter.resolve_live_backend backends s = .ok (some b) s := by
    unfold LiveRouter.resolve_live_backend
    rw [run_bind, run_get]
    dsimp only
    rw [hbackend]
    rfl
  have hroute : router.should_route_live env backends request s = .ok true s := by
    unfold LiveRouter.should_route_live
    rw [if_neg (not_not.mpr hdriver), run_bind, hresolve]
    dsimp only
    rw [hsupports, if_neg hcase, hcanary]
    rfl
  unfold LiveRouter.routed
  rw [hroute]
  exact hbackend

theorem execute_unrouted (h : router.routed env backends request s = none) :
    ∃ backend, router.execute env backends request s =
      (MonadExcept.ofExcept (backends.stub request) : EStateM PyErr RouterState GatewayResponse)
        { s with live_backend := backend } := by
  obtain ⟨live, s', hroute, backend, rfl, hsome⟩ := wp_returned (wp_should_route_live (s := s))
  unfold LiveRouter.routed at h
  rw [hroute] at h
  refine ⟨backend, ?_⟩
  unfold LiveRouter.execute
  rw [run_bind, hroute]
  cases live with
  | false => rfl
  | true =>
    obtain ⟨b, rfl⟩ := hsome rfl
    cases h

theorem execute_routed {b : LiveBackend} (h : router.routed env backends request s = some b) :
    router.execute env backends request s =
      router.call_both env backends request b { s with live_backend := some b } := by
  obtain ⟨live, s', hroute, backend, rfl, hsome⟩ := wp_returned (wp_should_route_live (s := s))
  unfold LiveRouter.routed at h
  rw [hroute] at h
  cases live with
  | false => cases h
  | true =>
    obtain rfl : backend = some b := h
    unfold LiveRouter.execute
    rw [run_bind, hroute]
    rfl

end routing

/-! ## What both calls come to -/

section calls

variable {env : LiveEnv} {router : LiveRouter} {backends : Backends} {request : GatewayRequest}
  {backend : LiveBackend} {s : RouterState}

theorem param_ne_empty {key default : String} (h : default ≠ "") :
    LiveRouter.param request key default ≠ "" := by
  unfold LiveRouter.param PyVal.or
  split
  · rename_i htrue
    exact PyVal.toStr_ne_empty htrue
  · exact h

theorem param_tenant (default : String) :
    LiveRouter.param request "tenant_id" default = (request_tenant request).getD default := by
  unfold LiveRouter.param request_tenant PyVal.or
  cases dict.get request.params "tenant_id" with
  | none => rfl
  | some v =>
    by_cases htrue : v.truthy = true
    · simp [htrue]
    · simp [htrue, PyVal.toStr]

variable {E : PyErr → RouterState → Prop}

theorem wp_record_dead_letter {reason : String} {Q : Unit → RouterState → Prop}
    (hsource : router.dlq_source ≠ "") :
    wp (record_dead_letter (router.dead_letter env request reason)) Q E s ↔
      (request.operation ≠ "" → Q () { s with
        dead_letters := s.dead_letters ++ [router.dead_letter env request reason] }) ∧
      (request.operation = "" →
        E ⟨"ValueError", "dead_letter_queue.record requires source/operation/tenant_id"⟩ s) := by
  have htenant : LiveRouter.param request "tenant_id" "unknown" ≠ "" :=
    param_ne_empty (by decide)
  unfold record_dead_letter
  by_cases hop : request.operation = ""
  · simp [LiveRouter.dead_letter, hop]
  · simp [LiveRouter.dead_letter, hop, hsource, htenant]

variable {Q : GatewayResponse → RouterState → Prop}

theorem wp_call_both_live {data : PyDict} (hreal : router.real_call env backend request = .ok data)
    (hQ : ∀ log, Q { gateway_name := router.connector, operation := request.operation
                     status := .SUCCESS, data := data } { s with diff_log := log }) :
    wp (router.call_both env backends request backend) Q E s := by
  unfold LiveRouter.call_both ShadowRunner.run
  rw [hreal]
  simp only [error_text, wp_bind, wp_modify, wp_pure]
  exact hQ _

theorem wp_call_both_stub {exc : PyErr} {own : GatewayResponse} (hsource : router.dlq_source ≠ "")
    (hreal : router.real_call env backend request = .error exc)
    (hstub : backends.stub request = .ok own) (hop : request.operation ≠ "")
    (hQ : ∀ log reason, Q { gateway_name := router.connector, operation := request.operation
                            status := .SUCCESS, data := own.data }
      { s with diff_log := log
               dead_letters := s.dead_letters ++ [router.dead_letter env request reason] }) :
    wp (router.call_both env backends request backend) Q E s := by
  have hstub' : LiveRouter.stub_call backends request = .ok own.data := by
    unfold LiveRouter.stub_call
    rw [hstub]
  unfold LiveRouter.call_both ShadowRunner.run
  rw [hreal, hstub']
  simp only [error_text, wp_bind, wp_modify, wp_pure, wp_record_dead_letter hsource]
  exact ⟨fun _ => hQ _ _, fun hempty => absurd hempty hop⟩

theorem wp_call_both_neither {exc exc' : PyErr} (hsource : router.dlq_source ≠ "")
    (hreal : router.real_call env backend request = .error exc)
    (hstub : backends.stub request = .error exc') (hop : request.operation ≠ "")
    (hQ : ∀ log reason text, Q { gateway_name := router.connector, operation := request.operation
                                 status := .FAILED, error := some text }
      { s with diff_log := log
               dead_letters := s.dead_letters ++ [router.dead_letter env request reason] }) :
    wp (router.call_both env backends request backend) Q E s := by
  have hstub' : LiveRouter.stub_call backends request = .error exc' := by
    unfold LiveRouter.stub_call
    rw [hstub]
  unfold LiveRouter.call_both ShadowRunner.run
  rw [hreal, hstub']
  simp only [error_text, wp_bind, wp_modify, wp_pure, wp_record_dead_letter hsource]
  exact ⟨fun _ => hQ _ _ _, fun hempty => absurd hempty hop⟩

theorem wp_call_both_unnamed (backends : Backends) {exc : PyErr}
    {Q : GatewayResponse → RouterState → Prop} {E : PyErr → RouterState → Prop}
    (hsource : router.dlq_source ≠ "")
    (hreal : router.real_call env backend request = .error exc) (hop : request.operation = "")
    (hE : ∀ e log, E e { s with diff_log := log }) :
    wp (router.call_both env backends request backend) Q E s := by
  unfold LiveRouter.call_both ShadowRunner.run
  rw [hreal]
  cases hstub : LiveRouter.stub_call backends request with
  | ok data =>
    simp only [error_text, wp_bind, wp_modify, wp_pure, wp_record_dead_letter hsource]
    exact ⟨fun hne => absurd hop hne, fun _ => hE _ _⟩
  | error exc' =>
    simp only [error_text, wp_bind, wp_modify, wp_pure, wp_record_dead_letter hsource]
    exact ⟨fun hne => absurd hop hne, fun _ => hE _ _⟩

end calls

/-! ## The three routers answer honestly when they fall back safely -/

theorem LiveGateway.dlq_source_ne_empty (gateway : LiveGateway) :
    gateway.router.dlq_source ≠ "" := by
  cases gateway <;> simp [LiveGateway.router, msgraph_intake.GraphIntakeGateway,
    sap_live.SapDomainGateway, oms_live.OmsGateway]

/-- Redaction leaves the status of an answer alone. -/
theorem LiveGateway.on_live_response_status (gateway : LiveGateway) (env : LiveEnv)
    (response : GatewayResponse) :
    (gateway.router.on_live_response env response).status = response.status := by
  cases gateway with
  | GraphIntakeGateway =>
    change (msgraph_intake.redact_fetch_message_body env response).status = response.status
    unfold msgraph_intake.redact_fetch_message_body
    dsimp only
    split
    · rfl
    · split
      · split
        · rfl
        · rfl
      · rfl
  | SapDomainGateway connector => rfl
  | OmsGateway => rfl

section gateways

variable {env : LiveEnv} {gateway : LiveGateway} {backends : Backends} {request : GatewayRequest}
  {backend : LiveBackend} {s : RouterState}

theorem real_call_of_success {live : GatewayResponse} (hlive : backend.execute request = .ok live)
    (hsuccess : live.status = .SUCCESS) :
    gateway.router.real_call env backend request =
      .ok (gateway.router.on_live_response env live).data := by
  have hstatus : (gateway.router.on_live_response env live).status = .SUCCESS := by
    rw [gateway.on_live_response_status, hsuccess]
  unfold LiveRouter.real_call
  rw [hlive]
  dsimp only
  rw [if_neg (not_not.mpr hstatus)]

theorem real_call_of_failure (env : LiveEnv) (gateway : LiveGateway)
    (h : ¬ Succeeds (backend.execute request)) :
    ∃ exc, gateway.router.real_call env backend request = .error exc := by
  unfold LiveRouter.real_call
  cases hcall : backend.execute request with
  | error exc => exact ⟨exc, rfl⟩
  | ok live =>
    have hstatus : (gateway.router.on_live_response env live).status ≠ .SUCCESS := by
      rw [gateway.on_live_response_status]
      intro hsuccess
      exact h ⟨live, hcall, hsuccess⟩
    dsimp only
    rw [if_pos hstatus]
    exact ⟨_, rfl⟩

theorem deadLettered_of_entry {s' : RouterState} {reason : String}
    (hs' : s'.dead_letters =
      s.dead_letters ++ [gateway.router.dead_letter env request reason]) :
    DeadLettered env gateway backends request s s' := by
  intro b hb _
  refine ⟨_, hs', ?_⟩
  intro tenant htenant
  change LiveRouter.param request "tenant_id" "unknown" = tenant
  rw [param_tenant, Option.mem_def.mp htenant, Option.getD_some]

theorem answersHonestly_unrouted (h : gateway.router.routed env backends request s = none) :
    AnswersHonestly env gateway backends request s := by
  obtain ⟨_, hexec⟩ := execute_unrouted h
  unfold AnswersHonestly
  rw [wp_of_run_eq hexec, wp_ofExcept]
  refine ⟨fun own hown => ⟨⟨fun hstatus => ⟨own, .inl hown, hstatus, rfl⟩, ?_, ?_⟩, ?_⟩,
    fun e _ => ⟨?_, ?_⟩⟩
  all_goals simp [DeadLettered, h]

theorem answersHonestly_live (h : gateway.router.routed env backends request s = some backend)
    (hlive : Succeeds (backend.execute request)) :
    AnswersHonestly env gateway backends request s := by
  obtain ⟨live, hcall, hsuccess⟩ := hlive
  unfold AnswersHonestly
  rw [wp_of_run_eq (execute_routed h)]
  refine wp_call_both_live (real_call_of_success hcall hsuccess) fun log => ⟨⟨?_, ?_, ?_⟩, ?_⟩
  · intro _
    refine ⟨_, .inr ⟨backend, h, live, hcall, rfl⟩, ?_, rfl⟩
    rw [gateway.on_live_response_status, hsuccess]
  · intro b hb live' hlive' _
    obtain rfl : backend = b := Option.some.inj (h.symm.trans hb)
    obtain rfl : live = live' := Except.ok.inj (hcall.symm.trans hlive')
    exact ⟨rfl, rfl⟩
  · intro _ _ _ b hb
    obtain rfl : backend = b := Option.some.inj (h.symm.trans hb)
    exact ⟨live, hcall, hsuccess⟩
  · intro b hb hfails
    obtain rfl : backend = b := Option.some.inj (h.symm.trans hb)
    exact absurd ⟨live, hcall, hsuccess⟩ hfails

section failed

variable (h : gateway.router.routed env backends request s = some backend)
  (hfails : ¬ Succeeds (backend.execute request))

include h hfails

theorem not_answersHonestly_unnamed (hop : request.operation = "") :
    ¬ AnswersHonestly env gateway backends request s := by
  intro hhonest
  obtain ⟨exc, hreal⟩ := real_call_of_failure env gateway hfails
  unfold AnswersHonestly at hhonest
  rw [wp_of_run_eq (execute_routed h)] at hhonest
  have hlost := wp_call_both_unnamed backends (s := { s with live_backend := some backend })
    (Q := fun _ _ => False) (E := fun _ s' => s'.dead_letters = s.dead_letters)
    gateway.dlq_source_ne_empty hreal hop (fun _ _ => rfl)
  refine wp_absurd (wp_and hhonest hlost) (fun _ _ hend => hend.2) ?_
  rintro e s' ⟨⟨hletter, -⟩, hsame⟩
  obtain ⟨entry, hentry, -⟩ := hletter backend h hfails
  rw [hsame] at hentry
  exact absurd hentry (by simp)

theorem answersHonestly_neither {exc' : PyErr} (hop : request.operation ≠ "")
    (hstub : backends.stub request = .error exc') :
    AnswersHonestly env gateway backends request s := by
  obtain ⟨exc, hreal⟩ := real_call_of_failure env gateway hfails
  unfold AnswersHonestly
  rw [wp_of_run_eq (execute_routed h)]
  refine wp_call_both_neither gateway.dlq_source_ne_empty hreal hstub hop
    fun log reason text => ⟨⟨?_, ?_, ?_⟩, deadLettered_of_entry rfl⟩
  · intro hstatus
    cases hstatus
  · intro b hb live hlive hsuccess
    obtain rfl : backend = b := Option.some.inj (h.symm.trans hb)
    exact absurd ⟨live, hlive, hsuccess⟩ hfails
  · intro _ _ hstatus
    cases hstatus

theorem answersHonestly_stub {own : GatewayResponse} (hop : request.operation ≠ "")
    (hstub : backends.stub request = .ok own) :
    AnswersHonestly env gateway backends request s ↔
      own.status = .SUCCESS ∧ ¬ (gateway = .OmsGateway ∧ request.operation ∈ OMS_WRITES) := by
  obtain ⟨exc, hreal⟩ := real_call_of_failure env gateway hfails
  unfold AnswersHonestly
  rw [wp_of_run_eq (execute_routed h)]
  constructor
  · intro hhonest
    have hend := wp_call_both_stub (s := { s with live_backend := some backend })
      (Q := fun response _ => response.status = .SUCCESS) (E := fun _ _ => False)
      gateway.dlq_source_ne_empty hreal hstub hop (fun _ _ => rfl)
    obtain ⟨response, s', -, ⟨hresponse, -⟩, hstatus⟩ :=
      wp_returned (wp_mono (wp_and hhonest hend) (fun _ _ => id) fun _ _ hraised => hraised.2)
    constructor
    · obtain ⟨own', hown', hsuccess, -⟩ := hresponse.backed hstatus
      rcases hown' with hown' | ⟨b, hb, live, hlive, rfl⟩
      · obtain rfl : own = own' := Except.ok.inj (hstub.symm.trans hown')
        exact hsuccess
      · obtain rfl : backend = b := Option.some.inj (h.symm.trans hb)
        rw [gateway.on_live_response_status] at hsuccess
        exact absurd ⟨live, hlive, hsuccess⟩ hfails
    · rintro ⟨homs, hwrite⟩
      exact hfails (hresponse.written homs hwrite hstatus backend h)
  · rintro ⟨hsuccess, hwrite⟩
    refine wp_call_both_stub gateway.dlq_source_ne_empty hreal hstub hop
      fun log reason => ⟨⟨?_, ?_, ?_⟩, deadLettered_of_entry rfl⟩
    · intro _
      exact ⟨own, .inl hstub, hsuccess, rfl⟩
    · intro b hb live hlive hlivesuccess
      obtain rfl : backend = b := Option.some.inj (h.symm.trans hb)
      exact absurd ⟨live, hlive, hlivesuccess⟩ hfails
    · intro homs hmem
      exact absurd ⟨homs, hmem⟩ hwrite

end failed

end gateways

/-- Whatever the live backend and the stub do, a router answers as they did and
accounts for a failed live call just when it falls back safely. -/
theorem a_router_answers_honestly_when_it_falls_back_safely (env : LiveEnv) (gateway : LiveGateway)
    (backends : Backends) (request : GatewayRequest) (s : RouterState) :
    AnswersHonestly env gateway backends request s ↔
      FallsBackSafely env gateway backends request s := by
  cases h : gateway.router.routed env backends request s with
  | none => exact iff_of_true (answersHonestly_unrouted h) (by simp [FallsBackSafely, h])
  | some backend =>
    have hsafe : FallsBackSafely env gateway backends request s ↔
        (¬ Succeeds (backend.execute request) → request.operation ≠ "" ∧
          ∀ own, backends.stub request = .ok own →
            own.status = .SUCCESS ∧
              ¬ (gateway = .OmsGateway ∧ request.operation ∈ OMS_WRITES)) := by
      simp [FallsBackSafely, h]
    rw [hsafe]
    by_cases hlive : Succeeds (backend.execute request)
    · exact iff_of_true (answersHonestly_live h hlive) (absurd hlive)
    · by_cases hop : request.operation = ""
      · refine iff_of_false (not_answersHonestly_unnamed h hlive hop) ?_
        intro hnamed
        exact (hnamed hlive).1 hop
      · cases hstub : backends.stub request with
        | error exc =>
          exact iff_of_true (answersHonestly_neither h hlive hop hstub) (by simp [hop])
        | ok own =>
          rw [answersHonestly_stub h hlive hop hstub]
          simp [hlive, hop]

/-! ## An answer that nothing stands behind -/

def liveEnv : LiveEnv where
  getenv name := if name = "ASOE_OMS_DRIVER" then some "live" else some "1.0"
  now := 0
  lower := id
  redact_for_azure_di := id

/-- A live backend that is down. -/
def deadBackend : LiveBackend where
  supports := none
  execute := fun _ => .error ⟨"RuntimeError", "OMS 503"⟩

def omsRequest (operation : String) : GatewayRequest where
  gateway_name := "oms"
  operation := operation
  params := [("case_id", .str "PO-9001"), ("tenant_id", .str "t1")]
  trace_id := "trace"

/-- A stub that has no answer to a read, and one to a write. -/
def omsBackends : Backends where
  stub request :=
    if request.operation = "write_order_acceptance" then
      .ok { gateway_name := "oms", operation := request.operation, status := .SUCCESS
            data := [("oms_order_id", .str "OMS-STUB-1")] }
    else
      .ok { gateway_name := "oms", operation := request.operation, status := .FAILED
            error := some "no recording" }
  live_backend_factory := some (.ok (some deadBackend))

def omsState : RouterState := { live_backend := some deadBackend }

theorem oms_routed (operation : String) :
    LiveGateway.OmsGateway.router.routed liveEnv omsBackends (omsRequest operation) omsState =
      some deadBackend := by
  have hcase : LiveRouter.param (omsRequest operation) "case_id" "" = "PO-9001" := rfl
  refine routed_of_eligible (by decide +kernel) rfl rfl ?_ ?_
  · rw [hcase]
    decide
  · rw [hcase]
    decide +kernel

theorem deadBackend_fails (operation : String) :
    ¬ Succeeds (deadBackend.execute (omsRequest operation)) := by
  rintro ⟨_, h, -⟩
  cases h

theorem oms_real_call (operation : String) :
    LiveGateway.OmsGateway.router.real_call liveEnv deadBackend (omsRequest operation) =
      .error ⟨"RuntimeError", "OMS 503"⟩ := rfl

theorem oms_read_stub : omsBackends.stub (omsRequest "get_inventory_snapshot") =
    .ok { gateway_name := "oms", operation := "get_inventory_snapshot", status := .FAILED
          error := some "no recording" } := by
  simp [omsBackends, omsRequest]

theorem oms_write_stub : omsBackends.stub (omsRequest "write_order_acceptance") =
    .ok { gateway_name := "oms", operation := "write_order_acceptance", status := .SUCCESS
          data := [("oms_order_id", .str "OMS-STUB-1")] } := by
  simp [omsBackends, omsRequest]

/-- A read is answered with SUCCESS though both calls failed, and a write though
the order was never written. -/
theorem some_answers_are_not_honest :
    (wp (LiveGateway.OmsGateway.router.execute liveEnv omsBackends
          (omsRequest "get_inventory_snapshot"))
        (fun response _ => response.status = .SUCCESS ∧ response.data = [])
        (fun _ _ => False) omsState ∧
      ¬ AnswersHonestly liveEnv .OmsGateway omsBackends (omsRequest "get_inventory_snapshot")
        omsState) ∧
    wp (LiveGateway.OmsGateway.router.execute liveEnv omsBackends
          (omsRequest "write_order_acceptance"))
        (fun response _ => response.status = .SUCCESS ∧
          response.data = [("oms_order_id", .str "OMS-STUB-1")])
        (fun _ _ => False) omsState ∧
      ¬ AnswersHonestly liveEnv .OmsGateway omsBackends (omsRequest "write_order_acceptance")
        omsState := by
  have hread : (omsRequest "get_inventory_snapshot").operation ≠ "" := by decide
  have hwrite : (omsRequest "write_order_acceptance").operation ≠ "" := by decide
  have hsource : LiveGateway.OmsGateway.router.dlq_source ≠ "" :=
    LiveGateway.OmsGateway.dlq_source_ne_empty
  refine ⟨⟨?_, ?_⟩, ?_, ?_⟩
  · rw [wp_of_run_eq (execute_routed (oms_routed _))]
    exact wp_call_both_stub hsource (oms_real_call _) oms_read_stub hread
      fun _ _ => ⟨rfl, rfl⟩
  · rw [answersHonestly_stub (oms_routed _) (deadBackend_fails _) hread oms_read_stub]
    rintro ⟨hsuccess, -⟩
    cases hsuccess
  · rw [wp_of_run_eq (execute_routed (oms_routed _))]
    exact wp_call_both_stub hsource (oms_real_call _) oms_write_stub hwrite
      fun _ _ => ⟨rfl, rfl⟩
  · rw [answersHonestly_stub (oms_routed _) (deadBackend_fails _) hwrite oms_write_stub]
    rintro ⟨-, hsafe⟩
    exact hsafe ⟨rfl, by simp [OMS_WRITES, omsRequest]⟩

end asoe
