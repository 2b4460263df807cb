-- The supergroup of a customer mail (email_intelligence): a live model runs in
-- the shadow of the deterministic backend, or it gates, and each of its
-- decisions is recorded. The sink of the records and the log lines are left out.
import Asoe.FallbackBackend
import Asoe.Lib.PyArith

open py

namespace asoe.email_intelligence

/-! ## Decisions -/

inductive AllowedCustomerSupergroup where
  | SG_NEW_ORDER | SG_ORDER_CHANGE | SG_ORDER_STATUS_INQUIRY | SG_SHIPMENT_DISCREPANCY
  | SG_RETURN_RGA | SG_LOGISTICS_CHANGE | SG_BILLING_DISPUTE | SG_DOCUMENTATION
  | SG_COMPLAINT_SERVICE | SG_COMPLAINT_PRODUCT | SG_EDI_ESCALATION | SG_NEEDS_TRIAGE
  deriving DecidableEq

namespace AllowedCustomerSupergroup

def value : AllowedCustomerSupergroup → String
  | SG_NEW_ORDER => "SG_NEW_ORDER"
  | SG_ORDER_CHANGE => "SG_ORDER_CHANGE"
  | SG_ORDER_STATUS_INQUIRY => "SG_ORDER_STATUS_INQUIRY"
  | SG_SHIPMENT_DISCREPANCY => "SG_SHIPMENT_DISCREPANCY"
  | SG_RETURN_RGA => "SG_RETURN_RGA"
  | SG_LOGISTICS_CHANGE => "SG_LOGISTICS_CHANGE"
  | SG_BILLING_DISPUTE => "SG_BILLING_DISPUTE"
  | SG_DOCUMENTATION => "SG_DOCUMENTATION"
  | SG_COMPLAINT_SERVICE => "SG_COMPLAINT_SERVICE"
  | SG_COMPLAINT_PRODUCT => "SG_COMPLAINT_PRODUCT"
  | SG_EDI_ESCALATION => "SG_EDI_ESCALATION"
  | SG_NEEDS_TRIAGE => "SG_NEEDS_TRIAGE"

def all : List AllowedCustomerSupergroup :=
  [SG_NEW_ORDER, SG_ORDER_CHANGE, SG_ORDER_STATUS_INQUIRY, SG_SHIPMENT_DISCREPANCY, SG_RETURN_RGA,
    SG_LOGISTICS_CHANGE, SG_BILLING_DISPUTE, SG_DOCUMENTATION, SG_COMPLAINT_SERVICE,
    SG_COMPLAINT_PRODUCT, SG_EDI_ESCALATION, SG_NEEDS_TRIAGE]

end AllowedCustomerSupergroup

/-- A decision, whose confidence is between zero and one. -/
structure EmailSupergroupDecision where
  supergroup_code : AllowedCustomerSupergroup
  confidence : PyFloat
  rationale : Option String := none
  low : (PyFloat.fin 0).le confidence = true
  high : confidence.le (.fin 1) = true

/-! ## The deterministic backend -/

def EMAIL_SUPERGROUP_HINT_KEY : String := "email_supergroup_hint"

/-- A value that `in` can look up in a set. -/
def hashable : PyVal → Bool
  | .list _ | .dict _ => false
  | _ => true

/-- `hint in _CUSTOMER_SUPERGROUPS`. -/
def supergroup_of_hint (hint : PyVal) : Except PyErr (Option AllowedCustomerSupergroup) :=
  if hashable hint then .ok (AllowedCustomerSupergroup.all.find? fun g => PyVal.str g.value = hint)
  else .error ⟨"TypeError", "unhashable type: '" ++ type_name hint ++ "'"⟩

theorem hint_low : (PyFloat.fin 0).le (lit (95 / 100)) = true := by decide +kernel

theorem hint_high : (lit (95 / 100)).le (.fin 1) = true := by decide +kernel

def hinted (g : AllowedCustomerSupergroup) : EmailSupergroupDecision where
  supergroup_code := g
  confidence := lit (95 / 100)
  rationale := some ("deterministic backend: producer hint " ++ py.reprStr g.value)
  low := hint_low
  high := hint_high

theorem zero_low : (PyFloat.fin 0).le (.fin 0) = true := by decide

theorem zero_high : (PyFloat.fin 0).le (.fin 1) = true := by decide

def unhinted : EmailSupergroupDecision where
  supergroup_code := .SG_NEEDS_TRIAGE
  confidence := .fin 0
  rationale := some "no usable supergroup hint — routed to triage"
  low := zero_low
  high := zero_high

/-- `DeterministicFallbackBackend.classify_email_supergroup`. -/
def deterministic (event : OrderEvent) : Except PyErr EmailSupergroupDecision := do
  match ← supergroup_of_hint (metadata_get event EMAIL_SUPERGROUP_HINT_KEY) with
  | some g => return if g = .SG_NEEDS_TRIAGE then unhinted else hinted g
  | none => return unhinted

/-! ## Backends -/

/-- Where the decision of a backend comes from: the live model, or the deterministic classifier
that the backend itself falls back to. The classifier does not see it. -/
inductive Source where
  | live_model | own_fallback
  deriving DecidableEq

inductive Answer where
  | missing_method
  | raises (e : PyErr)
  | decides (decision : EmailSupergroupDecision) (source : Source)

inductive Backend where
  | deterministic
  | live (answers : OrderEvent → Answer)

def own_fallback (event : OrderEvent) : Answer :=
  match deterministic event with
  | .ok decision => .decides decision .own_fallback
  | .error e => .raises e

/-- `OutlinesBackend`, which has no model for mails. -/
def OutlinesBackend : Backend := .live own_fallback

/-- `RemoteLLMBackend`: what `_invoke` returns, `none` for no decision, or raises. -/
def RemoteLLMBackend (invoke : OrderEvent → Except PyErr (Option EmailSupergroupDecision)) :
    Backend :=
  .live fun event =>
    match invoke event with
    | .ok (some decision) => .decides decision .live_model
    | .ok none => own_fallback event
    | .error e => .raises e

/-! ## Records -/

structure ShadowObservation where
  candidate_supergroup : AllowedCustomerSupergroup
  candidate_confidence : PyFloat
  gating_supergroup : AllowedCustomerSupergroup
  agreed : Bool
  case_ref : Option String

structure CalibrationRecord where
  predicted_supergroup : AllowedCustomerSupergroup
  confidence : PyFloat
  backend_kind : String
  case_ref : Option String
  correct : Option Bool := none

structure Records where
  observations : List ShadowObservation
  buffer : List CalibrationRecord

def record_prediction (decision : EmailSupergroupDecision) (backend_kind : String)
    (case_ref : Option String) (r : Records) : Records :=
  { r with buffer := r.buffer ++
      [⟨decision.supergroup_code, decision.confidence, backend_kind, case_ref, none⟩] }

def observe (candidate gating : EmailSupergroupDecision) (case_ref : Option String) (r : Records) :
    Records :=
  let agreed := decide (candidate.supergroup_code = gating.supergroup_code)
  let obs := ⟨candidate.supergroup_code, candidate.confidence, gating.supergroup_code, agreed,
    case_ref⟩
  record_prediction candidate "live:shadow" case_ref
    { r with observations := r.observations ++ [obs] }

/-! ## The classifier -/

def DEFAULT_CONFIDENCE_THRESHOLD : PyFloat := lit (85 / 100)

/-- `_resolve_threshold`, with the value of `ASOE_EMAIL_SUPERGROUP_THRESHOLD`. -/
def resolve_threshold (explicit : Option PyFloat) (env : Option String) : PyFloat :=
  match explicit with
  | some x => x
  | none =>
    let raw := strip (env.getD "")
    if raw = "" then DEFAULT_CONFIDENCE_THRESHOLD
    else (floatOfText? raw).getD DEFAULT_CONFIDENCE_THRESHOLD

/-- `_shadow_active`, with the value of `ASOE_EMAIL_SUPERGROUP_SHADOW`. -/
def shadow_active (env : Option String) : Bool := strip (env.getD "1") ≠ "0"

structure EmailSupergroupClassifier where
  injected_backend : Option Backend
  threshold : PyFloat

def EmailSupergroupClassifier.init (backend : Option Backend)
    (confidence_threshold : Option PyFloat) (env : Option String) : EmailSupergroupClassifier :=
  ⟨backend, resolve_threshold confidence_threshold env⟩

/-- A call of `classify`, with what the router resolves to and the environment at that time. -/
structure Call where
  event : OrderEvent
  router : Backend
  shadow_env : Option String

def safe_call (backend : Backend) (event : OrderEvent) : Except PyErr EmailSupergroupDecision :=
  match backend with
  | .deterministic => deterministic event
  | .live answers =>
    match answers event with
    | .decides decision _ => .ok decision
    | .missing_method | .raises _ => deterministic event

def is_deterministic : Backend → Bool
  | .deterministic => true
  | .live _ => false

def apply_threshold (threshold : PyFloat) (decision : EmailSupergroupDecision) :
    EmailSupergroupDecision :=
  if decision.confidence.lt threshold then
    { decision with
      supergroup_code := .SG_NEEDS_TRIAGE
      rationale := some ("confidence " ++ fixed 2 decision.confidence ++ " < " ++ fixed 2 threshold
        ++ " → triage (would have been " ++ decision.supergroup_code.value ++ ")") }
  else decision

def classify (c : EmailSupergroupClassifier) (call : Call) (r : Records) :
    Except PyErr EmailSupergroupDecision × Records :=
  let backend := c.injected_backend.getD call.router
  match safe_call backend call.event with
  | .error e => (.error e, r)
  | .ok primary =>
    let router_live := c.injected_backend.isNone && !is_deterministic backend
    let case_ref := some call.event.order_id
    if router_live && shadow_active call.shadow_env then
      match deterministic call.event with
      | .error e => (.error e, r)
      | .ok gating => (.ok (apply_threshold c.threshold gating), observe primary gating case_ref r)
    else
      (.ok (apply_threshold c.threshold primary),
        if router_live then record_prediction primary "live:gating" case_ref r else r)

/-! ## Runs -/

structure Step where
  call : Call
  before : Records
  after : Records
  outcome : Except PyErr EmailSupergroupDecision

def step (c : EmailSupergroupClassifier) (call : Call) (r : Records) : Step :=
  ⟨call, r, (classify c call r).2, (classify c call r).1⟩

def run (c : EmailSupergroupClassifier) : List Call → Records → List Step
  | [], _ => []
  | call :: calls, r => step c call r :: run c calls (step c call r).after

end asoe.email_intelligence
