-- The outbox of gateway effects: what each effect left behind, the queue of
-- the failed ones, and the worker that runs them again.
import Asoe.Contracts
import Asoe.Lib.Prog

namespace asoe

open py prog

/-! ## Gateway calls and outbox entries -/

/-- One call of an effect gateway. `origin` names the record that the call
was made for; the service does not keep it, only the proofs read it. -/
structure GatewayCall where
  origin : Option String
  request : GatewayRequest
  response : GatewayResponse
  deriving DecidableEq

structure OutboxEntry where
  id : ℕ
  origin : Option String
  tenant_id : String
  trace_id : Option String
  recipe : Option RecipeName
  gateway : String
  operation : String
  status : GatewayStatus
  recipe_status : PyVal
  committed : Bool
  needs_compensation : Bool
  error : Option String
  params : PyDict
  attempts : ℕ := 0
  escalated : Bool := false
  compensated : Bool := false
  deriving DecidableEq

/-- What a graph run changes outside of its own state. -/
structure External where
  outbox : List OutboxEntry := []
  calls : List GatewayCall := []
  deriving DecidableEq

/-- The gateways: the answer to the `n`-th effect call may be any. -/
abbrev Gateways := ℕ → GatewayRequest → GatewayResponse

/-- `GatewayExecutor().run(request)` for an effect. -/
def run_gateway (gateway : Gateways) (origin : Option String) (request : GatewayRequest)
    (ext : External) : External × GatewayResponse :=
  let response := gateway ext.calls.length request
  ({ ext with calls := ext.calls ++ [⟨origin, request, response⟩] }, response)

/-- A success is committed; anything else waits for compensation. -/
def record_effect (origin : Option String) (tenant_id gateway operation : String)
    (status : GatewayStatus) (recipe : Option RecipeName) (recipe_status : PyVal)
    (trace_id : Option String) (error : Option String) (params : PyDict) (ext : External) :
    External :=
  let committed := decide (status = .SUCCESS)
  { ext with outbox := ext.outbox ++
      [{ id := ext.outbox.length, origin := origin, tenant_id := tenant_id, trace_id := trace_id,
         recipe := recipe, gateway := gateway, operation := operation, status := status,
         recipe_status := recipe_status, committed := committed,
         needs_compensation := !committed, error := error, params := params }] }

/-! ## The reconciliation worker -/

def OutboxEntry.isPending (e : OutboxEntry) : Bool :=
  e.needs_compensation && !e.compensated && !e.escalated

/-- The pending entries, of one tenant or of all of them. -/
def pending_compensation (tenant_id : Option String) (outbox : List OutboxEntry) :
    List OutboxEntry :=
  outbox.filter fun e => e.isPending && (tenant_id.all fun t => e.tenant_id = t)

/-- Apply `f` to the entry with this id. -/
def update_entry (f : OutboxEntry → OutboxEntry) (entry_id : ℕ) (outbox : List OutboxEntry) :
    List OutboxEntry :=
  outbox.map fun e => if e.id = entry_id then f e else e

def OutboxEntry.attempted (e : OutboxEntry) : OutboxEntry := { e with attempts := e.attempts + 1 }

def OutboxEntry.markCompensated (e : OutboxEntry) : OutboxEntry := { e with compensated := true }

def OutboxEntry.markEscalated (e : OutboxEntry) : OutboxEntry := { e with escalated := true }

def increment_attempts : ℕ → List OutboxEntry → List OutboxEntry :=
  update_entry OutboxEntry.attempted

def mark_compensated : ℕ → List OutboxEntry → List OutboxEntry :=
  update_entry OutboxEntry.markCompensated

def mark_escalated : ℕ → List OutboxEntry → List OutboxEntry :=
  update_entry OutboxEntry.markEscalated

/-- The id of the trace that a retry carries. -/
def retry_trace_id (e : OutboxEntry) : String :=
  match e.trace_id with
  | some t => if t = "" then "outbox-reconcile" else t
  | none => "outbox-reconcile"

def retry_request (e : OutboxEntry) : GatewayRequest :=
  { gateway_name := e.gateway, operation := e.operation, params := e.params,
    trace_id := retry_trace_id e }

/-- One turn of the worker: the effect of `e` is run again, and `e` is
compensated, escalated or left pending. -/
def reconcile_entry (gateway : Gateways) (max_attempts : ℕ) (ext : External) (e : OutboxEntry) :
    External :=
  let attempts := e.attempts + 1
  let (ext, response) := run_gateway gateway e.origin (retry_request e)
    { ext with outbox := increment_attempts e.id ext.outbox }
  if response.status = .SUCCESS then { ext with outbox := mark_compensated e.id ext.outbox }
  else if attempts ≥ max_attempts then { ext with outbox := mark_escalated e.id ext.outbox }
  else ext

/-- `reconcile_pending(...)`. The queue is read once, at the start. -/
def reconcile_pending (gateway : Gateways) (tenant_id : Option String) (max_attempts : ℕ)
    (ext : External) : External :=
  (pending_compensation tenant_id ext.outbox).foldl (reconcile_entry gateway max_attempts) ext

end asoe
