-- The backend that forwards the calls of the graph to a remote model
-- (constraints/llm_backend.py), with the daily budget (llm/budget.py) and the
-- circuit breaker. What the provider does is part of the call's environment;
-- the log of the backend's own steps is kept beside its state.
import Asoe.AnalysisAdapters
import Asoe.Breakers
import Asoe.EmailSupergroups
import Asoe.PromptMessages

open py prog

namespace asoe.llm

/-! ## The budget -/

structure TokenUsage where
  input_tokens : ℤ := 0
  output_tokens : ℤ := 0
  cache_read_input_tokens : ℤ := 0
  cache_creation_input_tokens : ℤ := 0
  deriving DecidableEq

structure Rates where
  input : PyFloat
  output : PyFloat
  cache_read : PyFloat
  cache_write_5m : PyFloat

def LLM_PRICING_USD_PER_M_TOKENS : List (String × Rates) :=
  let opus : Rates := ⟨.fin 5, .fin 25, lit (1 / 2), lit (25 / 4)⟩
  [("claude-opus-4-7", opus), ("claude-opus-4-6", opus),
    ("claude-sonnet-4-6", ⟨.fin 3, .fin 15, lit (3 / 10), lit (15 / 4)⟩),
    ("claude-haiku-4-5", ⟨.fin 1, .fin 5, lit (1 / 10), lit (5 / 4)⟩)]

/-- `tokens * rate / per_m`. -/
def charge (tokens : ℤ) (rate : PyFloat) : Except PyErr PyFloat :=
  match PyFloat.ofInt? tokens with
  | some x => .ok (quotient (x.mul rate) (.fin 1000000))
  | none => .error ⟨"OverflowError", "int too large to convert to float"⟩

def estimate_cost_usd (model_id : String) (usage : TokenUsage) : Except PyErr PyFloat :=
  match dict.get LLM_PRICING_USD_PER_M_TOKENS model_id with
  | none => .ok (.fin 0)
  | some rates => do
    let input ← charge usage.input_tokens rates.input
    let output ← charge usage.output_tokens rates.output
    let cache_read ← charge usage.cache_read_input_tokens rates.cache_read
    let cache_write ← charge usage.cache_creation_input_tokens rates.cache_write_5m
    return ((input.add output).add cache_read).add cache_write

def LLM_BUDGET_SOFT_WARN_PCT : PyFloat := lit (8 / 10)
def LLM_BUDGET_HARD_BLOCK_PCT : PyFloat := .fin 1

structure BudgetState where
  date_iso : String
  consumed_usd : PyFloat
  budget_usd : PyFloat
  consumed_pct : PyFloat
  soft_warn : Bool
  hard_block : Bool

def build_state (consumed budget : PyFloat) (date_iso : String) : BudgetState :=
  let pct := if (PyFloat.fin 0).lt budget then quotient consumed budget else .inf false
  { date_iso := date_iso
    consumed_usd := consumed.roundTo 6
    budget_usd := budget.roundTo 6
    consumed_pct := pct
    soft_warn := LLM_BUDGET_SOFT_WARN_PCT.le pct
    hard_block := LLM_BUDGET_HARD_BLOCK_PCT.le pct }

structure InMemoryBudgetTracker where
  daily_budget_usd : PyFloat := .fin 5
  counts : List (String × PyFloat) := []

namespace InMemoryBudgetTracker

def snapshot (t : InMemoryBudgetTracker) (date_iso : String) : BudgetState :=
  build_state ((dict.get t.counts date_iso).getD (.fin 0)) t.daily_budget_usd date_iso

def consume (t : InMemoryBudgetTracker) (amount_usd : PyFloat) (date_iso : String) :
    Except PyErr (BudgetState × InMemoryBudgetTracker) :=
  if amount_usd.lt (.fin 0) then .error ⟨"ValueError", "amount_usd must be non-negative"⟩
  else
    let consumed := ((dict.get t.counts date_iso).getD (.fin 0)).add amount_usd
    .ok (build_state consumed t.daily_budget_usd date_iso,
      { t with counts := dict.set t.counts date_iso consumed })

end InMemoryBudgetTracker

/-! ## The provider -/

structure ToolCallResult where
  tool_name : String
  arguments : PyDict
  request_id : Option String
  model_id : String
  usage : TokenUsage
  latency_s : PyFloat
  stop_reason : Option String
  deriving DecidableEq

/-- How a provider call ends; of a `ProviderError` the fields that reach a trace. -/
inductive ProviderOutcome where
  | result (result : ToolCallResult)
  | provider_error (kind : String) (request_id : Option String)
  | exception (e : PyErr)

structure Request where
  system : List SystemBlock
  user_message : String
  tool_name : String
  tool_description : String
  tool_input_schema : PyVal
  max_tokens : ℤ

/-- `int(latency_s * 1000)`. -/
def millis (latency_s : PyFloat) : Except PyErr ℤ := (PyVal.float (latency_s.mul (.fin 1000))).toInt

/-- The difference of two readings of the monotonic clock, as milliseconds too. -/
structure Elapsed where
  seconds : PyFloat
  ms : ℤ
  millis_eq : millis seconds = .ok ms

/-- What a call meets outside the backend: the dates, the clocks and the provider. -/
structure CallEnv where
  snapshot_date : String
  consume_date : String
  acquired_at : PyFloat
  elapsed : Elapsed
  recorded_at : LLMCircuitBreaker.Readings
  call_with_tool : Request → ProviderOutcome

/-! ## Decisions -/

/-- An instance of the schema of a task; the confidence is between zero and one. -/
inductive Decision where
  | intent (intent : Intent) (confidence : PyFloat) (rationale : Option String)
  | recipe (recipe_name : RecipeName)
  | shadow (status : ShadowStatus) (reasons policy_hits : List String)
  | email_supergroup (supergroup_code : email_intelligence.AllowedCustomerSupergroup)
      (confidence : PyFloat) (rationale : Option String)
  deriving DecidableEq

/-- `isinstance` with the schema of the task. -/
def Decision.task : Decision → LLMTask
  | intent .. => .intent
  | recipe .. => .recipe
  | shadow .. => .shadow
  | email_supergroup .. => .email_supergroup

def invalid (text : String) : PyErr := ⟨"ValidationError", text⟩

/-- A required field. -/
def required (d : PyDict) (key : String) : Except PyErr PyVal :=
  match dict.get d key with
  | some v => .ok v
  | none => .error (invalid "Field required")

/-- `extra="forbid"`. -/
def forbid_extra (d : PyDict) (fields : List String) : Except PyErr Unit :=
  if d.all fun p => p.1 ∈ fields then .ok ()
  else .error (invalid "Extra inputs are not permitted")

/-- A value of a `Literal`. -/
def literal {α : Type} (value : α → String) (all : List α) (v : PyVal) : Except PyErr α :=
  match all.find? fun a => PyVal.str (value a) = v with
  | some a => .ok a
  | none => .error (invalid "Input should be one of the literals")

/-- `Field(ge=0.0, le=1.0)`. -/
def unit_float (v : PyVal) : Except PyErr PyFloat := do
  match ← analysis.opt_number v with
  | some x =>
    if (PyFloat.fin 0).le x ∧ x.le (.fin 1) then return x
    else throw (invalid "Input should be between 0 and 1")
  | none => throw (invalid "Input should be a valid number")

def text_list : PyVal → Except PyErr (List String)
  | .list xs => xs.mapM fun v =>
    match v with
    | .str s => .ok s
    | _ => .error (invalid "Input should be a valid string")
  | _ => .error (invalid "Input should be a valid list")

def allowedIntents : List Intent :=
  [.CONTRACTUAL_CORRECTION, .CREDIT_BLOCK, .MASS_PRICING_ERROR, .DUPLICATE_PO, .PRICE_HOLD_RELEASE,
    .EDI_MISMATCH, .BACK_ORDER, .OVER_MAX, .MIN_ORDER_QTY, .PALLET_CONFIG, .DELIVERY_DELAY,
    .MANUAL_ORDER_INTAKE]

def allowedRecipes : List RecipeName :=
  [.PriceAdjustmentRecipe, .CreditHoldReleaseRecipe, .DuplicatePORecipe, .PriceHoldReleaseRecipe,
    .EdiMismatchRecipe, .BackOrderResolutionRecipe, .OverMaxTrimRecipe, .MOQRoundUpRecipe,
    .PalletAlignmentRecipe, .DeliveryDelayResolutionRecipe, .ManualOrderIntakeRecipe,
    .SubmitToErpRecipe, .ReplyDraftRecipe, .EmailOrderEntryRecipe]

/-- `schema_cls.model_validate`. -/
def model_validate (task : LLMTask) (arguments : PyDict) : Except PyErr Decision := do
  match task with
  | .intent =>
    forbid_extra arguments ["intent", "confidence", "rationale"]
    let intent ← literal Intent.value allowedIntents (← required arguments "intent")
    let confidence ← unit_float (← required arguments "confidence")
    let rationale ← analysis.opt_text ((dict.get arguments "rationale").getD .none)
    return .intent intent confidence rationale
  | .recipe =>
    forbid_extra arguments ["recipe_name"]
    return .recipe (← literal RecipeName.value allowedRecipes (← required arguments "recipe_name"))
  | .shadow =>
    forbid_extra arguments ["status", "reasons", "policy_hits"]
    let status ← literal ShadowStatus.value [.GREEN, .YELLOW, .RED] (← required arguments "status")
    let reasons ← text_list (← required arguments "reasons")
    let policy_hits ← text_list ((dict.get arguments "policy_hits").getD (.list []))
    return .shadow status reasons policy_hits
  | .email_supergroup =>
    forbid_extra arguments ["supergroup_code", "confidence", "rationale"]
    let supergroup_code ← literal email_intelligence.AllowedCustomerSupergroup.value
      email_intelligence.AllowedCustomerSupergroup.all (← required arguments "supergroup_code")
    let confidence ← unit_float (← required arguments "confidence")
    let rationale ← analysis.opt_text ((dict.get arguments "rationale").getD .none)
    return .email_supergroup supergroup_code confidence rationale

/-! ## The trace of a call -/

/-- The tasks that a trace can name. -/
def TRACE_TASKS : List String := ["intent", "recipe", "shadow", "shadow_llm"]

/-- The telemetry of one call. -/
structure LLMCallTrace where
  task : String
  task_mem : task ∈ TRACE_TASKS
  provider : String
  model_id : String
  request_id : Option String
  prompt_hash : String
  tool_call_hash : String
  usage : TokenUsage
  latency_ms : ℤ
  cost_usd_estimate : PyFloat
  stop_reason : Option String
  skill_md_version : String
  fallback_to_deterministic : Bool
  fallback_reason : Option String
  deriving DecidableEq

structure RemoteLLMBackend where
  provider_name : String
  /-- The injected backend, asked for the task. -/
  fallback : LLMTask → GraphState → Except PyErr (Option Decision)
  skill_catalog : String
  json_schema : LLMTask → PyVal
  max_tokens : ℤ := 256
  isprintable : Char → Bool

namespace RemoteLLMBackend

variable (b : RemoteLLMBackend)

def skill_md_version : String :=
  if b.skill_catalog = "" then "" else sha256.hexdigest b.skill_catalog.toList

def request (task : LLMTask) (state : GraphState) : Request where
  system := system_blocks_for b.skill_catalog task.directive
  user_message := user_message b.isprintable task state
  tool_name := task.tool_name
  tool_description := task.tool_description
  tool_input_schema := sort_keys (b.json_schema task)
  max_tokens := b.max_tokens

def prompt_hash (task : LLMTask) : String :=
  hash_prompt_prefix (system_blocks_for b.skill_catalog task.directive) task.tool_name
    task.tool_description (sort_keys (b.json_schema task))

/-- The constructor of a trace checks the task. -/
def trace (task : LLMTask) (fields : (task.value ∈ TRACE_TASKS) → LLMCallTrace) :
    Except PyErr LLMCallTrace :=
  if h : task.value ∈ TRACE_TASKS then .ok (fields h)
  else .error (invalid "Input should be 'intent', 'recipe', 'shadow' or 'shadow_llm'")

def fallback_trace (task : LLMTask) (fallback_reason : String) (request_id : Option String)
    (latency_ms : ℤ) : Except PyErr LLMCallTrace :=
  trace task fun h =>
    { task := task.value, task_mem := h, provider := b.provider_name, model_id := ""
      request_id := request_id, prompt_hash := b.prompt_hash task, tool_call_hash := "", usage := {}
      latency_ms := latency_ms, cost_usd_estimate := .fin 0, stop_reason := none
      skill_md_version := b.skill_md_version, fallback_to_deterministic := true
      fallback_reason := some fallback_reason }

/-- The trace of a result, whose arguments the schema accepted or rejected. -/
def result_trace (task : LLMTask) (result : ToolCallResult) (cost_usd : PyFloat)
    (tool_call_hash : String) (fallback_reason : Option String) : Except PyErr LLMCallTrace := do
  let latency_ms ← millis result.latency_s
  trace task fun h =>
    { task := task.value, task_mem := h, provider := b.provider_name, model_id := result.model_id
      request_id := result.request_id, prompt_hash := b.prompt_hash task
      tool_call_hash := tool_call_hash, usage := result.usage, latency_ms := latency_ms
      cost_usd_estimate := cost_usd, stop_reason := result.stop_reason
      skill_md_version := b.skill_md_version, fallback_to_deterministic := fallback_reason.isSome
      fallback_reason := fallback_reason }

/-- `_success_trace_then_fallback`. A latency of zero stays zero. -/
def success_trace_then_fallback (task : LLMTask) (result : ToolCallResult) (cost_usd : PyFloat) :
    Except PyErr LLMCallTrace := b.result_trace task result cost_usd "" (some "validation_error")

def success_trace (task : LLMTask) (result : ToolCallResult) (cost_usd : PyFloat) :
    Except PyErr LLMCallTrace :=
  b.result_trace task result cost_usd (hash_tool_call task.tool_name result.arguments) none

end RemoteLLMBackend

/-! ## A call -/

/-- What the backend does to the breaker, the budget and its fallback. -/
inductive Event where
  | granted | denied
  | recorded (error : Bool) (latency_s : PyFloat)
  | returned (result : ToolCallResult)
  | consumed (amount_usd : PyFloat)
  | fell_back
  deriving DecidableEq

structure World where
  budget : InMemoryBudgetTracker := {}
  breaker : LLMCircuitBreaker := {}
  last_call_trace : Option LLMCallTrace := none
  /-- The steps of all calls, the last one at the end. -/
  log : List Event := []

abbrev CallM := EStateM PyErr World

def note (e : Event) : CallM Unit := modify fun w => { w with log := w.log ++ [e] }

/-- `self._breaker.acquire()`, with the exception of a breaker that does not grant the call. -/
def acquire (env : CallEnv) : CallM (Option PyErr) := do
  let w ← get
  let (denied, breaker) := w.breaker.acquire env.acquired_at
  modify fun w => { w with breaker := breaker }
  note (if denied.isSome then .denied else .granted)
  return denied

def record (env : CallEnv) (error : Bool) (latency_s : PyFloat) : CallM Unit := do
  modify fun w => { w with breaker := w.breaker.recorded error latency_s env.recorded_at }
  note (.recorded error latency_s)

/-- The estimated cost, which is consumed if it is positive. An exception of the estimate leaves
the cost at zero. -/
def consume_cost (env : CallEnv) (result : ToolCallResult) : CallM PyFloat := do
  match estimate_cost_usd result.model_id result.usage with
  | .error _ => return .fin 0
  | .ok cost =>
    if (PyFloat.fin 0).lt cost then
      let w ← get
      match w.budget.consume cost env.consume_date with
      | .error _ => pure ()
      | .ok (_, budget) =>
        modify fun w => { w with budget := budget }
        note (.consumed cost)
    return cost

def set_trace (t : Except PyErr LLMCallTrace) : CallM Unit := do
  let t ← MonadExcept.ofExcept t
  modify fun w => { w with last_call_trace := some t }

namespace RemoteLLMBackend

variable (b : RemoteLLMBackend)

/-- `_invoke`: the validated decision, or none where the caller falls back. -/
def invoke (env : CallEnv) (task : LLMTask) (state : GraphState) : CallM (Option Decision) := do
  let w ← get
  if (w.budget.snapshot env.snapshot_date).hard_block then
    set_trace (b.fallback_trace task "budget_hard_block" none 0)
    return none
  match ← acquire env with
  | some _ =>
    set_trace (b.fallback_trace task "circuit_open" none 0)
    return none
  | none =>
    match env.call_with_tool (b.request task state) with
    | .provider_error kind request_id =>
      record env true env.elapsed.seconds
      set_trace (b.fallback_trace task kind request_id env.elapsed.ms)
      return none
    | .exception _ =>
      record env true env.elapsed.seconds
      set_trace (b.fallback_trace task "unknown" none env.elapsed.ms)
      return none
    | .result result =>
      note (.returned result)
      record env false (if result.latency_s.eq (.fin 0) then env.elapsed.seconds
        else result.latency_s)
      let cost ← consume_cost env result
      match model_validate task result.arguments with
      | .error _ =>
        set_trace (b.success_trace_then_fallback task result cost)
        return none
      | .ok decision =>
        set_trace (b.success_trace task result cost)
        return some decision

/-- What a method makes of the decision. -/
def serve (env : CallEnv) (task : LLMTask) (state : GraphState) : CallM (Option Decision) := do
  match ← b.invoke env task state with
  | some decision =>
    if decision.task = task then return some decision
    else
      note .fell_back
      MonadExcept.ofExcept (b.fallback task state)
  | none =>
    note .fell_back
    MonadExcept.ofExcept (b.fallback task state)

def classify_intent (env : CallEnv) (state : GraphState) : CallM (Option Decision) :=
  b.serve env .intent state

def propose_recipe (env : CallEnv) (state : GraphState) : CallM (Option Decision) :=
  if state.intent = .MASS_PRICING_ERROR then pure none else b.serve env .recipe state

def shadow_decision (env : CallEnv) (state : GraphState) : CallM (Option Decision) :=
  b.serve env .shadow state

def classify_email_supergroup (env : CallEnv) (state : GraphState) : CallM (Option Decision) :=
  b.serve env .email_supergroup state

def method (env : CallEnv) (task : LLMTask) (state : GraphState) : CallM (Option Decision) :=
  match task with
  | .intent => b.classify_intent env state
  | .recipe => b.propose_recipe env state
  | .shadow => b.shadow_decision env state
  | .email_supergroup => b.classify_email_supergroup env state

end RemoteLLMBackend

end asoe.llm
