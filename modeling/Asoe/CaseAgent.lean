-- The loop of the case agent: the provider is asked for tool calls, the tools
-- are run, and a budget bounds the turns. The provider, the tools and the clock
-- are open, and a log that the loop cannot read says what they did.
import Asoe.Harness

namespace asoe

open py prog

variable {W : Type}

/-! ## Tools -/

/-- The agent's tool invocation request. -/
structure ToolCall where
  tool_name : String
  arguments : PyDict := []
  deriving DecidableEq

structure ToolResult where
  tool_name : String
  status : String
  data : PyDict := []
  error : Option String := none
  latency_ms : ℤ := 0
  cost_usd : PyFloat := .fin 0
  deriving DecidableEq

def ToolCall.model_dump (call : ToolCall) : PyDict :=
  [("tool_name", .str call.tool_name), ("arguments", .dict call.arguments)]

def ToolResult.model_dump (result : ToolResult) : PyDict :=
  [("tool_name", .str result.tool_name),
   ("status", .str result.status),
   ("data", .dict result.data),
   ("error", .ofOption (result.error.map .str)),
   ("latency_ms", .int result.latency_ms),
   ("cost_usd", .float result.cost_usd)]

/-- What a tool sees. The extras hold objects, which belong to the world. -/
structure ToolContext where
  tenant_id : String
  case_id : String

/-- A handler acts on the world and may edit its arguments in place. -/
abbrev ToolHandler (W : Type) :=
  ToolContext → PyDict → W → (Except PyErr ToolResult × PyDict) × W

structure ToolSpec (W : Type) where
  name : String
  description : String
  handler : ToolHandler W

abbrev ToolRegistry (W : Type) := List (String × ToolSpec W)

def ToolRegistry.register (registry : ToolRegistry W) (spec : ToolSpec W) :
    Except PyErr (ToolRegistry W) :=
  if (dict.get registry spec.name).isSome then
    .error ⟨"ValueError", "Tool already registered: " ++ spec.name⟩
  else .ok (dict.set registry spec.name spec)

def ToolRegistry.to_descriptors (registry : ToolRegistry W) : List (String × String) :=
  registry.map fun entry => (entry.2.name, entry.2.description)

/-- A call that was answered: the call as the provider gave it, its arguments
as the handler left them, and the result. -/
structure ToolRun where
  call : ToolCall
  left : PyDict
  result : ToolResult
  deriving DecidableEq

/-- The entry of the `tool_trace`. -/
def ToolRun.dump (run : ToolRun) : ToolStep where
  tool_call := { run.call with arguments := run.left }.model_dump
  tool_result := run.result.model_dump

/-! ## The provider -/

structure AgentLLMResponse where
  tool_calls : List ToolCall := []
  reasoning : Option String := none
  input_tokens : ℤ := 0
  output_tokens : ℤ := 0
  cost_usd : PyFloat := .fin 0
  deriving DecidableEq

/-- A case with the fields that the working memory shows. -/
structure WorkedCase extends AgentCase where
  origin : String
  source_channel : String
  customer_id : Option String := none
  customer_po_number : Option String := none
  sales_order_id : Option String := none
  sla_deadline : Option String := none

/-- The segments of a prompt, in their order. -/
structure WorkingMemoryFrame where
  system_prompt : String
  skill_md : String
  anchor_examples : List String
  example_manifest : List (String × String)
  case_summary : PyDict
  last_actions : List PyDict
  current_event : PyDict
  tool_descriptors : List (String × String)

/-- What is read of a skill bundle; nothing where there is no bundle. -/
structure SkillBundle where
  skill_md : String := ""
  anchor_examples : List String := []
  example_manifest : List (String × String) := []

/-- What the loop meets: the provider, the tools, the clock, the files of the
skill bundles, and the parts of the libraries that it calls. -/
structure AgentEnv (W : Type) where
  tool_registry : ToolRegistry W
  call : WorkingMemoryFrame → W → Except PyErr AgentLLMResponse × W
  monotonic : W → PyFloat × W
  load_skill_bundle : String → W → Except PyErr SkillBundle × W
  dump_event : OrderEvent → Except PyErr PyDict
  upper : String → String

/-- What a run is called for. -/
structure AgentRequest where
  case : WorkedCase
  skill_name : String
  current_event : OrderEvent
  last_actions : List PyDict := []

/-! ## The log -/

inductive AgentEvent where
  | asked (answer : Except PyErr AgentLLMResponse)
  | ran (run : ToolRun)

/-- The world, and what was asked and run so far. -/
structure Session (W : Type) where
  world : W
  events : List AgentEvent := []

abbrev AgentProg (W : Type) := EStateM PyErr (Session W)

/-- Something outside of the loop happens. -/
def outside {α : Type} (f : W → α × W) : AgentProg W α := fun s =>
  .ok (f s.world).1 { s with world := (f s.world).2 }

def note (event : AgentEvent) : AgentProg W Unit :=
  modify fun s => { s with events := s.events ++ [event] }

/-- `int((time.monotonic() - started) * 1000)`. -/
def elapsed_ms (env : AgentEnv W) (started : PyFloat) : AgentProg W ℤ := do
  let now ← outside env.monotonic
  MonadExcept.ofExcept (PyVal.toInt (.float ((now.sub started).mul (.fin 1000))))

/-! ## The budget -/

structure CaseBudget where
  tier : ℤ
  max_input_tokens : ℤ
  max_output_tokens : ℤ
  max_iterations : ℤ
  max_wall_clock_ms : ℤ
  max_cost_usd : PyFloat
  input_tokens_used : ℤ := 0
  output_tokens_used : ℤ := 0
  iterations_used : ℤ := 0
  cost_usd_used : PyFloat := .fin 0
  started_at_monotonic : PyFloat

/-- The budget table. The floats are the ones nearest to the written amounts. -/
def CaseBudget.for_tier (env : AgentEnv W) (tier : ℕ) : AgentProg W CaseBudget :=
  match tier with
  | 1 => return {
      tier := 1
      max_input_tokens := 4000
      max_output_tokens := 1000
      max_iterations := 1
      max_wall_clock_ms := 500
      max_cost_usd := .ofRat (1 / 1000)
      started_at_monotonic := ← outside env.monotonic }
  | 2 => return {
      tier := 2
      max_input_tokens := 16000
      max_output_tokens := 4000
      max_iterations := 6
      max_wall_clock_ms := 8000
      max_cost_usd := .ofRat (5 / 100)
      started_at_monotonic := ← outside env.monotonic }
  | 3 => return {
      tier := 3
      max_input_tokens := 8000
      max_output_tokens := 2000
      max_iterations := 8
      max_wall_clock_ms := 12000
      max_cost_usd := .ofRat (8 / 100)
      started_at_monotonic := ← outside env.monotonic }
  | tier => throw ⟨"ValueError", "Unknown tier: " ++ toString tier⟩

def CaseBudget.for_case (env : AgentEnv W) (case : WorkedCase) : AgentProg W CaseBudget :=
  for_tier env case.tier.value

/-- The only place where the counters move. -/
def CaseBudget.deduct (budget : CaseBudget) (input_tokens output_tokens : ℤ) (cost_usd : PyFloat)
    (iterations : ℤ) : CaseBudget :=
  { budget with
    input_tokens_used := budget.input_tokens_used + input_tokens
    output_tokens_used := budget.output_tokens_used + output_tokens
    iterations_used := budget.iterations_used + iterations
    cost_usd_used := budget.cost_usd_used.add cost_usd }

def CaseBudget.remaining_iterations (budget : CaseBudget) : ℤ :=
  max 0 (budget.max_iterations - budget.iterations_used)

/-- `a (used >= max)`. -/
def limit_text (name used limit : String) : String :=
  name ++ " (" ++ used ++ " >= " ++ limit ++ ")"

/-- The limit that is breached, if any. Only the last one reads the clock. -/
def CaseBudget.is_exhausted (env : AgentEnv W) (budget : CaseBudget) :
    AgentProg W (Option String) :=
  if budget.max_input_tokens ≤ budget.input_tokens_used then
    return limit_text "input_tokens" (toString budget.input_tokens_used)
      (toString budget.max_input_tokens)
  else if budget.max_output_tokens ≤ budget.output_tokens_used then
    return limit_text "output_tokens" (toString budget.output_tokens_used)
      (toString budget.max_output_tokens)
  else if budget.max_iterations ≤ budget.iterations_used then
    return limit_text "iterations" (toString budget.iterations_used)
      (toString budget.max_iterations)
  else if PyFloat.le budget.max_cost_usd budget.cost_usd_used then
    return limit_text "cost_usd" (fixed 4 budget.cost_usd_used) (fixed 4 budget.max_cost_usd)
  else do
    let used ← elapsed_ms env budget.started_at_monotonic
    if budget.max_wall_clock_ms ≤ used then
      return some ("wall_clock_ms (>= " ++ toString budget.max_wall_clock_ms ++ ")")
    else return none

/-- The snapshot for the audit log. -/
def CaseBudget.to_audit_dict (env : AgentEnv W) (budget : CaseBudget) : AgentProg W PyDict := do
  let used ← elapsed_ms env budget.started_at_monotonic
  return [
    ("tier", .int budget.tier),
    ("input_tokens_used", .int budget.input_tokens_used),
    ("output_tokens_used", .int budget.output_tokens_used),
    ("iterations_used", .int budget.iterations_used),
    ("cost_usd_used", .float (budget.cost_usd_used.roundTo 6)),
    ("wall_clock_ms_used", .int used),
    ("limits", .dict [
      ("max_input_tokens", .int budget.max_input_tokens),
      ("max_output_tokens", .int budget.max_output_tokens),
      ("max_iterations", .int budget.max_iterations),
      ("max_wall_clock_ms", .int budget.max_wall_clock_ms),
      ("max_cost_usd", .float budget.max_cost_usd)])]

/-! ## One turn -/

def SYSTEM_PROMPT : String :=
  "You are the ASOE Case Agent. Your job is to coordinate deterministic\n" ++
  "primitives (check_*, validate_*) and, when needed, request human\n" ++
  "review (escalate, request_clarification_email) to drive a single\n" ++
  "order's case to a terminal state.\n\n" ++
  "Rules:\n" ++
  "  * You may ONLY call tools registered in the surface below. No\n" ++
  "    free-form action.\n" ++
  "  * When you have enough information, call declare_done(status=...)\n" ++
  "    OR escalate(reason_code=..., target_role=...) OR\n" ++
  "    request_clarification_email(template=..., fields=...).\n" ++
  "    Each halts the loop.\n" ++
  "  * Conservative bias: when you cannot determine the right action,\n" ++
  "    escalate. Do not invent business logic.\n" ++
  "  * Compliance Shadow runs around action-emitting tools. The harness\n" ++
  "    enforces the gate; you cannot bypass it.\n"

/-- An optional text as a value of a dictionary. -/
def text_or_none (text : Option String) : PyVal := .ofOption (text.map .str)

def case_summary_dict (case : WorkedCase) : PyDict :=
  [("case_id", .str case.case_id),
   ("tenant_id", .str case.tenant_id),
   ("origin", .str case.origin),
   ("source_channel", .str case.source_channel),
   ("customer_id", text_or_none case.customer_id),
   ("customer_po_number", text_or_none case.customer_po_number),
   ("sales_order_id", text_or_none case.sales_order_id),
   ("status", .str case.status.value),
   ("tier", .int case.tier.value),
   ("opened_at", .str case.opened_at),
   ("sla_deadline", text_or_none case.sla_deadline),
   ("compacted_summary", text_or_none case.working_memory_summary)]

def build_working_memory (env : AgentEnv W) (request : AgentRequest) (last_actions : List PyDict) :
    AgentProg W WorkingMemoryFrame := do
  let read ← outside (env.load_skill_bundle request.skill_name)
  let bundle ← MonadExcept.ofExcept read
  let current_event ← MonadExcept.ofExcept (env.dump_event request.current_event)
  return {
    system_prompt := SYSTEM_PROMPT
    skill_md := bundle.skill_md
    anchor_examples := bundle.anchor_examples
    example_manifest := bundle.example_manifest
    case_summary := case_summary_dict request.case
    last_actions := last_actions
    current_event := current_event
    tool_descriptors := env.tool_registry.to_descriptors }

/-- One call of the provider, which may raise. -/
def ask (env : AgentEnv W) (frame : WorkingMemoryFrame) :
    AgentProg W (Except PyErr AgentLLMResponse) := do
  let answer ← outside (env.call frame)
  note (.asked answer)
  return answer

/-- Dispatch a tool call. An exception of the handler becomes a result. -/
def invoke_tool (env : AgentEnv W) (ctx : ToolContext) (call : ToolCall) : AgentProg W ToolRun := do
  let started ← outside env.monotonic
  match dict.get env.tool_registry call.tool_name with
  | none =>
    let latency_ms ← elapsed_ms env started
    return ⟨call, call.arguments, {
      tool_name := call.tool_name
      status := "not_found"
      error := some ("Tool not registered: " ++ call.tool_name)
      latency_ms := latency_ms }⟩
  | some spec =>
    let (answer, left) ← outside (spec.handler ctx call.arguments)
    let result :=
      match answer with
      | .ok result => result
      | .error exc => {
        tool_name := call.tool_name
        status := "error"
        error := some (exc.kind ++ ": " ++ exc.text) }
    let elapsed ← elapsed_ms env started
    return ⟨call, left, { result with
      latency_ms := if result.latency_ms = 0 then elapsed else result.latency_ms }⟩

def HALT_TOOLS : List String := ["escalate", "request_clarification_email", "declare_done"]

def outcome_for_halt_tool (env : AgentEnv W) (tool_name : String) (data : PyDict) : AgentOutcome :=
  if tool_name = "escalate" then .ESCALATED
  else if tool_name = "request_clarification_email" then .AWAITING_BUYER
  else
    let target := env.upper ((event_get data "case_status_after").or (.str "")).toStr
    if target = "OPEN_AWAITING_ERP" ∨ target = "AWAITING_ERP" then .AWAITING_ERP else .RESOLVED

/-- What a turn starts from. -/
structure AgentLoop where
  budget : CaseBudget
  actions : List PyDict
  tool_trace : List ToolStep := []

/-- A successful call of a halt tool. -/
def ToolRun.halts (run : ToolRun) : Bool :=
  decide (run.call.tool_name ∈ HALT_TOOLS) && decide (run.result.status = "ok")

/-- `(result.error or "ok")[:120]`. -/
def action_summary (error : Option String) : String :=
  String.ofList (((error.filter (· ≠ "")).getD "ok").toList.take 120)

/-- The loop after a tool has run: the trace, the actions and the budget. -/
def AgentLoop.after (loop : AgentLoop) (run : ToolRun) : AgentLoop where
  budget :=
    if (PyVal.float run.result.cost_usd).truthy then
      loop.budget.deduct 0 0 run.result.cost_usd 0
    else loop.budget
  actions := loop.actions ++ [[
    ("tool", .str run.call.tool_name),
    ("status", .str run.result.status),
    ("summary", .str (action_summary run.result.error))]]
  tool_trace := loop.tool_trace ++ [run.dump]

/-- The loop after a response is accounted for. -/
def AgentLoop.charged (loop : AgentLoop) (response : AgentLLMResponse) : AgentLoop :=
  { loop with
    budget := loop.budget.deduct response.input_tokens response.output_tokens response.cost_usd 1 }

/-- The outcome and the reason that a halt tool gives. -/
def terminal (env : AgentEnv W) (run : ToolRun) : AgentRunResult where
  outcome := outcome_for_halt_tool env run.call.tool_name run.result.data
  halt_reason :=
    if run.call.tool_name = "escalate" then
      some ((event_get run.result.data "reason_code").or (.str "")).toStr
    else none

/-- Execute every tool the agent asked for, in order, until one halts. -/
def run_calls (env : AgentEnv W) (ctx : ToolContext) :
    List ToolCall → AgentLoop → AgentProg W (Option AgentRunResult × AgentLoop)
  | [], loop => return (none, loop)
  | call :: calls, loop => do
    let run ← invoke_tool env ctx call
    note (.ran run)
    if run.halts then return (some (terminal env run), loop.after run)
    else run_calls env ctx calls (loop.after run)

/-! ## The run -/

/-- Single-event agent run summary. -/
structure AgentReport extends AgentRunResult where
  case_id : String
  iterations : ℤ
  tool_trace : List ToolStep
  budget_snapshot : PyDict

inductive Turn where
  | ended (report : AgentReport)
  | again (loop : AgentLoop)

/-- `return AgentRunResult(...)`. -/
def finish (env : AgentEnv W) (request : AgentRequest) (loop : AgentLoop)
    (result : AgentRunResult) : AgentProg W Turn := do
  let budget_snapshot ← loop.budget.to_audit_dict env
  return .ended {
    toAgentRunResult := result
    case_id := request.case.case_id
    iterations := loop.budget.iterations_used
    tool_trace := loop.tool_trace
    budget_snapshot := budget_snapshot }

/-- A response is accounted for, and its tool calls are executed. -/
def take_response (env : AgentEnv W) (request : AgentRequest) (loop : AgentLoop)
    (response : AgentLLMResponse) : AgentProg W Turn := do
  if response.tool_calls = [] then
    finish env request (loop.charged response)
      ⟨.ERROR, some "agent returned no tool_calls; refusing to continue"⟩
  else
    let ctx := { tenant_id := request.case.tenant_id, case_id := request.case.case_id }
    let (halted, next) ← run_calls env ctx response.tool_calls (loop.charged response)
    match halted with
    | some result => finish env request next result
    | none => return .again next

/-- One pass of the `while` loop. -/
def agent_turn (env : AgentEnv W) (request : AgentRequest) (loop : AgentLoop) :
    AgentProg W Turn := do
  match ← loop.budget.is_exhausted env with
  | some exhaustion => finish env request loop ⟨.BUDGET_EXHAUSTED, some exhaustion⟩
  | none =>
    let frame ← build_working_memory env request loop.actions
    match ← ask env frame with
    | .error exc =>
      finish env request loop
        ⟨.ERROR, some ("llm_provider_error: " ++ exc.kind ++ ": " ++ exc.text)⟩
    | .ok response => take_response env request loop response

end asoe
