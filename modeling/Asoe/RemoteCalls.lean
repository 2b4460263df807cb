-- What one call of the remote backend does, exit by exit: the breaker, the
-- budget, the trace and the answer. The trace of a mail cannot be built, and
-- neither can that of a result whose latency is no finite number.
import Asoe.RemoteBackend
import Asoe.Lib.Runs

open py prog

namespace asoe.llm

/-! ## Exits -/

/-- How far a call gets. -/
inductive Exit where
  | hard_block
  | denied
  | failed (kind : String) (request_id : Option String)
  | returned (result : ToolCallResult)

def exit_of (b : RemoteLLMBackend) (env : CallEnv) (task : LLMTask) (state : GraphState)
    (w : World) : Exit :=
  if (w.budget.snapshot env.snapshot_date).hard_block then .hard_block
  else if (w.breaker.acquire env.acquired_at).1.isSome then .denied
  else
    match env.call_with_tool (b.request task state) with
    | .provider_error kind request_id => .failed kind request_id
    | .exception _ => .failed "unknown" none
    | .result result => .returned result

/-- The estimated cost of a result, zero where there is no estimate. -/
def cost_of (result : ToolCallResult) : PyFloat :=
  match estimate_cost_usd result.model_id result.usage with
  | .ok cost => cost
  | .error _ => .fin 0

/-- The cost of a result, if it is positive. -/
def positive_cost (result : ToolCallResult) : List PyFloat :=
  if (PyFloat.fin 0).lt (cost_of result) then [cost_of result] else []

/-- The latency that the breaker records for a result. -/
def recorded_latency (env : CallEnv) (result : ToolCallResult) : PyFloat :=
  if result.latency_s.eq (.fin 0) then env.elapsed.seconds else result.latency_s

namespace Exit

variable (env : CallEnv)

def events : Exit → List Event
  | hard_block => []
  | denied => [.denied]
  | failed _ _ => [.granted, .recorded true env.elapsed.seconds]
  | returned result =>
    [.granted, .returned result, .recorded false (recorded_latency env result)] ++
      (positive_cost result).map .consumed

def decision (task : LLMTask) : Exit → Option Decision
  | returned result => (model_validate task result.arguments).toOption
  | _ => none

def trace (b : RemoteLLMBackend) (task : LLMTask) : Exit → Except PyErr LLMCallTrace
  | hard_block => b.fallback_trace task "budget_hard_block" none 0
  | denied => b.fallback_trace task "circuit_open" none 0
  | failed kind request_id => b.fallback_trace task kind request_id env.elapsed.ms
  | returned result =>
    if (model_validate task result.arguments).toOption.isSome then
      b.success_trace task result (cost_of result)
    else b.success_trace_then_fallback task result (cost_of result)

end Exit

/-! ## What the steps do to the state -/

def breaker_event (env : CallEnv) (cb : LLMCircuitBreaker) : Event → LLMCircuitBreaker
  | .granted | .denied => (cb.acquire env.acquired_at).2
  | .recorded error latency_s => cb.recorded error latency_s env.recorded_at
  | _ => cb

def budget_event (env : CallEnv) (t : InMemoryBudgetTracker) : Event → InMemoryBudgetTracker
  | .consumed amount_usd =>
    match t.consume amount_usd env.consume_date with
    | .ok (_, t') => t'
    | .error _ => t
  | _ => t

/-- The state after some steps. -/
def World.book (w : World) (env : CallEnv) (events : List Event) : World where
  budget := events.foldl (budget_event env) w.budget
  breaker := events.foldl (breaker_event env) w.breaker
  last_call_trace := w.last_call_trace
  log := w.log ++ events

/-- The end of an invocation: its trace is set, if it can be built. -/
def conclude (t : Except PyErr LLMCallTrace) (d : Option Decision) (w : World) :
    EStateM.Result PyErr World (Option Decision) :=
  match t with
  | .ok t => .ok d { w with last_call_trace := some t }
  | .error e => .error e w

section runs

variable (b : RemoteLLMBackend) (env : CallEnv) (task : LLMTask) (state : GraphState) (w : World)

theorem note_run (e : Event) : note e w = .ok () { w with log := w.log ++ [e] } := rfl

theorem acquire_run : acquire env w = .ok (w.breaker.acquire env.acquired_at).1
    (w.book env [if (w.breaker.acquire env.acquired_at).1.isSome then .denied else .granted]) := by
  unfold acquire
  rw [run_bind, run_get]
  dsimp only
  rw [run_bind, run_modify]
  dsimp only
  rw [run_bind, note_run]
  cases (w.breaker.acquire env.acquired_at).1 <;> rfl

theorem record_run (error : Bool) (latency_s : PyFloat) :
    record env error latency_s w = .ok () (w.book env [.recorded error latency_s]) := rfl

theorem book_book (events events' : List Event) :
    (w.book env events).book env events' = w.book env (events ++ events') := by
  simp [World.book, List.foldl_append]

theorem consume_ok (t : InMemoryBudgetTracker) (date_iso : String) {amount_usd : PyFloat}
    (h : (PyFloat.fin 0).lt amount_usd = true) :
    ∃ snap t', t.consume amount_usd date_iso = .ok (snap, t') := by
  have hnonneg : amount_usd.lt (.fin 0) = false := by
    cases amount_usd with
    | nan => rfl
    | inf s => simpa [PyFloat.lt] using h
    | fin q =>
      have hq : 0 < q := by simpa [PyFloat.lt] using h
      simpa [PyFloat.lt] using hq.le
  unfold InMemoryBudgetTracker.consume
  rw [if_neg (by rw [hnonneg]; exact Bool.false_ne_true)]
  exact ⟨_, _, rfl⟩

theorem consume_cost_run (result : ToolCallResult) :
    consume_cost env result w =
      .ok (cost_of result) (w.book env ((positive_cost result).map .consumed)) := by
  unfold consume_cost positive_cost cost_of
  cases estimate_cost_usd result.model_id result.usage with
  | error e => simp [World.book, PyFloat.lt, pure, EStateM.pure]
  | ok cost =>
    dsimp only
    by_cases hpos : (PyFloat.fin 0).lt cost = true
    · rw [if_pos hpos, if_pos hpos]
      rw [run_bind, run_get]
      dsimp only
      obtain ⟨snap, budget, hconsume⟩ := consume_ok w.budget env.consume_date hpos
      simp only [hconsume, run_bind, run_modify, note_run, World.book, List.map_cons, List.map_nil,
        List.foldl_cons, List.foldl_nil, budget_event, breaker_event]
      rfl
    · rw [if_neg hpos, if_neg hpos]
      simp [World.book, pure, EStateM.pure]

theorem note_returned (result : ToolCallResult) :
    note (.returned result) w = .ok () (w.book env [.returned result]) := rfl

theorem set_trace_bind (t : Except PyErr LLMCallTrace) (d : Option Decision) :
    (do set_trace t; return d : CallM (Option Decision)) w = conclude t d w := by
  cases t <;> rfl

theorem invoke_eq : b.invoke env task state w =
    conclude ((exit_of b env task state w).trace env b task)
      ((exit_of b env task state w).decision task)
      (w.book env ((exit_of b env task state w).events env)) := by
  unfold RemoteLLMBackend.invoke exit_of
  rw [run_bind, run_get]
  dsimp only
  by_cases hblock : (w.budget.snapshot env.snapshot_date).hard_block = true
  · rw [if_pos hblock, if_pos hblock, set_trace_bind]
    simp [World.book, Exit.trace, Exit.decision, Exit.events]
  · rw [if_neg hblock, if_neg hblock, run_bind, acquire_run]
    dsimp only
    cases hdenied : (w.breaker.acquire env.acquired_at).1 with
    | some e =>
      dsimp only
      rw [set_trace_bind]
      rfl
    | none =>
      dsimp only [Option.isSome]
      rw [if_neg Bool.false_ne_true]
      rw [if_neg Bool.false_ne_true]
      cases env.call_with_tool (b.request task state) with
      | provider_error kind request_id =>
        dsimp only
        rw [run_bind, record_run]
        dsimp only
        rw [set_trace_bind, book_book]
        rfl
      | exception e =>
        dsimp only
        rw [run_bind, record_run]
        dsimp only
        rw [set_trace_bind, book_book]
        rfl
      | result result =>
        dsimp only
        rw [run_bind, note_returned]
        dsimp only
        rw [run_bind, record_run]
        dsimp only
        rw [run_bind, consume_cost_run]
        dsimp only
        rw [book_book, book_book, book_book]
        cases hvalid : model_validate task result.arguments with
        | error e =>
          dsimp only
          rw [set_trace_bind]
          simp [Exit.trace, Exit.decision, Exit.events, hvalid, Except.toOption, recorded_latency]
        | ok decision =>
          dsimp only
          rw [set_trace_bind]
          simp [Exit.trace, Exit.decision, Exit.events, hvalid, Except.toOption, recorded_latency]

end runs

/-! ## What a call owes -/

namespace Event

def ofBreaker : Event → Bool
  | granted | denied | recorded .. => true
  | _ => false

def amount? : Event → Option PyFloat
  | consumed amount_usd => some amount_usd
  | _ => none

def result? : Event → Option ToolCallResult
  | returned result => some result
  | _ => none

end Event

/-- A call that is granted makes one record, and no other call makes any. -/
def Paired (events : List Event) : Prop :=
  events.filter Event.ofBreaker = [] ∨ events.filter Event.ofBreaker = [.denied] ∨
    ∃ error latency_s, events.filter Event.ofBreaker = [.granted, .recorded error latency_s]

/-- The steps of a call are those that it must take, and the breaker and the budget are as they
left them. -/
structure Booked (b : RemoteLLMBackend) (env : CallEnv) (task : LLMTask) (state : GraphState)
    (w : World) (events : List Event) (w' : World) : Prop where
  log : w'.log = w.log ++ events
  breaker : w'.breaker = events.foldl (breaker_event env) w.breaker
  budget : w'.budget = events.foldl (budget_event env) w.budget
  granted : .granted ∈ events ↔ (w.budget.snapshot env.snapshot_date).hard_block = false ∧
    (w.breaker.acquire env.acquired_at).1 = none
  returned : ∀ result, .returned result ∈ events ↔
    .granted ∈ events ∧ env.call_with_tool (b.request task state) = .result result
  paired : Paired events
  charged : events.filterMap Event.amount? =
    (events.filterMap Event.result?).flatMap positive_cost

/-- The answer is that of the fallback where it was asked, and else what the schema made of the
provider's arguments; an exception is one of the fallback. -/
structure Answered (b : RemoteLLMBackend) (task : LLMTask) (state : GraphState)
    (events : List Event) (r : EStateM.Result PyErr World (Option Decision)) : Prop where
  raises : ∀ e w', r = .error e w' → .fell_back ∈ events ∧ b.fallback task state = .error e
  returns : ∀ d w', r = .ok d w' →
    (.fell_back ∈ events ∧ b.fallback task state = .ok d) ∨
      (.fell_back ∉ events ∧ ∃ result decision, .returned result ∈ events ∧
        model_validate task result.arguments = .ok decision ∧ d = some decision)

/-- The trace is that of a call with these steps. -/
structure Describes (b : RemoteLLMBackend) (task : LLMTask) (events : List Event)
    (t : LLMCallTrace) : Prop where
  names : t.task = task.value
  provider : t.provider = b.provider_name
  prompt_hash : t.prompt_hash = b.prompt_hash task
  skill_md_version : t.skill_md_version = b.skill_md_version
  fallback : t.fallback_to_deterministic = true ↔ .fell_back ∈ events
  reason : t.fallback_reason.isSome = t.fallback_to_deterministic
  result : ∀ result, .returned result ∈ events →
    t.model_id = result.model_id ∧ t.request_id = result.request_id ∧ t.usage = result.usage ∧
      millis result.latency_s = .ok t.latency_ms ∧ t.stop_reason = result.stop_reason ∧
      t.cost_usd_estimate = cost_of result ∧
      (.fell_back ∉ events →
        t.tool_call_hash = hash_tool_call task.tool_name result.arguments)
  unpaid : (∀ result, .returned result ∉ events) →
    t.model_id = "" ∧ t.usage = {} ∧ t.cost_usd_estimate = .fin 0 ∧ t.tool_call_hash = ""

/-- One call, from the state `w`. -/
structure CallRight (b : RemoteLLMBackend) (env : CallEnv) (task : LLMTask) (state : GraphState)
    (w : World) (events : List Event) : Prop where
  booked : Booked b env task state w events (endState (b.method env task state w))
  answered : Answered b task state events (b.method env task state w)
  traced : ∃ t, (endState (b.method env task state w)).last_call_trace = some t ∧
    Describes b task events t

/-- The provider is asked, and gives this result. -/
structure Obtains (b : RemoteLLMBackend) (env : CallEnv) (task : LLMTask) (state : GraphState)
    (w : World) (result : ToolCallResult) : Prop where
  unblocked : (w.budget.snapshot env.snapshot_date).hard_block = false
  granted : (w.breaker.acquire env.acquired_at).1 = none
  result : env.call_with_tool (b.request task state) = .result result

/-! ## What every call does -/

section calls

variable {b : RemoteLLMBackend} {env : CallEnv} {task : LLMTask} {state : GraphState} {w : World}

/-- A mass pricing error has no recipe, and the model is not asked for one. -/
def Reaches (task : LLMTask) (state : GraphState) : Prop :=
  ¬ (task = .recipe ∧ state.intent = .MASS_PRICING_ERROR)

theorem method_eq (h : Reaches task state) :
    b.method env task state = b.serve env task state := by
  cases task with
  | recipe => exact if_neg fun hmass => h ⟨rfl, hmass⟩
  | intent => rfl
  | shadow => rfl
  | email_supergroup => rfl

theorem model_validate_task (task : LLMTask) (arguments : PyDict) :
    returns (model_validate task arguments) fun d => d.task = task := by
  cases task with
  | recipe =>
    exact returns_bind fun _ _ => returns_bind fun _ _ => returns_bind fun _ _ =>
      (returns_pure _).mpr rfl
  | intent | shadow | email_supergroup =>
    refine returns_bind fun _ _ => returns_bind fun _ _ => returns_bind fun _ _ => ?_
    exact returns_bind fun _ _ => returns_bind fun _ _ => returns_bind fun _ _ =>
      (returns_pure _).mpr rfl

theorem decision_source {x : Exit} {d : Decision} (h : x.decision task = some d) :
    ∃ result, x = .returned result ∧ model_validate task result.arguments = .ok d := by
  cases x with
  | returned result =>
    have h : (model_validate task result.arguments).toOption = some d := h
    cases hvalid : model_validate task result.arguments with
    | error e =>
      rw [hvalid] at h
      cases h
    | ok decision =>
      rw [hvalid] at h
      obtain rfl := Option.some.inj h
      exact ⟨result, rfl, hvalid⟩
  | hard_block => cases h
  | denied => cases h
  | failed kind request_id => cases h

theorem exit_decision_task {x : Exit} {d : Decision} (h : x.decision task = some d) :
    d.task = task := by
  obtain ⟨result, -, hvalid⟩ := decision_source h
  exact model_validate_task task result.arguments d hvalid

/-- The steps of a call that gets as far as `x` and whose trace can be built. -/
def Exit.steps (env : CallEnv) (task : LLMTask) (x : Exit) : List Event :=
  x.events env ++ if (x.decision task).isSome then [] else [.fell_back]

theorem serve_untraced {e : PyErr} (h : (exit_of b env task state w).trace env b task = .error e) :
    b.serve env task state w =
      .error e (w.book env ((exit_of b env task state w).events env)) := by
  unfold RemoteLLMBackend.serve
  rw [run_bind, invoke_eq, h]
  rfl

theorem serve_decided {t : LLMCallTrace} {d : Decision}
    (h : (exit_of b env task state w).trace env b task = .ok t)
    (hd : (exit_of b env task state w).decision task = some d) :
    b.serve env task state w =
      .ok (some d) { w.book env ((exit_of b env task state w).steps env task) with
        last_call_trace := some t } := by
  unfold RemoteLLMBackend.serve
  rw [run_bind, invoke_eq, h, hd]
  dsimp only [conclude]
  rw [if_pos (exit_decision_task hd), Exit.steps, hd]
  simp [World.book, pure, EStateM.pure]

theorem serve_undecided {t : LLMCallTrace}
    (h : (exit_of b env task state w).trace env b task = .ok t)
    (hd : (exit_of b env task state w).decision task = none) :
    b.serve env task state w = (MonadExcept.ofExcept (b.fallback task state) : CallM _)
      { w.book env ((exit_of b env task state w).steps env task) with
        last_call_trace := some t } := by
  unfold RemoteLLMBackend.serve
  rw [run_bind, invoke_eq, h, hd]
  dsimp only [conclude]
  rw [run_bind, note_run, Exit.steps, hd]
  simp [World.book, List.foldl_append, breaker_event, budget_event]

theorem ofExcept_run {α : Type} (r : Except PyErr α) (w : World) :
    endState ((MonadExcept.ofExcept r : CallM α) w) = w ∧
      (∀ a w', (MonadExcept.ofExcept r : CallM α) w = .ok a w' → r = .ok a) ∧
      ∀ e w', (MonadExcept.ofExcept r : CallM α) w = .error e w' → r = .error e := by
  cases r with
  | ok a =>
    refine ⟨rfl, fun a' w' h => ?_, fun e w' h => ?_⟩
    · cases h
      rfl
    · cases h
  | error e =>
    refine ⟨rfl, fun a' w' h => ?_, fun e' w' h => ?_⟩
    · cases h
    · cases h
      rfl

/-! ## The trace -/

theorem trace_ok {fields : task.value ∈ TRACE_TASKS → LLMCallTrace} (h : task.value ∈ TRACE_TASKS) :
    RemoteLLMBackend.trace task fields = .ok (fields h) := dif_pos h

theorem millis_ok_iff {x : PyFloat} :
    (∃ ms, millis x = .ok ms) ↔ ∃ q, x.mul (.fin 1000) = .fin q := by
  unfold millis
  cases x.mul (.fin 1000) <;> simp [PyVal.toInt]

theorem trace_task_iff (task : LLMTask) : task.value ∈ TRACE_TASKS ↔ task ≠ .email_supergroup := by
  cases task <;> decide

/-- The trace of an exit can be built, and describes a call with its steps. -/
theorem exit_traced {x : Exit} (htask : task ≠ .email_supergroup)
    (hlatency : ∀ result, x = .returned result → ∃ ms, millis result.latency_s = .ok ms) :
    ∃ t, x.trace env b task = .ok t ∧ Describes b task (x.steps env task) t := by
  have hmem := (trace_task_iff task).mpr htask
  cases x with
  | hard_block | denied | failed =>
    refine ⟨_, trace_ok hmem, ?_⟩
    constructor <;> simp [Exit.steps, Exit.events, Exit.decision]
  | returned result =>
    obtain ⟨ms, hms⟩ := hlatency result rfl
    cases hvalid : model_validate task result.arguments with
    | ok decision =>
      have htrace : (Exit.returned result).trace env b task =
          b.success_trace task result (cost_of result) := by
        simp [Exit.trace, hvalid, Except.toOption]
      refine ⟨_, htrace.trans ((ok_bind hms _).trans (trace_ok hmem)), ?_⟩
      constructor <;> simp [Exit.steps, Exit.events, Exit.decision, hvalid, Except.toOption, hms]
    | error e =>
      have htrace : (Exit.returned result).trace env b task =
          b.success_trace_then_fallback task result (cost_of result) := by
        simp [Exit.trace, hvalid, Except.toOption]
      refine ⟨_, htrace.trans ((ok_bind hms _).trans (trace_ok hmem)), ?_⟩
      constructor <;> simp [Exit.steps, Exit.events, Exit.decision, hvalid, Except.toOption, hms]

/-! ## The steps -/

theorem exit_of_cases (b : RemoteLLMBackend) (env : CallEnv) (task : LLMTask) (state : GraphState)
    (w : World) :
    ((w.budget.snapshot env.snapshot_date).hard_block = true ∧
        exit_of b env task state w = .hard_block) ∨
      ((w.breaker.acquire env.acquired_at).1 ≠ none ∧ exit_of b env task state w = .denied) ∨
      ((w.budget.snapshot env.snapshot_date).hard_block = false ∧
        (w.breaker.acquire env.acquired_at).1 = none ∧
        ((∃ kind request_id, exit_of b env task state w = .failed kind request_id ∧
            ∀ result, env.call_with_tool (b.request task state) ≠ .result result) ∨
          ∃ result, exit_of b env task state w = .returned result ∧
            env.call_with_tool (b.request task state) = .result result)) := by
  unfold exit_of
  by_cases hblock : (w.budget.snapshot env.snapshot_date).hard_block = true
  · exact Or.inl ⟨hblock, if_pos hblock⟩
  · rw [if_neg hblock]
    cases hdenied : (w.breaker.acquire env.acquired_at).1 with
    | some e => exact Or.inr (Or.inl ⟨by simp, rfl⟩)
    | none =>
      refine Or.inr (Or.inr ⟨Bool.eq_false_of_not_eq_true hblock, rfl, ?_⟩)
      cases env.call_with_tool (b.request task state) with
      | provider_error kind request_id => exact Or.inl ⟨kind, request_id, rfl, by simp⟩
      | exception e => exact Or.inl ⟨"unknown", none, rfl, by simp⟩
      | result result => exact Or.inr ⟨result, rfl, rfl⟩

theorem exit_returned_iff (result : ToolCallResult) :
    exit_of b env task state w = .returned result ↔ Obtains b env task state w result := by
  constructor
  · intro h
    rcases exit_of_cases b env task state w with ⟨-, hx⟩ | ⟨-, hx⟩ |
      ⟨hblock, hgrant, ⟨_, _, hx, -⟩ | ⟨result', hx, hcall⟩⟩
    · cases h.symm.trans hx
    · cases h.symm.trans hx
    · cases h.symm.trans hx
    · cases h.symm.trans hx
      exact ⟨hblock, hgrant, hcall⟩
  · rintro ⟨hblock, hgrant, hcall⟩
    unfold exit_of
    rw [if_neg (by rw [hblock]; exact Bool.false_ne_true), hgrant, hcall]
    rfl

theorem positive_cost_events (result : ToolCallResult) :
    ((positive_cost result).map Event.consumed).filter Event.ofBreaker = [] ∧
      ((positive_cost result).map Event.consumed).filterMap Event.amount? = positive_cost result ∧
      ((positive_cost result).map Event.consumed).filterMap Event.result? = [] := by
  unfold positive_cost
  split <;> exact ⟨rfl, rfl, rfl⟩

theorem granted_mem_iff {x : Exit} {tail : List Event} (htail : tail = [] ∨ tail = [.fell_back]) :
    .granted ∈ x.events env ++ tail ↔ x ≠ .hard_block ∧ x ≠ .denied := by
  rcases htail with rfl | rfl <;> cases x <;> simp [Exit.events]

theorem returned_mem_iff {x : Exit} {tail : List Event} {result : ToolCallResult}
    (htail : tail = [] ∨ tail = [.fell_back]) :
    .returned result ∈ x.events env ++ tail ↔ x = .returned result := by
  rcases htail with rfl | rfl <;> cases x <;> simp [Exit.events, eq_comm]

theorem exit_paired (env : CallEnv) (x : Exit) : Paired (x.events env) := by
  cases x with
  | hard_block => exact Or.inl rfl
  | denied => exact Or.inr (Or.inl rfl)
  | failed kind request_id => exact Or.inr (Or.inr ⟨true, env.elapsed.seconds, rfl⟩)
  | returned result =>
    refine Or.inr (Or.inr ⟨false, recorded_latency env result, ?_⟩)
    exact congrArg (fun es => .granted :: .recorded false (recorded_latency env result) :: es)
      (positive_cost_events result).1

theorem exit_charged (env : CallEnv) (x : Exit) : (x.events env).filterMap Event.amount? =
    ((x.events env).filterMap Event.result?).flatMap positive_cost := by
  cases x with
  | hard_block => rfl
  | denied => rfl
  | failed kind request_id => rfl
  | returned result =>
    obtain ⟨-, hamounts, hresults⟩ := positive_cost_events result
    calc ((Exit.returned result).events env).filterMap Event.amount?
        = ((positive_cost result).map Event.consumed).filterMap Event.amount? := rfl
      _ = [result].flatMap positive_cost := by rw [hamounts, List.flatMap_singleton]
      _ = (result :: ((positive_cost result).map Event.consumed).filterMap Event.result?).flatMap
            positive_cost := by rw [hresults]

/-- However a call ends, its grant is recorded and its result is paid for. -/
theorem exit_booked {tail : List Event} (htail : tail = [] ∨ tail = [.fell_back])
    (t : Option LLMCallTrace) :
    Booked b env task state w ((exit_of b env task state w).events env ++ tail)
      { w.book env ((exit_of b env task state w).events env ++ tail) with
        last_call_trace := t } where
  log := rfl
  breaker := rfl
  budget := rfl
  granted := by
    rw [granted_mem_iff htail]
    rcases exit_of_cases b env task state w with ⟨hblock, hx⟩ | ⟨hdenied, hx⟩ |
      ⟨hblock, hgrant, ⟨_, _, hx, -⟩ | ⟨_, hx, -⟩⟩
    · simp [hx, hblock]
    · simp [hx, hdenied]
    · simp [hx, hblock, hgrant]
    · simp [hx, hblock, hgrant]
  returned := by
    intro result
    rw [granted_mem_iff htail, returned_mem_iff htail]
    rcases exit_of_cases b env task state w with ⟨hblock, hx⟩ | ⟨hdenied, hx⟩ |
      ⟨hblock, hgrant, ⟨_, _, hx, hno⟩ | ⟨result', hx, hcall⟩⟩
    · simp [hx]
    · simp [hx]
    · simp [hx, hno]
    · simp [hx, hcall]
  paired := by
    rcases htail with rfl | rfl
    · simpa using exit_paired env _
    · have hfilter : ∀ es : List Event, (es ++ [Event.fell_back]).filter Event.ofBreaker =
          es.filter Event.ofBreaker := fun es => by
        rw [List.filter_append]
        exact List.append_nil _
      unfold Paired
      rw [hfilter]
      exact exit_paired env _
  charged := by
    rcases htail with rfl | rfl
    · simpa using exit_charged env _
    · rw [List.filterMap_append, List.filterMap_append]
      exact (List.append_nil _).trans ((exit_charged env _).trans
        (congrArg (List.flatMap positive_cost) (List.append_nil _).symm))

/-- Every call keeps its books, whether or not its trace can be built. -/
theorem serve_booked (b : RemoteLLMBackend) (env : CallEnv) (task : LLMTask) (state : GraphState)
    (w : World) : ∃ events, Booked b env task state w events
      (endState (b.serve env task state w)) := by
  cases htrace : (exit_of b env task state w).trace env b task with
  | error e =>
    rw [serve_untraced htrace]
    refine ⟨(exit_of b env task state w).events env ++ [], ?_⟩
    have hbooked := @exit_booked b env task state w [] (Or.inl rfl) w.last_call_trace
    rw [List.append_nil] at hbooked ⊢
    exact hbooked
  | ok t =>
    cases hd : (exit_of b env task state w).decision task with
    | some d =>
      rw [serve_decided htrace hd]
      refine ⟨(exit_of b env task state w).steps env task, ?_⟩
      exact exit_booked (by simp [hd]) (some t)
    | none =>
      rw [serve_undecided htrace hd, (ofExcept_run _ _).1]
      refine ⟨(exit_of b env task state w).steps env task, ?_⟩
      exact exit_booked (by simp [hd]) (some t)

/-! ## One call -/

theorem fell_back_mem_steps (env : CallEnv) (task : LLMTask) (x : Exit) :
    .fell_back ∈ x.steps env task ↔ x.decision task = none := by
  unfold Exit.steps
  cases hd : x.decision task <;> cases x <;> simp [Exit.events]

/-- A call whose trace can be built is right. -/
theorem callRight_of_traced {t : LLMCallTrace} (hreach : Reaches task state)
    (h : (exit_of b env task state w).trace env b task = .ok t)
    (ht : Describes b task ((exit_of b env task state w).steps env task) t) :
    CallRight b env task state w ((exit_of b env task state w).steps env task) := by
  have hfell := fell_back_mem_steps env task (exit_of b env task state w)
  cases hd : (exit_of b env task state w).decision task with
  | some d =>
    have hbooked := @exit_booked b env task state w
      (if ((exit_of b env task state w).decision task).isSome then [] else [.fell_back])
      (by simp [hd]) (some t)
    have hrun := serve_decided h hd
    rw [← method_eq hreach] at hrun
    refine ⟨?_, ?_, t, ?_, ht⟩
    · rw [hrun]
      exact hbooked
    · rw [hrun]
      refine ⟨fun e w' he => ?_, fun a w' ha => Or.inr ⟨?_, ?_⟩⟩
      · cases he
      · rw [hfell, hd]
        simp
      · cases ha
        obtain ⟨result, hx, hvalid⟩ := decision_source hd
        refine ⟨result, d, ?_, hvalid, rfl⟩
        exact (returned_mem_iff (by simp [hd])).mpr hx
    · rw [hrun]
      rfl
  | none =>
    have hbooked := @exit_booked b env task state w
      (if ((exit_of b env task state w).decision task).isSome then [] else [.fell_back])
      (by simp [hd]) (some t)
    have hrun := serve_undecided h hd
    rw [← method_eq hreach] at hrun
    obtain ⟨hend, hok, herror⟩ := ofExcept_run (b.fallback task state)
      { w.book env ((exit_of b env task state w).steps env task) with last_call_trace := some t }
    refine ⟨?_, ?_, t, ?_, ht⟩
    · rw [hrun, hend]
      exact hbooked
    · rw [hrun]
      exact ⟨fun e w' he => ⟨hfell.mpr hd, herror e w' he⟩,
        fun a w' ha => Or.inl ⟨hfell.mpr hd, hok a w' ha⟩⟩
    · rw [hrun, hend]

/-- A call is right just when it is not for a mail, and a result that it obtains has a latency
that is a whole number of milliseconds at all. -/
theorem remote_call_is_right_exactly_when_its_trace_can_be_built (b : RemoteLLMBackend)
    (env : CallEnv) (task : LLMTask) (state : GraphState) (w : World)
    (hreach : Reaches task state) :
    (∃ events, CallRight b env task state w events) ↔
      task ≠ .email_supergroup ∧ ∀ result, Obtains b env task state w result →
        ∃ q, result.latency_s.mul (.fin 1000) = .fin q := by
  constructor
  · rintro ⟨events, hbooked, -, t, -, ht⟩
    refine ⟨(trace_task_iff task).mp (ht.names ▸ t.task_mem), fun result hresult => ?_⟩
    have hgranted := hbooked.granted.mpr ⟨hresult.unblocked, hresult.granted⟩
    have hmem := (hbooked.returned result).mpr ⟨hgranted, hresult.result⟩
    exact millis_ok_iff.mp ⟨_, (ht.result result hmem).2.2.2.1⟩
  · rintro ⟨htask, hlatency⟩
    obtain ⟨t, htrace, ht⟩ := @exit_traced b env task (exit_of b env task state w) htask
      fun result hx => millis_ok_iff.mpr (hlatency result ((exit_returned_iff result).mp hx))
    exact ⟨_, callRight_of_traced hreach htrace ht⟩

/-- No trace names the task of a mail. -/
theorem mail_untraced (b : RemoteLLMBackend) (env : CallEnv) (x : Exit) :
    ∃ e, x.trace env b .email_supergroup = .error e := by
  have hno : LLMTask.email_supergroup.value ∉ TRACE_TASKS := by decide
  have hfallback : ∀ reason request_id ms, ∃ e,
      b.fallback_trace .email_supergroup reason request_id ms = .error e := by
    intro reason request_id ms
    unfold RemoteLLMBackend.fallback_trace RemoteLLMBackend.trace
    exact ⟨_, dif_neg hno⟩
  cases x with
  | hard_block => exact hfallback _ _ _
  | denied => exact hfallback _ _ _
  | failed kind request_id => exact hfallback _ _ _
  | returned result =>
    have hresult : ∀ cost hash reason, ∃ e,
        b.result_trace .email_supergroup result cost hash reason = .error e := by
      intro cost hash reason
      unfold RemoteLLMBackend.result_trace
      cases hms : millis result.latency_s with
      | error e => exact ⟨e, error_bind rfl _⟩
      | ok ms =>
        rw [ok_bind rfl]
        unfold RemoteLLMBackend.trace
        exact ⟨_, dif_neg hno⟩
    unfold Exit.trace
    dsimp only
    split
    · exact hresult _ _ _
    · exact hresult _ _ _

theorem mail_call_raises (b : RemoteLLMBackend) (env : CallEnv) (state : GraphState) (w : World) :
    ∃ e w', b.classify_email_supergroup env state w = .error e w' := by
  obtain ⟨e, he⟩ := mail_untraced b env (exit_of b env .email_supergroup state w)
  exact ⟨e, _, serve_untraced he⟩

end calls

/-! ## Runs of calls -/

structure Call where
  env : CallEnv
  task : LLMTask
  state : GraphState

/-- The state after a call, whether it returned or raised. -/
def call_step (b : RemoteLLMBackend) (call : Call) (w : World) : World :=
  endState (b.method call.env call.task call.state w)

def Event.isGrant : Event → Bool
  | granted => true
  | _ => false

def Event.isRecord : Event → Bool
  | recorded .. => true
  | _ => false

/-- As many records as grants, and a payment for every result with a positive cost. -/
structure Balanced (w : World) : Prop where
  records : w.log.countP Event.isGrant = w.log.countP Event.isRecord
  payments : w.log.filterMap Event.amount? = (w.log.filterMap Event.result?).flatMap positive_cost

theorem Paired.counts {events : List Event} (h : Paired events) :
    events.countP Event.isGrant = events.countP Event.isRecord := by
  have hgrant : events.countP Event.isGrant =
      (events.filter Event.ofBreaker).countP Event.isGrant := by
    rw [List.countP_filter]
    exact List.countP_congr fun e _ => by
      cases e <;> simp [Event.isGrant, Event.ofBreaker]
  have hrecord : events.countP Event.isRecord =
      (events.filter Event.ofBreaker).countP Event.isRecord := by
    rw [List.countP_filter]
    exact List.countP_congr fun e _ => by
      cases e <;> simp [Event.isRecord, Event.ofBreaker]
  rw [hgrant, hrecord]
  rcases h with h | h | ⟨error, latency_s, h⟩
  · rw [h]
    rfl
  · rw [h]
    rfl
  · rw [h]
    rfl

theorem Balanced.after {b : RemoteLLMBackend} {env : CallEnv} {task : LLMTask}
    {state : GraphState} {w w' : World} {events : List Event} (h : Balanced w)
    (hbooked : Booked b env task state w events w') : Balanced w' := by
  constructor
  · rw [hbooked.log, List.countP_append, List.countP_append, h.records, hbooked.paired.counts]
  · rw [hbooked.log, List.filterMap_append, List.filterMap_append, List.flatMap_append, h.payments,
      hbooked.charged]

theorem call_balanced (b : RemoteLLMBackend) (call : Call) {w : World} (h : Balanced w) :
    Balanced (call_step b call w) := by
  unfold call_step
  by_cases hreach : Reaches call.task call.state
  · rw [method_eq hreach]
    obtain ⟨events, hbooked⟩ := serve_booked b call.env call.task call.state w
    exact h.after hbooked
  · obtain ⟨htask, hmass⟩ := not_not.mp hreach
    rw [htask]
    unfold RemoteLLMBackend.method RemoteLLMBackend.propose_recipe
    rw [if_pos hmass]
    exact h

/-- In every run of calls, also of those that raise, every grant is recorded and every result with
a positive cost is paid for once. -/
theorem every_run_is_balanced (b : RemoteLLMBackend) (calls : List Call) :
    Balanced (runs.run (call_step b) {} calls) :=
  runs.invariant (fun call _ _ h => call_balanced b call h) (⟨rfl, rfl⟩ : Balanced {})
    (runs.allSteps_true _ calls)

/-! ## An intent, and a mail -/

def sampleResult : ToolCallResult where
  tool_name := "classify_intent"
  arguments := [("intent", .str "BACK_ORDER"), ("confidence", .float (.fin (1 / 2)))]
  request_id := some "req-1"
  model_id := "claude-haiku-4-5"
  usage := { input_tokens := 1000, output_tokens := 20 }
  latency_s := .fin (1 / 2)
  stop_reason := some "tool_use"

def sampleElapsed : Elapsed := ⟨.fin (1 / 2), 500, by decide +kernel⟩

/-- A provider that answers. -/
def answeredEnv : CallEnv where
  snapshot_date := "2026-01-02"
  consume_date := "2026-01-02"
  acquired_at := .fin 10
  elapsed := sampleElapsed
  recorded_at := ⟨.fin 11, .fin 11, .fin 11⟩
  call_with_tool _ := .result sampleResult

/-- A provider that is down. -/
def timeoutEnv : CallEnv :=
  { answeredEnv with call_with_tool := fun _ => .provider_error "timeout" none }

/-- A backend whose fallback takes every mail for a new order. -/
def sampleBackend : RemoteLLMBackend where
  provider_name := "anthropic"
  fallback task _ := .ok (if task = .email_supergroup then
    some (.email_supergroup .SG_NEW_ORDER (.fin 1) none) else none)
  skill_catalog := ""
  json_schema _ := .dict []
  isprintable _ := true

def sampleGraph : GraphState where
  event := { order_id := "PO-1", po_price := .fin 1, sap_base_price := .fin 1 }

theorem intent_call_is_right : ∃ events,
    CallRight sampleBackend answeredEnv .intent sampleGraph {} events := by
  refine (remote_call_is_right_exactly_when_its_trace_can_be_built sampleBackend answeredEnv .intent
    sampleGraph {} (fun h => by cases h.1)).mpr ⟨by decide, fun result h => ?_⟩
  obtain rfl : sampleResult = result := by
    have hcall := h.result
    cases hcall
    rfl
  exact ⟨500, by decide +kernel⟩

/-- The provider of a mail's call is down: the fallback has an answer, and the call raises. -/
theorem a_mail_raises_where_the_fallback_answers :
    (sampleBackend.fallback .email_supergroup sampleGraph).toOption.join.isSome = true ∧
      (∃ e w', sampleBackend.classify_email_supergroup timeoutEnv sampleGraph {} = .error e w') ∧
      ¬ ∃ events, CallRight sampleBackend timeoutEnv .email_supergroup sampleGraph {} events := by
  obtain ⟨e, w', he⟩ := mail_call_raises sampleBackend timeoutEnv sampleGraph {}
  refine ⟨by decide, ⟨e, w', he⟩, ?_⟩
  rintro ⟨events, -, hanswered, -⟩
  obtain ⟨-, hraised⟩ := hanswered.raises e w' he
  cases hraised

end asoe.llm
