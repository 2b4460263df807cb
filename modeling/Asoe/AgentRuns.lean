-- The runs of the case agent. Whatever the provider and the tools do, a run
-- asks at most as often as its budget has iterations left, and its trace holds
-- the calls that it was given, in order, up to the first halt.
import Asoe.CaseAgent
import Asoe.Lib.Halting

namespace asoe

open py prog halting

variable {W : Type}

/-! ## What the log says -/

def AgentEvent.isAsk : AgentEvent → Bool
  | .asked _ => true
  | .ran _ => false

def AgentEvent.calls : AgentEvent → List ToolCall
  | .asked (.ok response) => response.tool_calls
  | _ => []

def AgentEvent.run? : AgentEvent → Option ToolRun
  | .asked _ => none
  | .ran run => some run

/-- How often the provider was called. -/
def asks (events : List AgentEvent) : ℕ := events.countP AgentEvent.isAsk

/-- The tool calls of the responses, in order. -/
def askedCalls (events : List AgentEvent) : List ToolCall := events.flatMap AgentEvent.calls

/-- The tools that ran, in order. -/
def toolRuns (events : List AgentEvent) : List ToolRun := events.filterMap AgentEvent.run?

section log

variable (events : List AgentEvent) (runs : List ToolRun)

theorem asks_append_asked (answer : Except PyErr AgentLLMResponse) :
    asks (events ++ [.asked answer]) = asks events + 1 := by
  unfold asks
  rw [List.countP_append]
  rfl

theorem asks_append_ran : asks (events ++ runs.map .ran) = asks events := by
  unfold asks
  rw [List.countP_append, List.countP_map]
  simp [Function.comp_def, AgentEvent.isAsk]

theorem askedCalls_append_asked (response : AgentLLMResponse) :
    askedCalls (events ++ [.asked (.ok response)]) = askedCalls events ++ response.tool_calls := by
  simp [askedCalls, AgentEvent.calls]

theorem askedCalls_append_ran : askedCalls (events ++ runs.map .ran) = askedCalls events := by
  simp [askedCalls, List.flatMap_map, AgentEvent.calls]

theorem askedCalls_append_failed (exc : PyErr) :
    askedCalls (events ++ [.asked (.error exc)]) = askedCalls events := by
  simp [askedCalls, AgentEvent.calls]

theorem toolRuns_append_asked (answer : Except PyErr AgentLLMResponse) :
    toolRuns (events ++ [.asked answer]) = toolRuns events := by
  simp [toolRuns, AgentEvent.run?]

theorem toolRuns_append_ran : toolRuns (events ++ runs.map .ran) = toolRuns events ++ runs := by
  simp [toolRuns, List.filterMap_map, Function.comp_def, AgentEvent.run?]

end log

/-! ## Frames -/

theorem keeps_outside {α : Type} (f : W → α × W) :
    keeps Session.events (outside f) := fun _ => rfl

theorem wp_outside {α : Type} (f : W → α × W) (Q : α → Session W → Prop)
    (E : PyErr → Session W → Prop) (s : Session W) :
    wp (outside f) Q E s ↔ Q (f s.world).1 { s with world := (f s.world).2 } := Iff.rfl

theorem wp_note (event : AgentEvent) (Q : Unit → Session W → Prop)
    (E : PyErr → Session W → Prop) (s : Session W) :
    wp (note event) Q E s ↔ Q () { s with events := s.events ++ [event] } := Iff.rfl

theorem elapsed_ms_keeps (env : AgentEnv W) (started : PyFloat) :
    keeps Session.events (elapsed_ms env started) :=
  keeps_bind (keeps_outside _) fun _ => keeps_ofExcept _

theorem to_audit_dict_keeps (env : AgentEnv W) (budget : CaseBudget) :
    keeps Session.events (budget.to_audit_dict env) :=
  keeps_bind (elapsed_ms_keeps env _) fun _ => keeps_pure _

theorem for_case_keeps (env : AgentEnv W) (case : WorkedCase) :
    keeps Session.events (CaseBudget.for_case env case) := by
  unfold CaseBudget.for_case CaseBudget.for_tier
  split
  · exact keeps_bind (keeps_outside _) fun _ => keeps_pure _
  · exact keeps_bind (keeps_outside _) fun _ => keeps_pure _
  · exact keeps_bind (keeps_outside _) fun _ => keeps_pure _
  · exact keeps_throw _

theorem build_working_memory_keeps (env : AgentEnv W) (request : AgentRequest)
    (last_actions : List PyDict) :
    keeps Session.events (build_working_memory env request last_actions) := by
  unfold build_working_memory
  refine keeps_bind (keeps_outside _) fun _ => ?_
  refine keeps_bind (keeps_ofExcept _) fun _ => ?_
  exact keeps_bind (keeps_ofExcept _) fun _ => keeps_pure _

theorem is_exhausted_keeps (env : AgentEnv W) (budget : CaseBudget) :
    keeps Session.events (budget.is_exhausted env) := by
  unfold CaseBudget.is_exhausted
  refine keeps_ite (keeps_pure _) (keeps_ite (keeps_pure _) (keeps_ite (keeps_pure _)
    (keeps_ite (keeps_pure _) (keeps_bind (elapsed_ms_keeps env _) fun _ => ?_))))
  exact keeps_ite (keeps_pure _) (keeps_pure _)

theorem is_exhausted_none (env : AgentEnv W) (budget : CaseBudget) (s : Session W) :
    wp (budget.is_exhausted env)
      (fun exhausted _ => exhausted = none → budget.iterations_used < budget.max_iterations)
      (fun _ _ => True) s := by
  unfold CaseBudget.is_exhausted
  simp only [wp_ite, wp_pure]
  refine ⟨fun _ h => ?_, fun _ => ⟨fun _ h => ?_, fun _ => ⟨fun _ h => ?_, fun hleft => ?_⟩⟩⟩
  · exact absurd h (Option.some_ne_none _)
  · exact absurd h (Option.some_ne_none _)
  · exact absurd h (Option.some_ne_none _)
  · refine ⟨fun _ h => absurd h (Option.some_ne_none _), fun _ => ?_⟩
    exact wp_intro (fun _ _ _ _ => by omega) fun _ _ _ => trivial

/-- The handler of a tool does not edit its arguments in place. -/
def LeavesArguments (env : AgentEnv W) (tool_name : String) : Prop :=
  ∀ spec, dict.get env.tool_registry tool_name = some spec →
    ∀ ctx arguments world, (spec.handler ctx arguments world).1.2 = arguments

/-- A run of a call, whose arguments are as they were unless the handler edits
them. -/
def RunOf (env : AgentEnv W) (call : ToolCall) (run : ToolRun) : Prop :=
  run.call = call ∧ (LeavesArguments env call.tool_name → run.left = call.arguments)

theorem invoke_tool_runs (env : AgentEnv W) (ctx : ToolContext) (call : ToolCall)
    (s : Session W) :
    wp (invoke_tool env ctx call) (fun run s' => RunOf env call run ∧ s'.events = s.events)
      (fun _ s' => s'.events = s.events) s := by
  unfold invoke_tool
  rw [wp_bind]
  refine wp_mono (keeps_outside env.monotonic s) (fun started s₁ h₁ => ?_) fun _ _ h => h
  cases hspec : dict.get env.tool_registry call.tool_name with
  | none =>
    dsimp only
    rw [wp_bind]
    refine wp_mono (elapsed_ms_keeps env started s₁) (fun _ s₂ h₂ => ?_) fun _ _ h => h.trans h₁
    exact ⟨⟨rfl, fun _ => rfl⟩, h₂.trans h₁⟩
  | some spec =>
    dsimp only
    rw [wp_bind, wp_outside]
    rw [wp_bind]
    refine wp_mono (elapsed_ms_keeps env started _) (fun _ s₂ h₂ => ?_) fun _ _ h => h.trans h₁
    exact ⟨⟨rfl, fun hleaves => hleaves spec hspec ctx call.arguments s₁.world⟩, h₂.trans h₁⟩

/-! ## The calls of a response -/

/-- A step that leaves the iterations of a budget alone. -/
def SameIterations (budget budget' : CaseBudget) : Prop :=
  budget'.max_iterations = budget.max_iterations ∧
    budget'.iterations_used = budget.iterations_used

theorem after_iterations (loop : AgentLoop) (run : ToolRun) :
    SameIterations loop.budget (loop.after run).budget := by
  unfold AgentLoop.after
  dsimp only
  split
  · exact ⟨rfl, add_zero _⟩
  · exact ⟨rfl, rfl⟩

/-- What the calls of a response do: the runs that they add, up to a halt. -/
structure Executed (env : AgentEnv W) (calls : List ToolCall) (loop : AgentLoop)
    (halted : Option AgentRunResult) (next : AgentLoop) (runs : List ToolRun) : Prop where
  budget : SameIterations loop.budget next.budget
  tool_trace : next.tool_trace = loop.tool_trace ++ runs.map ToolRun.dump
  in_order : UpToHalt ToolRun.call ToolRun.halts calls runs
  arguments : ∀ run ∈ runs, RunOf env run.call run
  goes_on : halted = none → GoesOn ToolRun.halts runs
  ends : ∀ result, halted = some result →
    ∃ run, runs.getLast? = some run ∧ run.halts = true ∧ result = terminal env run

theorem executed_nil (env : AgentEnv W) (loop : AgentLoop) :
    Executed env [] loop none loop [] where
  budget := ⟨rfl, rfl⟩
  tool_trace := (List.append_nil _).symm
  in_order := .done
  arguments _ hrun := absurd hrun List.not_mem_nil
  goes_on _ := goesOn_nil
  ends _ h := absurd h.symm (Option.some_ne_none _)

variable {env : AgentEnv W}

theorem executed_halt {run : ToolRun} (calls : List ToolCall)
    (loop : AgentLoop) (hrun : RunOf env run.call run) (hhalts : run.halts = true) :
    Executed env (run.call :: calls) loop (some (terminal env run)) (loop.after run) [run] where
  budget := after_iterations loop run
  tool_trace := rfl
  in_order := .halt hhalts
  arguments run' hmem := by
    obtain rfl := List.mem_singleton.mp hmem
    exact hrun
  goes_on h := absurd h (Option.some_ne_none _)
  ends result h := ⟨run, rfl, hhalts, (Option.some.inj h).symm⟩

variable {loop : AgentLoop}

theorem executed_cons {run : ToolRun} {calls : List ToolCall}
    {next : AgentLoop} {halted : Option AgentRunResult} {runs : List ToolRun}
    (hrun : RunOf env run.call run) (hgoes : run.halts = false)
    (h : Executed env calls (loop.after run) halted next runs) :
    Executed env (run.call :: calls) loop halted next (run :: runs) where
  budget := ⟨h.budget.1.trans (after_iterations loop run).1,
    h.budget.2.trans (after_iterations loop run).2⟩
  tool_trace := by
    rw [h.tool_trace, List.map_cons]
    show (loop.tool_trace ++ [run.dump]) ++ _ = _
    rw [List.append_assoc, List.singleton_append]
  in_order := .next hgoes h.in_order
  arguments run' hmem := by
    rcases List.mem_cons.mp hmem with rfl | hmem
    · exact hrun
    · exact h.arguments run' hmem
  goes_on hnone := goesOn_cons hgoes (h.goes_on hnone)
  ends result hresult := by
    obtain ⟨last, hlast, hends⟩ := h.ends result hresult
    refine ⟨last, ?_, hends⟩
    rw [List.getLast?_cons, hlast]
    rfl

theorem run_calls_executes (env : AgentEnv W) (ctx : ToolContext) (calls : List ToolCall)
    (loop : AgentLoop) (s : Session W) :
    wp (run_calls env ctx calls loop)
      (fun r s' => ∃ runs, s'.events = s.events ++ runs.map .ran ∧
        Executed env calls loop r.1 r.2 runs)
      (fun _ s' => ∃ runs : List ToolRun, s'.events = s.events ++ runs.map .ran) s := by
  induction calls generalizing loop s with
  | nil => exact ⟨[], (List.append_nil _).symm, executed_nil env loop⟩
  | cons call calls ih =>
    unfold run_calls
    rw [wp_bind]
    refine wp_mono (invoke_tool_runs env ctx call s) (fun run s₁ h₁ => ?_)
      fun _ s' h => ⟨[], by rw [h]; exact (List.append_nil _).symm⟩
    obtain ⟨hrun, hevents⟩ := h₁
    obtain rfl := hrun.1
    rw [wp_bind, wp_note, wp_ite]
    refine ⟨fun hhalts => ⟨[run], ?_, executed_halt calls loop hrun hhalts⟩, fun hgoes => ?_⟩
    · show s₁.events ++ _ = _
      rw [hevents]
      rfl
    · refine wp_mono (ih (loop.after run) _) ?_ ?_
      · rintro ⟨halted, next⟩ s₂ ⟨runs, h₂, hexecuted⟩
        refine ⟨run :: runs, ?_, executed_cons hrun (Bool.not_eq_true _ ▸ hgoes) hexecuted⟩
        rw [h₂]
        show (s₁.events ++ [AgentEvent.ran run]) ++ _ = _
        rw [hevents, List.append_assoc, List.map_cons, List.singleton_append]
      · rintro exc s₂ ⟨runs, h₂⟩
        refine ⟨run :: runs, ?_⟩
        rw [h₂]
        show (s₁.events ++ [AgentEvent.ran run]) ++ _ = _
        rw [hevents, List.append_assoc, List.map_cons, List.singleton_append]

/-! ## A turn -/

/-- The loop between two turns: the iterations that were used, and the trace
of the runs so far, none of which halted. -/
structure Going (env : AgentEnv W) (budget : CaseBudget) (loop : AgentLoop)
    (events : List AgentEvent) : Prop where
  limit : loop.budget.max_iterations = budget.max_iterations
  counted : (asks events : ℤ) = loop.budget.iterations_used - budget.iterations_used
  within : (asks events : ℤ) ≤ budget.remaining_iterations
  tool_trace : loop.tool_trace = (toolRuns events).map ToolRun.dump
  in_order : UpToHalt ToolRun.call ToolRun.halts (askedCalls events) (toolRuns events)
  arguments : ∀ run ∈ toolRuns events, RunOf env run.call run
  goes_on : GoesOn ToolRun.halts (toolRuns events)

/-- The halt tool that an outcome stands for. -/
def haltToolOf : AgentOutcome → Option String
  | .RESOLVED | .AWAITING_ERP => some "declare_done"
  | .ESCALATED => some "escalate"
  | .AWAITING_BUYER => some "request_clarification_email"
  | .BUDGET_EXHAUSTED | .ERROR => none

/-- The report of a run and its log: the trace holds the runs, which are those
of the calls up to the first halt, and an outcome of a halt tool is the one of
the last run. -/
structure Reported (env : AgentEnv W) (report : AgentReport) (events : List AgentEvent) :
    Prop where
  tool_trace : report.tool_trace = (toolRuns events).map ToolRun.dump
  in_order : UpToHalt ToolRun.call ToolRun.halts (askedCalls events) (toolRuns events)
  arguments : ∀ run ∈ toolRuns events, RunOf env run.call run
  outcome : ∀ name, haltToolOf report.outcome = some name →
    ∃ run, (toolRuns events).getLast? = some run ∧ run.call.tool_name = name ∧
      run.result.status = "ok" ∧
      report.outcome = outcome_for_halt_tool env name run.result.data

/-- A halting run is one of the halt tool of its outcome. -/
theorem halt_tool_of_terminal (env : AgentEnv W) {run : ToolRun} (hhalts : run.halts = true) :
    run.result.status = "ok" ∧
      haltToolOf (terminal env run).outcome = some run.call.tool_name := by
  unfold ToolRun.halts at hhalts
  rw [Bool.and_eq_true, decide_eq_true_iff, decide_eq_true_iff] at hhalts
  refine ⟨hhalts.2, ?_⟩
  have hname := hhalts.1
  simp only [HALT_TOOLS, List.mem_cons, List.not_mem_nil, or_false] at hname
  unfold terminal outcome_for_halt_tool
  dsimp only
  rcases hname with hname | hname | hname
  · rw [hname, if_pos rfl]
    rfl
  · rw [hname, if_neg (by decide), if_pos rfl]
    rfl
  · rw [hname, if_neg (by decide), if_neg (by decide)]
    split
    · rfl
    · rfl

/-- How a turn ends: with a report, or with a loop that goes on. -/
def TurnEnds (env : AgentEnv W) (budget : CaseBudget) : Turn → List AgentEvent → Prop
  | .ended report, events =>
    (asks events : ℤ) ≤ budget.remaining_iterations ∧ Reported env report events
  | .again next, events => Going env budget next events

variable {budget : CaseBudget}

theorem finish_ends {request : AgentRequest} {result : AgentRunResult} {s : Session W}
    (hasks : (asks s.events : ℤ) ≤ budget.remaining_iterations)
    (h : ∀ report : AgentReport, report.tool_trace = loop.tool_trace →
      report.outcome = result.outcome → Reported env report s.events) :
    wp (finish env request loop result) (fun turn s' => TurnEnds env budget turn s'.events)
      (fun _ s' => (asks s'.events : ℤ) ≤ budget.remaining_iterations) s := by
  unfold finish
  rw [wp_bind]
  refine wp_mono (to_audit_dict_keeps env loop.budget s) (fun snapshot s' hs' => ?_)
    fun _ s' hs' => by rw [hs']; exact hasks
  refine ⟨?_, ?_⟩
  · rw [hs']
    exact hasks
  · rw [hs']
    exact h _ rfl rfl

variable {events : List AgentEvent}

theorem reported_of_going {events' : List AgentEvent} (h : Going env budget loop events)
    (hruns : toolRuns events' = toolRuns events) (hcalls : askedCalls events' = askedCalls events)
    {report : AgentReport} (htrace : report.tool_trace = loop.tool_trace)
    (hnone : haltToolOf report.outcome = none) : Reported env report events' where
  tool_trace := by
    rw [htrace, hruns]
    exact h.tool_trace
  in_order := by
    rw [hcalls, hruns]
    exact h.in_order
  arguments := by
    rw [hruns]
    exact h.arguments
  outcome name hname := absurd (hnone.symm.trans hname).symm (Option.some_ne_none name)

theorem asks_within (h : Going env budget loop events)
    (hleft : loop.budget.iterations_used < loop.budget.max_iterations) :
    (asks events : ℤ) + 1 ≤ budget.remaining_iterations := by
  have hlimit := h.limit
  have hcounted := h.counted
  unfold CaseBudget.remaining_iterations
  omega

/-- After the answer of the provider and the calls that ran. -/
theorem going_after {next : AgentLoop} {response : AgentLLMResponse} {runs : List ToolRun}
    (h : Going env budget loop events)
    (hleft : loop.budget.iterations_used < loop.budget.max_iterations)
    (hnext : Executed env response.tool_calls (loop.charged response) none next runs) :
    Going env budget next (events ++ [.asked (.ok response)] ++ runs.map .ran) where
  limit := hnext.budget.1.trans h.limit
  counted := by
    have hused : next.budget.iterations_used = loop.budget.iterations_used + 1 := hnext.budget.2
    have hcounted := h.counted
    rw [asks_append_ran, asks_append_asked]
    push_cast
    omega
  within := by
    rw [asks_append_ran, asks_append_asked]
    exact_mod_cast asks_within h hleft
  tool_trace := by
    rw [hnext.tool_trace, toolRuns_append_ran, toolRuns_append_asked, List.map_append,
      ← h.tool_trace]
    rfl
  in_order := by
    rw [askedCalls_append_ran, askedCalls_append_asked, toolRuns_append_ran,
      toolRuns_append_asked]
    exact h.in_order.append h.goes_on hnext.in_order
  arguments run hrun := by
    rw [toolRuns_append_ran, toolRuns_append_asked] at hrun
    rcases List.mem_append.mp hrun with hrun | hrun
    · exact h.arguments run hrun
    · exact hnext.arguments run hrun
  goes_on := by
    rw [toolRuns_append_ran, toolRuns_append_asked]
    exact goesOn_append h.goes_on (hnext.goes_on rfl)

/-- After the calls of a response of which the last halted. -/
theorem reported_after {next : AgentLoop} {response : AgentLLMResponse} {result : AgentRunResult}
    {runs : List ToolRun} (h : Going env budget loop events)
    (hnext : Executed env response.tool_calls (loop.charged response) (some result) next runs)
    {report : AgentReport} (htrace : report.tool_trace = next.tool_trace)
    (houtcome : report.outcome = result.outcome) :
    Reported env report (events ++ [.asked (.ok response)] ++ runs.map .ran) where
  tool_trace := by
    rw [htrace, hnext.tool_trace, toolRuns_append_ran, toolRuns_append_asked, List.map_append,
      ← h.tool_trace]
    rfl
  in_order := by
    rw [askedCalls_append_ran, askedCalls_append_asked, toolRuns_append_ran,
      toolRuns_append_asked]
    exact h.in_order.append h.goes_on hnext.in_order
  arguments run hrun := by
    rw [toolRuns_append_ran, toolRuns_append_asked] at hrun
    rcases List.mem_append.mp hrun with hrun | hrun
    · exact h.arguments run hrun
    · exact hnext.arguments run hrun
  outcome name hname := by
    obtain ⟨run, hlast, hhalts, rfl⟩ := hnext.ends result rfl
    obtain ⟨hstatus, htool⟩ := halt_tool_of_terminal env hhalts
    rw [houtcome, htool] at hname
    obtain rfl := Option.some.inj hname
    refine ⟨run, ?_, rfl, hstatus, houtcome⟩
    rw [toolRuns_append_ran, List.getLast?_append, hlast]
    rfl

theorem take_response_ends (request : AgentRequest) (response : AgentLLMResponse) {s : Session W}
    (h : Going env budget loop events)
    (hleft : loop.budget.iterations_used < loop.budget.max_iterations)
    (hs : s.events = events ++ [.asked (.ok response)]) :
    wp (take_response env request loop response)
      (fun turn s' => TurnEnds env budget turn s'.events)
      (fun _ s' => (asks s'.events : ℤ) ≤ budget.remaining_iterations) s := by
  have hasks : ∀ runs : List ToolRun,
      (asks (s.events ++ runs.map .ran) : ℤ) ≤ budget.remaining_iterations := by
    intro runs
    rw [asks_append_ran, hs, asks_append_asked]
    exact_mod_cast asks_within h hleft
  unfold take_response
  dsimp only
  rw [wp_ite]
  refine ⟨fun hnone => ?_, fun _ => ?_⟩
  · refine finish_ends (by simpa using hasks []) fun report htrace houtcome => ?_
    rw [hs]
    refine reported_of_going h (toolRuns_append_asked _ _) ?_ htrace (by rw [houtcome]; rfl)
    rw [askedCalls_append_asked, hnone, List.append_nil]
  · rw [wp_bind]
    refine wp_mono (run_calls_executes env _ response.tool_calls _ s) ?_ ?_
    · rintro ⟨halted, next⟩ s' ⟨runs, hs', hexecuted⟩
      dsimp only at hexecuted ⊢
      cases halted with
      | some result =>
        refine finish_ends (by rw [hs']; exact hasks runs) fun report htrace houtcome => ?_
        rw [hs', hs]
        exact reported_after h hexecuted htrace houtcome
      | none =>
        rw [wp_pure, hs', hs]
        exact going_after h hleft hexecuted
    · rintro exc s' ⟨runs, hs'⟩
      rw [hs']
      exact hasks runs

/-- A turn of a loop that goes on. -/
theorem agent_turn_ends {env : AgentEnv W} {budget : CaseBudget} (request : AgentRequest)
    {loop : AgentLoop} {s : Session W} (h : Going env budget loop s.events) :
    wp (agent_turn env request loop) (fun turn s' => TurnEnds env budget turn s'.events)
      (fun _ s' => (asks s'.events : ℤ) ≤ budget.remaining_iterations) s := by
  unfold agent_turn
  rw [wp_bind]
  refine wp_mono (wp_and (is_exhausted_keeps env loop.budget s)
    (is_exhausted_none env loop.budget s)) ?_ fun _ s' hs' => by rw [hs'.1]; exact h.within
  rintro exhausted s₁ ⟨h₁, hleft⟩
  have h' : Going env budget loop s₁.events := by
    rw [h₁]
    exact h
  cases exhausted with
  | some exhaustion =>
    exact finish_ends h'.within fun report htrace houtcome =>
      reported_of_going h' rfl rfl htrace (by rw [houtcome]; rfl)
  | none =>
    dsimp only
    rw [wp_bind]
    refine wp_mono (build_working_memory_keeps env request loop.actions s₁) (fun frame s₂ h₂ => ?_)
      fun _ s' hs' => by rw [hs']; exact h'.within
    have hgoing : Going env budget loop s₂.events := by
      rw [h₂]
      exact h'
    unfold ask
    simp only [wp_bind, wp_outside, wp_note, wp_pure]
    cases (env.call frame s₂.world).1 with
    | ok response => exact take_response_ends request response hgoing (hleft rfl) rfl
    | error exc =>
      refine finish_ends ?_ fun report htrace houtcome => ?_
      · dsimp only
        rw [asks_append_asked]
        exact_mod_cast asks_within hgoing (hleft rfl)
      · exact reported_of_going hgoing (toolRuns_append_asked _ _) (askedCalls_append_failed _ _)
          htrace (by rw [houtcome]; rfl)

/-! ## The run -/

/-- A turn after which the loop goes on has used an iteration that was left. -/
theorem agent_turn_uses (env : AgentEnv W) (request : AgentRequest) (loop : AgentLoop)
    (s : Session W) :
    wp (agent_turn env request loop)
      (fun turn _ => ∀ next, turn = .again next →
        (next.budget.max_iterations - next.budget.iterations_used).toNat <
          (loop.budget.max_iterations - loop.budget.iterations_used).toNat)
      (fun _ _ => True) s := by
  have hfinish : ∀ (loop' : AgentLoop) (result : AgentRunResult) (s' : Session W),
      wp (finish env request loop' result)
        (fun turn _ => ∀ next, turn = .again next →
          (next.budget.max_iterations - next.budget.iterations_used).toNat <
            (loop.budget.max_iterations - loop.budget.iterations_used).toNat)
        (fun _ _ => True) s' := by
    intro loop' result s'
    unfold finish
    rw [wp_bind]
    exact wp_intro (fun _ _ _ next h => by cases h) fun _ _ _ => trivial
  unfold agent_turn
  rw [wp_bind]
  refine wp_mono (is_exhausted_none env loop.budget s) (fun exhausted s₁ hleft => ?_)
    fun _ _ _ => trivial
  cases exhausted with
  | some exhaustion => exact hfinish loop _ s₁
  | none =>
    dsimp only
    rw [wp_bind]
    refine wp_intro (fun frame s₂ _ => ?_) fun _ _ _ => trivial
    rw [wp_bind]
    refine wp_intro (fun answer s₃ _ => ?_) fun _ _ _ => trivial
    cases answer with
    | error exc => exact hfinish loop _ s₃
    | ok response =>
      dsimp only
      unfold take_response
      rw [wp_ite]
      refine ⟨fun _ => hfinish _ _ s₃, fun _ => ?_⟩
      dsimp only
      rw [wp_bind]
      refine wp_mono (run_calls_executes env _ response.tool_calls _ s₃) ?_ fun _ _ _ => trivial
      rintro ⟨halted, next⟩ s₄ ⟨runs, -, hexecuted⟩
      cases halted with
      | some result => exact hfinish next result s₄
      | none =>
        intro next' hnext
        obtain rfl := Turn.again.inj hnext
        have hlimit : next.budget.max_iterations = loop.budget.max_iterations :=
          hexecuted.budget.1
        have hused : next.budget.iterations_used = loop.budget.iterations_used + 1 :=
          hexecuted.budget.2
        have hleft := hleft rfl
        dsimp only
        omega

/-- The `while` loop. Each turn uses an iteration, so it ends. -/
def run_turns (env : AgentEnv W) (request : AgentRequest) (loop : AgentLoop) (s : Session W) :
    EStateM.Result PyErr (Session W) AgentReport :=
  match _ : agent_turn env request loop s with
  | .error exc s' => .error exc s'
  | .ok (.ended report) s' => .ok report s'
  | .ok (.again next) s' => run_turns env request next s'
termination_by (loop.budget.max_iterations - loop.budget.iterations_used).toNat
decreasing_by
  rename_i hturn
  exact wp_ok (agent_turn_uses env request loop s) hturn next rfl

def agent_loop (env : AgentEnv W) (request : AgentRequest) (loop : AgentLoop) :
    AgentProg W AgentReport := run_turns env request loop

/-- The budget that a run opens with. -/
def opening_budget (env : AgentEnv W) (case : WorkedCase) :
    Option CaseBudget → AgentProg W CaseBudget
  | some budget => return budget
  | none => CaseBudget.for_case env case

def run_case_agent (env : AgentEnv W) (request : AgentRequest) (budget : Option CaseBudget) :
    AgentProg W AgentReport := do
  let budget ← opening_budget env request.case budget
  agent_loop env request { budget := budget, actions := request.last_actions }

section turns

variable {env : AgentEnv W} {request : AgentRequest} {loop : AgentLoop} {s s' : Session W}

theorem run_turns_error {exc : PyErr} (h : agent_turn env request loop s = .error exc s') :
    run_turns env request loop s = .error exc s' := by
  rw [run_turns]
  split
  · rename_i hturn
    cases hturn.symm.trans h
    rfl
  · rename_i hturn
    cases hturn.symm.trans h
  · rename_i hturn
    cases hturn.symm.trans h

theorem run_turns_ended {report : AgentReport}
    (h : agent_turn env request loop s = .ok (.ended report) s') :
    run_turns env request loop s = .ok report s' := by
  rw [run_turns]
  split
  · rename_i hturn
    cases hturn.symm.trans h
  · rename_i hturn
    cases hturn.symm.trans h
    rfl
  · rename_i hturn
    cases hturn.symm.trans h

theorem run_turns_again {next : AgentLoop}
    (h : agent_turn env request loop s = .ok (.again next) s') :
    run_turns env request loop s = run_turns env request next s' := by
  rw [run_turns]
  split
  · rename_i hturn
    cases hturn.symm.trans h
  · rename_i hturn
    cases hturn.symm.trans h
  · rename_i hturn
    cases hturn.symm.trans h
    rfl

end turns

/-- From a loop that goes on, the run asks within its budget and reports its
log. -/
theorem agent_loop_ends {env : AgentEnv W} {budget : CaseBudget} (request : AgentRequest)
    (loop : AgentLoop) (s : Session W) (h : Going env budget loop s.events) :
    wp (agent_loop env request loop)
      (fun report s' => (asks s'.events : ℤ) ≤ budget.remaining_iterations ∧
        Reported env report s'.events)
      (fun _ s' => (asks s'.events : ℤ) ≤ budget.remaining_iterations) s := by
  unfold agent_loop
  induction loop, s using run_turns.induct env request with
  | case1 loop s exc s' hturn =>
    have hends := agent_turn_ends request h
    unfold wp at hends ⊢
    rw [hturn] at hends
    rw [run_turns_error hturn]
    exact hends
  | case2 loop s report s' hturn =>
    have hends := agent_turn_ends request h
    unfold wp at hends ⊢
    rw [hturn] at hends
    rw [run_turns_ended hturn]
    exact hends
  | case3 loop s next s' hturn ih =>
    have hends := agent_turn_ends request h
    unfold wp at hends
    rw [hturn] at hends
    exact (wp_of_run_eq (run_turns_again hturn)).mpr (ih hends)

theorem going_start (env : AgentEnv W) (budget : CaseBudget) (actions : List PyDict) :
    Going env budget { budget := budget, actions := actions } [] where
  limit := rfl
  counted := (sub_self _).symm
  within := le_max_left _ _
  tool_trace := rfl
  in_order := .done
  arguments _ hrun := absurd hrun List.not_mem_nil
  goes_on := goesOn_nil

/-- The provider was asked at most as often as the budget had iterations left,
and so at most `max_iterations` times when none of them were owed. -/
structure AskedWithin (opened : CaseBudget) (events : List AgentEvent) : Prop where
  remaining : (asks events : ℤ) ≤ opened.remaining_iterations
  counted : 0 ≤ opened.iterations_used → asks events ≤ opened.max_iterations.toNat

theorem askedWithin_of_le {opened : CaseBudget}
    (h : (asks events : ℤ) ≤ opened.remaining_iterations) : AskedWithin opened events where
  remaining := h
  counted hused := by
    unfold CaseBudget.remaining_iterations at h
    omega

theorem opening_budget_keeps (env : AgentEnv W) (case : WorkedCase) (budget : Option CaseBudget) :
    keeps Session.events (opening_budget env case budget) := by
  cases budget with
  | some budget => exact keeps_pure budget
  | none => exact for_case_keeps env case

/-- The provider is asked at most as often as the opening budget allows, and
the report tells what ran: the calls in their order up to the first successful
halt tool, which is the last to run and gives the outcome. -/
theorem a_run_asks_within_its_budget_and_reports_its_calls_up_to_the_first_halt
    (env : AgentEnv W) (request : AgentRequest) (budget : Option CaseBudget) (world : W) :
    (∀ opened s, opening_budget env request.case budget ⟨world, []⟩ = .ok opened s →
      AskedWithin opened
        (endState (run_case_agent env request budget ⟨world, []⟩)).events) ∧
      ∀ report s, run_case_agent env request budget ⟨world, []⟩ = .ok report s →
        Reported env report s.events := by
  have hrun : ∀ (opened : CaseBudget) (s : Session W),
      opening_budget env request.case budget ⟨world, []⟩ = .ok opened s →
      wp (agent_loop env request { budget := opened, actions := request.last_actions })
        (fun report s' => (asks s'.events : ℤ) ≤ opened.remaining_iterations ∧
          Reported env report s'.events)
        (fun _ s' => (asks s'.events : ℤ) ≤ opened.remaining_iterations) s := by
    intro opened s hopened
    refine agent_loop_ends request _ s ?_
    have hkept := opening_budget_keeps env request.case budget ⟨world, []⟩
    rw [wp_ok hkept hopened]
    exact going_start env opened request.last_actions
  refine ⟨fun opened s hopened => askedWithin_of_le ?_, fun report s h => ?_⟩
  · refine wp_end (P := fun s' : Session W => (asks s'.events : ℤ) ≤ opened.remaining_iterations) ?_
    unfold run_case_agent
    rw [wp_bind]
    exact wp_of_ok hopened (wp_mono (hrun opened s hopened) (fun _ _ h => h.1) fun _ _ h => h)
  · refine wp_ok (Q := fun report s' => Reported env report s'.events) (E := fun _ _ => True) ?_ h
    unfold run_case_agent
    rw [wp_bind]
    refine wp_intro (fun opened s' hopened => ?_) fun _ _ _ => trivial
    exact wp_mono (hrun opened s' hopened) (fun _ _ h => h.2) fun _ _ _ => trivial

def stockRequest : AgentRequest where
  case := {
    case_id := "CASE-1"
    tenant_id := "T1"
    status := .OPEN_AGENT_PROCESSING
    supergroup_code := none
    pending_override := none
    closed_at := none
    opened_at := "2026-01-01T00:00:00"
    origin := "API"
    source_channel := "edi_x12_850" }
  skill_name := ""
  current_event := { order_id := "ORD-1", po_price := .fin 10, sap_base_price := .fin 10 }

def stockTool (handler : ToolHandler ℕ) : String × ToolSpec ℕ :=
  ("check_stock", { name := "check_stock", description := "", handler := handler })

def stockCall : ToolCall := { tool_name := "check_stock", arguments := [("sku", .str "SKU-1")] }

/-- An environment whose world counts the calls of the provider. -/
def scriptedEnv (handler : ToolHandler ℕ) (script : ℕ → List ToolCall) : AgentEnv ℕ where
  tool_registry := [stockTool handler, ("declare_done", {
    name := "declare_done"
    description := ""
    handler := fun _ arguments world =>
      ((.ok { tool_name := "declare_done", status := "ok" }, arguments), world) })]
  call _ world := (.ok { tool_calls := script world }, world + 1)
  monotonic world := (.fin 0, world)
  load_skill_bundle _ world := (.ok {}, world)
  dump_event _ := .ok []
  upper text := text

def stockBudget (iterations_used max_iterations : ℤ) : CaseBudget where
  tier := 1
  max_input_tokens := 4000
  max_output_tokens := 1000
  max_iterations := max_iterations
  max_wall_clock_ms := 500
  max_cost_usd := .fin 1
  iterations_used := iterations_used
  started_at_monotonic := .fin 0

/-- The stock is looked up, and then the agent is done, before it asks again. -/
def lookUpAndStop : AgentEnv ℕ :=
  scriptedEnv
    (fun _ arguments world =>
      ((.ok { tool_name := "check_stock", status := "ok" }, arguments), world))
    fun asked => if asked = 0 then [stockCall] else [{ tool_name := "declare_done" }, stockCall]

theorem a_run_that_is_done_reports_its_calls :
    ∃ report s,
      run_case_agent lookUpAndStop stockRequest (some (stockBudget 0 6)) ⟨0, []⟩ = .ok report s ∧
        report.outcome = .RESOLVED ∧ (askedCalls s.events).length = 3 ∧
        (toolRuns s.events).length = 2 ∧ AskedWithin (stockBudget 0 6) s.events ∧
        Reported lookUpAndStop report s.events := by
  have hrun : wp (run_case_agent lookUpAndStop stockRequest (some (stockBudget 0 6)))
      (fun report s => report.outcome = .RESOLVED ∧ (askedCalls s.events).length = 3 ∧
        (toolRuns s.events).length = 2) (fun _ _ => False) ⟨0, []⟩ := by
    decide +kernel
  obtain ⟨report, s, h, houtcome, hcalls, hruns⟩ := wp_returned hrun
  have hlaw := a_run_asks_within_its_budget_and_reports_its_calls_up_to_the_first_halt
    lookUpAndStop stockRequest (some (stockBudget 0 6)) 0
  refine ⟨report, s, h, houtcome, hcalls, hruns, ?_, hlaw.2 report s h⟩
  have hasked := hlaw.1 (stockBudget 0 6) ⟨0, []⟩ rfl
  rw [h] at hasked
  exact hasked

/-- A handler that takes the argument out of the call, and a provider that
asks for it again and again. -/
def lookUpForever : AgentEnv ℕ :=
  scriptedEnv
    (fun _ arguments world =>
      ((.ok { tool_name := "check_stock", status := "ok" }, dict.pop arguments "sku"), world))
    fun _ => [stockCall]

/-- A counter below zero buys another call of the provider, and the trace holds
the arguments that the handler left. -/
theorem a_counter_below_zero_and_an_edited_call :
    wp (run_case_agent lookUpForever stockRequest (some (stockBudget (-1) 1)))
      (fun report s => (stockBudget (-1) 1).max_iterations.toNat < asks s.events ∧
        report.tool_trace.map ToolStep.tool_call ≠ (askedCalls s.events).map ToolCall.model_dump)
      (fun _ _ => False) ⟨0, []⟩ := by
  decide +kernel

end asoe
