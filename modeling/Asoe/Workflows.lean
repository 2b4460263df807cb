-- The runner of the workflows: one graph run for each step, on one event
-- that carries what an earlier step put out, and a log of what the completed
-- steps would have to undo.
import Asoe.Graph

namespace asoe

open py prog

/-! ## The definition and the result of a workflow -/

structure WorkflowStep where
  step_id : String
  intent : Intent
  input_mapping : List (String × String) := []
  compensation_recipe : Option String := none
  deriving DecidableEq

structure WorkflowDefinition where
  workflow_id : String
  name : String
  steps : List WorkflowStep
  deriving DecidableEq

structure WorkflowStepResult where
  step_id : String
  intent : Intent
  final_status : TerminalStatus
  execution_log : Option ExecutionLog
  shadow_verdict : Option String
  explanation : Option String
  deriving DecidableEq

inductive WorkflowStatus where
  | COMPLETE | FAILED | COMPENSATED
  deriving DecidableEq

structure WorkflowResult where
  workflow_id : String
  workflow_name : String
  status : WorkflowStatus
  step_results : List WorkflowStepResult
  compensation_log : List String := []
  deriving DecidableEq

/-! ## The runner -/

/-- The line for one completed step and its compensation recipe. -/
def compensation_line (completed : String × Option String) : String :=
  if completed.2.getD "" = "" then
    "NO_COMPENSATION step=" ++ completed.1 ++ " (no compensation recipe declared)"
  else "COMPENSATE step=" ++ completed.1 ++ " recipe=" ++ completed.2.getD ""

/-- `_compensate`, which only writes down what is to be done. -/
def compensate (completed : List (String × Option String)) : List String :=
  completed.reverse.map compensation_line

/-- The metadata after one pair of the input mapping. -/
def carry_over (outputs : PyDict) (metadata : PyDict) (mapping : String × String) : PyDict :=
  match PyVal.ofOption (dict.get outputs mapping.2) with
  | .none => metadata
  | value => dict.set metadata mapping.1 value

/-- The event of a step: what the step before it put out goes to its
metadata. -/
def step_event (step : WorkflowStep) (prev : Option WorkflowStepResult) (event : OrderEvent) :
    OrderEvent :=
  match prev.bind (·.execution_log) with
  | none => event
  | some log =>
    { event with metadata := step.input_mapping.foldl (carry_over log.outputs) event.metadata }

def step_result (step : WorkflowStep) (state : GraphState) : WorkflowStepResult where
  step_id := step.step_id
  intent := state.intent
  final_status := state.final_status.getD .FAIL_TO_HUMAN
  execution_log := state.execution_log
  shadow_verdict := state.shadow.map (·.status.value)
  explanation := state.explanation

/-- The steps from the `i`-th on. All of them share one event object, so
what a step is given stays for those after it. -/
def run_steps (runs : ℕ → RunEnv) (definition : WorkflowDefinition) :
    ℕ → List WorkflowStep → OrderEvent → List WorkflowStepResult →
      List (String × Option String) → EStateM PyErr External WorkflowResult
  | _, [], _, results, _ =>
    pure ⟨definition.workflow_id, definition.name, .COMPLETE, results, []⟩
  | i, step :: steps, event, results, completed => do
    let event := step_event step results.getLast? event
    let state ← run_graph (runs i) none { event := event }
    let results := results ++ [step_result step state]
    if state.final_status = some .COMPLETE then
      run_steps runs definition (i + 1) steps event results
        (completed ++ [(step.step_id, step.compensation_recipe)])
    else
      let status : WorkflowStatus :=
        if completed.any fun c => c.2.isSome then .COMPENSATED else .FAILED
      return ⟨definition.workflow_id, definition.name, status, results, compensate completed⟩

/-- `WorkflowRunner.run(...)`, as the endpoint calls it: with the base event
for every step. -/
def run_workflow (runs : ℕ → RunEnv) (definition : WorkflowDefinition) (event : OrderEvent) :
    EStateM PyErr External WorkflowResult :=
  run_steps runs definition 0 definition.steps event [] []

end asoe
