-- The bookkeeping of the workflow runner (workflows/runner.py) for any events
-- and any outcomes of the graph: the steps that completed are undone in
-- reverse, and the status says whether there is anything to undo.
import Asoe.Lib.Prog
import Asoe.Workflows

namespace asoe.workflows

open py prog

/-! ## The runner -/

/-- Another value at one event object. -/
def write_event (heap : ℕ → OrderEvent) (e : ℕ) (event : OrderEvent) : ℕ → OrderEvent :=
  fun j => if j = e then event else heap j

def missing_event_line (step : WorkflowStep) : String :=
  "Missing event for step " ++ step.step_id

section runner

variable (graph : ℕ → GraphState → EStateM PyErr External GraphState)
  (definition : WorkflowDefinition)

/-- The steps from the `i`-th on, with the event objects that are left. -/
def run_each : ℕ → List WorkflowStep → List ℕ → (ℕ → OrderEvent) → List WorkflowStepResult →
    List (String × Option String) → EStateM PyErr External WorkflowResult
  | _, [], _, _, results, _ =>
    pure ⟨definition.workflow_id, definition.name, .COMPLETE, results, []⟩
  | _, step :: _, [], _, results, completed =>
    pure ⟨definition.workflow_id, definition.name, .FAILED, results,
      compensate completed ++ [missing_event_line step]⟩
  | i, step :: steps, e :: events, heap, results, completed => do
    let event := step_event step results.getLast? (heap e)
    let state ← graph i { event := event }
    let results := results ++ [step_result step state]
    if state.final_status = some .COMPLETE then
      run_each (i + 1) steps events (write_event heap e event) results
        (completed ++ [(step.step_id, step.compensation_recipe)])
    else
      let status : WorkflowStatus :=
        if completed.any fun c => c.2.isSome then .COMPENSATED else .FAILED
      return ⟨definition.workflow_id, definition.name, status, results, compensate completed⟩

/-- `WorkflowRunner.run(...)`: the events are objects, which the list may hold more than once. -/
def run (events : List ℕ) (heap : ℕ → OrderEvent) : EStateM PyErr External WorkflowResult :=
  run_each graph definition 0 definition.steps events heap [] []

/-- The graph completes every step that there is an event for. -/
def completes_each : ℕ → List WorkflowStep → List ℕ → (ℕ → OrderEvent) →
    List WorkflowStepResult → External → Bool
  | i, step :: steps, e :: events, heap, results, ext =>
    let event := step_event step results.getLast? (heap e)
    match graph i { event := event } ext with
    | .ok state ext' =>
      state.final_status == some .COMPLETE &&
        completes_each (i + 1) steps events (write_event heap e event)
          (results ++ [step_result step state]) ext'
    | .error _ _ => false
  | _, _, _, _, _, _ => true

end runner

/-! ## The bookkeeping -/

/-- The steps that the results show as completed. -/
def completed_steps (definition : WorkflowDefinition) (r : WorkflowResult) : List WorkflowStep :=
  ((definition.steps.zip r.step_results).filter fun p => p.2.final_status == .COMPLETE).map Prod.fst

/-- The run ended before the last step was completed. -/
def StoppedEarly (definition : WorkflowDefinition) (r : WorkflowResult) : Prop :=
  (completed_steps definition r).length < definition.steps.length

/-- The line on a missing event: every step that ran completed, and another one has no event. -/
def note (definition : WorkflowDefinition) (r : WorkflowResult) : List String :=
  if (completed_steps definition r).length = r.step_results.length then
    (definition.steps[r.step_results.length]?).toList.map missing_event_line
  else []

/-- What a result tells about the steps. -/
structure Bookkept (definition : WorkflowDefinition) (r : WorkflowResult) : Prop where
  in_order : r.step_results.map (·.step_id) <+: definition.steps.map (·.step_id)
  complete : ∀ x ∈ r.step_results.dropLast, x.final_status = .COMPLETE
  log : StoppedEarly definition r → r.compensation_log =
    (completed_steps definition r).reverse.map
      (fun s => compensation_line (s.step_id, s.compensation_recipe)) ++ note definition r
  no_log : ¬ StoppedEarly definition r → r.compensation_log = []
  status : r.status = .COMPENSATED ↔ StoppedEarly definition r ∧
    ∃ s ∈ completed_steps definition r, s.compensation_recipe.isSome = true

/-- Steps that ran, each completed. -/
structure Progress (done : List WorkflowStep) (results : List WorkflowStepResult) : Prop where
  ids : results.map (·.step_id) = done.map (·.step_id)
  complete : ∀ x ∈ results, x.final_status = .COMPLETE

namespace Progress

variable {done : List WorkflowStep} {results : List WorkflowStepResult} (h : Progress done results)
include h

theorem length_eq : results.length = done.length := by
  have hlength := congrArg List.length h.ids
  simpa using hlength

theorem snoc {step : WorkflowStep} {x : WorkflowStepResult} (hid : x.step_id = step.step_id)
    (hx : x.final_status = .COMPLETE) : Progress (done ++ [step]) (results ++ [x]) where
  ids := by
    rw [List.map_append, List.map_append, h.ids, List.map_singleton, List.map_singleton, hid]
  complete y hy := by
    rcases List.mem_append.mp hy with hy | hy
    · exact h.complete y hy
    · rw [List.mem_singleton.mp hy, hx]

theorem filter_zip :
    ((done.zip results).filter fun p => p.2.final_status == .COMPLETE).map Prod.fst = done := by
  rw [List.filter_eq_self.mpr, List.map_fst_zip (Nat.le_of_eq h.length_eq.symm)]
  intro p hp
  rw [h.complete p.2 (List.of_mem_zip hp).2]
  rfl

theorem completed_steps_eq {definition : WorkflowDefinition} {rest : List WorkflowStep}
    {r : WorkflowResult} (hsteps : definition.steps = done ++ rest)
    (hr : r.step_results = results) :
    completed_steps definition r = done := by
  have hzip : (done ++ rest).zip results = done.zip results := by
    conv_lhs => rw [← List.append_nil results]
    rw [List.zip_append h.length_eq.symm, List.zip_nil_right, List.append_nil]
  unfold completed_steps
  rw [hsteps, hr, hzip, h.filter_zip]

theorem completed_steps_snoc {definition : WorkflowDefinition} {step : WorkflowStep}
    {rest : List WorkflowStep} {x : WorkflowStepResult} {r : WorkflowResult}
    (hsteps : definition.steps = done ++ step :: rest) (hr : r.step_results = results ++ [x])
    (hx : x.final_status ≠ .COMPLETE) : completed_steps definition r = done := by
  unfold completed_steps
  rw [hsteps, hr, List.zip_append h.length_eq.symm, List.filter_append, List.map_append,
    h.filter_zip]
  simp [hx]

end Progress

theorem compensate_eq (done : List WorkflowStep) :
    compensate (done.map fun s => (s.step_id, s.compensation_recipe)) =
      done.reverse.map fun s => compensation_line (s.step_id, s.compensation_recipe) := by
  unfold compensate
  rw [← List.map_reverse, List.map_map]
  rfl

section ends

variable {definition : WorkflowDefinition} {done rest : List WorkflowStep} {step : WorkflowStep}
  {results : List WorkflowStepResult} (h : Progress done results)
include h

/-- Every step completed. -/
theorem bookkept_complete (hsteps : definition.steps = done) :
    Bookkept definition ⟨definition.workflow_id, definition.name, .COMPLETE, results, []⟩ := by
  have hcompleted : completed_steps definition
      ⟨definition.workflow_id, definition.name, .COMPLETE, results, []⟩ = done :=
    h.completed_steps_eq (hsteps.trans (List.append_nil done).symm) rfl
  have hearly : ¬ StoppedEarly definition
      ⟨definition.workflow_id, definition.name, .COMPLETE, results, []⟩ := by
    unfold StoppedEarly
    rw [hcompleted, hsteps]
    exact Nat.lt_irrefl _
  refine ⟨?_, fun x hx => h.complete x (List.dropLast_subset _ hx),
    fun h => absurd h hearly, fun _ => rfl, ?_⟩
  · exact ⟨[], by rw [List.append_nil, h.ids, hsteps]⟩
  · constructor
    · rintro ⟨⟩
    · rintro ⟨h, -⟩
      exact absurd h hearly

/-- A step did not complete. -/
theorem bookkept_failed (hsteps : definition.steps = done ++ step :: rest) {x : WorkflowStepResult}
    (hid : x.step_id = step.step_id) (hx : x.final_status ≠ .COMPLETE) :
    Bookkept definition ⟨definition.workflow_id, definition.name,
      if (done.map fun s => (s.step_id, s.compensation_recipe)).any fun c => c.2.isSome
        then .COMPENSATED else .FAILED,
      results ++ [x], compensate (done.map fun s => (s.step_id, s.compensation_recipe))⟩ := by
  generalize hr : WorkflowResult.mk _ _ _ _ _ = r
  have hresults : r.step_results = results ++ [x] := by rw [← hr]
  have hlog : r.compensation_log =
      compensate (done.map fun s => (s.step_id, s.compensation_recipe)) := by
    rw [← hr]
  have hcompleted := h.completed_steps_snoc hsteps hresults hx
  have hearly : StoppedEarly definition r := by
    unfold StoppedEarly
    rw [hcompleted, hsteps, List.length_append, List.length_cons]
    omega
  refine ⟨?_, ?_, fun _ => ?_, fun hnot => absurd hearly hnot, ?_⟩
  · rw [hresults, hsteps, List.map_append, List.map_append, h.ids, List.map_cons, List.map_cons,
      hid]
    exact List.prefix_append_right_inj _ |>.mpr (by simp)
  · rw [hresults, List.dropLast_concat]
    exact h.complete
  · have hnote : note definition r = [] := by
      unfold note
      rw [if_neg]
      rw [hcompleted, hresults, List.length_append, h.length_eq]
      simp
    rw [hlog, hcompleted, hnote, List.append_nil, compensate_eq]
  · rw [← hr]
    dsimp only
    rw [hr, hcompleted, and_iff_right hearly]
    constructor
    · intro hstatus
      split at hstatus
      · rename_i hany
        simpa using hany
      · cases hstatus
    · rintro ⟨s, hs, hsome⟩
      rw [if_pos]
      simpa using ⟨s, hs, hsome⟩

/-- There is no event for a step: the status is wrong when a completed step declares a
compensation. -/
theorem bookkept_missing_iff (hsteps : definition.steps = done ++ step :: rest) :
    Bookkept definition ⟨definition.workflow_id, definition.name, .FAILED, results,
      compensate (done.map fun s => (s.step_id, s.compensation_recipe)) ++
        [missing_event_line step]⟩ ↔
      ∀ s ∈ done, s.compensation_recipe.isSome = false := by
  generalize hr : WorkflowResult.mk _ _ _ _ _ = r
  have hresults : r.step_results = results := by rw [← hr]
  have hlog : r.compensation_log =
      compensate (done.map fun s => (s.step_id, s.compensation_recipe)) ++
        [missing_event_line step] := by
    rw [← hr]
  have hstatus : r.status = .FAILED := by rw [← hr]
  have hcompleted := h.completed_steps_eq hsteps hresults
  have hearly : StoppedEarly definition r := by
    unfold StoppedEarly
    rw [hcompleted, hsteps, List.length_append, List.length_cons]
    omega
  constructor
  · intro hbook s hs
    rw [Bool.eq_false_iff]
    intro hsome
    have hwrong := hbook.status.mpr ⟨hearly, s, by rwa [hcompleted], hsome⟩
    rw [hstatus] at hwrong
    cases hwrong
  · intro hnone
    refine ⟨?_, ?_, fun _ => ?_, fun hnot => absurd hearly hnot, ?_⟩
    · rw [hresults, hsteps, List.map_append, h.ids]
      exact List.prefix_append _ _
    · rw [hresults]
      exact fun x hx => h.complete x (List.dropLast_subset _ hx)
    · have hnote : note definition r = [missing_event_line step] := by
        unfold note
        rw [if_pos (by rw [hcompleted, hresults, h.length_eq]), hresults, h.length_eq, hsteps]
        simp
      rw [hlog, hcompleted, hnote, compensate_eq]
    · rw [hstatus, hcompleted]
      constructor
      · rintro ⟨⟩
      · rintro ⟨-, s, hs, hsome⟩
        rw [hnone s hs] at hsome
        cases hsome

end ends

theorem step_result_status (step : WorkflowStep) (state : GraphState) :
    (step_result step state).final_status = .COMPLETE ↔ state.final_status = some .COMPLETE := by
  unfold step_result
  cases state.final_status with
  | none => exact ⟨fun h => (by cases h), fun h => (by cases h)⟩
  | some status => exact ⟨fun h => congrArg some h, fun h => Option.some.inj h⟩

/-- From a point at which every step completed, the runner keeps the books unless the events
run out under a completed step with a compensation. -/
theorem run_each_bookkept (graph : ℕ → GraphState → EStateM PyErr External GraphState)
    {definition : WorkflowDefinition} {steps done : List WorkflowStep} {events : List ℕ}
    {heap : ℕ → OrderEvent} {results : List WorkflowStepResult} {i : ℕ} {ext : External}
    (h : Progress done results) (hsteps : definition.steps = done ++ steps) :
    (∀ r ext', run_each graph definition i steps events heap results
        (done.map fun s => (s.step_id, s.compensation_recipe)) ext = .ok r ext' →
      Bookkept definition r) ↔
    ¬ (events.length < steps.length ∧
      completes_each graph i steps events heap results ext = true ∧
      ∃ s ∈ done ++ steps.take events.length, s.compensation_recipe.isSome = true) := by
  induction steps generalizing done events heap results i ext with
  | nil =>
    refine iff_of_true ?_ (fun hstop => absurd hstop.1 (Nat.not_lt_zero _))
    rintro r ext' hrun
    obtain ⟨rfl, -⟩ := EStateM.Result.ok.inj hrun
    exact bookkept_complete h (hsteps.trans (List.append_nil done))
  | cons step steps ih =>
    cases events with
    | nil =>
      have hbook := bookkept_missing_iff h hsteps
      constructor
      · rintro hall ⟨-, -, s, hs, hsome⟩
        have hnone := hbook.mp (hall _ _ rfl) s (by simpa using hs)
        rw [hnone] at hsome
        cases hsome
      · rintro hstop r ext' hrun
        obtain ⟨rfl, -⟩ := EStateM.Result.ok.inj hrun
        refine hbook.mpr fun s hs => ?_
        rw [Bool.eq_false_iff]
        exact fun hsome => hstop ⟨Nat.succ_pos _, rfl, s, by simpa using hs, hsome⟩
    | cons e events =>
      rw [run_each, completes_each]
      cases hgraph : graph i { event := step_event step results.getLast? (heap e) } ext with
      | error err ext₁ =>
        refine iff_of_true ?_ fun hstop => absurd hstop.2.1 (by simp)
        intro r ext' hrun
        rw [run_bind, hgraph] at hrun
        cases hrun
      | ok state ext₁ =>
        by_cases hc : state.final_status = some .COMPLETE
        · have hid : (step_result step state).step_id = step.step_id := rfl
          have hnext := h.snoc hid ((step_result_status step state).mpr hc)
          have hsteps' : definition.steps = (done ++ [step]) ++ steps := by
            rw [hsteps, List.append_assoc, List.singleton_append]
          have hrest := @ih (done ++ [step]) events
            (write_event heap e (step_event step results.getLast? (heap e)))
            (results ++ [step_result step state]) (i + 1) ext₁ hnext hsteps'
          refine Iff.trans ?_ (hrest.trans ?_)
          · rw [run_bind, hgraph]
            dsimp only
            rw [if_pos hc, List.map_append, List.map_singleton]
          · dsimp only
            rw [hc, List.length_cons, List.length_cons, List.take_succ_cons, List.append_assoc,
              List.singleton_append]
            simp
        · refine iff_of_true ?_ fun hstop => absurd hstop.2.1 (by simp [hc])
          intro r ext' hrun
          rw [run_bind, hgraph] at hrun
          dsimp only at hrun
          rw [if_neg hc] at hrun
          obtain ⟨rfl, -⟩ := EStateM.Result.ok.inj hrun
          exact bookkept_failed h hsteps rfl fun hx => hc ((step_result_status step state).mp hx)

/-- The books are kept exactly unless the events run out under a completed step that declares
a compensation. -/
theorem the_books_are_kept_unless_events_run_out_under_a_compensation
    (graph : ℕ → GraphState → EStateM PyErr External GraphState) (definition : WorkflowDefinition)
    (events : List ℕ) (heap : ℕ → OrderEvent) (ext : External) :
    (∀ r ext', run graph definition events heap ext = .ok r ext' → Bookkept definition r) ↔
      ¬ (events.length < definition.steps.length ∧
        completes_each graph 0 definition.steps events heap [] ext = true ∧
        ∃ s ∈ definition.steps.take events.length, s.compensation_recipe.isSome = true) := by
  have hstart : Progress [] [] := ⟨rfl, by simp⟩
  exact run_each_bookkept graph hstart (List.nil_append _).symm

/-! ## A workflow whose events run out -/

/-- A graph that completes every state. -/
def completing : ℕ → GraphState → EStateM PyErr External GraphState := fun _ state =>
  pure { state with final_status := some .COMPLETE }

def orderEvent : OrderEvent where
  order_id := "4711"
  po_price := .fin 10
  sap_base_price := .fin 12

def priceStep : WorkflowStep where
  step_id := "s1"
  intent := .CONTRACTUAL_CORRECTION
  compensation_recipe := some "ReversePriceRecipe"

def twoSteps : WorkflowDefinition where
  workflow_id := "WF-1"
  name := "price and quantity"
  steps := [priceStep, ⟨"s2", .UNKNOWN, [], none⟩]

/-- One event for two steps: the first step completed and declares a compensation, but the
status is not that of a workflow to be compensated. -/
theorem a_missing_event_hides_a_compensation :
    ¬ ∀ r ext', run completing twoSteps [0] (fun _ => orderEvent) {} = .ok r ext' →
      Bookkept twoSteps r := by
  intro h
  have hbook := h _ _ rfl
  have hwrong := hbook.status.mpr ⟨by unfold StoppedEarly; decide, priceStep, by decide, rfl⟩
  cases hwrong

end asoe.workflows
