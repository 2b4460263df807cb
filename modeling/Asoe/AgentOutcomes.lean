-- How a run of the case agent lands. Its outcome is mapped to a terminal
-- status after the run has opened a case, so an outcome without a status
-- leaves the case behind and no record.
import Asoe.Resolve
import Asoe.CaseWrites

namespace asoe

open py prog

/-! ## The statuses of the outcomes -/

/-- A terminal status, which a YELLOW or RED verdict keeps off the
lifecycle `RESOLVED`. -/
def Landed (state : GraphState) : Prop :=
  ∃ t, state.final_status = some t ∧
    (shadow_verdict_of state = some .YELLOW ∨ shadow_verdict_of state = some .RED →
      resolve_lifecycle (some t) ≠ .RESOLVED)

theorem status_of_outcome_resolved {result : AgentRunResult} (h : result.outcome = .RESOLVED)
    (state : GraphState) :
    status_of_outcome result state = .error ⟨"AttributeError", "RESOLVED"⟩ := by
  simp only [status_of_outcome, h]

/-- Every other outcome lands, whatever the verdict was. -/
theorem landed_of_outcome {result : AgentRunResult} (h : result.outcome ≠ .RESOLVED)
    (state : GraphState) : ∃ fin, status_of_outcome result state = .ok fin ∧ Landed fin := by
  unfold status_of_outcome
  split
  · rename_i hr
    exact absurd hr h
  · refine ⟨_, rfl, .MANUAL_REVIEW_REQUIRED, rfl, ?_⟩
    intro _
    decide
  · refine ⟨_, rfl, .MANUAL_REVIEW_REQUIRED, rfl, ?_⟩
    intro _
    decide
  · refine ⟨_, rfl, .MANUAL_REVIEW_REQUIRED, rfl, ?_⟩
    intro _
    decide
  · refine ⟨_, rfl, .FAIL_TO_HUMAN, rfl, ?_⟩
    intro _
    decide
  · refine ⟨_, rfl, .FAIL_TO_HUMAN, rfl, ?_⟩
    intro _
    decide

theorem status_of_outcome_iff (result : AgentRunResult) (state : GraphState) :
    (∃ fin, status_of_outcome result state = .ok fin ∧ Landed fin) ↔
      result.outcome ≠ .RESOLVED := by
  constructor
  · rintro ⟨fin, hfin, _⟩ hr
    rw [status_of_outcome_resolved hr] at hfin
    cases hfin
  · intro h
    exact landed_of_outcome h state

theorem landed_blocked {state : GraphState} (h : state.final_status = some .BLOCKED) :
    Landed state := by
  refine ⟨.BLOCKED, h, ?_⟩
  intro _
  decide

/-! ## The dispatch to the agent -/

/-- What the agent path needs to come to an end: its audit answers, and
past a verdict other than RED the case is found, the impact is computed and
the run of the agent has an outcome other than `RESOLVED`. -/
def AgentLands (env : StepEnv) (state : GraphState) (api : Api) : Prop :=
  ∃ shadow, agent_audit env state = .ok shadow ∧
    (shadow.status ≠ .RED →
      (∃ found, env.lookup_or_create state.event api.cases = .ok found) ∧
      (∃ impact, batch_variance state.event = .ok impact) ∧
      ∃ result, env.run_agent_step { state with shadow := some shadow } = .ok result ∧
        result.outcome ≠ .RESOLVED)

section lifted

variable {α : Type} {Q : α → Api → Prop} {api : Api}

theorem wp_returned_lift (r : Except PyErr α) :
    wp (lift_py r) Q (fun _ _ => False) api ↔ ∃ a, r = .ok a ∧ Q a api := by
  rcases r with e | a
  · simp [lift_py, Except.mapError]
  · simp [lift_py, Except.mapError]

end lifted

/-- The agent path ends with a storable status exactly when its run does
not say `RESOLVED` and nothing before it raises. -/
theorem the_agent_path_lands_iff_no_outcome_is_resolved (env : StepEnv) (state : GraphState)
    (api : Api) :
    wp (resolve_via_case_agent env state) (fun fin _ => Landed fin) (fun _ _ => False) api ↔
      AgentLands env state api := by
  unfold resolve_via_case_agent AgentLands
  rw [wp_bind, wp_returned_lift]
  refine exists_congr fun shadow => and_congr_right fun _ => ?_
  by_cases hred : shadow.status = .RED
  · rw [if_pos hred, wp_pure]
    constructor
    · intro _ hne
      exact absurd hred hne
    · intro _
      exact landed_blocked rfl
  · rw [if_neg hred]
    simp only [wp_bind, wp_get, wp_returned_lift, wp_modify, status_of_outcome_iff]
    constructor
    · rintro ⟨found, hfound, impact, himpact, result, hresult, hout⟩ _
      exact ⟨⟨found, hfound⟩, ⟨impact, himpact⟩, result, hresult, hout⟩
    · intro h
      obtain ⟨⟨found, hfound⟩, ⟨impact, himpact⟩, result, hresult, hout⟩ := h hred
      exact ⟨found, hfound, impact, himpact, result, hresult, hout⟩

/-- An agent that declares its event done. -/
def doneEnv : StepEnv :=
  { intakeEnv (sampleRun 100) with
    case_agent_enabled := true, run_agent_step := fun _ => .ok ⟨.RESOLVED, none⟩ }

/-- The agent is done with a GREEN order: its case is open, the request
fails and no record was written. -/
theorem a_done_agent_leaves_a_case_without_a_record :
    should_route_to_case_agent sampleEvent doneEnv.case_agent_enabled = true ∧
      ¬ wp (resolve_via_case_agent doneEnv { event := sampleEvent, tenant_id := some "T1" })
        (fun fin _ => Landed fin) (fun _ _ => False) {} ∧
      wp (resolve sampleConfig doneEnv "T1" sampleEvent false) (fun _ _ => False)
        (fun e api => e = .asoe_error "GRAPH_EXECUTION_ERROR"
            "Graph execution failed: RESOLVED" 500 ∧
          api.cases.map (·.1) = ["C-4711"] ∧ api.records = []) {} := by
  refine ⟨by decide +kernel, ?_, by decide +kernel⟩
  intro h
  have hraises : wp (resolve_via_case_agent doneEnv
      { event := sampleEvent, tenant_id := some "T1" })
      (fun _ _ => False) (fun _ _ => True) {} := by
    decide +kernel
  obtain ⟨fin, api, hfin, _⟩ := wp_returned h
  exact wp_ok hraises hfin

end asoe
