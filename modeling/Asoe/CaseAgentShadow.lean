-- The Shadow in front of the case agent and the Shadow of the graph, on one
-- event. The agent's audit sees the event as it came in; the graph audits it
-- after `ingest` has summed its variance and `classify` has named its intent.
import Asoe.RecipeChoice
import Asoe.Resolve

namespace asoe

open py prog flow

/-! ## What the graph audits -/

/-- The state that a resolve request starts with. -/
def opened (event : OrderEvent) (tenant_id : String) : GraphState :=
  { event := event, tenant_id := some tenant_id }

/-! ## Verdicts -/

def verdict_of (r : Except PyErr ComplianceDecision) : Except PyErr ShadowStatus :=
  r.map (·.status)

theorem verdict_of_l1_audit {env : RunEnv} (henv : env.shadow_backend = none) (s : GraphState) :
    verdict_of (l1_audit env s) =
      (shadow_decision s.intent s.batch_total_variance s.event).map (·.status) := by
  simp only [verdict_of, l1_audit, henv]
  cases shadow_decision s.intent s.batch_total_variance s.event <;> rfl

/-- The graph halts the event: its breaker trips, or its Shadow says RED. -/
def GraphHalts (env : RunEnv) (s : GraphState) : Prop :=
  circuit_breaker s.update_count s.batch_total_variance ≠ [] ∨
    verdict_of (l1_audit env (classify env s)) = .ok .RED

/-- The agent path is gated as the graph is: by the same verdict, and an
event that the graph halts ends there as blocked or failed. -/
def SameGate (env : StepEnv) (event : OrderEvent) (tenant_id : String) : Prop :=
  ∀ s, ingest env.first_run (opened event tenant_id) = .ok s →
    verdict_of (agent_audit env (opened event tenant_id)) =
      verdict_of (l1_audit env.first_run (classify env.first_run s)) ∧
    (GraphHalts env.first_run s → ∀ api, wp (resolve_via_case_agent env (opened event tenant_id))
      (fun fin _ => fin.final_status = some .BLOCKED ∨ fin.final_status = some .FAIL_TO_HUMAN)
      (fun _ _ => False) api)

/-! ## The two verdicts -/

section verdicts

variable {env : StepEnv} {event : OrderEvent} {tenant_id : String} {s : GraphState}

theorem agent_verdict (henv : env.agent_backend = none) :
    verdict_of (agent_audit env (opened event tenant_id)) =
      .ok (if event.line_count > MASS_UPDATE_LINE_COUNT_THRESHOLD then .RED else .GREEN) := by
  unfold agent_audit
  rw [henv, verdict_of_l1_audit rfl]
  have hzero : CIRCUIT_BREAKER_MAX_VARIANCE.lt (.fin 0) = false := by decide +kernel
  by_cases hlines : event.line_count > MASS_UPDATE_LINE_COUNT_THRESHOLD
  · simp [opened, shadow_decision, hzero, hlines, Except.map]
  · simp [opened, shadow_decision, hzero, hlines, Except.map]

theorem classify_intent_routed (hroute : event.event_type ∈ ROUTABLE_EVENT_TYPES) :
    (classify_intent event).intent =
      if event.line_count > MASS_UPDATE_LINE_COUNT_THRESHOLD then .MASS_PRICING_ERROR
      else .MANUAL_ORDER_INTAKE := by
  by_cases hlines : event.line_count > MASS_UPDATE_LINE_COUNT_THRESHOLD
  · rw [classify_intent, if_pos hlines, if_pos hlines]
  · simp only [ROUTABLE_EVENT_TYPES, List.mem_cons, List.not_mem_nil, or_false] at hroute
    rcases hroute with h | h <;>
      simp only [classify_intent, if_neg hlines, h, List.mem_cons, List.not_mem_nil, or_false,
        String.reduceEq, or_self, reduceIte, or_true]

theorem graph_verdict (henv : env.first_run.shadow_backend = none)
    (hroute : event.event_type ∈ ROUTABLE_EVENT_TYPES) (hs : s.event = event) :
    verdict_of (l1_audit env.first_run (classify env.first_run s)) =
      .ok (if event.line_count > MASS_UPDATE_LINE_COUNT_THRESHOLD ∨
        CIRCUIT_BREAKER_MAX_VARIANCE.lt s.batch_total_variance = true then .RED else .GREEN) := by
  have hc := classify_classified env.first_run s
  have hintent : (classify env.first_run s).intent = (classify_intent event).intent := by
    rw [classify_deterministic, hs]
  rw [verdict_of_l1_audit henv, hintent, hc.event, hc.batch_total_variance, hs,
    classify_intent_routed hroute]
  by_cases hlines : event.line_count > MASS_UPDATE_LINE_COUNT_THRESHOLD
  · simp [hlines, shadow_decision, Except.map]
  · by_cases hvariance : CIRCUIT_BREAKER_MAX_VARIANCE.lt s.batch_total_variance = true
    · simp [hlines, hvariance, shadow_decision, Except.map]
    · simp [hlines, hvariance, shadow_decision, Except.map]

theorem red_agent_blocks (hred : verdict_of (agent_audit env (opened event tenant_id)) = .ok .RED)
    (api : Api) : wp (resolve_via_case_agent env (opened event tenant_id))
      (fun fin _ => fin.final_status = some .BLOCKED ∨ fin.final_status = some .FAIL_TO_HUMAN)
      (fun _ _ => False) api := by
  rcases haudit : agent_audit env (opened event tenant_id) with e | shadow
  · rw [haudit] at hred
    cases hred
  rw [haudit] at hred
  have hstatus : shadow.status = .RED := Except.ok.inj hred
  unfold resolve_via_case_agent
  rw [haudit, wp_bind]
  simp only [lift_py, Except.mapError, wp_ofExcept]
  refine ⟨fun a ha => ?_, fun e he => by cases he⟩
  obtain rfl := Except.ok.inj ha
  rw [if_pos hstatus, wp_pure]
  exact Or.inl rfl

theorem ingest_opened (env : RunEnv) (event : OrderEvent) (tenant_id : String) :
    returns (ingest env (opened event tenant_id)) fun s =>
      s.event = event ∧ s.update_count ≤ CIRCUIT_BREAKER_MAX_UPDATES ∧
      (event.order_id = "" ∧ s.batch_total_variance = .fin 0 ∨
        event.order_id ≠ "" ∧ batch_variance event = .ok s.batch_total_variance) := by
  unfold ingest
  split
  · rename_i h
    exact (returns_pure _).mpr ⟨rfl, (by decide : (0 : ℤ) ≤ 50), Or.inl ⟨h, rfl⟩⟩
  · rename_i h
    refine returns_bind fun v hv => (returns_pure _).mpr ?_
    exact ⟨rfl, (by decide : (0 + 1 : ℤ) ≤ 50), Or.inr ⟨h, hv⟩⟩

theorem circuit_breaker_ne_nil {update_count : ℤ} {variance : PyFloat}
    (h : update_count ≤ CIRCUIT_BREAKER_MAX_UPDATES) :
    circuit_breaker update_count variance ≠ [] ↔
      CIRCUIT_BREAKER_MAX_VARIANCE.lt variance = true := by
  simp only [circuit_breaker, if_neg (not_lt.mpr h), List.nil_append]
  split <;> simp_all

end verdicts

/-! ## When the two gates agree -/

/-- The agent path is gated as the graph is exactly when the event has no
order id, more lines than a mass update, or a variance within the limit of
the circuit breaker. -/
theorem the_agent_gate_is_the_graph_gate_within_the_breaker (env : StepEnv) (event : OrderEvent)
    (tenant_id : String) (hagent : env.agent_backend = none)
    (hgraph : env.first_run.shadow_backend = none)
    (hroute : should_route_to_case_agent event env.case_agent_enabled = true) :
    SameGate env event tenant_id ↔
      event.order_id = "" ∨ event.line_count > MASS_UPDATE_LINE_COUNT_THRESHOLD ∨
        ∀ v, batch_variance event = .ok v → ¬ CIRCUIT_BREAKER_MAX_VARIANCE.lt v = true := by
  have hrouted : event.event_type ∈ ROUTABLE_EVENT_TYPES := by
    simp only [should_route_to_case_agent, Bool.and_eq_true, decide_eq_true_eq] at hroute
    exact hroute.2
  constructor
  · intro hsame
    by_contra hcond
    push Not at hcond
    obtain ⟨hid, hlines, v, hv, hlt⟩ := hcond
    -- the event is ingested with its variance, and the two verdicts differ
    obtain ⟨s, hs⟩ : ∃ s, ingest env.first_run (opened event tenant_id) = .ok s := by
      unfold ingest
      rw [if_neg (show ¬ (opened event tenant_id).event.order_id = "" from hid)]
      exact ⟨_, ok_bind hv _⟩
    obtain ⟨hevent, -, hvar⟩ := ingest_opened env.first_run event tenant_id s hs
    have hvariance : s.batch_total_variance = v := by
      rcases hvar with ⟨hempty, -⟩ | ⟨-, hvar⟩
      · exact absurd hempty hid
      · exact Except.ok.inj (hvar.symm.trans hv)
    have hverdict := (hsame s hs).1
    rw [agent_verdict hagent, graph_verdict hgraph hrouted hevent, hvariance,
      if_neg (not_lt.mpr hlines), if_pos (Or.inr hlt)] at hverdict
    cases hverdict
  · intro hcond s hs
    obtain ⟨hevent, hcount, hvar⟩ := ingest_opened env.first_run event tenant_id s hs
    -- a variance above the limit comes with a mass update only
    have hlines : CIRCUIT_BREAKER_MAX_VARIANCE.lt s.batch_total_variance = true →
        event.line_count > MASS_UPDATE_LINE_COUNT_THRESHOLD := by
      intro hlt
      rcases hvar with ⟨-, hzero⟩ | ⟨hid, hvar⟩
      · rw [hzero] at hlt
        exact absurd hlt (by decide +kernel)
      · rcases hcond with h | h | h
        · exact absurd h hid
        · exact h
        · exact absurd hlt (h _ hvar)
    have hverdict : verdict_of (agent_audit env (opened event tenant_id)) =
        verdict_of (l1_audit env.first_run (classify env.first_run s)) := by
      rw [agent_verdict hagent, graph_verdict hgraph hrouted hevent]
      by_cases h : event.line_count > MASS_UPDATE_LINE_COUNT_THRESHOLD
      · rw [if_pos h, if_pos (Or.inl h)]
      · rw [if_neg h, if_neg (fun hor => hor.elim h (h ∘ hlines))]
    refine ⟨hverdict, fun hhalts api => red_agent_blocks ?_ api⟩
    rcases hhalts with hbreach | hred
    · rw [agent_verdict hagent, if_pos (hlines ((circuit_breaker_ne_nil hcount).mp hbreach))]
    · exact hverdict.trans hred

/-! ## A large variance -/

/-- One line of an email order, priced far off the list. -/
def dearEvent : OrderEvent :=
  { order_id := "4711", event_type := "EMAIL_ORDER_ENTRY_REQUEST", po_price := .fin 20001,
    sap_base_price := .fin 1 }

def agentEnv : StepEnv := { sampleEnv (sampleRun 100) with case_agent_enabled := true }

/-- The graph halts the dear order; the agent path audits it GREEN. -/
theorem the_agent_passes_what_the_breaker_halts :
    should_route_to_case_agent dearEvent agentEnv.case_agent_enabled = true ∧
      ¬ SameGate agentEnv dearEvent "T1" := by
  refine ⟨by decide +kernel, fun h => ?_⟩
  have hverdicts : verdict_of (agent_audit agentEnv (opened dearEvent "T1")) = .ok .GREEN ∧
      (ingest agentEnv.first_run (opened dearEvent "T1")).toOption.map (fun s =>
        verdict_of (l1_audit agentEnv.first_run (classify agentEnv.first_run s))) =
        some (.ok .RED) := by
    constructor <;> decide +kernel
  rcases hs : ingest agentEnv.first_run (opened dearEvent "T1") with e | s
  · rw [hs] at hverdicts
    cases hverdicts.2
  · rw [hs] at hverdicts
    have hred : verdict_of (l1_audit agentEnv.first_run (classify agentEnv.first_run s)) =
        .ok .RED := Option.some.inj hverdicts.2
    have hsame := (h s hs).1
    rw [hverdicts.1, hred] at hsame
    cases hsame

/-- The two gates on an order whose prices agree. -/
theorem the_sample_order_meets_one_gate :
    should_route_to_case_agent sampleEvent agentEnv.case_agent_enabled = true ∧
      SameGate agentEnv sampleEvent "T1" := by
  refine ⟨by decide +kernel, (the_agent_gate_is_the_graph_gate_within_the_breaker agentEnv
    sampleEvent "T1" rfl rfl (by decide +kernel)).mpr (Or.inr (Or.inr ?_))⟩
  intro v hv
  have hzero : batch_variance sampleEvent = .ok (.fin 0) := by decide +kernel
  cases hzero.symm.trans hv
  decide +kernel

end asoe
