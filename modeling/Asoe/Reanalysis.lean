-- A replay stores the outcome of a new run over the old record, field by
-- field. The first resolution stores the same outcome as a whole. Here the
-- two are compared.
import Asoe.ErpSubmit

namespace asoe

open py prog runs

/-! ## What the two paths store -/

/-- Two records with the same outcome of a run. -/
structure SameOutcome (r r₀ : ChildCase) : Prop where
  trace_id : r.trace_id = r₀.trace_id
  intent : r.intent = r₀.intent
  shadow_verdict : r.shadow_verdict = r₀.shadow_verdict
  selected_recipe : r.selected_recipe = r₀.selected_recipe
  final_status : r.final_status = r₀.final_status
  lifecycle_state : r.lifecycle_state = r₀.lifecycle_state
  resolution_data : r.resolution_data = r₀.resolution_data
  enrichment_context : r.enrichment_context = r₀.enrichment_context

/-- The record `id` of one service and the record `id₀` of another agree on
the outcome, and their traces are the same. -/
def Consistent (api : Api) (id : String) (api₀ : Api) (id₀ : String) : Prop :=
  ∃ r t r₀ t₀, dict.get api.records id = some r ∧ dict.get api.traces id = some t ∧
    dict.get api₀.records id₀ = some r₀ ∧ dict.get api₀.traces id₀ = some t₀ ∧
    SameOutcome r r₀ ∧ t = t₀

/-- The composer misses audit fields. -/
def ComposedAnalysis.Gap (composed : ComposedAnalysis) : Prop :=
  composed.class_name ≠ "" ∧ composed.missing_audit_fields ≠ []

theorem with_audit_gap_eq_iff (composed : ComposedAnalysis) (trace_id : String)
    (fin : GraphState) :
    with_audit_gap composed (trace_data_of trace_id fin) = trace_data_of trace_id fin ↔
      ¬ composed.Gap := by
  unfold with_audit_gap ComposedAnalysis.Gap
  by_cases h : composed.class_name ≠ "" ∧ composed.missing_audit_fields ≠ []
  · rw [if_pos h]
    refine ⟨fun heq => ?_, fun hno => absurd h hno⟩
    have hclass := congrArg TraceData.audit_context_missing_class heq
    cases hclass
  · rw [if_neg h]
    exact ⟨fun _ => h, fun _ => rfl⟩

/-- What a resolution that was persisted stores. -/
structure Persisted (env : StepEnv) (tenant : String) (fin : GraphState) (cases : List (String × OrderCase))
    (id : String) (api : Api) (r : ChildCase) (t : TraceData) : Prop where
  id_eq : id = env.new_id
  record_get : dict.get api.records id = some r
  trace_get : dict.get api.traces id = some t
  built : ∃ cases' case data composed, env.lookup_or_create fin.event cases = .ok (cases', case) ∧
    resolution_data_of fin = .ok data ∧
    r = record_of env tenant (run_trace_id env fin) case data fin ∧
    env.compose_record r = .ok composed ∧
    t = with_audit_gap composed (trace_data_of (run_trace_id env fin) fin)

theorem wp_persist_exception (cfg : Config) (env : StepEnv) (tenant : String) (fin : GraphState)
    (api : Api) :
    wp (persist_exception cfg env tenant (run_trace_id env fin) fin)
      (fun id api' => ∃ r t, Persisted env tenant fin api.cases id api' r t) (fun _ _ => True)
      api := by
  unfold persist_exception
  rw [wp_bind]
  refine wp_lift_py (fun data hdata => ?_) fun _ _ => trivial
  rw [wp_bind, wp_get, wp_bind]
  refine wp_lift_py (fun opened hopened => ?_) fun _ _ => trivial
  obtain ⟨cases', case⟩ := opened
  simp only [wp_bind, wp_modify]
  refine wp_recompute_case_status (fun cases'' => ?_) fun _ => trivial
  refine wp_lift_py (fun composed hcomposed => ?_) fun _ _ => trivial
  rw [wp_pure]
  refine ⟨_, _, rfl, ?_, ?_, cases', case, data, composed, hopened, hdata, rfl, hcomposed, rfl⟩
  · simp [store_trace, put_record, dict.get_set_self]
  · simp [store_trace, dict.get_set_self]

/-- What a replay that succeeded stores, of the final state of its run. -/
structure Replayed (env : StepEnv) (r : ChildCase) (fin : GraphState) (id : String) (api : Api)
    (r' : ChildCase) : Prop where
  record_get : dict.get api.records id = some r'
  trace_get : dict.get api.traces id = some (trace_data_of (run_trace_id env fin) fin)
  written : SameOutcome r' { reanalyzed_record env fin r with
    resolution_data := r.resolution_data, enrichment_context := r.enrichment_context }

theorem wp_replay {cfg : Config} {env : StepEnv} {user : AuthenticatedUser} {id reason : String}
    {api api₁ : Api} {r : ChildCase} {event : OrderEvent} {fin : GraphState}
    (hget : get_record api id user.org = some r) (hevent : r.original_event = some event)
    (hrun : resolve_state env id { event := event, tenant_id := some user.org } api = .ok fin api₁) :
    wp (reanalyze_exception cfg env user id reason)
      (fun _ api' => ∃ r', Replayed env r fin id api' r') (fun _ _ => True) api := by
  have hget₁ : get_record api₁ id user.org = some r := by
    have hsame := wp_ok (wp_resolve_state (Q := fun _ api' => api'.records = api.records)
      (E := fun _ _ => True) (fun _ _ _ _ => rfl) fun _ _ _ _ _ => trivial) hrun
    rw [get_record, hsame]
    exact hget
  unfold reanalyze_exception require_role
  rw [wp_bind, wp_require]
  refine ⟨fun _ => ?_, fun _ => trivial⟩
  rw [wp_bind]
  refine wp_get_or_404 (fun r' hr' => ?_) fun _ => trivial
  cases hget.symm.trans hr'
  simp only [wp_bind, wp_require, hevent]
  refine ⟨fun _ => ⟨fun _ => ?_, fun _ => trivial⟩, fun _ => trivial⟩
  simp only [wp_get, wp_mapError]
  refine wp_of_ok hrun ?_
  unfold persist_reanalysis
  simp only [wp_bind, wp_modify]
  refine wp_update_record (r := r) hget₁ ?_
  refine wp_update_record (r := stamped env (reanalyzed_record env fin r)) ?_ ?_
  · simp [get_record, put_record, store_trace, dict.get_set_self, stamped, reanalyzed_record,
      (get_record_some hget).2]
  · rw [wp_pure, log_audit_event_eq]
    refine wp_reaggregate (fun cases => ?_) fun _ => trivial
    refine ⟨_, dict.get_set_self _ _ _, ?_, ⟨rfl, rfl, rfl, rfl, rfl, rfl, rfl, rfl⟩⟩
    exact dict.get_set_self api₁.traces id _

/-! ## When they agree -/

/-- The record holds, before the replay, what the replay leaves unwritten:
the resolution data and the gateway context of the new run, and a trace
without an audit gap. -/
structure AlreadyStored (env : StepEnv) (tenant : String) (cases : List (String × OrderCase))
    (r : ChildCase) (fin : GraphState) : Prop where
  resolution_data : resolution_data_of fin = .ok r.resolution_data
  enrichment_context : r.enrichment_context = fin.enrichment_context
  no_gap : ∀ cases' case composed, env.lookup_or_create fin.event cases = .ok (cases', case) →
    env.compose_record (record_of env tenant (run_trace_id env fin) case r.resolution_data fin) =
      .ok composed → ¬ composed.Gap

/-- A replayed record is consistent with its new run exactly when the record
already held the resolution data and the gateway context of that run, and
the composer misses no audit field in it. -/
theorem a_replay_is_consistent_iff_nothing_else_changed (cfg : Config) (env : StepEnv)
    (user : AuthenticatedUser) (id reason id₀ : String) (api api₁ api' api₀ api₀' : Api)
    (r : ChildCase) (event : OrderEvent) (fin : GraphState) (resp : ExceptionDetailResponse)
    (hget : get_record api id user.org = some r) (hevent : r.original_event = some event)
    (hrun : resolve_state env id { event := event, tenant_id := some user.org } api = .ok fin api₁)
    (hreplay : reanalyze_exception cfg env user id reason api = .ok resp api')
    (hpersist : persist_exception cfg env user.org (run_trace_id env fin) fin api₀ =
      .ok id₀ api₀') :
    Consistent api' id api₀' id₀ ↔ AlreadyStored env user.org api₀.cases r fin := by
  obtain ⟨r', hreplayed⟩ := wp_ok (wp_replay hget hevent hrun) hreplay
  obtain ⟨r₀, t₀, hpersisted⟩ := wp_ok (wp_persist_exception cfg env user.org fin api₀) hpersist
  obtain ⟨cases', case, data, composed, hcase, hdata, hr₀, hcomposed, ht₀⟩ := hpersisted.built
  have hwritten := hreplayed.written
  constructor
  · rintro ⟨r₁, t₁, r₂, t₂, hr₁, ht₁, hr₂, ht₂, hsame, htrace⟩
    cases hr₁.symm.trans hreplayed.record_get
    cases ht₁.symm.trans hreplayed.trace_get
    cases hr₂.symm.trans hpersisted.record_get
    cases ht₂.symm.trans hpersisted.trace_get
    have hsaved : r.resolution_data = data := by
      have hr₀data := congrArg ChildCase.resolution_data hr₀
      exact hwritten.resolution_data.symm.trans (hsame.resolution_data.trans hr₀data)
    refine ⟨by rw [hsaved, hdata], ?_, fun cases₂ case₂ composed₂ hcase₂ hcomposed₂ => ?_⟩
    · have hr₀ctx := congrArg ChildCase.enrichment_context hr₀
      exact hwritten.enrichment_context.symm.trans (hsame.enrichment_context.trans hr₀ctx)
    · cases hcase.symm.trans hcase₂
      rw [hsaved, ← hr₀, hcomposed] at hcomposed₂
      cases hcomposed₂
      exact (with_audit_gap_eq_iff _ _ _).mp (htrace.trans ht₀).symm
  · rintro ⟨hstored, hcontext, hgap⟩
    cases hdata.symm.trans hstored
    refine ⟨r', _, r₀, t₀, hreplayed.record_get, hreplayed.trace_get, hpersisted.record_get,
      hpersisted.trace_get, ?_, ?_⟩
    · subst hr₀
      exact ⟨hwritten.trace_id, hwritten.intent, hwritten.shadow_verdict,
        hwritten.selected_recipe, hwritten.final_status, hwritten.lifecycle_state,
        hwritten.resolution_data, hwritten.enrichment_context.trans hcontext⟩
    · have hno := hgap cases' case composed hcase (hr₀ ▸ hcomposed)
      rw [ht₀, (with_audit_gap_eq_iff _ _ _).mpr hno]

/-! ## A credit block that is lifted -/

/-- An intake whose checks pass, the credit check apart. -/
def intakeEvent : OrderEvent :=
  { order_id := "4711", event_type := "MANUAL_ORDER_INTAKE", po_price := .fin 10,
    sap_base_price := .fin 10
    metadata := [("composite_confidence", .float (lit (96 / 100))),
      ("non_disableable_floor", .dict [("sender_authorized", .bool true),
        ("customer_resolved", .bool true), ("duplicate_po_clear", .bool true)])] }

/-- What the intake recipe answers for this event: the credit check decides. -/
def intakeOutputs (params : PyDict) : PyDict :=
  let credit_clear :=
    match dict.get params "non_disableable_floor" with
    | some (.dict floor) => (PyVal.ofOption (dict.get floor "credit_clear")).truthy
    | _ => false
  let verdict (status classification action level : String) (breaches : List PyVal)
      (reject : PyVal) : PyDict :=
    [("status", .str status), ("classification", .str classification),
      ("recommended_action", .str action), ("autonomy_level", .str level),
      ("notification_template", if action = "REJECT" then .str "email_order_rejected" else .none),
      ("composite_confidence", .float (lit (96 / 100))), ("validation_failures", .list []),
      ("floor_breaches", .list breaches), ("reject_reason_code", reject),
      ("order_id", .str "4711"), ("customer_id", .str "")]
  if credit_clear then verdict "SUCCESS" "ONE_CLICK_APPROVE" "ONE_CLICK_APPROVE" "L2" [] .none
  else
    verdict "REJECTED" "FATAL_REJECT" "REJECT" "L4" [.str "credit_clear"] (.str "credit_block")

/-- A service where the credit check answers `credit_clear`. -/
def intakeRun (credit_clear : Bool) : RunEnv :=
  { sampleRun 100 with
    read_gateway := fun req =>
      { gateway_name := req.gateway_name, operation := req.operation, status := .SUCCESS,
        data := if req.operation = "credit_check" then [("credit_clear", .bool credit_clear)]
          else [] }
    other_recipes := fun _ params => .ok (intakeOutputs params) }

def blockedIntakeStep : Step :=
  ⟨sampleEnv (intakeRun false), sampleUser "analyst", .resolve intakeEvent false⟩

def blockedIntake : Api := run (step sampleConfig) {} [blockedIntakeStep]

/-- While the credit is still blocked a replay is consistent. -/
theorem a_replay_that_finds_the_block_again_is_consistent :
    ∃ fin api₁ resp api' id₀ api₀',
      resolve_state (sampleEnv (intakeRun false)) "E1"
        { event := intakeEvent, tenant_id := some "T1" } blockedIntake = .ok fin api₁ ∧
      reanalyze_exception sampleConfig (sampleEnv (intakeRun false)) (sampleUser "manager") "E1"
        "again" blockedIntake = .ok resp api' ∧
      persist_exception sampleConfig (sampleEnv (intakeRun false)) "T1"
        (run_trace_id (sampleEnv (intakeRun false)) fin) fin api₁ = .ok id₀ api₀' ∧
      Consistent api' "E1" api₀' id₀ := by
  obtain ⟨r, hget, hevent, hstored⟩ : ∃ r ∈ get_record blockedIntake "E1" "T1",
      r.original_event = some intakeEvent ∧
      wp (resolve_state (sampleEnv (intakeRun false)) "E1"
          { event := intakeEvent, tenant_id := some "T1" })
        (fun fin api₁ => (resolution_data_of fin = .ok r.resolution_data ∧
            r.enrichment_context = fin.enrichment_context) ∧
          wp (persist_exception sampleConfig (sampleEnv (intakeRun false)) "T1"
            (run_trace_id (sampleEnv (intakeRun false)) fin) fin) (fun _ _ => True)
            (fun _ _ => False) api₁)
        (fun _ _ => False) blockedIntake := by decide +kernel
  have hreturns : wp (reanalyze_exception sampleConfig (sampleEnv (intakeRun false))
      (sampleUser "manager") "E1" "again") (fun _ _ => True) (fun _ _ => False) blockedIntake := by
    decide +kernel
  obtain ⟨fin, api₁, hrun, ⟨hdata, hcontext⟩, hpersists⟩ := wp_returned hstored
  obtain ⟨id₀, api₀', hpersist, -⟩ := wp_returned hpersists
  obtain ⟨resp, api', hreplay, -⟩ := wp_returned hreturns
  refine ⟨fin, api₁, resp, api', id₀, api₀', hrun, hreplay, hpersist, ?_⟩
  refine (a_replay_is_consistent_iff_nothing_else_changed sampleConfig
    (sampleEnv (intakeRun false)) (sampleUser "manager") "E1" "again" id₀ blockedIntake api₁ api'
    api₁ api₀' r intakeEvent fin resp hget hevent hrun hreplay hpersist).mpr
    ⟨hdata, hcontext, fun _ _ composed _ hcomposed => ?_⟩
  cases hcomposed
  exact fun hgap => hgap.1 rfl

/-- The recommendation that a record carries. -/
def recommended (api : Api) (id : String) : Option PyVal :=
  (dict.get api.records id).bind fun r => dict.get r.resolution_data.outputs "recommended_action"

theorem Consistent.same_recommendation {api api₀ : Api} {id id₀ : String}
    (h : Consistent api id api₀ id₀) : recommended api id = recommended api₀ id₀ := by
  obtain ⟨r, t, r₀, t₀, hr, -, hr₀, -, hsame, -⟩ := h
  simp [recommended, hr, hr₀, hsame.resolution_data]

/-- Once the block is lifted, a replay approves the order, and the record
still recommends to reject it. -/
theorem a_replay_keeps_an_old_recommendation :
    ¬ ∀ (cfg : Config) (env : StepEnv) (user : AuthenticatedUser) (id reason id₀ : String)
      (pre : List Step) (api₁ api' api₀' : Api) (r : ChildCase) (event : OrderEvent)
      (fin : GraphState) (resp : ExceptionDetailResponse),
      get_record (run (step cfg) {} pre) id user.org = some r → r.original_event = some event →
      resolve_state env id { event := event, tenant_id := some user.org }
        (run (step cfg) {} pre) = .ok fin api₁ →
      reanalyze_exception cfg env user id reason (run (step cfg) {} pre) = .ok resp api' →
      persist_exception cfg env user.org (run_trace_id env fin) fin api₁ = .ok id₀ api₀' →
      Consistent api' id api₀' id₀ := by
  intro h
  obtain ⟨r, hget, hevent, hnew⟩ : ∃ r ∈ get_record blockedIntake "E1" "T1",
      r.original_event = some intakeEvent ∧
      wp (resolve_state (sampleEnv (intakeRun true)) "E1"
          { event := intakeEvent, tenant_id := some "T1" })
        (fun fin api₁ => wp (persist_exception sampleConfig (sampleEnv (intakeRun true)) "T1"
            (run_trace_id (sampleEnv (intakeRun true)) fin) fin)
          (fun id₀ api₀' => recommended api₀' id₀ = some (.str "ONE_CLICK_APPROVE"))
          (fun _ _ => False) api₁)
        (fun _ _ => False) blockedIntake := by decide +kernel
  have hold : wp (reanalyze_exception sampleConfig (sampleEnv (intakeRun true))
      (sampleUser "manager") "E1" "again")
      (fun _ api' => recommended api' "E1" = some (.str "REJECT")) (fun _ _ => False)
      blockedIntake := by decide +kernel
  obtain ⟨fin, api₁, hrun, hpersists⟩ := wp_returned hnew
  obtain ⟨id₀, api₀', hpersist, happrove⟩ := wp_returned hpersists
  obtain ⟨resp, api', hreplay, hreject⟩ := wp_returned hold
  have hsame := (h sampleConfig (sampleEnv (intakeRun true)) (sampleUser "manager") "E1" "again"
    id₀ [blockedIntakeStep] api₁ api' api₀' r intakeEvent fin resp hget hevent hrun hreplay
    hpersist).same_recommendation
  rw [hreject, happrove] at hsame
  simp at hsame

end asoe
