-- What stands before a submit and what the record shows after it. The gate
-- of the second user looks at the value that SAP stored, not at the value
-- that is submitted, and the record looks at the status of the recipe, not
-- at the answer of the gateway.
import Asoe.ErpSubmit

namespace asoe

open py prog runs

/-! ## The calls of a step -/

/-- The gateway calls that were made in between. -/
def newCalls (before after : External) : List GatewayCall := after.calls.drop before.calls.length

/-- Only calls of one kind were made in between. -/
def Adds (P : GatewayCall → Prop) (before after : External) : Prop :=
  ∃ new, after.calls = before.calls ++ new ∧ ∀ c ∈ new, P c

theorem Adds.refl (P : GatewayCall → Prop) (ext : External) : Adds P ext ext :=
  ⟨[], by simp, fun _ h => by cases h⟩

theorem Adds.trans {P : GatewayCall → Prop} {ext ext' ext'' : External} (h : Adds P ext ext')
    (h' : Adds P ext' ext'') : Adds P ext ext'' := by
  obtain ⟨new, hnew, hP⟩ := h
  obtain ⟨new', hnew', hP'⟩ := h'
  refine ⟨new ++ new', by rw [hnew', hnew, List.append_assoc], fun c hc => ?_⟩
  rcases List.mem_append.mp hc with hc | hc
  · exact hP c hc
  · exact hP' c hc

theorem Adds.mono {P P' : GatewayCall → Prop} {ext ext' : External} (h : Adds P ext ext')
    (hP : ∀ c, P c → P' c) : Adds P' ext ext' := by
  obtain ⟨new, hnew, h⟩ := h
  exact ⟨new, hnew, fun c hc => hP c (h c hc)⟩

theorem Adds.newCalls {P : GatewayCall → Prop} {ext ext' : External} (h : Adds P ext ext') :
    ∀ c ∈ newCalls ext ext', P c := by
  obtain ⟨new, hnew, h⟩ := h
  simpa [asoe.newCalls, hnew] using h

theorem effected_calls (env : RunEnv) (origin : Option String) (s : GraphState)
    (req : GatewayRequest) (ext : External) :
    (effected env origin s req ext).calls =
      ext.calls ++ [⟨origin, req, env.gateway ext.calls.length req⟩] := rfl

/-- The call that creates the order of the record. -/
def CreatesOrder (id : String) (c : GatewayCall) : Prop :=
  c.origin = some id ∧ c.request.gateway_name = "erp" ∧ c.request.operation = "create_sales_order"

theorem directedEnd_adds {env : RunEnv} {id tenant : String} {r : ChildCase} {recipe : RecipeName}
    {params : PyDict} {ext ext' : External} {outcome : Except PyErr GraphState}
    (h : DirectedEnd env id tenant r recipe params ext outcome ext') :
    Adds (fun c => ∀ id', CreatesOrder id' c → recipe = .SubmitToErpRecipe ∧ id' = id) ext ext' := by
  rcases h.external with rfl | ⟨event, s, req, -, -, hsel, hreq, rfl⟩
  · exact .refl _ _
  · refine ⟨_, effected_calls _ _ _ _ _, ?_⟩
    rintro c hc id' ⟨horigin, hname, -⟩
    cases List.mem_singleton.mp hc
    refine ⟨Option.some.inj (hsel.symm.trans (requested_erp hreq hname)), ?_⟩
    exact (Option.some.inj horigin).symm

/-! ## The gate of the second user -/

/-- The requests that may start a submit. -/
def Operates (request : Request) : Prop :=
  (∃ id key req, request = .disposition id key req) ∨ ∃ id key req, request = .cosign id key req

/-- The stored figure of the record is absent, or it does not reach the
threshold. -/
def Immaterial (r : ChildCase) : Prop :=
  ∃ m, cosign_materiality_usd r = .ok m ∧
    ∀ x, m = some x → HIGH_VALUE_OVERRIDE_THRESHOLD_USD.le x = false

theorem immaterial_of_low {r : ChildCase} {m : Option PyFloat} (hm : cosign_materiality_usd r = .ok m)
    (hlow : is_high_value m = false) : Immaterial r := by
  refine ⟨m, hm, fun x hx => ?_⟩
  subst hx
  exact hlow

/-- A call that creates an order is made for a record that the gate lets
pass, or with a second user. -/
def Gated (st : Step) (api : Api) (c : GatewayCall) : Prop :=
  ∀ id, CreatesOrder id c →
    SecondUser id st api ∨ ∃ r, get_record api id st.user.org = some r ∧ Immaterial r

section gate

variable {cfg : Config} {st : Step} {api : Api} {id : String} {r : ChildCase} {env : RunEnv}
  {params : PyDict} {ext ext' : External} {outcome : Except PyErr GraphState}

theorem submit_gated
    (h : DirectedEnd env id st.user.org r .SubmitToErpRecipe params ext outcome ext')
    (hgate : SecondUser id st api ∨ ∃ r, get_record api id st.user.org = some r ∧ Immaterial r) :
    Adds (Gated st api) ext ext' :=
  (directedEnd_adds h).mono fun _ hc id' horder => (hc id' horder).2 ▸ hgate

theorem reply_gated
    (h : DirectedEnd env id st.user.org r .ReplyDraftRecipe params ext outcome ext') :
    Adds (Gated st api) ext ext' :=
  (directedEnd_adds h).mono fun _ hc id' horder => by cases (hc id' horder).1

theorem answered_gated {w : Write} (hop : Operates st.request)
    (hget : get_record api id st.user.org = some r)
    (h : Answered cfg st.env st.user id r api.external api.delivery_dedup st.request w) :
    Adds (Gated st api) api.external w.external := by
  generalize hreq : st.request = req at h hop
  cases h with
  | submit_staged => exact .refl _ _
  | submitted key req m result ext' haction hstate hm hlow hrun =>
    exact submit_gated hrun (Or.inr ⟨r, hget, immaterial_of_low hm hlow⟩)
  | drafted key req result ext' haction hstate hrun => exact reply_gated hrun
  | deduped key req preview ext' dkey haction hstate hrun => exact reply_gated hrun
  | sent key req preview ext' result ext'' dkey haction hstate hrun hunseen hsend =>
    exact (reply_gated hrun).trans (reply_gated hsend)
  | override_staged => exact .refl _ _
  | disposed => exact .refl _ _
  | cosign_submitted key req p result ext' happrove haction hstate hpending hother hrun =>
    exact submit_gated hrun (Or.inl
      ⟨key, req, r, p, hreq, (get_record_some hget).1, hstate, hpending, hother⟩)
  | cosigned => exact .refl _ _
  | cosign_rejected => exact .refl _ _
  | escalated | reanalyzed | challenged | released =>
    rcases hop with ⟨_, _, _, hop⟩ | ⟨_, _, _, hop⟩ <;> cases hop

theorem abandoned_gated (hop : Operates st.request) (hget : get_record api id st.user.org = some r)
    (h : Abandoned cfg st.env st.user id r api.external api.delivery_dedup st.request ext') :
    Adds (Gated st api) api.external ext' := by
  generalize hreq : st.request = req at h hop
  cases h with
  | submit key req m e ext' haction hstate hm hlow hrun =>
    exact submit_gated hrun (Or.inr ⟨r, hget, immaterial_of_low hm hlow⟩)
  | draft key req e ext' haction hrun => exact reply_gated hrun
  | preview key req outcome ext' haction hrun => exact reply_gated hrun
  | send key req preview ext' outcome ext'' haction hrun hunseen hsend =>
    exact (reply_gated hrun).trans (reply_gated hsend)
  | cosign_submit key req p e ext' happrove haction hstate hpending hother hrun =>
    exact submit_gated hrun (Or.inl
      ⟨key, req, r, p, hreq, (get_record_some hget).1, hstate, hpending, hother⟩)
  | reanalyze => rcases hop with ⟨_, _, _, hop⟩ | ⟨_, _, _, hop⟩ <;> cases hop

theorem step_gated (hop : Operates st.request) :
    Adds (Gated st api) api.external (step cfg st api).external := by
  cases step_cases cfg st api with
  | idle hkept hext => exact hext ▸ .refl _ _
  | wrote id r w hget hanswer hwrote => exact hwrote.external ▸ answered_gated hop hget hanswer
  | abandoned id r hget hkept habandoned => exact abandoned_gated hop hget habandoned
  | resolved event explain outcome hreq =>
    rcases hop with ⟨_, _, _, hop⟩ | ⟨_, _, _, hop⟩ <;> cases hreq.symm.trans hop
  | reconciled tenant_id max_attempts hreq =>
    rcases hop with ⟨_, _, _, hop⟩ | ⟨_, _, _, hop⟩ <;> cases hreq.symm.trans hop

end gate

/-- An order that a disposition or a cosign creates without a second user is
the order of a record whose stored figure does not reach the threshold. -/
theorem an_order_without_a_second_user_is_immaterial (cfg : Config) (st : Step) (api : Api)
    (hop : Operates st.request) (c : GatewayCall)
    (hc : c ∈ newCalls api.external (step cfg st api).external) (id : String)
    (horder : CreatesOrder id c) (hnot : ¬ SecondUser id st api) :
    ∃ r, get_record api id st.user.org = some r ∧ Immaterial r := by
  rcases (step_gated hop).newCalls c hc id horder with hsecond | hgate
  · exact absurd hsecond hnot
  · exact hgate

/-- The service in which the sample order is there to be submitted. -/
def lowService : Api := run (step sampleConfig) {} [lowResolveStep]

theorem the_sample_order_is_immaterial :
    ∃ r, get_record lowService "E1" "T1" = some r ∧ Immaterial r := by
  have hcalls : ∃ c ∈ newCalls lowService.external
      (step sampleConfig lowSubmitStep lowService).external, c.origin = some "E1" ∧
        c.request.gateway_name = "erp" ∧ c.request.operation = "create_sales_order" := by
    decide +kernel
  obtain ⟨c, hc, horder⟩ := hcalls
  refine an_order_without_a_second_user_is_immaterial sampleConfig lowSubmitStep lowService
    (Or.inl ⟨"E1", none, submitRequest, rfl⟩) c hc "E1" horder ?_
  rintro ⟨key, req, r, p, hreq, -⟩
  cases hreq

/-- The value of the order that a call carries: quantity times unit price,
summed over its lines. -/
def orderValue (c : GatewayCall) : PyFloat :=
  let number (line : PyDict) (key : String) : PyFloat :=
    match dict.get line key with
    | some (.float x) => x
    | _ => .fin 0
  match dict.get c.request.params "payload" with
  | some (.dict payload) =>
    match dict.get payload "line_items" with
    | some (.list lines) => PyFloat.sum (lines.map fun
        | .dict line => (number line "quantity").mul (number line "unit_price")
        | _ => .fin 0)
    | _ => .fin 0
  | _ => .fin 0

/-- The gate does not see what is submitted: SAP prices the order at 100,
and the payload is worth 20 000. -/
theorem a_payload_above_the_threshold_is_submitted :
    ¬ ∀ (cfg : Config) (sts : List Step) (st : Step), Operates st.request →
      ∀ c ∈ newCalls (run (step cfg) {} sts).external
        (step cfg st (run (step cfg) {} sts)).external, ∀ id, CreatesOrder id c →
      ¬ SecondUser id st (run (step cfg) {} sts) →
      (orderValue c).lt HIGH_VALUE_OVERRIDE_THRESHOLD_USD = true := by
  intro h
  have hcalls : ∃ c ∈ newCalls (run (step sampleConfig) {} [lowResolveStep]).external
      (step sampleConfig lowSubmitStep (run (step sampleConfig) {} [lowResolveStep])).external,
      (c.origin = some "E1" ∧ c.request.gateway_name = "erp" ∧
        c.request.operation = "create_sales_order") ∧
      (orderValue c).lt HIGH_VALUE_OVERRIDE_THRESHOLD_USD = false := by
    decide +kernel
  obtain ⟨c, hc, horder, hvalue⟩ := hcalls
  have hnot : ¬ SecondUser "E1" lowSubmitStep (run (step sampleConfig) {} [lowResolveStep]) := by
    rintro ⟨key, req, r, p, hreq, -⟩
    cases hreq
  have hlow := h sampleConfig [lowResolveStep] lowSubmitStep
    (Or.inl ⟨"E1", none, submitRequest, rfl⟩) c hc "E1" horder hnot
  rw [hvalue] at hlow
  cases hlow

/-! ## What the record shows after a submit -/

/-- The record says that its order went to the ERP. -/
def Submitted (r : ChildCase) : Prop :=
  r.lifecycle_state = .RESOLVED ∧ r.final_status = some .COMPLETE ∧
    r.resolved_action = some "SUBMIT_TO_ERP"

/-- The order of the record was created in between. -/
def OrderCreated (id : String) (before after : External) : Prop :=
  ∃ c ∈ newCalls before after, CreatesOrder id c ∧ c.response.status = .SUCCESS

/-- The record tells the truth about its submit: it is submitted only when
the order was created, and else it is in the state in which the submit was
asked for. -/
def TellsTheTruth (id : String) (asked : LifecycleState) (api api' : Api) : Prop :=
  ∃ r', dict.get api'.records id = some r' ∧
    (Submitted r' → OrderCreated id api.external api'.external) ∧
    (¬ Submitted r' → r'.lifecycle_state = asked)

/-- A submit that runs at once: all guards of the disposition are met, and
the gate lets the record pass. -/
structure DirectSubmit (r : ChildCase) (req : DispositionRequest) : Prop where
  action : req.action = "SUBMIT_TO_ERP"
  notes : has_notes req.notes = true
  intent : r.intent = some .MANUAL_ORDER_INTAKE
  extraction : (PyVal.ofOption
    (dict.get r.enrichment_context "order_entry_extraction")).truthy = true
  state : r.lifecycle_state ∈ HITL_DISPOSITION_STATES
  low : ∃ m, cosign_materiality_usd r = .ok m ∧ is_high_value m = false

/-- A submit that a second user releases. -/
structure CosignedSubmit (user : AuthenticatedUser) (r : ChildCase) (req : CosignRequest)
    (pending : PendingOverride) : Prop where
  state : r.lifecycle_state = .PENDING_COSIGN
  parked : r.resolution_data.pending_override = some pending
  other : pending.initiator ≠ user.sub
  notes : has_notes req.notes = true
  approve : req.approve = true
  action : pending.action = "SUBMIT_TO_ERP"

section submit

variable {cfg : Config} {env : StepEnv} {user : AuthenticatedUser} {id : String} {r : ChildCase}
  {corrections : Option PyDict} {api : Api}

/-- The submit reaches the gateway, which answers with `status`, and the
analysis of the run returns. -/
def ErpAnswers (env : RunEnv) (id tenant : String) (r : ChildCase) (corrections : Option PyDict)
    (ext : External) (status : GatewayStatus) : Prop :=
  ∃ event s, r.original_event = some event ∧
    Executes env (directed_state tenant r .SubmitToErpRecipe (corrections.getD []) event) s ∧
    dict.get s.outputs "status" = some (.str "SUCCESS") ∧
    (env.gateway ext.calls.length (submit_request s)).status = status ∧
    ∃ t, build_analysis env (apply_effects env (some id) s ext).2 = .ok t

theorem ErpAnswers.unique {env : RunEnv} {tenant : String} {ext : External}
    {status status' : GatewayStatus} (h : ErpAnswers env id tenant r corrections ext status)
    (h' : ErpAnswers env id tenant r corrections ext status') : status = status' := by
  obtain ⟨event, s, hevent, hexec, -, rfl, -⟩ := h
  obtain ⟨event', s', hevent', hexec', -, rfl, -⟩ := h'
  cases hevent.symm.trans hevent'
  cases hexec.unique hexec'
  rfl

/-- How a submit that passed its guards ends: its run is over and written
down, or it raised. -/
def SubmitEnds (cfg : Config) (env : StepEnv) (user : AuthenticatedUser) (id : String)
    (r : ChildCase) (corrections : Option PyDict) (api api' : Api) : Prop :=
  (∃ result ext' submitter notes cosign,
    SubmitEnd env user id r api.external corrections (.ok result) ext' ∧
    Wrote cfg env user.org id (submitWrite cfg env user id r result submitter notes cosign ext')
      api api') ∨
  ∃ e ext', SubmitEnd env user id r api.external corrections (.error e) ext' ∧
    api' = { api with external := ext' }

theorem wp_submit_ends {submitter notes : String} {cosign : Option CosignMeta}
    (hget : get_record api id user.org = some r) :
    wp (do
        let result ← run_erp_submit env.first_run id user.org r corrections
        let updated ← persist_erp_submit cfg env id user.org r result submitter notes cosign
        return updated.to_detail)
      (fun _ api' => SubmitEnds cfg env user id r corrections api api')
      (fun _ api' => SubmitEnds cfg env user id r corrections api api') api := by
  rw [wp_bind]
  refine wp_run_directed (fun result ext' hrun => ?_) fun e e' ext' hrun =>
    Or.inr ⟨e, ext', hrun, rfl⟩
  rw [wp_bind]
  refine wp_persist_erp_submit hget fun api' hwrote => ?_
  exact Or.inl ⟨result, ext', submitter, notes, cosign, hrun,
    ⟨hwrote.records, hwrote.audit_log, hwrote.external, hwrote.delivery_dedup⟩⟩

theorem direct_submit_ends {req : DispositionRequest} (h : DirectSubmit r req)
    (hget : get_record api id user.org = some r) :
    SubmitEnds cfg env user id r req.corrections api
      (endState (dispose cfg env user id r req api)) := by
  obtain ⟨m, hm, hlow⟩ := h.low
  refine wp_end (P := SubmitEnds cfg env user id r req.corrections api) ?_
  have hallowed : req.action ∈ ALLOWED_RESOLUTION_ACTIONS := by
    simp [h.action, ALLOWED_RESOLUTION_ACTIONS]
  unfold dispose
  rw [wp_bind, wp_require, wp_ite]
  refine ⟨fun _ => ⟨fun _ => ?_, fun hne => absurd h.action hne⟩,
    fun hno => absurd (Or.inr hallowed) hno⟩
  unfold disposition_erp_submit require_order_entry require_notes require_state
  simp only [wp_bind, wp_require]
  refine ⟨fun _ => ⟨fun _ => ⟨fun _ => ⟨fun _ => ?_, fun hno => absurd h.state hno⟩,
    fun hno => absurd h.extraction hno⟩, fun hno => absurd h.intent hno⟩,
    fun hno => absurd h.notes hno⟩
  refine wp_lift_py (fun m' hm' => ?_) fun e he => ?_
  · cases hm.symm.trans hm'
    rw [if_neg (by simp [hlow])]
    exact wp_submit_ends hget
  · cases hm.symm.trans he

theorem cosigned_submit_ends {req : CosignRequest} {pending : PendingOverride}
    (h : CosignedSubmit user r req pending) (hget : get_record api id user.org = some r) :
    SubmitEnds cfg env user id r pending.corrections api
      (endState (cosign cfg env user id r req api)) := by
  refine wp_end (P := SubmitEnds cfg env user id r pending.corrections api) ?_
  unfold cosign require_state
  rw [wp_bind, wp_require]
  refine ⟨fun _ => ?_, fun hno => absurd (by simp [h.state, COSIGN_ELIGIBLE_STATES]) hno⟩
  rw [h.parked]
  unfold require_notes
  simp only [wp_bind, wp_require, wp_ite]
  refine ⟨fun _ => ⟨fun _ => ⟨fun _ => ?_, fun hno => absurd ⟨h.approve, h.action⟩ hno⟩,
    fun hno => absurd h.notes hno⟩, fun hno => absurd h.other hno⟩
  exact wp_submit_ends hget

/-- A submit that the gateway answered leaves the record submitted, with the
order created exactly when the answer was a success. -/
theorem SubmitEnds.answered {api' : Api} {status : GatewayStatus}
    (h : SubmitEnds cfg env user id r corrections api api')
    (hans : ErpAnswers env.first_run id user.org r corrections api.external status) :
    ∃ r', dict.get api'.records id = some r' ∧ Submitted r' ∧
      (OrderCreated id api.external api'.external ↔ status = .SUCCESS) := by
  obtain ⟨event, s, hevent, hexec, hstatus, hgateway, t, ht⟩ := hans
  -- The run that ended is the run that was answered.
  have hran : ∀ outcome ext', SubmitEnd env user id r api.external corrections outcome ext' →
      ∃ result, outcome = .ok result ∧ output_of result "status" = .str "SUCCESS" ∧
        ext' = effected env.first_run (some id) s (submit_request s) api.external := by
    intro outcome ext' hrun
    have hsel := hexec.directed rfl rfl
    have hcall : (apply_effects env.first_run (some id) s api.external).1 =
        effected env.first_run (some id) s (submit_request s) api.external := by
      have hspec := (apply_effects_spec env.first_run (some id) s api.external).2
      rw [requested_submit hsel, if_pos hstatus] at hspec
      exact hspec.1
    cases hrun with
    | no_event _ hno => cases hevent.symm.trans hno
    | ran event' _ _ hevent' hend =>
      cases hevent.symm.trans hevent'
      cases hend with
      | halted _ hno => exact absurd hexec (hno s)
      | raised _ hno => exact absurd hexec (hno s)
      | done s' fin hexec' hlog =>
        cases hexec.unique hexec'
        exact ⟨fin, rfl, by simp [output_of, GraphState.outputs, hlog, ← hstatus,
          PyVal.ofOption_eq_str], hcall⟩
      | broke s' e hexec' hraise =>
        cases hexec.unique hexec'
        cases ht.symm.trans hraise
  rcases h with ⟨result, ext', submitter, notes, cosign, hrun, hwrote⟩ | ⟨e, ext', hrun, rfl⟩
  · obtain ⟨result', hresult, hsuccess, rfl⟩ := hran _ _ hrun
    cases hresult
    refine ⟨_, by rw [hwrote.records, dict.get_set_self], ?_, ?_⟩
    · simp [submitWrite, Submitted, stamped, submitted_record, erp_submission_record, hsuccess]
    · rw [hwrote.external]
      simp [submitWrite, OrderCreated, newCalls, effected_calls, CreatesOrder, submit_request,
        ← hgateway]
  · obtain ⟨result', hresult, -⟩ := hran _ _ hrun
    cases hresult

/-- A submit that the gateway did not answer leaves the record in its state. -/
theorem SubmitEnds.unanswered {api' : Api} (hget : get_record api id user.org = some r)
    (h : SubmitEnds cfg env user id r corrections api api')
    (hno : ∀ status, ¬ ErpAnswers env.first_run id user.org r corrections api.external status) :
    ∃ r', dict.get api'.records id = some r' ∧ r'.lifecycle_state = r.lifecycle_state := by
  rcases h with ⟨result, ext', submitter, notes, cosign, hrun, hwrote⟩ | ⟨e, ext', hrun, rfl⟩
  · refine ⟨_, by rw [hwrote.records, dict.get_set_self], ?_⟩
    have hnot : output_of result "status" ≠ .str "SUCCESS" := by
      intro hsuccess
      cases hrun with
      | ran event _ _ hevent hend =>
        cases hend with
        | halted _ hexec hreach hlog =>
          simp [output_of, GraphState.outputs, hlog, directed_state, PyVal.ofOption] at hsuccess
        | done s fin hexec hlog heff hret =>
          have hstatus : dict.get s.outputs "status" = some (.str "SUCCESS") := by
            simpa [output_of, GraphState.outputs, hlog, PyVal.ofOption_eq_str] using hsuccess
          exact hno _ ⟨event, s, hevent, hexec, hstatus, rfl, hret⟩
    simp [submitWrite, stamped, submitted_record, erp_submission_record, hnot]
  · exact ⟨r, (get_record_some hget).1, rfl⟩

end submit

/-- A submit leaves a record that tells the truth: a direct one exactly when
the gateway, where it answers at all, answers with success; a cosigned one
exactly when the gateway answers, with success. -/
theorem a_submit_tells_the_truth_exactly_on_success (cfg : Config) (sts : List Step)
    (env : StepEnv) (user : AuthenticatedUser) (id : String) (r : ChildCase)
    (hget : get_record (run (step cfg) {} sts) id user.org = some r) :
    let api := run (step cfg) {} sts
    (∀ req, DirectSubmit r req →
      (TellsTheTruth id r.lifecycle_state api (endState (dispose cfg env user id r req api)) ↔
        ∀ status, ErpAnswers env.first_run id user.org r req.corrections api.external status →
          status = .SUCCESS)) ∧
    ∀ req pending, CosignedSubmit user r req pending →
      (TellsTheTruth id pending.from_lifecycle_state api
          (endState (cosign cfg env user id r req api)) ↔
        ErpAnswers env.first_run id user.org r pending.corrections api.external .SUCCESS) := by
  have hleads := run_leadsOut cfg sts id r (get_record_some hget).1
  generalize run (step cfg) {} sts = api at hget
  refine ⟨fun req hdirect => ?_, fun req pending hcosigned => ?_⟩
  · have hends : SubmitEnds cfg env user id r req.corrections api _ :=
      direct_submit_ends hdirect hget
    have hopen : r.lifecycle_state ≠ .RESOLVED := by
      intro h
      simpa [h, HITL_DISPOSITION_STATES] using hdirect.state
    by_cases hans : ∃ status,
        ErpAnswers env.first_run id user.org r req.corrections api.external status
    · obtain ⟨status, hans⟩ := hans
      obtain ⟨r', hr', hsubmitted, horder⟩ := hends.answered hans
      refine ⟨?_, fun h => ?_⟩
      · rintro ⟨r'', hr'', htruth, -⟩ status' hans'
        cases hr'.symm.trans hr''
        exact hans.unique hans' ▸ horder.mp (htruth hsubmitted)
      · exact ⟨r', hr', fun _ => horder.mpr (h status hans), fun hnot => absurd hsubmitted hnot⟩
    · rw [not_exists] at hans
      obtain ⟨r', hr', hsame⟩ := hends.unanswered hget hans
      refine ⟨fun _ status h => absurd h (hans status), fun _ => ⟨r', hr', fun h => ?_, fun _ => hsame⟩⟩
      exact absurd (hsame.symm.trans h.1) hopen
  · have hends : SubmitEnds cfg env user id r pending.corrections api _ :=
      cosigned_submit_ends hcosigned hget
    by_cases hans : ∃ status,
        ErpAnswers env.first_run id user.org r pending.corrections api.external status
    · obtain ⟨status, hans⟩ := hans
      obtain ⟨r', hr', hsubmitted, horder⟩ := hends.answered hans
      refine ⟨?_, fun h => ?_⟩
      · rintro ⟨r'', hr'', htruth, -⟩
        cases hr'.symm.trans hr''
        exact horder.mp (htruth hsubmitted) ▸ hans
      · exact ⟨r', hr', fun _ => horder.mpr (hans.unique h), fun hnot => absurd hsubmitted hnot⟩
    · rw [not_exists] at hans
      obtain ⟨r', hr', hsame⟩ := hends.unanswered hget hans
      refine ⟨?_, fun h => absurd h (hans _)⟩
      rintro ⟨r'', hr'', -, hstay⟩
      -- The record is still parked, and an override never comes from the park.
      cases hr'.symm.trans hr''
      have hparked := hsame.trans hcosigned.state
      have hnot : ¬ Submitted r' := fun h => by simp [Submitted, hparked] at h
      exact absurd ((hstay hnot).symm.trans hparked) (hleads pending hcosigned.parked)

/-- The service in which the sample order waits for a second user. -/
def parkedService : Api := run (step sampleConfig) {} [resolveStep, submitStep]

def cosignRequest : CosignRequest := ⟨true, "agreed"⟩

theorem the_sample_submit_is_direct :
    ∃ r, get_record lowService "E1" "T1" = some r ∧ DirectSubmit r submitRequest := by
  have hdirect : ∃ r ∈ get_record lowService "E1" "T1", has_notes submitRequest.notes = true ∧
      r.intent = some .MANUAL_ORDER_INTAKE ∧ (PyVal.ofOption
        (dict.get r.enrichment_context "order_entry_extraction")).truthy = true ∧
      r.lifecycle_state ∈ HITL_DISPOSITION_STATES ∧
      ∃ m ∈ (cosign_materiality_usd r).toOption, is_high_value m = false := by decide +kernel
  obtain ⟨r, hr, hnotes, hintent, hextraction, hstate, m, hm, hlow⟩ := hdirect
  refine ⟨r, hr, rfl, hnotes, hintent, hextraction, hstate, m, ?_, hlow⟩
  rcases hx : cosign_materiality_usd r with e | m'
  · simp [hx, Except.toOption] at hm
  · simpa [hx, Except.toOption] using hm

/-- One submit that runs at once, and one that a second user releases. -/
theorem the_sample_submits_tell_the_truth :
    (∃ r, get_record lowService "E1" "T1" = some r ∧
      TellsTheTruth "E1" r.lifecycle_state lowService (endState (dispose sampleConfig
        (sampleEnv (sampleRun 100)) (sampleUser "analyst") "E1" r submitRequest lowService))) ∧
    ∃ r p, get_record parkedService "E1" "T1" = some r ∧
      r.resolution_data.pending_override = some p ∧
      TellsTheTruth "E1" p.from_lifecycle_state parkedService (endState (cosign sampleConfig
        (sampleEnv (sampleRun 20000)) (sampleUser "manager") "E1" r cosignRequest
        parkedService)) := by
  constructor
  · obtain ⟨r, hr, hdirect⟩ := the_sample_submit_is_direct
    refine ⟨r, hr, ((a_submit_tells_the_truth_exactly_on_success sampleConfig [lowResolveStep]
      (sampleEnv (sampleRun 100)) (sampleUser "analyst") "E1" r hr).1 submitRequest
        hdirect).mpr ?_⟩
    rintro status ⟨event, s, -, -, -, rfl, -⟩
    rfl
  · have hcosigned : ∃ r ∈ get_record parkedService "E1" "T1", r.lifecycle_state = .PENDING_COSIGN ∧
        ∃ p ∈ r.resolution_data.pending_override, p.initiator ≠ "manager" ∧
          has_notes cosignRequest.notes = true ∧ p.action = "SUBMIT_TO_ERP" ∧
          ∃ event ∈ r.original_event,
            GoesThrough (sampleRun 20000) (directed_state "T1" r .SubmitToErpRecipe
              (p.corrections.getD []) event) ∧
            (proposal_phase (sampleRun 20000) (directed_state "T1" r .SubmitToErpRecipe
              (p.corrections.getD []) event)).toOption ≠ none := by decide +kernel
    obtain ⟨r, hr, hstate, p, hp, hother, hnotes, haction, event, hevent, ⟨-, hgo⟩, hphase⟩ :=
      hcosigned
    refine ⟨r, p, hr, hp, ((a_submit_tells_the_truth_exactly_on_success sampleConfig
      [resolveStep, submitStep] (sampleEnv (sampleRun 20000)) (sampleUser "manager") "E1" r hr).2
        cosignRequest p ⟨hstate, hp, hother, hnotes, rfl, haction⟩).mpr ?_⟩
    rcases hx : proposal_phase (sampleRun 20000) (directed_state "T1" r .SubmitToErpRecipe
        (p.corrections.getD []) event) with e | q
    · exact absurd (by rw [hx]; rfl) hphase
    · obtain ⟨s, hs, hstatus⟩ := hgo q hx
      exact ⟨event, s, hevent, hs, hstatus, rfl,
        build_analysis_returns (fun _ => ⟨_, rfl⟩) (fun _ => ⟨_, rfl⟩) _⟩

/-- A submit whose gateway call times out leaves its record resolved. -/
theorem a_timed_out_submit_is_shown_as_done :
    ¬ ∀ (cfg : Config) (sts : List Step) (env : StepEnv) (user : AuthenticatedUser) (id : String)
      (r : ChildCase), get_record (run (step cfg) {} sts) id user.org = some r →
      (∀ req, DirectSubmit r req → TellsTheTruth id r.lifecycle_state (run (step cfg) {} sts)
        (endState (dispose cfg env user id r req (run (step cfg) {} sts)))) ∧
      ∀ req pending, CosignedSubmit user r req pending →
        TellsTheTruth id pending.from_lifecycle_state (run (step cfg) {} sts)
          (endState (cosign cfg env user id r req (run (step cfg) {} sts))) := by
  intro h
  obtain ⟨r, hr, hdirect⟩ := the_sample_submit_is_direct
  obtain ⟨r', hr', htruth, -⟩ := (h sampleConfig [lowResolveStep] timedOutSubmitStep.env
    (sampleUser "analyst") "E1" r hr).1 submitRequest hdirect
  have hend : ∀ r ∈ get_record lowService "E1" "T1",
      let after := endState (dispose sampleConfig timedOutSubmitStep.env (sampleUser "analyst") "E1"
        r submitRequest lowService)
      (∀ r' ∈ dict.get after.records "E1", r'.lifecycle_state = .RESOLVED ∧
        r'.final_status = some .COMPLETE ∧ r'.resolved_action = some "SUBMIT_TO_ERP") ∧
      ∀ c ∈ newCalls lowService.external after.external, c.response.status ≠ .SUCCESS := by
    decide +kernel
  obtain ⟨hsubmitted, hcalls⟩ := hend r hr
  obtain ⟨c, hc, -, hsuccess⟩ := htruth (hsubmitted r' hr')
  exact hcalls c hc hsuccess

end asoe
