-- How often the order of a record is created, over submits, cosigns,
-- reopenings and runs of the outbox worker. Only the lifecycle of the record
-- stands between a created order and a second one.
import Asoe.Parking

namespace asoe

open py prog once runs

/-! ## The order of one record -/

/-- The `erp/create_sales_order` calls for one record that went through. -/
def ordersCreated (id : String) (ext : External) : List GatewayCall :=
  ext.calls.filter fun c => c.origin = some id ∧ c.request.gateway_name = "erp" ∧
    c.request.operation = "create_sales_order" ∧ c.response.status = .SUCCESS

/-- The same calls as a kind of write. -/
def erpTarget (id : String) : Target where
  wanted origin gateway operation _ :=
    decide (origin = some id ∧ gateway = "erp" ∧ operation = "create_sales_order")
  done response := decide (response.status = .SUCCESS)
  done_success _ h := by simpa using h

/-- What is known of the order: how often it was created, and how many tries
the outbox will run again. -/
abbrev erpTally (id : String) (ext : External) : Tally := (erpTarget id).tally ext

/-- The order exists, or a queued try may still create it. -/
def Exposed (id : String) (ext : External) : Prop := 0 < (erpTally id ext).exposure

variable {env : RunEnv} {ext : External}

theorem erp_other_origin {id id' : String} {s : GraphState} {req : GatewayRequest} (h : id' ≠ id) :
    erpTally id (effected env (some id') s req ext) = erpTally id ext :=
  effected_tally_other _ _ _ _ _ _ (by simp [erpTarget, h])

theorem erp_other_recipe {id : String} {origin : Option String} {s : GraphState}
    {req : GatewayRequest} (hreq : requested s = some req)
    (h : s.selected_recipe ≠ some .SubmitToErpRecipe) :
    erpTally id (effected env origin s req ext) = erpTally id ext := by
  refine effected_tally_other _ _ _ _ _ _ ?_
  by_cases hname : req.gateway_name = "erp"
  · exact absurd (requested_erp hreq hname) h
  · simp [erpTarget, hname]

/-! ## A settled record -/

/-- Nothing but a challenge or a replay can lead the record back to a submit:
it is resolved, or it is parked on an override that came from there. -/
def Settled (r : ChildCase) : Prop :=
  r.lifecycle_state = .RESOLVED ∨
    r.lifecycle_state = .PENDING_COSIGN ∧ ∃ p, r.resolution_data.pending_override = some p ∧
      p.action ≠ "SUBMIT_TO_ERP" ∧ p.from_lifecycle_state = .RESOLVED

theorem Settled.not_disposition {r : ChildCase} (h : Settled r) :
    r.lifecycle_state ∉ HITL_DISPOSITION_STATES := by
  rcases h with h | ⟨h, -⟩ <;> simp [h, HITL_DISPOSITION_STATES]

theorem Settled.not_escalate {r : ChildCase} (h : Settled r) :
    r.lifecycle_state ∉ ESCALATE_ELIGIBLE_STATES := by
  rcases h with h | ⟨h, -⟩ <;> simp [h, ESCALATE_ELIGIBLE_STATES]

/-- The steps that keep the order safe: no challenge and no replay of a
record whose order exists or is queued, no model that proposes the ERP
recipe by itself, and an analysis that returns. -/
structure NoReopening (id : String) (st : Step) (api : Api) : Prop where
  reopen : ∀ reason, st.request = .challenge id reason ∨ st.request = .reanalyze id reason →
    ¬ Exposed id api.external
  proposals : ∀ backend, st.env.first_run.recipe_backend = some backend →
    ∀ s, backend s ≠ some .SubmitToErpRecipe
  returns : ∀ s, ∃ t, build_analysis st.env.first_run s = .ok t
  fresh : ∀ event explain, st.request = .resolve event explain →
    dict.get api.records st.env.new_id = none

/-- A settled record stays settled through every request but a challenge and
a replay. -/
theorem answered_settled {cfg : Config} {st : Step} {ext : External} {ledger : Ledger}
    {id : String} {r : ChildCase} {w : Write} (hr : Settled r)
    (hreopen : ∀ reason, st.request ≠ .challenge id reason ∧ st.request ≠ .reanalyze id reason)
    (h : Answered cfg st.env st.user id r ext ledger st.request w) :
    Settled w.record ∧ w.external = ext := by
  generalize hreq : st.request = req at h hreopen
  cases h with
  | submit_staged key req m haction hstate => exact absurd hstate hr.not_disposition
  | submitted key req m result ext' haction hstate => exact absurd hstate hr.not_disposition
  | drafted key req result ext' haction hstate => exact absurd hstate hr.not_disposition
  | deduped key req preview ext' dkey haction hstate => exact absurd hstate hr.not_disposition
  | sent key req preview ext' result ext'' dkey haction hstate =>
    exact absurd hstate hr.not_disposition
  | override_staged key req m haction hsend hstate hsub =>
    have hresolved : r.lifecycle_state = .RESOLVED := by
      rcases hr with h | ⟨h, -⟩
      · exact h
      · simp [h, HITL_OVERRIDE_STATES] at hstate
    exact ⟨Or.inr ⟨rfl, _, rfl, haction, hresolved⟩, rfl⟩
  | disposed key req haction hsend hstate =>
    refine ⟨Or.inl ?_, rfl⟩
    split at hstate
    · rename_i hsub
      simp [stamped, disposed_record, SubType.lifecycle, hsub]
    · exact absurd hstate hr.not_disposition
  | cosign_submitted key req p result ext' happrove haction hstate hpending =>
    rcases hr with h | ⟨-, q, hq, hne, -⟩
    · simp [h] at hstate
    · cases hpending.symm.trans hq
      exact absurd haction hne
  | cosigned => exact ⟨Or.inl rfl, rfl⟩
  | cosign_rejected key req p happrove hstate hpending =>
    rcases hr with h | ⟨-, q, hq, -, hfrom⟩
    · simp [h] at hstate
    · cases hpending.symm.trans hq
      exact ⟨Or.inl hfrom, rfl⟩
  | escalated key req hstate => exact absurd hstate hr.not_escalate
  | reanalyzed reason => exact absurd rfl (hreopen reason).2
  | challenged reason => exact absurd rfl (hreopen reason).1
  | released reason risk hstate =>
    rcases hr with h | ⟨h, -⟩ <;> simp [h] at hstate

/-! ## One step -/

variable {outcome : Except PyErr GraphState}

/-- A submit run that calls the gateway reports success. -/
theorem submitEnd_external {id tenant : String} {r : ChildCase} {params : PyDict} {ext' : External}
    (hreturns : ∀ s, ∃ t, build_analysis env s = .ok t)
    (h : DirectedEnd env id tenant r .SubmitToErpRecipe params ext outcome ext') :
    ext' = ext ∨ ∃ result, outcome = .ok result ∧ output_of result "status" = .str "SUCCESS" ∧
      ∃ s req, ext' = effected env (some id) s req ext := by
  rcases h.external with h' | ⟨event, s, req, hevent, hexec, hsel, hreq, h'⟩
  · exact Or.inl h'
  have hstatus : dict.get s.outputs "status" = some (.str "SUCCESS") := by
    rw [requested_submit hsel] at hreq
    by_contra hne
    rw [if_neg hne] at hreq
    cases hreq
  rcases outcome with e | result
  · cases h with
    | no_event => exact Or.inl rfl
    | ran event' _ _ hevent' hrun =>
      cases hrun with
      | raised => exact Or.inl rfl
      | broke s' e hexec' hraise =>
        obtain ⟨t, ht⟩ := hreturns (apply_effects env (some id) s' ext).2
        cases hraise.symm.trans ht
  · obtain ⟨event', hevent', ⟨s', hexec', hout⟩ | ⟨hno, -⟩⟩ := h.outputs
    · cases hevent.symm.trans hevent'
      cases hexec.unique hexec'
      exact Or.inr ⟨result, rfl, by simp [output_of, hout, hstatus, PyVal.ofOption], s, req, h'⟩
    · cases hevent.symm.trans hevent'
      exact absurd hexec (hno s)

theorem directedEnd_erp {id id' tenant : String} {r : ChildCase}
    {recipe : RecipeName} {params : PyDict} {ext' : External}
    (hne : recipe ≠ .SubmitToErpRecipe)
    (h : DirectedEnd env id' tenant r recipe params ext outcome ext') :
    erpTally id ext' = erpTally id ext := by
  rcases h.external with rfl | ⟨event, s, req, -, -, hsel, hreq, rfl⟩
  · rfl
  · exact erp_other_recipe hreq (by simpa [hsel] using hne)

theorem resolveEnd_erp {env : StepEnv} {id origin : String} {event : OrderEvent}
    {tenant : Option String} {ext' : External}
    (hproposals : ∀ backend, env.first_run.recipe_backend = some backend →
      ∀ s, backend s ≠ some .SubmitToErpRecipe)
    (h : ResolveEnd env origin { event := event, tenant_id := tenant } ext outcome ext') :
    erpTally id ext' = erpTally id ext := by
  rcases h.external with rfl | ⟨s, req, hexec, hreq, rfl⟩
  · rfl
  · refine erp_other_recipe hreq fun hsel => ?_
    have hprop := hexec.proposable rfl _ hsel
    unfold Proposable at hprop
    dsimp only at hprop
    split at hprop
    · rename_i hdir
      cases hdir
    · rename_i backend hdir hbackend
      obtain ⟨t, ht⟩ := hprop
      exact hproposals backend hbackend t ht
    · obtain ⟨intent, hi⟩ := hprop
      cases intent <;> simp [propose_recipe] at hi

section step

variable {cfg : Config} {st : Step} {api : Api} {id id' : String} {r : ChildCase}

theorem submitWrite_erp {corrections : Option PyDict} {result : GraphState}
    {submitter notes : String} {cosign : Option CosignMeta} {ext ext' : External}
    (hreturns : ∀ s, ∃ t, build_analysis st.env.first_run s = .ok t)
    (h : SubmitEnd st.env st.user id' r ext corrections (.ok result) ext') :
    let w := submitWrite cfg st.env st.user id' r result submitter notes cosign ext'
    erpTally id w.external = erpTally id ext ∨ (id' = id ∧
      Attempt (erpTally id ext) (erpTally id w.external) ∧ w.record.lifecycle_state = .RESOLVED) := by
  rcases submitEnd_external hreturns h with rfl | ⟨result', hresult, hstatus, s, req, rfl⟩
  · exact Or.inl rfl
  · cases hresult
    by_cases hid : id' = id
    · subst hid
      refine Or.inr ⟨rfl, effected_attempt _ _ _ _ _ _, ?_⟩
      simp [submitWrite, stamped, submitted_record, erp_submission_record, hstatus]
    · exact Or.inl (erp_other_origin hid)

theorem answered_erp {w : Write} (hst : NoReopening id st api)
    (h : Answered cfg st.env st.user id' r api.external api.delivery_dedup st.request w) :
    erpTally id w.external = erpTally id api.external ∨
      (id' = id ∧ Attempt (erpTally id api.external) (erpTally id w.external) ∧
        w.record.lifecycle_state = .RESOLVED) := by
  generalize st.request = req at h
  cases h with
  | submitted key req m result ext' haction hstate hm hlow hrun =>
    exact submitWrite_erp hst.returns hrun
  | drafted key req result ext' haction hstate hrun =>
    exact Or.inl (directedEnd_erp (by decide) hrun)
  | deduped key req preview ext' dkey haction hstate hrun =>
    exact Or.inl (directedEnd_erp (by decide) hrun)
  | sent key req preview ext' result ext'' dkey haction hstate hrun hunseen hsend =>
    exact Or.inl ((directedEnd_erp (by decide) hsend).trans (directedEnd_erp (by decide) hrun))
  | cosign_submitted key req p result ext' happrove haction hstate hpending hother hrun =>
    exact submitWrite_erp hst.returns hrun
  | reanalyzed reason event fin nodes ext' hstate hattempts hevent hrun =>
    exact Or.inl (resolveEnd_erp hst.proposals hrun)
  | submit_staged | override_staged | disposed | cosigned | cosign_rejected | escalated
  | challenged | released => exact Or.inl rfl

theorem abandoned_erp {ext' : External} (hst : NoReopening id st api)
    (h : Abandoned cfg st.env st.user id' r api.external api.delivery_dedup st.request ext') :
    erpTally id ext' = erpTally id api.external := by
  have hsubmit : ∀ corrections e, SubmitEnd st.env st.user id' r api.external corrections
      (.error e) ext' → erpTally id ext' = erpTally id api.external := by
    intro corrections e hrun
    rcases submitEnd_external hst.returns hrun with rfl | ⟨result, hresult, -⟩
    · rfl
    · cases hresult
  generalize st.request = req at h
  cases h with
  | submit key req m e ext' haction hstate hm hlow hrun => exact hsubmit _ _ hrun
  | draft key req e ext' haction hrun => exact directedEnd_erp (by decide) hrun
  | preview key req outcome ext' haction hrun => exact directedEnd_erp (by decide) hrun
  | send key req preview ext' outcome ext'' haction hrun hunseen hsend =>
    exact (directedEnd_erp (by decide) hsend).trans (directedEnd_erp (by decide) hrun)
  | cosign_submit key req p e ext' happrove haction hstate hpending hother hrun =>
    exact hsubmit _ _ hrun
  | reanalyze reason event e ext' hstate hevent hrun => exact resolveEnd_erp hst.proposals hrun

/-- What every step keeps: a record whose order exists, or may still come to
exist, is settled. -/
structure OrderInv (id : String) (api : Api) : Prop where
  keyed : Keyed api.external
  settled : Exposed id api.external → ∃ r, dict.get api.records id = some r ∧ Settled r

theorem orderInv_of_same {api' : Api} (hinv : OrderInv id api) (hkeyed : Keyed api'.external)
    (htally : erpTally id api'.external = erpTally id api.external)
    (hrecord : Exposed id api.external → ∀ r, dict.get api.records id = some r → Settled r →
      ∃ r', dict.get api'.records id = some r' ∧ Settled r') : OrderInv id api' := by
  refine ⟨hkeyed, fun h => ?_⟩
  have hexp : Exposed id api.external := by simpa only [Exposed, htally] using h
  obtain ⟨r, hr, hsettled⟩ := hinv.settled hexp
  exact hrecord hexp r hr hsettled

theorem wrote_settled {api' : Api} {w : Write} (hst : NoReopening id st api)
    (hexp : Exposed id api.external) (hget : get_record api id' st.user.org = some r)
    (hanswer : Answered cfg st.env st.user id' r api.external api.delivery_dedup st.request w)
    (hrecords : api'.records = dict.set api.records id' w.record) (r₀ : ChildCase)
    (hr₀ : dict.get api.records id = some r₀) (hsettled : Settled r₀) :
    ∃ r', dict.get api'.records id = some r' ∧ Settled r' := by
  rw [hrecords]
  by_cases hid : id = id'
  · subst hid
    cases hr₀.symm.trans (get_record_some hget).1
    refine ⟨w.record, dict.get_set_self _ _ _, (answered_settled hsettled ?_ hanswer).1⟩
    exact fun reason => ⟨fun h => hst.reopen reason (Or.inl h) hexp,
      fun h => hst.reopen reason (Or.inr h) hexp⟩
  · exact ⟨r₀, by rw [dict.get_set_of_ne _ _ hid, hr₀], hsettled⟩

/-- A step of the service moves the order as the abstract machine allows:
the worker retries, and a new attempt meets no exposure. -/
theorem step_order (hinv : OrderInv id api) (hst : NoReopening id st api) :
    OrderInv id (step cfg st api) ∧
      Turns (erpTally id api.external) (erpTally id (step cfg st api).external) := by
  generalize hafter : step cfg st api = api'
  have hcase := hafter ▸ step_cases cfg st api
  have hkeyed : Keyed api'.external := hafter ▸ step_keyed hinv.keyed
  -- A step that leaves the records alone leaves the settled record settled.
  have hkeep : api'.records = api.records → Exposed id api.external → ∀ r,
      dict.get api.records id = some r → Settled r →
      ∃ r', dict.get api'.records id = some r' ∧ Settled r' :=
    fun hrecords _ r hr hs => ⟨r, hrecords ▸ hr, hs⟩
  cases hcase with
  | idle hkept hext =>
    have htally : erpTally id api'.external = erpTally id api.external := by rw [hext]
    exact ⟨orderInv_of_same hinv hkeyed htally (hkeep hkept.records), by rw [htally]⟩
  | wrote id' r w hget hanswer hwrote =>
    have herp := answered_erp hst hanswer
    rw [← hwrote.external] at herp
    have hrecord := fun hexp => wrote_settled hst hexp hget hanswer hwrote.records
    rcases herp with htally | ⟨rfl, hattempt, hresolved⟩
    · exact ⟨orderInv_of_same hinv hkeyed htally hrecord, by rw [htally]⟩
    · by_cases hexp : Exposed id' api.external
      · -- An exposed order means a settled record, and that one is not submitted again.
        obtain ⟨r', hr', hsettled⟩ := hinv.settled hexp
        cases hr'.symm.trans (get_record_some hget).1
        have hext := (answered_settled hsettled (fun reason =>
          ⟨fun h => hst.reopen reason (Or.inl h) hexp,
            fun h => hst.reopen reason (Or.inr h) hexp⟩) hanswer).2
        have htally : erpTally id' api'.external = erpTally id' api.external := by
          rw [hwrote.external, hext]
        exact ⟨orderInv_of_same hinv hkeyed htally hrecord, by rw [htally]⟩
      · have hrec : dict.get api'.records id' = some w.record := by
          rw [hwrote.records, dict.get_set_self]
        refine ⟨⟨hkeyed, fun _ => ⟨w.record, hrec, Or.inl hresolved⟩⟩, .single (Or.inr ⟨?_, hattempt⟩)⟩
        exact Nat.eq_zero_of_not_pos hexp
  | abandoned id' r hget hkept habandoned =>
    have htally := abandoned_erp hst habandoned
    exact ⟨orderInv_of_same hinv hkeyed htally (hkeep hkept.records), by rw [htally]⟩
  | resolved event explain outcome hreq hrun haudit hledger hrecords =>
    have htally : erpTally id api'.external = erpTally id api.external := by
      rcases hrun with hrun | hext
      · exact resolveEnd_erp hst.proposals hrun
      · rw [hext]
    refine ⟨orderInv_of_same hinv hkeyed htally fun hexp r hr hs => ?_, by rw [htally]⟩
    rcases hrecords with hrecords | ⟨trace_id, case, data, fin, -, hrecords⟩
    · exact hkeep hrecords hexp r hr hs
    · have hne : id ≠ st.env.new_id := by
        rintro rfl
        cases hr.symm.trans (hst.fresh event explain hreq)
      exact ⟨r, by rw [hrecords, dict.get_set_of_ne _ _ hne, hr], hs⟩
  | reconciled tenant_id max_attempts hreq hkept hext =>
    have hretries := (reconcile_pending_retries (erpTarget id) st.env.first_run.gateway
      max_attempts hinv.keyed tenant_id).1
    rw [← hext] at hretries
    refine ⟨⟨hkeyed, fun h => ?_⟩, hretries.turns⟩
    obtain ⟨r, hr, hs⟩ := hinv.settled (Nat.lt_of_lt_of_le h hretries.exposure_le)
    exact ⟨r, hkept.records ▸ hr, hs⟩

end step

/-! ## Every run -/

/-- In a run that reopens no record whose order exists or is queued, the
order of a record is created at most once. -/
theorem an_order_is_created_at_most_once (cfg : Config) (id : String) (sts : List Step)
    (hsts : AllSteps (step cfg) (NoReopening id) {} sts) :
    (ordersCreated id (run (step cfg) {} sts).external).length ≤ 1 := by
  have hempty : OrderInv id {} := ⟨rfl, fun h => absurd h (by simp [Exposed, erpTally,
    Target.tally, Tally.exposure])⟩
  -- Along the run the order moves as the abstract machine does.
  have hrun : OrderInv id (run (step cfg) {} sts) ∧
      Turns (erpTally id ({} : Api).external) (erpTally id (run (step cfg) {} sts).external) := by
    refine invariant (I := fun api => OrderInv id api ∧
      Turns (erpTally id ({} : Api).external) (erpTally id api.external))
      (fun st api hst hapi => ?_) ⟨hempty, .refl⟩ hsts
    obtain ⟨hinv, hturns⟩ : OrderInv id (step cfg st api) ∧ _ := step_order hapi.1 hst
    exact ⟨hinv, hapi.2.trans hturns⟩
  have hdone := at_most_once hrun.2 rfl
  simpa [ordersCreated, Target.tally, List.countP_eq_length_filter, Target.ofCall, erpTarget,
    Bool.and_assoc] using hdone

/-- The analysis returns when the services that it asks do. -/
theorem build_analysis_returns (hoffenders : ∀ s, ∃ o, env.duplicate_po_offenders s = .ok o)
    (hcompose : ∀ s, ∃ c, env.compose_from_state s = .ok c) (s : GraphState) :
    ∃ t, build_analysis env s = .ok t := by
  unfold build_analysis
  split
  · exact ⟨_, rfl⟩
  · have hmeta : ∃ o, metadata_offenders env s = .ok o := by
      unfold metadata_offenders
      split
      · exact hoffenders s
      · exact ⟨none, rfl⟩
    obtain ⟨o, ho⟩ := hmeta
    obtain ⟨c, hc⟩ := hcompose s
    rw [ok_bind ho]
    rcases o with _ | ⟨contract, offenders⟩
    · simp only [ok_bind hc]
      split
      · exact ⟨_, rfl⟩
      · exact ⟨_, rfl⟩
    · exact ⟨_, rfl⟩

/-- A request in a service where SAP prices the order as immaterial. -/
def lowStep (sub : String) (request : Request) : Step :=
  ⟨sampleEnv (sampleRun 100), sampleUser sub, request⟩

def lowResolveStep : Step := lowStep "analyst" (.resolve sampleEvent false)

def lowSubmitStep : Step := lowStep "analyst" (.disposition "E1" none submitRequest)

/-- The same submit, with a gateway whose first answer is a timeout. -/
def timedOutSubmitStep : Step :=
  { lowSubmitStep with env := sampleEnv { sampleRun 100 with
      gateway := fun _ req =>
        { gateway_name := req.gateway_name, operation := req.operation, status := .TIMEOUT } } }

def reconcileStep : Step := lowStep "worker" (.reconcile none 5)

/-- A submit that times out, and that the worker brings through. -/
theorem a_timed_out_order_is_created_once :
    (ordersCreated "E1" (run (step sampleConfig) {}
        [lowResolveStep, timedOutSubmitStep, reconcileStep]).external).length ≠ 0 ∧
      (ordersCreated "E1" (run (step sampleConfig) {}
        [lowResolveStep, timedOutSubmitStep, reconcileStep]).external).length ≤ 1 := by
  have hreturns : ∀ (gateway : Gateways) s,
      ∃ t, build_analysis { sampleRun 100 with gateway := gateway } s = .ok t :=
    fun _ => build_analysis_returns (fun _ => ⟨_, rfl⟩) fun _ => ⟨_, rfl⟩
  refine ⟨by decide +kernel, an_order_is_created_at_most_once sampleConfig "E1"
    [lowResolveStep, timedOutSubmitStep, reconcileStep] ⟨⟨?_, ?_, ?_, ?_⟩, ⟨?_, ?_, ?_, ?_⟩,
      ⟨?_, ?_, ?_, ?_⟩, trivial⟩⟩
  · exact fun _ h => (by rcases h with h | h <;> cases h)
  · exact fun _ h => (by cases h)
  · exact hreturns _
  · exact fun _ _ _ => rfl
  · exact fun _ h => (by rcases h with h | h <;> cases h)
  · exact fun _ h => (by cases h)
  · exact hreturns _
  · exact fun _ _ h => (by cases h)
  · exact fun _ h => (by rcases h with h | h <;> cases h)
  · exact fun _ h => (by cases h)
  · exact hreturns _
  · exact fun _ _ h => (by cases h)

def challengeStep : Step := lowStep "analyst" (.challenge "E1" "wrong price")

/-- A submitted record that is challenged is submitted once more, and its
order is created a second time. -/
theorem a_challenged_order_is_created_twice :
    ¬ ∀ (cfg : Config) (id : String) (sts : List Step),
      AllSteps (step cfg) FreshId {} sts →
      (ordersCreated id (run (step cfg) {} sts).external).length ≤ 1 := by
  intro h
  have htwice : (ordersCreated "E1" (run (step sampleConfig) {}
      [lowResolveStep, lowSubmitStep, challengeStep, lowSubmitStep]).external).length = 2 := by
    decide +kernel
  have hle := h sampleConfig "E1" [lowResolveStep, lowSubmitStep, challengeStep, lowSubmitStep]
    ⟨fun _ _ _ => rfl, fun _ _ h => (by cases h), fun _ _ h => (by cases h),
      fun _ _ h => (by cases h), trivial⟩
  rw [htwice] at hle
  omega

end asoe
