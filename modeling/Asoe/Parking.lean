-- The laws of the cosign park: a record waits in PENDING_COSIGN exactly while
-- it carries a pending override, and only a second user takes it out again.
-- A replay of a parked record breaks both, and a cosigned submit that does
-- not go through breaks the first.
import Asoe.Transitions

namespace asoe

open py prog runs

/-! ## A parked record -/

/-- The record waits for a cosign exactly when it has something to cosign. -/
def WellParked (r : ChildCase) : Prop :=
  r.lifecycle_state = .PENDING_COSIGN ↔ r.resolution_data.pending_override.isSome = true

/-- An override that is rejected leads out of the park. -/
def LeadsOut (r : ChildCase) : Prop :=
  ∀ p, r.resolution_data.pending_override = some p → p.from_lifecycle_state ≠ .PENDING_COSIGN

/-- The submit gets through: no kill switch, and a proposal phase that ends
without raising leads to a recipe that reports success. -/
def GoesThrough (env : RunEnv) (state : GraphState) : Prop :=
  env.kill_switch = false ∧ ∀ p, proposal_phase env state = .ok p →
    ∃ s, Executes env state s ∧ dict.get s.outputs "status" = some (.str "SUCCESS")

/-- `GoesThrough`, as one can compute it. -/
def goesThrough (env : RunEnv) (state : GraphState) : Bool :=
  !env.kill_switch &&
    match proposal_phase env state with
    | .ok _ => (executed env state).any fun s => dict.get s.outputs "status" = some (.str "SUCCESS")
    | .error _ => true

theorem goesThrough_iff (env : RunEnv) (state : GraphState) :
    goesThrough env state = true ↔ GoesThrough env state := by
  unfold goesThrough GoesThrough
  rcases hp : proposal_phase env state with e | p
  · simp
  · simp [Option.any_eq_true, executed_eq_some]

instance (env : RunEnv) (state : GraphState) : Decidable (GoesThrough env state) :=
  decidable_of_iff _ (goesThrough_iff env state)

/-- A replay does not meet a parked record that may be replayed still. -/
def NoParkedReplay (st : Step) (api : Api) : Prop :=
  ∀ id reason r, st.request = .reanalyze id reason → get_record api id st.user.org = some r →
    r.lifecycle_state = .PENDING_COSIGN → is_reanalyzable r = true →
    REANALYSIS_MAX_ATTEMPTS ≤ r.reanalysis_history.length

/-- A cosigned submit gets through. -/
def CosignedSubmitGoesThrough (st : Step) (api : Api) : Prop :=
  ∀ id key req r p event, st.request = .cosign id key req →
    get_record api id st.user.org = some r → r.lifecycle_state = .PENDING_COSIGN →
    r.resolution_data.pending_override = some p → req.approve = true → p.action = "SUBMIT_TO_ERP" →
    p.initiator ≠ st.user.sub → r.original_event = some event →
    GoesThrough st.env.first_run (directed_state st.user.org r .SubmitToErpRecipe
      (p.corrections.getD []) event)

variable {r : ChildCase}

theorem not_parked_of_disposition
    (h : r.lifecycle_state ∈ HITL_DISPOSITION_STATES) : r.lifecycle_state ≠ .PENDING_COSIGN := by
  intro hp
  simp [hp, HITL_DISPOSITION_STATES] at h

theorem not_parked_of_override (h : r.lifecycle_state ∈ HITL_OVERRIDE_STATES) :
    r.lifecycle_state ≠ .PENDING_COSIGN := by
  intro hp
  simp [hp, HITL_OVERRIDE_STATES] at h

theorem not_parked_of_escalate (h : r.lifecycle_state ∈ ESCALATE_ELIGIBLE_STATES) :
    r.lifecycle_state ≠ .PENDING_COSIGN := by
  intro hp
  simp [hp, ESCALATE_ELIGIBLE_STATES] at h

theorem not_parked_of_disposable {sub_type : SubType} (h : r.lifecycle_state ∈
      if sub_type = .OVERRIDE then HITL_OVERRIDE_STATES else HITL_DISPOSITION_STATES) :
    r.lifecycle_state ≠ .PENDING_COSIGN := by
  split at h
  · exact not_parked_of_override h
  · exact not_parked_of_disposition h

/-! ## One request -/

theorem leadsOut_none (h : r.resolution_data.pending_override = none) :
    LeadsOut r := fun p hp => by cases h.symm.trans hp

theorem leadsOut_parked {env : StepEnv} {p : PendingOverride}
    (h : p.from_lifecycle_state ≠ .PENDING_COSIGN) :
    LeadsOut (stamped env (parked_record p r)) := fun q hq => by
  cases hq
  exact h

theorem answered_leadsOut {cfg : Config} {env : StepEnv} {user : AuthenticatedUser} {id : String}
    {r : ChildCase} {ext : External} {ledger : Ledger} {req : Request} {w : Write}
    (hr : LeadsOut r) (h : Answered cfg env user id r ext ledger req w) : LeadsOut w.record := by
  cases h with
  | submit_staged key req m haction hstate =>
    exact leadsOut_parked (not_parked_of_disposition hstate)
  | submitted | cosign_submitted =>
    refine leadsOut_none ?_
    simp only [submitWrite, stamped, submitted_record]
    split <;> rfl
  | override_staged key req m haction hsend hstate =>
    exact leadsOut_parked (not_parked_of_override hstate)
  | cosigned | cosign_rejected => exact leadsOut_none rfl
  | drafted | deduped | sent | disposed | escalated | reanalyzed | challenged | released =>
    exact hr

theorem run_leadsOut (cfg : Config) (sts : List Step) (id : String) (r : ChildCase)
    (hr : dict.get (run (step cfg) {} sts).records id = some r) : LeadsOut r :=
  run_records (C := fun _ _ => True)
    (fun _ _ _ data fin hdata => leadsOut_none (resolution_data_of_pending fin data hdata))
    (fun _ _ _ _ _ _ _ hr h => answered_leadsOut hr h) (allSteps_true _ _) id r hr

theorem wellParked_of_open (h : r.lifecycle_state ≠ .PENDING_COSIGN)
    (hp : r.resolution_data.pending_override = none) : WellParked r := by
  simp [WellParked, h, hp]

theorem wellParked_parked {env : StepEnv} {p : PendingOverride} :
    WellParked (stamped env (parked_record p r)) := by
  simp [WellParked, stamped, parked_record]

theorem WellParked.none_of_not_parked (hr : WellParked r)
    (h : r.lifecycle_state ≠ .PENDING_COSIGN) : r.resolution_data.pending_override = none := by
  have hp := hr.not.mp h
  simpa using hp

theorem status_of_goes_through {env : RunEnv} {id tenant : String}
    {params : PyDict} {ext ext' : External} {result : GraphState}
    (hrun : DirectedEnd env id tenant r .SubmitToErpRecipe params ext (.ok result) ext')
    (hgo : ∀ event, r.original_event = some event →
      GoesThrough env (directed_state tenant r .SubmitToErpRecipe params event)) :
    output_of result "status" = .str "SUCCESS" := by
  obtain ⟨event, hevent, hend⟩ := hrun.outputs
  obtain ⟨hkill, hgo⟩ := hgo event hevent
  rcases hend with ⟨s, hs, hout⟩ | ⟨hno, hreach | ⟨p, hp⟩, -⟩
  · obtain ⟨p, hp, -⟩ := hs.2.2
    obtain ⟨t, ht, hstatus⟩ := hgo p hp
    cases hs.unique ht
    simp [output_of, hout, hstatus, PyVal.ofOption]
  · simp [hkill] at hreach
  · obtain ⟨t, ht, -⟩ := hgo p hp
    exact absurd ht (hno t)

/-- What an answered request writes is well parked again. -/
theorem answered_wellParked {cfg : Config} {st : Step} {api : Api} {id : String} {r : ChildCase}
    {w : Write} (hget : get_record api id st.user.org = some r) (hr : WellParked r)
    (hout : LeadsOut r) (hreplay : NoParkedReplay st api) (hsubmit : CosignedSubmitGoesThrough st api)
    (h : Answered cfg st.env st.user id r api.external api.delivery_dedup st.request w) :
    WellParked w.record := by
  generalize hreq : st.request = req at h
  cases h with
  | submit_staged => exact wellParked_parked
  | submitted key req m result ext' haction hstate =>
    have hopen := not_parked_of_disposition hstate
    refine wellParked_of_open ?_ ?_
    · simp only [submitWrite, stamped, submitted_record]
      split
      · simp
      · exact hopen
    · simp only [submitWrite, stamped, submitted_record]
      split <;> rfl
  | drafted key req result ext' haction hstate =>
    have hopen := not_parked_of_disposition hstate
    exact wellParked_of_open hopen (hr.none_of_not_parked hopen)
  | deduped => exact hr
  | sent key req preview ext' result ext'' dkey haction hstate =>
    have hopen := not_parked_of_disposition hstate
    exact wellParked_of_open hopen (hr.none_of_not_parked hopen)
  | override_staged => exact wellParked_parked
  | disposed key req haction hsend hstate =>
    have hopen := not_parked_of_disposable hstate
    refine wellParked_of_open ?_ (hr.none_of_not_parked hopen)
    simp only [stamped, disposed_record, SubType.lifecycle]
    split <;> simp
  | cosign_submitted key req p result ext' happrove haction hstate hpending hother hrun =>
    have hstatus := status_of_goes_through hrun fun event hevent =>
      hsubmit id key req r p event hreq hget hstate hpending happrove haction hother hevent
    refine wellParked_of_open ?_ ?_
    · simp [submitWrite, stamped, submitted_record, erp_submission_record, hstatus]
    · simp [submitWrite, stamped, submitted_record, erp_submission_record, hstatus]
  | cosigned => exact wellParked_of_open (by simp [stamped, cosigned_record]) rfl
  | cosign_rejected key req p happrove hstate hpending hother =>
    exact wellParked_of_open (hout p hpending) rfl
  | escalated key req hstate =>
    refine wellParked_of_open (by simp [stamped, escalated_record]) ?_
    exact hr.none_of_not_parked (not_parked_of_escalate hstate)
  | reanalyzed reason event fin nodes ext' hstate hattempts hevent hrun =>
    refine wellParked_of_open (resolve_lifecycle_ne_pending_cosign _) ?_
    refine hr.none_of_not_parked fun hparked => ?_
    exact absurd hattempts (hreplay id reason r hreq hget hparked hstate).not_gt
  | challenged reason hstate =>
    refine wellParked_of_open (by simp [stamped, challenged_record]) ?_
    exact hr.none_of_not_parked (by simp [hstate])
  | released reason risk hstate =>
    refine wellParked_of_open (by simp [stamped, released_record]) ?_
    exact hr.none_of_not_parked (by simp [hstate])

/-! ## Every run -/

/-- In a run that replays no parked record, and whose cosigned submits get
through, each record waits for a cosign exactly when it has something to
cosign. -/
theorem a_record_is_parked_exactly_with_an_override (cfg : Config) (sts : List Step)
    (hsts : AllSteps (step cfg)
      (fun st api => NoParkedReplay st api ∧ CosignedSubmitGoesThrough st api) {} sts) (id : String)
    (r : ChildCase) (hr : dict.get (run (step cfg) {} sts).records id = some r) : WellParked r := by
  refine (run_records (I := fun r => WellParked r ∧ LeadsOut r) ?_ ?_ hsts id r hr).1
  · intro st trace_id case data fin hdata
    have hnone := resolution_data_of_pending fin data hdata
    exact ⟨wellParked_of_open (resolve_lifecycle_ne_pending_cosign _) hnone, leadsOut_none hnone⟩
  · intro st api id r w ⟨hreplay, hsubmit⟩ hget ⟨hr, hout⟩ h
    exact ⟨answered_wellParked hget hr hout hreplay hsubmit h, answered_leadsOut hout h⟩

/-- A submit that is parked, cosigned by a second user, and gone through. -/
theorem a_cosigned_submit_ends_well_parked :
    ∃ r, dict.get (run (step sampleConfig) {} [resolveStep, submitStep, cosignStep]).records "E1"
        = some r ∧ r.lifecycle_state = .RESOLVED ∧ WellParked r := by
  have hend : (dict.get (run (step sampleConfig) {} [resolveStep, submitStep, cosignStep]).records
      "E1").map (·.lifecycle_state) = some .RESOLVED := by decide +kernel
  obtain ⟨r, hr, hresolved⟩ := Option.map_eq_some_iff.mp hend
  refine ⟨r, hr, hresolved, a_record_is_parked_exactly_with_an_override sampleConfig
    [resolveStep, submitStep, cosignStep] ⟨⟨?_, ?_⟩, ⟨?_, ?_⟩, ⟨?_, ?_⟩, trivial⟩ "E1" r hr⟩
  · exact fun _ _ _ h => (by cases h)
  · exact fun _ _ _ _ _ _ h => (by cases h)
  · exact fun _ _ _ h => (by cases h)
  · exact fun _ _ _ _ _ _ h => (by cases h)
  · exact fun _ _ _ h => (by cases h)
  · intro id key req r p event h hget _ hp _ _ _ hevent
    cases h
    have hgo : ∀ r' ∈ get_record (run (step sampleConfig) {} [resolveStep, submitStep]) "E1" "T1",
        ∀ p' ∈ r'.resolution_data.pending_override, ∀ event' ∈ r'.original_event,
        GoesThrough (sampleRun 20000) (directed_state "T1" r' .SubmitToErpRecipe
          (p'.corrections.getD []) event') := by decide +kernel
    exact hgo r hget p hp event hevent

/-- The cosign of a submit that the kill switch stops. -/
def killedCosignStep : Step :=
  { cosignStep with env := sampleEnv { sampleRun 20000 with kill_switch := true } }

/-- A cosigned submit that does not go through leaves its record parked with
nothing to cosign. -/
theorem a_stopped_cosign_leaves_an_empty_park :
    ¬ ∀ (cfg : Config) (sts : List Step) (id : String) (r : ChildCase),
      dict.get (run (step cfg) {} sts).records id = some r → WellParked r := by
  intro h
  have hend : (dict.get (run (step sampleConfig) {}
      [resolveStep, submitStep, killedCosignStep]).records "E1").map
      (fun r => (r.lifecycle_state, r.resolution_data.pending_override))
        = some (.PENDING_COSIGN, none) := by decide +kernel
  obtain ⟨r, hr, hbad⟩ := Option.map_eq_some_iff.mp hend
  have hparked := h sampleConfig _ "E1" r hr
  simp only [Prod.mk.injEq] at hbad
  simp [WellParked, hbad.1, hbad.2] at hparked

/-! ## The way out of the park -/

/-- A cosign request for a parked record, by somebody else than the user who
parked it. -/
def SecondUser (id : String) (st : Step) (api : Api) : Prop :=
  ∃ key req r p, st.request = .cosign id key req ∧ dict.get api.records id = some r ∧
    r.lifecycle_state = .PENDING_COSIGN ∧ r.resolution_data.pending_override = some p ∧
    p.initiator ≠ st.user.sub

/-- A new record gets an id that no record has. -/
def FreshId (st : Step) (api : Api) : Prop :=
  ∀ event explain, st.request = .resolve event explain →
    dict.get api.records st.env.new_id = none

/-- Of the requests that are carried out, only a second user's cosign finds
the record parked. -/
theorem answered_parked {cfg : Config} {st : Step} {api : Api} {id : String} {r : ChildCase}
    {w : Write} (hget : get_record api id st.user.org = some r) (hreplay : NoParkedReplay st api)
    (hparked : r.lifecycle_state = .PENDING_COSIGN)
    (h : Answered cfg st.env st.user id r api.external api.delivery_dedup st.request w) :
    SecondUser id st api := by
  have hstored := (get_record_some hget).1
  generalize hreq : st.request = req at h
  cases h with
  | submit_staged key req m haction hstate =>
    exact absurd hparked (not_parked_of_disposition hstate)
  | submitted key req m result ext' haction hstate =>
    exact absurd hparked (not_parked_of_disposition hstate)
  | drafted key req result ext' haction hstate =>
    exact absurd hparked (not_parked_of_disposition hstate)
  | deduped key req preview ext' dkey haction hstate =>
    exact absurd hparked (not_parked_of_disposition hstate)
  | sent key req preview ext' result ext'' dkey haction hstate =>
    exact absurd hparked (not_parked_of_disposition hstate)
  | override_staged key req m haction hsend hstate =>
    exact absurd hparked (not_parked_of_override hstate)
  | disposed key req haction hsend hstate =>
    exact absurd hparked (not_parked_of_disposable hstate)
  | cosign_submitted key req p result ext' happrove haction hstate hpending hother =>
    exact ⟨key, req, r, p, hreq, hstored, hparked, hpending, hother⟩
  | cosigned key req p happrove haction hstate hpending hother =>
    exact ⟨key, req, r, p, hreq, hstored, hparked, hpending, hother⟩
  | cosign_rejected key req p happrove hstate hpending hother =>
    exact ⟨key, req, r, p, hreq, hstored, hparked, hpending, hother⟩
  | escalated key req hstate => exact absurd hparked (not_parked_of_escalate hstate)
  | reanalyzed reason event fin nodes ext' hstate hattempts =>
    exact absurd hattempts (hreplay id reason r hreq hget hparked hstate).not_gt
  | challenged reason hstate => simp [hstate] at hparked
  | released reason risk hstate => simp [hstate] at hparked

/-- A step by anybody but a second user leaves a parked record as it is. -/
theorem step_keeps_parked {cfg : Config} {st : Step} {api : Api} {id : String} {r : ChildCase}
    (hreplay : NoParkedReplay st api) (hfresh : FreshId st api)
    (hr : dict.get api.records id = some r) (hparked : r.lifecycle_state = .PENDING_COSIGN)
    (hnot : ¬ SecondUser id st api) : dict.get (step cfg st api).records id = some r := by
  cases step_cases cfg st api with
  | idle hkept => rw [hkept.records, hr]
  | wrote id' r' w hget hanswer hwrote =>
    rw [hwrote.records]
    by_cases hid : id = id'
    · subst hid
      cases hr.symm.trans (get_record_some hget).1
      exact absurd (answered_parked hget hreplay hparked hanswer) hnot
    · rw [dict.get_set_of_ne _ _ hid, hr]
  | abandoned id' r' hget hkept => rw [hkept.records, hr]
  | resolved event explain outcome hreq hrun haudit hledger hrecords =>
    rcases hrecords with h | ⟨trace_id, case, data, fin, hdata, h⟩
    · rw [h, hr]
    · have hne : id ≠ st.env.new_id := by
        rintro rfl
        cases hr.symm.trans (hfresh event explain hreq)
      rw [h, dict.get_set_of_ne _ _ hne, hr]
  | reconciled tenant_id max_attempts hreq hkept => rw [hkept.records, hr]

/-- In a run that replays no parked record, a record that is parked at one
point and not at a later one was taken out in between by a second user's
cosign, who found it parked. -/
theorem a_parked_record_leaves_only_by_a_second_user (cfg : Config) (pre sts : List Step)
    (hsts : AllSteps (step cfg) (fun st api => NoParkedReplay st api ∧ FreshId st api) {}
      (pre ++ sts)) (id : String) (r : ChildCase)
    (hr : dict.get (run (step cfg) {} pre).records id = some r)
    (hparked : r.lifecycle_state = .PENDING_COSIGN)
    (r' : ChildCase) (hr' : dict.get (run (step cfg) {} (pre ++ sts)).records id = some r')
    (hleft : r'.lifecycle_state ≠ .PENDING_COSIGN) :
    ∃ mid st post, sts = mid ++ st :: post ∧
      SecondUser id st (run (step cfg) {} (pre ++ mid)) := by
  rw [run_append] at hr'
  replace hsts := (allSteps_append.mp hsts).2
  simp only [run_append]
  generalize run (step cfg) {} pre = api at hr hr' hsts ⊢
  induction sts generalizing api with
  | nil =>
    cases hr.symm.trans hr'
    exact absurd hparked hleft
  | cons st sts ih =>
    obtain ⟨⟨hreplay, hfresh⟩, hrest⟩ := hsts
    by_cases hsecond : SecondUser id st api
    · exact ⟨[], st, sts, rfl, hsecond⟩
    · have hstay : dict.get (step cfg st api).records id = some r :=
        step_keeps_parked hreplay hfresh hr hparked hsecond
      obtain ⟨mid, st', post, rfl, h⟩ := ih (step cfg st api) hstay hr' hrest
      exact ⟨st :: mid, st', post, rfl, h⟩

theorem a_cosigned_submit_left_by_a_second_user :
    ∃ mid st post, [cosignStep] = mid ++ st :: post ∧
      SecondUser "E1" st (run (step sampleConfig) {} ([resolveStep, submitStep] ++ mid)) := by
  have hpre : (dict.get (run (step sampleConfig) {} [resolveStep, submitStep]).records
      "E1").map (·.lifecycle_state) = some .PENDING_COSIGN := by decide +kernel
  have hend : (dict.get (run (step sampleConfig) {} [resolveStep, submitStep, cosignStep]).records
      "E1").map (·.lifecycle_state) = some .RESOLVED := by decide +kernel
  obtain ⟨r, hr, hparked⟩ := Option.map_eq_some_iff.mp hpre
  obtain ⟨r', hr', hresolved⟩ := Option.map_eq_some_iff.mp hend
  refine a_parked_record_leaves_only_by_a_second_user sampleConfig [resolveStep, submitStep]
    [cosignStep] ⟨⟨?_, ?_⟩, ⟨?_, ?_⟩, ⟨?_, ?_⟩, trivial⟩ "E1" r hr hparked r' hr'
    (by simp [hresolved])
  · exact fun _ _ _ h => (by cases h)
  · exact fun _ _ _ => rfl
  · exact fun _ _ _ h => (by cases h)
  · exact fun _ _ h => (by cases h)
  · exact fun _ _ _ h => (by cases h)
  · exact fun _ _ h => (by cases h)

/-- An event whose Shadow verdict asks for a review. -/
def yellowResolveStep : Step :=
  { resolveStep with env := sampleEnv { sampleRun 20000 with
      shadow_backend := some fun _ => ⟨.YELLOW, ["review"], ["REVIEW"]⟩ } }

/-- The replay of a record by the user who parked it. -/
def replayStep : Step := sampleStep "analyst" (.reanalyze "E1" "again")

/-- A parked record with a verdict that asks for review leaves the park by a
replay, without a second user. -/
theorem a_replay_takes_a_record_out_of_the_park :
    ¬ ∀ (cfg : Config) (pre sts : List Step),
      AllSteps (step cfg) FreshId {} (pre ++ sts) → ∀ (id : String) (r r' : ChildCase),
      dict.get (run (step cfg) {} pre).records id = some r → r.lifecycle_state = .PENDING_COSIGN →
      dict.get (run (step cfg) {} (pre ++ sts)).records id = some r' →
      r'.lifecycle_state ≠ .PENDING_COSIGN →
      ∃ mid st post, sts = mid ++ st :: post ∧
        SecondUser id st (run (step cfg) {} (pre ++ mid)) := by
  intro h
  have hpre : (dict.get (run (step sampleConfig) {} [yellowResolveStep, submitStep]).records
      "E1").map (·.lifecycle_state) = some .PENDING_COSIGN := by decide +kernel
  have hend : (dict.get (run (step sampleConfig) {}
      [yellowResolveStep, submitStep, replayStep]).records "E1").map (·.lifecycle_state)
        = some .PENDING_REVIEW := by decide +kernel
  obtain ⟨r, hr, hparked⟩ := Option.map_eq_some_iff.mp hpre
  obtain ⟨r', hr', hleft⟩ := Option.map_eq_some_iff.mp hend
  obtain ⟨mid, st, post, hsts, key, req, r₀, p, hreq, -⟩ := h sampleConfig
    [yellowResolveStep, submitStep] [replayStep]
    ⟨fun _ _ _ => rfl, fun _ _ h => (by cases h), fun _ _ h => (by cases h), trivial⟩ "E1" r r' hr
    hparked hr' (by simp [hleft])
  rcases mid with _ | ⟨st', mid⟩
  · cases hsts
    cases hreq
  · simp at hsts

end asoe
