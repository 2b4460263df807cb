-- The audit log as the story of the lifecycles: each event names a record,
-- and its state before and after. Folding the events of a record replays
-- its lifecycle, as long as the events tell the truth.
import Asoe.ErpSubmit
import Asoe.Lib.Replay

namespace asoe

open py prog runs eventlog

/-! ## Events that speak of a lifecycle -/

/-- An audit event names its record in `previous_value.exception_id`. -/
def audit_subject (event : AuditEvent) : Option String :=
  match dict.get event.previous_value "exception_id" with
  | some (.str id) => some id
  | _ => none

/-- What an audit event says of a lifecycle. -/
def lifecycles : Reading AuditEvent String PyVal where
  subject := audit_subject
  before event := dict.get event.previous_value "lifecycle_state"
  after event := dict.get event.new_value "lifecycle_state"

def lifecycle_of (api : Api) (id : String) : Option PyVal :=
  (dict.get api.records id).map fun r => ofLifecycle r.lifecycle_state

theorem lifecycle_of_some {api : Api} {id : String} {r : ChildCase}
    (h : dict.get api.records id = some r) :
    lifecycle_of api id = some (ofLifecycle r.lifecycle_state) := by
  rw [lifecycle_of, h, Option.map_some]

/-- The log grew by events that replay the change of every lifecycle. -/
abbrev Replays : Api → Api → Prop := Logged lifecycles Api.audit_log lifecycle_of

/-- One step as the log tells it: nothing is logged and no lifecycle moves,
or one event names a record with its states just before and just after. -/
inductive Audited (api api' : Api) : Prop where
  | silent (hlog : api'.audit_log = api.audit_log)
      (hkept : ∀ id v, lifecycle_of api id = some v → lifecycle_of api' id = some v)
  | event (id : String) (r r' : ChildCase) (e : AuditEvent)
      (hlog : api'.audit_log = api.audit_log ++ [e]) (hget : dict.get api.records id = some r)
      (hrecords : api'.records = dict.set api.records id r')
      (hstated : lifecycles.Says e id (ofLifecycle r.lifecycle_state) (ofLifecycle r'.lifecycle_state))

theorem Audited.replays {api api' : Api} (h : Audited api api') : Replays api api' := by
  cases h with
  | silent hlog hkept => exact .silent hlog hkept
  | event id r r' e hlog hget hrecords hstated =>
    refine .event hlog hstated (lifecycle_of_some hget) ?_ fun id' hne => ?_
    · exact lifecycle_of_some (hrecords ▸ dict.get_set_self _ _ _)
    · rw [lifecycle_of, hrecords, dict.get_set_of_ne _ _ hne]
      rfl

/-! ## Truthful steps -/

/-- The submit run of the record does not come back with a success. -/
def NotTaken (st : Step) (id : String) (r : ChildCase) (ext : External)
    (corrections : Option PyDict) : Prop :=
  ∀ result ext', SubmitEnd st.env st.user id r ext corrections (.ok result) ext' →
    output_of result "status" ≠ .str "SUCCESS"

/-- The request is no submit that moves the record: none that is parked, and
none that the recipe takes. -/
structure MovesNoSubmit (st : Step) (id : String) (r : ChildCase) (ext : External) : Prop where
  submit : ∀ key req m, st.request = .disposition id key req → req.action = "SUBMIT_TO_ERP" →
    r.lifecycle_state ∈ HITL_DISPOSITION_STATES → cosign_materiality_usd r = .ok m →
    is_high_value m = false ∧ NotTaken st id r ext req.corrections
  cosign : ∀ key req p, st.request = .cosign id key req → req.approve = true →
    r.resolution_data.pending_override = some p → p.action = "SUBMIT_TO_ERP" →
    NotTaken st id r ext p.corrections

/-- The steps whose events tell the truth: the insert of the event goes
through, the request composes no reply, and on the in-memory store it is no
submit that moves the record. -/
structure Truthful (cfg : Config) (st : Step) (api : Api) : Prop where
  fresh : FreshId st api
  inserted : cfg.store = .database → st.env.audit_insert_ok = true
  no_reply : ∀ id key req r, st.request = .disposition id key req →
    req.action = "DRAFT_REPLY" ∨ req.action = "SEND_REPLY" →
    get_record api id st.user.org = some r → r.lifecycle_state ∉ HITL_DISPOSITION_STATES
  submit : cfg.store = .memory → ∀ id r, get_record api id st.user.org = some r →
    MovesNoSubmit st id r api.external

section step

variable {cfg : Config} {st : Step} {api : Api} {id : String} {r : ChildCase}

/-- The event of a submit run. The database store leaves the record that the
handler read alone; the in-memory store does when the lifecycle does not move. -/
theorem submitWrite_says {result : GraphState} {submitter notes : String}
    {cosign : Option CosignMeta} {ext' : External}
    (hheld : cfg.store = .memory → output_of result "status" ≠ .str "SUCCESS") :
    let w := submitWrite cfg st.env st.user id r result submitter notes cosign ext'
    lifecycles.Says w.event id (ofLifecycle r.lifecycle_state)
      (ofLifecycle w.record.lifecycle_state) := by
  intro w
  let after := stamped st.env (submitted_record (erp_submission_record st.env result submitter)
    submitter notes cosign r)
  have hbefore : (held cfg r after).lifecycle_state = r.lifecycle_state := by
    unfold held
    split
    · rename_i hstore
      simp [after, stamped, submitted_record, erp_submission_record, hheld hstore]
    · rfl
  refine ⟨rfl, ?_, ?_⟩
  · show some (ofLifecycle (held cfg r after).lifecycle_state) = _
    rw [hbefore]
  · show some (ofLifecycle (if decide (output_of result "status" = .str "SUCCESS") = true then
      .RESOLVED else (held cfg r after).lifecycle_state)) = some (ofLifecycle after.lifecycle_state)
    rw [hbefore]
    by_cases hstatus : output_of result "status" = .str "SUCCESS"
    · simp [after, stamped, submitted_record, erp_submission_record, hstatus]
    · simp [after, stamped, submitted_record, erp_submission_record, hstatus]

/-- The event of an answered request says what the request did. -/
theorem answered_stated {w : Write} (hst : Truthful cfg st api)
    (hget : get_record api id st.user.org = some r)
    (h : Answered cfg st.env st.user id r api.external api.delivery_dedup st.request w) :
    lifecycles.Says w.event id (ofLifecycle r.lifecycle_state)
      (ofLifecycle w.record.lifecycle_state) := by
  generalize hreq : st.request = request at h
  cases h with
  | submit_staged key req m haction hstate hm hhigh =>
    have hdatabase : cfg.store = .database := by
      rcases hstore : cfg.store with _ | _
      · have hlow := ((hst.submit hstore id r hget).submit key req _ hreq haction hstate hm).1
        rw [hhigh] at hlow
        cases hlow
      · rfl
    refine ⟨rfl, ?_, rfl⟩
    simp [lifecycles, stageWrite, submit_staged_event, held, hdatabase, dict.get_cons]
  | submitted key req m result ext' haction hstate hm hlow hrun =>
    exact submitWrite_says fun hstore =>
      ((hst.submit hstore id r hget).submit key req m hreq haction hstate hm).2 result ext' hrun
  | cosign_submitted key req p result ext' happrove haction hstate hpending hother hrun =>
    exact submitWrite_says fun hstore =>
      (hst.submit hstore id r hget).cosign key req p hreq happrove hpending haction result ext' hrun
  | drafted key req result ext' haction hstate =>
    exact absurd hstate (hst.no_reply id key req r hreq (Or.inl haction) hget)
  | deduped key req preview ext' dkey haction hstate =>
    exact absurd hstate (hst.no_reply id key req r hreq (Or.inr haction) hget)
  | sent key req preview ext' result ext'' dkey haction hstate =>
    exact absurd hstate (hst.no_reply id key req r hreq (Or.inr haction) hget)
  | override_staged | disposed | cosigned | cosign_rejected | escalated | reanalyzed =>
    exact ⟨rfl, rfl, rfl⟩
  | challenged reason hstate => exact ⟨rfl, hstate ▸ rfl, rfl⟩
  | released reason risk hstate => exact ⟨rfl, hstate ▸ rfl, rfl⟩

/-- A truthful step is audited. -/
theorem step_audited (hst : Truthful cfg st api) : Audited api (step cfg st api) := by
  generalize hafter : step cfg st api = api'
  have hkeep : api'.audit_log = api.audit_log → api'.records = api.records → Audited api api' :=
    fun hlog hrecords => .silent hlog fun id v hv => by rw [lifecycle_of, hrecords]; exact hv
  cases hafter ▸ step_cases cfg st api with
  | idle hkept | reconciled _ _ _ hkept => exact hkeep hkept.audit_log hkept.records
  | abandoned _ _ _ hkept => exact hkeep hkept.audit_log hkept.records
  | wrote id r w hget hanswer hwrote =>
    refine .event id r w.record w.event ?_ (get_record_some hget).1 hwrote.records
      (answered_stated hst hget hanswer)
    rw [hwrote.audit_log, logged, if_neg]
    rintro ⟨hstore, hfailed⟩
    rw [hst.inserted hstore] at hfailed
    cases hfailed
  | resolved event explain outcome hreq hrun haudit hledger hrecords =>
    rcases hrecords with hrecords | ⟨trace_id, case, data, fin, -, hrecords⟩
    · exact hkeep haudit hrecords
    · refine .silent haudit fun id v hv => ?_
      have hne : id ≠ st.env.new_id := by
        rintro rfl
        rw [lifecycle_of, hst.fresh event explain hreq] at hv
        cases hv
      rw [lifecycle_of, hrecords, dict.get_set_of_ne _ _ hne]
      exact hv

end step

/-! ## Every run -/

/-- In a run of truthful steps every event tells the state before and after
its step, and folding the events of a record replays its lifecycle. -/
theorem the_audit_log_replays_the_lifecycles (cfg : Config) (pre sts : List Step)
    (hsts : AllSteps (step cfg) (Truthful cfg) (run (step cfg) {} pre) sts) :
    AllSteps (step cfg) (fun st api => Audited api (step cfg st api)) (run (step cfg) {} pre) sts ∧
      Replays (run (step cfg) {} pre) (run (step cfg) {} (pre ++ sts)) := by
  rw [run_append]
  generalize run (step cfg) {} pre = api at hsts
  have haudited : AllSteps (step cfg) (fun st api => Audited api (step cfg st api)) api sts :=
    allSteps_mono (fun _ _ => step_audited) hsts
  exact ⟨haudited, logged_run (allSteps_mono (fun _ _ => Audited.replays) haudited)⟩

theorem truthful_on_database {st : Step} {api : Api} (hfresh : FreshId st api)
    (hinserted : st.env.audit_insert_ok = true)
    (hreply : ∀ id key req, st.request = .disposition id key req →
      ¬ (req.action = "DRAFT_REPLY" ∨ req.action = "SEND_REPLY")) :
    Truthful databaseConfig st api where
  fresh := hfresh
  inserted _ := hinserted
  no_reply id key req _ hreq haction _ := absurd haction (hreply id key req hreq)
  submit hstore := by cases hstore

/-- A submit and a challenge, told by the log of the database store. -/
theorem a_submit_and_a_challenge_are_replayed :
    lifecycles.replay "E1" (run (step databaseConfig) {}
        ([lowResolveStep] ++ [lowSubmitStep, challengeStep])).audit_log
      (ofLifecycle .PENDING_REVIEW) = some (ofLifecycle .ESCALATED) := by
  obtain ⟨es, hlog, hreplay⟩ := (the_audit_log_replays_the_lifecycles databaseConfig
    [lowResolveStep] [lowSubmitStep, challengeStep]
    ⟨truthful_on_database (fun _ _ h => (by cases h)) rfl (by rintro id key req ⟨⟩; decide),
      truthful_on_database (fun _ _ h => (by cases h)) rfl (by rintro id key req ⟨⟩), trivial⟩).2
  have hstart : (run (step databaseConfig) {} [lowResolveStep]).audit_log = [] ∧
      lifecycle_of (run (step databaseConfig) {} [lowResolveStep]) "E1" =
        some (ofLifecycle .PENDING_REVIEW) := by decide +kernel
  have hend : lifecycle_of (run (step databaseConfig) {}
      ([lowResolveStep] ++ [lowSubmitStep, challengeStep])) "E1" =
        some (ofLifecycle .ESCALATED) := by decide +kernel
  obtain ⟨v, hv, hes⟩ := hreplay "E1" _ hstart.2
  cases hend.symm.trans hv
  rw [hlog, hstart.1]
  exact hes

/-- On the in-memory store, the event of a submit that waits for its cosign
says that the record was waiting already. -/
theorem a_staged_submit_is_not_replayed :
    ¬ ∀ (cfg : Config) (pre sts : List Step),
      AllSteps (step cfg) (fun st api => FreshId st api ∧ st.env.audit_insert_ok = true)
        (run (step cfg) {} pre) sts →
      Replays (run (step cfg) {} pre) (run (step cfg) {} (pre ++ sts)) := by
  intro h
  obtain ⟨es, hlog, hreplay⟩ := h sampleConfig [resolveStep] [submitStep]
    ⟨⟨fun _ _ h => (by cases h), rfl⟩, trivial⟩
  have hstart : (run (step sampleConfig) {} [resolveStep]).audit_log = [] ∧
      lifecycle_of (run (step sampleConfig) {} [resolveStep]) "E1" =
        some (ofLifecycle .PENDING_REVIEW) := by decide +kernel
  have hbroken : lifecycles.replay "E1" (run (step sampleConfig) {}
      ([resolveStep] ++ [submitStep])).audit_log (ofLifecycle .PENDING_REVIEW) = none := by
    decide +kernel
  obtain ⟨v, -, hes⟩ := hreplay "E1" _ hstart.2
  rw [hlog, hstart.1, List.nil_append, hes] at hbroken
  cases hbroken

end asoe
