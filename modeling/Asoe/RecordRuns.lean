-- What a run of the service does to its records: it loses none and changes no
-- record's origin, it leaves the rows of the tenants that ask for nothing
-- alone, it logs each change, and it moves every record along fixed edges.
import Asoe.AuditReplay

namespace asoe

open py prog runs

variable {cfg : Config} {env : StepEnv} {user : AuthenticatedUser} {id tenant : String}
  {r : ChildCase} {ext : External} {ledger : Ledger} {req : Request} {w : Write} {st : Step}
  {api : Api} {sts : List Step}

/-! ## Where a record comes from -/

/-- The later record has the origin of the earlier one, and its histories only
grew. -/
structure SameOrigin (r r' : ChildCase) : Prop where
  origin : r'.record_origin = r.record_origin
  reanalyses : r.reanalysis_history <+: r'.reanalysis_history
  escalations : r.resolution_data.escalations <+: r'.resolution_data.escalations

theorem answered_same_origin (h : Answered cfg env user id r ext ledger req w) :
    SameOrigin r w.record := by
  have horigin := answered_origin h
  cases h with
  | submitted | cosign_submitted =>
    refine ⟨horigin, ?_, ?_⟩
    all_goals
      simp only [submitWrite, stamped, submitted_record]
      split <;> exact List.prefix_refl _
  | reanalyzed => exact ⟨horigin, List.prefix_append _ _, List.prefix_refl _⟩
  | escalated => exact ⟨horigin, List.prefix_refl _, List.prefix_append _ _⟩
  | submit_staged | drafted | deduped | sent | override_staged | disposed | cosigned
  | cosign_rejected | challenged | released =>
    exact ⟨horigin, List.prefix_refl _, List.prefix_refl _⟩

/-- The event of a request is one of its user's tenant. -/
theorem answered_event_tenant (h : Answered cfg env user id r ext ledger req w) :
    w.event.tenant_id = user.org := by
  cases h <;> rfl

theorem answered_event_subject (h : Answered cfg env user id r ext ledger req w) :
    audit_subject w.event = some id := by
  cases h <;> rfl

/-- A step keeps the log and every record, or it is an answered request. -/
theorem step_writes (cfg : Config) (hfresh : FreshId st api) :
    ((step cfg st api).audit_log = api.audit_log ∧ ∀ id r, dict.get api.records id = some r →
      dict.get (step cfg st api).records id = some r) ∨
    ∃ id r w, get_record api id st.user.org = some r ∧
      Answered cfg st.env st.user id r api.external api.delivery_dedup st.request w ∧
      Wrote cfg st.env st.user.org id w api (step cfg st api) := by
  have hkeeps : Kept api (step cfg st api) → (step cfg st api).audit_log = api.audit_log ∧
      ∀ id r, dict.get api.records id = some r → dict.get (step cfg st api).records id = some r :=
    fun hkept => ⟨hkept.audit_log, fun id r hget => by rwa [hkept.records]⟩
  cases step_cases cfg st api with
  | idle hkept | reconciled _ _ _ hkept => exact Or.inl (hkeeps hkept)
  | abandoned id r hget hkept => exact Or.inl (hkeeps hkept)
  | wrote id r w hget hanswer hwrote => exact Or.inr ⟨id, r, w, hget, hanswer, hwrote⟩
  | resolved event explain outcome hreq hrun haudit hledger hrecords =>
    refine Or.inl ⟨haudit, fun id r hget => ?_⟩
    rcases hrecords with h | ⟨trace_id, case, data, fin, hdata, h⟩
    · rwa [h]
    · have hne : id ≠ st.env.new_id := by
        rintro rfl
        cases hget.symm.trans (hfresh event explain hreq)
      rwa [h, dict.get_set_of_ne _ _ hne]

/-- A step leaves a record alone, or it is an answered request on it. -/
theorem step_record (cfg : Config) (hfresh : FreshId st api)
    (hget : dict.get api.records id = some r) :
    dict.get (step cfg st api).records id = some r ∨
      ∃ w, Answered cfg st.env st.user id r api.external api.delivery_dedup st.request w ∧
        dict.get (step cfg st api).records id = some w.record := by
  rcases step_writes cfg hfresh with ⟨-, hkept⟩ | ⟨id', r', w, hget', hanswer, hwrote⟩
  · exact Or.inl (hkept id r hget)
  · rw [hwrote.records]
    by_cases hid : id = id'
    · subst hid
      cases hget.symm.trans (get_record_some hget').1
      exact Or.inr ⟨w, hanswer, dict.get_set_self _ _ _⟩
    · exact Or.inl ((dict.get_set_of_ne _ _ hid).trans hget)

/-- Whatever requests follow, a record stays in the store with its origin, and
its reanalyses and escalations are only added to. -/
theorem every_record_keeps_its_origin (cfg : Config)
    (hnew : AllSteps (step cfg) FreshId api sts) (hget : dict.get api.records id = some r) :
    ∃ r', dict.get (run (step cfg) api sts).records id = some r' ∧ SameOrigin r r' := by
  refine invariant (I := fun api' => ∃ r', dict.get api'.records id = some r' ∧ SameOrigin r r')
    ?_ ⟨r, hget, rfl, List.prefix_refl _, List.prefix_refl _⟩ hnew
  rintro st api' hid ⟨r₁, hget₁, hsame⟩
  rcases step_record cfg hid hget₁ with hstays | ⟨w, hanswer, hwritten⟩
  · exact ⟨r₁, hstays, hsame⟩
  · have hnext := answered_same_origin hanswer
    exact ⟨w.record, hwritten, hnext.origin.trans hsame.origin,
      hsame.reanalyses.trans hnext.reanalyses, hsame.escalations.trans hnext.escalations⟩

/-- The record of the sample order through a submit and its cosign. -/
theorem the_sample_record_keeps_its_origin :
    ∃ r r', dict.get (run (step sampleConfig) {} [resolveStep]).records "E1" = some r ∧
      dict.get (run (step sampleConfig) (run (step sampleConfig) {} [resolveStep])
        [submitStep, cosignStep]).records "E1" = some r' ∧ SameOrigin r r' := by
  obtain ⟨r, hr⟩ := Option.isSome_iff_exists.mp (show
    (dict.get (run (step sampleConfig) {} [resolveStep]).records "E1").isSome = true by
      decide +kernel)
  have hnew : AllSteps (step sampleConfig) FreshId (run (step sampleConfig) {} [resolveStep])
      [submitStep, cosignStep] :=
    ⟨fun _ _ h => (by cases h), fun _ _ h => (by cases h), trivial⟩
  obtain ⟨r', hr', hsame⟩ := every_record_keeps_its_origin sampleConfig hnew hr
  exact ⟨r, r', hr, hr', hsame⟩

/-! ## The rows of a tenant -/

/-- What the stores hold for a tenant. -/
structure TenantRows where
  records : List (String × ChildCase)
  audit_log : List AuditEvent
  delivery_dedup : Ledger

def rows_of (tenant : String) (api : Api) : TenantRows where
  records := api.records.filter fun p => p.2.tenant_id = tenant
  audit_log := api.audit_log.filter fun event => event.tenant_id = tenant
  delivery_dedup := api.delivery_dedup.filter fun p => p.1.1 = tenant

/-- A filter does not see a key whose values it never lets through. -/
theorem filter_set {κ ν : Type} [DecidableEq κ] {p : κ × ν → Bool} {d : List (κ × ν)} {k : κ}
    {v : ν} (hold : ∀ v', dict.get d k = some v' → p (k, v') = false) (hnew : p (k, v) = false) :
    (dict.set d k v).filter p = d.filter p := by
  cases hget : dict.get d k with
  | none =>
    rw [dict.set_of_none v hget, List.filter_append]
    simp [hnew]
  | some v' =>
    obtain ⟨front, back, hd, hset⟩ := dict.split_of_get hget
    rw [hset, hd]
    simp [List.filter_append, hnew, hold v' hget]

theorem filter_logged {event : AuditEvent} {log : List AuditEvent} (h : event.tenant_id ≠ tenant) :
    (logged cfg env event log).filter (fun event => decide (event.tenant_id = tenant)) =
      log.filter fun event => event.tenant_id = tenant := by
  unfold logged
  split
  · rfl
  · simp [List.filter_append, h]

theorem step_spares (hnew : FreshId st api) (hother : st.user.org ≠ tenant) :
    rows_of tenant (step cfg st api) = rows_of tenant api := by
  have hkeeps : ∀ api', Kept api api' → rows_of tenant api' = rows_of tenant api := by
    intro api' hkept
    unfold rows_of
    rw [hkept.records, hkept.audit_log, hkept.delivery_dedup]
  cases step_cases cfg st api with
  | idle hkept => exact hkeeps _ hkept
  | wrote id r w hget hanswer hwrote =>
    obtain ⟨hold, htenant⟩ := get_record_some hget
    have hrecord : w.record.tenant_id ≠ tenant := by
      rw [answered_tenant hanswer, htenant]
      exact hother
    unfold rows_of
    rw [hwrote.records, hwrote.audit_log, hwrote.delivery_dedup]
    congr 1
    · refine filter_set (fun r' hr' => ?_) (by simpa using hrecord)
      cases hold.symm.trans hr'
      simpa [htenant] using hother
    · exact filter_logged (by rwa [answered_event_tenant hanswer])
    · unfold Write.ledger
      split
      · have hkey : decide (st.user.org = tenant) = false := decide_eq_false hother
        exact filter_set (fun _ _ => hkey) hkey
      · rfl
  | abandoned id r hget hkept => exact hkeeps _ hkept
  | resolved event explain outcome hreq hrun haudit hledger hrecords =>
    unfold rows_of
    rw [haudit, hledger]
    congr 1
    rcases hrecords with h | ⟨trace_id, case, data, fin, hdata, h⟩
    · rw [h]
    · rw [h]
      refine filter_set (fun r hr => ?_) (decide_eq_false hother)
      cases hr.symm.trans (hnew event explain hreq)
  | reconciled tenant_id max_attempts hreq hkept => exact hkeeps _ hkept

/-- Requests of other tenants, however many and in whatever order, leave the
records, the audit log and the delivery ledger of a tenant as they are. -/
theorem no_request_reaches_another_tenant (cfg : Config)
    (h : AllSteps (step cfg) (fun st api => FreshId st api ∧ st.user.org ≠ tenant) api sts) :
    rows_of tenant (run (step cfg) api sts) = rows_of tenant api :=
  invariant (I := fun api' => rows_of tenant api' = rows_of tenant api)
    (fun _ _ hst hrows => (step_spares hst.1 hst.2).trans hrows) rfl h

/-- A user of another tenant who resolves an event and disposes of a record. -/
theorem the_rows_of_the_sample_tenant_stay :
    let api := run (step sampleConfig) {} [resolveStep]
    let stranger (st : Step) : Step := { st with
      user := { st.user with org := "T2" }, env := { st.env with new_id := "E2" } }
    rows_of "T1" (run (step sampleConfig) api [stranger resolveStep, stranger submitStep]) =
      rows_of "T1" api :=
  no_request_reaches_another_tenant sampleConfig
    ⟨⟨fun _ _ _ => by decide +kernel, by decide⟩, ⟨fun _ _ h => (by cases h), by decide⟩, trivial⟩

/-! ## The audit trail -/

/-- The event names the record, and is one of its tenant. -/
def EventOf (event : AuditEvent) (id : String) (r : ChildCase) : Prop :=
  audit_subject event = some id ∧ event.tenant_id = r.tenant_id

/-- The events tell which records have changed, and of no others. -/
structure Trail (api api' : Api) (events : List AuditEvent) : Prop where
  log : api'.audit_log = api.audit_log ++ events
  sound : ∀ event ∈ events, ∃ id r, dict.get api'.records id = some r ∧ EventOf event id r
  complete : ∀ id r, dict.get api.records id = some r →
    dict.get api'.records id = some r ∨ ∃ event ∈ events, EventOf event id r

/-- A database does not refuse the event of the step. -/
def Inserted (cfg : Config) (st : Step) : Prop :=
  cfg.store = .database → st.env.audit_insert_ok = true

theorem step_trail (hfresh : FreshId st api) (hinserted : Inserted cfg st) :
    ∃ events, Trail api (step cfg st api) events := by
  rcases step_writes cfg hfresh with ⟨hlog, hkept⟩ | ⟨id, r, w, hget, hanswer, hwrote⟩
  · exact ⟨[], by rw [hlog, List.append_nil], fun _ h => (by cases h),
      fun id r hget => Or.inl (hkept id r hget)⟩
  · have hlog : (step cfg st api).audit_log = api.audit_log ++ [w.event] := by
      rw [hwrote.audit_log, logged, if_neg]
      rintro ⟨hstore, hfailed⟩
      rw [hinserted hstore] at hfailed
      cases hfailed
    obtain ⟨hold, htenant⟩ := get_record_some hget
    have hof : EventOf w.event id r :=
      ⟨answered_event_subject hanswer, (answered_event_tenant hanswer).trans htenant.symm⟩
    refine ⟨[w.event], hlog, fun event hevent => ?_, fun id' r' hget' => ?_⟩
    · cases List.mem_singleton.mp hevent
      refine ⟨id, w.record, ?_, hof.1, hof.2.trans (answered_tenant hanswer).symm⟩
      rw [hwrote.records, dict.get_set_self]
    · by_cases hid : id' = id
      · subst hid
        cases hold.symm.trans hget'
        exact Or.inr ⟨w.event, List.mem_singleton_self _, hof⟩
      · exact Or.inl (by rwa [hwrote.records, dict.get_set_of_ne _ _ hid])

/-- The audit log is only appended to. A run logs an event of its tenant for
each record that it changes, and none but of records that are there. -/
theorem no_record_changes_unlogged (cfg : Config)
    (h : AllSteps (step cfg) (fun st api => FreshId st api ∧ Inserted cfg st) api sts) :
    ∃ events, Trail api (run (step cfg) api sts) events := by
  refine invariant (I := fun api' => ∃ events, Trail api api' events) ?_
    ⟨[], (List.append_nil _).symm, fun _ h => (by cases h), fun _ _ hget => Or.inl hget⟩ h
  rintro st api' ⟨hfresh, hinserted⟩ ⟨events, htrail⟩
  obtain ⟨events', hnext⟩ := step_trail hfresh hinserted
  refine ⟨events ++ events', by rw [hnext.log, htrail.log, List.append_assoc], ?_, ?_⟩
  · intro event hevent
    rcases List.mem_append.mp hevent with hevent | hevent
    · obtain ⟨id, r, hget, hnames, htenant⟩ := htrail.sound event hevent
      rcases step_record cfg hfresh hget with hstays | ⟨w, hanswer, hwritten⟩
      · exact ⟨id, r, hstays, hnames, htenant⟩
      · exact ⟨id, w.record, hwritten, hnames, htenant.trans (answered_tenant hanswer).symm⟩
    · exact hnext.sound event hevent
  · intro id r hget
    rcases htrail.complete id r hget with hsame | ⟨event, hevent, hof⟩
    · rcases hnext.complete id r hsame with hstays | ⟨event, hevent, hof⟩
      · exact Or.inl hstays
      · exact Or.inr ⟨event, List.mem_append_right _ hevent, hof⟩
    · exact Or.inr ⟨event, List.mem_append_left _ hevent, hof⟩

/-- The staged submit and its cosign are logged. -/
theorem a_staged_submit_leaves_a_trail :
    let api := run (step sampleConfig) {} [resolveStep]
    ∃ events, Trail api (run (step sampleConfig) api [submitStep, cosignStep]) events :=
  no_record_changes_unlogged sampleConfig
    ⟨⟨fun _ _ h => (by cases h), fun h => (by cases h)⟩,
      ⟨fun _ _ h => (by cases h), fun h => (by cases h)⟩, trivial⟩

/-! ## The lifecycle -/

/-- The states that a finished run leads to. -/
def RUN_LIFECYCLES : List LifecycleState :=
  [.INGESTED, .PENDING_REVIEW, .RESOLVED, .FAILED, .BLOCKED, .REJECTED]

/-- The edges of the lifecycle, by the requests that move along them. -/
def LifecycleMoves (s s' : LifecycleState) : Request → Prop
  | .disposition _ _ req =>
    if req.action = "SUBMIT_TO_ERP" then
      s ∈ HITL_DISPOSITION_STATES ∧ (s' = .PENDING_COSIGN ∨ s' = .RESOLVED)
    else s ∈ HITL_OVERRIDE_STATES ∧ (s' = .PENDING_COSIGN ∨ s' = .RESOLVED) ∨
      s ∈ HITL_DISPOSITION_STATES ∧ s' = .REJECTED
  | .cosign _ _ req => s = .PENDING_COSIGN ∧
    if req.approve then s' = .RESOLVED else s' ∈ HITL_OVERRIDE_STATES
  | .escalate .. => s ∈ ESCALATE_ELIGIBLE_STATES ∧ s' = .ESCALATED
  | .reanalyze .. => s' ∈ RUN_LIFECYCLES
  | .challenge .. => s = .RESOLVED ∧ s' = .ESCALATED
  | .admin_release .. => s = .BLOCKED ∧ s' = .PENDING_ADMIN_REVIEW
  | .resolve .. | .reconcile .. => False

/-- The states that no record is ever in, and where a parked record goes back. -/
structure OnTrack (r : ChildCase) : Prop where
  reached : r.lifecycle_state ∉ [.CLASSIFYING, .AUDITING, .CLOSED]
  parked : ∀ pending, r.resolution_data.pending_override = some pending →
    pending.from_lifecycle_state ∈ HITL_OVERRIDE_STATES

theorem resolve_lifecycle_mem (status : Option TerminalStatus) :
    resolve_lifecycle status ∈ RUN_LIFECYCLES := by
  rcases status with _ | status
  · decide
  · cases status <;> decide

theorem override_of_disposition {s : LifecycleState} (h : s ∈ HITL_DISPOSITION_STATES) :
    s ∈ HITL_OVERRIDE_STATES := by
  revert h
  cases s <;> decide

/-- An answered request keeps the state of its record, or moves it along an
edge of the request. -/
theorem answered_moves (hr : OnTrack r) (h : Answered cfg env user id r ext ledger req w) :
    w.record.lifecycle_state = r.lifecycle_state ∨
      LifecycleMoves r.lifecycle_state w.record.lifecycle_state req := by
  cases h with
  | submit_staged key req m haction hstate =>
    right
    simp only [LifecycleMoves, haction, if_true]
    exact ⟨hstate, Or.inl rfl⟩
  | submitted key req m result ext' haction hstate =>
    simp only [submitWrite, stamped, submitted_record]
    split
    · right
      simp only [LifecycleMoves, haction, if_true]
      exact ⟨hstate, Or.inr trivial⟩
    · exact Or.inl rfl
  | drafted | deduped | sent => exact Or.inl rfl
  | override_staged key req m haction hsend hstate =>
    right
    simp only [LifecycleMoves, haction, if_false]
    exact Or.inl ⟨hstate, Or.inl rfl⟩
  | disposed key req haction hsend hstate =>
    right
    simp only [LifecycleMoves, haction, if_false, stamped, disposed_record, SubType.lifecycle]
    rcases hsub : sub_type_of r req.action with _ | _ | _
    · simp only [hsub] at hstate ⊢
      exact Or.inl ⟨override_of_disposition hstate, Or.inr rfl⟩
    · simp only [hsub] at hstate ⊢
      exact Or.inr ⟨hstate, rfl⟩
    · simp only [hsub] at hstate ⊢
      exact Or.inl ⟨hstate, Or.inr rfl⟩
  | cosign_submitted key req pending result ext' happrove haction hstate =>
    simp only [submitWrite, stamped, submitted_record]
    split
    · right
      simp only [LifecycleMoves, happrove, if_true]
      exact ⟨hstate, trivial⟩
    · exact Or.inl rfl
  | cosigned key req pending happrove haction hstate =>
    right
    simp only [LifecycleMoves, happrove, if_true]
    exact ⟨hstate, rfl⟩
  | cosign_rejected key req pending happrove hstate hpending =>
    right
    simp only [LifecycleMoves, happrove]
    exact ⟨hstate, hr.parked pending hpending⟩
  | escalated key req hstate => exact Or.inr ⟨hstate, rfl⟩
  | reanalyzed => exact Or.inr (resolve_lifecycle_mem _)
  | challenged reason hstate => exact Or.inr ⟨hstate, rfl⟩
  | released reason risk hstate => exact Or.inr ⟨hstate, rfl⟩

/-- No edge leads to a state that is never reached. -/
theorem moves_reached {s s' : LifecycleState} (h : LifecycleMoves s s' req) :
    s' ∉ [.CLASSIFYING, .AUDITING, .CLOSED] := by
  have hoverride : s' ∈ HITL_OVERRIDE_STATES → s' ∉ [.CLASSIFYING, .AUDITING, .CLOSED] := by
    cases s' <;> decide
  have hrun : s' ∈ RUN_LIFECYCLES → s' ∉ [.CLASSIFYING, .AUDITING, .CLOSED] := by
    cases s' <;> decide
  cases req with
  | disposition id key req =>
    simp only [LifecycleMoves] at h
    split at h
    · rcases h with ⟨-, rfl | rfl⟩ <;> decide
    · rcases h with ⟨-, rfl | rfl⟩ | ⟨-, rfl⟩ <;> decide
  | cosign id key req =>
    obtain ⟨-, h⟩ := h
    split at h
    · rw [h]
      decide
    · exact hoverride h
  | reanalyze => exact hrun h
  | escalate | challenge | admin_release =>
    rw [h.2]
    decide
  | resolve | reconcile => exact h.elim

theorem onTrack_answered (hr : OnTrack r) (h : Answered cfg env user id r ext ledger req w) :
    OnTrack w.record := by
  refine ⟨?_, ?_⟩
  · rcases answered_moves hr h with hsame | hmoves
    · rw [hsame]
      exact hr.reached
    · exact moves_reached hmoves
  · cases h with
    | submit_staged key req m haction hstate =>
      rintro pending ⟨⟩
      exact override_of_disposition hstate
    | override_staged key req m haction hsend hstate =>
      rintro pending ⟨⟩
      exact hstate
    | submitted | cosign_submitted =>
      simp only [submitWrite, stamped, submitted_record]
      split
      · rintro pending ⟨⟩
      · rintro pending ⟨⟩
    | cosigned | cosign_rejected => rintro pending ⟨⟩
    | drafted | deduped | sent | disposed | escalated | reanalyzed | challenged | released =>
      exact hr.parked

theorem onTrack_new (st : Step) {trace_id : String} {case : OrderCase} {data : ResolutionData}
    {fin : GraphState} (hdata : resolution_data_of fin = .ok data) :
    OnTrack (record_of st.env st.user.org trace_id case data fin) := by
  refine ⟨?_, fun pending hpending => ?_⟩
  · have hmem := resolve_lifecycle_mem fin.final_status
    simp only [record_of]
    revert hmem
    cases resolve_lifecycle fin.final_status <;> decide
  · cases hpending.symm.trans (resolution_data_of_pending fin data hdata)

/-- In every run of the service each step keeps the lifecycle state of a record
or moves it along an edge of its request, and the states `CLASSIFYING`,
`AUDITING` and `CLOSED` are never reached. -/
theorem lifecycles_move_along_the_edges (cfg : Config)
    (hnew : AllSteps (step cfg) FreshId {} sts) :
    AllSteps (step cfg) (fun st api => ∀ id r, dict.get api.records id = some r →
      r.lifecycle_state ∉ [.CLASSIFYING, .AUDITING, .CLOSED] ∧
      ∃ r', dict.get (step cfg st api).records id = some r' ∧
        (r'.lifecycle_state = r.lifecycle_state ∨
          LifecycleMoves r.lifecycle_state r'.lifecycle_state st.request)) {} sts := by
  have hkeep : ∀ st api, FreshId st api → (∀ id r, dict.get api.records id = some r → OnTrack r) →
      ∀ id r, dict.get (step cfg st api).records id = some r → OnTrack r :=
    fun st api _ hall => step_records hall (fun _ _ _ _ => onTrack_new st)
      fun _ _ _ _ hr hanswer => onTrack_answered hr hanswer
  refine allSteps_mono ?_ (invariant_before hkeep (fun id r h => by cases h) hnew)
  rintro st api ⟨hall, hid⟩ id r hget
  refine ⟨(hall id r hget).reached, ?_⟩
  rcases step_record cfg hid hget with hstays | ⟨w, hanswer, hwritten⟩
  · exact ⟨r, hstays, Or.inl rfl⟩
  · exact ⟨w.record, hwritten, answered_moves (hall id r hget) hanswer⟩

/-- A submit that is staged, and approved by a second reviewer. -/
theorem the_sample_record_moves_along_the_edges :
    AllSteps (step sampleConfig) (fun st api => ∀ id r, dict.get api.records id = some r →
      r.lifecycle_state ∉ [.CLASSIFYING, .AUDITING, .CLOSED] ∧
      ∃ r', dict.get (step sampleConfig st api).records id = some r' ∧
        (r'.lifecycle_state = r.lifecycle_state ∨
          LifecycleMoves r.lifecycle_state r'.lifecycle_state st.request)) {}
      [resolveStep, submitStep, cosignStep] :=
  lifecycles_move_along_the_edges sampleConfig
    ⟨fun _ _ _ => rfl, fun _ _ h => (by cases h), fun _ _ h => (by cases h), trivial⟩

end asoe
