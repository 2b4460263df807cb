-- The human actions of an envelope against the audit log. They are read off
-- leftovers of the record, so they tell what happened as long as no request
-- leaves the record in a shape that is read as something else.
import Asoe.DuplicateEnvelopes

namespace asoe

open py prog runs eventlog

/-! ## The history of a record -/

/-- The audit events that name a record. -/
def record_events (log : List AuditEvent) (id : String) : List AuditEvent :=
  log.filter fun e => audit_subject e = some id

def COSIGN_EVENTS : List String := ["EXCEPTION_OVERRIDE_COSIGNED", "EXCEPTION_OVERRIDE_REJECTED"]

/-- The audit event of the latest cosign. -/
def latest_cosign (log : List AuditEvent) (id : String) : Option AuditEvent :=
  ((record_events log id).filter fun e => e.policy_key ∈ COSIGN_EVENTS).getLast?

/-- The `sub_type` that the audit event of the latest disposition recorded. -/
def latest_sub_type (log : List AuditEvent) (id : String) : Option PyVal :=
  ((record_events log id).filterMap fun e => dict.get e.new_value "sub_type").getLast?

def is_cosign (a : HumanActionEntry) : Bool :=
  a.action = .COSIGN_APPROVE || a.action = .COSIGN_REJECT

/-- The entry of a resolution. An override that waits for its cosign is none. -/
def is_resolution (a : HumanActionEntry) : Bool :=
  a.action ∈ [HumanAction.APPROVE, .REJECT, .ESCALATE, .OVERRIDE] &&
    (dict.get a.payload "pending_cosign").isNone

/-- The human actions tell the history that is in the audit log. -/
structure TellsHistory (log : List AuditEvent) (id : String) (actions : List HumanActionEntry) :
    Prop where
  approved : (∃ a ∈ actions, a.action = .COSIGN_APPROVE) ↔
    ∃ e, latest_cosign log id = some e ∧ e.policy_key = "EXCEPTION_OVERRIDE_COSIGNED"
  rejected : (∃ a ∈ actions, a.action = .COSIGN_REJECT) ↔
    ∃ e, latest_cosign log id = some e ∧ e.policy_key = "EXCEPTION_OVERRIDE_REJECTED"
  cosigner : ∀ a ∈ actions, is_cosign a = true → ∃ e, latest_cosign log id = some e ∧
    a.actor = e.changed_by ∧ a.notes = some e.change_reason
  kind : ∀ a ∈ actions, is_resolution a = true →
    latest_sub_type log id = some (.str a.action.value)

/-! ## The steps that leave the history readable -/

/-- A disposition of the record is read as what it was: its event is inserted,
or tells nothing new, and only the recommended action looks like it. -/
structure ReadsAsDisposed (cfg : Config) (st : Step) (log : List AuditEvent) (id : String)
    (r : ChildCase) (action : String) : Prop where
  inserted : ¬ (cfg.store = .database ∧ st.env.audit_insert_ok = false) ∨
    latest_sub_type log id = some (.str (sub_type_of r action).value)
  recommended : ∃ s, text_of "strip" (value_at r.resolution_data.outputs "recommended_action") =
    .ok s ∧ (action ≠ "NO_ACTION" → strip s = strip action → s = action)
  reason_tag : ∃ t, optional_text_field (value_at r.resolution_data.outputs "reason_tag") = .ok t

/-- The state that a replay of the record ends in, when it does not raise. -/
def replay (env : StepEnv) (tenant_id id : String) (r : ChildCase) (api : Api) :
    Option GraphState :=
  match r.original_event with
  | none => none
  | some event =>
    match resolve_state env id { event := event, tenant_id := some tenant_id } api with
    | .ok fin _ => some fin
    | .error _ _ => none

/-- No cosign of the record went through, and it is not resolved. -/
structure NeverDecided (r : ChildCase) : Prop where
  open_yet : is_resolved r = false
  no_cosign : r.resolution_data.cosign = none
  no_rejection : r.resolution_data.cosign_rejection = none

/-- After a replay the resolution of the record reads as before. -/
def ReadsAlike (r : ChildCase) (fin : GraphState) : Prop :=
  if has_envelope r = true then
    is_resolved r = true →
      (resolve_lifecycle fin.final_status = .REJECTED ↔ r.lifecycle_state = .REJECTED)
  else NeverDecided r

/-- The steps after which the human actions of every record with an envelope
can still be read off it. -/
structure LeavesReadable (cfg : Config) (st : Step) (api : Api) : Prop where
  fresh : FreshId st api
  disposition : ∀ id key req r, st.request = .disposition id key req →
    get_record api id st.user.org = some r → has_envelope r = true →
    (r.lifecycle_state ∈ if sub_type_of r req.action = .OVERRIDE then HITL_OVERRIDE_STATES
      else HITL_DISPOSITION_STATES) →
    ReadsAsDisposed cfg st api.audit_log id r req.action
  cosign : ∀ id key req r p, st.request = .cosign id key req →
    get_record api id st.user.org = some r → has_envelope r = true →
    r.lifecycle_state = .PENDING_COSIGN → r.resolution_data.pending_override = some p →
    p.initiator = st.user.sub
  escalate : ∀ id key req r, st.request = .escalate id key req →
    get_record api id st.user.org = some r → has_envelope r = true →
    r.lifecycle_state ∈ ESCALATE_ELIGIBLE_STATES → is_resolved r = false
  challenge : ∀ id reason r, st.request = .challenge id reason →
    get_record api id st.user.org = some r → has_envelope r = true →
    r.lifecycle_state = .RESOLVED → is_resolved r = false
  reanalyze : ∀ id reason r fin, st.request = .reanalyze id reason →
    get_record api id st.user.org = some r → replay st.env st.user.org id r api = some fin →
    has_envelope (reanalyzed_record st.env fin r) = true → ReadsAlike r fin

/-! ## Reading the log -/

section log

variable {cfg : Config} {env : StepEnv} {e : AuditEvent} {log : List AuditEvent} {id : String}

theorem logged_eq (cfg : Config) (env : StepEnv) (e : AuditEvent) (log : List AuditEvent) :
    logged cfg env e log = log ∨ logged cfg env e log = log ++ [e] := by
  unfold logged
  split
  · exact Or.inl rfl
  · exact Or.inr rfl

theorem record_events_concat : record_events (log ++ [e]) id =
    if audit_subject e = some id then record_events log id ++ [e] else record_events log id := by
  unfold record_events
  rw [List.filter_append]
  split <;> rename_i h <;> simp [h]

theorem latest_cosign_logged (h : audit_subject e ≠ some id ∨ e.policy_key ∉ COSIGN_EVENTS) :
    latest_cosign (logged cfg env e log) id = latest_cosign log id := by
  rcases logged_eq cfg env e log with hlog | hlog
  · rw [hlog]
  · unfold latest_cosign
    rw [hlog, record_events_concat]
    split
    · rename_i hsubject
      have hother : e.policy_key ∉ COSIGN_EVENTS := h.resolve_left (not_not_intro hsubject)
      simp [List.filter_append, hother]
    · rfl

theorem latest_sub_type_logged
    (h : audit_subject e ≠ some id ∨ dict.get e.new_value "sub_type" = none) :
    latest_sub_type (logged cfg env e log) id = latest_sub_type log id := by
  rcases logged_eq cfg env e log with hlog | hlog
  · rw [hlog]
  · unfold latest_sub_type
    rw [hlog, record_events_concat]
    split
    · rename_i hsubject
      have hnone : dict.get e.new_value "sub_type" = none := h.resolve_left (not_not_intro hsubject)
      simp [List.filterMap_append, hnone]
    · rfl

theorem latest_sub_type_inserted {v : PyVal} (hsubject : audit_subject e = some id)
    (hv : dict.get e.new_value "sub_type" = some v)
    (hinserted : ¬ (cfg.store = .database ∧ env.audit_insert_ok = false) ∨
      latest_sub_type log id = some v) :
    latest_sub_type (logged cfg env e log) id = some v := by
  have hnew : latest_sub_type (log ++ [e]) id = some v := by
    unfold latest_sub_type
    rw [record_events_concat, if_pos hsubject]
    simp [List.filterMap_append, hv]
  unfold logged
  split
  · rename_i hlost
    exact hinserted.resolve_left (not_not_intro hlost)
  · exact hnew

end log

/-! ## What one request does to the history -/

theorem answered_subject {cfg : Config} {env : StepEnv} {user : AuthenticatedUser} {id : String}
    {r : ChildCase} {ext : External} {ledger : Ledger} {req : Request} {w : Write}
    (h : Answered cfg env user id r ext ledger req w) : audit_subject w.event = some id := by
  cases h with
  | submit_staged | submitted | drafted | deduped | sent | override_staged | disposed
  | cosign_submitted | cosigned | cosign_rejected | escalated | reanalyzed | challenged
  | released => rfl

/-- What the log and a record say about each other, while the history can be
read off the record. -/
structure Told (log : List AuditEvent) (id : String) (r : ChildCase) : Prop where
  no_cosign : r.resolution_data.cosign = none → r.resolution_data.cosign_rejection = none →
    latest_cosign log id = none
  uncosigned : has_envelope r = true →
    r.resolution_data.cosign = none ∧ r.resolution_data.cosign_rejection = none
  settled : has_envelope r = true → is_resolved r = true → r.lifecycle_state ≠ .ESCALATED
  resolution : has_envelope r = true → is_resolved r = true →
    ∃ s t, text_of "strip" (value_at r.resolution_data.outputs "recommended_action") = .ok s ∧
      optional_text_field (value_at r.resolution_data.outputs "reason_tag") = .ok t ∧
      latest_sub_type log id = some (.str (resolution_kind r.lifecycle_state
        (strip (r.resolved_action.getD "")) (strip s)).value)

theorem resolution_kind_congr {l l' : LifecycleState} (chosen recommended : String)
    (hrejected : l' = .REJECTED ↔ l = .REJECTED) (hescalated : l' = .ESCALATED ↔ l = .ESCALATED) :
    resolution_kind l' chosen recommended = resolution_kind l chosen recommended := by
  unfold resolution_kind
  simp only [hrejected, hescalated]

/-- What a request that decides nothing leaves of a record. -/
structure SameDecision (r r' : ChildCase) : Prop where
  intent : r'.intent = r.intent
  outputs : r'.resolution_data.outputs = r.resolution_data.outputs
  cosign : r'.resolution_data.cosign = r.resolution_data.cosign
  cosign_rejection : r'.resolution_data.cosign_rejection = r.resolution_data.cosign_rejection
  resolved_by : r'.resolved_by = r.resolved_by
  resolved_action : r'.resolved_action = r.resolved_action

theorem SameDecision.has_envelope {r r' : ChildCase} (h : SameDecision r r') :
    has_envelope r' = has_envelope r := by
  unfold asoe.has_envelope
  rw [h.intent, h.outputs]

theorem SameDecision.is_resolved {r r' : ChildCase} (h : SameDecision r r') :
    is_resolved r' = is_resolved r := by
  unfold asoe.is_resolved
  rw [h.resolved_by, h.resolved_action]

/-- A request that decides nothing keeps the history readable, when the state
of a resolved record stays on its side of rejected and escalated. -/
theorem Told.same {log log' : List AuditEvent} {id : String} {r r' : ChildCase}
    (h : Told log id r) (hsame : SameDecision r r')
    (hcosign : latest_cosign log' id = latest_cosign log id)
    (hsub : latest_sub_type log' id = latest_sub_type log id)
    (hstate : asoe.has_envelope r = true → asoe.is_resolved r = true →
      (r'.lifecycle_state = .REJECTED ↔ r.lifecycle_state = .REJECTED) ∧
        r'.lifecycle_state ≠ .ESCALATED) :
    Told log' id r' where
  no_cosign hnone hnone' := by
    rw [hcosign]
    exact h.no_cosign (hsame.cosign ▸ hnone) (hsame.cosign_rejection ▸ hnone')
  uncosigned henv := by
    rw [hsame.cosign, hsame.cosign_rejection]
    exact h.uncosigned (hsame.has_envelope ▸ henv)
  settled henv hres := (hstate (hsame.has_envelope ▸ henv) (hsame.is_resolved ▸ hres)).2
  resolution henv hres := by
    rw [hsame.has_envelope] at henv
    rw [hsame.is_resolved] at hres
    obtain ⟨s, t, hs, ht, hlatest⟩ := h.resolution henv hres
    obtain ⟨hrejected, hescalated⟩ := hstate henv hres
    refine ⟨s, t, by rw [hsame.outputs, hs], by rw [hsame.outputs, ht], ?_⟩
    rw [hsub, hlatest, hsame.resolved_action,
      resolution_kind_congr _ _ hrejected (iff_of_false hescalated (h.settled henv hres))]

section answered

variable {cfg : Config} {st : Step} {api : Api} {id : String} {r : ChildCase} {w : Write}

theorem told_of_same (htold : Told api.audit_log id r) (hsame : SameDecision r w.record)
    (hkey : w.event.policy_key ∉ COSIGN_EVENTS)
    (hsub : dict.get w.event.new_value "sub_type" = none)
    (hstate : has_envelope r = true → is_resolved r = true →
      (w.record.lifecycle_state = .REJECTED ↔ r.lifecycle_state = .REJECTED) ∧
        w.record.lifecycle_state ≠ .ESCALATED) :
    Told (logged cfg st.env w.event api.audit_log) id w.record :=
  htold.same hsame (latest_cosign_logged (Or.inr hkey)) (latest_sub_type_logged (Or.inr hsub))
    hstate

theorem sameDecision_stamped {env : StepEnv} {r r' : ChildCase} (h : SameDecision r r') :
    SameDecision r (stamped env r') :=
  ⟨h.intent, h.outputs, h.cosign, h.cosign_rejection, h.resolved_by, h.resolved_action⟩

theorem strip_allowed {action : String} (h : action ∈ ALLOWED_RESOLUTION_ACTIONS) :
    strip action = action ∧ action ≠ "" := by
  have hall : ∀ a ∈ ALLOWED_RESOLUTION_ACTIONS, strip a = a ∧ a ≠ "" := by decide
  exact hall action h

theorem text_of_ok {attr s : String} {v : PyVal} (h : text_of attr v = .ok s) :
    v = .str s ∨ s = "" ∧ ∀ t, v ≠ .str t := by
  cases v with
  | str t =>
    cases h
    exact Or.inl rfl
  | none | bool b | int n | float x | list xs | dict d =>
    refine Or.inr ⟨?_, fun t h => (by cases h)⟩
    unfold text_of at h
    dsimp only at h
    split at h
    · cases h
    · cases h
      rfl

theorem recommended_iff {action s : String} (hblank : action ≠ "")
    (hs : text_of "strip" (value_at r.resolution_data.outputs "recommended_action") = .ok s) :
    recommended_action_of r = some action ↔ s = action := by
  unfold recommended_action_of
  have hread := text_of_ok hs
  unfold value_at at hread
  generalize dict.get r.resolution_data.outputs "recommended_action" = o at hread ⊢
  rcases hread with hstr | ⟨rfl, hother⟩
  · rw [PyVal.ofOption_eq_str.mp hstr]
    exact Option.some_inj
  · refine ⟨fun h => ?_, fun h => absurd h.symm hblank⟩
    split at h
    · exact absurd rfl (hother _)
    · cases h

/-- The kind that is read off the record is the sub-type of the disposition. -/
theorem kind_of_sub_type {action s : String}
    (hallowed : action = "NO_ACTION" ∨ action ∈ ALLOWED_RESOLUTION_ACTIONS)
    (hs : text_of "strip" (value_at r.resolution_data.outputs "recommended_action") = .ok s)
    (hspaces : action ≠ "NO_ACTION" → strip s = strip action → s = action) :
    (resolution_kind (sub_type_of r action).lifecycle (strip action) (strip s)).value =
      (sub_type_of r action).value := by
  by_cases hno : action = "NO_ACTION"
  · subst hno
    rfl
  · obtain ⟨hstrip, hblank⟩ := strip_allowed (hallowed.resolve_left hno)
    unfold sub_type_of
    rw [if_neg hno]
    by_cases hrec : recommended_action_of r = some action
    · have hsame := (recommended_iff hblank hs).mp hrec
      subst hsame
      rw [if_pos hrec, hstrip]
      simp [resolution_kind, SubType.lifecycle, SubType.value, HumanAction.value, hblank]
    · have hother : ¬ (strip action = strip s ∧ strip s ≠ "") := by
        rintro ⟨heq, -⟩
        exact hrec ((recommended_iff hblank hs).mpr (hspaces hno heq.symm))
      rw [if_neg hrec]
      unfold resolution_kind
      rw [if_neg (by decide), if_neg (by decide), if_neg hother]
      rfl

/-- A disposition that takes effect at once. -/
theorem told_of_disposed {key : Option String} {req : DispositionRequest}
    (hst : LeavesReadable cfg st api) (hreq : st.request = .disposition id key req)
    (hget : get_record api id st.user.org = some r)
    (hallowed : req.action = "NO_ACTION" ∨ req.action ∈ ALLOWED_RESOLUTION_ACTIONS)
    (hstate : r.lifecycle_state ∈ if sub_type_of r req.action = .OVERRIDE then HITL_OVERRIDE_STATES
      else HITL_DISPOSITION_STATES) (htold : Told api.audit_log id r) :
    Told (logged cfg st.env (disposed_event st.user id r req (sub_type_of r req.action))
      api.audit_log) id (stamped st.env (disposed_record st.user req (sub_type_of r req.action) r))
    where
  no_cosign hnone hnone' := by
    have hkey : (disposed_event st.user id r req (sub_type_of r req.action)).policy_key ∉
        COSIGN_EVENTS := by simp [disposed_event, COSIGN_EVENTS]
    rw [latest_cosign_logged (Or.inr hkey)]
    exact htold.no_cosign hnone hnone'
  uncosigned henv := htold.uncosigned henv
  settled _ _ := by
    show (sub_type_of r req.action).lifecycle ≠ .ESCALATED
    cases sub_type_of r req.action <;> decide
  resolution henv _ := by
    obtain ⟨hinserted, ⟨s, hs, hspaces⟩, t, ht⟩ :=
      hst.disposition id key req r hreq hget henv hstate
    refine ⟨s, t, hs, ht, ?_⟩
    rw [latest_sub_type_inserted rfl rfl hinserted, ← kind_of_sub_type hallowed hs hspaces]
    rfl

theorem told_of_no_envelope (htold : Told api.audit_log id r)
    (henv : has_envelope w.record = false)
    (hcosign : w.record.resolution_data.cosign = none →
      w.record.resolution_data.cosign_rejection = none →
      (r.resolution_data.cosign = none ∧ r.resolution_data.cosign_rejection = none) ∧
        w.event.policy_key ∉ COSIGN_EVENTS) :
    Told (logged cfg st.env w.event api.audit_log) id w.record where
  no_cosign hnone hnone' := by
    obtain ⟨⟨h, h'⟩, hkey⟩ := hcosign hnone hnone'
    rw [latest_cosign_logged (Or.inr hkey)]
    exact htold.no_cosign h h'
  uncosigned h := absurd h (by simp [henv])
  settled h := absurd h (by simp [henv])
  resolution h := absurd h (by simp [henv])

/-- What a disposition that is not refused has checked of its action. -/
structure AcceptedAction (r : ChildCase) (action : String) : Prop where
  allowed : action = "NO_ACTION" ∨ action ∈ ALLOWED_RESOLUTION_ACTIONS
  order_entry : action ∈ ["SUBMIT_TO_ERP", "DRAFT_REPLY", "SEND_REPLY"] →
    r.intent = some .MANUAL_ORDER_INTAKE

theorem AcceptedAction.no_envelope {action : String} (h : AcceptedAction r action)
    (haction : action ∈ ["SUBMIT_TO_ERP", "DRAFT_REPLY", "SEND_REPLY"]) :
    has_envelope r = false := by
  unfold has_envelope
  rw [h.order_entry haction]
  rfl

/-- What the replay of a record left of it. -/
structure ReplayedTo (st : Step) (api : Api) (id : String) (r r' : ChildCase) (fin : GraphState) :
    Prop where
  ran : replay st.env st.user.org id r api = some fin
  intent : r'.intent = some fin.intent
  lifecycle_state : r'.lifecycle_state = resolve_lifecycle fin.final_status

theorem resolve_lifecycle_ne_escalated (final_status : Option TerminalStatus) :
    resolve_lifecycle final_status ≠ .ESCALATED := by
  cases final_status with
  | none => simp [resolve_lifecycle]
  | some status => cases status <;> simp [resolve_lifecycle, STATUS_TO_LIFECYCLE]

theorem told_of_reanalyzed {reason : String} {nodes : List ExecutedNode} {fin fin' : GraphState}
    {ext' : External} (hst : LeavesReadable cfg st api) (hreq : st.request = .reanalyze id reason)
    (hget : get_record api id st.user.org = some r) (htold : Told api.audit_log id r)
    (hreplayed : ReplayedTo st api id r
      (reanalyzeWrite st.env st.user id r reason nodes fin' ext').record fin) :
    Told (logged cfg st.env (reanalyzeWrite st.env st.user id r reason nodes fin' ext').event
      api.audit_log) id (reanalyzeWrite st.env st.user id r reason nodes fin' ext').record := by
  have hcosign : latest_cosign (logged cfg st.env
      (reanalyzeWrite st.env st.user id r reason nodes fin' ext').event api.audit_log) id =
        latest_cosign api.audit_log id :=
    latest_cosign_logged (Or.inr (by simp [reanalyzeWrite, reanalyzed_event, COSIGN_EVENTS]))
  have hsub : latest_sub_type (logged cfg st.env
      (reanalyzeWrite st.env st.user id r reason nodes fin' ext').event api.audit_log) id =
        latest_sub_type api.audit_log id := latest_sub_type_logged (Or.inr rfl)
  have hdata : (reanalyzeWrite st.env st.user id r reason nodes fin' ext').record.resolution_data =
    r.resolution_data := rfl
  have hresolved : is_resolved (reanalyzeWrite st.env st.user id r reason nodes fin' ext').record =
    is_resolved r := rfl
  have haction :
      (reanalyzeWrite st.env st.user id r reason nodes fin' ext').record.resolved_action =
        r.resolved_action := rfl
  generalize (reanalyzeWrite st.env st.user id r reason nodes fin' ext').record = r' at *
  generalize logged cfg st.env _ api.audit_log = log' at *
  have halike : has_envelope r' = true → ReadsAlike r fin := by
    intro henv
    refine hst.reanalyze id reason r fin hreq hget hreplayed.ran ?_
    unfold has_envelope at henv ⊢
    rwa [hreplayed.intent, hdata] at henv
  unfold ReadsAlike at halike
  refine ⟨?_, ?_, ?_, ?_⟩
  · intro hnone hnone'
    rw [hdata] at hnone hnone'
    rw [hcosign]
    exact htold.no_cosign hnone hnone'
  · intro henv
    have h := halike henv
    rw [hdata]
    split at h
    · rename_i hbefore
      exact htold.uncosigned hbefore
    · exact ⟨h.no_cosign, h.no_rejection⟩
  · intro _ _
    rw [hreplayed.lifecycle_state]
    exact resolve_lifecycle_ne_escalated _
  · intro henv hres
    have h := halike henv
    rw [hresolved] at hres
    split at h
    · rename_i hbefore
      obtain ⟨s, t, hs, ht, hlatest⟩ := htold.resolution hbefore hres
      rw [hdata, haction, hsub, hlatest, hreplayed.lifecycle_state]
      refine ⟨s, t, hs, ht, ?_⟩
      rw [resolution_kind_congr _ _ (h hres)
        (iff_of_false (resolve_lifecycle_ne_escalated _) (htold.settled hbefore hres))]
    · rw [h.open_yet] at hres
      cases hres

theorem submitWrite_facts (cfg : Config) (st : Step) (id : String) (r : ChildCase)
    (result : GraphState) (submitter notes : String)
    (cosign : Option CosignMeta) (ext' : External) :
    let w := submitWrite cfg st.env st.user id r result submitter notes cosign ext'
    (has_envelope w.record = has_envelope r ∧
      w.record.resolution_data.cosign = cosign.or r.resolution_data.cosign ∧
      w.record.resolution_data.cosign_rejection = r.resolution_data.cosign_rejection) ∧
      w.event.policy_key ∉ COSIGN_EVENTS := by
  constructor
  · simp only [submitWrite, stamped, submitted_record]
    split <;> exact ⟨rfl, rfl, rfl⟩
  · simp only [submitWrite, erp_submit_event]
    split <;> decide

theorem LeavesReadable.no_envelope {key : Option String} {req : CosignRequest}
    {p : PendingOverride} (hst : LeavesReadable cfg st api) (hreq : st.request = .cosign id key req)
    (hget : get_record api id st.user.org = some r) (hstate : r.lifecycle_state = .PENDING_COSIGN)
    (hpending : r.resolution_data.pending_override = some p) (hother : p.initiator ≠ st.user.sub) :
    has_envelope r = false := by
  cases henv : has_envelope r with
  | true => exact absurd (hst.cosign id key req r p hreq hget henv hstate hpending) hother
  | false => rfl

/-- A readable step keeps the history of the record that it is about readable. -/
theorem told_of_answered (hst : LeavesReadable cfg st api)
    (hget : get_record api id st.user.org = some r) (htold : Told api.audit_log id r)
    (haccepted : ∀ key req, st.request = .disposition id key req → AcceptedAction r req.action)
    (hreplayed : ∀ reason, st.request = .reanalyze id reason →
      w.record = r ∨ ∃ fin, ReplayedTo st api id r w.record fin)
    (h : Answered cfg st.env st.user id r api.external api.delivery_dedup st.request w) :
    Told (logged cfg st.env w.event api.audit_log) id w.record := by
  generalize hreq : st.request = request at h
  cases h with
  | submit_staged key req m haction =>
    have henv := (haccepted key req hreq).no_envelope (by simp [haction])
    exact told_of_no_envelope htold henv fun h h' => ⟨⟨h, h'⟩,
      by simp [stageWrite, submit_staged_event, COSIGN_EVENTS]⟩
  | submitted key req m result ext' haction =>
    have henv := (haccepted key req hreq).no_envelope (by simp [haction])
    obtain ⟨⟨hsame, hcosign, hrejection⟩, hkey⟩ := submitWrite_facts cfg st id r result
      st.user.sub req.notes none ext'
    refine told_of_no_envelope htold (hsame.trans henv) fun h h' => ⟨⟨?_, ?_⟩, hkey⟩
    · rwa [hcosign] at h
    · rwa [hrejection] at h'
  | drafted key req result ext' haction =>
    have henv := (haccepted key req hreq).no_envelope (by simp [haction])
    refine told_of_no_envelope htold henv fun h h' => ⟨⟨h, h'⟩, ?_⟩
    simp only [draftWrite, reply_draft_event, reply_draft_policy_key]
    split
    · decide
    · split <;> decide
  | deduped key req preview ext' dkey haction =>
    have henv := (haccepted key req hreq).no_envelope (by simp [haction])
    exact told_of_no_envelope htold henv fun h h' => ⟨⟨h, h'⟩,
      by simp [reply_deduped_event, COSIGN_EVENTS]⟩
  | sent key req preview ext' result ext'' dkey haction =>
    have henv := (haccepted key req hreq).no_envelope (by simp [haction])
    refine told_of_no_envelope htold henv fun h h' => ⟨⟨h, h'⟩, ?_⟩
    simp only [sendWrite, reply_sent_event]
    split <;> decide
  | override_staged key req m haction hsend hstate =>
    refine told_of_same htold (sameDecision_stamped ⟨rfl, rfl, rfl, rfl, rfl, rfl⟩)
      (by simp [override_staged_event, COSIGN_EVENTS]) rfl fun _ _ => ⟨?_, by
        simp [stamped, parked_record]⟩
    refine iff_of_false (by simp [stamped, parked_record]) ?_
    rintro hrejected
    rw [hrejected] at hstate
    exact absurd hstate (by decide)
  | disposed key req haction hsend hstate =>
    exact told_of_disposed hst hreq hget (haccepted key req hreq).allowed hstate htold
  | cosign_submitted key req p result ext' happrove haction hstate hpending hother =>
    have henv := hst.no_envelope hreq hget hstate hpending hother
    obtain ⟨⟨hsame, hcosign, -⟩, -⟩ := submitWrite_facts cfg st id r result
      p.initiator req.notes (some (cosign_meta st.env st.user req p)) ext'
    refine told_of_no_envelope htold (hsame.trans henv) fun h _ => ?_
    rw [hcosign] at h
    cases h
  | cosigned key req p happrove haction hstate hpending hother =>
    have henv := hst.no_envelope hreq hget hstate hpending hother
    exact told_of_no_envelope htold henv fun h _ => (by cases h)
  | cosign_rejected key req p happrove hstate hpending hother =>
    have henv := hst.no_envelope hreq hget hstate hpending hother
    exact told_of_no_envelope htold henv fun _ h => (by cases h)
  | escalated key req hstate =>
    refine told_of_same htold (sameDecision_stamped ⟨rfl, rfl, rfl, rfl, rfl, rfl⟩)
      (by simp [escalated_event, COSIGN_EVENTS]) rfl fun henv hres => ?_
    rw [hst.escalate id key req r hreq hget henv hstate] at hres
    cases hres
  | reanalyzed reason event fin nodes ext' hstate =>
    rcases hreplayed reason hreq with hsame | ⟨fin₁, hran⟩
    · refine told_of_same htold ?_ (by simp [reanalyzeWrite, reanalyzed_event, COSIGN_EVENTS]) rfl
        fun henv hres => ?_
      · rw [hsame]
        exact ⟨rfl, rfl, rfl, rfl, rfl, rfl⟩
      · rw [hsame]
        exact ⟨Iff.rfl, htold.settled henv hres⟩
    · exact told_of_reanalyzed hst hreq hget htold hran
  | challenged reason hstate =>
    refine told_of_same htold (sameDecision_stamped ⟨rfl, rfl, rfl, rfl, rfl, rfl⟩)
      (by simp [challenge_event, COSIGN_EVENTS]) rfl fun henv hres => ?_
    rw [hst.challenge id reason r hreq hget henv hstate] at hres
    cases hres
  | released reason risk hstate =>
    refine told_of_same htold (sameDecision_stamped ⟨rfl, rfl, rfl, rfl, rfl, rfl⟩)
      (by simp [admin_release_event, COSIGN_EVENTS]) rfl fun _ _ => ⟨?_, by
        simp [stamped, released_record]⟩
    exact iff_of_false (by simp [stamped, released_record]) (by simp [hstate])

end answered

end asoe
