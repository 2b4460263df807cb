-- What a request does to the cases: it leaves them alone, opens one, or
-- rolls the parent case of the record up that it has just written.
import Asoe.CaseStore

namespace asoe

open py prog runs

/-! ## One roll-up -/

/-- The error of a case that may not be closed. -/
def triage_block (case_id : String) : ApiError :=
  .raised ⟨"NeedsTriageCloseBlocked", "Case " ++ case_id ++ " is in SG_NEEDS_TRIAGE and cannot "
    ++ "be RESOLVED without reclassification (requirements §8.2)."⟩

/-- When a case was closed that gets this status: it keeps the time that it
has, and a status that is open takes the time away. -/
def closed_after (env : StepEnv) (case : OrderCase) (status : CaseStatus) : Option String :=
  if status ∈ TERMINAL_CASE_STATUSES then some (case.closed_at.getD env.now_iso) else none

/-- The cases after a roll-up. -/
inductive Rolled (cfg : Config) (env : StepEnv) (api : Api) (tenant case_id : String)
    (incoming : List LifecycleState) (cases' : List (String × OrderCase)) : Prop where
  | unmoved (hkeeps : KeepsStatus cfg api tenant case_id incoming) (hcases : cases' = api.cases)
  | moved (case : OrderCase) (status : CaseStatus) (hcase : dict.get api.cases case_id = some case)
      (hunparked : case.pending_override = none)
      (hstatus : rolled_up_status cfg api tenant case_id incoming = some status)
      (hother : status ≠ case.status)
      (hfree : ¬ (status = .RESOLVED ∧ case.supergroup_code = some SG_NEEDS_TRIAGE))
      (hcases : cases' = dict.set api.cases case_id
        { case with status := status, closed_at := closed_after env case status })

/-- A roll-up reads the records and the cases only. -/
theorem Rolled.congr {cfg : Config} {env : StepEnv} {api₁ api₂ : Api} {tenant case_id : String}
    {incoming : List LifecycleState} {cases' : List (String × OrderCase)}
    (h : Rolled cfg env api₁ tenant case_id incoming cases')
    (hrecords : api₁.records = api₂.records) (hsame : api₁.cases = api₂.cases) :
    Rolled cfg env api₂ tenant case_id incoming cases' := by
  have hroll : rolled_up_status cfg api₁ tenant case_id incoming =
      rolled_up_status cfg api₂ tenant case_id incoming := by
    unfold rolled_up_status list_by_case
    rw [hrecords]
  cases h with
  | unmoved hkeeps hcases =>
    refine .unmoved ?_ (hcases.trans hsame)
    unfold KeepsStatus at hkeeps ⊢
    rwa [← hsame, ← hroll]
  | moved case status hcase hunparked hstatus hother hfree hcases =>
    exact .moved case status (hsame ▸ hcase) hunparked (hroll ▸ hstatus) hother hfree
      (hsame ▸ hcases)

/-- The roll-up would close a case that needs triage. -/
def RollUpBlocked (cfg : Config) (api : Api) (tenant case_id : String)
    (incoming : List LifecycleState) : Prop :=
  ∃ case, dict.get api.cases case_id = some case ∧ case.pending_override = none ∧
    rolled_up_status cfg api tenant case_id incoming = some .RESOLVED ∧
    case.status ≠ .RESOLVED ∧ case.supergroup_code = some SG_NEEDS_TRIAGE

section rollup

variable {cfg : Config} {env : StepEnv} {tenant case_id : String}

theorem wp_recompute_exactly {incoming : List LifecycleState} {api : Api} :
    wp (recompute_case_status cfg env tenant case_id incoming)
      (fun _ api' => ∃ cases, Rolled cfg env api tenant case_id incoming cases ∧
        api' = { api with cases := cases })
      (fun e api' => api' = api ∧ e = triage_block case_id ∧
        RollUpBlocked cfg api tenant case_id incoming) api := by
  have hunmoved : KeepsStatus cfg api tenant case_id incoming →
      ∃ cases, Rolled cfg env api tenant case_id incoming cases ∧ api = { api with cases := cases } :=
    fun h => ⟨api.cases, .unmoved h rfl, rfl⟩
  unfold recompute_case_status
  rw [wp_bind, wp_get]
  rcases hcase : dict.get api.cases case_id with _ | case
  · refine hunmoved fun case h => ?_
    cases hcase.symm.trans h
  dsimp only
  rw [wp_ite]
  refine ⟨fun hparked => hunmoved fun case' h hnone => ?_, fun hfree => ?_⟩
  · cases hcase.symm.trans h
    simp [hnone] at hparked
  have hunparked : case.pending_override = none := by simpa using hfree
  rcases hroll : rolled_up_status cfg api tenant case_id incoming with _ | status
  · have hroll' := hroll
    unfold rolled_up_status at hroll'
    rw [hroll']
    refine hunmoved fun case' _ _ status h => ?_
    cases hroll.symm.trans h
  have hroll' := hroll
  unfold rolled_up_status at hroll'
  rw [hroll']
  dsimp only
  rw [wp_ite]
  refine ⟨fun hsame => hunmoved fun case' h _ status' h' => ?_, fun hother => ?_⟩
  · cases hcase.symm.trans h
    cases hroll.symm.trans h'
    exact hsame
  have hupdate : ∀ closed_at, closed_at = closed_after env case status →
      wp (update_case_status case_id case status closed_at)
        (fun _ api' => ∃ cases, Rolled cfg env api tenant case_id incoming cases ∧
          api' = { api with cases := cases })
        (fun e api' => api' = api ∧ e = triage_block case_id ∧
          RollUpBlocked cfg api tenant case_id incoming) api := by
    rintro _ rfl
    unfold update_case_status
    rw [wp_bind, wp_require]
    refine ⟨fun hopen => ⟨_, .moved case status hcase hunparked hroll hother hopen rfl, rfl⟩,
      fun hblocked => ?_⟩
    obtain ⟨rfl, htriage⟩ := not_not.mp hblocked
    exact ⟨rfl, rfl, case, hcase, hunparked, hroll, fun h => hother h.symm, htriage⟩
  rw [wp_ite]
  refine ⟨fun hterminal => hupdate _ ?_, fun hopen => hupdate _ ?_⟩
  · rw [closed_after, if_pos hterminal]
  · rw [closed_after, if_neg hopen]

/-- The parent case of a record, as the roll-up takes it. -/
def ChildCase.parent (r : ChildCase) : Option String := r.parent_case_id.filter (· ≠ "")

/-- The cases after the parent of a record was rolled up, when it has one. -/
def RolledParent (cfg : Config) (env : StepEnv) (api : Api) (tenant : String) (r : ChildCase)
    (cases : List (String × OrderCase)) : Prop :=
  match r.parent with
  | none => cases = api.cases
  | some case_id => Rolled cfg env api tenant case_id [] cases

theorem RolledParent.congr {api₁ api₂ : Api} {r : ChildCase} {cases' : List (String × OrderCase)}
    (h : RolledParent cfg env api₁ tenant r cases') (hrecords : api₁.records = api₂.records)
    (hsame : api₁.cases = api₂.cases) : RolledParent cfg env api₂ tenant r cases' := by
  unfold RolledParent at h ⊢
  rcases hparent : r.parent with _ | case_id
  · rw [hparent] at h
    exact h.trans hsame
  · rw [hparent] at h
    exact Rolled.congr h hrecords hsame

theorem wp_reaggregate_exactly {r : ChildCase} {api : Api} :
    wp (reaggregate_parent_case cfg env tenant r)
      (fun _ api' => ∃ cases, RolledParent cfg env api tenant r cases ∧
        api' = { api with cases := cases })
      (fun e api' => api' = api ∧ ∃ case_id, r.parent = some case_id ∧
        e = triage_block case_id ∧ RollUpBlocked cfg api tenant case_id []) api := by
  unfold reaggregate_parent_case RolledParent ChildCase.parent
  rcases r.parent_case_id with _ | case_id
  · exact ⟨api.cases, rfl, rfl⟩
  dsimp only
  rw [wp_ite]
  refine ⟨fun hempty => ?_, fun hsome => ?_⟩
  · subst hempty
    exact ⟨api.cases, rfl, rfl⟩
  · have hfilter : (some case_id).filter (· ≠ "") = some case_id := by simp [hsome]
    rw [hfilter]
    refine wp_mono wp_recompute_exactly (fun _ _ h => h) ?_
    rintro e api' ⟨rfl, he, hblocked⟩
    exact ⟨rfl, case_id, rfl, he, hblocked⟩

end rollup

/-! ## CasesOpened cases -/

/-- Every case is still there, and what is new was just opened for the
tenant. -/
structure CasesOpened (tenant : String) (cases cases' : List (String × OrderCase)) : Prop where
  kept : ∀ id case, dict.get cases id = some case → dict.get cases' id = some case
  fresh : ∀ id case, dict.get cases' id = some case → dict.get cases id = some case ∨
    dict.get cases id = none ∧ case.status = .OPEN_AGENT_PROCESSING ∧
      case.pending_override = none ∧ case.closed_at = none ∧ case.tenant_id = tenant

theorem CasesOpened.refl (tenant : String) (cases : List (String × OrderCase)) :
    CasesOpened tenant cases cases := ⟨fun _ _ h => h, fun _ _ h => Or.inl h⟩

theorem CasesOpened.trans {tenant : String} {c₁ c₂ c₃ : List (String × OrderCase)}
    (h : CasesOpened tenant c₁ c₂) (h' : CasesOpened tenant c₂ c₃) : CasesOpened tenant c₁ c₃ := by
  refine ⟨fun id case hid => h'.kept id case (h.kept id case hid), fun id case hid => ?_⟩
  rcases h'.fresh id case hid with hold | ⟨hnone, hnew⟩
  · exact h.fresh id case hold
  · refine Or.inr ⟨?_, hnew⟩
    rcases hid : dict.get c₁ id with _ | case'
    · rfl
    · cases hnone.symm.trans (h.kept id case' hid)

/-- The case store finds a case of the tenant for an event, or opens one. -/
def OpensOrFinds (env : StepEnv) (tenant : String) : Prop :=
  ∀ event cases, returns (env.lookup_or_create event cases) fun opened =>
    CasesOpened tenant cases opened.1 ∧ dict.get opened.1 opened.2.case_id = some opened.2 ∧
      opened.2.tenant_id = tenant

/-! ## Writes that leave the cases alone -/

abbrev KeepsCases {α : Type} (x : ApiM α) : Prop := keeps Api.cases x

section frames

variable {cfg : Config} {env : StepEnv} {user : AuthenticatedUser} {id tenant : String}
  {r : ChildCase}

theorem keepsCases_update_record {message : String} {fields : ChildCase → ChildCase} :
    KeepsCases (update_record env id tenant message fields) := by
  intro api
  unfold update_record
  rw [wp_bind, wp_get]
  split <;> rfl

theorem keepsCases_log (event : AuditEvent) :
    KeepsCases (modify (log_audit_event cfg env event) : ApiM PUnit) :=
  keeps_modify fun api => by rw [log_audit_event_eq]

theorem keepsCases_write {α : Type} {message : String} {fields : ChildCase → ChildCase}
    {event : ChildCase → AuditEvent} {answer : ChildCase → α} :
    KeepsCases (do
      let updated ← update_record env id tenant message fields
      modify (log_audit_event cfg env (event updated))
      return answer updated) :=
  keeps_bind keepsCases_update_record fun _ => keeps_bind (keepsCases_log _) fun _ => keeps_pure _

theorem keepsCases_run_directed {run_env : RunEnv} {recipe : RecipeName} {params : PyDict} :
    KeepsCases (run_directed run_env id tenant r recipe params) := by
  unfold run_directed
  split
  · exact keeps_throw _
  · exact keeps_zoom fun _ _ => rfl

variable {req : DispositionRequest}

theorem keepsCases_require_order_entry {code applies no_order action : String} :
    KeepsCases (require_order_entry r req code applies no_order action) :=
  keeps_bind (keeps_require _ _) fun _ => keeps_bind (keeps_require _ _) fun _ =>
    keeps_bind (keeps_require _ _) fun _ => keeps_require _ _

theorem keepsCases_disposition_erp_submit :
    KeepsCases (disposition_erp_submit cfg env user id r req) := by
  refine keeps_bind keepsCases_require_order_entry fun _ => ?_
  refine keeps_bind (keeps_ofExcept _) fun materiality => keeps_ite ?_ ?_
  · exact keeps_bind keepsCases_write fun _ => keeps_pure _
  · refine keeps_bind keepsCases_run_directed fun result => keeps_bind ?_ fun _ => keeps_pure _
    exact keepsCases_write

theorem keepsCases_disposition_draft_reply :
    KeepsCases (disposition_draft_reply cfg env user id r req) := by
  refine keeps_bind keepsCases_require_order_entry fun _ => ?_
  refine keeps_bind keepsCases_run_directed fun result => keeps_bind ?_ fun _ => keeps_pure _
  exact keepsCases_write

theorem keepsCases_send_reply : KeepsCases (send_reply cfg env user id r req) := by
  refine keeps_bind keepsCases_run_directed fun result => keeps_bind ?_ fun _ => keeps_pure _
  refine keeps_bind (keeps_ofExcept _) fun dkey => ?_
  refine keeps_bind (keeps_modify fun api => ?_) fun _ => keepsCases_write
  split <;> rfl

theorem keepsCases_disposition_send_reply :
    KeepsCases (disposition_send_reply cfg env user id r req) := by
  refine keeps_bind keepsCases_require_order_entry fun _ => ?_
  refine keeps_bind keepsCases_run_directed fun preview => ?_
  refine keeps_bind (keeps_ofExcept _) fun dkey => keeps_bind keeps_get fun api => ?_
  split
  · exact keeps_bind (keepsCases_log _) fun _ => keeps_bind keeps_get fun _ => keeps_pure _
  · exact keepsCases_send_reply

end frames

/-! ## Failures before the record is written -/

/-- A program that raises has not touched the records. -/
def FailsUnwritten {α : Type} (x : ApiM α) : Prop :=
  ∀ api, wp x (fun _ _ => True) (fun _ api' => api'.records = api.records) api

section unwritten

variable {cfg : Config} {env : StepEnv} {user : AuthenticatedUser} {id tenant : String}
  {r : ChildCase}

theorem failsUnwritten_bind {α β : Type} {x : ApiM α} {f : α → ApiM β} (hx : keeps Api.records x)
    (hf : ∀ a, FailsUnwritten (f a)) : FailsUnwritten (x >>= f) := by
  intro api
  rw [wp_bind]
  refine wp_mono (hx api) (fun a api₁ hkept => ?_) fun _ _ h => h
  exact wp_mono (hf a api₁) (fun _ _ h => h) fun _ _ h => h.trans hkept

theorem failsUnwritten_write {α : Type} {message : String} {fields : ChildCase → ChildCase}
    {event : ChildCase → AuditEvent} {answer : ChildCase → α} :
    FailsUnwritten (do
      let updated ← update_record env id tenant message fields
      modify (log_audit_event cfg env (event updated))
      return answer updated) := by
  intro api
  unfold update_record
  rw [wp_bind, wp_bind, wp_get]
  split
  · trivial
  · rfl

theorem keepsRecords_run_directed {run_env : RunEnv} {recipe : RecipeName} {params : PyDict} :
    keeps Api.records (run_directed run_env id tenant r recipe params) := by
  unfold run_directed
  split
  · exact keeps_throw _
  · exact keeps_zoom fun _ _ => rfl

variable {req : DispositionRequest}

theorem keepsRecords_require_order_entry {code applies no_order action : String} :
    keeps Api.records (require_order_entry r req code applies no_order action) :=
  keeps_bind (keeps_require _ _) fun _ => keeps_bind (keeps_require _ _) fun _ =>
    keeps_bind (keeps_require _ _) fun _ => keeps_require _ _

theorem failsUnwritten_answer {α β : Type} {x : ApiM α} {answer : α → β} (hx : FailsUnwritten x) :
    FailsUnwritten (do
      let a ← x
      return answer a) := by
  intro api
  rw [wp_bind]
  exact wp_mono (hx api) (fun _ _ _ => trivial) fun _ _ h => h

theorem failsUnwritten_disposition_erp_submit :
    FailsUnwritten (disposition_erp_submit cfg env user id r req) := by
  refine failsUnwritten_bind keepsRecords_require_order_entry fun _ => ?_
  refine failsUnwritten_bind (keeps_ofExcept _) fun materiality => ?_
  split
  · exact failsUnwritten_answer failsUnwritten_write
  · exact failsUnwritten_bind keepsRecords_run_directed fun result =>
      failsUnwritten_answer failsUnwritten_write

theorem failsUnwritten_disposition_draft_reply :
    FailsUnwritten (disposition_draft_reply cfg env user id r req) := by
  refine failsUnwritten_bind keepsRecords_require_order_entry fun _ => ?_
  exact failsUnwritten_bind keepsRecords_run_directed fun result =>
    failsUnwritten_answer failsUnwritten_write

theorem failsUnwritten_send_reply : FailsUnwritten (send_reply cfg env user id r req) := by
  refine failsUnwritten_bind keepsRecords_run_directed fun result => failsUnwritten_answer ?_
  refine failsUnwritten_bind (keeps_ofExcept _) fun dkey => ?_
  refine failsUnwritten_bind (keeps_modify fun api => ?_) fun _ => failsUnwritten_write
  split <;> rfl

theorem failsUnwritten_disposition_send_reply :
    FailsUnwritten (disposition_send_reply cfg env user id r req) := by
  refine failsUnwritten_bind keepsRecords_require_order_entry fun _ => ?_
  refine failsUnwritten_bind keepsRecords_run_directed fun preview => ?_
  refine failsUnwritten_bind (keeps_ofExcept _) fun dkey => failsUnwritten_bind keeps_get fun api => ?_
  split
  · exact fun _ => trivial
  · exact failsUnwritten_send_reply

end unwritten

/-! ## The cases after a handler -/

/-- The impact that a second reviewer has to look at. -/
def needs_second_reviewer (r : ChildCase) : Bool :=
  match cosign_materiality_usd r with
  | .ok m => is_high_value m
  | .error _ => false

/-- The request ends in a roll-up of the parent case when it is carried out. -/
def rolls_up (r : ChildCase) : Request → Bool
  | .disposition _ _ req =>
    decide (req.action ∉ ["SUBMIT_TO_ERP", "DRAFT_REPLY", "SEND_REPLY"]) &&
      !(decide (sub_type_of r req.action = .OVERRIDE) && needs_second_reviewer r)
  | .cosign _ _ req =>
    !(req.approve &&
      decide ((r.resolution_data.pending_override.map (·.action)) = some "SUBMIT_TO_ERP"))
  | .escalate .. | .reanalyze .. | .challenge .. | .admin_release .. => true
  | .resolve .. | .reconcile .. => false

/-- The request is an override that is parked for a second reviewer. -/
def stages_override (r : ChildCase) : Request → Bool
  | .disposition _ _ req =>
    decide (req.action ∉ ["SUBMIT_TO_ERP", "DRAFT_REPLY", "SEND_REPLY"]) &&
      (decide (sub_type_of r req.action = .OVERRIDE) && needs_second_reviewer r)
  | _ => false

section followed

variable (cfg : Config) (env : StepEnv) (tenant : String) (r : ChildCase) (req : Request)

/-- What a handler that answered did to the cases: nothing, or its last step
rolled the parent of the record up. -/
inductive Followed (id : String) (api api' : Api) : Prop where
  | alone (hroll : rolls_up r req = false) (hcases : api'.cases = api.cases)
      (hstaged : stages_override r req = true → ∀ record, dict.get api'.records id = some record →
        record.lifecycle_state = .PENDING_COSIGN)
  | rolled (hroll : rolls_up r req = true) (opened : List (String × OrderCase))
      (hopened : CasesOpened tenant api.cases opened)
      (hcases : RolledParent cfg env { api' with cases := opened } tenant r api'.cases)

/-- What a handler that raised did to the cases: it had not come to the
roll-up, or the roll-up was refused. -/
inductive Unfollowed (e : ApiError) (api api' : Api) : Prop where
  | unwritten (hrecords : api'.records = api.records)
      (hopened : CasesOpened tenant api.cases api'.cases)
  | blocked (case_id : String) (hroll : rolls_up r req = true)
      (hopened : CasesOpened tenant api.cases api'.cases) (hparent : r.parent = some case_id)
      (he : e = triage_block case_id) (hblocked : RollUpBlocked cfg api' tenant case_id [])

end followed

section handlers

variable {cfg : Config} {env : StepEnv} {user : AuthenticatedUser} {id : String} {r : ChildCase}
  {req : Request} {api : Api}

theorem unfollowed_idle (e : ApiError) : Unfollowed cfg user.org r req e api api :=
  .unwritten rfl (CasesOpened.refl _ _)

theorem wp_alone {α : Type} {x : ApiM α} (hroll : rolls_up r req = false)
    (hstaged : stages_override r req = false) (hx : KeepsCases x) (hfails : FailsUnwritten x) :
    wp x (fun _ api' => Followed cfg env user.org r req id api api')
      (fun e api' => Unfollowed cfg user.org r req e api api') api := by
  refine wp_mono (wp_and (hx api) (hfails api)) (fun _ _ h => ?_) fun e api' h => ?_
  · exact .alone hroll h.1 fun hstages => by cases hstaged.symm.trans hstages
  · exact .unwritten h.2 (h.1 ▸ CasesOpened.refl _ _)

/-- The tail of a handler that moved the record. -/
theorem wp_followed {α : Type} {updated : ChildCase} {answer : α} {api₁ : Api}
    (hroll : rolls_up r req = true) (hparent : updated.parent_case_id = r.parent_case_id)
    (hopened : CasesOpened user.org api.cases api₁.cases) :
    wp (do
        reaggregate_parent_case cfg env user.org updated
        return answer)
      (fun _ api' => Followed cfg env user.org r req id api api')
      (fun e api' => Unfollowed cfg user.org r req e api api') api₁ := by
  have hsame : updated.parent = r.parent := by rw [ChildCase.parent, ChildCase.parent, hparent]
  rw [wp_bind]
  refine wp_mono wp_reaggregate_exactly ?_ ?_
  · rintro - api' ⟨cases, hrolled, rfl⟩
    unfold RolledParent at hrolled
    rw [hsame] at hrolled
    exact .rolled hroll api₁.cases hopened hrolled
  · rintro e api' ⟨rfl, case_id, hcase, he, hblocked⟩
    exact .blocked case_id hroll hopened (hsame ▸ hcase) he hblocked

theorem cases_counted (api : Api) :
    (record_reviewer_override_of_llm_downgrade id api).cases = api.cases := by
  obtain ⟨n, hn⟩ := record_reviewer_override_eq id api
  rw [hn]

theorem opened_written {event : AuditEvent} {record : ChildCase} :
    CasesOpened user.org api.cases (log_audit_event cfg env event (put_record api id record)).cases := by
  rw [log_audit_event_eq]
  exact CasesOpened.refl _ _

variable {key : Option String}

theorem wp_apply_disposition_cases {dreq : DispositionRequest}
    {sub_type : SubType} (hget : get_record api id user.org = some r)
    (hroll : rolls_up r (.disposition id key dreq) = true) :
    wp (apply_disposition cfg env user id r dreq sub_type)
      (fun _ api' => Followed cfg env user.org r (.disposition id key dreq) id api api')
      (fun e api' => Unfollowed cfg user.org r (.disposition id key dreq) e api api') api := by
  unfold apply_disposition
  rw [wp_bind]
  refine wp_update_record hget ?_
  rw [wp_bind, wp_modify, wp_bind, wp_modify]
  refine wp_followed hroll rfl ?_
  split
  · rw [cases_counted]
    exact opened_written
  · exact opened_written

theorem wp_override_exception_cases {dreq : DispositionRequest}
    (hget : get_record api id user.org = some r)
    (haction : dreq.action ∉ ["SUBMIT_TO_ERP", "DRAFT_REPLY", "SEND_REPLY"])
    (hsub : sub_type_of r dreq.action = .OVERRIDE) :
    wp (override_exception cfg env user id r dreq)
      (fun _ api' => Followed cfg env user.org r (.disposition id key dreq) id api api')
      (fun e api' => Unfollowed cfg user.org r (.disposition id key dreq) e api api') api := by
  have hidle : ∀ e, Unfollowed cfg user.org r (.disposition id key dreq) e api api := unfollowed_idle
  unfold override_exception
  simp only [wp_bind, wp_require]
  refine ⟨fun _ => ⟨fun _ => wp_require_state (fun _ => ?_) fun _ => hidle _, fun _ => hidle _⟩,
    fun _ => hidle _⟩
  refine wp_lift_py (fun m hm => ?_) fun _ _ => hidle _
  have hneeds : needs_second_reviewer r = is_high_value m := by
    rw [needs_second_reviewer, hm]
  rw [wp_ite]
  refine ⟨fun hhigh => ?_, fun hlow => ?_⟩
  · unfold stage_override
    rw [wp_bind]
    refine wp_update_record hget ?_
    rw [wp_bind, wp_modify, wp_pure, log_audit_event_eq]
    refine .alone ?_ rfl fun _ record hrecord => ?_
    · simp only [rolls_up, hsub, hneeds, hhigh, decide_true, Bool.and_true, Bool.not_true,
        Bool.and_false]
    · cases hrecord.symm.trans (dict.get_set_self _ _ _)
      rfl
  · refine wp_apply_disposition_cases hget ?_
    have hlow : is_high_value m = false := by simpa using hlow
    simp only [rolls_up, hneeds, hlow, Bool.and_false, Bool.not_false, Bool.and_true]
    exact decide_eq_true haction

theorem wp_dispose_cases {dreq : DispositionRequest} (hget : get_record api id user.org = some r) :
    wp (dispose cfg env user id r dreq)
      (fun _ api' => Followed cfg env user.org r (.disposition id key dreq) id api api')
      (fun e api' => Unfollowed cfg user.org r (.disposition id key dreq) e api api') api := by
  have hidle : ∀ e, Unfollowed cfg user.org r (.disposition id key dreq) e api api := unfollowed_idle
  have halone : dreq.action ∈ ["SUBMIT_TO_ERP", "DRAFT_REPLY", "SEND_REPLY"] →
      rolls_up r (.disposition id key dreq) = false := by
    intro h
    simp [rolls_up, h]
  have hunstaged : dreq.action ∈ ["SUBMIT_TO_ERP", "DRAFT_REPLY", "SEND_REPLY"] →
      stages_override r (.disposition id key dreq) = false := by
    intro h
    simp [stages_override, h]
  unfold dispose
  simp only [wp_bind, wp_require, wp_ite]
  refine ⟨fun _ => ⟨fun h => wp_alone (halone (by simp [h])) (hunstaged (by simp [h]))
      keepsCases_disposition_erp_submit failsUnwritten_disposition_erp_submit,
    fun hsubmit => ⟨fun h => wp_alone (halone (by simp [h])) (hunstaged (by simp [h]))
      keepsCases_disposition_draft_reply failsUnwritten_disposition_draft_reply,
      fun hdraft => ⟨fun h => wp_alone (halone (by simp [h])) (hunstaged (by simp [h]))
        keepsCases_disposition_send_reply failsUnwritten_disposition_send_reply,
        fun hsend => ?_⟩⟩⟩, fun _ => hidle _⟩
  have haction : dreq.action ∉ ["SUBMIT_TO_ERP", "DRAFT_REPLY", "SEND_REPLY"] := by
    simp [hsubmit, hdraft, hsend]
  unfold dispose_agent_action require_notes
  simp only [wp_bind, wp_require, wp_ite]
  refine ⟨fun _ => ⟨fun _ => ⟨fun hsub => ?_, fun hsub => ?_⟩, fun _ => hidle _⟩, fun _ => hidle _⟩
  · exact wp_override_exception_cases hget haction hsub
  · refine wp_require_state (fun _ => ?_) fun _ => hidle _
    refine wp_apply_disposition_cases hget ?_
    simp only [rolls_up, hsub, decide_false, Bool.false_and, Bool.not_false, Bool.and_true]
    exact decide_eq_true haction

theorem wp_cosign_cases {creq : CosignRequest} (hget : get_record api id user.org = some r) :
    wp (cosign cfg env user id r creq)
      (fun _ api' => Followed cfg env user.org r (.cosign id key creq) id api api')
      (fun e api' => Unfollowed cfg user.org r (.cosign id key creq) e api api') api := by
  have hidle : ∀ e, Unfollowed cfg user.org r (.cosign id key creq) e api api := unfollowed_idle
  unfold cosign
  rw [wp_bind]
  refine wp_require_state (fun _ => ?_) fun _ => hidle _
  split
  · exact hidle _
  rename_i pending hpending
  unfold require_notes
  simp only [wp_bind, wp_require, wp_ite]
  refine ⟨fun _ => ⟨fun _ => ⟨fun hsubmit => ?_, fun hplain => ⟨fun happrove => ?_,
    fun hreject => ?_⟩⟩, fun _ => hidle _⟩, fun _ => hidle _⟩
  · refine wp_alone ?_ rfl (keeps_bind keepsCases_run_directed fun _ =>
      keeps_bind keepsCases_write fun _ => keeps_pure _)
      (failsUnwritten_bind keepsRecords_run_directed fun _ =>
        failsUnwritten_answer failsUnwritten_write)
    simp [rolls_up, hsubmit, hpending]
  · unfold cosign_approve
    rw [wp_bind]
    refine wp_update_record hget ?_
    rw [wp_bind, wp_modify, wp_bind, wp_modify]
    refine wp_followed ?_ rfl ?_
    · have hother : pending.action ≠ "SUBMIT_TO_ERP" := fun h => hplain ⟨happrove, h⟩
      simp [rolls_up, hpending, hother]
    · rw [cases_counted]
      exact opened_written
  · unfold cosign_reject
    rw [wp_bind]
    refine wp_update_record hget ?_
    rw [wp_bind, wp_modify]
    refine wp_followed ?_ rfl opened_written
    have hreject : creq.approve = false := by simpa using hreject
    simp [rolls_up, hreject]

theorem wp_write_and_follow {α : Type} {message : String} {fields : ChildCase → ChildCase}
    {event : AuditEvent} {answer : ChildCase → α} (hget : get_record api id user.org = some r)
    (hroll : rolls_up r req = true) (hparent : (fields r).parent_case_id = r.parent_case_id) :
    wp (do
        let updated ← update_record env id user.org message fields
        modify (log_audit_event cfg env event)
        reaggregate_parent_case cfg env user.org updated
        return answer updated)
      (fun _ api' => Followed cfg env user.org r req id api api')
      (fun e api' => Unfollowed cfg user.org r req e api api') api := by
  rw [wp_bind]
  refine wp_update_record hget ?_
  rw [wp_bind, wp_modify]
  exact wp_followed hroll hparent opened_written

/-- The run of an event opens cases at most. -/
theorem wp_resolve_state_cases {origin : String} {state : GraphState}
    (hintake : OpensOrFinds env user.org) :
    wp (resolve_state env origin state)
      (fun _ api' => api'.records = api.records ∧ CasesOpened user.org api.cases api'.cases)
      (fun _ api' => api'.records = api.records ∧ CasesOpened user.org api.cases api'.cases) api := by
  have hstays : api.records = api.records ∧ CasesOpened user.org api.cases api.cases :=
    ⟨rfl, CasesOpened.refl _ _⟩
  unfold resolve_state
  split
  · unfold resolve_via_case_agent
    rw [wp_bind]
    refine wp_lift_py (fun shadow _ => ?_) fun _ _ => hstays
    dsimp only
    split
    · exact hstays
    · rw [wp_bind, wp_get, wp_bind]
      refine wp_lift_py (fun opened hopened => ?_) fun _ _ => hstays
      have hcases := (hintake _ _ _ hopened).1
      rw [wp_bind, wp_modify, wp_bind]
      refine wp_lift_py (fun _ _ => ?_) fun _ _ => ⟨rfl, hcases⟩
      rw [wp_bind]
      refine wp_lift_py (fun result _ => ?_) fun _ _ => ⟨rfl, hcases⟩
      exact wp_lift_py (fun _ _ => ⟨rfl, hcases⟩) fun _ _ => ⟨rfl, hcases⟩
  · exact wp_run_graph_safe (fun _ _ _ => hstays) fun _ _ _ => hstays

theorem wp_reanalyze_cases {reason : String} (hget : get_record api id user.org = some r)
    (hintake : OpensOrFinds env user.org) :
    wp (reanalyze_exception cfg env user id reason)
      (fun _ api' => Followed cfg env user.org r (.reanalyze id reason) id api api')
      (fun e api' => Unfollowed cfg user.org r (.reanalyze id reason) e api api') api := by
  have hidle : ∀ e, Unfollowed cfg user.org r (.reanalyze id reason) e api api := unfollowed_idle
  unfold reanalyze_exception require_role
  rw [wp_bind, wp_require]
  refine ⟨fun _ => ?_, fun _ => hidle _⟩
  rw [wp_bind]
  refine wp_get_or_404 (fun r' hr' => ?_) fun _ => hidle _
  cases hget.symm.trans hr'
  simp only [wp_bind, wp_require]
  refine ⟨fun _ => ⟨fun _ => ?_, fun _ => hidle _⟩, fun _ => hidle _⟩
  split
  · exact hidle _
  simp only [wp_bind, wp_get, wp_mapError]
  refine wp_mono (wp_resolve_state_cases hintake) ?_ ?_
  · rintro fin api₁ ⟨hrecords, hopened⟩
    have hget₁ : get_record api₁ id user.org = some r := by
      rw [get_record, hrecords]
      exact hget
    unfold persist_reanalysis
    simp only [wp_bind, wp_modify]
    refine wp_update_record (r := r) hget₁ ?_
    refine wp_update_record (r := stamped env (reanalyzed_record env fin r)) ?_ ?_
    · simp [get_record, put_record, store_trace, stamped, reanalyzed_record,
        (get_record_some hget).2]
    · rw [wp_pure, log_audit_event_eq]
      exact (wp_bind _ _).mp (wp_followed rfl rfl hopened)
  · rintro e api₁ ⟨hrecords, hopened⟩
    exact .unwritten hrecords hopened

end handlers

/-! ## The cases after a step -/

/-- The error that a request ends in. -/
def failure_of {α : Type} : EStateM.Result ApiError Api α → Option ApiError
  | .ok _ _ => none
  | .error e _ => some e

/-- What a request of any kind does to the records and the cases, when it is
answered, or when it ends in an error. -/
inductive CaseStep (cfg : Config) (st : Step) (failure : Option ApiError) (api api' : Api) :
    Prop where
  /-- No record was written. -/
  | quiet (hrecords : api'.records = api.records)
      (hopened : CasesOpened st.user.org api.cases api'.cases)
  /-- A record was written, and its case was not rolled up. -/
  | wrote (id : String) (r : ChildCase) (w : Write) (hdone : failure = none)
      (hget : get_record api id st.user.org = some r)
      (hanswer : Answered cfg st.env st.user id r api.external api.delivery_dedup st.request w)
      (hroll : rolls_up r st.request = false)
      (hstaged : stages_override r st.request = true → w.record.lifecycle_state = .PENDING_COSIGN)
      (hrecords : api'.records = dict.set api.records id w.record) (hcases : api'.cases = api.cases)
  | rolled (id : String) (r : ChildCase) (w : Write) (opened : List (String × OrderCase))
      (hdone : failure = none)
      (hget : get_record api id st.user.org = some r)
      (hanswer : Answered cfg st.env st.user id r api.external api.delivery_dedup st.request w)
      (hroll : rolls_up r st.request = true)
      (hrecords : api'.records = dict.set api.records id w.record)
      (hopened : CasesOpened st.user.org api.cases opened)
      (hcases : RolledParent cfg st.env { api' with cases := opened } st.user.org r api'.cases)
  /-- A record was written, and the roll-up was refused. -/
  | blocked (id : String) (r : ChildCase) (w : Write) (case_id : String)
      (hget : get_record api id st.user.org = some r)
      (hanswer : Answered cfg st.env st.user id r api.external api.delivery_dedup st.request w)
      (hroll : rolls_up r st.request = true)
      (hrecords : api'.records = dict.set api.records id w.record)
      (hopened : CasesOpened st.user.org api.cases api'.cases) (hparent : r.parent = some case_id)
      (hfailure : failure = some (triage_block case_id))
      (hblocked : RollUpBlocked cfg api' st.user.org case_id [])
  /-- An event was resolved into a new record of a case. -/
  | ingested (event : OrderEvent) (explain : Bool) (case : OrderCase) (trace_id : String)
      (data : ResolutionData) (fin : GraphState) (opened : List (String × OrderCase))
      (hreq : st.request = .resolve event explain)
      (hrecords : api'.records = dict.set api.records st.env.new_id
        (record_of st.env st.user.org trace_id case data fin))
      (hopened : CasesOpened st.user.org api.cases opened)
      (hlookup : ∃ event cases, st.env.lookup_or_create event cases = .ok (opened, case))
      (hcase : dict.get opened case.case_id = some case) (htenant : case.tenant_id = st.user.org)
      (hcases : Rolled cfg st.env { api with cases := opened } st.user.org case.case_id
        [resolve_lifecycle fin.final_status] api'.cases)

section steps

variable {cfg : Config} {st : Step} {api : Api}

theorem caseStep_idle {failure : Option ApiError} : CaseStep cfg st failure api api :=
  .quiet rfl (CasesOpened.refl _ _)

theorem caseStep_of_answers {id : String} {r : ChildCase} {resp : ExceptionDetailResponse}
    {api' : Api} (hget : get_record api id st.user.org = some r)
    (h : Answers cfg st.env st.user id r api st.request resp api')
    (h' : Followed cfg st.env st.user.org r st.request id api api') :
    CaseStep cfg st none api api' := by
  obtain ⟨w, hanswer, hwrote, -⟩ := h
  cases h' with
  | alone hroll hcases hstaged =>
    refine .wrote id r w rfl hget hanswer hroll (fun h => hstaged h w.record ?_) hwrote.records
      hcases
    rw [hwrote.records]
    exact dict.get_set_self _ _ _
  | rolled hroll opened hopened hcases =>
    exact .rolled id r w opened rfl hget hanswer hroll hwrote.records hopened hcases

theorem caseStep_of_refuses {id : String} {r : ChildCase} {e : ApiError} {api' : Api}
    (hget : get_record api id st.user.org = some r)
    (h : Refuses cfg st.env st.user id r api st.request api')
    (h' : Unfollowed cfg st.user.org r st.request e api api') :
    CaseStep cfg st (some e) api api' := by
  rcases h with ⟨w, hanswer, hwrote⟩ | ⟨hkept, -⟩
  · cases h' with
    | unwritten hrecords hopened => exact .quiet hrecords hopened
    | blocked case_id hroll hopened hparent he hblocked =>
      exact .blocked id r w case_id hget hanswer hroll hwrote.records hopened hparent
        (congrArg some he) hblocked
  · refine .quiet hkept.records ?_
    cases h' with
    | unwritten hrecords hopened => exact hopened
    | blocked case_id hroll hopened => exact hopened

theorem CaseStep.of_cache {failure : Option ApiError} {api' : Api}
    {cache cache' : List (CacheKey × CacheEntry)}
    (h : CaseStep cfg st failure { api with idempotency_cache := cache } api') :
    CaseStep cfg st failure api { api' with idempotency_cache := cache' } := by
  cases h with
  | quiet hrecords hopened => exact .quiet hrecords hopened
  | wrote id r w hdone hget hanswer hroll hstaged hrecords hcases =>
    exact .wrote id r w hdone hget hanswer hroll hstaged hrecords hcases
  | rolled id r w opened hdone hget hanswer hroll hrecords hopened hcases =>
    exact .rolled id r w opened hdone hget hanswer hroll hrecords hopened (hcases.congr rfl rfl)
  | blocked id r w case_id hget hanswer hroll hrecords hopened hparent hfailure hblocked =>
    exact .blocked id r w case_id hget hanswer hroll hrecords hopened hparent hfailure hblocked
  | ingested event explain case trace_id data fin opened hreq hrecords hopened hlookup hcase
      htenant hcases =>
    exact .ingested event explain case trace_id data fin opened hreq hrecords hopened hlookup hcase
      htenant (hcases.congr rfl rfl)

theorem wp_caseStep {id : String} {r : ChildCase} {handler : ApiM ExceptionDetailResponse}
    (hget : get_record api id st.user.org = some r)
    (h : wp handler (Answers cfg st.env st.user id r api st.request)
      (fun _ => Refuses cfg st.env st.user id r api st.request) api)
    (h' : wp handler (fun _ api' => Followed cfg st.env st.user.org r st.request id api api')
      (fun e api' => Unfollowed cfg st.user.org r st.request e api api') api) :
    wp handler (fun _ api' => CaseStep cfg st none api api')
      (fun e api' => CaseStep cfg st (some e) api api')
      api :=
  wp_mono (wp_and h h') (fun _ _ h => caseStep_of_answers hget h.1 h.2)
    fun _ _ h => caseStep_of_refuses hget h.1 h.2

/-- A handler behind the cache. -/
theorem wp_idempotent_cases {id : String} {r : ChildCase} {key : Option String} {body : PyDict}
    {handler : ApiM ExceptionDetailResponse} (hget : get_record api id st.user.org = some r)
    (hhandler : ∀ api, get_record api id st.user.org = some r →
      wp handler (fun _ api' => CaseStep cfg st none api api')
      (fun e api' => CaseStep cfg st (some e) api api')
        api) :
    wp (with_idempotency st.env st.user id key body handler)
      (fun _ api' => CaseStep cfg st none api api')
      (fun e api' => CaseStep cfg st (some e) api api') api := by
  unfold with_idempotency validate_idempotency_key
  rw [wp_bind, wp_require]
  refine ⟨fun _ => ?_, fun _ => caseStep_idle⟩
  rcases key with _ | k
  · exact hhandler api hget
  have hrun : ∀ cache, wp (do
      let response ← handler
      modify (idempotency_store st.env (st.user.org, id, st.user.sub, k) body response)
      return response) (fun _ api' => CaseStep cfg st none api api')
      (fun e api' => CaseStep cfg st (some e) api api') { api with idempotency_cache := cache } := by
    intro cache
    rw [wp_bind]
    refine wp_mono (hhandler { api with idempotency_cache := cache } hget) ?_ ?_
    · exact fun resp api' h => h.of_cache
    · exact fun e api' h => CaseStep.of_cache h
  dsimp only
  unfold idempotency_lookup
  rw [wp_bind, wp_bind, wp_get]
  split
  · exact hrun api.idempotency_cache
  · split
    · exact hrun _
    · rw [wp_bind, wp_require]
      exact ⟨fun _ => caseStep_idle, fun _ => caseStep_idle⟩

theorem wp_resolve_cases {event : OrderEvent} {explain : Bool}
    (hreq : st.request = .resolve event explain) (hintake : OpensOrFinds st.env st.user.org) :
    wp (resolve cfg st.env st.user.org event explain)
      (fun _ api' => CaseStep cfg st none api api')
      (fun e api' => CaseStep cfg st (some e) api api') api := by
  have hpersist : ∀ (api₁ : Api) fin trace_id, api₁.records = api.records →
      CasesOpened st.user.org api.cases api₁.cases →
      wp (persist_exception cfg st.env st.user.org trace_id fin)
        (fun _ api' => CaseStep cfg st none api api')
      (fun e api' => CaseStep cfg st (some e) api api') api₁ := by
    intro api₁ fin trace_id hrecords hopened
    have hquiet : ∀ failure, CaseStep cfg st failure api api₁ := fun _ => .quiet hrecords hopened
    unfold persist_exception
    rw [wp_bind]
    refine wp_lift_py (fun data _ => ?_) fun _ _ => hquiet _
    rw [wp_bind, wp_get, wp_bind]
    refine wp_lift_py (fun found hfound => ?_) fun _ _ => hquiet _
    obtain ⟨hfresh, hcase, htenant⟩ := hintake _ _ _ hfound
    obtain ⟨opened, case⟩ := found
    have hopened₁ := hopened.trans hfresh
    simp only [wp_bind, wp_modify]
    refine wp_mono wp_recompute_exactly ?_ ?_
    · rintro - api₂ ⟨cases, hrolled, rfl⟩
      have hsame : Rolled cfg st.env { api with cases := opened } st.user.org case.case_id
          [resolve_lifecycle fin.final_status] cases := hrolled.congr hrecords rfl
      have hnew : ∀ failure traces, CaseStep cfg st failure api { api₁ with
          cases := cases, traces := traces, records := dict.set api₁.records
            st.env.new_id (record_of st.env st.user.org trace_id case data fin) } :=
        fun _ traces => .ingested event explain case trace_id data fin opened hreq
          (by rw [hrecords]) hopened₁ ⟨_, _, hfound⟩ hcase htenant hsame
      refine wp_lift_py (fun composed _ => ?_) fun _ _ => hnew _ api₁.traces
      rw [wp_pure]
      exact hnew _ _
    · rintro e api₂ ⟨rfl, -, -⟩
      exact .quiet hrecords hopened₁
  unfold resolve
  rw [wp_bind, wp_mapError]
  split
  · refine wp_run_graph_safe (fun fin ext' _ => ?_) fun e ext' _ => ?_
    · exact hpersist _ _ _ rfl (CasesOpened.refl _ _)
    · exact .quiet rfl (CasesOpened.refl _ _)
  · exact wp_mono (wp_resolve_state_cases hintake) (fun fin api₁ h => hpersist api₁ _ _ h.1 h.2)
      fun e api₁ h => .quiet h.1 h.2

theorem wp_handle_cases (cfg : Config) (st : Step) (api : Api)
    (hintake : OpensOrFinds st.env st.user.org) :
    wp (handle cfg st) (fun _ api' => CaseStep cfg st none api api')
      (fun e api' => CaseStep cfg st (some e) api api') api := by
  have hidle : ∀ {failure}, CaseStep cfg st failure api api := caseStep_idle
  unfold handle
  rcases hreq : st.request with ⟨event, explain⟩ | ⟨id, key, req⟩ | ⟨id, key, req⟩ |
    ⟨id, key, req⟩ | ⟨id, reason⟩ | ⟨id, reason⟩ | ⟨id, reason, risk⟩ | ⟨tenant_id, max_attempts⟩
  · simp only [wp_bind, wp_pure]
    exact wp_resolve_cases hreq hintake
  · simp only [map_eq_pure_bind, wp_bind, wp_pure]
    unfold disposition_exception require_permission
    refine wp_permitted_found (fun _ _ => hidle) (fun _ _ => hidle) fun _ r hget => ?_
    exact wp_idempotent_cases hget fun api hget =>
      wp_caseStep hget (hreq ▸ wp_dispose hget) (hreq ▸ wp_dispose_cases hget)
  · simp only [map_eq_pure_bind, wp_bind, wp_pure]
    unfold cosign_override require_role
    refine wp_permitted_found (fun _ _ => hidle) (fun _ _ => hidle) fun _ r hget => ?_
    exact wp_idempotent_cases hget fun api hget =>
      wp_caseStep hget (hreq ▸ wp_cosign hget) (hreq ▸ wp_cosign_cases hget)
  · simp only [map_eq_pure_bind, wp_bind, wp_pure]
    unfold escalate_exception require_permission
    refine wp_permitted_found (fun _ _ => hidle) (fun _ _ => hidle) fun _ r hget => ?_
    rw [wp_bind]
    refine wp_require_state (fun hstate => ?_) fun _ => hidle
    exact wp_idempotent_cases hget fun api hget => wp_caseStep hget
      (hreq ▸ wp_escalate hget hstate) (hreq ▸ wp_write_and_follow hget rfl rfl)
  · simp only [map_eq_pure_bind, wp_bind, wp_pure]
    rcases hget : get_record api id st.user.org with _ | r
    · unfold reanalyze_exception require_role
      refine wp_permitted_found (fun _ _ => hidle) (fun _ _ => hidle) fun _ r hr => ?_
      cases hget.symm.trans hr
    · exact wp_caseStep hget (hreq ▸ wp_reanalyze hget) (hreq ▸ wp_reanalyze_cases hget hintake)
  · simp only [map_eq_pure_bind, wp_bind, wp_pure]
    unfold challenge_exception require_role
    refine wp_permitted_found (fun _ _ => hidle) (fun _ _ => hidle) fun _ r hget => ?_
    rw [wp_bind]
    refine wp_require_state (fun hstate => ?_) fun _ => hidle
    have hstate : r.lifecycle_state = .RESOLVED := by
      simpa [CHALLENGE_SOURCE_STATES] using hstate
    exact wp_caseStep hget (wp_move_record hget (hreq ▸ .challenged reason hstate))
      (hreq ▸ wp_write_and_follow hget rfl rfl)
  · simp only [map_eq_pure_bind, wp_bind, wp_pure]
    unfold admin_release_exception require_role
    refine wp_permitted_found (fun _ _ => hidle) (fun _ _ => hidle) fun _ r hget => ?_
    rw [wp_bind]
    refine wp_require_state (fun hstate => ?_) fun _ => hidle
    have hstate : r.lifecycle_state = .BLOCKED := by
      simpa [ADMIN_RELEASE_SOURCE_STATES] using hstate
    rw [wp_bind, wp_require]
    refine ⟨fun _ => ?_, fun _ => hidle⟩
    exact wp_caseStep hget (wp_move_record hget (hreq ▸ .released reason risk hstate))
      (hreq ▸ wp_write_and_follow hget rfl rfl)
  · simp only [wp_bind, wp_modify, wp_pure]
    exact .quiet rfl (CasesOpened.refl _ _)

theorem case_step_cases (cfg : Config) (st : Step) (api : Api)
    (hintake : OpensOrFinds st.env st.user.org) :
    CaseStep cfg st (failure_of (handle cfg st api)) api (step cfg st api) := by
  have h := wp_handle_cases cfg st api hintake
  unfold step
  unfold wp at h
  rcases hend : handle cfg st api with ⟨a, api'⟩ | ⟨e, api'⟩
  · rw [hend] at h
    exact h
  · rw [hend] at h
    exact h

end steps

/-! ## A case store to try the laws on -/

/-- The case of an order has the number of the order in its id. -/
def case_of_order (tenant : String) (event : OrderEvent) (cases : List (String × OrderCase)) :
    Except PyErr (List (String × OrderCase) × OrderCase) :=
  let case_id := "C-" ++ event.order_id
  match dict.get cases case_id with
  | some case =>
    if case.case_id = case_id ∧ case.tenant_id = tenant then .ok (cases, case)
    else .error ⟨"KeyError", py.reprStr case_id⟩
  | none =>
    let case : OrderCase := ⟨case_id, tenant, .OPEN_AGENT_PROCESSING, none, none, none⟩
    .ok (dict.set cases case_id case, case)

def intakeEnv (env : RunEnv) : StepEnv :=
  { sampleEnv env with lookup_or_create := case_of_order "T1" }

theorem case_of_order_id (tenant : String) (event : OrderEvent) (cases : List (String × OrderCase)) :
    returns (case_of_order tenant event cases) fun found =>
      found.2.case_id = "C-" ++ event.order_id := by
  unfold case_of_order
  dsimp only
  split
  · exact returns_ite (fun h => (returns_ok _).mpr h.1) fun _ => returns_error _
  · exact (returns_ok _).mpr rfl

theorem intakeEnv_opensOrFinds (env : RunEnv) : OpensOrFinds (intakeEnv env) "T1" := by
  intro event cases
  show returns (case_of_order "T1" event cases) _
  unfold case_of_order
  dsimp only
  split
  · rename_i case hcase
    refine returns_ite (fun h => (returns_ok _).mpr ?_) fun _ => returns_error _
    obtain ⟨hid, htenant⟩ := h
    exact ⟨CasesOpened.refl _ _, by rw [hid]; exact hcase, htenant⟩
  · rename_i hnone
    refine (returns_ok _).mpr ⟨⟨fun id case hid => ?_, fun id case hid => ?_⟩,
      dict.get_set_self _ _ _, rfl⟩
    · have hne : id ≠ "C-" ++ event.order_id := by
        rintro rfl
        cases hnone.symm.trans hid
      exact (dict.get_set_of_ne _ _ hne).trans hid
    · by_cases hne : id = "C-" ++ event.order_id
      · subst hne
        rw [dict.get_set_self] at hid
        cases hid
        exact Or.inr ⟨hnone, rfl, rfl, rfl, rfl⟩
      · exact Or.inl ((dict.get_set_of_ne _ _ hne).symm.trans hid)

end asoe
