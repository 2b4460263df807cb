-- A roll-up that would close a case in need of triage is refused after the
-- record and its audit event were written: what such a request leaves behind.
import Asoe.CaseOverrides

namespace asoe

open py prog

/-! ## The error -/

def NEEDS_TRIAGE_CLOSE_BLOCKED : String := "NeedsTriageCloseBlocked"

/-- The error of a case that may not be closed. -/
def ApiError.is_close_block : ApiError → Bool
  | .raised e => e.kind = NEEDS_TRIAGE_CLOSE_BLOCKED
  | .asoe_error .. => false

/-- Another error than that of a case that may not be closed. -/
abbrev Unrelated (e : ApiError) : Prop := e.is_close_block = false

/-- The graph runs of a request know nothing of the case store. -/
def RunsRaiseOther (env : StepEnv) : Prop :=
  ∀ run_env, run_env = env.first_run ∨ run_env = env.second_run → ∀ origin state,
    raises (fun e => e.kind ≠ NEEDS_TRIAGE_CLOSE_BLOCKED) (run_graph run_env origin state)

section unrelated

variable {cfg : Config} {env : StepEnv} {user : AuthenticatedUser} {id tenant : String}
  {r : ChildCase}

theorem raises_lift_py {α : Type} {x : Except PyErr α}
    (h : ∀ e, x = .error e → e.kind ≠ NEEDS_TRIAGE_CLOSE_BLOCKED) :
    raises Unrelated (lift_py x) := by
  refine raises_ofExcept fun e he => ?_
  rcases x with e' | a
  · cases he
    exact decide_eq_false (h e' rfl)
  · cases he

theorem numberAsFloat?_error {v : PyVal} {e : PyErr} (h : v.numberAsFloat? = .error e) :
    e.kind = "OverflowError" := by
  unfold PyVal.numberAsFloat? at h
  split at h
  · split at h
    · cases h
    · cases h
      rfl
  · cases h
  · cases h

theorem first_number_error {data : PyDict} {keys : List String} {e : PyErr}
    (h : first_number data keys = .error e) : e.kind = "OverflowError" := by
  induction keys with
  | nil => cases h
  | cons key keys ih =>
    unfold first_number at h
    rcases hv : (PyVal.ofOption (dict.get data key)).numberAsFloat? with e' | x
    · rw [error_bind hv] at h
      cases h
      exact numberAsFloat?_error hv
    · rw [ok_bind hv] at h
      rcases x with _ | x
      · exact ih h
      · cases h

theorem cosign_materiality_usd_error {e : PyErr} (h : cosign_materiality_usd r = .error e) :
    e.kind = "OverflowError" := by
  unfold cosign_materiality_usd financial_impact_usd at h
  split at h
  · rename_i sap _
    rcases hv : (PyVal.ofOption (dict.get sap "order_value_usd")).numberAsFloat? with e' | x
    · rw [error_bind hv] at h
      cases h
      exact numberAsFloat?_error hv
    · rw [ok_bind hv] at h
      rcases x with _ | x
      · exact first_number_error h
      · cases h
  · exact first_number_error h

theorem unrelated_materiality : raises Unrelated (lift_py (cosign_materiality_usd r)) := by
  refine raises_lift_py fun e he => ?_
  rw [cosign_materiality_usd_error he]
  decide

theorem text_of_error {attr : String} {v : PyVal} {e : PyErr} (h : text_of attr v = .error e) :
    e.kind = "AttributeError" := by
  unfold text_of at h
  split at h
  · cases h
  · split at h
    · cases h
      rfl
    · cases h

theorem reply_delivery_key_error {draft : PyDict} {e : PyErr}
    (h : reply_delivery_key cfg id draft = .error e) : e.kind = "AttributeError" := by
  unfold reply_delivery_key reply_delivery_raw at h
  rcases hto : text_of "strip" (draft_get draft "recipient") with e' | recipient
  · rw [hto] at h
    cases h
    exact text_of_error hto
  rcases hsubject : text_of "join" (draft_get draft "subject") with e' | subject
  · rw [hto, hsubject] at h
    cases h
    exact text_of_error hsubject
  rcases hbody : text_of "join" (draft_get draft "body") with e' | body
  · rw [hto, hsubject, hbody] at h
    cases h
    exact text_of_error hbody
  · rw [hto, hsubject, hbody] at h
    cases h

theorem unrelated_delivery_key {draft : PyDict} :
    raises Unrelated (lift_py (reply_delivery_key cfg id draft)) := by
  refine raises_lift_py fun e he => ?_
  rw [reply_delivery_key_error he]
  decide

theorem unrelated_preview_key {preview : GraphState} :
    raises Unrelated (lift_py (preview_key cfg id preview)) := by
  refine raises_lift_py fun e he => ?_
  unfold preview_key at he
  split at he
  · rcases hkey : reply_delivery_key cfg id (draft_of preview) with e' | dkey
    · rw [error_bind hkey] at he
      cases he
      rw [reply_delivery_key_error hkey]
      decide
    · rw [ok_bind hkey] at he
      cases he
  · cases he

theorem unrelated_update_record {message : String} {fields : ChildCase → ChildCase} :
    raises Unrelated (update_record env id tenant message fields) := by
  refine raises_bind raises_get fun api => ?_
  split
  · exact raises_bind (fun _ => trivial) fun _ => raises_pure _
  · exact raises_throw rfl

theorem unrelated_require {c : Prop} [Decidable c] {code message : String} {status : ℕ} :
    raises Unrelated (require c (.asoe_error code message status) : ApiM Unit) := raises_require rfl

variable {req : DispositionRequest}

theorem unrelated_require_order_entry {code applies no_order action : String} :
    raises Unrelated (require_order_entry r req code applies no_order action) :=
  raises_bind unrelated_require fun _ => raises_bind unrelated_require fun _ =>
    raises_bind unrelated_require fun _ => unrelated_require

theorem unrelated_write {α : Type} {message : String} {fields : ChildCase → ChildCase}
    {event : ChildCase → AuditEvent} {answer : ChildCase → α} :
    raises Unrelated (do
      let updated ← update_record env id tenant message fields
      modify (log_audit_event cfg env (event updated))
      return answer updated) :=
  raises_bind unrelated_update_record fun _ => raises_bind (raises_modify _) fun _ => raises_pure _

theorem unrelated_run_directed {run_env : RunEnv} {recipe : RecipeName} {params : PyDict}
    (hruns : RunsRaiseOther env) (henv : run_env = env.first_run ∨ run_env = env.second_run) :
    raises Unrelated (run_directed run_env id tenant r recipe params) := by
  unfold run_directed
  split
  · exact raises_throw rfl
  · refine raises_zoom (raises_mapError ?_)
    intro ext
    exact wp_mono (hruns run_env henv _ _ ext) (fun _ _ h => h) fun _ _ h => decide_eq_false h

theorem unrelated_disposition_erp_submit (hruns : RunsRaiseOther env) :
    raises Unrelated (disposition_erp_submit cfg env user id r req) := by
  refine raises_bind unrelated_require_order_entry fun _ => ?_
  refine raises_bind unrelated_materiality fun materiality => raises_ite ?_ ?_
  · exact raises_bind unrelated_write fun _ => raises_pure _
  · refine raises_bind (unrelated_run_directed hruns (Or.inl rfl)) fun result => ?_
    exact raises_bind unrelated_write fun _ => raises_pure _

theorem unrelated_disposition_draft_reply (hruns : RunsRaiseOther env) :
    raises Unrelated (disposition_draft_reply cfg env user id r req) := by
  refine raises_bind unrelated_require_order_entry fun _ => ?_
  refine raises_bind (unrelated_run_directed hruns (Or.inl rfl)) fun result => ?_
  exact raises_bind unrelated_write fun _ => raises_pure _

theorem unrelated_send_reply (hruns : RunsRaiseOther env) :
    raises Unrelated (send_reply cfg env user id r req) := by
  refine raises_bind (unrelated_run_directed hruns (Or.inr rfl)) fun result => ?_
  refine raises_bind ?_ fun _ => raises_pure _
  refine raises_bind unrelated_delivery_key fun dkey => ?_
  exact raises_bind (raises_modify _) fun _ => unrelated_write

theorem unrelated_disposition_send_reply (hruns : RunsRaiseOther env) :
    raises Unrelated (disposition_send_reply cfg env user id r req) := by
  refine raises_bind unrelated_require_order_entry fun _ => ?_
  refine raises_bind (unrelated_run_directed hruns (Or.inl rfl)) fun preview => ?_
  refine raises_bind unrelated_preview_key fun dkey => raises_bind raises_get fun api => ?_
  split
  · exact raises_bind (raises_modify _) fun _ => raises_bind raises_get fun _ => raises_pure _
  · exact unrelated_send_reply hruns

end unrelated

/-! ## What was written before -/

/-- The request had written its record and its event, and had opened cases
at most, when the roll-up was refused. -/
structure CarriedOut (cfg : Config) (env : StepEnv) (user : AuthenticatedUser) (id : String)
    (r : ChildCase) (req : Request) (api api' : Api) : Prop where
  rolls : rolls_up r req = true
  write : ∃ w, Answered cfg env user id r api.external api.delivery_dedup req w ∧
    Wrote cfg env user.org id w api api'
  cases : CasesOpened user.org api.cases api'.cases

/-- A program that meets a case that may not be closed has carried the
request out before. -/
abbrev BlocksLate {α : Type} (cfg : Config) (env : StepEnv) (user : AuthenticatedUser)
    (id : String) (r : ChildCase) (req : Request) (api api₁ : Api) (x : ApiM α) : Prop :=
  wp x (fun _ _ => True)
    (fun e api' => e.is_close_block = true → CarriedOut cfg env user id r req api api') api₁

section handlers

variable {cfg : Config} {env : StepEnv} {user : AuthenticatedUser} {id : String} {r : ChildCase}
  {req : Request} {api api₁ : Api}

theorem blocksLate_of_unrelated {α : Type} {x : ApiM α} (h : raises Unrelated x) :
    BlocksLate cfg env user id r req api api₁ x := by
  refine wp_mono (h api₁) (fun _ _ _ => trivial) fun e _ hother hblock => ?_
  cases hother.symm.trans hblock

theorem blocksLate_bind {α β : Type} {x : ApiM α} {f : α → ApiM β} (hx : raises Unrelated x)
    (hf : wp x (fun a api₂ => BlocksLate cfg env user id r req api api₂ (f a))
      (fun _ _ => True) api₁) : BlocksLate cfg env user id r req api api₁ (x >>= f) := by
  rw [BlocksLate, wp_bind]
  refine wp_mono (wp_and hf (hx api₁)) (fun _ _ h => h.1) fun e _ h hblock => ?_
  cases h.2.symm.trans hblock

theorem blocksLate_require {β : Type} {c : Prop} [Decidable c] {code message : String}
    {status : ℕ} {f : Unit → ApiM β} (hf : c → BlocksLate cfg env user id r req api api₁ (f ())) :
    BlocksLate cfg env user id r req api api₁
      (require c (.asoe_error code message status) >>= f) :=
  blocksLate_bind unrelated_require ((wp_require _ _).mpr ⟨hf, fun _ => trivial⟩)

theorem blocksLate_rolled_up {α : Type} {updated : ChildCase} {answer : α} {w : Write}
    (hroll : rolls_up r req = true)
    (hanswer : Answered cfg env user id r api.external api.delivery_dedup req w)
    (hwrote : Wrote cfg env user.org id w api api₁)
    (hopened : CasesOpened user.org api.cases api₁.cases) :
    BlocksLate cfg env user id r req api api₁ (do
      reaggregate_parent_case cfg env user.org updated
      return answer) := by
  rw [BlocksLate, wp_bind]
  refine wp_mono wp_reaggregate_exactly (fun _ _ _ => trivial) ?_
  rintro e api' ⟨rfl, -⟩ -
  exact ⟨hroll, ⟨w, hanswer, hwrote⟩, hopened⟩

theorem blocksLate_write {α : Type} {message : String} {fields : ChildCase → ChildCase}
    {event : AuditEvent} {answer : ChildCase → α} (hget : get_record api id user.org = some r)
    (hroll : rolls_up r req = true)
    (hanswer : Answered cfg env user id r api.external api.delivery_dedup req
      ⟨stamped env (fields r), event, api.external, none⟩) :
    BlocksLate cfg env user id r req api api (do
      let updated ← update_record env id user.org message fields
      modify (log_audit_event cfg env event)
      reaggregate_parent_case cfg env user.org updated
      return answer updated) := by
  rw [BlocksLate, wp_bind]
  refine wp_update_record hget ?_
  rw [wp_bind, wp_modify]
  exact blocksLate_rolled_up hroll hanswer (wrote_logged rfl rfl) opened_written

variable {key : Option String}

theorem blocksLate_apply_disposition {dreq : DispositionRequest}
    (hget : get_record api id user.org = some r)
    (hroll : rolls_up r (.disposition id key dreq) = true)
    (hanswer : Answered cfg env user id r api.external api.delivery_dedup (.disposition id key dreq)
      ⟨stamped env (disposed_record user dreq (sub_type_of r dreq.action) r),
        disposed_event user id r dreq (sub_type_of r dreq.action), api.external, none⟩) :
    BlocksLate cfg env user id r (.disposition id key dreq) api api
      (apply_disposition cfg env user id r dreq (sub_type_of r dreq.action)) := by
  unfold apply_disposition
  rw [BlocksLate, wp_bind]
  refine wp_update_record hget ?_
  rw [wp_bind, wp_modify, wp_bind, wp_modify]
  split
  · refine blocksLate_rolled_up hroll hanswer (wrote_logged rfl rfl).counted ?_
    rw [cases_counted]
    exact opened_written
  · exact blocksLate_rolled_up hroll hanswer (wrote_logged rfl rfl) opened_written

theorem blocksLate_override {dreq : DispositionRequest} (hget : get_record api id user.org = some r)
    (haction : dreq.action ∉ ["SUBMIT_TO_ERP", "DRAFT_REPLY", "SEND_REPLY"])
    (hsub : sub_type_of r dreq.action = .OVERRIDE) :
    BlocksLate cfg env user id r (.disposition id key dreq) api api
      (override_exception cfg env user id r dreq) := by
  unfold override_exception
  refine blocksLate_require fun _ => blocksLate_require fun _ => ?_
  refine blocksLate_require fun hstate => blocksLate_bind unrelated_materiality ?_
  refine wp_lift_py (fun m hm => ?_) fun _ _ => trivial
  have hneeds : needs_second_reviewer r = is_high_value m := by
    rw [needs_second_reviewer, hm]
  rw [BlocksLate, wp_ite]
  refine ⟨fun _ => blocksLate_of_unrelated unrelated_write, fun hlow => ?_⟩
  have hlow : is_high_value m = false := by simpa using hlow
  rw [← hsub]
  simp only [List.mem_cons, List.not_mem_nil, or_false, not_or] at haction
  obtain ⟨hsubmit, hdraft, hsend⟩ := haction
  refine blocksLate_apply_disposition hget ?_ (.disposed key dreq hsubmit ⟨hsend, hdraft⟩ ?_)
  · simp [rolls_up, hsubmit, hdraft, hsend, hneeds, hlow]
  · rw [if_pos hsub]
    exact hstate

theorem blocksLate_dispose {dreq : DispositionRequest} (hget : get_record api id user.org = some r)
    (hruns : rolls_up r (.disposition id key dreq) = false → RunsRaiseOther env) :
    BlocksLate cfg env user id r (.disposition id key dreq) api api
      (dispose cfg env user id r dreq) := by
  have hstarts : dreq.action ∈ ["SUBMIT_TO_ERP", "DRAFT_REPLY", "SEND_REPLY"] →
      RunsRaiseOther env := fun h => hruns (by simp [rolls_up, h])
  unfold dispose
  refine blocksLate_require fun _ => ?_
  rw [BlocksLate]
  simp only [wp_ite]
  refine ⟨fun h => ?_, fun hsubmit => ⟨fun h => ?_, fun hdraft => ⟨fun h => ?_, fun hsend => ?_⟩⟩⟩
  · exact blocksLate_of_unrelated (unrelated_disposition_erp_submit (hstarts (by simp [h])))
  · exact blocksLate_of_unrelated (unrelated_disposition_draft_reply (hstarts (by simp [h])))
  · exact blocksLate_of_unrelated (unrelated_disposition_send_reply (hstarts (by simp [h])))
  unfold dispose_agent_action
  refine blocksLate_require fun _ => blocksLate_require fun _ => ?_
  dsimp only
  rw [BlocksLate, wp_ite]
  refine ⟨fun hsub => blocksLate_override hget (by simp [hsubmit, hdraft, hsend]) hsub,
    fun hsub => blocksLate_require fun hstate => ?_⟩
  refine blocksLate_apply_disposition hget ?_ (.disposed key dreq hsubmit ⟨hsend, hdraft⟩ ?_)
  · simp [rolls_up, hsubmit, hdraft, hsend, hsub]
  · rw [if_neg hsub]
    exact hstate

theorem blocksLate_cosign {creq : CosignRequest} (hget : get_record api id user.org = some r)
    (hruns : rolls_up r (.cosign id key creq) = false → RunsRaiseOther env) :
    BlocksLate cfg env user id r (.cosign id key creq) api api (cosign cfg env user id r creq) := by
  unfold cosign
  refine blocksLate_require fun hstate => ?_
  have hstate : r.lifecycle_state = .PENDING_COSIGN := by simpa [COSIGN_ELIGIBLE_STATES] using hstate
  split
  · exact blocksLate_of_unrelated (raises_throw rfl)
  rename_i pending hpending
  refine blocksLate_require fun hother => blocksLate_require fun _ => ?_
  rw [BlocksLate]
  simp only [wp_ite]
  refine ⟨fun hsubmit => ?_, fun hplain => ⟨fun happrove => ?_, fun hreject => ?_⟩⟩
  · refine blocksLate_of_unrelated (raises_bind (unrelated_run_directed (hruns ?_) (Or.inl rfl))
      fun _ => raises_bind unrelated_write fun _ => raises_pure _)
    simp [rolls_up, hsubmit, hpending]
  · have hplain : pending.action ≠ "SUBMIT_TO_ERP" := fun h => hplain ⟨happrove, h⟩
    unfold cosign_approve
    rw [wp_bind]
    refine wp_update_record hget ?_
    rw [wp_bind, wp_modify, wp_bind, wp_modify]
    refine blocksLate_rolled_up ?_
      (.cosigned key creq pending happrove hplain hstate hpending hother)
      (wrote_logged rfl rfl).counted ?_
    · simp [rolls_up, hpending, hplain]
    · rw [cases_counted]
      exact opened_written
  · have hreject : creq.approve = false := by simpa using hreject
    refine blocksLate_write hget ?_ (.cosign_rejected key creq pending hreject hstate hpending hother)
    simp [rolls_up, hreject]

theorem blocksLate_reanalyze {reason : String} (hget : get_record api id user.org = some r)
    (hintake : OpensOrFinds env user.org) :
    BlocksLate cfg env user id r (.reanalyze id reason) api api
      (reanalyze_exception cfg env user id reason) := by
  unfold reanalyze_exception
  refine blocksLate_require fun _ => ?_
  rw [BlocksLate, wp_bind]
  unfold get_or_404
  rw [wp_bind, wp_get, hget, wp_pure]
  refine blocksLate_require fun hstate => blocksLate_require fun hattempts => ?_
  split
  · exact blocksLate_of_unrelated (raises_throw rfl)
  rename_i event hevent
  rw [BlocksLate, wp_bind, wp_get, wp_bind, wp_mapError]
  -- A run that fails is reported as a failed graph run.
  have hruns : wp (resolve_state env id { event := event, tenant_id := some user.org })
      (fun fin api₁ => api₁.records = api.records ∧ CasesOpened user.org api.cases api₁.cases ∧
        api₁.audit_log = api.audit_log ∧ api₁.delivery_dedup = api.delivery_dedup ∧
        ResolveEnd env id { event := event, tenant_id := some user.org } api.external (.ok fin)
          api₁.external) (fun _ _ => True) api := by
    refine wp_mono (wp_and (wp_resolve_state_cases hintake) (wp_resolve_state
      (Q := fun fin api₁ => api₁.audit_log = api.audit_log ∧
        api₁.delivery_dedup = api.delivery_dedup ∧
        ResolveEnd env id { event := event, tenant_id := some user.org } api.external (.ok fin)
          api₁.external)
      (E := fun _ _ => True) (fun fin ext' cases hrun => ⟨rfl, rfl, hrun⟩)
      fun _ _ _ _ _ => trivial)) ?_ fun _ _ _ => trivial
    rintro fin api₁ ⟨⟨hrecords, hopened⟩, hkept⟩
    exact ⟨hrecords, hopened, hkept⟩
  refine wp_mono hruns ?_ fun e _ _ hblock => ?_
  · rintro fin api₁ ⟨hrecords, hopened, haudit, hledger, hrun⟩
    have hget₁ : get_record api₁ id user.org = some r := by
      rw [get_record, hrecords]
      exact hget
    unfold persist_reanalysis
    simp only [wp_bind, wp_modify]
    refine wp_update_record (r := r) hget₁ ?_
    refine wp_update_record (r := stamped env (reanalyzed_record env fin r)) ?_ ?_
    · simp [get_record, put_record, store_trace, stamped, reanalyzed_record,
        (get_record_some hget).2]
    · rw [wp_pure, log_audit_event_eq]
      refine (wp_bind _ _).mp (blocksLate_rolled_up (w := reanalyzeWrite env user id r reason
        (((dict.get api.traces id).map (·.executed_nodes)).getD []) fin api₁.external) rfl
        (.reanalyzed reason event fin _ api₁.external hstate hattempts hevent hrun) ?_ hopened)
      refine ⟨?_, congrArg (logged cfg env _) haudit, rfl, hledger⟩
      exact (dict.set_set _ _ _ _).trans (congrArg (fun records => dict.set records id _) hrecords)
  · cases e <;> cases hblock

/-- The cache raises errors of its own only. -/
theorem blocksLate_with_idempotency {body : PyDict}
    {handler : ApiM ExceptionDetailResponse} (hget : get_record api id user.org = some r)
    (hhandler : ∀ api, get_record api id user.org = some r →
      BlocksLate cfg env user id r req api api handler) :
    BlocksLate cfg env user id r req api api
      (with_idempotency env user id key body handler) := by
  have hrun : ∀ cache k, BlocksLate cfg env user id r req api
      { api with idempotency_cache := cache } (do
        let response ← handler
        modify (idempotency_store env k body response)
        return response) := by
    intro cache k
    rw [BlocksLate, wp_bind]
    refine wp_mono (hhandler { api with idempotency_cache := cache } hget) (fun _ _ _ => trivial) ?_
    intro e api' h hblock
    obtain ⟨hroll, ⟨w, hanswer, hwrote⟩, hopened⟩ := h hblock
    exact ⟨hroll, ⟨w, hanswer, hwrote.records, hwrote.audit_log, hwrote.external,
      hwrote.delivery_dedup⟩, hopened⟩
  unfold with_idempotency validate_idempotency_key
  refine blocksLate_require fun _ => ?_
  rcases key with _ | k
  · exact hhandler api hget
  dsimp only
  unfold idempotency_lookup
  rw [BlocksLate, wp_bind, wp_bind, wp_get]
  split
  · exact hrun api.idempotency_cache _
  · split
    · exact hrun _ _
    · rw [wp_bind, wp_require]
      refine ⟨fun _ => trivial, fun _ h => ?_⟩
      cases h

theorem disposed_of_rolled {ext : External} {ledger : Ledger} {key : Option String}
    {dreq : DispositionRequest} {w : Write}
    (h : Answered cfg env user id r ext ledger (.disposition id key dreq) w)
    (hroll : rolls_up r (.disposition id key dreq) = true) :
    w.record = stamped env (disposed_record user dreq (sub_type_of r dreq.action) r) := by
  cases h with
  | submit_staged _ _ m haction => simp [rolls_up, haction] at hroll
  | submitted _ _ m result ext' haction => simp [rolls_up, haction] at hroll
  | drafted _ _ result ext' haction => simp [rolls_up, haction] at hroll
  | deduped _ _ preview ext' dkey haction => simp [rolls_up, haction] at hroll
  | sent _ _ preview ext' result ext'' dkey haction => simp [rolls_up, haction] at hroll
  | override_staged _ _ m haction hsend hstate hsub hm hhigh =>
    simp [rolls_up, hsub, needs_second_reviewer, hm, hhigh] at hroll
  | disposed => rfl

/-- What a request that rolls its case up writes is another record, unless it
is a disposition. -/
theorem disposition_of_same {ext : External} {ledger : Ledger} {w : Write}
    (h : Answered cfg env user id r ext ledger req w) (hroll : rolls_up r req = true)
    (hsame : w.record = r) : ∃ key dreq, req = .disposition id key dreq := by
  cases h with
  | submit_staged key dreq | submitted key dreq | drafted key dreq | deduped key dreq
  | sent key dreq | override_staged key dreq | disposed key dreq => exact ⟨key, dreq, rfl⟩
  | cosign_submitted key req p result ext' happrove haction hstate hpending =>
    simp [rolls_up, happrove, hpending, haction] at hroll
  | cosigned key req p happrove haction hstate hpending =>
    have hgone := congrArg (fun r : ChildCase => r.resolution_data.pending_override) hsame
    exact absurd (hgone.trans hpending) (by simp [stamped, cosigned_record])
  | cosign_rejected key req p happrove hstate hpending =>
    have hgone := congrArg (fun r : ChildCase => r.resolution_data.pending_override) hsame
    exact absurd (hgone.trans hpending) (by simp [stamped, cosign_rejected_record])
  | escalated key req =>
    have hmore := congrArg (fun r : ChildCase => r.resolution_data.escalations.length) hsame
    simp [stamped, escalated_record] at hmore
  | reanalyzed reason event fin nodes ext' =>
    have hmore := congrArg (fun r : ChildCase => r.reanalysis_history.length) hsame
    simp [reanalyzeWrite, stamped, with_reanalysis, reanalyzed_record] at hmore
  | challenged reason hstate =>
    have hmoved := congrArg ChildCase.lifecycle_state hsame
    cases hstate.symm.trans hmoved.symm
  | released reason risk hstate =>
    have hmoved := congrArg ChildCase.lifecycle_state hsame
    cases hstate.symm.trans hmoved.symm

end handlers

/-! ## A blocked request -/

/-- The record that the request is about. -/
def Request.exception_id : Request → Option String
  | .disposition id _ _ | .cosign id _ _ | .escalate id _ _ => some id
  | .reanalyze id _ | .challenge id _ | .admin_release id _ _ => some id
  | .resolve .. | .reconcile .. => none

section blocked

variable {cfg : Config} {st : Step} {api : Api} {id : String} {r : ChildCase}

theorem blocksLate_handle (hid : st.request.exception_id = some id)
    (hget : get_record api id st.user.org = some r) (hintake : OpensOrFinds st.env st.user.org)
    (hruns : rolls_up r st.request = false → RunsRaiseOther st.env) :
    BlocksLate cfg st.env st.user id r st.request api api (handle cfg st) := by
  have hfound : ∀ {f : ChildCase → ApiM ExceptionDetailResponse},
      BlocksLate cfg st.env st.user id r st.request api api (f r) →
      BlocksLate cfg st.env st.user id r st.request api api
        (get_or_404 id st.user.org >>= f) := by
    intro f hf
    unfold get_or_404
    rw [BlocksLate, wp_bind, wp_bind, wp_get, hget]
    exact hf
  have hanswered : ∀ {x : ApiM ExceptionDetailResponse},
      BlocksLate cfg st.env st.user id r st.request api api x →
      BlocksLate cfg st.env st.user id r st.request api api (some <$> x) := by
    intro x hx
    rw [BlocksLate, map_eq_pure_bind, wp_bind]
    exact wp_mono hx (fun _ _ _ => trivial) fun _ _ h => h
  unfold handle
  rcases hreq : st.request with ⟨event, explain⟩ | ⟨id', key, req⟩ | ⟨id', key, req⟩ |
    ⟨id', key, req⟩ | ⟨id', reason⟩ | ⟨id', reason⟩ | ⟨id', reason, risk⟩ |
    ⟨tenant_id, max_attempts⟩
  all_goals rw [hreq] at hid hruns hfound hanswered
  all_goals cases hid
  · refine hanswered (blocksLate_require fun _ => hfound ?_)
    exact blocksLate_with_idempotency hget fun api hget => blocksLate_dispose hget hruns
  · refine hanswered (blocksLate_require fun _ => hfound ?_)
    exact blocksLate_with_idempotency hget fun api hget => blocksLate_cosign hget hruns
  · refine hanswered (blocksLate_require fun _ => hfound (blocksLate_require fun hstate => ?_))
    exact blocksLate_with_idempotency hget fun api hget =>
      blocksLate_write hget rfl (.escalated key req hstate)
  · exact hanswered (blocksLate_reanalyze hget hintake)
  · refine hanswered (blocksLate_require fun _ => hfound (blocksLate_require fun hstate => ?_))
    have hstate : r.lifecycle_state = .RESOLVED := by
      simpa [CHALLENGE_SOURCE_STATES] using hstate
    exact blocksLate_write hget rfl (.challenged reason hstate)
  · refine hanswered (blocksLate_require fun _ => hfound (blocksLate_require fun hstate => ?_))
    have hstate : r.lifecycle_state = .BLOCKED := by
      simpa [ADMIN_RELEASE_SOURCE_STATES] using hstate
    exact blocksLate_require fun _ => blocksLate_write hget rfl (.released reason risk hstate)

/-- The record with its resolution data, the audit log and the case are as
they were. -/
structure AsBefore (id case_id : String) (api api' : Api) : Prop where
  record : dict.get api'.records id = dict.get api.records id
  audit_log : api'.audit_log = api.audit_log
  case : dict.get api'.cases case_id = dict.get api.cases case_id

/-- A disposition that makes of the record what it is already, to the
timestamp, on a database that loses the audit event. -/
def WritesNothing (cfg : Config) (st : Step) (r : ChildCase) : Prop :=
  match st.request with
  | .disposition _ _ req =>
    stamped st.env (disposed_record st.user req (sub_type_of r req.action) r) = r ∧
      cfg.store = .database ∧ st.env.audit_insert_ok = false
  | _ => False

theorem logged_eq_iff {env : StepEnv} {event : AuditEvent} {log : List AuditEvent} :
    logged cfg env event log = log ↔ cfg.store = .database ∧ env.audit_insert_ok = false := by
  unfold logged
  split
  · rename_i h
    exact ⟨fun _ => h, fun _ => rfl⟩
  · rename_i h
    exact ⟨fun heq => absurd heq (by simp), fun h' => absurd h' h⟩

/-- A request that ends because the case may not be closed has changed the
record, its resolution data or the audit log, unless it is a disposition that
wrote what was there already and whose audit event was lost. -/
theorem a_refused_close_leaves_its_writes_behind {case_id : String} {case : OrderCase}
    {e : ApiError} {api' : Api} (hid : st.request.exception_id = some id)
    (hget : get_record api id st.user.org = some r)
    (hcase : dict.get api.cases case_id = some case) (hintake : OpensOrFinds st.env st.user.org)
    (hruns : rolls_up r st.request = false → RunsRaiseOther st.env)
    (hend : handle cfg st api = .error e api') (hblock : e.is_close_block = true) :
    AsBefore id case_id api api' ↔ WritesNothing cfg st r := by
  obtain ⟨hroll, ⟨w, hanswer, hwrote⟩, hopened⟩ :=
    wp_error (blocksLate_handle hid hget hintake hruns) hend hblock
  have hrecord : dict.get api'.records id = some w.record := by
    rw [hwrote.records]
    exact dict.get_set_self _ _ _
  have hold := (get_record_some hget).1
  constructor
  · rintro ⟨hrecord', haudit, -⟩
    have hsame : w.record = r := Option.some.inj (hrecord.symm.trans (hrecord'.trans hold))
    obtain ⟨key, dreq, hreq⟩ := disposition_of_same hanswer hroll hsame
    unfold WritesNothing
    rw [hreq] at hanswer hroll ⊢
    exact ⟨(disposed_of_rolled hanswer hroll).symm.trans hsame,
      logged_eq_iff.mp (hwrote.audit_log.symm.trans haudit)⟩
  · intro hnothing
    have hcase' := (hopened.kept case_id case hcase).trans hcase.symm
    have haudit : cfg.store = .database → st.env.audit_insert_ok = false →
        api'.audit_log = api.audit_log := fun hstore hlost =>
      hwrote.audit_log.trans (logged_eq_iff.mpr ⟨hstore, hlost⟩)
    unfold WritesNothing at hnothing
    rcases hreq : st.request with ⟨event, explain⟩ | ⟨id', key, req⟩ | ⟨id', key, req⟩ |
      ⟨id', key, req⟩ | ⟨id', reason⟩ | ⟨id', reason⟩ | ⟨id', reason, risk⟩ |
      ⟨tenant_id, max_attempts⟩
    case disposition =>
      rw [hreq] at hnothing hid hanswer hroll
      cases hid
      obtain ⟨hsame, hstore, hlost⟩ := hnothing
      refine ⟨?_, haudit hstore hlost, hcase'⟩
      rw [hrecord, hold, disposed_of_rolled hanswer hroll, hsame]
    all_goals
      rw [hreq] at hnothing
      exact hnothing.elim

end blocked

/-! ## An approval under a case that needs triage -/

def duplicateRecord : ChildCase :=
  { id := "E1", tenant_id := "T1", order_id := "4711", event_type := "DUPLICATE_PO",
    trace_id := "t1", intent := some .DUPLICATE_PO, lifecycle_state := .PENDING_REVIEW,
    shadow_verdict := some .YELLOW, selected_recipe := some .DuplicatePORecipe,
    final_status := some .MANUAL_REVIEW_REQUIRED,
    resolution_data := { outputs := [("recommended_action", .str "ALLOW_BOTH")] },
    parent_case_id := some "C1", created_at := "2025-01-01", updated_at := "2025-01-01" }

/-- The only child of a case waits for a human. -/
def oneChild (supergroup_code : String) : Api :=
  { oneCase supergroup_code with records := [("E1", duplicateRecord)] }

def approveRequest : DispositionRequest :=
  { action := "ALLOW_BOTH", notes := "checked", reason_tag := "OTHER" }

def approveStep : Step :=
  ⟨intakeEnv (sampleRun 100), sampleUser "manager", .disposition "E1" none approveRequest⟩

theorem an_approval_is_refused_after_its_writes :
    ∃ e api', handle sampleConfig approveStep (oneChild SG_NEEDS_TRIAGE) = .error e api' ∧
      e.is_close_block = true := by
  have hrefused : wp (handle sampleConfig approveStep) (fun _ _ => False)
      (fun e _ => e.is_close_block = true) (oneChild SG_NEEDS_TRIAGE) := by decide +kernel
  rcases hend : handle sampleConfig approveStep (oneChild SG_NEEDS_TRIAGE) with ⟨a, api'⟩ | ⟨e, api'⟩
  · exact (wp_ok hrefused hend).elim
  · have hblock := wp_error hrefused hend
    exact ⟨e, api', rfl, hblock⟩

/-- The rule at that approval: it was refused, and something has changed. -/
theorem a_refused_approval_has_changed_the_record :
    ∃ e api', handle sampleConfig approveStep (oneChild SG_NEEDS_TRIAGE) = .error e api' ∧
      e.is_close_block = true ∧
      (AsBefore "E1" "C1" (oneChild SG_NEEDS_TRIAGE) api' ↔
        WritesNothing sampleConfig approveStep duplicateRecord) := by
  obtain ⟨e, api', hend, hblock⟩ := an_approval_is_refused_after_its_writes
  refine ⟨e, api', hend, hblock, ?_⟩
  have hintake : OpensOrFinds approveStep.env approveStep.user.org := intakeEnv_opensOrFinds _
  have hcase : dict.get (oneChild SG_NEEDS_TRIAGE).cases "C1" =
      some ⟨"C1", "T1", .OPEN_AWAITING_HUMAN, some SG_NEEDS_TRIAGE, none, none⟩ := rfl
  have hrolls : rolls_up duplicateRecord approveStep.request = true := by decide +kernel
  refine a_refused_close_leaves_its_writes_behind rfl rfl hcase hintake (fun h => ?_) hend hblock
  cases hrolls.symm.trans h

/-- The approval of the only child of a case that needs triage fails, and the
record is resolved. -/
theorem a_refused_approval_resolves_the_record :
    ¬ ∀ (cfg : Config) (st : Step) (api api' : Api) (id case_id : String) (r : ChildCase)
      (case : OrderCase) (e : ApiError), st.request.exception_id = some id →
      get_record api id st.user.org = some r → r.parent = some case_id →
      dict.get api.cases case_id = some case → case.supergroup_code = some SG_NEEDS_TRIAGE →
      handle cfg st api = .error e api' → e.is_close_block = true →
      AsBefore id case_id api api' := by
  intro h
  obtain ⟨e, api', hend, hblock⟩ := an_approval_is_refused_after_its_writes
  have hbefore := h sampleConfig approveStep (oneChild SG_NEEDS_TRIAGE) api' "E1" "C1"
    duplicateRecord _ e rfl rfl rfl rfl rfl hend hblock
  have hresolved : wp (handle sampleConfig approveStep) (fun _ _ => True)
      (fun _ api' => (dict.get api'.records "E1").map (·.lifecycle_state) = some .RESOLVED)
      (oneChild SG_NEEDS_TRIAGE) := by decide +kernel
  have hstate := wp_error hresolved hend
  rw [hbefore.record] at hstate
  cases hstate

end asoe
