-- What one request can do, said once: the endings of a request, with the
-- guards that it passed and everything that it wrote. The laws of the
-- service are case analyses over these endings.
import Asoe.Exceptions
import Asoe.Retries
import Asoe.Lib.Runs

namespace asoe

open py prog runs

/-! ## The stores -/

/-- A record as `update_record` stores it. -/
def stamped (env : StepEnv) (r : ChildCase) : ChildCase := { r with updated_at := env.now_iso }

/-- The audit log after one more event, when the insert goes through. -/
def logged (cfg : Config) (env : StepEnv) (event : AuditEvent) (log : List AuditEvent) :
    List AuditEvent :=
  if cfg.store = .database ∧ env.audit_insert_ok = false then log else log ++ [event]

theorem log_audit_event_eq (cfg : Config) (env : StepEnv) (event : AuditEvent) (api : Api) :
    log_audit_event cfg env event api =
      { api with audit_log := logged cfg env event api.audit_log } := by
  unfold log_audit_event logged
  split <;> rfl

theorem record_reviewer_override_eq (id : String) (api : Api) :
    ∃ n, record_reviewer_override_of_llm_downgrade id api =
      { api with llm_downgrade_overrides := n } := by
  unfold record_reviewer_override_of_llm_downgrade
  split
  · split
    · exact ⟨_, rfl⟩
    · exact ⟨api.llm_downgrade_overrides, rfl⟩
  · exact ⟨api.llm_downgrade_overrides, rfl⟩

variable {api : Api} {tenant : String}

theorem get_record_some {id : String} {r : ChildCase} (h : get_record api id tenant = some r) :
    dict.get api.records id = some r ∧ r.tenant_id = tenant := by
  unfold get_record at h
  split at h
  · rename_i r' hr
    split at h
    · rename_i ht
      cases h
      exact ⟨hr, ht⟩
    · cases h
  · cases h

section rules

variable {Q : ChildCase → Api → Prop} {E : ApiError → Api → Prop} {api : Api}

theorem wp_get_or_404 {id tenant : String}
    (hQ : ∀ r, get_record api id tenant = some r → Q r api) (hE : ∀ e, E e api) :
    wp (get_or_404 id tenant) Q E api := by
  unfold get_or_404
  rw [wp_bind, wp_get]
  rcases h : get_record api id tenant with _ | r
  · exact hE _
  · exact hQ r h

/-- A permission, then the record: what every endpoint checks first. -/
theorem wp_permitted_found {α : Type} {c : Prop} [Decidable c] {e : ApiError} {id tenant : String}
    {f : ChildCase → ApiM α} {Q : α → Api → Prop} (hrefused : ¬ c → ∀ e, E e api)
    (hmissing : (∀ r, get_record api id tenant ≠ some r) → ∀ e, E e api)
    (hf : c → ∀ r, get_record api id tenant = some r → wp (f r) Q E api) :
    wp (do
      require c e
      let record ← get_or_404 id tenant
      f record) Q E api := by
  rw [wp_bind, wp_require]
  refine ⟨fun hc => ?_, fun hno => hrefused hno _⟩
  rw [wp_bind]
  unfold get_or_404
  rw [wp_bind, wp_get]
  rcases hget : get_record api id tenant with _ | r
  · refine hmissing (fun r hr => ?_) _
    cases hget.symm.trans hr
  · exact hf hc r hget

theorem wp_update_record {env : StepEnv} {id tenant message : String}
    {fields : ChildCase → ChildCase} {r : ChildCase} (h : get_record api id tenant = some r)
    (hQ : Q (stamped env (fields r)) (put_record api id (stamped env (fields r)))) :
    wp (update_record env id tenant message fields) Q E api := by
  unfold update_record
  rw [wp_bind, wp_get, h]
  exact hQ

end rules

variable {env : StepEnv} {E : ApiError → Api → Prop}

/-- Rolling the parent case up touches the cases only. -/
theorem wp_recompute_case_status {cfg : Config} {case_id : String}
    {incoming : List LifecycleState} {Q : Unit → Api → Prop}
    (hQ : ∀ cases, Q () { api with cases := cases }) (hE : ∀ e, E e api) :
    wp (recompute_case_status cfg env tenant case_id incoming) Q E api := by
  have hupdate : ∀ case status closed_at,
      wp (update_case_status case_id case status closed_at) Q E api := by
    intro case status closed_at
    unfold update_case_status
    rw [wp_bind, wp_require]
    exact ⟨fun _ => hQ _, fun _ => hE _⟩
  unfold recompute_case_status
  rw [wp_bind, wp_get]
  split
  · exact hQ api.cases
  · split
    · exact hQ api.cases
    · dsimp only
      split
      · exact hQ api.cases
      · split
        · exact hQ api.cases
        · split <;> exact hupdate _ _ _

theorem wp_reaggregate {cfg : Config} {record : ChildCase} {Q : Unit → Api → Prop}
    (hQ : ∀ cases, Q () { api with cases := cases }) (hE : ∀ e, E e api) :
    wp (reaggregate_parent_case cfg env tenant record) Q E api := by
  unfold reaggregate_parent_case
  split
  · split
    · exact hQ api.cases
    · exact wp_recompute_case_status hQ hE
  · exact hQ api.cases

/-- The cache answers, refuses, or lets the handler run; whatever the cache
holds before and after is its own business. -/
theorem wp_with_idempotency {user : AuthenticatedUser} {id : String}
    {key : Option String} {body : PyDict} {handler : ApiM ExceptionDetailResponse}
    {Q : ExceptionDetailResponse → Api → Prop}
    (hhandler : ∀ cache, wp handler
      (fun resp api' => ∀ cache', Q resp { api' with idempotency_cache := cache' }) E
      { api with idempotency_cache := cache })
    (hcached : ∀ resp, Q resp api) (hE : ∀ e, E e api) :
    wp (with_idempotency env user id key body handler) Q E api := by
  unfold with_idempotency validate_idempotency_key
  rw [wp_bind, wp_require]
  refine ⟨fun _ => ?_, fun _ => hE _⟩
  rcases key with _ | k
  · exact wp_mono (hhandler api.idempotency_cache) (fun _ api' h => h api'.idempotency_cache)
      fun _ _ h => h
  -- Past the lookup the handler runs, and its answer is stored.
  have hrun : ∀ cache, wp (do
      let response ← handler
      modify (idempotency_store env (user.org, id, user.sub, k) body response)
      return response) Q E { api with idempotency_cache := cache } := by
    intro cache
    rw [wp_bind]
    exact wp_mono (hhandler cache) (fun _ _ h => h _) fun _ _ h => h
  dsimp only
  unfold idempotency_lookup
  rw [wp_bind, wp_bind, wp_get]
  split
  · exact hrun api.idempotency_cache
  · split
    · exact hrun _
    · rw [wp_bind, wp_require]
      exact ⟨fun _ => hcached _, fun _ => hE _⟩

/-! ## Graph runs of the service -/

/-- How a directed run on a record ends. -/
inductive DirectedEnd (env : RunEnv) (id tenant : String) (r : ChildCase) (recipe : RecipeName)
    (params : PyDict) (ext : External) : Except PyErr GraphState → External → Prop where
  | no_event (e : PyErr) (hevent : r.original_event = none) :
      DirectedEnd env id tenant r recipe params ext (.error e) ext
  | ran (event : OrderEvent) (outcome : Except PyErr GraphState) (ext' : External)
      (hevent : r.original_event = some event)
      (hrun : RunEnd env (some id) (directed_state tenant r recipe params event) ext outcome ext') :
      DirectedEnd env id tenant r recipe params ext outcome ext'

/-- What a directed run hands back: what its recipe left, or nothing when it
was stopped before. -/
theorem DirectedEnd.outputs {env : RunEnv} {id tenant : String} {r : ChildCase}
    {recipe : RecipeName} {params : PyDict} {ext ext' : External} {result : GraphState}
    (h : DirectedEnd env id tenant r recipe params ext (.ok result) ext') :
    ∃ event, r.original_event = some event ∧
      ((∃ s, Executes env (directed_state tenant r recipe params event) s ∧
          result.outputs = s.outputs) ∨
        (∀ s, ¬ Executes env (directed_state tenant r recipe params event) s) ∧
          (env.kill_switch = true ∨
            ∃ p, proposal_phase env (directed_state tenant r recipe params event) = .ok p) ∧
          result.outputs = []) := by
  cases h with
  | ran event _ _ hevent hrun =>
    refine ⟨event, hevent, ?_⟩
    cases hrun with
    | halted _ hexec hreach hlog =>
      exact Or.inr ⟨hexec, hreach, by simp [GraphState.outputs, hlog, directed_state]⟩
    | done s _ hexec hlog => exact Or.inl ⟨s, hexec, by simp [GraphState.outputs, hlog]⟩

/-- A directed run calls no effect gateway, or makes the one call that its
recipe asks for. -/
theorem DirectedEnd.external {env : RunEnv} {id tenant : String} {r : ChildCase}
    {recipe : RecipeName} {params : PyDict} {ext ext' : External}
    {outcome : Except PyErr GraphState}
    (h : DirectedEnd env id tenant r recipe params ext outcome ext') :
    ext' = ext ∨ ∃ event s req, r.original_event = some event ∧
      Executes env (directed_state tenant r recipe params event) s ∧
      s.selected_recipe = some recipe ∧ requested s = some req ∧
      ext' = effected env (some id) s req ext := by
  cases h with
  | no_event => exact Or.inl rfl
  | ran event _ _ hevent hrun =>
    rcases hrun.external with h | ⟨s, req, hexec, hreq, h⟩
    · exact Or.inl h
    · refine Or.inr ⟨event, s, req, hevent, hexec, ?_, hreq, h⟩
      rcases hsel : s.selected_recipe with _ | name
      · simp [requested, hsel] at hreq
      · exact congrArg some (hexec.proposable rfl name hsel)

theorem directedEnd_keyed {env : RunEnv} {id : String} {r : ChildCase}
    {recipe : RecipeName} {params : PyDict} {ext ext' : External}
    {outcome : Except PyErr GraphState} (hkeyed : Keyed ext)
    (h : DirectedEnd env id tenant r recipe params ext outcome ext') : Keyed ext' := by
  rcases h.external with rfl | ⟨event, s, req, -, -, -, -, rfl⟩
  · exact hkeyed
  · exact effected_keyed _ _ _ _ _ hkeyed

variable {Q : GraphState → Api → Prop}

theorem wp_run_graph_safe {env : RunEnv} {origin : Option String} {state : GraphState}
    (hQ : ∀ fin ext', RunEnd env origin state api.external (.ok fin) ext' →
      Q fin { api with external := ext' })
    (hE : ∀ e ext', RunEnd env origin state api.external (.error e) ext' →
      E (.raised e) { api with external := ext' }) :
    wp (run_graph_safe env origin state) Q E api := by
  unfold run_graph_safe
  rw [wp_zoom, wp_mapError]
  exact wp_mono (run_graph_end env origin state api.external) (fun fin ext' h => hQ fin ext' h)
    fun e ext' h => hE e ext' h

theorem wp_run_directed {env : RunEnv} {id : String} {r : ChildCase} {recipe : RecipeName}
    {params : PyDict}
    (hQ : ∀ fin ext', DirectedEnd env id tenant r recipe params api.external (.ok fin) ext' →
      Q fin { api with external := ext' })
    (hE : ∀ e e' ext', DirectedEnd env id tenant r recipe params api.external (.error e) ext' →
      E e' { api with external := ext' }) :
    wp (run_directed env id tenant r recipe params) Q E api := by
  unfold run_directed
  split
  · rename_i hevent
    exact hE ⟨"", ""⟩ _ api.external (.no_event _ hevent)
  · rename_i event hevent
    exact wp_run_graph_safe (fun fin ext' h => hQ fin ext' (.ran event _ ext' hevent h))
      fun e ext' h => hE e _ ext' (.ran event _ ext' hevent h)

/-- How the run of a new or of a replayed event ends: on the graph, or with
the case agent, which calls no effect gateway. -/
inductive ResolveEnd (env : StepEnv) (origin : String) (state : GraphState) (ext : External) :
    Except PyErr GraphState → External → Prop where
  | graph (outcome : Except PyErr GraphState) (ext' : External)
      (hrun : RunEnd env.first_run (some origin) state ext outcome ext') :
      ResolveEnd env origin state ext outcome ext'
  | agent (outcome : Except PyErr GraphState) : ResolveEnd env origin state ext outcome ext

theorem ResolveEnd.external {env : StepEnv} {origin : String} {state : GraphState}
    {ext ext' : External} {outcome : Except PyErr GraphState}
    (h : ResolveEnd env origin state ext outcome ext') :
    ext' = ext ∨ ∃ s req, Executes env.first_run state s ∧ requested s = some req ∧
      ext' = effected env.first_run (some origin) s req ext := by
  cases h with
  | graph _ hrun => exact hrun.external
  | agent => exact Or.inl rfl

theorem resolveEnd_keyed {origin : String} {state : GraphState}
    {ext ext' : External} {outcome : Except PyErr GraphState} (hkeyed : Keyed ext)
    (h : ResolveEnd env origin state ext outcome ext') : Keyed ext' := by
  rcases h.external with rfl | ⟨s, req, -, -, rfl⟩
  · exact hkeyed
  · exact effected_keyed _ _ _ _ _ hkeyed

theorem wp_lift_py {α : Type} {x : Except PyErr α} {Q : α → Api → Prop}
    (hQ : ∀ a, x = .ok a → Q a api)
    (hE : ∀ e, x = .error e → E (.raised e) api) : wp (lift_py x) Q E api := by
  unfold lift_py
  rw [wp_ofExcept]
  rcases x with e | a
  · refine ⟨fun a h => (by cases h), fun e' h => ?_⟩
    cases h
    exact hE e rfl
  · refine ⟨fun a' h => ?_, fun e h => (by cases h)⟩
    cases h
    exact hQ a rfl

theorem wp_resolve_state {origin : String} {state : GraphState}
    (hQ : ∀ fin ext' cases, ResolveEnd env origin state api.external (.ok fin) ext' →
      Q fin { api with external := ext', cases := cases })
    (hE : ∀ e e' ext' cases, ResolveEnd env origin state api.external (.error e) ext' →
      E e' { api with external := ext', cases := cases }) :
    wp (resolve_state env origin state) Q E api := by
  have herr : ∀ e cases, E e { api with cases := cases } := fun e cases =>
    hE ⟨"", ""⟩ e api.external cases (.agent _)
  unfold resolve_state
  split
  · unfold resolve_via_case_agent
    rw [wp_bind]
    refine wp_lift_py (fun shadow _ => ?_) fun e _ => herr _ api.cases
    dsimp only
    split
    · exact hQ _ api.external api.cases (.agent _)
    · rw [wp_bind, wp_get, wp_bind]
      refine wp_lift_py (fun opened _ => ?_) fun e _ => herr _ api.cases
      rw [wp_bind, wp_modify, wp_bind]
      refine wp_lift_py (fun _ _ => ?_) fun e _ => herr _ _
      rw [wp_bind]
      refine wp_lift_py (fun result _ => ?_) fun e _ => herr _ _
      exact wp_lift_py (fun fin _ => hQ fin api.external _ (.agent _)) fun e _ => herr _ _
  · exact wp_run_graph_safe (fun fin ext' h => hQ fin ext' api.cases (.graph _ ext' h))
      fun e ext' h => hE e _ ext' api.cases (.graph _ ext' h)

/-! ## The endings of a request on a record -/

/-- Everything that an answered request writes, the caches apart. -/
structure Write where
  record : ChildCase
  event : AuditEvent
  external : External
  sent : Option (String × ReplySentEntry) := none

abbrev Ledger := List ((String × String) × ReplySentEntry)

def Write.ledger (w : Write) (tenant : String) (ledger : Ledger) : Ledger :=
  match w.sent with
  | some (key, entry) => dict.set ledger (tenant, key) entry
  | none => ledger

section endings

variable (cfg : Config) (env : StepEnv) (user : AuthenticatedUser) (id : String) (r : ChildCase)
  (ext : External) (ledger : Ledger)

/-- The run of a submit, of the corrections that it is given. -/
abbrev SubmitEnd (corrections : Option PyDict) :=
  DirectedEnd env.first_run id user.org r .SubmitToErpRecipe (corrections.getD []) ext

/-- The first run of a reply: the draft, or the preview of a send. -/
abbrev DraftEnd (reply : Option PyDict) :=
  DirectedEnd env.first_run id user.org r .ReplyDraftRecipe (reply.getD []) ext

/-- The second run of a send, with its mode set. -/
abbrev SendEnd (reply : Option PyDict) :=
  DirectedEnd env.second_run id user.org r .ReplyDraftRecipe
    (dict.set (reply.getD []) "mode" (.str "send"))

/-- The preview found no reply that the ledger has seen. -/
def Unseen (preview : GraphState) : Prop :=
  ∃ dkey, preview_key cfg id preview = .ok dkey ∧
    ∀ k, dkey = some k → dict.get ledger (user.org, k) = none

def stageWrite (req : DispositionRequest) (m : PyFloat) : Write :=
  let after := stamped env (parked_record (pending_submit env user r req m) r)
  ⟨after, submit_staged_event user id req.notes m (held cfg r after), ext, none⟩

def submitWrite (result : GraphState) (submitter notes : String) (cosign : Option CosignMeta)
    (ext' : External) : Write :=
  let submission := erp_submission_record env result submitter
  let after := stamped env (submitted_record submission submitter notes cosign r)
  ⟨after, erp_submit_event id user.org submitter notes submission (held cfg r after), ext', none⟩

def draftWrite (req : DispositionRequest) (result : GraphState) (ext' : External) : Write :=
  let entry := reply_draft_entry env r result user.sub
  ⟨stamped env (drafted_record entry r), reply_draft_event id user.org user.sub req.notes entry,
    ext', none⟩

def sendWrite (req : DispositionRequest) (result : GraphState) (dkey : String) (ext' : External) :
    Write :=
  let entry := reply_sent_entry env result dkey user.sub
  ⟨stamped env (sent_record entry r),
    reply_sent_event id user.org user.sub req.notes (reply_sent_ok result) entry, ext',
    if reply_sent_ok result then some (dkey, entry) else none⟩

def reanalyzeWrite (reason : String) (nodes : List ExecutedNode) (fin : GraphState)
    (ext' : External) : Write :=
  let entry := reanalysis_entry env user reason r nodes fin
  ⟨stamped env (with_reanalysis entry (stamped env (reanalyzed_record env fin r))),
    reanalyzed_event user id reason entry, ext', none⟩

/-- The requests that were carried out: one constructor for each branch of
a handler that writes, with the guards of the branch. -/
inductive Answered : Request → Write → Prop where
  | submit_staged (key req m) (haction : req.action = "SUBMIT_TO_ERP")
      (hstate : r.lifecycle_state ∈ HITL_DISPOSITION_STATES)
      (hm : cosign_materiality_usd r = .ok (some m)) (hhigh : is_high_value (some m) = true) :
      Answered (.disposition id key req) (stageWrite cfg env user id r ext req m)
  | submitted (key req m result ext') (haction : req.action = "SUBMIT_TO_ERP")
      (hstate : r.lifecycle_state ∈ HITL_DISPOSITION_STATES)
      (hm : cosign_materiality_usd r = .ok m) (hlow : is_high_value m = false)
      (hrun : SubmitEnd env user id r ext req.corrections (.ok result) ext') :
      Answered (.disposition id key req)
        (submitWrite cfg env user id r result user.sub req.notes none ext')
  | drafted (key req result ext') (haction : req.action = "DRAFT_REPLY")
      (hstate : r.lifecycle_state ∈ HITL_DISPOSITION_STATES)
      (hrun : DraftEnd env user id r ext req.reply (.ok result) ext') :
      Answered (.disposition id key req) (draftWrite env user id r req result ext')
  | deduped (key req preview ext' dkey) (haction : req.action = "SEND_REPLY")
      (hstate : r.lifecycle_state ∈ HITL_DISPOSITION_STATES)
      (hrun : DraftEnd env user id r ext req.reply (.ok preview) ext')
      (hkey : preview_key cfg id preview = .ok (some dkey))
      (hseen : (dict.get ledger (user.org, dkey)).isSome = true) :
      Answered (.disposition id key req)
        ⟨r, reply_deduped_event user id req.notes preview dkey, ext', none⟩
  | sent (key req preview ext' result ext'' dkey) (haction : req.action = "SEND_REPLY")
      (hstate : r.lifecycle_state ∈ HITL_DISPOSITION_STATES)
      (hrun : DraftEnd env user id r ext req.reply (.ok preview) ext')
      (hunseen : Unseen cfg user id ledger preview)
      (hsend : SendEnd env user id r req.reply ext' (.ok result) ext'')
      (hkey : reply_delivery_key cfg id (draft_of result) = .ok dkey) :
      Answered (.disposition id key req) (sendWrite env user id r req result dkey ext'')
  | override_staged (key req m) (haction : req.action ≠ "SUBMIT_TO_ERP")
      (hsend : req.action ≠ "SEND_REPLY" ∧ req.action ≠ "DRAFT_REPLY")
      (hstate : r.lifecycle_state ∈ HITL_OVERRIDE_STATES) (hsub : sub_type_of r req.action = .OVERRIDE)
      (hm : cosign_materiality_usd r = .ok (some m)) (hhigh : is_high_value (some m) = true) :
      Answered (.disposition id key req)
        ⟨stamped env (parked_record (pending_override_of env user r req m) r),
          override_staged_event user id r req m, ext, none⟩
  | disposed (key req) (haction : req.action ≠ "SUBMIT_TO_ERP")
      (hsend : req.action ≠ "SEND_REPLY" ∧ req.action ≠ "DRAFT_REPLY")
      (hstate : r.lifecycle_state ∈
        if sub_type_of r req.action = .OVERRIDE then HITL_OVERRIDE_STATES
        else HITL_DISPOSITION_STATES) :
      Answered (.disposition id key req)
        ⟨stamped env (disposed_record user req (sub_type_of r req.action) r),
          disposed_event user id r req (sub_type_of r req.action), ext, none⟩
  | cosign_submitted (key req pending result ext') (happrove : req.approve = true)
      (haction : pending.action = "SUBMIT_TO_ERP") (hstate : r.lifecycle_state = .PENDING_COSIGN)
      (hpending : r.resolution_data.pending_override = some pending)
      (hother : pending.initiator ≠ user.sub)
      (hrun : SubmitEnd env user id r ext pending.corrections (.ok result) ext') :
      Answered (.cosign id key req)
        (submitWrite cfg env user id r result pending.initiator req.notes
          (some (cosign_meta env user req pending)) ext')
  | cosigned (key req pending) (happrove : req.approve = true)
      (haction : pending.action ≠ "SUBMIT_TO_ERP") (hstate : r.lifecycle_state = .PENDING_COSIGN)
      (hpending : r.resolution_data.pending_override = some pending)
      (hother : pending.initiator ≠ user.sub) :
      Answered (.cosign id key req)
        ⟨stamped env (cosigned_record env user req pending r), cosigned_event user id r req pending,
          ext, none⟩
  | cosign_rejected (key req pending) (happrove : req.approve = false)
      (hstate : r.lifecycle_state = .PENDING_COSIGN)
      (hpending : r.resolution_data.pending_override = some pending)
      (hother : pending.initiator ≠ user.sub) :
      Answered (.cosign id key req)
        ⟨stamped env (cosign_rejected_record env user req pending r),
          cosign_rejected_event user id r req pending, ext, none⟩
  | escalated (key req) (hstate : r.lifecycle_state ∈ ESCALATE_ELIGIBLE_STATES) :
      Answered (.escalate id key req)
        ⟨stamped env (escalated_record env user req r),
          escalated_event user id r.lifecycle_state req, ext, none⟩
  | reanalyzed (reason event fin nodes ext') (hstate : is_reanalyzable r = true)
      (hattempts : r.reanalysis_history.length < REANALYSIS_MAX_ATTEMPTS)
      (hevent : r.original_event = some event)
      (hrun : ResolveEnd env id { event := event, tenant_id := some user.org } ext (.ok fin) ext') :
      Answered (.reanalyze id reason) (reanalyzeWrite env user id r reason nodes fin ext')
  | challenged (reason) (hstate : r.lifecycle_state = .RESOLVED) :
      Answered (.challenge id reason)
        ⟨stamped env (challenged_record reason r), challenge_event user id reason, ext, none⟩
  | released (reason risk) (hstate : r.lifecycle_state = .BLOCKED) :
      Answered (.admin_release id reason risk)
        ⟨stamped env (released_record reason r), admin_release_event user id r reason, ext, none⟩

/-- The requests that gave up after a graph run: the run raised, or what it
handed back could not be used. Only the outside has changed. -/
inductive Abandoned : Request → External → Prop where
  | submit (key req m e ext') (haction : req.action = "SUBMIT_TO_ERP")
      (hstate : r.lifecycle_state ∈ HITL_DISPOSITION_STATES)
      (hm : cosign_materiality_usd r = .ok m) (hlow : is_high_value m = false)
      (hrun : SubmitEnd env user id r ext req.corrections (.error e) ext') :
      Abandoned (.disposition id key req) ext'
  | draft (key req e ext') (haction : req.action = "DRAFT_REPLY")
      (hrun : DraftEnd env user id r ext req.reply (.error e) ext') :
      Abandoned (.disposition id key req) ext'
  | preview (key req outcome ext') (haction : req.action = "SEND_REPLY")
      (hrun : DraftEnd env user id r ext req.reply outcome ext') :
      Abandoned (.disposition id key req) ext'
  | send (key req preview ext' outcome ext'') (haction : req.action = "SEND_REPLY")
      (hrun : DraftEnd env user id r ext req.reply (.ok preview) ext')
      (hunseen : Unseen cfg user id ledger preview)
      (hsend : SendEnd env user id r req.reply ext' outcome ext'')
      (hbroke : ∀ result, outcome = .ok result →
        ∃ e, reply_delivery_key cfg id (draft_of result) = .error e) :
      Abandoned (.disposition id key req) ext''
  | cosign_submit (key req pending e ext') (happrove : req.approve = true)
      (haction : pending.action = "SUBMIT_TO_ERP") (hstate : r.lifecycle_state = .PENDING_COSIGN)
      (hpending : r.resolution_data.pending_override = some pending)
      (hother : pending.initiator ≠ user.sub)
      (hrun : SubmitEnd env user id r ext pending.corrections (.error e) ext') :
      Abandoned (.cosign id key req) ext'
  | reanalyze (reason event e ext') (hstate : is_reanalyzable r = true)
      (hevent : r.original_event = some event)
      (hrun : ResolveEnd env id { event := event, tenant_id := some user.org } ext (.error e) ext') :
      Abandoned (.reanalyze id reason) ext'

end endings

/-- The stores after an answered request. -/
structure Wrote (cfg : Config) (env : StepEnv) (tenant id : String) (w : Write) (api api' : Api) :
    Prop where
  records : api'.records = dict.set api.records id w.record
  audit_log : api'.audit_log = logged cfg env w.event api.audit_log
  external : api'.external = w.external
  delivery_dedup : api'.delivery_dedup = w.ledger tenant api.delivery_dedup

/-- The stores that a refused request leaves alone. -/
structure Kept (api api' : Api) : Prop where
  records : api'.records = api.records
  audit_log : api'.audit_log = api.audit_log
  delivery_dedup : api'.delivery_dedup = api.delivery_dedup

section handlers

variable (cfg : Config) (env : StepEnv) (user : AuthenticatedUser) (id : String) (r : ChildCase)

/-- The request was carried out, and it was answered with the record. -/
def Answers (api : Api) (req : Request) (resp : ExceptionDetailResponse) (api' : Api) : Prop :=
  ∃ w, Answered cfg env user id r api.external api.delivery_dedup req w ∧
    Wrote cfg env user.org id w api api' ∧ resp = w.record.to_detail

/-- The request was refused: before it did anything, after a graph run, or
when the parent case could not follow what it had already written. -/
def Refuses (api : Api) (req : Request) (api' : Api) : Prop :=
  (∃ w, Answered cfg env user id r api.external api.delivery_dedup req w ∧
    Wrote cfg env user.org id w api api') ∨
  (Kept api api' ∧ (api'.external = api.external ∨
    Abandoned cfg env user id r api.external api.delivery_dedup req api'.external))

variable {cfg env user id r}

theorem refuses_idle (api : Api) (req : Request) : Refuses cfg env user id r api req api :=
  Or.inr ⟨⟨rfl, rfl, rfl⟩, Or.inl rfl⟩

variable {api : Api}

theorem refuses_abandoned {req : Request} {ext' : External}
    (h : Abandoned cfg env user id r api.external api.delivery_dedup req ext') :
    Refuses cfg env user id r api req { api with external := ext' } :=
  Or.inr ⟨⟨rfl, rfl, rfl⟩, Or.inr h⟩

theorem wrote_logged {w : Write} (hext : w.external = api.external) (hsent : w.sent = none) :
    Wrote cfg env user.org id w api
      (log_audit_event cfg env w.event (put_record api id w.record)) := by
  rw [log_audit_event_eq]
  exact ⟨rfl, rfl, hext.symm, by simp [Write.ledger, hsent, put_record]⟩

variable {E : ApiError → Api → Prop}

theorem wp_require_state {record : ChildCase} {allowed : List LifecycleState} {action : String}
    {Q : Unit → Api → Prop}
    (hQ : record.lifecycle_state ∈ allowed → Q () api) (hE : ∀ e, E e api) :
    wp (require_state record allowed action) Q E api :=
  (wp_require _ _).mpr ⟨hQ, fun _ => hE _⟩

variable {req : DispositionRequest}

theorem wp_require_order_entry {code applies no_order action : String} {Q : Unit → Api → Prop}
    (hQ : r.lifecycle_state ∈ HITL_DISPOSITION_STATES → Q () api) (hE : ∀ e, E e api) :
    wp (require_order_entry r req code applies no_order action) Q E api := by
  unfold require_order_entry require_notes
  simp only [wp_bind, wp_require]
  exact ⟨fun _ => ⟨fun _ => ⟨fun _ => wp_require_state hQ hE, fun _ => hE _⟩, fun _ => hE _⟩,
    fun _ => hE _⟩

theorem wp_persist_erp_submit {result : GraphState} {submitter notes : String}
    {cosign : Option CosignMeta} {Q : ChildCase → Api → Prop}
    (hget : get_record api id user.org = some r)
    (hQ : ∀ api', Wrote cfg env user.org id
        (submitWrite cfg env user id r result submitter notes cosign api.external) api api' →
      Q (submitWrite cfg env user id r result submitter notes cosign api.external).record api') :
    wp (persist_erp_submit cfg env id user.org r result submitter notes cosign) Q E api := by
  unfold persist_erp_submit
  rw [wp_bind]
  refine wp_update_record hget ?_
  rw [wp_bind, wp_modify, wp_pure]
  exact hQ _ (wrote_logged rfl rfl)

variable {key : Option String}

theorem wp_disposition_erp_submit
    (haction : req.action = "SUBMIT_TO_ERP") (hget : get_record api id user.org = some r) :
    wp (disposition_erp_submit cfg env user id r req)
      (Answers cfg env user id r api (.disposition id key req))
      (fun _ => Refuses cfg env user id r api (.disposition id key req)) api := by
  unfold disposition_erp_submit
  rw [wp_bind]
  refine wp_require_order_entry (fun hstate => ?_) fun _ => refuses_idle api _
  rw [wp_bind]
  refine wp_lift_py (fun m hm => ?_) fun _ _ => refuses_idle api _
  rw [wp_ite]
  refine ⟨fun hhigh => ?_, fun hlow => ?_⟩
  · rcases m with _ | m
    · cases hhigh
    unfold stage_erp_submit
    simp only [wp_bind]
    refine wp_update_record hget ?_
    rw [wp_modify, wp_pure, wp_pure]
    exact ⟨_, .submit_staged key req m haction hstate hm hhigh, wrote_logged rfl rfl, rfl⟩
  · rw [wp_bind]
    refine wp_run_directed (fun result ext' hrun => ?_) fun e e' ext' hrun => ?_
    · rw [wp_bind]
      refine wp_persist_erp_submit hget fun api' hwrote => ?_
      exact ⟨_, .submitted key req m result ext' haction hstate hm (by simpa using hlow) hrun,
        ⟨hwrote.records, hwrote.audit_log, hwrote.external, hwrote.delivery_dedup⟩, rfl⟩
    · exact refuses_abandoned
        (.submit key req m e ext' haction hstate hm (by simpa using hlow) hrun)

theorem wp_disposition_draft_reply
    (haction : req.action = "DRAFT_REPLY") (hget : get_record api id user.org = some r) :
    wp (disposition_draft_reply cfg env user id r req)
      (Answers cfg env user id r api (.disposition id key req))
      (fun _ => Refuses cfg env user id r api (.disposition id key req)) api := by
  unfold disposition_draft_reply
  rw [wp_bind]
  refine wp_require_order_entry (fun hstate => ?_) fun _ => refuses_idle api _
  rw [wp_bind]
  refine wp_run_directed (fun result ext' hrun => ?_) fun e e' ext' hrun =>
    refuses_abandoned (.draft key req e ext' haction hrun)
  unfold persist_reply_draft
  simp only [wp_bind]
  refine wp_update_record hget ?_
  rw [wp_modify, wp_pure, wp_pure, log_audit_event_eq]
  exact ⟨_, .drafted key req result ext' haction hstate hrun, ⟨rfl, rfl, rfl, rfl⟩, rfl⟩

/-- The second half of a send, after a preview that the ledger has not
seen. -/
theorem wp_send_reply {preview : GraphState} {ext' : External} (haction : req.action = "SEND_REPLY")
    (hget : get_record api id user.org = some r)
    (hstate : r.lifecycle_state ∈ HITL_DISPOSITION_STATES)
    (hrun : DraftEnd env user id r api.external req.reply (.ok preview) ext')
    (hunseen : Unseen cfg user id api.delivery_dedup preview) :
    wp (send_reply cfg env user id r req)
      (Answers cfg env user id r api (.disposition id key req))
      (fun _ => Refuses cfg env user id r api (.disposition id key req))
      { api with external := ext' } := by
  unfold send_reply
  rw [wp_bind]
  refine wp_run_directed (fun result ext'' hsend => ?_) fun e e' ext'' hsend =>
    refuses_abandoned (.send key req preview ext' _ ext'' haction hrun hunseen hsend
      fun result h => (by cases h))
  unfold persist_reply_sent
  simp only [wp_bind]
  refine wp_lift_py (fun dkey hkey => ?_) fun e he => ?_
  · rw [wp_modify]
    refine wp_update_record (r := r) (by split <;> exact hget) ?_
    rw [wp_modify, wp_pure, wp_pure, log_audit_event_eq]
    refine ⟨_, .sent key req preview ext' result ext'' dkey haction hstate hrun hunseen hsend hkey,
      ?_, rfl⟩
    by_cases hok : reply_sent_ok result = true
    · simp only [hok, if_true]
      exact ⟨rfl, by simp [sendWrite, delivery_record, put_record, hok], rfl,
        by simp [sendWrite, Write.ledger, delivery_record, put_record, hok]⟩
    · simp only [hok]
      exact ⟨rfl, by simp [sendWrite, put_record, hok], rfl,
        by simp [sendWrite, Write.ledger, put_record, hok]⟩
  · refine refuses_abandoned (.send key req preview ext' _ ext'' haction hrun hunseen hsend ?_)
    intro result' h
    cases h
    exact ⟨e, he⟩

theorem wp_disposition_send_reply
    (haction : req.action = "SEND_REPLY") (hget : get_record api id user.org = some r) :
    wp (disposition_send_reply cfg env user id r req)
      (Answers cfg env user id r api (.disposition id key req))
      (fun _ => Refuses cfg env user id r api (.disposition id key req)) api := by
  unfold disposition_send_reply
  rw [wp_bind]
  refine wp_require_order_entry (fun hstate => ?_) fun _ => refuses_idle api _
  rw [wp_bind]
  refine wp_run_directed (fun preview ext' hrun => ?_) fun e e' ext' hrun =>
    refuses_abandoned (.preview key req _ ext' haction hrun)
  rw [wp_bind]
  refine wp_lift_py (fun dkey hdkey => ?_) fun e _ =>
    refuses_abandoned (.preview key req _ ext' haction hrun)
  rw [wp_bind, wp_get]
  split
  · rename_i k hk
    obtain ⟨rfl, hseen⟩ := Option.filter_eq_some_iff.mp hk
    unfold dedupe_reply
    simp only [wp_bind, wp_modify, wp_get, wp_pure, log_audit_event_eq]
    refine ⟨_, .deduped key req preview ext' k haction hstate hrun hdkey hseen, ?_, ?_⟩
    · exact ⟨(dict.set_of_get (get_record_some hget).1).symm, rfl, rfl, rfl⟩
    · have hget' : get_record { api with
          external := ext', audit_log := logged cfg env
            (reply_deduped_event user id req.notes preview k) api.audit_log } id user.org = some r := hget
      rw [hget']
      rfl
  · rename_i hk
    refine wp_send_reply haction hget hstate hrun ⟨dkey, hdkey, fun k hk' => ?_⟩
    rw [Option.filter_eq_none_iff] at hk
    simpa [delivery_seen] using hk k hk'

theorem wp_rolled_up {req : Request} {w : Write} {api' : Api} {updated : ChildCase}
    (hanswer : Answered cfg env user id r api.external api.delivery_dedup req w)
    (hwrote : Wrote cfg env user.org id w api api') :
    wp (do
        reaggregate_parent_case cfg env user.org updated
        return w.record.to_detail)
      (Answers cfg env user id r api req) (fun _ => Refuses cfg env user id r api req) api' := by
  rw [wp_bind]
  refine wp_reaggregate (fun cases => ?_) fun e => Or.inl ⟨w, hanswer, hwrote⟩
  exact ⟨w, hanswer, ⟨hwrote.records, hwrote.audit_log, hwrote.external, hwrote.delivery_dedup⟩,
    rfl⟩

theorem Wrote.counted {w : Write} {tenant : String} {api' : Api}
    (h : Wrote cfg env tenant id w api api') :
    Wrote cfg env tenant id w api (record_reviewer_override_of_llm_downgrade id api') := by
  obtain ⟨n, hn⟩ := record_reviewer_override_eq id api'
  rw [hn]
  exact ⟨h.records, h.audit_log, h.external, h.delivery_dedup⟩

theorem wp_apply_disposition (haction : req.action ≠ "SUBMIT_TO_ERP")
    (hsend : req.action ≠ "SEND_REPLY" ∧ req.action ≠ "DRAFT_REPLY")
    (hget : get_record api id user.org = some r)
    (hstate : r.lifecycle_state ∈
      if sub_type_of r req.action = .OVERRIDE then HITL_OVERRIDE_STATES
      else HITL_DISPOSITION_STATES) :
    wp (apply_disposition cfg env user id r req (sub_type_of r req.action))
      (Answers cfg env user id r api (.disposition id key req))
      (fun _ => Refuses cfg env user id r api (.disposition id key req)) api := by
  unfold apply_disposition
  rw [wp_bind]
  refine wp_update_record hget ?_
  rw [wp_bind, wp_modify, wp_bind, wp_modify]
  refine wp_rolled_up (.disposed key req haction hsend hstate) ?_
  split
  · exact (wrote_logged rfl rfl).counted
  · exact wrote_logged rfl rfl

theorem wp_override_exception (haction : req.action ≠ "SUBMIT_TO_ERP")
    (hsend : req.action ≠ "SEND_REPLY" ∧ req.action ≠ "DRAFT_REPLY")
    (hget : get_record api id user.org = some r) (hsub : sub_type_of r req.action = .OVERRIDE) :
    wp (override_exception cfg env user id r req)
      (Answers cfg env user id r api (.disposition id key req))
      (fun _ => Refuses cfg env user id r api (.disposition id key req)) api := by
  have hidle : Refuses cfg env user id r api (.disposition id key req) api := refuses_idle api _
  unfold override_exception
  simp only [wp_bind, wp_require]
  refine ⟨fun _ => ⟨fun _ => wp_require_state (fun hstate => ?_) fun _ => hidle, fun _ => hidle⟩,
    fun _ => hidle⟩
  refine wp_lift_py (fun m hm => ?_) fun _ _ => hidle
  rw [wp_ite]
  refine ⟨fun hhigh => ?_, fun _ => ?_⟩
  · rcases m with _ | m
    · cases hhigh
    unfold stage_override
    rw [wp_bind]
    refine wp_update_record hget ?_
    simp only [wp_bind, wp_modify, wp_pure, log_audit_event_eq]
    exact ⟨_, .override_staged key req m haction hsend hstate hsub hm hhigh, ⟨rfl, rfl, rfl, rfl⟩,
      rfl⟩
  · rw [← hsub]
    exact wp_apply_disposition haction hsend hget (by rw [if_pos hsub]; exact hstate)

theorem wp_dispose (hget : get_record api id user.org = some r) : wp (dispose cfg env user id r req)
      (Answers cfg env user id r api (.disposition id key req))
      (fun _ => Refuses cfg env user id r api (.disposition id key req)) api := by
  have hidle : Refuses cfg env user id r api (.disposition id key req) api := refuses_idle api _
  unfold dispose
  simp only [wp_bind, wp_require, wp_ite]
  refine ⟨fun _ => ⟨fun h => wp_disposition_erp_submit h hget, fun hsubmit =>
    ⟨fun h => wp_disposition_draft_reply h hget, fun hdraft =>
      ⟨fun h => wp_disposition_send_reply h hget, fun hsend => ?_⟩⟩⟩, fun _ => hidle⟩
  unfold dispose_agent_action require_notes
  simp only [wp_bind, wp_require, wp_ite]
  refine ⟨fun _ => ⟨fun _ => ⟨fun hsub => ?_, fun hsub => ?_⟩, fun _ => hidle⟩, fun _ => hidle⟩
  · exact wp_override_exception hsubmit ⟨hsend, hdraft⟩ hget hsub
  · refine wp_require_state (fun hstate => ?_) fun _ => hidle
    exact wp_apply_disposition hsubmit ⟨hsend, hdraft⟩ hget (by rw [if_neg hsub]; exact hstate)

theorem wp_cosign {req : CosignRequest} (hget : get_record api id user.org = some r) :
    wp (cosign cfg env user id r req)
      (Answers cfg env user id r api (.cosign id key req))
      (fun _ => Refuses cfg env user id r api (.cosign id key req)) api := by
  have hidle : Refuses cfg env user id r api (.cosign id key req) api := refuses_idle api _
  unfold cosign
  rw [wp_bind]
  refine wp_require_state (fun hstate => ?_) fun _ => hidle
  have hstate : r.lifecycle_state = .PENDING_COSIGN := by simpa [COSIGN_ELIGIBLE_STATES] using hstate
  split
  · exact hidle
  rename_i pending hpending
  unfold require_notes
  simp only [wp_bind, wp_require, wp_ite]
  refine ⟨fun hother => ⟨fun _ => ⟨fun happrove => ?_, fun hplain => ⟨fun happrove => ?_,
    fun hreject => ?_⟩⟩, fun _ => hidle⟩, fun _ => hidle⟩
  · unfold cosign_erp_submit
    rw [wp_bind]
    refine wp_run_directed (fun result ext' hrun => ?_) fun e e' ext' hrun => refuses_abandoned
      (.cosign_submit key req pending e ext' happrove.1 happrove.2 hstate hpending hother hrun)
    rw [wp_bind]
    refine wp_persist_erp_submit hget fun api' hwrote => ?_
    exact ⟨_, .cosign_submitted key req pending result ext' happrove.1 happrove.2 hstate hpending
      hother hrun, ⟨hwrote.records, hwrote.audit_log, hwrote.external, hwrote.delivery_dedup⟩, rfl⟩
  · unfold cosign_approve
    rw [wp_bind]
    refine wp_update_record hget ?_
    rw [wp_bind, wp_modify, wp_bind, wp_modify]
    exact wp_rolled_up (.cosigned key req pending happrove (fun h => hplain ⟨happrove, h⟩) hstate
      hpending hother) (wrote_logged rfl rfl).counted
  · unfold cosign_reject
    rw [wp_bind]
    refine wp_update_record hget ?_
    rw [wp_bind, wp_modify]
    exact wp_rolled_up (.cosign_rejected key req pending (by simpa using hreject) hstate hpending
      hother) (wrote_logged rfl rfl)

theorem wp_escalate {req : EscalateRequest} (hget : get_record api id user.org = some r)
    (hstate : r.lifecycle_state ∈ ESCALATE_ELIGIBLE_STATES) :
    wp (escalate cfg env user id r req)
      (Answers cfg env user id r api (.escalate id key req))
      (fun _ => Refuses cfg env user id r api (.escalate id key req)) api := by
  unfold escalate
  dsimp only
  rw [wp_bind]
  refine wp_update_record hget ?_
  rw [wp_bind, wp_modify]
  exact wp_rolled_up (.escalated key req hstate) (wrote_logged rfl rfl)

theorem wp_move_record {req : Request} {fields : ChildCase → ChildCase} {event : AuditEvent}
    (hget : get_record api id user.org = some r)
    (hanswer : Answered cfg env user id r api.external api.delivery_dedup req
      ⟨stamped env (fields r), event, api.external, none⟩) :
    wp (move_record cfg env user id fields event) (Answers cfg env user id r api req)
      (fun _ => Refuses cfg env user id r api req) api := by
  unfold move_record
  rw [wp_bind]
  refine wp_update_record hget ?_
  rw [wp_bind, wp_modify]
  exact wp_rolled_up hanswer (wrote_logged rfl rfl)

theorem wp_reanalyze {reason : String} (hget : get_record api id user.org = some r) :
    wp (reanalyze_exception cfg env user id reason)
      (Answers cfg env user id r api (.reanalyze id reason))
      (fun _ => Refuses cfg env user id r api (.reanalyze id reason)) api := by
  have hidle : Refuses cfg env user id r api (.reanalyze id reason) api := refuses_idle api _
  unfold reanalyze_exception require_role
  rw [wp_bind, wp_require]
  refine ⟨fun _ => ?_, fun _ => hidle⟩
  rw [wp_bind]
  refine wp_get_or_404 (fun r' hr' => ?_) fun _ => hidle
  cases hget.symm.trans hr'
  simp only [wp_bind, wp_require]
  refine ⟨fun hstate => ⟨fun hattempts => ?_, fun _ => hidle⟩, fun _ => hidle⟩
  split
  · exact hidle
  rename_i event hevent
  simp only [wp_bind, wp_get, wp_mapError]
  refine wp_resolve_state (fun fin ext' cases hrun => ?_) fun e e' ext' cases hrun => ?_
  · unfold persist_reanalysis
    simp only [wp_bind, wp_modify]
    refine wp_update_record (r := r) hget ?_
    refine wp_update_record (r := stamped env (reanalyzed_record env fin r)) ?_ ?_
    · simp [get_record, put_record, store_trace, stamped, reanalyzed_record,
        (get_record_some hget).2]
    · rw [wp_pure, log_audit_event_eq]
      exact (wp_bind _ _).mp (wp_rolled_up
        (.reanalyzed reason event fin _ ext' hstate hattempts hevent hrun)
        ⟨dict.set_set _ _ _ _, rfl, rfl, rfl⟩)
  · exact Or.inr ⟨⟨rfl, rfl, rfl⟩, Or.inr (.reanalyze reason event e ext' hstate hevent hrun)⟩

end handlers

/-! ## The endings of a step -/

/-- The ways in which a request of any kind leaves the service. -/
inductive StepCase (cfg : Config) (st : Step) (api api' : Api) : Prop where
  /-- Refused before it did anything, or answered from the cache. -/
  | idle (hkept : Kept api api') (hext : api'.external = api.external)
  | wrote (id : String) (r : ChildCase) (w : Write)
      (hget : get_record api id st.user.org = some r)
      (hanswer : Answered cfg st.env st.user id r api.external api.delivery_dedup st.request w)
      (hwrote : Wrote cfg st.env st.user.org id w api api')
  | abandoned (id : String) (r : ChildCase) (hget : get_record api id st.user.org = some r)
      (hkept : Kept api api')
      (habandoned : Abandoned cfg st.env st.user id r api.external api.delivery_dedup st.request
        api'.external)
  /-- An event was resolved, into a new record when the run did not raise. -/
  | resolved (event : OrderEvent) (explain : Bool) (outcome : Except PyErr GraphState)
      (hreq : st.request = .resolve event explain)
      (hrun : ResolveEnd st.env st.env.new_id { event := event, tenant_id := some st.user.org }
        api.external outcome api'.external ∨ api'.external = api.external)
      (haudit : api'.audit_log = api.audit_log) (hledger : api'.delivery_dedup = api.delivery_dedup)
      (hrecords : api'.records = api.records ∨
        ∃ trace_id case data fin, resolution_data_of fin = .ok data ∧
          api'.records = dict.set api.records st.env.new_id
            (record_of st.env st.user.org trace_id case data fin))
  | reconciled (tenant_id : Option String) (max_attempts : ℕ)
      (hreq : st.request = .reconcile tenant_id max_attempts) (hkept : Kept api api')
      (hext : api'.external =
        reconcile_pending st.env.first_run.gateway tenant_id max_attempts api.external)

section steps

variable {cfg : Config} {st : Step} {api : Api}

theorem stepCase_of_answers {id : String} {r : ChildCase} {resp : ExceptionDetailResponse}
    {api' : Api} (hget : get_record api id st.user.org = some r)
    (h : Answers cfg st.env st.user id r api st.request resp api') : StepCase cfg st api api' := by
  obtain ⟨w, hanswer, hwrote, -⟩ := h
  exact .wrote id r w hget hanswer hwrote

theorem stepCase_of_refuses {id : String} {r : ChildCase} {api' : Api}
    (hget : get_record api id st.user.org = some r)
    (h : Refuses cfg st.env st.user id r api st.request api') : StepCase cfg st api api' := by
  obtain ⟨w, hanswer, hwrote⟩ | ⟨hkept, hext | habandoned⟩ := h
  · exact .wrote id r w hget hanswer hwrote
  · exact .idle hkept hext
  · exact .abandoned id r hget hkept habandoned

theorem StepCase.of_cache {api' : Api} {cache cache' : List (CacheKey × CacheEntry)}
    (h : StepCase cfg st { api with idempotency_cache := cache } api') :
    StepCase cfg st api { api' with idempotency_cache := cache' } := by
  cases h with
  | idle hkept hext => exact .idle ⟨hkept.records, hkept.audit_log, hkept.delivery_dedup⟩ hext
  | wrote id r w hget hanswer hwrote =>
    exact .wrote id r w hget hanswer
      ⟨hwrote.records, hwrote.audit_log, hwrote.external, hwrote.delivery_dedup⟩
  | abandoned id r hget hkept habandoned =>
    exact .abandoned id r hget ⟨hkept.records, hkept.audit_log, hkept.delivery_dedup⟩ habandoned
  | resolved event explain outcome hreq hrun haudit hledger hrecords =>
    exact .resolved event explain outcome hreq hrun haudit hledger hrecords
  | reconciled tenant_id max_attempts hreq hkept hext =>
    exact .reconciled tenant_id max_attempts hreq
      ⟨hkept.records, hkept.audit_log, hkept.delivery_dedup⟩ hext

theorem stepCase_idle (cfg : Config) (st : Step) (api : Api) : StepCase cfg st api api :=
  .idle ⟨rfl, rfl, rfl⟩ rfl

theorem wp_idempotent_step {id : String} {r : ChildCase} {key : Option String} {body : PyDict}
    {handler : ApiM ExceptionDetailResponse} (hget : get_record api id st.user.org = some r)
    (hhandler : ∀ api, get_record api id st.user.org = some r →
      wp handler (Answers cfg st.env st.user id r api st.request)
        (fun _ => Refuses cfg st.env st.user id r api st.request) api) :
    wp (with_idempotency st.env st.user id key body handler)
      (fun _ api' => StepCase cfg st api api') (fun _ api' => StepCase cfg st api api') api := by
  refine wp_with_idempotency (fun cache => ?_) (fun _ => stepCase_idle cfg st api)
    fun _ => stepCase_idle cfg st api
  refine wp_mono (hhandler _ hget) (fun resp api' h cache' => ?_) fun e api' h => ?_
  · have hcase : StepCase cfg st { api with idempotency_cache := cache } api' :=
      stepCase_of_answers hget h
    exact hcase.of_cache
  · have hcase : StepCase cfg st { api with idempotency_cache := cache } api' :=
      stepCase_of_refuses hget h
    exact hcase.of_cache

theorem wp_resolve {event : OrderEvent} {explain : Bool}
    (hreq : st.request = .resolve event explain) :
    wp (resolve cfg st.env st.user.org event explain)
      (fun _ api' => StepCase cfg st api api') (fun _ api' => StepCase cfg st api api') api := by
  -- Once the run is over only the cases, the records and the traces change.
  have hpersist : ∀ (outcome : Except PyErr GraphState) trace_id fin ext' cases,
      (ResolveEnd st.env st.env.new_id { event := event, tenant_id := some st.user.org }
        api.external outcome ext' ∨ ext' = api.external) →
      wp (persist_exception cfg st.env st.user.org trace_id fin)
        (fun _ api' => StepCase cfg st api api') (fun _ api' => StepCase cfg st api api')
        { api with external := ext', cases := cases } := by
    intro outcome trace_id fin ext' cases hrun
    have hkept : ∀ cases', StepCase cfg st api { api with external := ext', cases := cases' } :=
      fun cases' => .resolved event explain outcome hreq hrun rfl rfl (Or.inl rfl)
    unfold persist_exception
    rw [wp_bind]
    refine wp_lift_py (fun data hdata => ?_) fun _ _ => hkept _
    rw [wp_bind, wp_get, wp_bind]
    refine wp_lift_py (fun opened _ => ?_) fun _ _ => hkept _
    obtain ⟨cases₁, case⟩ := opened
    simp only [wp_bind, wp_modify]
    refine wp_recompute_case_status (fun cases₂ => ?_) fun _ => hkept _
    have hnew : ∀ traces, StepCase cfg st api { api with
        external := ext', cases := cases₂, traces := traces, records := dict.set api.records
          st.env.new_id (record_of st.env st.user.org trace_id case data fin) } :=
      fun traces => .resolved event explain outcome hreq hrun rfl rfl
        (Or.inr ⟨trace_id, case, data, fin, hdata, rfl⟩)
    refine wp_lift_py (fun composed _ => ?_) fun _ _ => hnew api.traces
    rw [wp_pure]
    exact hnew _
  unfold resolve
  rw [wp_bind, wp_mapError]
  by_cases hexplain : explain = true
  · rw [if_pos hexplain]
    have hdry : ∀ s, ¬ Executes { st.env.first_run with explain_mode := true }
        { event := event, tenant_id := some st.user.org } s := by
      rintro s ⟨-, h, -⟩
      cases h
    refine wp_run_graph_safe (fun fin ext' hrun => ?_) fun e ext' hrun => ?_
    · have hext : ext' = api.external := by
        cases hrun with
        | halted => rfl
        | done s fin hexec => exact absurd hexec (hdry s)
      exact hpersist (.ok fin) _ _ _ _ (Or.inr hext)
    · have hext : ext' = api.external := by
        cases hrun with
        | raised => rfl
        | broke s e hexec => exact absurd hexec (hdry s)
      exact .resolved event explain (.error e) hreq (Or.inr hext) rfl rfl (Or.inl rfl)
  · rw [if_neg hexplain]
    refine wp_resolve_state (fun fin ext' cases hrun => ?_) fun e e' ext' cases hrun => ?_
    · exact hpersist (.ok fin) _ _ _ _ (Or.inl hrun)
    · exact .resolved event explain (.error e) hreq (Or.inl hrun) rfl rfl (Or.inl rfl)

theorem wp_of_answers {id : String} {r : ChildCase} {handler : ApiM ExceptionDetailResponse}
    (hget : get_record api id st.user.org = some r)
    (h : wp handler (Answers cfg st.env st.user id r api st.request)
      (fun _ => Refuses cfg st.env st.user id r api st.request) api) :
    wp handler (fun _ api' => StepCase cfg st api api') (fun _ api' => StepCase cfg st api api')
      api :=
  wp_mono h (fun _ _ h => stepCase_of_answers hget h) fun _ _ h => stepCase_of_refuses hget h

theorem wp_handle (cfg : Config) (st : Step) (api : Api) :
    wp (handle cfg st) (fun _ api' => StepCase cfg st api api')
      (fun _ api' => StepCase cfg st api api') api := by
  have hidle := stepCase_idle cfg st api
  unfold handle
  rcases hreq : st.request with ⟨event, explain⟩ | ⟨id, key, req⟩ | ⟨id, key, req⟩ |
    ⟨id, key, req⟩ | ⟨id, reason⟩ | ⟨id, reason⟩ | ⟨id, reason, risk⟩ | ⟨tenant_id, max_attempts⟩
  · simp only [wp_bind, wp_pure]
    exact wp_resolve hreq
  · simp only [map_eq_pure_bind, wp_bind, wp_pure]
    unfold disposition_exception require_permission
    refine wp_permitted_found (fun _ _ => hidle) (fun _ _ => hidle) fun _ r hget => ?_
    exact wp_idempotent_step hget fun api hget => hreq ▸ wp_dispose hget
  · simp only [map_eq_pure_bind, wp_bind, wp_pure]
    unfold cosign_override require_role
    refine wp_permitted_found (fun _ _ => hidle) (fun _ _ => hidle) fun _ r hget => ?_
    exact wp_idempotent_step hget fun api hget => hreq ▸ wp_cosign hget
  · simp only [map_eq_pure_bind, wp_bind, wp_pure]
    unfold escalate_exception require_permission
    refine wp_permitted_found (fun _ _ => hidle) (fun _ _ => hidle) fun _ r hget => ?_
    rw [wp_bind]
    refine wp_require_state (fun hstate => ?_) fun _ => hidle
    exact wp_idempotent_step hget fun api hget => hreq ▸ wp_escalate hget hstate
  · simp only [map_eq_pure_bind, wp_bind, wp_pure]
    rcases hget : get_record api id st.user.org with _ | r
    · unfold reanalyze_exception require_role
      refine wp_permitted_found (fun _ _ => hidle) (fun _ _ => hidle) fun _ r hr => ?_
      cases hget.symm.trans hr
    · exact wp_of_answers hget (hreq ▸ wp_reanalyze hget)
  · simp only [map_eq_pure_bind, wp_bind, wp_pure]
    unfold challenge_exception require_role
    refine wp_permitted_found (fun _ _ => hidle) (fun _ _ => hidle) fun _ r hget => ?_
    rw [wp_bind]
    refine wp_require_state (fun hstate => ?_) fun _ => hidle
    have hstate : r.lifecycle_state = .RESOLVED := by
      simpa [CHALLENGE_SOURCE_STATES] using hstate
    exact wp_of_answers hget (wp_move_record hget (hreq ▸ .challenged reason hstate))
  · simp only [map_eq_pure_bind, wp_bind, wp_pure]
    unfold admin_release_exception require_role
    refine wp_permitted_found (fun _ _ => hidle) (fun _ _ => hidle) fun _ r hget => ?_
    rw [wp_bind]
    refine wp_require_state (fun hstate => ?_) fun _ => hidle
    have hstate : r.lifecycle_state = .BLOCKED := by
      simpa [ADMIN_RELEASE_SOURCE_STATES] using hstate
    rw [wp_bind, wp_require]
    refine ⟨fun _ => ?_, fun _ => hidle⟩
    exact wp_of_answers hget (wp_move_record hget (hreq ▸ .released reason risk hstate))
  · simp only [wp_bind, wp_modify, wp_pure]
    exact .reconciled tenant_id max_attempts hreq ⟨rfl, rfl, rfl⟩ rfl

theorem step_cases (cfg : Config) (st : Step) (api : Api) :
    StepCase cfg st api (step cfg st api) := wp_end (wp_handle cfg st api)

/-- What new records have, and answered requests keep, the records of the
service have after the step. -/
theorem step_records {I : ChildCase → Prop} (hall : ∀ id r, dict.get api.records id = some r → I r)
    (hnew : ∀ trace_id case data fin, resolution_data_of fin = .ok data →
      I (record_of st.env st.user.org trace_id case data fin))
    (hanswer : ∀ id r w, get_record api id st.user.org = some r → I r →
      Answered cfg st.env st.user id r api.external api.delivery_dedup st.request w → I w.record) :
    ∀ id r, dict.get (step cfg st api).records id = some r → I r := by
  have hset : ∀ (records : List (String × ChildCase)) id r, I r →
      records = dict.set api.records id r → ∀ id' r', dict.get records id' = some r' → I r' := by
    rintro _ id r hr rfl id' r' hget
    by_cases hid : id' = id
    · subst hid
      rw [dict.get_set_self] at hget
      cases hget
      exact hr
    · rw [dict.get_set_of_ne _ _ hid] at hget
      exact hall id' r' hget
  cases step_cases cfg st api with
  | idle hkept => rwa [hkept.records]
  | wrote id r w hget h hwrote =>
    exact hset _ id _ (hanswer id r w hget (hall id r (get_record_some hget).1) h) hwrote.records
  | abandoned id r hget hkept => rwa [hkept.records]
  | resolved event explain outcome hreq hrun haudit hledger hrecords =>
    rcases hrecords with h | ⟨trace_id, case, data, fin, hdata, h⟩
    · rwa [h]
    · exact hset _ _ _ (hnew trace_id case data fin hdata) h
  | reconciled tenant_id max_attempts hreq hkept => rwa [hkept.records]

end steps

theorem run_records {cfg : Config} {C : Step → Api → Prop} {I : ChildCase → Prop}
    (hnew : ∀ (st : Step) trace_id case data fin, resolution_data_of fin = .ok data →
      I (record_of st.env st.user.org trace_id case data fin))
    (hanswer : ∀ (st : Step) (api : Api) id r w, C st api →
      get_record api id st.user.org = some r → I r →
      Answered cfg st.env st.user id r api.external api.delivery_dedup st.request w → I w.record)
    {sts : List Step} (hsts : AllSteps (step cfg) C {} sts) :
    ∀ id r, dict.get (run (step cfg) {} sts).records id = some r → I r :=
  invariant (I := fun api => ∀ id r, dict.get api.records id = some r → I r)
    (fun st api hst hall => step_records hall (hnew st) fun id r w => hanswer st api id r w hst)
    (fun id r h => (by cases h)) hsts

/-- What a record has from the event and the case that it was made for. -/
structure RecordOrigin where
  id : String
  tenant_id : String
  order_id : String
  event_type : String
  original_event : Option OrderEvent
  parent_case_id : Option String
  supergroup_code : Option String
  intent_code : Option String
  created_at : String

def ChildCase.record_origin (r : ChildCase) : RecordOrigin :=
  ⟨r.id, r.tenant_id, r.order_id, r.event_type, r.original_event, r.parent_case_id,
    r.supergroup_code, r.intent_code, r.created_at⟩

section origins

variable {cfg : Config} {env : StepEnv} {user : AuthenticatedUser} {id : String} {r : ChildCase}
  {ext : External} {ledger : Ledger} {req : Request} {w : Write}

theorem answered_origin (h : Answered cfg env user id r ext ledger req w) :
    w.record.record_origin = r.record_origin := by
  have hsubmit : ∀ result submitter notes cosign ext',
      (submitWrite cfg env user id r result submitter notes cosign ext').record.record_origin =
        r.record_origin := by
    intro result submitter notes cosign ext'
    simp only [submitWrite, stamped, submitted_record]
    split <;> rfl
  cases h with
  | submitted | cosign_submitted => exact hsubmit _ _ _ _ _
  | submit_staged | drafted | deduped | sent | override_staged | disposed | cosigned
  | cosign_rejected | escalated | reanalyzed | challenged | released => rfl

/-- An answered request leaves the record with its tenant. -/
theorem answered_tenant (h : Answered cfg env user id r ext ledger req w) :
    w.record.tenant_id = r.tenant_id :=
  congrArg RecordOrigin.tenant_id (answered_origin h)

/-- An answered request leaves the record under its case. -/
theorem answered_parent (h : Answered cfg env user id r ext ledger req w) :
    w.record.parent_case_id = r.parent_case_id :=
  congrArg RecordOrigin.parent_case_id (answered_origin h)

end origins

/-! ## The keys of the outbox -/

theorem answered_keyed {cfg : Config} {env : StepEnv} {user : AuthenticatedUser} {id : String}
    {r : ChildCase} {ext : External} {ledger : Ledger} {req : Request} {w : Write}
    (hkeyed : Keyed ext) (h : Answered cfg env user id r ext ledger req w) : Keyed w.external := by
  cases h with
  | submitted key req m result ext' haction hstate hm hlow hrun =>
    exact directedEnd_keyed hkeyed hrun
  | drafted key req result ext' haction hstate hrun => exact directedEnd_keyed hkeyed hrun
  | deduped key req preview ext' dkey haction hstate hrun => exact directedEnd_keyed hkeyed hrun
  | sent key req preview ext' result ext'' dkey haction hstate hrun hunseen hsend =>
    exact directedEnd_keyed (directedEnd_keyed hkeyed hrun) hsend
  | cosign_submitted key req p result ext' happrove haction hstate hpending hother hrun =>
    exact directedEnd_keyed hkeyed hrun
  | reanalyzed reason event fin nodes ext' hstate hattempts hevent hrun =>
    exact resolveEnd_keyed hkeyed hrun
  | submit_staged | override_staged | disposed | cosigned | cosign_rejected | escalated
  | challenged | released => exact hkeyed

theorem abandoned_keyed {cfg : Config} {env : StepEnv} {user : AuthenticatedUser} {id : String}
    {r : ChildCase} {ext ext' : External} {ledger : Ledger} {req : Request} (hkeyed : Keyed ext)
    (h : Abandoned cfg env user id r ext ledger req ext') : Keyed ext' := by
  cases h with
  | submit key req m e _ haction hstate hm hlow hrun => exact directedEnd_keyed hkeyed hrun
  | draft key req e _ haction hrun => exact directedEnd_keyed hkeyed hrun
  | preview key req outcome _ haction hrun => exact directedEnd_keyed hkeyed hrun
  | send key req preview ext' outcome _ haction hrun hunseen hsend =>
    exact directedEnd_keyed (directedEnd_keyed hkeyed hrun) hsend
  | cosign_submit key req p e _ happrove haction hstate hpending hother hrun =>
    exact directedEnd_keyed hkeyed hrun
  | reanalyze reason event e _ hstate hevent hrun => exact resolveEnd_keyed hkeyed hrun

theorem step_keyed {cfg : Config} {st : Step} {api : Api} (hkeyed : Keyed api.external) :
    Keyed (step cfg st api).external := by
  cases step_cases cfg st api with
  | idle hkept hext => exact hext ▸ hkeyed
  | wrote id r w hget hanswer hwrote => exact hwrote.external ▸ answered_keyed hkeyed hanswer
  | abandoned id r hget hkept habandoned => exact abandoned_keyed hkeyed habandoned
  | resolved event explain outcome hreq hrun =>
    rcases hrun with hrun | hext
    · exact resolveEnd_keyed hkeyed hrun
    · exact hext ▸ hkeyed
  | reconciled tenant_id max_attempts hreq hkept hext =>
    exact hext ▸ reconcile_pending_keyed _ _ hkeyed tenant_id

theorem run_keyed (cfg : Config) (sts : List Step) : Keyed (run (step cfg) {} sts).external :=
  invariant (C := fun _ _ => True) (I := fun api : Api => Keyed api.external)
    (fun _ _ _ => step_keyed) rfl (allSteps_true _ _)

theorem resolution_data_of_pending (state : GraphState) :
    returns (resolution_data_of state) fun data => data.pending_override = none := by
  unfold resolution_data_of
  dsimp only
  split
  · exact (returns_pure _).mpr rfl
  · exact returns_bind fun lines _ => (returns_pure _).mpr rfl

/-! ## A service to try the laws on -/

def sampleEvent : OrderEvent :=
  { order_id := "4711", event_type := "MANUAL_ORDER_INTAKE", po_price := .fin 10,
    sap_base_price := .fin 10 }

/-- An order of ten units. -/
def sampleExtraction (unit_price : ℚ) : PyDict :=
  [("customer_bp", .str "BP1"), ("customer_email", .str "buyer@example.com"),
    ("header", .dict [("customer_po", .str "PO1")]),
    ("line_items", .list [.dict [("line_num", .str "10"), ("material", .str "M1"),
      ("quantity", .float (.fin 10)), ("uom", .str "EA"),
      ("unit_price", .float (.fin unit_price))]])]

/-- A run in which all gateways answer and the Shadow is the deterministic
one. SAP prices the order at `order_value`. -/
def sampleRun (order_value : ℚ) : RunEnv where
  select_skill _ := .ok "email-order-entry"
  read_gateway req :=
    { gateway_name := req.gateway_name, operation := req.operation, status := .SUCCESS,
      data := if req.operation = "extract_order" then sampleExtraction 2000
        else if req.operation = "validate" then [("order_value_usd", .float (.fin order_value))]
        else [] }
  gateway _ req :=
    { gateway_name := req.gateway_name, operation := req.operation, status := .SUCCESS,
      data := [("sap_doc_number", .str "900"), ("delivered", .bool true)] }
  other_recipes _ _ := .ok [("status", .str "SUCCESS"),
    ("recommended_action", .str "ONE_CLICK_APPROVE"), ("autonomy_level", .str "L2")]
  duplicate_po_offenders _ := .ok none
  compose_from_state _ := .ok ⟨"", [], false⟩
  request_trace_id := "r1"
  shadow_trace_id := "t1"

def sampleEnv (env : RunEnv) : StepEnv where
  now := 0
  now_iso := "2025-01-01"
  new_id := "E1"
  request_trace_id := "r1"
  first_run := env
  second_run := env
  run_agent_step _ := .ok ⟨.ESCALATED, none⟩
  lookup_or_create _ cases := .ok (cases, ⟨"C1", "T1", .OPEN_AGENT_PROCESSING, none, none, none⟩)
  compose_record _ := .ok ⟨"", [], false⟩

def sampleUser (sub : String) : AuthenticatedUser :=
  { sub := sub, roles := ["manager", "admin"], org := "T1",
    permissions := ["exceptions:approve", "exceptions:override", "exceptions:escalate"] }

def sampleConfig : Config := { store := .memory, sha256 := id, lower := id }

def databaseConfig : Config := { sampleConfig with store := .database }

/-- A request of the user `sub`, in a service where SAP prices the order as
material. -/
def sampleStep (sub : String) (request : Request) : Step :=
  ⟨sampleEnv (sampleRun 20000), sampleUser sub, request⟩

def resolveStep : Step := sampleStep "analyst" (.resolve sampleEvent false)

def submitRequest : DispositionRequest :=
  { action := "SUBMIT_TO_ERP", notes := "checked", reason_tag := "OTHER" }

def submitStep : Step := sampleStep "analyst" (.disposition "E1" none submitRequest)

def cosignStep : Step := sampleStep "manager" (.cosign "E1" none ⟨true, "agreed"⟩)

end asoe
