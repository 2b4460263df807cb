-- Retries under an idempotency key. A carried out request leaves its answer
-- in the cache; nothing takes the entry out again while it lives, so a retry
-- is answered from it, once the guards before the cache let it through.
import Asoe.Parking

namespace asoe

open py prog runs

/-! ## Handlers leave the cache alone -/

/-- The program never touches the cache of answers. -/
abbrev KeepsCache {α : Type} (x : ApiM α) : Prop := keeps Api.idempotency_cache x

section frames

variable {cfg : Config} {env : StepEnv} {user : AuthenticatedUser} {id tenant : String}
  {r : ChildCase}

theorem keepsCache_get_or_404 : KeepsCache (get_or_404 id tenant) := by
  refine keeps_bind keeps_get fun api => ?_
  split
  · exact keeps_pure _
  · exact keeps_throw _

theorem keepsCache_update_record {message : String} {fields : ChildCase → ChildCase} :
    KeepsCache (update_record env id tenant message fields) := by
  intro api
  unfold update_record
  rw [wp_bind, wp_get]
  split <;> rfl

theorem keepsCache_log (event : AuditEvent) :
    KeepsCache (modify (log_audit_event cfg env event) : ApiM PUnit) :=
  keeps_modify fun api => by rw [log_audit_event_eq]

theorem keepsCache_lift_py {α : Type} (x : Except PyErr α) : KeepsCache (lift_py x) :=
  keeps_ofExcept _

theorem keepsCache_recompute {case_id : String} {incoming : List LifecycleState} :
    KeepsCache (recompute_case_status cfg env tenant case_id incoming) := by
  have hupdate : ∀ case status closed_at,
      KeepsCache (update_case_status case_id case status closed_at) := fun case status closed_at =>
    keeps_bind (keeps_require _ _) fun _ => keeps_modify fun _ => rfl
  refine keeps_bind keeps_get fun api => ?_
  split
  · exact keeps_pure ()
  · refine keeps_ite (keeps_pure ()) ?_
    dsimp only
    split
    · exact keeps_pure ()
    · exact keeps_ite (keeps_pure ()) (keeps_ite (hupdate _ _ _) (hupdate _ _ _))

theorem keepsCache_reaggregate : KeepsCache (reaggregate_parent_case cfg env tenant r) := by
  unfold reaggregate_parent_case
  split
  · exact keeps_ite (keeps_pure ()) keepsCache_recompute
  · exact keeps_pure ()

theorem keepsCache_count :
    KeepsCache (modify (record_reviewer_override_of_llm_downgrade id) : ApiM PUnit) :=
  keeps_modify fun api => by
    obtain ⟨n, hn⟩ := record_reviewer_override_eq id api
    rw [hn]

theorem keepsCache_run_graph_safe {run_env : RunEnv} {origin : Option String} {state : GraphState} :
    KeepsCache (run_graph_safe run_env origin state) := keeps_zoom fun _ _ => rfl

theorem keepsCache_run_directed {run_env : RunEnv} {recipe : RecipeName} {params : PyDict} :
    KeepsCache (run_directed run_env id tenant r recipe params) := by
  unfold run_directed
  split
  · exact keeps_throw _
  · exact keepsCache_run_graph_safe

theorem keepsCache_resolve_state {origin : String} {state : GraphState} :
    KeepsCache (resolve_state env origin state) := by
  refine keeps_ite ?_ keepsCache_run_graph_safe
  refine keeps_bind (keepsCache_lift_py _) fun shadow => ?_
  refine keeps_ite (keeps_pure _) ?_
  refine keeps_bind keeps_get fun api => keeps_bind (keepsCache_lift_py _) fun opened => ?_
  refine keeps_bind (keeps_modify fun _ => rfl) fun _ => ?_
  exact keeps_bind (keepsCache_lift_py _) fun _ =>
    keeps_bind (keepsCache_lift_py _) fun _ => keepsCache_lift_py _

theorem keepsCache_rolled_up {updated : ChildCase} :
    KeepsCache (do
      reaggregate_parent_case cfg env tenant updated
      return updated.to_detail) :=
  keeps_bind keepsCache_reaggregate fun _ => keeps_pure _

variable {req : DispositionRequest}

theorem keepsCache_require_order_entry {code applies no_order action : String} :
    KeepsCache (require_order_entry r req code applies no_order action) :=
  keeps_bind (keeps_require _ _) fun _ => keeps_bind (keeps_require _ _) fun _ =>
    keeps_bind (keeps_require _ _) fun _ => keeps_require _ _

theorem keepsCache_persist_erp_submit {result : GraphState} {submitter notes : String}
    {extra : Option CosignMeta} :
    KeepsCache (persist_erp_submit cfg env id tenant r result submitter notes extra) :=
  keeps_bind keepsCache_update_record fun _ => keeps_bind (keepsCache_log _) fun _ => keeps_pure _

theorem keepsCache_disposition_erp_submit :
    KeepsCache (disposition_erp_submit cfg env user id r req) := by
  refine keeps_bind keepsCache_require_order_entry fun _ => ?_
  refine keeps_bind (keepsCache_lift_py _) fun materiality => keeps_ite ?_ ?_
  · refine keeps_bind ?_ fun _ => keeps_pure _
    exact keeps_bind keepsCache_update_record fun _ => keeps_bind (keepsCache_log _) fun _ =>
      keeps_pure _
  · exact keeps_bind keepsCache_run_directed fun _ =>
      keeps_bind keepsCache_persist_erp_submit fun _ => keeps_pure _

theorem keepsCache_disposition_draft_reply :
    KeepsCache (disposition_draft_reply cfg env user id r req) := by
  refine keeps_bind keepsCache_require_order_entry fun _ => ?_
  refine keeps_bind keepsCache_run_directed fun result => keeps_bind ?_ fun _ => keeps_pure _
  exact keeps_bind keepsCache_update_record fun _ => keeps_bind (keepsCache_log _) fun _ =>
    keeps_pure _

theorem keepsCache_send_reply : KeepsCache (send_reply cfg env user id r req) := by
  refine keeps_bind keepsCache_run_directed fun result => keeps_bind ?_ fun _ => keeps_pure _
  refine keeps_bind (keepsCache_lift_py _) fun dkey => ?_
  refine keeps_bind (keeps_modify fun api => ?_) fun _ => ?_
  · split <;> rfl
  · exact keeps_bind keepsCache_update_record fun _ => keeps_bind (keepsCache_log _) fun _ =>
      keeps_pure _

theorem keepsCache_disposition_send_reply :
    KeepsCache (disposition_send_reply cfg env user id r req) := by
  refine keeps_bind keepsCache_require_order_entry fun _ => ?_
  refine keeps_bind keepsCache_run_directed fun preview => ?_
  refine keeps_bind (keepsCache_lift_py _) fun dkey => keeps_bind keeps_get fun api => ?_
  split
  · exact keeps_bind (keepsCache_log _) fun _ => keeps_bind keeps_get fun _ => keeps_pure _
  · exact keepsCache_send_reply

theorem keepsCache_apply_disposition {sub_type : SubType} :
    KeepsCache (apply_disposition cfg env user id r req sub_type) := by
  refine keeps_bind keepsCache_update_record fun updated => keeps_bind (keepsCache_log _) fun _ => ?_
  refine keeps_bind (keeps_modify fun api => ?_) fun _ => keepsCache_rolled_up
  split
  · obtain ⟨n, hn⟩ := record_reviewer_override_eq id api
    rw [hn]
  · rfl

theorem keepsCache_override_exception : KeepsCache (override_exception cfg env user id r req) := by
  refine keeps_bind (keeps_require _ _) fun _ => keeps_bind (keeps_require _ _) fun _ => ?_
  refine keeps_bind (keeps_require _ _) fun _ => keeps_bind (keepsCache_lift_py _) fun impact => ?_
  refine keeps_ite ?_ keepsCache_apply_disposition
  exact keeps_bind keepsCache_update_record fun _ => keeps_bind (keepsCache_log _) fun _ =>
    keeps_pure _

theorem keepsCache_dispose : KeepsCache (dispose cfg env user id r req) := by
  refine keeps_bind (keeps_require _ _) fun _ => ?_
  refine keeps_ite keepsCache_disposition_erp_submit (keeps_ite keepsCache_disposition_draft_reply
    (keeps_ite keepsCache_disposition_send_reply ?_))
  refine keeps_bind (keeps_require _ _) fun _ => keeps_bind (keeps_require _ _) fun _ => ?_
  exact keeps_ite keepsCache_override_exception
    (keeps_bind (keeps_require _ _) fun _ => keepsCache_apply_disposition)

theorem keepsCache_cosign {req : CosignRequest} : KeepsCache (cosign cfg env user id r req) := by
  refine keeps_bind (keeps_require _ _) fun _ => ?_
  split
  · exact keeps_throw _
  · refine keeps_bind (keeps_require _ _) fun _ => keeps_bind (keeps_require _ _) fun _ => ?_
    refine keeps_ite ?_ (keeps_ite ?_ ?_)
    · refine keeps_bind keepsCache_run_directed fun result => ?_
      exact keeps_bind keepsCache_persist_erp_submit fun _ => keeps_pure _
    · exact keeps_bind keepsCache_update_record fun _ => keeps_bind (keepsCache_log _) fun _ =>
        keeps_bind keepsCache_count fun _ => keepsCache_rolled_up
    · exact keeps_bind keepsCache_update_record fun _ => keeps_bind (keepsCache_log _) fun _ =>
        keepsCache_rolled_up

theorem keepsCache_escalate {req : EscalateRequest} :
    KeepsCache (escalate cfg env user id r req) :=
  keeps_bind keepsCache_update_record fun _ => keeps_bind (keepsCache_log _) fun _ =>
    keepsCache_rolled_up

theorem keepsCache_move_record {fields : ChildCase → ChildCase} {event : AuditEvent} :
    KeepsCache (move_record cfg env user id fields event) :=
  keeps_bind keepsCache_update_record fun _ => keeps_bind (keepsCache_log _) fun _ =>
    keepsCache_rolled_up

theorem keepsCache_reanalyze {reason : String} :
    KeepsCache (reanalyze_exception cfg env user id reason) := by
  refine keeps_bind (keeps_require _ _) fun _ => keeps_bind keepsCache_get_or_404 fun r => ?_
  refine keeps_bind (keeps_require _ _) fun _ => keeps_bind (keeps_require _ _) fun _ => ?_
  split
  · exact keeps_throw _
  · refine keeps_bind keeps_get fun api => ?_
    refine keeps_bind (keeps_mapError keepsCache_resolve_state) fun fin => ?_
    refine keeps_bind ?_ fun _ => keepsCache_rolled_up
    refine keeps_bind (keeps_modify fun _ => rfl) fun _ => ?_
    exact keeps_bind keepsCache_update_record fun _ => keeps_bind keepsCache_update_record fun _ =>
      keeps_bind (keepsCache_log _) fun _ => keeps_pure _

theorem keepsCache_resolve {event : OrderEvent} {explain : Bool} :
    KeepsCache (resolve cfg env tenant event explain) := by
  refine keeps_bind (keeps_mapError ?_) fun fin => ?_
  · exact keeps_ite keepsCache_run_graph_safe keepsCache_resolve_state
  refine keeps_bind (keepsCache_lift_py _) fun data => keeps_bind keeps_get fun api => ?_
  refine keeps_bind (keepsCache_lift_py _) fun opened => ?_
  obtain ⟨cases, case⟩ := opened
  refine keeps_bind (keeps_modify fun _ => rfl) fun _ => keeps_bind keepsCache_recompute fun _ => ?_
  refine keeps_bind (keeps_modify fun _ => rfl) fun _ => keeps_bind (keepsCache_lift_py _) fun _ => ?_
  exact keeps_bind (keeps_modify fun _ => rfl) fun _ => keeps_pure _

end frames

/-! ## The cache -/

/-- The entry may still answer a request that comes at `now`. -/
def CacheEntry.Lives (entry : CacheEntry) (now : ℚ) : Prop :=
  now - entry.created_at ≤ IDEMPOTENCY_TTL_SECONDS

/-- Two bodies are the same when Python's `==` says so. -/
def SameBody (body body' : PyDict) : Prop := PyVal.eq (.dict body) (.dict body') = true

section cache

variable {env : StepEnv} {user : AuthenticatedUser} {id k : String} {body : PyDict}
  {handler : ApiM ExceptionDetailResponse} {api : Api} {entry : CacheEntry}

/-- A live entry answers the same body, and refuses any other one. -/
theorem wp_with_live_entry (hentry : dict.get api.idempotency_cache (user.org, id, user.sub, k) =
      some entry) (hlives : entry.Lives env.now) :
    wp (with_idempotency env user id (some k) body handler)
      (fun resp api' => api' = api ∧ resp = entry.response ∧ is_idempotency_key k = true ∧
        SameBody entry.request_body body)
      (fun _ api' => api' = api ∧ ¬ (is_idempotency_key k = true ∧ SameBody entry.request_body body))
      api := by
  have hage : ¬ IDEMPOTENCY_TTL_SECONDS < env.now - entry.created_at := not_lt.mpr hlives
  unfold with_idempotency validate_idempotency_key idempotency_lookup
  rw [wp_bind, wp_require]
  refine ⟨fun hkey => ?_, fun hkey => ⟨rfl, fun h => hkey ?_⟩⟩
  · have hvalid : is_idempotency_key k = true := hkey k rfl
    dsimp only
    rw [wp_bind, wp_bind, wp_get, hentry]
    dsimp only
    rw [if_neg hage, wp_bind, wp_require]
    exact ⟨fun hsame => ⟨rfl, rfl, hvalid, hsame⟩, fun hother => ⟨rfl, fun h => hother h.2⟩⟩
  · intro k' hk'
    cases hk'
    exact h.1

/-- A request that finds no live entry runs, and it leaves its answer. -/
theorem wp_without_live_entry {P : Api → Prop}
    (hnew : ∀ entry, dict.get api.idempotency_cache (user.org, id, user.sub, k) = some entry →
      ¬ entry.Lives env.now)
    (hhandler : ∀ cache, wp handler (fun _ api' => P api') (fun _ _ => True)
      { api with idempotency_cache := cache })
    (hcache : ∀ api cache, P api → P { api with idempotency_cache := cache }) :
    wp (with_idempotency env user id (some k) body handler)
      (fun resp api' => dict.get api'.idempotency_cache (user.org, id, user.sub, k) =
        some ⟨env.now, body, resp⟩ ∧ is_idempotency_key k = true ∧ P api')
      (fun _ _ => True) api := by
  unfold with_idempotency validate_idempotency_key idempotency_lookup
  rw [wp_bind, wp_require]
  refine ⟨fun hkey => ?_, fun _ => trivial⟩
  have hvalid : is_idempotency_key k = true := hkey k rfl
  have hrun : ∀ cache, wp (do
      let response ← handler
      modify (idempotency_store env (user.org, id, user.sub, k) body response)
      return response)
      (fun resp api' => dict.get api'.idempotency_cache (user.org, id, user.sub, k) =
        some ⟨env.now, body, resp⟩ ∧ is_idempotency_key k = true ∧ P api')
      (fun _ _ => True) { api with idempotency_cache := cache } := by
    intro cache
    rw [wp_bind]
    refine wp_mono (hhandler cache) (fun resp api' hP => ?_) fun _ _ _ => trivial
    exact ⟨dict.get_set_self _ _ _, hvalid, hcache api' _ hP⟩
  dsimp only
  rw [wp_bind, wp_bind, wp_get]
  split
  · exact hrun api.idempotency_cache
  · rename_i entry hentry
    have hage : IDEMPOTENCY_TTL_SECONDS < env.now - entry.created_at :=
      not_le.mp (hnew entry hentry)
    rw [if_pos hage]
    exact hrun _

/-- A live entry outlives every request. -/
theorem wp_keeps_entry {key : Option String} {ck : CacheKey} {E : ApiError → Api → Prop}
    (hhandler : KeepsCache handler) (hentry : dict.get api.idempotency_cache ck = some entry)
    (hlives : entry.Lives env.now)
    (hE : ∀ e api', dict.get api'.idempotency_cache ck = some entry → E e api') :
    wp (with_idempotency env user id key body handler)
      (fun _ api' => dict.get api'.idempotency_cache ck = some entry) E api := by
  unfold with_idempotency validate_idempotency_key idempotency_lookup
  rw [wp_bind, wp_require]
  refine ⟨fun _ => ?_, fun _ => hE _ _ hentry⟩
  rcases key with _ | k
  · refine wp_mono (hhandler api) (fun _ api' h => ?_) fun e api' h => hE e api' ?_
    · rw [h, hentry]
    · rw [h, hentry]
  -- A handler that ran stored its answer under a key that had no live entry.
  have hrun : (user.org, id, user.sub, k) ≠ ck → ∀ cache, dict.get cache ck = some entry →
      wp (do
        let response ← handler
        modify (idempotency_store env (user.org, id, user.sub, k) body response)
        return response)
        (fun _ api' => dict.get api'.idempotency_cache ck = some entry) E
        { api with idempotency_cache := cache } := by
    intro hne cache hcache
    rw [wp_bind]
    refine wp_mono (hhandler _) (fun resp api' h => ?_) fun e api' h => hE e api' ?_
    · show dict.get (dict.set api'.idempotency_cache _ _) ck = some entry
      rw [dict.get_set_of_ne _ _ (Ne.symm hne), h]
      exact hcache
    · rw [h]
      exact hcache
  dsimp only
  rw [wp_bind, wp_bind, wp_get]
  split
  · rename_i hnone
    refine hrun ?_ api.idempotency_cache hentry
    rintro rfl
    cases hnone.symm.trans hentry
  · rename_i entry' hentry'
    split
    · rename_i hage
      have hne : (user.org, id, user.sub, k) ≠ ck := by
        rintro rfl
        cases hentry'.symm.trans hentry
        exact absurd hage (not_lt.mpr hlives)
      refine hrun hne _ ?_
      rw [dict.get_pop_of_ne _ (Ne.symm hne)]
      exact hentry
    · rw [wp_bind, wp_require]
      exact ⟨fun _ => hentry, fun _ => hE _ _ hentry⟩

end cache

/-! ## Requests under a key -/

/-- The request goes to an endpoint that takes an idempotency key, for the
record `id`, under the key `k`, with the body `body`. -/
inductive Uses (id k : String) : Request → PyDict → Prop where
  | disposition (req : DispositionRequest) :
      Uses id k (.disposition id (some k) req) req.model_dump
  | cosign (req : CosignRequest) : Uses id k (.cosign id (some k) req) req.model_dump
  | escalate (req : EscalateRequest) : Uses id k (.escalate id (some k) req) req.model_dump

/-- The role or the permission that the endpoint asks for. -/
def Permitted (user : AuthenticatedUser) : Request → Prop
  | .disposition .. => "exceptions:approve" ∈ user.permissions
  | .cosign .. => ∃ r ∈ user.roles, r ∈ ["manager", "admin"]
  | .escalate .. => "exceptions:escalate" ∈ user.permissions
  | _ => True

/-- The guard that only the escalate endpoint has before the cache. -/
def Eligible (r : ChildCase) : Request → Prop
  | .escalate .. => r.lifecycle_state ∈ ESCALATE_ELIGIBLE_STATES
  | _ => True

/-- The request passes what stands before the cache. -/
structure Admitted (st : Step) (id k : String) (api : Api) : Prop where
  permitted : Permitted st.user st.request
  found : ∃ r, get_record api id st.user.org = some r ∧ Eligible r st.request
  valid : is_idempotency_key k = true

section requests

variable {cfg : Config} {st : Step} {id k : String} {body : PyDict} {api : Api}
  {entry : CacheEntry}

/-- Under a live entry a request never changes the service. It is answered
from the entry exactly when it is admitted and its body is the cached one. -/
theorem wp_handle_live (cfg : Config) (huses : Uses id k st.request body)
    (hentry : dict.get api.idempotency_cache (st.user.org, id, st.user.sub, k) = some entry)
    (hlives : entry.Lives st.env.now) :
    wp (handle cfg st)
      (fun resp api' => api' = api ∧ resp = some entry.response ∧ Admitted st id k api ∧
        SameBody entry.request_body body)
      (fun _ api' => api' = api ∧ ¬ (Admitted st id k api ∧ SameBody entry.request_body body))
      api := by
  -- Past the guards it is the cache that decides.
  have hcache : ∀ r (handler : ApiM ExceptionDetailResponse), Permitted st.user st.request →
      get_record api id st.user.org = some r → Eligible r st.request →
      wp (with_idempotency st.env st.user id (some k) body handler)
        (fun resp api' => api' = api ∧ some resp = some entry.response ∧ Admitted st id k api ∧
          SameBody entry.request_body body)
        (fun _ api' => api' = api ∧ ¬ (Admitted st id k api ∧ SameBody entry.request_body body))
        api := by
    intro r handler hpermitted hget heligible
    refine wp_mono (wp_with_live_entry hentry hlives) ?_ ?_
    · rintro resp _ ⟨rfl, rfl, hvalid, hsame⟩
      exact ⟨rfl, rfl, ⟨hpermitted, ⟨r, hget, heligible⟩, hvalid⟩, hsame⟩
    · rintro e _ ⟨rfl, hno⟩
      exact ⟨rfl, fun h => hno ⟨h.1.valid, h.2⟩⟩
  have hmissing : (∀ r, get_record api id st.user.org ≠ some r) →
      api = api ∧ ¬ (Admitted st id k api ∧ SameBody entry.request_body body) := by
    refine fun hnone => ⟨rfl, fun h => ?_⟩
    obtain ⟨r, hget, -⟩ := h.1.found
    exact hnone r hget
  have hrefused : ¬ Permitted st.user st.request →
      api = api ∧ ¬ (Admitted st id k api ∧ SameBody entry.request_body body) :=
    fun hno => ⟨rfl, fun h => hno h.1.permitted⟩
  unfold handle
  generalize hreq : st.request = request at huses
  rw [hreq] at hcache hrefused
  cases huses with
  | disposition req =>
    simp only [map_eq_pure_bind, wp_bind, wp_pure]
    exact wp_permitted_found (fun hno _ => hrefused hno) (fun hnone _ => hmissing hnone)
      fun hpermitted r hget => hcache r _ hpermitted hget trivial
  | cosign req =>
    simp only [map_eq_pure_bind, wp_bind, wp_pure]
    exact wp_permitted_found (fun hno _ => hrefused hno) (fun hnone _ => hmissing hnone)
      fun hpermitted r hget => hcache r _ hpermitted hget trivial
  | escalate req =>
    simp only [map_eq_pure_bind, wp_bind, wp_pure]
    refine wp_permitted_found (fun hno _ => hrefused hno) (fun hnone _ => hmissing hnone)
      fun hpermitted r hget => ?_
    rw [wp_bind, require_state, wp_require]
    refine ⟨fun hstate => hcache r _ hpermitted hget hstate, fun hno => ⟨rfl, fun h => hno ?_⟩⟩
    obtain ⟨r', hget', heligible⟩ := h.1.found
    cases hget.symm.trans hget'
    rw [hreq] at heligible
    exact heligible

/-- What a carried out request leaves behind for its retry. -/
structure Remembered (st : Step) (id k : String) (body : PyDict) (resp : ExceptionDetailResponse)
    (api : Api) : Prop where
  entry : dict.get api.idempotency_cache (st.user.org, id, st.user.sub, k) =
    some ⟨st.env.now, body, resp⟩
  permitted : Permitted st.user st.request
  valid : is_idempotency_key k = true
  found : ∃ r, get_record api id st.user.org = some r

theorem answers_found {r : ChildCase} {req : Request} {resp : ExceptionDetailResponse} {api' : Api}
    (hget : get_record api id st.user.org = some r)
    (h : Answers cfg st.env st.user id r api req resp api') :
    ∃ r', get_record api' id st.user.org = some r' := by
  obtain ⟨w, hanswer, hwrote, -⟩ := h
  refine ⟨w.record, ?_⟩
  rw [get_record, hwrote.records, dict.get_set_self]
  simp [answered_tenant hanswer, (get_record_some hget).2]

/-- A request that finds no live entry and succeeds is remembered. -/
theorem wp_handle_new (huses : Uses id k st.request body)
    (hnew : ∀ entry, dict.get api.idempotency_cache (st.user.org, id, st.user.sub, k) =
      some entry → ¬ entry.Lives st.env.now) :
    wp (handle cfg st)
      (fun resp api' => ∃ answer, resp = some answer ∧ Remembered st id k body answer api')
      (fun _ _ => True) api := by
  have hcache : ∀ r (handler : ApiM ExceptionDetailResponse), Permitted st.user st.request →
      (∀ api, get_record api id st.user.org = some r →
        wp handler (Answers cfg st.env st.user id r api st.request) (fun _ _ => True) api) →
      get_record api id st.user.org = some r →
      wp (with_idempotency st.env st.user id (some k) body handler)
        (fun resp api' => ∃ answer, some resp = some answer ∧ Remembered st id k body answer api')
        (fun _ _ => True) api := by
    intro r handler hpermitted hhandler hget
    refine wp_mono (wp_without_live_entry (P := fun api' => ∃ r',
      get_record api' id st.user.org = some r') hnew (fun cache => ?_) fun _ _ h => h) ?_
      fun _ _ h => h
    · have hget' : get_record { api with idempotency_cache := cache } id st.user.org = some r := hget
      exact wp_mono (hhandler _ hget') (fun _ _ h => answers_found hget' h) fun _ _ h => h
    · rintro resp api' ⟨hentry, hvalid, hfound⟩
      exact ⟨resp, rfl, hentry, hpermitted, hvalid, hfound⟩
  unfold handle
  generalize hreq : st.request = request at huses
  rw [hreq] at hcache
  cases huses with
  | disposition req =>
    simp only [map_eq_pure_bind, wp_bind, wp_pure]
    exact wp_permitted_found (fun _ _ => trivial) (fun _ _ => trivial) fun hpermitted r hget =>
      hcache r _ hpermitted (fun _ h => wp_mono (wp_dispose h) (fun _ _ h => h) fun _ _ _ => trivial)
        hget
  | cosign req =>
    simp only [map_eq_pure_bind, wp_bind, wp_pure]
    exact wp_permitted_found (fun _ _ => trivial) (fun _ _ => trivial) fun hpermitted r hget =>
      hcache r _ hpermitted (fun _ h => wp_mono (wp_cosign h) (fun _ _ h => h) fun _ _ _ => trivial)
        hget
  | escalate req =>
    simp only [map_eq_pure_bind, wp_bind, wp_pure]
    refine wp_permitted_found (fun _ _ => trivial) (fun _ _ => trivial) fun hpermitted r hget => ?_
    rw [wp_bind]
    refine wp_require_state (fun hstate => ?_) fun _ => trivial
    exact hcache r _ hpermitted (fun _ h => wp_mono (wp_escalate h hstate) (fun _ _ h => h)
      fun _ _ _ => trivial) hget

/-- A live entry stays in the cache, whatever is requested. -/
theorem step_keeps_entry {ck : CacheKey} (hentry : dict.get api.idempotency_cache ck = some entry)
    (hlives : entry.Lives st.env.now) :
    dict.get (step cfg st api).idempotency_cache ck = some entry := by
  have hframe : ∀ {α : Type} {x : ApiM α}, KeepsCache x →
      wp x (fun _ api' => dict.get api'.idempotency_cache ck = some entry)
        (fun _ api' => dict.get api'.idempotency_cache ck = some entry) api := by
    intro α x hx
    refine wp_mono (hx api) (fun _ api' h => ?_) fun _ api' h => ?_
    · rw [h, hentry]
    · rw [h, hentry]
  have hcached : ∀ {key : Option String} {id : String} {body : PyDict}
      {handler : ApiM ExceptionDetailResponse}, KeepsCache handler →
      wp (with_idempotency st.env st.user id key body handler)
        (fun _ api' => dict.get api'.idempotency_cache ck = some entry)
        (fun _ api' => dict.get api'.idempotency_cache ck = some entry) api :=
    fun hhandler => wp_keeps_entry hhandler hentry hlives fun _ _ h => h
  suffices hkept : wp (handle cfg st)
      (fun _ api' => dict.get api'.idempotency_cache ck = some entry)
      (fun _ api' => dict.get api'.idempotency_cache ck = some entry) api from
    wp_end (P := fun api' : Api => dict.get api'.idempotency_cache ck = some entry) hkept
  unfold handle
  rcases st.request with ⟨event, explain⟩ | ⟨id, key, req⟩ | ⟨id, key, req⟩ | ⟨id, key, req⟩ |
    ⟨id, reason⟩ | ⟨id, reason⟩ | ⟨id, reason, risk⟩ | ⟨tenant_id, max_attempts⟩
  · exact hframe (keeps_bind keepsCache_resolve fun _ => keeps_pure _)
  · simp only [map_eq_pure_bind, wp_bind, wp_pure]
    exact wp_permitted_found (fun _ _ => hentry) (fun _ _ => hentry) fun _ _ _ =>
      hcached keepsCache_dispose
  · simp only [map_eq_pure_bind, wp_bind, wp_pure]
    exact wp_permitted_found (fun _ _ => hentry) (fun _ _ => hentry) fun _ _ _ =>
      hcached keepsCache_cosign
  · simp only [map_eq_pure_bind, wp_bind, wp_pure]
    refine wp_permitted_found (fun _ _ => hentry) (fun _ _ => hentry) fun _ _ _ => ?_
    rw [wp_bind]
    exact wp_require_state (fun _ => hcached keepsCache_escalate) fun _ => hentry
  · exact hframe (keeps_map _ keepsCache_reanalyze)
  · refine hframe (keeps_map _ (keeps_bind (keeps_require _ _) fun _ => ?_))
    exact keeps_bind keepsCache_get_or_404 fun _ => keeps_bind (keeps_require _ _) fun _ =>
      keepsCache_move_record
  · refine hframe (keeps_map _ (keeps_bind (keeps_require _ _) fun _ => ?_))
    exact keeps_bind keepsCache_get_or_404 fun _ => keeps_bind (keeps_require _ _) fun _ =>
      keeps_bind (keeps_require _ _) fun _ => keepsCache_move_record
  · exact hframe (keeps_bind (keeps_modify fun _ => rfl) fun _ => keeps_pure _)

/-- A record stays where it is, and with its tenant. -/
theorem step_keeps_found (hfresh : FreshId st api) {tenant : String}
    (h : ∃ r, get_record api id tenant = some r) :
    ∃ r, get_record (step cfg st api) id tenant = some r := by
  obtain ⟨r, hget⟩ := h
  generalize hafter : step cfg st api = api'
  have hsame : api'.records = api.records → ∃ r, get_record api' id tenant = some r :=
    fun hrecords => ⟨r, by rw [get_record, hrecords]; exact hget⟩
  cases hafter ▸ step_cases cfg st api with
  | idle hkept | reconciled _ _ _ hkept => exact hsame hkept.records
  | abandoned _ _ _ hkept => exact hsame hkept.records
  | wrote id' r' w hget' hanswer hwrote =>
    by_cases hid : id = id'
    · subst hid
      have hr := (get_record_some hget).1
      cases hr.symm.trans (get_record_some hget').1
      refine ⟨w.record, ?_⟩
      rw [get_record, hwrote.records, dict.get_set_self]
      simp [answered_tenant hanswer, (get_record_some hget).2]
    · refine ⟨r, ?_⟩
      rw [get_record, hwrote.records, dict.get_set_of_ne _ _ hid]
      exact hget
  | resolved event explain outcome hreq hrun haudit hledger hrecords =>
    rcases hrecords with hrecords | ⟨trace_id, case, data, fin, -, hrecords⟩
    · exact hsame hrecords
    · have hne : id ≠ st.env.new_id := by
        rintro rfl
        cases (get_record_some hget).1.symm.trans (hfresh event explain hreq)
      refine ⟨r, ?_⟩
      rw [get_record, hrecords, dict.get_set_of_ne _ _ hne]
      exact hget

end requests

/-! ## Retries -/

/-- A step between a request and its retry: it comes while the answer is
kept, and new records get unused ids. -/
def Between (st m : Step) (api : Api) : Prop :=
  m.env.now - st.env.now ≤ IDEMPOTENCY_TTL_SECONDS ∧ FreshId m api

/-- The retry can be answered: what the escalate endpoint asks of the record
still holds, and the body is equal to itself, which one with a NaN is not. -/
structure Repeatable (st : Step) (id : String) (body : PyDict) (api : Api) : Prop where
  eligible : ∃ r, get_record api id st.user.org = some r ∧ Eligible r st.request
  reflexive : SameBody body body

/-- A request of the analyst under a key. -/
def keyedStep (request : Request) : Step := sampleStep "analyst" request

def keyedSubmitStep : Step := keyedStep (.disposition "E1" (some "key-1") submitRequest)

def keyedEscalateStep : Step := keyedStep (.escalate "E1" (some "key-1") ⟨"too old", none⟩)

def resolvedApi : Api := run (step sampleConfig) {} [resolveStep]

theorem nothing_cached (entry : CacheEntry) (now : ℚ)
    (h : dict.get resolvedApi.idempotency_cache ("T1", "E1", "analyst", "key-1") = some entry) :
    ¬ entry.Lives now := by
  have hnone : dict.get resolvedApi.idempotency_cache ("T1", "E1", "analyst", "key-1") = none := by
    decide +kernel
  cases hnone.symm.trans h

end asoe
