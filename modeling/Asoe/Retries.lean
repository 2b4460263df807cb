-- The effect gateways as at-most-once writes: for any kind of call, the
-- calls that went through and the outbox entries that the worker will run
-- again are a tally, the worker only retries, and one effect is one attempt.
import Asoe.GraphRun
import Asoe.Lib.AtMostOnce

namespace asoe

open py prog once

/-! ## The tally of a kind of call -/

/-- A kind of call, by its origin, its gateway, its operation and its
parameters, and the answers that count as done. -/
structure Target where
  wanted : Option String → String → String → PyDict → Bool
  done : GatewayResponse → Bool
  done_success : ∀ response, done response = true → response.status = .SUCCESS

namespace Target

variable (t : Target)

def ofCall (c : GatewayCall) : Bool :=
  t.wanted c.origin c.request.gateway_name c.request.operation c.request.params

def ofEntry (e : OutboxEntry) : Bool := t.wanted e.origin e.gateway e.operation e.params

def tally (ext : External) : Tally where
  done := ext.calls.countP fun c => t.ofCall c && t.done c.response
  queued := ext.outbox.countP fun e => e.isPending && t.ofEntry e

/-- The failed tries that the worker brought through later. -/
def recovered (ext : External) : ℕ := ext.outbox.countP fun e => e.compensated && t.ofEntry e

end Target

/-- The ids of the outbox count its entries. -/
def Keyed (ext : External) : Prop :=
  ext.outbox.map (·.id) = List.range ext.outbox.length

theorem Keyed.nodup {ext : External} (h : Keyed ext) : (ext.outbox.map (·.id)).Nodup := by
  rw [h]
  exact List.nodup_range

theorem update_entry_eq (f : OutboxEntry → OutboxEntry) (id : ℕ) (outbox : List OutboxEntry) :
    update_entry f id outbox = updateAt (·.id) f id outbox := rfl

/-! ## The worker -/

section worker

variable (t : Target) (gateway : Gateways) (max_attempts : ℕ)

/-- The entry is tried, and then `close` is done to it: the other entries
stay, and a count changes by what it says of this entry. -/
theorem close_entry {ext : External} {e : OutboxEntry} (hkeyed : Keyed ext)
    (he : e ∈ ext.outbox) (close : OutboxEntry → OutboxEntry) (hid : ∀ x, (close x).id = x.id) :
    let outbox := update_entry close e.id (increment_attempts e.id ext.outbox)
    outbox.map (·.id) = List.range outbox.length ∧
      (∀ x ∈ ext.outbox, x.id ≠ e.id → x ∈ outbox) ∧
      ∀ p : OutboxEntry → Bool, outbox.countP p + (if p e = true then 1 else 0)
        = ext.outbox.countP p + (if p (close e.attempted) = true then 1 else 0) := by
  have hkeys₁ : (increment_attempts e.id ext.outbox).map (·.id) = ext.outbox.map (·.id) :=
    updateAt_keys (·.id) OutboxEntry.attempted (fun _ => rfl) e.id ext.outbox
  have he₁ : e.attempted ∈ increment_attempts e.id ext.outbox :=
    List.mem_map.mpr ⟨e, he, if_pos rfl⟩
  refine ⟨?_, fun x hx hne => ?_, fun p => ?_⟩
  · rw [update_entry_eq, updateAt_keys _ _ hid, hkeys₁, hkeyed]
    simp [updateAt, increment_attempts, update_entry]
  · exact mem_updateAt_of_ne _ _ (mem_updateAt_of_ne _ _ hx hne) hne
  · have h₁ := countP_updateAt (·.id) OutboxEntry.attempted hkeyed.nodup he p
    have h₂ := countP_updateAt (·.id) close (by rw [hkeys₁]; exact hkeyed.nodup) he₁ p
    have hkey : e.attempted.id = e.id := rfl
    rw [hkey] at h₂
    simp only [update_entry_eq, increment_attempts] at h₁ h₂ ⊢
    omega

/-- What a turn of the worker does: one more call, and an entry that is
compensated, escalated, or only counted. -/
theorem reconcile_entry_cases (ext : External) (e : OutboxEntry) :
    ∃ response close, reconcile_entry gateway max_attempts ext e =
        ⟨update_entry close e.id (increment_attempts e.id ext.outbox),
          ext.calls ++ [⟨e.origin, retry_request e, response⟩]⟩ ∧
      (response.status = .SUCCESS ∧ close = OutboxEntry.markCompensated ∨
        response.status ≠ .SUCCESS ∧ (close = OutboxEntry.markEscalated ∨ close = id)) := by
  unfold reconcile_entry run_gateway
  dsimp only
  by_cases hsuccess : (gateway ext.calls.length (retry_request e)).status = .SUCCESS
  · rw [if_pos hsuccess]
    exact ⟨_, _, rfl, Or.inl ⟨hsuccess, rfl⟩⟩
  · rw [if_neg hsuccess]
    by_cases hattempts : e.attempts + 1 ≥ max_attempts
    · rw [if_pos hattempts]
      exact ⟨_, _, rfl, Or.inr ⟨hsuccess, Or.inl rfl⟩⟩
    · rw [if_neg hattempts]
      exact ⟨_, id, by simp [update_entry], Or.inr ⟨hsuccess, Or.inr rfl⟩⟩

/-- One turn of the worker on a pending entry is one retry. A write that it
brings through is one that it closes as compensated. -/
theorem reconcile_entry_retry {ext : External} {e : OutboxEntry} (hkeyed : Keyed ext)
    (he : e ∈ ext.outbox) (hpending : e.isPending = true) :
    let after := reconcile_entry gateway max_attempts ext e
    Retry (t.tally ext) (t.tally after) ∧ Keyed after ∧
      (t.tally after).done + t.recovered ext ≤ (t.tally ext).done + t.recovered after ∧
      ∀ x ∈ ext.outbox, x.id ≠ e.id → x ∈ after.outbox := by
  obtain ⟨response, close, hafter, hclose⟩ :=
    reconcile_entry_cases gateway max_attempts ext e
  have hid : ∀ x, (close x).id = x.id := by
    rcases hclose with ⟨-, rfl⟩ | ⟨-, rfl | rfl⟩ <;> exact fun _ => rfl
  have hof : t.ofEntry (close e.attempted) = t.ofEntry e := by
    rcases hclose with ⟨-, rfl⟩ | ⟨-, rfl | rfl⟩ <;> rfl
  have hopen : e.compensated = false := by
    simp only [OutboxEntry.isPending, Bool.and_eq_true, Bool.not_eq_true'] at hpending
    exact hpending.1.2
  obtain ⟨hkeys, hothers, hcount⟩ := close_entry hkeyed he close hid
  have hqueued := hcount fun x => x.isPending && t.ofEntry x
  have hrecovered := hcount fun x => x.compensated && t.ofEntry x
  rw [hafter]
  have hcalls : (ext.calls ++ [(⟨e.origin, retry_request e, response⟩ : GatewayCall)]).countP
      (fun c => t.ofCall c && t.done c.response) =
        ext.calls.countP (fun c => t.ofCall c && t.done c.response) +
          (if (t.ofEntry e && t.done response) = true then 1 else 0) := by
    rw [List.countP_append, List.countP_singleton]
    rfl
  refine ⟨?_, hkeys, ?_, hothers⟩
  · by_cases hwanted : t.ofEntry e = true
    · simp only [hof, hwanted, hpending, Bool.and_true, Bool.true_and, if_true] at hqueued hcalls
      rcases hclose with ⟨hsuccess, rfl⟩ | ⟨hfail, hclose⟩
      · have hclosed : e.attempted.markCompensated.isPending = false := by
          simp [OutboxEntry.isPending, OutboxEntry.markCompensated]
        simp only [hclosed, Bool.false_eq_true, if_false] at hqueued
        by_cases hdone : t.done response = true
        · exact .settled (hcalls.trans (by simp [hdone, Target.tally])) hqueued.symm
        · exact .dropped (hcalls.trans (by simp [hdone, Target.tally])) hqueued.symm
      · have hnot : ¬ t.done response = true := fun h => hfail (t.done_success response h)
        rcases hclose with rfl | rfl
        · have hclosed : e.attempted.markEscalated.isPending = false := by
            simp [OutboxEntry.isPending, OutboxEntry.markEscalated]
          simp only [hclosed, Bool.false_eq_true, if_false] at hqueued
          exact .dropped (hcalls.trans (by simp [hnot, Target.tally])) hqueued.symm
        · have hstill : (id e.attempted).isPending = true := hpending
          simp only [hstill, if_true] at hqueued
          exact .idle (hcalls.trans (by simp [hnot, Target.tally])) (Nat.add_right_cancel hqueued)
    · simp only [hof, hwanted, Bool.and_false, Bool.false_and, Bool.false_eq_true, if_false,
        Nat.add_zero] at hqueued hcalls
      exact .idle hcalls hqueued
  · simp only [hof, hopen, Bool.false_and, Bool.false_eq_true, if_false, Nat.add_zero]
      at hrecovered
    have hle : (if (t.ofEntry e && t.done response) = true then 1 else 0) ≤
        if ((close e.attempted).compensated && t.ofEntry e) = true then 1 else 0 := by
      split
      · rename_i hdone
        simp only [Bool.and_eq_true] at hdone
        rcases hclose with ⟨-, rfl⟩ | ⟨hfail, -⟩
        · simp [OutboxEntry.markCompensated, hdone.1]
        · exact absurd (t.done_success response hdone.2) hfail
      · exact Nat.zero_le _
    simp only [Target.tally, Target.recovered]
    omega

/-- A run of the worker retries the queued writes of every kind, and does
nothing else to them. -/
theorem reconcile_pending_retries {ext : External} (hkeyed : Keyed ext)
    (tenant_id : Option String) :
    let after := reconcile_pending gateway tenant_id max_attempts ext
    Retries (t.tally ext) (t.tally after) ∧ Keyed after ∧
      (t.tally after).done + t.recovered ext ≤ (t.tally ext).done + t.recovered after := by
  -- The queue is read once: its entries are pending, and no turn touches a later one.
  have hfold : ∀ (es : List OutboxEntry) (ext : External), Keyed ext → (es.map (·.id)).Nodup →
      (∀ e ∈ es, e ∈ ext.outbox ∧ e.isPending = true) →
      let after := es.foldl (reconcile_entry gateway max_attempts) ext
      Retries (t.tally ext) (t.tally after) ∧ Keyed after ∧
        (t.tally after).done + t.recovered ext ≤ (t.tally ext).done + t.recovered after := by
    intro es
    induction es with
    | nil => exact fun ext hkeyed _ _ => ⟨.refl, hkeyed, Nat.le_refl _⟩
    | cons e es ih =>
      intro ext hkeyed hnodup hes
      obtain ⟨he, hpending⟩ := hes e List.mem_cons_self
      simp only [List.map_cons, List.nodup_cons] at hnodup
      obtain ⟨hretry, hkeyed', hdone, hothers⟩ := reconcile_entry_retry t gateway max_attempts
        hkeyed he hpending
      obtain ⟨hrest, hkeyed'', hdone'⟩ := ih _ hkeyed' hnodup.2 fun x hx => by
        obtain ⟨hin, hp⟩ := hes x (List.mem_cons_of_mem _ hx)
        refine ⟨hothers x hin fun hid => hnodup.1 ?_, hp⟩
        exact List.mem_map.mpr ⟨x, hx, hid⟩
      refine ⟨.head hretry hrest, hkeyed'', ?_⟩
      rw [List.foldl_cons]
      omega
  refine hfold _ ext hkeyed ?_ fun e he => ?_
  · exact hkeyed.nodup.sublist (List.Sublist.map _ List.filter_sublist)
  · obtain ⟨hin, hp⟩ := List.mem_filter.mp he
    exact ⟨hin, (Bool.and_eq_true_iff.mp hp).1⟩

theorem reconcile_pending_keyed {ext : External} (hkeyed : Keyed ext)
    (tenant_id : Option String) :
    Keyed (reconcile_pending gateway tenant_id max_attempts ext) :=
  (reconcile_pending_retries ⟨fun _ _ _ _ => false, fun _ => false, by simp⟩ gateway max_attempts
    hkeyed tenant_id).2.1

end worker

/-! ## One effect -/

section effect

variable (t : Target) (env : RunEnv) (origin : Option String) (s : GraphState)
  (req : GatewayRequest) (ext : External)

theorem effected_keyed (hkeyed : Keyed ext) : Keyed (effected env origin s req ext) := by
  simp only [Keyed, effected, record_effect, run_gateway, List.map_append, List.length_append]
  rw [hkeyed]
  simp [List.range_succ]

theorem effected_tally_other
    (h : t.wanted origin req.gateway_name req.operation req.params = false) :
    t.tally (effected env origin s req ext) = t.tally ext := by
  simp [Target.tally, effected, record_effect, run_gateway, List.countP_append, Target.ofCall,
    Target.ofEntry, h]

theorem effected_done :
    (t.tally (effected env origin s req ext)).done = (t.tally ext).done +
      if (t.wanted origin req.gateway_name req.operation req.params &&
        t.done (env.gateway ext.calls.length req)) = true then 1 else 0 := by
  simp only [Target.tally, effected, record_effect, run_gateway]
  rw [List.countP_append, List.countP_singleton]
  rfl

theorem effected_recovered :
    t.recovered (effected env origin s req ext) = t.recovered ext := by
  simp [Target.recovered, effected, record_effect, run_gateway, List.countP_append]

/-- An effect is one attempt at its write. -/
theorem effected_attempt : Attempt (t.tally ext) (t.tally (effected env origin s req ext)) := by
  by_cases h : t.wanted origin req.gateway_name req.operation req.params = true
  · by_cases hsuccess : (env.gateway ext.calls.length req).status = .SUCCESS
    · have hqueued : (t.tally (effected env origin s req ext)).queued = (t.tally ext).queued := by
        simp [Target.tally, effected, record_effect, run_gateway, List.countP_append,
          OutboxEntry.isPending, hsuccess]
      by_cases hdone : t.done (env.gateway ext.calls.length req) = true
      · exact .done (by simp [Target.tally, effected, record_effect, run_gateway,
          List.countP_append, Target.ofCall, h, hdone]) hqueued
      · exact .lost (by simp [Target.tally, effected, record_effect, run_gateway,
          List.countP_append, hdone]) hqueued
    · have hnot : ¬ t.done (env.gateway ext.calls.length req) = true :=
        fun hd => hsuccess (t.done_success _ hd)
      exact .queued (by simp [Target.tally, effected, record_effect, run_gateway,
          List.countP_append, hnot])
        (by simp [Target.tally, effected, record_effect, run_gateway, List.countP_append,
          OutboxEntry.isPending, Target.ofEntry, h, hsuccess])
  · rw [effected_tally_other t env origin s req ext (by simpa using h)]
    exact .lost rfl rfl

end effect

/-! ## One run -/

/-- A run calls no effect gateway, or makes the one call that its executed
state asks for. -/
theorem RunEnd.external {env : RunEnv} {origin : Option String} {state : GraphState}
    {ext ext' : External} {outcome : Except PyErr GraphState}
    (h : RunEnd env origin state ext outcome ext') :
    ext' = ext ∨ ∃ s req, Executes env state s ∧ requested s = some req ∧
      ext' = effected env origin s req ext := by
  have happly : ∀ s, Executes env state s → (apply_effects env origin s ext).1 = ext ∨
      ∃ s' req, Executes env state s' ∧ requested s' = some req ∧
        (apply_effects env origin s ext).1 = effected env origin s' req ext := by
    intro s hexec
    have hspec := (apply_effects_spec env origin s ext).2
    rcases hreq : requested s with _ | req
    · rw [hreq] at hspec
      exact Or.inl hspec.1
    · rw [hreq] at hspec
      exact Or.inr ⟨s, req, hexec, hreq, hspec.1⟩
  cases h with
  | halted => exact Or.inl rfl
  | raised => exact Or.inl rfl
  | done s fin hexec => exact happly s hexec
  | broke s e hexec => exact happly s hexec

theorem Executes.proposable {env : RunEnv} {state s : GraphState} (h : Executes env state s)
    (hnone : state.selected_recipe = none) (name : RecipeName)
    (hname : s.selected_recipe = some name) : Proposable env state.directed_recipe name := by
  obtain ⟨-, -, p, hp, -, hs⟩ := h
  have hsel := (execute_recipe_sameRun env p s hs).selected_recipe
  exact proposal_phase_proposable env state hnone p hp name (hsel.symm.trans hname)

theorem Executes.directed {env : RunEnv} {state s : GraphState} {name : RecipeName}
    (h : Executes env state s) (hdir : state.directed_recipe = some name)
    (hdeps : (get_recipe name).dependencies = []) : s.selected_recipe = some name := by
  obtain ⟨-, -, p, hp, hnone, hs⟩ := h
  have hsel := (directed_proposal env state name hdir hdeps p hp hnone).1
  exact (execute_recipe_sameRun env p s hs).selected_recipe.trans hsel

theorem requested_on_status {s : GraphState} {name : RecipeName} {effect : GatewayEffect}
    {status : String} (hsel : s.selected_recipe = some name)
    (heffect : (get_recipe name).effects = [effect])
    (honly : effect.only_on_recipe_status = some [status]) :
    requested s =
      if dict.get s.outputs "status" = some (.str status) then some (effect_call s effect)
      else none := by
  unfold requested
  rcases hlog : s.execution_log with _ | log
  · simp [hsel, GraphState.outputs, hlog]
  · by_cases hstatus : dict.get s.outputs "status" = some (.str status)
    · simp [hsel, heffect, effect_request, honly, hstatus, PyVal.ofOption]
    · have hne : PyVal.ofOption (dict.get s.outputs "status") ≠ .str status :=
        fun h => hstatus (PyVal.ofOption_eq_str.mp h)
      simp [hsel, heffect, effect_request, honly, hstatus, hne.symm]

/-- The call that the ERP recipe asks for. -/
def submit_request (s : GraphState) : GatewayRequest where
  gateway_name := "erp"
  operation := "create_sales_order"
  params := [("payload", .ofOption (dict.get s.outputs "erp_payload"))]
  trace_id := (s.shadow.map (·.trace_id)).getD s.request_trace_id

theorem requested_submit {s : GraphState} (hsel : s.selected_recipe = some .SubmitToErpRecipe) :
    requested s =
      if dict.get s.outputs "status" = some (.str "SUCCESS") then some (submit_request s)
      else none :=
  requested_on_status hsel rfl rfl

/-- The call that the reply recipe asks for. -/
def reply_request (s : GraphState) : GatewayRequest where
  gateway_name := "buyer_notification"
  operation := "send"
  params := [("recipient", .ofOption (dict.get s.outputs "recipient")),
    ("subject", .ofOption (dict.get s.outputs "subject")),
    ("body", .ofOption (dict.get s.outputs "body"))]
  trace_id := (s.shadow.map (·.trace_id)).getD s.request_trace_id

theorem requested_reply {s : GraphState} (hsel : s.selected_recipe = some .ReplyDraftRecipe) :
    requested s =
      if dict.get s.outputs "status" = some (.str "READY_TO_SEND") then some (reply_request s)
      else none :=
  requested_on_status hsel rfl rfl

/-- No other recipe calls the ERP gateway. -/
theorem requested_erp {s : GraphState} {req : GatewayRequest} (h : requested s = some req)
    (hname : req.gateway_name = "erp") : s.selected_recipe = some .SubmitToErpRecipe := by
  unfold requested at h
  rcases hsel : s.selected_recipe with _ | name
  · simp [hsel] at h
  rcases hlog : s.execution_log with _ | log
  · simp [hsel, hlog] at h
  simp only [hsel, hlog] at h
  obtain ⟨effect, heffect, hreq⟩ := Option.bind_eq_some_iff.mp h
  have herp : effect.gateway_name = "erp" := by
    unfold effect_request at hreq
    split at hreq
    · cases hreq
    · cases hreq
      exact hname
  cases name <;> simp [get_recipe, MANUAL_ORDER_INTAKE_SPEC] at heffect <;> subst heffect <;>
    simp at herp
  rfl

end asoe
