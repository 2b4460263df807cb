-- Requests that replay one exception next to each other. The cap is checked
-- on the history that a request read before its replay, and the store on the
-- database writes the whole history back; what other requests did in between
-- is not seen.
import Asoe.Reanalysis
import Asoe.Lib.Interleaving
import Mathlib.Data.List.Perm.Subperm

namespace asoe

open py prog runs interleaving

/-! ## One request -/

/-- A request to replay the exception. -/
structure ReplayRequest where
  env : StepEnv
  user : AuthenticatedUser
  reason : String

/-- How far a request has come. `ended` also says whether its replay of the
graph returned. -/
inductive ReplayState where
  | start
  | admitted (record : ChildCase) (event : OrderEvent)
  | ready (record : ChildCase) (event : OrderEvent) (prior_executed_nodes : List ExecutedNode)
  | replayed (record : ChildCase) (prior_executed_nodes : List ExecutedNode)
      (final_state : GraphState)
  | traced (entry : ReanalysisEntry) (final_state : GraphState)
  | updated (entry : ReanalysisEntry)
  | read (entry : ReanalysisEntry) (history : List ReanalysisEntry)
  | appended (entry : ReanalysisEntry) (updated : ChildCase)
  | ended (answer : Except ApiError ExceptionDetailResponse) (completed : Bool)

/-- The service, with the requests that passed the cap, those that replayed
the graph, and the entries that were appended, in their order. -/
structure ReplayRun (κ : Type) where
  api : Api
  admitted : List κ := []
  begun : List κ := []
  appended : List (κ × ReanalysisEntry) := []

/-- The answer of a part of the service that has run. -/
def answer_of {α : Type} : EStateM.Result ApiError Api α → Except ApiError α
  | .ok a _ => .ok a
  | .error e _ => .error e

section request

variable (cfg : Config) (exception_id : String)

/-- What a request checks before it replays. -/
def reanalysis_checks (user : AuthenticatedUser) : ApiM (ChildCase × OrderEvent) := do
  require_role user ["manager", "admin"]
  let record ← get_or_404 exception_id user.org
  require (is_reanalyzable record = true)
    (.asoe_error "INVALID_STATE" ("Cannot reanalyze: exception verdict is '"
      ++ ((record.shadow_verdict.map (·.value)).getD "None") ++ "' and lifecycle is '"
      ++ record.lifecycle_state.value ++ "'. Reanalysis is permitted only on YELLOW/RED verdicts "
      ++ "or on FAILED/BLOCKED/ESCALATED lifecycles.") 409)
  require (record.reanalysis_history.length < REANALYSIS_MAX_ATTEMPTS)
    (.asoe_error "RATE_LIMITED" ("Reanalysis limit reached (" ++ toString REANALYSIS_MAX_ATTEMPTS
      ++ " attempts). Escalate to admin for manual resolution.") 429)
  match record.original_event with
  | none => throw (.asoe_error "REPLAY_UNAVAILABLE" ("Cannot reanalyze: the original event is not "
      ++ "on file for this exception. Reanalysis requires the source event.") 409)
  | some event => return (record, event)

/-- The prior attempt's nodes. -/
def prior_nodes (api : Api) : List ExecutedNode :=
  ((dict.get api.traces exception_id).map (·.executed_nodes)).getD []

def replay_graph (request : ReplayRequest) (event : OrderEvent) : ApiM GraphState :=
  mapError (graph_error "Graph execution failed during reanalysis")
    (resolve_state request.env exception_id { event := event, tenant_id := some request.user.org })

/-- The record that a request holds while others write: in memory it is the
stored object itself, from the database a copy. -/
def held_record (api : Api) (record : ChildCase) : ChildCase :=
  match cfg.store with
  | .memory => (dict.get api.records exception_id).getD record
  | .database => record

/-- The entry of a replay; its number was fixed by the checks. -/
def rerun_entry (request : ReplayRequest) (api : Api) (record : ChildCase)
    (prior_executed_nodes : List ExecutedNode) (final_state : GraphState) : ReanalysisEntry :=
  { reanalysis_entry request.env request.user request.reason
      (held_record cfg exception_id api record) prior_executed_nodes final_state with
    attempt := record.reanalysis_history.length + 1 }

def UPDATE_FIELDS_FAILED : String := "Failed to update exception after reanalysis."

def APPEND_FAILED : String := "Failed to persist reanalysis history."

def update_fields (request : ReplayRequest) (final_state : GraphState) : ApiM ChildCase :=
  update_record request.env exception_id request.user.org UPDATE_FIELDS_FAILED
    (reanalyzed_record request.env final_state)

/-- `ExceptionStore.append_reanalysis`. -/
def append_in_place (request : ReplayRequest) (entry : ReanalysisEntry) : ApiM ChildCase :=
  update_record request.env exception_id request.user.org APPEND_FAILED (with_reanalysis entry)

/-- The `UPDATE` of `DatabaseBackedStore.append_reanalysis`: the column is set
to the list that was read, with one more entry. -/
def write_history (request : ReplayRequest) (entry : ReanalysisEntry)
    (history : List ReanalysisEntry) : ApiM ChildCase :=
  update_record request.env exception_id request.user.org APPEND_FAILED
    (fun record => { record with reanalysis_history := history ++ [entry] })

/-- What is left once the entry is stored. -/
def finish_reanalysis (request : ReplayRequest) (entry : ReanalysisEntry) (updated : ChildCase) :
    ApiM ExceptionDetailResponse := do
  modify (log_audit_event cfg request.env
    (reanalyzed_event request.user exception_id request.reason entry))
  reaggregate_parent_case cfg request.env request.user.org updated
  return updated.to_detail

variable {κ : Type} (requests : κ → ReplayRequest)

/-- The next step of a request: one access to the stores, or the replay. -/
def replay_next (i : κ) : ReplayState → ReplayRun κ → ReplayState × ReplayRun κ
  | .start, s =>
    match reanalysis_checks exception_id (requests i).user s.api with
    | .ok found api =>
      (.admitted found.1 found.2, { s with api := api, admitted := s.admitted ++ [i] })
    | .error e api => (.ended (.error e) false, { s with api := api })
  | .admitted record event, s => (.ready record event (prior_nodes exception_id s.api), s)
  | .ready record event nodes, s =>
    match replay_graph exception_id (requests i) event s.api with
    | .ok final_state api =>
      (.replayed record nodes final_state, { s with api := api, begun := s.begun ++ [i] })
    | .error e api => (.ended (.error e) false, { s with api := api, begun := s.begun ++ [i] })
  | .replayed record nodes final_state, s =>
    let entry := rerun_entry cfg exception_id (requests i) s.api record nodes final_state
    let trace := trace_data_of (run_trace_id (requests i).env final_state) final_state
    (.traced entry final_state, { s with api := store_trace exception_id trace s.api })
  | .traced entry final_state, s =>
    match update_fields exception_id (requests i) final_state s.api with
    | .ok _ api => (.updated entry, { s with api := api })
    | .error e api => (.ended (.error e) true, { s with api := api })
  | .updated entry, s =>
    match cfg.store with
    | .memory =>
      match append_in_place exception_id (requests i) entry s.api with
      | .ok updated api =>
        (.appended entry updated, { s with api := api, appended := s.appended ++ [(i, entry)] })
      | .error e api => (.ended (.error e) true, { s with api := api })
    | .database =>
      match get_record s.api exception_id (requests i).user.org with
      | some record => (.read entry record.reanalysis_history, s)
      | none => (.ended (.error (.asoe_error "UPDATE_FAILED" APPEND_FAILED 500)) true, s)
  | .read entry history, s =>
    match write_history exception_id (requests i) entry history s.api with
    | .ok updated api =>
      (.appended entry updated, { s with api := api, appended := s.appended ++ [(i, entry)] })
    | .error e api => (.ended (.error e) true, { s with api := api })
  | .appended entry updated, s =>
    let result := finish_reanalysis cfg exception_id (requests i) entry updated s.api
    (.ended (answer_of result) true, { s with api := endState result })
  | .ended answer completed, s => (.ended answer completed, s)

end request

/-! ## A request alone -/

section alone

variable {cfg : Config} {exception_id : String} {request : ReplayRequest} {api : Api}

/-- The handler as the checks, the replay and the writes. -/
theorem reanalyze_exception_eq (cfg : Config) (exception_id : String) (request : ReplayRequest) :
    reanalyze_exception cfg request.env request.user exception_id request.reason =
      (do
        let found ← reanalysis_checks exception_id request.user
        let api ← get
        let final_state ← replay_graph exception_id request found.2
        let entry := reanalysis_entry request.env request.user request.reason found.1
          (prior_nodes exception_id api) final_state
        modify (store_trace exception_id
          (trace_data_of (run_trace_id request.env final_state) final_state))
        let _ ← update_fields exception_id request final_state
        let updated ← append_in_place exception_id request entry
        finish_reanalysis cfg exception_id request entry updated) := by
  unfold reanalyze_exception reanalysis_checks persist_reanalysis replay_graph update_fields
    append_in_place finish_reanalysis prior_nodes
  simp only [bind_assoc]
  congr 1
  funext _
  congr 1
  funext record
  congr 1
  funext _
  congr 1
  funext _
  rcases record.original_event with _ | event
  · rfl
  · simp only [pure_bind]
    rfl

variable {api' : Api}

/-- What the checks read is the record of the store. -/
theorem checks_pass {found : ChildCase × OrderEvent}
    (h : reanalysis_checks exception_id request.user api = .ok found api') :
    api' = api ∧ get_record api exception_id request.user.org = some found.1 ∧
      found.1.reanalysis_history.length < REANALYSIS_MAX_ATTEMPTS := by
  have hwp : wp (reanalysis_checks exception_id request.user) (fun found api' => api' = api ∧
      get_record api exception_id request.user.org = some found.1 ∧
        found.1.reanalysis_history.length < REANALYSIS_MAX_ATTEMPTS) (fun _ _ => True) api := by
    unfold reanalysis_checks require_role
    refine wp_permitted_found (fun _ _ => trivial) (fun _ _ => trivial) ?_
    intro _ record hget
    rw [wp_bind, wp_require]
    refine ⟨fun _ => ?_, fun _ => trivial⟩
    rw [wp_bind, wp_require]
    refine ⟨fun hcap => ?_, fun _ => trivial⟩
    split
    · trivial
    · exact ⟨rfl, hget, hcap⟩
  have hpassed := wp_ok hwp h
  exact hpassed

theorem checks_refuse {e : ApiError}
    (h : reanalysis_checks exception_id request.user api = .error e api') : api' = api := by
  have hwp : wp (reanalysis_checks exception_id request.user) (fun _ _ => True)
      (fun _ api' => api' = api) api := by
    unfold reanalysis_checks require_role
    refine wp_permitted_found (fun _ _ => rfl) (fun _ _ => rfl) ?_
    intro _ record hget
    rw [wp_bind, wp_require]
    refine ⟨fun _ => ?_, fun _ => rfl⟩
    rw [wp_bind, wp_require]
    refine ⟨fun hcap => ?_, fun _ => rfl⟩
    split
    · rfl
    · trivial
  have hrefused := wp_error hwp h
  exact hrefused

theorem replay_graph_records (event : OrderEvent) :
    wp (replay_graph exception_id request event) (fun _ api' => api'.records = api.records)
      (fun _ api' => api'.records = api.records) api := by
  unfold replay_graph
  rw [wp_mapError]
  exact wp_resolve_state (fun _ _ _ _ => rfl) fun _ _ _ _ _ => rfl

theorem replayed_records {event : OrderEvent} {final_state : GraphState}
    (h : replay_graph exception_id request event api = .ok final_state api') :
    api'.records = api.records := by
  have hrecords := wp_ok (replay_graph_records event) h
  exact hrecords

theorem failed_records {event : OrderEvent} {e : ApiError}
    (h : replay_graph exception_id request event api = .error e api') :
    api'.records = api.records := by
  have hrecords := wp_error (replay_graph_records event) h
  exact hrecords

theorem get_record_congr (h : api'.records = api.records) (id org : String) :
    get_record api' id org = get_record api id org := by
  unfold get_record
  rw [h]

variable {record : ChildCase} {org : String}

theorem rerun_entry_eq (cfg : Config) (request : ReplayRequest)
    (h : get_record api exception_id org = some record)
    (nodes : List ExecutedNode) (final_state : GraphState) :
    rerun_entry cfg exception_id request api record nodes final_state =
      reanalysis_entry request.env request.user request.reason record nodes final_state := by
  have hheld : held_record cfg exception_id api record = record := by
    unfold held_record
    split
    · rw [(get_record_some h).1]
      rfl
    · rfl
  unfold rerun_entry
  rw [hheld]
  rfl

theorem get_record_put (h : record.tenant_id = org) :
    get_record (put_record api exception_id record) exception_id org = some record := by
  unfold get_record put_record
  rw [dict.get_set_self]
  exact if_pos h

theorem run_update_record {env : StepEnv} {message : String} {fields : ChildCase → ChildCase}
    (h : get_record api exception_id org = some record) :
    update_record env exception_id org message fields api =
      .ok (stamped env (fields record))
        (put_record api exception_id (stamped env (fields record))) := by
  unfold update_record
  rw [run_bind, run_get]
  dsimp only
  rw [h]
  rfl

/-- A request that no other interrupts is the handler. -/
theorem a_request_alone_is_the_handler {κ : Type} [DecidableEq κ] (cfg : Config)
    (exception_id : String) (requests : κ → ReplayRequest) (i : κ)
    (c : Conf κ ReplayState (ReplayRun κ)) (hstart : c.locals i = .start) :
    ∃ completed, (run (interleaving.step (replay_next cfg exception_id requests)) c
        (List.replicate 8 i)).locals i = .ended (answer_of (reanalyze_exception cfg
          (requests i).env (requests i).user exception_id (requests i).reason c.shared.api))
            completed ∧
      (run (interleaving.step (replay_next cfg exception_id requests)) c
        (List.replicate 8 i)).shared.api = endState (reanalyze_exception cfg (requests i).env
          (requests i).user exception_id (requests i).reason c.shared.api) := by
  obtain ⟨hlocals, hshared⟩ := run_alone (replay_next cfg exception_id requests) i 8 c
  rw [hlocals, hshared, hstart, reanalyze_exception_eq]
  simp only [Function.iterate_succ_apply, Function.iterate_zero, id_eq]
  rw [run_bind]
  rcases hchecks : reanalysis_checks exception_id (requests i).user c.shared.api with
    ⟨found, api⟩ | ⟨e, api⟩
  swap
  · refine ⟨false, ?_, ?_⟩
    · simp only [replay_next, hchecks, answer_of]
    · simp only [replay_next, hchecks, endState]
  obtain ⟨rfl, hget, -⟩ := checks_pass hchecks
  dsimp only
  rw [run_bind, run_get]
  dsimp only
  rw [run_bind]
  rcases hrun : replay_graph exception_id (requests i) found.2 c.shared.api with
    ⟨final_state, api₁⟩ | ⟨e, api₁⟩
  swap
  · refine ⟨false, ?_, ?_⟩
    · simp only [replay_next, hchecks, hrun, answer_of]
    · simp only [replay_next, hchecks, hrun, endState]
  have hget₁ : get_record api₁ exception_id (requests i).user.org = some found.1 := by
    rw [get_record_congr (replayed_records hrun), hget]
  have hentry := rerun_entry_eq cfg (requests i) hget₁
    (prior_nodes exception_id c.shared.api) final_state
  have hmine : found.1.tenant_id = (requests i).user.org := (get_record_some hget).2
  -- The two changes of the record, and what the second one reads.
  obtain ⟨r, api₂, hfields, hget₂⟩ : ∃ r api₂, update_fields exception_id (requests i) final_state
      (store_trace exception_id (trace_data_of (run_trace_id (requests i).env final_state)
        final_state) api₁) = .ok r api₂ ∧
      get_record api₂ exception_id (requests i).user.org = some r :=
    ⟨_, _, run_update_record hget₁, get_record_put hmine⟩
  obtain ⟨r', api₃, happend⟩ : ∃ r' api₃, append_in_place exception_id (requests i)
      (reanalysis_entry (requests i).env (requests i).user (requests i).reason found.1
        (prior_nodes exception_id c.shared.api) final_state) api₂ = .ok r' api₃ :=
    ⟨_, _, run_update_record hget₂⟩
  have hwrite : write_history exception_id (requests i) (reanalysis_entry (requests i).env
      (requests i).user (requests i).reason found.1 (prior_nodes exception_id c.shared.api)
      final_state) r.reanalysis_history api₂ = append_in_place exception_id (requests i)
        (reanalysis_entry (requests i).env (requests i).user (requests i).reason found.1
          (prior_nodes exception_id c.shared.api) final_state) api₂ := by
    unfold write_history append_in_place
    rw [run_update_record hget₂, run_update_record hget₂]
    rfl
  dsimp only
  rw [run_bind, run_modify]
  dsimp only
  rw [run_bind, hfields]
  dsimp only
  rw [run_bind, happend]
  dsimp only
  rcases hstore : cfg.store with _ | _
  · refine ⟨true, ?_, ?_⟩
    · simp only [replay_next, hchecks, hrun, hentry, hfields, hstore, happend]
    · simp only [replay_next, hchecks, hrun, hentry, hfields, hstore, happend]
  · refine ⟨true, ?_, ?_⟩
    · simp only [replay_next, hchecks, hrun, hentry, hfields, hstore, hget₂, hwrite, happend]
    · simp only [replay_next, hchecks, hrun, hentry, hfields, hstore, hget₂, hwrite, happend]

end alone

/-! ## What the replays keep -/

/-- The history of the exception. -/
def history_of (exception_id : String) (api : Api) : List ReanalysisEntry :=
  ((dict.get api.records exception_id).map (·.reanalysis_history)).getD []

/-- The exception is there for the users of the tenant. -/
def Known (exception_id : String) (api : Api) (org : String) : Prop :=
  ∃ record, get_record api exception_id org = some record

section kept

variable {κ : Type} (cfg : Config) (exception_id : String) (requests : κ → ReplayRequest)

/-- The replays were within the cap, and from the history `h₀` on each one
that is behind an ended request has one entry, after those that were there. -/
structure OneEntryEach (h₀ : List ReanalysisEntry) (c : Conf κ ReplayState (ReplayRun κ)) :
    Prop where
  capped : c.shared.begun ≠ [] → h₀.length + c.shared.begun.length ≤ REANALYSIS_MAX_ATTEMPTS
  kept : history_of exception_id c.shared.api = h₀ ++ c.shared.appended.map Prod.snd
  once : (c.shared.appended.map Prod.fst).Nodup
  complete : ∀ i answer, c.locals i = .ended answer true → i ∈ c.shared.appended.map Prod.fst

/-- The checks let the request through. -/
def PassesChecks (user : AuthenticatedUser) (api : Api) : Prop :=
  (answer_of (reanalysis_checks exception_id user api)).isOk = true

instance {user : AuthenticatedUser} {api : Api} : Decidable (PassesChecks exception_id user api) :=
  inferInstanceAs (Decidable (_ = true))

/-- A request passes the cap while the history and the replays that have no
entry in it, which are under way or have failed, leave room; and the history
that is about to be written back is still the one that was read. -/
def Undisturbed (i : κ) (s : ReplayRun κ) : ReplayState → Prop
  | .start => PassesChecks exception_id (requests i).user s.api →
      (history_of exception_id s.api).length + (s.admitted.length - s.appended.length) <
        REANALYSIS_MAX_ATTEMPTS
  | .read _ history => history_of exception_id s.api = history
  | _ => True

instance decidableUndisturbed (i : κ) (s : ReplayRun κ) :
    (l : ReplayState) → Decidable (Undisturbed exception_id requests i s l)
  | .start => inferInstanceAs (Decidable (_ → _))
  | .read _ _ => inferInstanceAs (Decidable (_ = _))
  | .admitted .. | .ready .. | .replayed .. | .traced .. | .updated .. | .appended ..
  | .ended .. => instDecidableTrue

/-- Where a request is, by the lists. -/
def Placed (i : κ) (s : ReplayRun κ) : ReplayState → Prop
  | .start => i ∉ s.admitted ∧ i ∉ s.begun ∧ i ∉ s.appended.map Prod.fst
  | .admitted .. | .ready .. => i ∈ s.admitted ∧ i ∉ s.begun ∧ i ∉ s.appended.map Prod.fst ∧
      Known exception_id s.api (requests i).user.org
  | .replayed .. | .traced .. | .updated .. | .read .. => i ∉ s.appended.map Prod.fst ∧
      Known exception_id s.api (requests i).user.org
  | .appended .. => i ∈ s.appended.map Prod.fst
  | .ended _ completed => completed = true → i ∈ s.appended.map Prod.fst

/-- The invariant of the runs. -/
structure Tracked (h₀ : List ReanalysisEntry) (c : Conf κ ReplayState (ReplayRun κ)) : Prop where
  kept : history_of exception_id c.shared.api = h₀ ++ c.shared.appended.map Prod.snd
  room : c.shared.admitted ≠ [] →
    h₀.length + c.shared.admitted.length ≤ REANALYSIS_MAX_ATTEMPTS
  begun_once : c.shared.begun.Nodup
  begun_admitted : ∀ i ∈ c.shared.begun, i ∈ c.shared.admitted
  appended_once : (c.shared.appended.map Prod.fst).Nodup
  placed : ∀ i, Placed exception_id requests i c.shared (c.locals i)

variable {exception_id requests} {h₀ : List ReanalysisEntry} {c : Conf κ ReplayState (ReplayRun κ)}

theorem Tracked.oneEntryEach (h : Tracked exception_id requests h₀ c) :
    OneEntryEach exception_id h₀ c where
  capped hbegun := by
    have hle : c.shared.begun.length ≤ c.shared.admitted.length :=
      (h.begun_once.subperm h.begun_admitted).length_le
    have hadmitted : c.shared.admitted ≠ [] := by
      intro hnil
      obtain ⟨i, hi⟩ := List.exists_mem_of_ne_nil _ hbegun
      have hmem := h.begun_admitted i hi
      rw [hnil] at hmem
      cases hmem
    have hroom := h.room hadmitted
    omega
  kept := h.kept
  once := h.appended_once
  complete i answer hended := by
    have hplaced := h.placed i
    rw [hended] at hplaced
    exact hplaced rfl

/-- What a step of `i` leaves to the others. -/
structure LeavesOthers (exception_id : String) (i : κ) (s s' : ReplayRun κ) : Prop where
  admitted : ∀ j, j ≠ i → (j ∈ s'.admitted ↔ j ∈ s.admitted)
  begun : ∀ j, j ≠ i → (j ∈ s'.begun ↔ j ∈ s.begun)
  appended : ∀ j, j ≠ i → (j ∈ s'.appended.map Prod.fst ↔ j ∈ s.appended.map Prod.fst)
  known : ∀ org, Known exception_id s.api org → Known exception_id s'.api org

theorem LeavesOthers.placed {i j : κ} {s s' : ReplayRun κ}
    (h : LeavesOthers exception_id i s s') (hne : j ≠ i) {l : ReplayState}
    (hplaced : Placed exception_id requests j s l) : Placed exception_id requests j s' l := by
  cases l with
  | start =>
    obtain ⟨ha, hb, hc⟩ := hplaced
    exact ⟨fun h' => ha ((h.admitted j hne).mp h'), fun h' => hb ((h.begun j hne).mp h'),
      fun h' => hc ((h.appended j hne).mp h')⟩
  | admitted record event =>
    obtain ⟨ha, hb, hc, hd⟩ := hplaced
    exact ⟨(h.admitted j hne).mpr ha, fun h' => hb ((h.begun j hne).mp h'),
      fun h' => hc ((h.appended j hne).mp h'), h.known _ hd⟩
  | ready record event nodes =>
    obtain ⟨ha, hb, hc, hd⟩ := hplaced
    exact ⟨(h.admitted j hne).mpr ha, fun h' => hb ((h.begun j hne).mp h'),
      fun h' => hc ((h.appended j hne).mp h'), h.known _ hd⟩
  | replayed record nodes fin =>
    exact ⟨fun h' => hplaced.1 ((h.appended j hne).mp h'), h.known _ hplaced.2⟩
  | traced entry fin =>
    exact ⟨fun h' => hplaced.1 ((h.appended j hne).mp h'), h.known _ hplaced.2⟩
  | updated entry =>
    exact ⟨fun h' => hplaced.1 ((h.appended j hne).mp h'), h.known _ hplaced.2⟩
  | read entry history =>
    exact ⟨fun h' => hplaced.1 ((h.appended j hne).mp h'), h.known _ hplaced.2⟩
  | appended entry updated => exact (h.appended j hne).mpr hplaced
  | ended answer completed =>
    intro hcompleted
    exact (h.appended j hne).mpr (hplaced hcompleted)

variable [DecidableEq κ]

variable {i : κ} {l' : ReplayState}

theorem Tracked.placed_after (h : Tracked exception_id requests h₀ c)
    {s' : ReplayRun κ} (hothers : LeavesOthers exception_id i c.shared s')
    (hown : Placed exception_id requests i s' l') (j : κ) :
    Placed exception_id requests j s' (Function.update c.locals i l' j) := by
  by_cases hj : j = i
  · subst hj
    rw [Function.update_self]
    exact hown
  · rw [Function.update_of_ne hj]
    exact hothers.placed hj (h.placed j)

variable {api' : Api}

theorem Tracked.quiet (h : Tracked exception_id requests h₀ c)
    (hhistory : history_of exception_id api' = history_of exception_id c.shared.api)
    (hknown : ∀ org, Known exception_id c.shared.api org → Known exception_id api' org)
    (hown : Placed exception_id requests i { c.shared with api := api' } l') :
    Tracked exception_id requests h₀
      ⟨Function.update c.locals i l', { c.shared with api := api' }⟩ where
  kept := hhistory.trans h.kept
  room := h.room
  begun_once := h.begun_once
  begun_admitted := h.begun_admitted
  appended_once := h.appended_once
  placed := h.placed_after ⟨fun _ _ => Iff.rfl, fun _ _ => Iff.rfl, fun _ _ => Iff.rfl, hknown⟩ hown

/-- A step that appends the entry of its request. -/
theorem Tracked.append (h : Tracked exception_id requests h₀ c)
    {entry : ReanalysisEntry} (hnew : i ∉ c.shared.appended.map Prod.fst)
    (hhistory : history_of exception_id api' = history_of exception_id c.shared.api ++ [entry])
    (hknown : ∀ org, Known exception_id c.shared.api org → Known exception_id api' org)
    (hown : ∀ s' : ReplayRun κ, i ∈ s'.appended.map Prod.fst →
      Placed exception_id requests i s' l') :
    Tracked exception_id requests h₀ ⟨Function.update c.locals i l',
      { c.shared with api := api', appended := c.shared.appended ++ [(i, entry)] }⟩ where
  kept := by
    rw [hhistory, h.kept]
    simp
  room := h.room
  begun_once := h.begun_once
  begun_admitted := h.begun_admitted
  appended_once := by
    rw [List.map_append]
    refine List.nodup_append.mpr ⟨h.appended_once, List.nodup_singleton i, ?_⟩
    intro a ha b hb hab
    rw [List.map_cons, List.map_nil, List.mem_singleton] at hb
    rw [hab, hb] at ha
    exact hnew ha
  placed := by
    refine h.placed_after ⟨fun _ _ => Iff.rfl, fun _ _ => Iff.rfl, ?_, hknown⟩ (hown _ ?_)
    · intro j hj
      simp [hj]
    · simp

variable {api : Api}

theorem history_congr (h : api'.records = api.records) :
    history_of exception_id api' = history_of exception_id api := by
  unfold history_of
  rw [h]

theorem known_congr (h : api'.records = api.records) (org : String)
    (hknown : Known exception_id api org) : Known exception_id api' org := by
  obtain ⟨record, hget⟩ := hknown
  exact ⟨record, (get_record_congr h _ _).trans hget⟩

/-- A request passes the cap while there is room. -/
theorem Tracked.admit (h : Tracked exception_id requests h₀ c)
    (hstart : Placed exception_id requests i c.shared .start)
    (hfree : (history_of exception_id c.shared.api).length +
      (c.shared.admitted.length - c.shared.appended.length) < REANALYSIS_MAX_ATTEMPTS)
    (hown : ∀ s' : ReplayRun κ, i ∈ s'.admitted → i ∉ s'.begun → i ∉ s'.appended.map Prod.fst →
      (∀ org, Known exception_id c.shared.api org → Known exception_id s'.api org) →
        Placed exception_id requests i s' l') :
    Tracked exception_id requests h₀ ⟨Function.update c.locals i l',
      { c.shared with admitted := c.shared.admitted ++ [i] }⟩ where
  kept := h.kept
  room _ := by
    rw [h.kept] at hfree
    simp only [List.length_append, List.length_map, List.length_singleton] at hfree ⊢
    omega
  begun_once := h.begun_once
  begun_admitted j hj := List.mem_append_left _ (h.begun_admitted j hj)
  appended_once := h.appended_once
  placed := by
    refine h.placed_after ⟨?_, fun _ _ => Iff.rfl, fun _ _ => Iff.rfl, fun _ hknown => hknown⟩
      (hown _ ?_ hstart.2.1 hstart.2.2 fun _ hknown => hknown)
    · intro j hj
      simp [hj]
    · simp

/-- A request that passed the cap replays the graph. -/
theorem Tracked.begin (h : Tracked exception_id requests h₀ c)
    (hadmitted : i ∈ c.shared.admitted) (hfresh : i ∉ c.shared.begun)
    (hrecords : api'.records = c.shared.api.records)
    (hown : Placed exception_id requests i
      { c.shared with api := api', begun := c.shared.begun ++ [i] } l') :
    Tracked exception_id requests h₀ ⟨Function.update c.locals i l',
      { c.shared with api := api', begun := c.shared.begun ++ [i] }⟩ where
  kept := (history_congr hrecords).trans h.kept
  room := h.room
  begun_once := by
    refine List.nodup_append.mpr ⟨h.begun_once, List.nodup_singleton i, ?_⟩
    intro a ha b hb hab
    rw [List.mem_singleton] at hb
    rw [hab, hb] at ha
    exact hfresh ha
  begun_admitted j hj := by
    rcases List.mem_append.mp hj with hj | hj
    · exact h.begun_admitted j hj
    · rw [List.mem_singleton.mp hj]
      exact hadmitted
  appended_once := h.appended_once
  placed := by
    refine h.placed_after ⟨fun _ _ => Iff.rfl, ?_, fun _ _ => Iff.rfl, known_congr hrecords⟩ hown
    intro j hj
    simp [hj]

theorem known_put {record new : ChildCase} {org : String}
    (hget : get_record api exception_id org = some record) (htenant : new.tenant_id = org)
    (other : String) (hknown : Known exception_id api other) :
    Known exception_id (put_record api exception_id new) other := by
  obtain ⟨r, hr⟩ := hknown
  obtain ⟨hget, hmine⟩ := get_record_some hget
  obtain ⟨hget', hmine'⟩ := get_record_some hr
  cases hget.symm.trans hget'
  refine ⟨new, get_record_put ?_⟩
  rw [htenant, ← hmine, hmine']

theorem history_put (api : Api) (record : ChildCase) :
    history_of exception_id (put_record api exception_id record) = record.reanalysis_history := by
  unfold history_of put_record
  rw [dict.get_set_self]
  rfl

theorem history_get {record : ChildCase} {org : String}
    (h : get_record api exception_id org = some record) :
    history_of exception_id api = record.reanalysis_history := by
  unfold history_of
  rw [(get_record_some h).1]
  rfl

omit [DecidableEq κ] in
theorem finish_records (cfg : Config) (exception_id : String) (request : ReplayRequest)
    (entry : ReanalysisEntry) (updated : ChildCase) (api : Api) :
    (endState (finish_reanalysis cfg exception_id request entry updated api)).records =
      api.records := by
  have hwp : wp (finish_reanalysis cfg exception_id request entry updated)
      (fun _ api' => api'.records = api.records)
      (fun _ api' => api'.records = api.records) api := by
    unfold finish_reanalysis
    rw [wp_bind, wp_modify, log_audit_event_eq, wp_bind]
    exact wp_reaggregate (fun _ => rfl) fun _ => rfl
  exact wp_end hwp

/-- One step keeps the invariant, when nothing came in between. -/
theorem Tracked.step (h : Tracked exception_id requests h₀ c) (i : κ)
    (hmeets : Undisturbed exception_id requests i c.shared (c.locals i)) :
    Tracked exception_id requests h₀
      (interleaving.step (replay_next cfg exception_id requests) i c) := by
  have hown := h.placed i
  unfold interleaving.step
  rcases hl : c.locals i with _ | ⟨record, event⟩ | ⟨record, event, nodes⟩ | ⟨record, nodes, fin⟩ |
    ⟨entry, fin⟩ | entry | ⟨entry, history⟩ | ⟨entry, updated⟩ | ⟨answer, completed⟩
  all_goals rw [hl] at hown hmeets
  · -- The checks.
    rcases hchecks : reanalysis_checks exception_id (requests i).user c.shared.api with
      ⟨found, api⟩ | ⟨e, api⟩
    · obtain ⟨rfl, hget, hcap⟩ := checks_pass hchecks
      simp only [replay_next, hchecks]
      exact h.admit hown (hmeets (by unfold PassesChecks; rw [hchecks]; rfl))
        fun s' hmem hb hc hknown => ⟨hmem, hb, hc, hknown _ ⟨found.1, hget⟩⟩
    · cases checks_refuse hchecks
      simp only [replay_next, hchecks]
      refine h.quiet rfl (fun _ hknown => hknown) ?_
      intro hfalse
      cases hfalse
  · simp only [replay_next]
    exact h.quiet rfl (fun _ hknown => hknown) hown
  · -- The replay.
    obtain ⟨hadmitted, hfresh, hnew, hknown⟩ := hown
    rcases hrun : replay_graph exception_id (requests i) event c.shared.api with
      ⟨fin, api⟩ | ⟨e, api⟩
    · simp only [replay_next, hrun]
      have hrecords := replayed_records hrun
      exact h.begin hadmitted hfresh hrecords ⟨hnew, known_congr hrecords _ hknown⟩
    · simp only [replay_next, hrun]
      refine h.begin hadmitted hfresh (failed_records hrun) ?_
      intro hfalse
      cases hfalse
  · simp only [replay_next]
    exact h.quiet rfl (fun _ hknown => hknown) hown
  · obtain ⟨hnew, record, hget⟩ := hown
    have hfields : update_fields exception_id (requests i) fin c.shared.api = _ :=
      run_update_record hget
    simp only [replay_next, hfields]
    refine h.quiet ?_ (known_put hget (get_record_some hget).2)
      ⟨hnew, _, get_record_put (get_record_some hget).2⟩
    rw [history_put, history_get hget]
    rfl
  · obtain ⟨hnew, record, hget⟩ := hown
    rcases hstore : cfg.store with _ | _
    · have happend : append_in_place exception_id (requests i) entry c.shared.api = _ :=
        run_update_record hget
      simp only [replay_next, hstore, happend]
      refine h.append hnew ?_ (known_put hget (get_record_some hget).2) fun _ hmem => hmem
      rw [history_put, history_get hget]
      rfl
    · simp only [replay_next, hstore, hget]
      exact h.quiet rfl (fun _ hknown => hknown) ⟨hnew, record, hget⟩
  · obtain ⟨hnew, record, hget⟩ := hown
    have hwrite : write_history exception_id (requests i) entry history c.shared.api = _ :=
      run_update_record hget
    simp only [replay_next, hwrite]
    refine h.append hnew ?_ (known_put hget (get_record_some hget).2) fun _ hmem => hmem
    have hsame : history_of exception_id c.shared.api = history := hmeets
    rw [history_put, hsame]
    rfl
  · simp only [replay_next]
    have hrecords := finish_records cfg exception_id (requests i) entry updated c.shared.api
    exact h.quiet (history_congr hrecords) (known_congr hrecords) fun _ => hown
  · simp only [replay_next]
    exact h.quiet rfl (fun _ hknown => hknown) hown

/-- A step appends an entry or none. -/
theorem appended_step (cfg : Config) (exception_id : String) (requests : κ → ReplayRequest)
    (i : κ) (c : Conf κ ReplayState (ReplayRun κ)) : c.shared.appended <+:
      (interleaving.step (replay_next cfg exception_id requests) i c).shared.appended := by
  rw [step_shared]
  rcases c.locals i with _ | ⟨record, event⟩ | ⟨record, event, nodes⟩ | ⟨record, nodes, fin⟩ |
    ⟨entry, fin⟩ | entry | ⟨entry, history⟩ | ⟨entry, updated⟩ | ⟨answer, completed⟩
  all_goals unfold replay_next
  · dsimp only
    split <;> exact List.prefix_rfl
  · exact List.prefix_rfl
  · dsimp only
    split <;> exact List.prefix_rfl
  · exact List.prefix_rfl
  · dsimp only
    split <;> exact List.prefix_rfl
  · dsimp only
    split
    · split
      · exact List.prefix_append _ _
      · exact List.prefix_rfl
    · split <;> exact List.prefix_rfl
  · dsimp only
    split
    · exact List.prefix_append _ _
    · exact List.prefix_rfl
  · exact List.prefix_rfl
  · exact List.prefix_rfl

end kept

/-! ## Runs -/

section runs

variable {κ : Type} [DecidableEq κ] (cfg : Config) (exception_id : String)
  (requests : κ → ReplayRequest)

/-- Before any of the requests. -/
def replays_start (api : Api) : Conf κ ReplayState (ReplayRun κ) :=
  ⟨fun _ => .start, ⟨api, [], [], []⟩⟩

/-- The requests after this schedule. -/
abbrev replays (api : Api) (schedule : List κ) : Conf κ ReplayState (ReplayRun κ) :=
  run (interleaving.step (replay_next cfg exception_id requests)) (replays_start api) schedule

omit [DecidableEq κ] in
theorem tracked_start (api : Api) :
    Tracked exception_id requests (history_of exception_id api) (replays_start api) where
  kept := by simp [replays_start]
  room h := absurd rfl h
  begun_once := List.nodup_nil
  begun_admitted i hi := by cases hi
  appended_once := List.nodup_nil
  placed i := ⟨by simp [replays_start], by simp [replays_start], by simp [replays_start]⟩

end runs

/-! ## Requests on one blocked intake -/

def replayRequest : ReplayRequest :=
  ⟨sampleEnv (intakeRun false), sampleUser "manager", "again"⟩

/-- The replay of the blocked intake, alone. -/
theorem a_replay_of_the_intake_is_the_handler :
    ∃ completed, (replays databaseConfig "E1" (fun _ : Bool => replayRequest) blockedIntake
        (List.replicate 8 false)).locals false = .ended (answer_of (reanalyze_exception
          databaseConfig replayRequest.env replayRequest.user "E1" "again" blockedIntake))
            completed ∧
      (replays databaseConfig "E1" (fun _ : Bool => replayRequest) blockedIntake
        (List.replicate 8 false)).shared.api = endState (reanalyze_exception databaseConfig
          replayRequest.env replayRequest.user "E1" "again" blockedIntake) :=
  a_request_alone_is_the_handler databaseConfig "E1" (fun _ => replayRequest) false
    (replays_start blockedIntake) rfl

/-- Two requests on the database that both read the history before either
writes it back. -/
def readTogether : List Bool := List.replicate 6 false ++ List.replicate 8 true ++ [false, false]

/-- Four requests that check the cap before any of them replays. -/
def checkTogether : List (Fin 4) := [0, 1, 2, 3] ++ [0, 1, 2, 3] ++ [0, 1, 2, 3]

end asoe
