-- One step of the harness around the case agent: the tier of the case is
-- raised, the agent runs, its tool calls go to the replay log, and the log
-- may be compacted into the summary on the case. The log is kept in memory
-- or on the database.
import Asoe.CaseUpdates
import Asoe.Compaction

namespace asoe

open py prog

/-! ## The cases -/

inductive CaseTier where
  | T1 | T2 | T3 | T4
  deriving DecidableEq

def CaseTier.value : CaseTier → ℕ
  | T1 => 1
  | T2 => 2
  | T3 => 3
  | T4 => 4

/-- A case with the fields that the harness reads and writes. -/
structure AgentCase extends OrderCase where
  opened_at : String
  tier : CaseTier := .T2
  working_memory_summary : Option String := none
  last_compaction_at : Option String := none
  deriving DecidableEq

/-- The fields that the harness gives to `case_store.update`. -/
structure AgentFields where
  tier : Option CaseTier := none
  working_memory_summary : Option String := none
  last_compaction_at : Option String := none

def AgentFields.apply (fields : AgentFields) (case : AgentCase) : AgentCase :=
  { case with
    tier := fields.tier.getD case.tier
    working_memory_summary := fields.working_memory_summary.or case.working_memory_summary
    last_compaction_at := fields.last_compaction_at.or case.last_compaction_at }

abbrev AgentCases := List (String × AgentCase)

/-- `case_store.update(...)`, which tests the stored row. -/
def update_agent_case (case_id : String) (fields : AgentFields) (cases : AgentCases) :
    Except PyErr AgentCases := do
  match dict.get cases case_id with
  | none => throw ⟨"KeyError", "Unknown case_id: " ++ case_id⟩
  | some existing =>
    validate_update case_id {} {} existing.toOrderCase
    return dict.set cases case_id (fields.apply existing)

/-- T1 goes to T2 and T2 to T3, when the event is not clean. -/
def graduate_tier_if_needed (case : AgentCase) (is_clean_event : Bool) : Option AgentCase :=
  if is_clean_event then none
  else
    match case.tier with
    | .T1 => some { case with tier := .T2 }
    | .T2 => some { case with tier := .T3 }
    | _ => none

/-! ## The replay log -/

/-- A pair of the `tool_trace`. -/
structure ToolStep where
  tool_call : PyDict
  tool_result : PyDict
  deriving DecidableEq

/-- The result of `run_case_agent`, with its trace. -/
structure AgentRun extends AgentRunResult where
  iterations : ℕ
  tool_trace : List ToolStep
  deriving DecidableEq

structure ToolCallReplayEntry where
  event_id : String
  case_id : String
  tenant_id : String
  occurred_at : String
  tool_name : String
  tool_call : PyDict
  tool_result : PyDict
  outcome : AgentOutcome
  deriving DecidableEq

/-- Where the log is: a list in memory, or `case_events`, whose JSON columns
give back the dictionaries that were written. -/
inductive ReplayBackend where
  | memory
  | database (kind : DatabaseKind)
  deriving DecidableEq

structure HarnessState where
  cases : AgentCases := []
  log : List ToolCallReplayEntry := []
  deriving DecidableEq

/-- What an insert into `case_events` violates: the primary key, and on
Postgres the reference to the case. -/
def case_event_error (kind : DatabaseKind) (entry : ToolCallReplayEntry) (s : HarnessState) :
    Option PyErr :=
  if entry.event_id ∈ s.log.map ToolCallReplayEntry.event_id then
    some ⟨"IntegrityError", "UNIQUE constraint failed: case_events.event_id"⟩
  else
    match kind with
    | .sqlite => none
    | .postgres =>
      if (dict.get s.cases entry.case_id).isSome then none
      else some ⟨"IntegrityError", "violates foreign key constraint on case_events.case_id"⟩

/-- `replay_log.record(entry)`. -/
def record_entry (backend : ReplayBackend) (entry : ToolCallReplayEntry) (s : HarnessState) :
    Except PyErr HarnessState :=
  let recorded := { s with log := s.log ++ [entry] }
  match backend with
  | .memory => .ok recorded
  | .database kind =>
    match case_event_error kind entry s with
    | some e => .error e
    | none => .ok recorded

/-- `replay_log.list_for_case(case_id)`: the database log, which needs a
tenant, answers nothing. -/
def list_for_case (backend : ReplayBackend) (case_id : String) (log : List ToolCallReplayEntry) :
    List ToolCallReplayEntry :=
  match backend with
  | .memory => log.filter fun entry => entry.case_id = case_id
  | .database _ => []

/-- The index-th entry of a run. -/
def replay_entry (case : AgentCase) (run : AgentRun) (now : String) (idx : ℕ) (step : ToolStep) :
    ToolCallReplayEntry where
  event_id := case.case_id ++ ":" ++ toString run.iterations ++ ":" ++ toString idx
  case_id := case.case_id
  tenant_id := case.tenant_id
  occurred_at := now
  tool_name := ((event_get step.tool_call "tool_name").or (.str "")).toStr
  tool_call := step.tool_call
  tool_result := step.tool_result
  outcome := run.outcome

/-- The entries of a run, in order. -/
def replay_entries (case : AgentCase) (run : AgentRun) (now : String) : List ToolCallReplayEntry :=
  run.tool_trace.mapIdx (replay_entry case run now)

/-- The loop of `_persist_tool_trace`. An entry that is refused ends it, and
those before it stay. -/
def persist_entries (backend : ReplayBackend) :
    List ToolCallReplayEntry → EStateM PyErr HarnessState Unit
  | [] => pure ()
  | entry :: entries => do
    let s ← get
    match record_entry backend entry s with
    | .error e => throw e
    | .ok s' =>
      set s'
      persist_entries backend entries

/-! ## Compaction -/

/-- What the compaction is given of an entry. -/
def compaction_input (entry : ToolCallReplayEntry) : PyDict :=
  [("event_type", .str entry.tool_name), ("timestamp", .str entry.occurred_at),
    ("outcome", (event_get entry.tool_result "status").or (.str ""))]

def apply_compaction_if_needed (env : CompactionEnv) (case : AgentCase) (events : List PyDict)
    (now : Instant) : EStateM PyErr HarnessState (Option CompactionResult) := do
  let s ← get
  match run_compaction env case.case_id case.opened_at events now none with
  | .error e => throw e
  | .ok none => return none
  | .ok (some result) =>
    let fields : AgentFields :=
      { working_memory_summary := some result.summary_text
        last_compaction_at := some result.triggered_at }
    match update_agent_case case.case_id fields s.cases with
    | .error e => throw e
    | .ok cases =>
      set { s with cases := cases }
      return some result

/-! ## The step -/

/-- What a step is called with, and what it meets: whether the lock is held,
the run of the agent, and its two readings of the clock. -/
structure AgentStep where
  case : AgentCase
  is_clean_event : Bool := false
  locked : Bool := false
  run_case_agent : AgentCase → Except PyErr AgentRun
  now_iso : String
  now : Instant

structure HarnessStepResult where
  agent_result : AgentRun
  case : AgentCase
  replay_entries : List ToolCallReplayEntry := []
  compaction : Option CompactionResult := none
  skipped_reason : Option String := none
  deriving DecidableEq

/-- The tier of the snapshot is raised, and the row of the case is given it. -/
def graduate (case : AgentCase) (is_clean_event : Bool) : EStateM PyErr HarnessState AgentCase :=
  match graduate_tier_if_needed case is_clean_event with
  | none => pure case
  | some graduated => do
    let s ← get
    match update_agent_case case.case_id { tier := some graduated.tier } s.cases with
    | .error e => throw e
    | .ok cases =>
      set { s with cases := cases }
      return graduated

/-- The agent's run under the lock. The second Shadow at the end of the step,
which only observes, is left out. -/
def run_agent_step (backend : ReplayBackend) (env : CompactionEnv) (step : AgentStep) :
    EStateM PyErr HarnessState HarnessStepResult := do
  if step.locked then
    return { agent_result := ⟨⟨.ERROR, some "case_locked: concurrent agent run in progress"⟩, 0, []⟩
             case := step.case
             skipped_reason := some "case_locked" }
  let case ← graduate step.case step.is_clean_event
  let run ← MonadExcept.ofExcept (step.run_case_agent case)
  let entries := replay_entries case run step.now_iso
  persist_entries backend entries
  let s ← get
  let events := (list_for_case backend case.case_id s.log).map compaction_input
  let compaction ← apply_compaction_if_needed env case events step.now
  let s ← get
  return { agent_result := run
           case := (dict.get s.cases case.case_id).getD case
           replay_entries := entries
           compaction := compaction }

/-! ## What a step does -/

/-- The case that the agent runs with, and the rows by then. -/
def started (step : AgentStep) (cases : AgentCases) : Option (AgentCase × AgentCases) :=
  if step.locked then none
  else
    match graduate_tier_if_needed step.case step.is_clean_event with
    | none => some (step.case, cases)
    | some graduated =>
      match update_agent_case step.case.case_id { tier := some graduated.tier } cases with
      | .error _ => none
      | .ok cases => some (graduated, cases)

/-- The entries that the log takes before it refuses one. -/
def admitted (backend : ReplayBackend) (cases : AgentCases) :
    List ToolCallReplayEntry → List ToolCallReplayEntry → List ToolCallReplayEntry
  | _, [] => []
  | log, entry :: entries =>
    match record_entry backend entry ⟨cases, log⟩ with
    | .error _ => []
    | .ok s => entry :: admitted backend cases s.log entries

/-- The compaction that is due, with the rows after it. -/
def due (env : CompactionEnv) (case : AgentCase) (events : List PyDict) (now : Instant)
    (cases : AgentCases) : Option (AgentCases × CompactionResult) :=
  match run_compaction env case.case_id case.opened_at events now none with
  | .ok (some result) =>
    match update_agent_case case.case_id
        { working_memory_summary := some result.summary_text
          last_compaction_at := some result.triggered_at } cases with
    | .ok cases => some (cases, result)
    | .error _ => none
  | _ => none

/-- How a step ends: it did not start, or its agent raised, or the log refused
an entry, or all entries are in the log, and the case is compacted or not. -/
inductive StepEnd (backend : ReplayBackend) (env : CompactionEnv) (step : AgentStep)
    (s : HarnessState) : HarnessState → Option CompactionResult → Prop
  | unstarted (hstart : started step s.cases = none) : StepEnd backend env step s s none
  | stopped {case : AgentCase} {cases : AgentCases} {e : PyErr}
      (hstart : started step s.cases = some (case, cases))
      (hrun : step.run_case_agent case = .error e) :
      StepEnd backend env step s { s with cases := cases } none
  | refused {case : AgentCase} {cases : AgentCases} {run : AgentRun}
      (hstart : started step s.cases = some (case, cases))
      (hrun : step.run_case_agent case = .ok run)
      (hcut : admitted backend cases s.log (replay_entries case run step.now_iso) ≠
        replay_entries case run step.now_iso) :
      StepEnd backend env step s
        ⟨cases, s.log ++ admitted backend cases s.log (replay_entries case run step.now_iso)⟩ none
  | logged {case : AgentCase} {cases : AgentCases} {run : AgentRun}
      (hstart : started step s.cases = some (case, cases))
      (hrun : step.run_case_agent case = .ok run)
      (hall : admitted backend cases s.log (replay_entries case run step.now_iso) =
        replay_entries case run step.now_iso)
      (hdue : due env case ((list_for_case backend case.case_id
        (s.log ++ replay_entries case run step.now_iso)).map compaction_input) step.now cases =
          none) :
      StepEnd backend env step s ⟨cases, s.log ++ replay_entries case run step.now_iso⟩ none
  | compacted {case : AgentCase} {cases cases' : AgentCases} {run : AgentRun}
      {result : CompactionResult} (hstart : started step s.cases = some (case, cases))
      (hrun : step.run_case_agent case = .ok run)
      (hall : admitted backend cases s.log (replay_entries case run step.now_iso) =
        replay_entries case run step.now_iso)
      (hdue : due env case ((list_for_case backend case.case_id
        (s.log ++ replay_entries case run step.now_iso)).map compaction_input) step.now cases =
          some (cases', result)) :
      StepEnd backend env step s ⟨cases', s.log ++ replay_entries case run step.now_iso⟩
        (some result)

/-- The case has a row, and the row takes an update. -/
def Writable (case_id : String) (cases : AgentCases) : Prop :=
  ∃ row, dict.get cases case_id = some row ∧
    validate_update case_id {} {} row.toOrderCase = .ok ()

theorem update_accepted_iff {case_id : String} (fields : AgentFields) {cases : AgentCases} :
    (∃ cases', update_agent_case case_id fields cases = .ok cases') ↔ Writable case_id cases := by
  unfold Writable update_agent_case
  rcases hget : dict.get cases case_id with _ | row
  · simp [throw, throwThe, MonadExceptOf.throw]
  · rcases hvalid : validate_update case_id {} {} row.toOrderCase with e | u
    · simp [hvalid, bind, Except.bind]
    · simp [hvalid, bind, Except.bind, pure, Except.pure]

theorem update_refused {case_id : String} (fields : AgentFields) {cases : AgentCases}
    (h : ¬ Writable case_id cases) : ∃ e, update_agent_case case_id fields cases = .error e := by
  rcases hupdate : update_agent_case case_id fields cases with e | cases'
  · exact ⟨e, rfl⟩
  · exact absurd ((update_accepted_iff fields).mp ⟨cases', hupdate⟩) h

theorem update_agent_case_ok {case_id : String} {fields : AgentFields} {cases cases' : AgentCases}
    (h : update_agent_case case_id fields cases = .ok cases') :
    ∃ existing, dict.get cases case_id = some existing ∧
      cases' = dict.set cases case_id (fields.apply existing) := by
  unfold update_agent_case at h
  split at h
  · cases h
  · rename_i existing hget
    rcases hvalid : validate_update case_id {} {} existing.toOrderCase with e | u
    · rw [error_bind hvalid] at h
      cases h
    · rw [ok_bind hvalid] at h
      cases h
      exact ⟨existing, hget, rfl⟩

section steps

variable {backend : ReplayBackend} {env : CompactionEnv} {step : AgentStep} {s : HarnessState}

theorem graduate_ends (hlock : step.locked = false) :
    wp (graduate step.case step.is_clean_event)
      (fun case s' => started step s.cases = some (case, s'.cases) ∧ s'.log = s.log)
      (fun _ s' => started step s.cases = none ∧ s' = s) s := by
  unfold graduate started
  rw [hlock]
  simp only [Bool.false_eq_true, if_false]
  split
  · exact ⟨rfl, rfl⟩
  · rename_i graduated _
    rw [wp_bind, wp_get]
    split
    · exact ⟨rfl, rfl⟩
    · exact ⟨rfl, rfl⟩

theorem persist_entries_ends (entries : List ToolCallReplayEntry) (s : HarnessState) :
    wp (persist_entries backend entries)
      (fun _ s' => admitted backend s.cases s.log entries = entries ∧
        s' = ⟨s.cases, s.log ++ entries⟩)
      (fun _ s' => admitted backend s.cases s.log entries ≠ entries ∧
        s' = ⟨s.cases, s.log ++ admitted backend s.cases s.log entries⟩) s := by
  induction entries generalizing s with
  | nil => exact ⟨rfl, by rw [List.append_nil]⟩
  | cons entry entries ih =>
    unfold persist_entries admitted
    rw [wp_bind, wp_get]
    split
    · rename_i e herror
      rw [herror]
      exact ⟨by simp, by simp⟩
    · rename_i s' hok
      have hs' : s' = ⟨s.cases, s.log ++ [entry]⟩ := by
        unfold record_entry at hok
        dsimp only at hok
        split at hok
        · cases hok
          rfl
        · split at hok
          · cases hok
          · cases hok
            rfl
      rw [hok, wp_bind, wp_set, hs']
      dsimp only
      refine wp_mono (ih ⟨s.cases, s.log ++ [entry]⟩) ?_ ?_
      · rintro _ s'' ⟨hall, rfl⟩
        exact ⟨by rw [hall], by simp⟩
      · rintro _ s'' ⟨hcut, rfl⟩
        refine ⟨fun h => hcut (List.cons.inj h).2, by simp⟩

theorem compaction_ends {case : AgentCase} {events : List PyDict} {now : Instant} :
    wp (apply_compaction_if_needed env case events now)
      (fun compaction s' =>
        (due env case events now s.cases = none ∧ compaction = none ∧ s' = s) ∨
        ∃ cases result, due env case events now s.cases = some (cases, result) ∧
          compaction = some result ∧ s' = { s with cases := cases })
      (fun _ s' => due env case events now s.cases = none ∧ s' = s) s := by
  unfold apply_compaction_if_needed due
  rw [wp_bind, wp_get]
  split
  · rename_i e herror
    exact ⟨by rw [herror], rfl⟩
  · rename_i hnone
    exact Or.inl ⟨by rw [hnone], rfl, rfl⟩
  · rename_i result hresult
    rw [hresult]
    dsimp only
    split
    · rename_i e herror
      exact ⟨by rw [herror], rfl⟩
    · rename_i cases hok
      exact Or.inr ⟨cases, result, by rw [hok], rfl, rfl⟩

/-- A step ends in one of these ways. -/
theorem run_agent_step_ends :
    wp (run_agent_step backend env step)
      (fun r s' => StepEnd backend env step s s' r.compaction)
      (fun _ s' => StepEnd backend env step s s' none) s := by
  unfold run_agent_step
  rw [wp_ite]
  constructor
  · intro hlock
    exact .unstarted (by rw [started, if_pos hlock])
  · intro hlock
    rw [wp_bind]
    refine wp_mono (graduate_ends (Bool.not_eq_true _ ▸ hlock)) ?_ ?_
    · rintro case s₁ ⟨hstart, hlog⟩
      rw [wp_bind, wp_ofExcept]
      refine ⟨fun run hrun => ?_, fun e hrun => ?_⟩
      · dsimp only
        rw [wp_bind]
        refine wp_mono (persist_entries_ends _ s₁) ?_ ?_
        · rintro _ s₂ ⟨hall, rfl⟩
          rw [hlog] at hall ⊢
          rw [wp_bind, wp_get, wp_bind]
          refine wp_mono compaction_ends ?_ ?_
          · rintro compaction s₃ (⟨hdue, rfl, rfl⟩ | ⟨cases, result, hdue, rfl, rfl⟩)
            · exact .logged hstart hrun hall hdue
            · exact .compacted hstart hrun hall hdue
          · rintro _ s₃ ⟨hdue, rfl⟩
            exact .logged hstart hrun hall hdue
        · rintro _ s₂ ⟨hcut, rfl⟩
          rw [hlog] at hcut ⊢
          exact .refused hstart hrun hcut
      · have hs₁ : s₁ = { s with cases := s₁.cases } := by
          rw [← hlog]
        rw [hs₁]
        exact .stopped hstart hrun
    · rintro _ s₁ ⟨hstart, rfl⟩
      exact .unstarted hstart

/-- The state after a step. -/
def harness_step (backend : ReplayBackend) (env : CompactionEnv) (step : AgentStep)
    (s : HarnessState) : HarnessState :=
  endState (run_agent_step backend env step s)

/-- The compaction that a step reports. -/
def step_compaction (backend : ReplayBackend) (env : CompactionEnv) (step : AgentStep)
    (s : HarnessState) : Option CompactionResult :=
  match run_agent_step backend env step s with
  | .ok r _ => r.compaction
  | .error _ _ => none

theorem step_end : StepEnd backend env step s (harness_step backend env step s)
    (step_compaction backend env step s) := by
  have h : wp (run_agent_step backend env step)
      (fun r s' => StepEnd backend env step s s' r.compaction)
      (fun _ s' => StepEnd backend env step s s' none) s := run_agent_step_ends
  unfold harness_step step_compaction
  rcases hrun : run_agent_step backend env step s with ⟨r, s'⟩ | ⟨e, s'⟩
  · have hend := wp_ok h hrun
    exact hend
  · have hend := wp_error h hrun
    exact hend

end steps

end asoe
