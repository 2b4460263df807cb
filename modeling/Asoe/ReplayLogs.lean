-- The replay logs of a run of harness steps. The same steps write to the
-- log in memory and to the one on the database; the runs that they record,
-- and what the two logs then list for a case.
import Asoe.Harness
import Asoe.Lib.Paging
import Asoe.Lib.Runs
import Mathlib.Data.List.Pairwise
import Mathlib.Data.String.Basic

namespace asoe

open py prog runs paging

/-! ## What is recorded -/

/-- A run of the agent that a step records. -/
structure Recording where
  case : AgentCase
  run : AgentRun
  now : String

def Recording.entries (r : Recording) : List ToolCallReplayEntry :=
  replay_entries r.case r.run r.now

/-- The run of a step, if the step comes as far and the agent returns. -/
def recording (cases : AgentCases) (step : AgentStep) : Option Recording :=
  match (started step cases).map Prod.fst with
  | none => none
  | some case =>
    match step.run_case_agent case with
    | .error _ => none
    | .ok run => some ⟨case, run, step.now_iso⟩

def recordings (cases : AgentCases) (steps : List AgentStep) : List Recording :=
  steps.filterMap (recording cases)

/-- The call and the result of an entry. -/
def ToolCallReplayEntry.step (entry : ToolCallReplayEntry) : ToolStep :=
  ⟨entry.tool_call, entry.tool_result⟩

/-- `ORDER BY occurred_at ASC`. -/
def occurred (entry : ToolCallReplayEntry) : Stringᵒᵈ := OrderDual.toDual entry.occurred_at

/-- `list_for_case_with_tenant(case_id, tenant_id)` on the database. Entries
of one time come in any order. -/
def list_for_case_with_tenant (order : ByKey occurred) (case_id tenant_id : String)
    (log : List ToolCallReplayEntry) : List ToolCallReplayEntry :=
  order.sort (log.filter fun entry => entry.case_id = case_id ∧ entry.tenant_id = tenant_id)

/-! ## The rows of the cases -/

/-- The same cases, with the same fields apart from those of the agent. -/
def SameCases (cases cases' : AgentCases) : Prop :=
  ∀ case_id, (dict.get cases' case_id).map AgentCase.toOrderCase =
    (dict.get cases case_id).map AgentCase.toOrderCase

theorem SameCases.refl (cases : AgentCases) : SameCases cases cases := fun _ => rfl

variable {cases : AgentCases}

theorem SameCases.trans {cases' cases'' : AgentCases} (h : SameCases cases cases')
    (h' : SameCases cases' cases'') : SameCases cases cases'' :=
  fun case_id => (h' case_id).trans (h case_id)

theorem sameCases_update {case_id : String} {fields : AgentFields} {cases' : AgentCases}
    (h : update_agent_case case_id fields cases = .ok cases') : SameCases cases cases' := by
  obtain ⟨existing, hget, rfl⟩ := update_agent_case_ok h
  intro id
  by_cases hid : id = case_id
  · subst hid
    rw [dict.get_set_self, hget]
    rfl
  · rw [dict.get_set_of_ne _ _ hid]

theorem writable_congr {cases' : AgentCases} (h : SameCases cases cases')
    (case_id : String) : Writable case_id cases' ↔ Writable case_id cases := by
  have hrow : ∀ rows : AgentCases, Writable case_id rows ↔
      ∃ row, (dict.get rows case_id).map AgentCase.toOrderCase = some row ∧
        validate_update case_id {} {} row = .ok () := by
    intro rows
    unfold Writable
    rcases dict.get rows case_id with _ | row
    · simp
    · simp
  rw [hrow, hrow, h case_id]

section steps

variable {backend : ReplayBackend} {env : CompactionEnv} {step : AgentStep} {s : HarnessState}

variable {cases cases' : AgentCases}

theorem sameCases_started {case : AgentCase}
    (h : started step cases = some (case, cases')) : SameCases cases cases' := by
  unfold started at h
  split at h
  · cases h
  · split at h
    · cases h
      exact .refl cases
    · split at h
      · cases h
      · rename_i hok
        cases h
        exact sameCases_update hok

theorem sameCases_due {case : AgentCase} {events : List PyDict} {now : Instant}
    {result : CompactionResult}
    (h : due env case events now cases = some (cases', result)) : SameCases cases cases' := by
  unfold due at h
  split at h
  · split at h
    · rename_i hok
      cases h
      exact sameCases_update hok
    · cases h
  · cases h

theorem sameCases_step : SameCases s.cases (harness_step backend env step s).cases := by
  have h : StepEnd backend env step s _ _ := step_end
  generalize harness_step backend env step s = s' at h
  generalize step_compaction backend env step s = compaction at h
  cases h with
  | unstarted => exact .refl s.cases
  | stopped hstart => exact sameCases_started hstart
  | refused hstart => exact sameCases_started hstart
  | logged hstart => exact sameCases_started hstart
  | compacted hstart _ _ hdue => exact (sameCases_started hstart).trans (sameCases_due hdue)

theorem started_congr (h : SameCases cases cases') :
    (started step cases').map Prod.fst = (started step cases).map Prod.fst := by
  unfold started
  split
  · rfl
  · split
    · rfl
    · rename_i graduated _
      by_cases hwritable : Writable step.case.case_id cases
      · obtain ⟨rows, hrows⟩ := (update_accepted_iff _).mpr hwritable
        obtain ⟨rows', hrows'⟩ :=
          (update_accepted_iff _).mpr ((writable_congr h step.case.case_id).mpr hwritable)
        rw [hrows, hrows']
        rfl
      · obtain ⟨e, he⟩ := update_refused _ hwritable
        obtain ⟨e', he'⟩ := update_refused _ (mt (writable_congr h step.case.case_id).mp hwritable)
        rw [he, he']

theorem recording_congr (h : SameCases cases cases') : recording cases' = recording cases := by
  funext step
  unfold recording
  rw [started_congr h]

/-! ## What a step adds to the log -/

theorem stored_congr (h : SameCases cases cases') (case_id : String) :
    (dict.get cases' case_id).isSome = (dict.get cases case_id).isSome := by
  have hcase := congrArg Option.isSome (h case_id)
  rwa [Option.isSome_map, Option.isSome_map] at hcase

/-- The id of the entry is new, and on Postgres its case is there. -/
def Fits (kind : DatabaseKind) (entry : ToolCallReplayEntry) (s : HarnessState) : Prop :=
  entry.event_id ∉ s.log.map ToolCallReplayEntry.event_id ∧
    (kind = .postgres → (dict.get s.cases entry.case_id).isSome)

variable {kind : DatabaseKind} {entry : ToolCallReplayEntry}

theorem case_event_error_eq_none
    {s : HarnessState} : case_event_error kind entry s = none ↔ Fits kind entry s := by
  unfold case_event_error Fits
  by_cases hid : entry.event_id ∈ s.log.map ToolCallReplayEntry.event_id
  · simp only [hid, if_true, not_true_eq_false, false_and, reduceCtorEq]
  · cases kind with
    | sqlite => simp only [hid, if_false, not_false_eq_true, reduceCtorEq, false_imp_iff, and_self]
    | postgres =>
      rcases (dict.get s.cases entry.case_id).isSome with _ | _
      · simp [hid]
      · simp [hid]

variable {log entries : List ToolCallReplayEntry}

theorem admitted_database (h : Fits kind entry ⟨cases, log⟩) :
    admitted (.database kind) cases log (entry :: entries) =
      entry :: admitted (.database kind) cases (log ++ [entry]) entries := by
  rw [admitted, record_entry]
  dsimp only
  rw [case_event_error_eq_none.mpr h]

theorem admitted_cut (h : ¬ Fits kind entry ⟨cases, log⟩) :
    admitted (.database kind) cases log (entry :: entries) = [] := by
  rw [← case_event_error_eq_none] at h
  obtain ⟨e, he⟩ := Option.ne_none_iff_exists'.mp h
  rw [admitted, record_entry]
  dsimp only
  rw [he]

theorem admitted_memory (cases : AgentCases) (log entries : List ToolCallReplayEntry) :
    admitted .memory cases log entries = entries := by
  induction entries generalizing log with
  | nil => rfl
  | cons entry entries ih =>
    rw [admitted, record_entry]
    dsimp only
    rw [ih]

/-- The database takes all entries of a run exactly when each of them fits. -/
theorem admitted_eq_iff {kind : DatabaseKind} {cases : AgentCases}
    {log entries : List ToolCallReplayEntry}
    (hids : (entries.map ToolCallReplayEntry.event_id).Nodup) :
    admitted (.database kind) cases log entries = entries ↔
      ∀ entry ∈ entries, Fits kind entry ⟨cases, log⟩ := by
  induction entries generalizing log with
  | nil => simp [admitted]
  | cons entry entries ih =>
    rw [List.map_cons, List.nodup_cons] at hids
    by_cases hentry : Fits kind entry ⟨cases, log⟩
    · have hsame : ∀ e ∈ entries,
          Fits kind e ⟨cases, log ++ [entry]⟩ ↔ Fits kind e ⟨cases, log⟩ := by
        intro e he
        have hne : e.event_id ≠ entry.event_id := fun h => hids.1 (h ▸ List.mem_map_of_mem he)
        simp [Fits, hne]
      rw [admitted_database hentry, List.cons_inj_right, ih hids.2, List.forall_mem_cons]
      exact ⟨fun h => ⟨hentry, fun e he => (hsame e he).mp (h e he)⟩,
        fun h e he => (hsame e he).mpr (h.2 e he)⟩
    · rw [admitted_cut hentry]
      exact ⟨fun h => absurd h.symm (List.cons_ne_nil _ _),
        fun h => absurd (h entry List.mem_cons_self) hentry⟩

theorem admitted_all

    (hids : ((log ++ entries).map ToolCallReplayEntry.event_id).Nodup)
    (hstored : kind = .postgres → ∀ entry ∈ entries, (dict.get cases entry.case_id).isSome) :
    admitted (.database kind) cases log entries = entries := by
  rw [List.map_append, List.nodup_append] at hids
  refine (admitted_eq_iff hids.2.1).mpr fun entry hentry => ⟨fun hold => ?_, fun hkind =>
    hstored hkind entry hentry⟩
  exact hids.2.2 _ hold _ (List.mem_map_of_mem hentry) rfl

theorem stored_of_admitted {cases : AgentCases} {log entries : List ToolCallReplayEntry}
    {e : ToolCallReplayEntry} (he : e ∈ admitted (.database .postgres) cases log entries) :
    (dict.get cases e.case_id).isSome := by
  induction entries generalizing log with
  | nil => cases he
  | cons entry entries ih =>
    by_cases hentry : Fits .postgres entry ⟨cases, log⟩
    · rw [admitted_database hentry] at he
      rcases List.mem_cons.mp he with rfl | he
      · exact hentry.2 rfl
      · exact ih he
    · rw [admitted_cut hentry] at he
      cases he

theorem admitted_congr {cases cases' : AgentCases} (h : SameCases cases cases')
    (log entries : List ToolCallReplayEntry) :
    admitted backend cases' log entries = admitted backend cases log entries := by
  cases backend with
  | memory => rw [admitted_memory, admitted_memory]
  | database kind =>
    induction entries generalizing log with
    | nil => rfl
    | cons entry entries ih =>
      have hsame : Fits kind entry ⟨cases', log⟩ ↔ Fits kind entry ⟨cases, log⟩ := by
        unfold Fits
        rw [stored_congr h]
      by_cases hentry : Fits kind entry ⟨cases, log⟩
      · rw [admitted_database hentry, admitted_database (hsame.mpr hentry), ih]
      · rw [admitted_cut hentry, admitted_cut (mt hsame.mp hentry)]

theorem recording_of_run {case : AgentCase} {run : AgentRun}
    (hstart : started step cases = some (case, cases'))
    (hrun : step.run_case_agent case = .ok run) :
    recording cases step = some ⟨case, run, step.now_iso⟩ := by
  unfold recording
  rw [hstart]
  dsimp only [Option.map_some]
  rw [hrun]

/-- A step adds the entries of the run that it records, as far as the log takes
them. -/
theorem log_step : (harness_step backend env step s).log = s.log ++
    admitted backend s.cases s.log (((recording s.cases step).map Recording.entries).getD []) := by
  have h : StepEnd backend env step s _ _ := step_end
  generalize harness_step backend env step s = s' at h ⊢
  generalize step_compaction backend env step s = compaction at h
  cases h with
  | unstarted hstart =>
    unfold recording
    rw [hstart]
    exact (List.append_nil _).symm
  | stopped hstart hrun =>
    unfold recording
    rw [hstart]
    dsimp only [Option.map_some]
    rw [hrun]
    exact (List.append_nil _).symm
  | refused hstart hrun =>
    rw [recording_of_run hstart hrun, admitted_congr (sameCases_started hstart)]
    rfl
  | logged hstart hrun hall =>
    rw [recording_of_run hstart hrun]
    rw [admitted_congr (sameCases_started hstart)] at hall
    exact congrArg _ hall.symm
  | compacted hstart hrun hall =>
    rw [recording_of_run hstart hrun]
    rw [admitted_congr (sameCases_started hstart)] at hall
    exact congrArg _ hall.symm

end steps

/-! ## What the runs add to the logs -/

section logs

variable {env : CompactionEnv} {kind : DatabaseKind} {s : HarnessState}

theorem recordings_cons (cases : AgentCases) (step : AgentStep) (steps : List AgentStep) :
    (recordings cases (step :: steps)).flatMap Recording.entries =
      ((recording cases step).map Recording.entries).getD [] ++
        (recordings cases steps).flatMap Recording.entries := by
  unfold recordings
  rcases h : recording cases step with _ | r
  · rw [List.filterMap_cons_none h]
    rfl
  · rw [List.filterMap_cons_some h]
    rfl

theorem memory_log (steps : List AgentStep) :
    (run (harness_step .memory env) s steps).log =
      s.log ++ (recordings s.cases steps).flatMap Recording.entries := by
  induction steps generalizing s with
  | nil => exact (List.append_nil _).symm
  | cons step steps ih =>
    rw [run_cons, ih, log_step, admitted_memory, recordings_cons, List.append_assoc]
    unfold recordings
    rw [recording_congr sameCases_step]

/-- So is the one on the database, when the ids differ and the cases are
there. -/
theorem database_log (steps : List AgentStep)
    (hids : ((s.log ++ (recordings s.cases steps).flatMap Recording.entries).map
      ToolCallReplayEntry.event_id).Nodup)
    (hstored : kind = .postgres → ∀ entry ∈ (recordings s.cases steps).flatMap Recording.entries,
      (dict.get s.cases entry.case_id).isSome) :
    (run (harness_step (.database kind) env) s steps).log =
      s.log ++ (recordings s.cases steps).flatMap Recording.entries := by
  induction steps generalizing s with
  | nil => exact (List.append_nil _).symm
  | cons step steps ih =>
    rw [recordings_cons] at hids hstored
    have hsame : SameCases s.cases (harness_step (.database kind) env step s).cases :=
      sameCases_step
    have hlater : recordings (harness_step (.database kind) env step s).cases steps =
        recordings s.cases steps := by
      unfold recordings
      rw [recording_congr hsame]
    have hlog : (harness_step (.database kind) env step s).log =
        s.log ++ ((recording s.cases step).map Recording.entries).getD [] := by
      rw [log_step, admitted_all]
      · rw [← List.append_assoc, List.map_append] at hids
        exact (List.nodup_append.mp hids).1
      · exact fun hkind entry hentry => hstored hkind entry (List.mem_append_left _ hentry)
    rw [run_cons, ih, hlog, hlater, recordings_cons, List.append_assoc]
    · rw [hlog, hlater, List.append_assoc]
      exact hids
    · intro hkind entry hentry
      rw [hlater] at hentry
      rw [stored_congr hsame]
      exact hstored hkind entry (List.mem_append_right _ hentry)

theorem stored_of_postgres_log (steps : List AgentStep)
    (hlog : ∀ entry ∈ s.log, (dict.get s.cases entry.case_id).isSome) :
    ∀ entry ∈ (run (harness_step (.database .postgres) env) s steps).log,
      (dict.get s.cases entry.case_id).isSome := by
  induction steps generalizing s with
  | nil => exact hlog
  | cons step steps ih =>
    have hsame : SameCases s.cases (harness_step (.database .postgres) env step s).cases :=
      sameCases_step
    intro entry hentry
    rw [← stored_congr hsame]
    refine ih (fun e he => ?_) entry hentry
    rw [stored_congr hsame]
    rw [log_step] at he
    rcases List.mem_append.mp he with he | he
    · exact hlog e he
    · exact stored_of_admitted he

end logs

/-! ## The ids of the entries -/

section ids

variable {r r' : Recording}

theorem Recording.event_ids (r : Recording) :
    r.entries.map ToolCallReplayEntry.event_id =
      (List.range r.run.tool_trace.length).map fun idx =>
        r.case.case_id ++ ":" ++ toString r.run.iterations ++ ":" ++ toString idx := by
  unfold Recording.entries replay_entries
  apply List.ext_getElem
  · simp
  · intro idx h h'
    simp [replay_entry]

theorem Recording.event_ids_nodup (r : Recording) :
    (r.entries.map ToolCallReplayEntry.event_id).Nodup := by
  rw [r.event_ids]
  exact List.nodup_range.map fun idx idx' h => (labelled_inj.mp h).2

/-- Two runs share an id when they are of one case and have the same count of
iterations. -/
theorem Recording.disjoint_ids_iff :
    (r.entries.map ToolCallReplayEntry.event_id).Disjoint
        (r'.entries.map ToolCallReplayEntry.event_id) ↔
      (r.case.case_id = r'.case.case_id → r.run.tool_trace ≠ [] → r'.run.tool_trace ≠ [] →
        r.run.iterations ≠ r'.run.iterations) := by
  rw [r.event_ids, r'.event_ids]
  constructor
  · intro hdisjoint hcase htrace htrace' hiterations
    refine hdisjoint (List.mem_map.mpr ⟨0, ?_, rfl⟩) (List.mem_map.mpr ⟨0, ?_, ?_⟩)
    · exact List.mem_range.mpr (List.length_pos_of_ne_nil htrace)
    · exact List.mem_range.mpr (List.length_pos_of_ne_nil htrace')
    · rw [hcase, hiterations]
  · intro hdiffer id hid hid'
    obtain ⟨idx, hidx, rfl⟩ := List.mem_map.mp hid
    obtain ⟨idx', hidx', hsame⟩ := List.mem_map.mp hid'
    obtain ⟨hrun, -⟩ := labelled_inj.mp hsame
    obtain ⟨hcase, hiterations⟩ := labelled_inj.mp hrun
    refine hdiffer hcase.symm ?_ ?_ hiterations.symm
    · exact List.ne_nil_of_length_pos (Nat.zero_lt_of_lt (List.mem_range.mp hidx))
    · exact List.ne_nil_of_length_pos (Nat.zero_lt_of_lt (List.mem_range.mp hidx'))

end ids

/-! ## The order of the entries -/

/-- The second of two entries of one case has its tenant and a later time. -/
def Later (a b : ToolCallReplayEntry) : Prop :=
  a.case_id = b.case_id → a.tenant_id = b.tenant_id ∧ a.occurred_at < b.occurred_at

theorem filter_tenant {log : List ToolCallReplayEntry} {case_id tenant_id : String}
    (h : ∀ e ∈ log, e.case_id = case_id → e.tenant_id = tenant_id) :
    log.filter (fun e => e.case_id = case_id ∧ e.tenant_id = tenant_id) =
      log.filter fun e => e.case_id = case_id :=
  List.filter_congr fun e he => decide_eq_decide.mpr ⟨And.left, fun hcase => ⟨hcase, h e he hcase⟩⟩

/-- A log lists the same by tenant and time as by case alone, in every order
by time, exactly when its entries of one case are of one tenant and each is
later than those before. -/
theorem listings_agree_iff {log : List ToolCallReplayEntry} (hlog : log.Nodup) :
    (∀ (order : ByKey occurred) (case_id tenant_id : String),
      (∃ entry ∈ log, entry.case_id = case_id ∧ entry.tenant_id = tenant_id) →
      list_for_case_with_tenant order case_id tenant_id log =
        list_for_case .memory case_id log) ↔ log.Pairwise Later := by
  constructor
  · intro hall
    rw [List.pairwise_iff_forall_sublist]
    intro a b hab hcase
    have hread (order : ByKey occurred) :=
      hall order a.case_id a.tenant_id ⟨a, hab.subset List.mem_cons_self, rfl, rfl⟩
    have hmem : ∀ e ∈ log, e.case_id = a.case_id → e.tenant_id = a.tenant_id := by
      intro e he hsame
      have hlisted : e ∈ list_for_case .memory a.case_id log :=
        List.mem_filter.mpr ⟨he, decide_eq_true hsame⟩
      rw [← hread (tiesReversed occurred)] at hlisted
      have hrow := ((tiesReversed occurred).perm _).mem_iff.mp hlisted
      exact (of_decide_eq_true (List.mem_filter.mp hrow).2).2
    have hstrict := (sort_eq_self_iff (hlog.filter _)).mp fun order => by
      have h := hread order
      unfold list_for_case_with_tenant at h
      rw [filter_tenant hmem] at h
      exact h
    have hb : b.case_id = a.case_id := hcase.symm
    have hsub : [a, b].Sublist (log.filter fun e => e.case_id = a.case_id) := by
      have h := hab.filter fun e => decide (e.case_id = a.case_id)
      simpa [hb] using h
    refine ⟨(hmem b (hab.subset (by simp)) hb).symm, ?_⟩
    exact List.pairwise_iff_forall_sublist.mp hstrict hsub
  · intro hlater order case_id tenant_id hread
    obtain ⟨a, ha, rfl, rfl⟩ := hread
    have hsymm : Std.Symm fun a b : ToolCallReplayEntry =>
        a.case_id = b.case_id → a.tenant_id = b.tenant_id :=
      ⟨fun a b h hcase => (h hcase.symm).symm⟩
    have htenant := (hlater.imp fun h hcase => (h hcase).1).forall_of_forall fun _ _ _ => rfl
    unfold list_for_case_with_tenant
    rw [filter_tenant fun e he hcase => htenant he ha hcase]
    refine (sort_eq_self_iff (hlog.filter _)).mpr ?_ order
    rw [List.pairwise_filter]
    refine hlater.imp fun h hx hy => ?_
    exact (h ((of_decide_eq_true hx).trans (of_decide_eq_true hy).symm)).2

/-! ## The two logs -/

/-- The log lists the tool calls of the runs of a case in order, no two
entries have one id, and the database lists the same for a case. -/
structure LogsReplay (runs : List Recording) (memory database : List ToolCallReplayEntry) :
    Prop where
  traces : ∀ case_id, (list_for_case .memory case_id memory).map ToolCallReplayEntry.step =
    (runs.filter fun r => r.case.case_id = case_id).flatMap fun r => r.run.tool_trace
  distinct : (memory.map ToolCallReplayEntry.event_id).Nodup
  same : ∀ (order : ByKey occurred) (case_id tenant_id : String),
    (∃ entry ∈ memory, entry.case_id = case_id ∧ entry.tenant_id = tenant_id) →
    list_for_case_with_tenant order case_id tenant_id database =
      list_for_case .memory case_id memory

/-- Of two runs of one case that call tools, the second has another count of
iterations and a later time, and the tenant of the first. -/
def Recording.Apart (r r' : Recording) : Prop :=
  r.case.case_id = r'.case.case_id → r.run.tool_trace ≠ [] → r'.run.tool_trace ≠ [] →
    r.run.iterations ≠ r'.run.iterations ∧ r.case.tenant_id = r'.case.tenant_id ∧ r.now < r'.now

/-- The runs are apart, each calls one tool at most, and on Postgres the cases
are there. -/
structure OneCallEach (kind : DatabaseKind) (cases : AgentCases) (runs : List Recording) :
    Prop where
  apart : runs.Pairwise Recording.Apart
  single : ∀ r ∈ runs, r.run.tool_trace.length ≤ 1
  stored : kind = .postgres → ∀ r ∈ runs, r.run.tool_trace ≠ [] →
    (dict.get cases r.case.case_id).isSome

theorem Recording.mem_entries {r : Recording} {entry : ToolCallReplayEntry}
    (h : entry ∈ r.entries) : r.run.tool_trace ≠ [] ∧ entry.case_id = r.case.case_id ∧
      entry.tenant_id = r.case.tenant_id ∧ entry.occurred_at = r.now := by
  unfold Recording.entries replay_entries at h
  obtain ⟨idx, hidx, rfl⟩ := List.mem_mapIdx.mp h
  exact ⟨List.ne_nil_of_length_pos (Nat.zero_lt_of_lt hidx), rfl, rfl, rfl⟩

theorem Recording.exists_entry {r : Recording} (h : r.run.tool_trace ≠ []) :
    ∃ entry, entry ∈ r.entries := by
  unfold Recording.entries replay_entries
  refine List.exists_mem_of_ne_nil _ fun hnil => h ?_
  exact List.mapIdx_eq_nil_iff.mp hnil

theorem Recording.entries_step (r : Recording) :
    r.entries.map ToolCallReplayEntry.step = r.run.tool_trace := by
  unfold Recording.entries replay_entries
  apply List.ext_getElem
  · simp
  · intro idx h h'
    simp [replay_entry, ToolCallReplayEntry.step]

/-- What memory lists for a case. -/
theorem list_for_case_runs (runs : List Recording) (case_id : String) :
    (list_for_case .memory case_id (runs.flatMap Recording.entries)).map
        ToolCallReplayEntry.step =
      (runs.filter fun r => r.case.case_id = case_id).flatMap fun r => r.run.tool_trace := by
  unfold list_for_case
  dsimp only
  induction runs with
  | nil => rfl
  | cons r runs ih =>
    rw [List.flatMap_cons, List.filter_append, List.map_append, ih, List.filter_cons]
    by_cases hcase : r.case.case_id = case_id
    · have hall : r.entries.filter (fun entry => entry.case_id = case_id) = r.entries :=
        List.filter_eq_self.mpr fun e he => decide_eq_true ((r.mem_entries he).2.1.trans hcase)
      rw [hall, r.entries_step, if_pos (decide_eq_true hcase), List.flatMap_cons]
    · have hnone : r.entries.filter (fun entry => entry.case_id = case_id) = [] :=
        List.filter_eq_nil_iff.mpr fun e he h =>
          hcase ((r.mem_entries he).2.1.symm.trans (of_decide_eq_true h))
      rw [hnone, if_neg (by simpa using hcase)]
      rfl

theorem distinct_ids_iff (runs : List Recording) :
    ((runs.flatMap Recording.entries).map ToolCallReplayEntry.event_id).Nodup ↔
      runs.Pairwise fun r r' => r.case.case_id = r'.case.case_id → r.run.tool_trace ≠ [] →
        r'.run.tool_trace ≠ [] → r.run.iterations ≠ r'.run.iterations := by
  rw [List.map_flatMap, List.nodup_flatMap]
  constructor
  · rintro ⟨-, hruns⟩
    exact hruns.imp fun h => Recording.disjoint_ids_iff.mp h
  · intro hruns
    exact ⟨fun r _ => r.event_ids_nodup, hruns.imp fun h => Recording.disjoint_ids_iff.mpr h⟩

/-- The entries of a run are of one time, so it has one at most. -/
theorem Recording.later_iff (r : Recording) :
    r.entries.Pairwise Later ↔ r.run.tool_trace.length ≤ 1 := by
  rw [← r.entries_step, List.length_map]
  constructor
  · intro hlater
    by_contra hmany
    obtain ⟨a, b, rest, hab⟩ : ∃ a b rest, r.entries = a :: b :: rest := by
      rcases hentries : r.entries with _ | ⟨a, _ | ⟨b, rest⟩⟩
      · exact absurd (by rw [hentries]; simp) hmany
      · exact absurd (by rw [hentries]; simp) hmany
      · exact ⟨a, b, rest, rfl⟩
    have ha : a ∈ r.entries := by simp [hab]
    have hb : b ∈ r.entries := by simp [hab]
    obtain ⟨-, hcase, -, htime⟩ := Recording.mem_entries ha
    obtain ⟨-, hcase', -, htime'⟩ := Recording.mem_entries hb
    rw [hab] at hlater
    have hlt := (List.rel_of_pairwise_cons hlater List.mem_cons_self
      (hcase.trans hcase'.symm)).2
    rw [htime, htime'] at hlt
    exact lt_irrefl _ hlt
  · intro hone
    rcases hentries : r.entries with _ | ⟨a, _ | ⟨b, rest⟩⟩
    · exact .nil
    · exact List.pairwise_singleton _ _
    · rw [hentries] at hone
      simp at hone

theorem later_iff (runs : List Recording) :
    (runs.flatMap Recording.entries).Pairwise Later ↔
      (∀ r ∈ runs, r.run.tool_trace.length ≤ 1) ∧ runs.Pairwise fun r r' =>
        r.case.case_id = r'.case.case_id → r.run.tool_trace ≠ [] → r'.run.tool_trace ≠ [] →
          r.case.tenant_id = r'.case.tenant_id ∧ r.now < r'.now := by
  rw [List.pairwise_flatMap]
  refine and_congr (forall₂_congr fun r _ => r.later_iff) (List.Pairwise.iff fun {r r'} => ?_)
  constructor
  · intro hall hcase htrace htrace'
    obtain ⟨a, ha⟩ := Recording.exists_entry htrace
    obtain ⟨b, hb⟩ := Recording.exists_entry htrace'
    have hab := hall a ha b hb
    obtain ⟨-, hcasea, htenanta, htimea⟩ := Recording.mem_entries ha
    obtain ⟨-, hcaseb, htenantb, htimeb⟩ := Recording.mem_entries hb
    rw [← htenanta, ← htimea, ← htenantb, ← htimeb]
    exact hab (by rw [hcasea, hcaseb, hcase])
  · intro hruns a ha b hb hcase
    obtain ⟨htrace, hcasea, htenanta, htimea⟩ := Recording.mem_entries ha
    obtain ⟨htrace', hcaseb, htenantb, htimeb⟩ := Recording.mem_entries hb
    rw [htenanta, htimea, htenantb, htimeb]
    exact hruns (by rw [← hcasea, ← hcaseb, hcase]) htrace htrace'

theorem OneCallEach.iff {kind : DatabaseKind} {runs : List Recording} :
    OneCallEach kind cases runs ↔
      ((runs.flatMap Recording.entries).map ToolCallReplayEntry.event_id).Nodup ∧
        (runs.flatMap Recording.entries).Pairwise Later ∧
        (kind = .postgres → ∀ entry ∈ runs.flatMap Recording.entries,
          (dict.get cases entry.case_id).isSome) := by
  rw [distinct_ids_iff, later_iff]
  constructor
  · rintro ⟨hapart, hsingle, hstored⟩
    refine ⟨hapart.imp fun h hcase hr hr' => (h hcase hr hr').1, ⟨hsingle, hapart.imp
      fun h hcase hr hr' => (h hcase hr hr').2⟩, fun hkind entry hentry => ?_⟩
    obtain ⟨r, hr, hentry⟩ := List.mem_flatMap.mp hentry
    obtain ⟨htrace, hcase, -⟩ := Recording.mem_entries hentry
    rw [hcase]
    exact hstored hkind r hr htrace
  · rintro ⟨hids, ⟨hsingle, hlater⟩, hstored⟩
    refine ⟨?_, hsingle, fun hkind r hr htrace => ?_⟩
    · exact (hids.and hlater).imp fun h hcase hr hr' => ⟨h.1 hcase hr hr', h.2 hcase hr hr'⟩
    · obtain ⟨entry, hentry⟩ := Recording.exists_entry htrace
      rw [← (Recording.mem_entries hentry).2.1]
      exact hstored hkind entry (List.mem_flatMap.mpr ⟨r, hr, hentry⟩)

/-- From empty logs, both logs replay the runs of the steps exactly when the
runs of a case are apart and each step calls one tool at most. -/
theorem logs_replay_the_runs_iff_each_step_calls_one_tool (env : CompactionEnv)
    (kind : DatabaseKind) (cases : AgentCases) (steps : List AgentStep) :
    LogsReplay (recordings cases steps)
        (run (harness_step .memory env) ⟨cases, []⟩ steps).log
        (run (harness_step (.database kind) env) ⟨cases, []⟩ steps).log ↔
      OneCallEach kind cases (recordings cases steps) := by
  rw [memory_log, List.nil_append, OneCallEach.iff]
  constructor
  · rintro ⟨-, hids, hsame⟩
    have hstored : kind = .postgres → ∀ entry ∈
        (recordings cases steps).flatMap Recording.entries,
          (dict.get cases entry.case_id).isSome := by
      rintro rfl entry hentry
      have hread := hsame (tiesReversed occurred) entry.case_id entry.tenant_id
        ⟨entry, hentry, rfl, rfl⟩
      have hlisted : entry ∈ list_for_case .memory entry.case_id
          ((recordings cases steps).flatMap Recording.entries) :=
        List.mem_filter.mpr ⟨hentry, decide_eq_true rfl⟩
      rw [← hread] at hlisted
      have hrow := ((tiesReversed occurred).perm _).mem_iff.mp hlisted
      exact stored_of_postgres_log (s := ⟨cases, []⟩) steps nofun entry
        (List.mem_of_mem_filter hrow)
    rw [database_log steps (by simpa using hids) hstored, List.nil_append] at hsame
    exact ⟨hids, (listings_agree_iff hids.of_map).mp hsame, hstored⟩
  · rintro ⟨hids, hlater, hstored⟩
    rw [database_log steps (by simpa using hids) hstored, List.nil_append]
    exact ⟨list_for_case_runs _, hids, (listings_agree_iff hids.of_map).mpr hlater⟩

/-! ## Two runs of one case -/

/-- A case that was opened with the year. -/
def openedCase : AgentCase :=
  { case_id := "C1", tenant_id := "T1", status := .OPEN_AWAITING_HUMAN
    supergroup_code := some "SG_BLOCK_PRICING", pending_override := none, closed_at := none
    opened_at := "2026-01-01T00:00:00+00:00", tier := .T3 }

/-- The agent is done with its first call. -/
def doneRun : AgentRun :=
  { outcome := .RESOLVED, halt_reason := none, iterations := 1
    tool_trace := [⟨[("tool_name", .str "declare_done"), ("arguments", .dict [])],
      [("status", .str "ok")]⟩] }

def doneStep (now_iso : String) (microseconds : ℤ) : AgentStep :=
  { case := openedCase, run_case_agent := fun _ => .ok doneRun, now_iso := now_iso
    now := ⟨microseconds, now_iso⟩ }

/-- No templates, and the parser of times on the one that is read. -/
def sampleCompaction : CompactionEnv where
  load_template _ := none
  fromisoformat text :=
    if text = "2026-01-01T00:00:00+00:00" then some ⟨1767225600000000, true⟩ else none

/-- Both runs end in their first iteration, so their calls get one id. -/
theorem two_runs_of_a_case_share_an_event_id :
    ¬ ∀ (env : CompactionEnv) (kind : DatabaseKind) (cases : AgentCases) (steps : List AgentStep),
      LogsReplay (recordings cases steps)
        (run (harness_step .memory env) ⟨cases, []⟩ steps).log
        (run (harness_step (.database kind) env) ⟨cases, []⟩ steps).log := by
  intro h
  have hdistinct := (h sampleCompaction .sqlite [("C1", openedCase)]
    [doneStep "2026-01-02T00:00:00+00:00" 1767312000000000,
      doneStep "2026-01-03T00:00:00+00:00" 1767398400000000]).distinct
  revert hdistinct
  decide +kernel

end asoe
