-- The memory of a case: what the summary on its row covers of the tool calls
-- that were recorded for it, over runs of harness steps on both logs.
import Asoe.ReplayLogs

namespace asoe

open py prog runs

/-! ## Summaries -/

/-- The characters of the lines, each with its line break. -/
def characters (lines : List String) : ℕ := (lines.map fun line => line.length + 1).sum

/-- The text has a line for each event, in order, as far as the cap goes, and
a note if that is not all. -/
def Summarises (env : CompactionEnv) (events : List PyDict) (text : String) : Prop :=
  ∃ kept ≤ events.length,
    let lines := events.map (summarise_event_line env)
    text = join "\n" (lines.take kept ++
      if kept < events.length then [truncated kept events.length] else []) ∧
    (kept < events.length → COMPACTION_TARGET_TOKENS * 4 < characters (lines.take (kept + 1)))

theorem characters_cons (line : String) (lines : List String) :
    characters (line :: lines) = line.length + 1 + characters lines := by
  simp [characters]

/-- The loop keeps the lines up to the first one past the cap. -/
theorem compact_loop_keeps (char_cap total : ℕ) (out : List String) (used : ℕ)
    (lines : List String) :
    ∃ kept ≤ lines.length,
      compact_loop char_cap total out used lines = out ++ lines.take kept ++
        (if kept < lines.length then [truncated (out.length + kept) total] else []) ∧
      (kept < lines.length → char_cap < used + characters (lines.take (kept + 1))) ∧
      (used ≤ char_cap → used + characters (lines.take kept) ≤ char_cap) := by
  induction lines generalizing out used with
  | nil =>
    refine ⟨0, Nat.le_refl 0, by simp [compact_loop], fun h => ?_, fun h => h⟩
    exact absurd h (Nat.not_lt_zero 0)
  | cons line lines ih =>
    unfold compact_loop
    by_cases hcap : char_cap < used + line.length + 1
    · refine ⟨0, Nat.zero_le _, ?_, fun _ => ?_, fun h => h⟩
      · rw [if_pos hcap]
        simp
      · rw [List.take_succ_cons, characters_cons]
        omega
    · obtain ⟨kept, hkept, hloop, hfull, hwithin⟩ := ih (out ++ [line]) (used + line.length + 1)
      refine ⟨kept + 1, Nat.succ_le_succ hkept, ?_, fun hlt => ?_, fun _ => ?_⟩
      · rw [if_neg hcap, hloop]
        simp [Nat.add_comm, Nat.add_left_comm]
      · rw [List.take_succ_cons, characters_cons]
        have := hfull (Nat.lt_of_succ_lt_succ hlt)
        omega
      · rw [List.take_succ_cons, characters_cons]
        have := hwithin (Nat.le_of_not_lt hcap)
        omega

theorem compact_events_summarises (env : CompactionEnv) (events : List PyDict) :
    Summarises env events (compact_events env events) := by
  obtain ⟨kept, hkept, hloop, hfull, -⟩ := compact_loop_keeps (COMPACTION_TARGET_TOKENS * 4)
    (events.map (summarise_event_line env)).length [] 0 (events.map (summarise_event_line env))
  rw [List.length_map] at hkept hloop hfull
  refine ⟨kept, hkept, ?_, fun hlt => ?_⟩
  · unfold compact_events
    dsimp only
    rw [List.length_map, hloop]
    simp
  · have hover := hfull hlt
    rwa [Nat.zero_add] at hover

theorem join_ne_empty {line : String} (lines : List String) (hline : line ≠ "") :
    join "\n" (line :: lines) ≠ "" := by
  unfold join
  rcases lines with _ | ⟨line', lines⟩
  · rwa [String.intercalate_singleton]
  · rw [String.intercalate_cons_cons]
    simp [hline]

theorem summarise_event_line_ne_empty (env : CompactionEnv) (event : PyDict) :
    summarise_event_line env event ≠ "" := by
  simp [summarise_event_line]

theorem truncated_ne_empty (kept total : ℕ) : truncated kept total ≠ "" := by
  unfold truncated
  intro h
  simp only [String.append_eq_empty_iff] at h
  exact absurd h.2 (by decide)

variable {env : CompactionEnv} {events : List PyDict}

theorem summarises_empty : Summarises env events "" ↔ events = [] := by
  constructor
  · rintro ⟨kept, hkept, htext, -⟩
    rcases events with _ | ⟨event, events⟩
    · rfl
    · rcases kept with _ | kept
      · rw [List.take_zero, List.nil_append, if_pos (by simp)] at htext
        exact absurd htext.symm (join_ne_empty _ (truncated_ne_empty _ _))
      · rw [List.map_cons, List.take_succ_cons, List.cons_append] at htext
        exact absurd htext.symm (join_ne_empty _ (summarise_event_line_ne_empty env event))
  · rintro rfl
    exact ⟨0, Nat.le_refl 0, rfl, nofun⟩

/-! ## What a compaction is made of -/

variable {now : Instant}

theorem run_compaction_some {case_id opened_at : String}
    {token_estimate : Option ℕ} {result : CompactionResult}
    (h : run_compaction env case_id opened_at events now token_estimate = .ok (some result)) :
    result.case_id = case_id ∧ result.summary_text = compact_events env events ∧
      result.events_summarised = events.length := by
  unfold run_compaction at h
  rcases ht : CompactionTrigger.evaluate env opened_at events.length now token_estimate with
    e | trigger
  · rw [error_bind ht] at h
    cases h
  · rw [ok_bind ht] at h
    rcases hshould : trigger.should with _ | _
    · simp [hshould, pure, Except.pure] at h
    · simp only [hshould, Bool.not_true, Bool.false_eq_true, if_false, pure, Except.pure,
        Except.ok.injEq, Option.some.injEq] at h
      subst h
      exact ⟨rfl, rfl, rfl⟩

variable {case : AgentCase}

/-- A compaction that is due tells what it is made of, and its summary goes to
the row. -/
theorem due_some {cases cases' : AgentCases} {result : CompactionResult}
    (h : due env case events now cases = some (cases', result)) :
    (result.case_id = case.case_id ∧ result.summary_text = compact_events env events ∧
        result.events_summarised = events.length) ∧
      ∃ row, dict.get cases' case.case_id = some row ∧
        row.working_memory_summary = some result.summary_text := by
  unfold due at h
  split at h
  · rename_i hrun
    split at h
    · rename_i hok
      cases h
      obtain ⟨existing, -, rfl⟩ := update_agent_case_ok hok
      exact ⟨run_compaction_some hrun, _, dict.get_set_self _ _ _, rfl⟩
    · cases h
  · cases h

/-- The case was opened seven days ago, or earlier. -/
def SevenDaysOld (env : CompactionEnv) (case : AgentCase) (now : Instant) : Prop :=
  ∃ age, CompactionTrigger.age_days env case.opened_at now = .ok age ∧
    PyFloat.le (.fin COMPACTION_TRIGGER_AGE_DAYS) age = true

theorem run_compaction_nil :
    (∃ result, run_compaction env case.case_id case.opened_at [] now none = .ok (some result)) ↔
      SevenDaysOld env case now := by
  unfold run_compaction CompactionTrigger.evaluate SevenDaysOld
  rcases hage : CompactionTrigger.age_days env case.opened_at now with e | age
  · simp [bind, Except.bind]
  · rcases hold : PyFloat.le (.fin COMPACTION_TRIGGER_AGE_DAYS) age with _ | _
    · simp [bind, Except.bind, pure, Except.pure, hold, COMPACTION_TRIGGER_TOKEN_BUDGET,
        COMPACTION_TRIGGER_EVENT_COUNT]
    · simp [bind, Except.bind, pure, Except.pure, hold, COMPACTION_TRIGGER_TOKEN_BUDGET,
        COMPACTION_TRIGGER_EVENT_COUNT]

theorem due_nil {cases : AgentCases} : (∃ p, due env case [] now cases = some p) ↔
      SevenDaysOld env case now ∧ Writable case.case_id cases := by
  rw [← run_compaction_nil]
  constructor
  · rintro ⟨p, h⟩
    unfold due at h
    split at h
    · rename_i result hrun
      split at h
      · rename_i hok
        exact ⟨⟨result, hrun⟩, (update_accepted_iff _).mp ⟨_, hok⟩⟩
      · cases h
    · cases h
  · rintro ⟨⟨result, hrun⟩, hwritable⟩
    unfold due
    rw [hrun]
    dsimp only
    obtain ⟨cases', hcases'⟩ := (update_accepted_iff _).mpr hwritable
    rw [hcases']
    exact ⟨_, rfl⟩

/-! ## What a step compacts -/

/-- The tool calls that were recorded for a case, as a compaction is given
them. -/
def calls_of (case_id : String) (s : HarnessState) : List PyDict :=
  (s.log.filter fun entry => entry.case_id = case_id).map compaction_input

section steps

variable {backend : ReplayBackend} {kind : DatabaseKind} {env : CompactionEnv} {step : AgentStep}
  {s : HarnessState} {result : CompactionResult}

/-- A step compacts what the log lists after all entries of its run. -/
theorem step_compaction_some (h : step_compaction backend env step s = some result) :
    ∃ r, recording s.cases step = some r ∧ result.case_id = r.case.case_id ∧
      (harness_step backend env step s).log = s.log ++ r.entries ∧
      result.summary_text = compact_events env ((list_for_case backend r.case.case_id
        (harness_step backend env step s).log).map compaction_input) ∧
      result.events_summarised = (list_for_case backend r.case.case_id
        (harness_step backend env step s).log).length ∧
      ∃ row, dict.get (harness_step backend env step s).cases r.case.case_id = some row ∧
        row.working_memory_summary = some result.summary_text := by
  have hend : StepEnd backend env step s _ _ := step_end
  rw [h] at hend
  generalize harness_step backend env step s = s' at hend ⊢
  generalize hcompaction : some result = compaction at hend
  cases hend with
  | unstarted => cases hcompaction
  | stopped => cases hcompaction
  | refused => cases hcompaction
  | logged => cases hcompaction
  | compacted hstart hrun hall hdue =>
    cases hcompaction
    obtain ⟨⟨hcase, htext, hcount⟩, hrow⟩ := due_some hdue
    rw [List.length_map] at hcount
    exact ⟨_, recording_of_run hstart hrun, hcase, rfl, htext, hcount, hrow⟩

/-- A run that a database records whole, of an old case with a row that takes
the summary. -/
def CompactsByAge (kind : DatabaseKind) (env : CompactionEnv) (step : AgentStep) (s : HarnessState)
    (r : Recording) : Prop :=
  recording s.cases step = some r ∧ (∀ entry ∈ r.entries, Fits kind entry s) ∧
    SevenDaysOld env r.case step.now ∧ Writable r.case.case_id s.cases

/-- The database lists nothing, so a step compacts by age alone. -/
theorem compacts_by_age_iff :
    (∃ result, step_compaction (.database kind) env step s = some result) ↔
      ∃ r, CompactsByAge kind env step s r := by
  have hend : StepEnd (.database kind) env step s _ _ := step_end
  generalize harness_step (.database kind) env step s = s' at hend
  generalize step_compaction (.database kind) env step s = compaction at hend
  -- All entries fit, by the rows before the step as by those after its start.
  have hfits : ∀ {case cases run}, started step s.cases = some (case, cases) →
      (admitted (.database kind) cases s.log (replay_entries case run step.now_iso) =
        replay_entries case run step.now_iso ↔
          ∀ entry ∈ replay_entries case run step.now_iso, Fits kind entry s) := by
    intro case cases run hstart
    rw [admitted_congr (sameCases_started hstart)]
    exact admitted_eq_iff (Recording.event_ids_nodup ⟨case, run, step.now_iso⟩)
  cases hend with
  | unstarted hstart =>
    refine iff_of_false nofun ?_
    rintro ⟨r, hr, -⟩
    unfold recording at hr
    rw [hstart] at hr
    cases hr
  | stopped hstart hrun =>
    refine iff_of_false nofun ?_
    rintro ⟨r, hr, -⟩
    unfold recording at hr
    rw [hstart] at hr
    dsimp only [Option.map_some] at hr
    rw [hrun] at hr
    cases hr
  | refused hstart hrun hcut =>
    refine iff_of_false nofun ?_
    rintro ⟨r, hr, hentries, -⟩
    rw [recording_of_run hstart hrun] at hr
    cases hr
    exact hcut ((hfits hstart).mpr hentries)
  | logged hstart hrun hall hdue =>
    refine iff_of_false nofun ?_
    rintro ⟨r, hr, -, hold, hwritable⟩
    rw [recording_of_run hstart hrun] at hr
    cases hr
    rw [← writable_congr (sameCases_started hstart)] at hwritable
    obtain ⟨p, hp⟩ := due_nil.mpr ⟨hold, hwritable⟩
    exact absurd (hdue.symm.trans hp) nofun
  | compacted hstart hrun hall hdue =>
    refine iff_of_true ⟨_, rfl⟩ ⟨_, recording_of_run hstart hrun, (hfits hstart).mp hall, ?_⟩
    obtain ⟨hold, hwritable⟩ := due_nil.mp ⟨_, hdue⟩
    exact ⟨hold, (writable_congr (sameCases_started hstart) _).mp hwritable⟩

/-! ## The memory of a case -/

/-- A compaction leaves the row with a summary of all calls of the case. -/
def MemoryKept (backend : ReplayBackend) (env : CompactionEnv) (step : AgentStep)
    (s : HarnessState) : Prop :=
  ∀ result, step_compaction backend env step s = some result →
    Summarises env (calls_of result.case_id (harness_step backend env step s))
        result.summary_text ∧
      ∃ row, dict.get (harness_step backend env step s).cases result.case_id = some row ∧
        row.working_memory_summary = some result.summary_text

/-- On the database, a step that compacts finds no call of its case. -/
def NoCallMissed (backend : ReplayBackend) (env : CompactionEnv) (step : AgentStep)
    (s : HarnessState) : Prop :=
  ∀ kind r, backend = .database kind → CompactsByAge kind env step s r →
    r.run.tool_trace = [] ∧ ∀ entry ∈ s.log, entry.case_id ≠ r.case.case_id

theorem calls_of_eq_nil {r : Recording} (hlog : (harness_step backend env step s).log =
    s.log ++ r.entries) :
    calls_of r.case.case_id (harness_step backend env step s) = [] ↔
      r.run.tool_trace = [] ∧ ∀ entry ∈ s.log, entry.case_id ≠ r.case.case_id := by
  unfold calls_of
  rw [hlog, List.map_eq_nil_iff, List.filter_eq_nil_iff]
  constructor
  · intro hnone
    refine ⟨by_contra fun htrace => ?_, fun entry hentry hcase => ?_⟩
    · obtain ⟨entry, hentry⟩ := Recording.exists_entry htrace
      exact hnone entry (List.mem_append_right _ hentry)
        (decide_eq_true (Recording.mem_entries hentry).2.1)
    · exact hnone entry (List.mem_append_left _ hentry) (decide_eq_true hcase)
  · rintro ⟨htrace, hold⟩ entry hentry hcase
    rcases List.mem_append.mp hentry with hentry | hentry
    · exact hold entry hentry (of_decide_eq_true hcase)
    · exact (Recording.mem_entries hentry).1 htrace

/-- A step keeps the memory exactly when its compaction misses no call. -/
theorem memory_kept_iff : MemoryKept backend env step s ↔ NoCallMissed backend env step s := by
  cases backend with
  | memory =>
    refine iff_of_true (fun result hresult => ?_) fun kind r hmemory => ?_
    · obtain ⟨r, -, hcase, -, htext, -, hrow⟩ := step_compaction_some hresult
      rw [hcase]
      refine ⟨?_, hrow⟩
      rw [htext]
      exact compact_events_summarises env _
    · cases hmemory
  | database kind =>
    constructor
    · rintro hkept kind' r hkind hcompacts
      cases hkind
      obtain ⟨result, hresult⟩ := compacts_by_age_iff.mpr ⟨r, hcompacts⟩
      obtain ⟨r', hr', hcase, hlog, htext, -⟩ := step_compaction_some hresult
      cases hr'.symm.trans hcompacts.1
      have hcovers := (hkept result hresult).1
      rw [htext, hcase] at hcovers
      exact (calls_of_eq_nil hlog).mp (summarises_empty.mp hcovers)
    · intro hmissed result hresult
      obtain ⟨r, hr, hcase, hlog, htext, -, hrow⟩ := step_compaction_some hresult
      obtain ⟨r', hcompacts⟩ := compacts_by_age_iff.mp ⟨result, hresult⟩
      cases hr.symm.trans hcompacts.1
      rw [hcase, (calls_of_eq_nil hlog).mpr (hmissed kind r rfl hcompacts)]
      refine ⟨?_, hrow⟩
      rw [htext]
      exact summarises_empty.mpr rfl

/-! ## Runs -/

/-- The compactions of a run, in order. -/
def compactions (backend : ReplayBackend) (env : CompactionEnv) :
    HarnessState → List AgentStep → List CompactionResult
  | _, [] => []
  | s, step :: steps =>
    (step_compaction backend env step s).toList ++
      compactions backend env (harness_step backend env step s) steps

/-- No later summary of a case is made of fewer events. -/
def NeverFewer (results : List CompactionResult) : Prop :=
  results.Pairwise fun earlier later => earlier.case_id = later.case_id →
    earlier.events_summarised ≤ later.events_summarised

theorem calls_of_step_le (case_id : String) :
    (calls_of case_id s).length ≤
      (calls_of case_id (harness_step backend env step s)).length := by
  unfold calls_of
  rw [log_step, List.filter_append, List.map_append, List.length_append]
  exact Nat.le_add_right _ _

theorem events_summarised_eq (hmissed : NoCallMissed backend env step s)
    (hresult : step_compaction backend env step s = some result) :
    result.events_summarised =
      (calls_of result.case_id (harness_step backend env step s)).length := by
  obtain ⟨r, hr, hcase, hlog, -, hcount, -⟩ := step_compaction_some hresult
  cases backend with
  | memory =>
    rw [hcount, hcase]
    unfold calls_of
    rw [List.length_map]
    rfl
  | database kind =>
    obtain ⟨r', hcompacts⟩ := compacts_by_age_iff.mp ⟨result, hresult⟩
    cases hr.symm.trans hcompacts.1
    rw [hcount, hcase, (calls_of_eq_nil hlog).mpr (hmissed kind r rfl hcompacts)]
    rfl

theorem calls_le_summarised {steps : List AgentStep}
    (hmissed : AllSteps (harness_step backend env) (NoCallMissed backend env) s steps) :
    ∀ result ∈ compactions backend env s steps,
      (calls_of result.case_id s).length ≤ result.events_summarised := by
  induction steps generalizing s with
  | nil => nofun
  | cons step steps ih =>
    intro result hresult
    rcases List.mem_append.mp hresult with hresult | hresult
    · rw [events_summarised_eq hmissed.1 (Option.mem_toList.mp hresult)]
      exact calls_of_step_le _
    · exact Nat.le_trans (calls_of_step_le _) (ih hmissed.2 result hresult)

theorem never_fewer {steps : List AgentStep}
    (hmissed : AllSteps (harness_step backend env) (NoCallMissed backend env) s steps) :
    NeverFewer (compactions backend env s steps) := by
  induction steps generalizing s with
  | nil => exact .nil
  | cons step steps ih =>
    refine List.pairwise_append.mpr
      ⟨?_, ih hmissed.2, fun earlier hearlier later hlater hcase => ?_⟩
    · rcases step_compaction backend env step s with _ | result
      · exact .nil
      · exact List.pairwise_singleton _ _
    · rw [events_summarised_eq hmissed.1 (Option.mem_toList.mp hearlier), hcase]
      exact calls_le_summarised hmissed.2 later hlater

/-- All along a run each compaction summarises every call of its case, and
none is made of fewer events than one before, exactly when no compaction on
the database misses a call. -/
theorem compactions_cover_the_calls_iff_none_is_missed (backend : ReplayBackend)
    (env : CompactionEnv) (s : HarnessState) (steps : List AgentStep) :
    (AllSteps (harness_step backend env) (MemoryKept backend env) s steps ∧
        NeverFewer (compactions backend env s steps)) ↔
      AllSteps (harness_step backend env) (NoCallMissed backend env) s steps := by
  have hiff : AllSteps (harness_step backend env) (MemoryKept backend env) s steps ↔
      AllSteps (harness_step backend env) (NoCallMissed backend env) s steps :=
    ⟨allSteps_mono fun _ _ => memory_kept_iff.mp, allSteps_mono fun _ _ => memory_kept_iff.mpr⟩
  rw [hiff]
  exact ⟨And.left, fun hmissed => ⟨hmissed, never_fewer hmissed⟩⟩

end steps

/-! ## A compaction on the database -/

/-- Eight days after the case was opened, its first call is recorded, and the
summary that the step writes is empty. -/
theorem the_database_compacts_an_old_case_to_nothing :
    ¬ ∀ (backend : ReplayBackend) (env : CompactionEnv) (s : HarnessState)
      (steps : List AgentStep),
      AllSteps (harness_step backend env) (MemoryKept backend env) s steps := by
  intro h
  have hkept := (h (.database .sqlite) sampleCompaction ⟨[("C1", openedCase)], []⟩
    [doneStep "2026-01-09T00:00:00+00:00" 1767916800000000]).1
  have hcompacts : (step_compaction (.database .sqlite) sampleCompaction
      (doneStep "2026-01-09T00:00:00+00:00" 1767916800000000) ⟨[("C1", openedCase)], []⟩).map
        (fun result => (result.case_id, result.summary_text)) = some ("C1", "") := by
    decide +kernel
  obtain ⟨result, hresult, hwritten⟩ := Option.map_eq_some_iff.mp hcompacts
  obtain ⟨hcase, htext⟩ := Prod.mk.inj hwritten
  have hcovers := (hkept result hresult).1
  rw [hcase, htext, summarises_empty] at hcovers
  revert hcovers
  decide +kernel

end asoe
