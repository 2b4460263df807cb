-- The tier of a case over runs of harness steps. A step raises the tier of
-- the snapshot that it was called with, which may be older than the row, and
-- writes it over the row.
import Asoe.ReplayLogs

namespace asoe

open py prog runs

/-! ## What a step writes -/

def tier_of (case_id : String) (cases : AgentCases) : Option CaseTier :=
  (dict.get cases case_id).map AgentCase.tier

/-- The step writes this tier: it is not locked out, its snapshot graduates,
and the row takes the update. -/
def Raises (step : AgentStep) (cases : AgentCases) (tier : CaseTier) : Prop :=
  step.locked = false ∧
    (graduate_tier_if_needed step.case step.is_clean_event).map AgentCase.tier = some tier ∧
    Writable step.case.case_id cases

theorem tier_of_update {case_id id : String} {fields : AgentFields} {cases cases' : AgentCases}
    (h : update_agent_case case_id fields cases = .ok cases') :
    tier_of id cases' =
      if id = case_id then fields.tier.or (tier_of id cases) else tier_of id cases := by
  obtain ⟨existing, hget, rfl⟩ := update_agent_case_ok h
  unfold tier_of
  by_cases hid : id = case_id
  · subst hid
    rw [if_pos rfl, dict.get_set_self, hget]
    rcases hfield : fields.tier with _ | tier
    · simp [AgentFields.apply, hfield]
    · simp [AgentFields.apply, hfield]
  · rw [if_neg hid, dict.get_set_of_ne _ _ hid]

section steps

variable {backend : ReplayBackend} {env : CompactionEnv} {step : AgentStep} {s : HarnessState}
  {tier : CaseTier}

theorem tier_of_due {case : AgentCase} {events : List PyDict} {now : Instant}
    {cases cases' : AgentCases} {result : CompactionResult} (id : String)
    (h : due env case events now cases = some (cases', result)) :
    tier_of id cases' = tier_of id cases := by
  unfold due at h
  split at h
  · split at h
    · rename_i hok
      cases h
      rw [tier_of_update hok, Option.none_or, ite_self]
    · cases h
  · cases h

theorem tier_of_step (id : String) : tier_of id (harness_step backend env step s).cases =
    tier_of id (((started step s.cases).map Prod.snd).getD s.cases) := by
  have h : StepEnd backend env step s _ _ := step_end
  generalize harness_step backend env step s = s' at h
  generalize step_compaction backend env step s = compaction at h
  cases h with
  | unstarted hstart => rw [hstart]; rfl
  | stopped hstart => rw [hstart]; rfl
  | refused hstart => rw [hstart]; rfl
  | logged hstart => rw [hstart]; rfl
  | compacted hstart _ _ hdue =>
    rw [hstart]
    exact tier_of_due id hdue

theorem tier_of_raised (h : Raises step s.cases tier) (id : String) :
    tier_of id (harness_step backend env step s).cases =
      if id = step.case.case_id then some tier else tier_of id s.cases := by
  obtain ⟨hlock, hgraduate, hwritable⟩ := h
  obtain ⟨graduated, hgraduated, rfl⟩ := Option.map_eq_some_iff.mp hgraduate
  obtain ⟨cases, hcases⟩ :=
    (update_accepted_iff { tier := some graduated.tier }).mpr hwritable
  have hstart : started step s.cases = some (graduated, cases) := by
    unfold started
    rw [hlock, hgraduated]
    dsimp only
    rw [hcases]
    rfl
  rw [tier_of_step, hstart]
  exact tier_of_update hcases

theorem tier_of_kept (h : ∀ tier, ¬ Raises step s.cases tier) (id : String) :
    tier_of id (harness_step backend env step s).cases = tier_of id s.cases := by
  rw [tier_of_step]
  unfold started
  split
  · rfl
  · rename_i hlock
    split
    · rfl
    · rename_i graduated hgraduated
      have hrefused : ¬ Writable step.case.case_id s.cases := fun hwritable =>
        h graduated.tier ⟨Bool.not_eq_true _ ▸ hlock, by rw [hgraduated]; rfl, hwritable⟩
      obtain ⟨e, he⟩ := update_refused { tier := some graduated.tier } hrefused
      rw [he]
      rfl

theorem Raises.next (h : Raises step s.cases tier) :
    step.case.tier = .T1 ∧ tier = .T2 ∨ step.case.tier = .T2 ∧ tier = .T3 := by
  have hgraduate := h.2.1
  unfold graduate_tier_if_needed at hgraduate
  split at hgraduate
  · cases hgraduate
  · split at hgraduate
    · rename_i htier
      cases hgraduate
      exact Or.inl ⟨htier, rfl⟩
    · rename_i htier
      cases hgraduate
      exact Or.inr ⟨htier, rfl⟩
    · cases hgraduate

theorem raises_low (hlock : step.locked = false) (hclean : step.is_clean_event = false)
    (hwritable : Writable step.case.case_id s.cases) (hlow : step.case.tier = .T1) :
    Raises step s.cases .T2 := by
  refine ⟨hlock, ?_, hwritable⟩
  unfold graduate_tier_if_needed
  simp [hclean, hlow]

theorem Raises.not_clean (h : Raises step s.cases tier) : step.is_clean_event = false := by
  have hgraduate := h.2.1
  unfold graduate_tier_if_needed at hgraduate
  split at hgraduate
  · cases hgraduate
  · rename_i hclean
    exact Bool.not_eq_true _ ▸ hclean

end steps

/-! ## Steps with snapshots -/

/-- The cases and the log, with the cases that callers have read. -/
structure Readers where
  harness : HarnessState
  snapshots : List AgentCase := []

/-- A caller reads a case, or runs a step with a case that was read. -/
inductive TierOp where
  | read (case_id : String)
  | run (k : ℕ) (step : AgentStep)

def tier_op (backend : ReplayBackend) (env : CompactionEnv) : TierOp → Readers → Readers
  | .read case_id, s =>
    { s with snapshots := s.snapshots ++ (dict.get s.harness.cases case_id).toList }
  | .run k step, s =>
    match s.snapshots[k]? with
    | none => s
    | some case =>
      { s with harness := harness_step backend env { step with case := case } s.harness }

/-- The cases are stored under their ids. -/
def stored_cases (rows : List AgentCase) : AgentCases :=
  rows.foldl (fun cases row => dict.set cases row.case_id row) []

/-- The tier of a stored case stays or rises by one. -/
def GoesForward (backend : ReplayBackend) (env : CompactionEnv) (op : TierOp) (s : Readers) :
    Prop :=
  ∀ case_id tier, tier_of case_id s.harness.cases = some tier →
    ∃ tier', tier_of case_id (tier_op backend env op s).harness.cases = some tier' ∧
      tier.value ≤ tier'.value ∧ tier'.value ≤ tier.value + 1

/-- No step that may write the tier has a snapshot at T1 of a case at T3. -/
def NotTwoBehind (op : TierOp) (s : Readers) : Prop :=
  ∀ k step case, op = .run k step → s.snapshots[k]? = some case → case.tier = .T1 →
    tier_of case.case_id s.harness.cases = some .T3 →
      step.locked = true ∨ step.is_clean_event = true ∨
        ¬ Writable case.case_id s.harness.cases

/-- The rows are under their ids, and no snapshot is ahead of its row. A row at
T4 was there from the start, and so are its snapshots. -/
structure SnapshotsBehind (s : Readers) : Prop where
  keyed : ∀ case_id row, dict.get s.harness.cases case_id = some row → row.case_id = case_id
  behind : ∀ case ∈ s.snapshots, ∃ tier, tier_of case.case_id s.harness.cases = some tier ∧
    case.tier.value ≤ tier.value ∧ (tier = .T4 → case.tier = .T4)

theorem keyed_stored_cases (rows : List AgentCase) :
    ∀ case_id row, dict.get (stored_cases rows) case_id = some row → row.case_id = case_id := by
  unfold stored_cases
  suffices h : ∀ cases : AgentCases,
      (∀ case_id row, dict.get cases case_id = some row → row.case_id = case_id) →
      ∀ case_id row, dict.get (rows.foldl (fun cases row => dict.set cases row.case_id row) cases)
        case_id = some row → row.case_id = case_id by
    refine h [] ?_
    intro case_id row hrow
    rw [dict.get_nil] at hrow
    cases hrow
  induction rows with
  | nil => exact fun cases hcases => hcases
  | cons new rows ih =>
    intro cases hcases
    apply ih
    intro case_id row hrow
    by_cases hid : case_id = new.case_id
    · subst hid
      rw [dict.get_set_self] at hrow
      cases hrow
      rfl
    · rw [dict.get_set_of_ne _ _ hid] at hrow
      exact hcases case_id row hrow

section readers

variable {backend : ReplayBackend} {env : CompactionEnv} {op : TierOp} {s : Readers}

variable {k : ℕ} {step : AgentStep} {case : AgentCase}

theorem tier_op_run (hk : s.snapshots[k]? = some case) : tier_op backend env (.run k step) s =
      { s with harness := harness_step backend env { step with case := case } s.harness } := by
  rw [tier_op, hk]

theorem Raises.forward_iff {tier old : CaseTier}
    (h : Raises step s.harness.cases tier) (hle : step.case.tier.value ≤ old.value)
    (hfour : old = .T4 → step.case.tier = .T4) :
    (old.value ≤ tier.value ∧ tier.value ≤ old.value + 1) ↔
      ¬ (step.case.tier = .T1 ∧ old = .T3) := by
  rcases h.next with ⟨hlow, rfl⟩ | ⟨hlow, rfl⟩
  · rw [hlow] at hle hfour ⊢
    cases old with
    | T4 => exact absurd (hfour rfl) nofun
    | _ => decide
  · rw [hlow] at hle hfour ⊢
    cases old with
    | T4 => exact absurd (hfour rfl) nofun
    | T1 => exact absurd hle (by decide)
    | _ => decide

theorem notTwoBehind_run (hk : s.snapshots[k]? = some case) : NotTwoBehind (.run k step) s ↔
      (case.tier = .T1 → tier_of case.case_id s.harness.cases = some .T3 →
        step.locked = true ∨ step.is_clean_event = true ∨
          ¬ Writable case.case_id s.harness.cases) := by
  constructor
  · intro h
    exact h k step case rfl hk
  · intro h k' step' case' hop hcase
    cases hop
    cases hk.symm.trans hcase
    exact h

theorem goesForward_of_kept (h : ∀ case_id, tier_of case_id (tier_op backend env op s).harness.cases =
    tier_of case_id s.harness.cases) : GoesForward backend env op s := by
  intro case_id tier htier
  exact ⟨tier, by rw [h, htier], Nat.le_refl _, Nat.le_succ _⟩

/-- A step that writes a tier. -/
theorem goesForward_raised (hs : SnapshotsBehind s)
    {tier : CaseTier} (hk : s.snapshots[k]? = some case)
    (hraises : Raises { step with case := case } s.harness.cases tier) :
    GoesForward backend env (.run k step) s ↔ NotTwoBehind (.run k step) s := by
  obtain ⟨old, hold, hle, hfour⟩ := hs.behind case (List.mem_of_getElem? hk)
  have hforward := hraises.forward_iff hle hfour
  rw [notTwoBehind_run hk]
  constructor
  · intro hall hlow hthree
    obtain ⟨tier', htier', hstep⟩ := hall case.case_id .T3 hthree
    rw [tier_op_run hk, tier_of_raised hraises, if_pos rfl] at htier'
    cases htier'
    cases hold.symm.trans hthree
    exact absurd ⟨hlow, rfl⟩ (hforward.mp hstep)
  · intro hbehind case_id tier' htier'
    rw [tier_op_run hk, tier_of_raised hraises]
    by_cases hid : case_id = case.case_id
    · subst hid
      cases hold.symm.trans htier'
      refine ⟨tier, if_pos rfl, hforward.mpr ?_⟩
      rintro ⟨hlow, rfl⟩
      rcases hbehind hlow hold with hlock | hclean | hrefused
      · exact absurd (hraises.1.symm.trans hlock) nofun
      · exact absurd (hraises.not_clean.symm.trans hclean) nofun
      · exact hrefused hraises.2.2
    · exact ⟨tier', by rw [if_neg hid, htier'], Nat.le_refl _, Nat.le_succ _⟩

/-- A step goes forward exactly when its snapshot is not two tiers behind. -/
theorem goes_forward_iff (hs : SnapshotsBehind s) :
    GoesForward backend env op s ↔ NotTwoBehind op s := by
  cases op with
  | read case_id =>
    refine iff_of_true (goesForward_of_kept fun _ => rfl) ?_
    intro k step case hop
    cases hop
  | run k step =>
    rcases hk : s.snapshots[k]? with _ | case
    · refine iff_of_true (goesForward_of_kept fun _ => by rw [tier_op, hk]) ?_
      intro k' step' case hop hcase
      cases hop
      cases hk.symm.trans hcase
    · by_cases hraises : ∃ tier, Raises { step with case := case } s.harness.cases tier
      · obtain ⟨tier, hraises⟩ := hraises
        exact goesForward_raised hs hk hraises
      · rw [not_exists] at hraises
        refine iff_of_true (goesForward_of_kept fun id => ?_) ?_
        · rw [tier_op_run hk]
          exact tier_of_kept hraises id
        · rw [notTwoBehind_run hk]
          intro hlow _
          by_contra hfree
          rw [not_or, not_or, not_not, Bool.not_eq_true, Bool.not_eq_true] at hfree
          exact hraises .T2 (raises_low hfree.1 hfree.2.1 hfree.2.2 hlow)

/-- A row gets no tier but T2 or T3. -/
theorem tier_of_op (hk : s.snapshots[k]? = some case) (id : String) :
    tier_of id (tier_op backend env (.run k step) s).harness.cases =
        tier_of id s.harness.cases ∨
      ∃ tier, tier ≠ .T4 ∧
        tier_of id (tier_op backend env (.run k step) s).harness.cases = some tier := by
  rw [tier_op_run hk]
  by_cases hraises : ∃ tier, Raises { step with case := case } s.harness.cases tier
  · obtain ⟨tier, hraises⟩ := hraises
    rw [tier_of_raised hraises]
    by_cases hid : id = case.case_id
    · rw [if_pos hid]
      refine Or.inr ⟨tier, ?_, rfl⟩
      rcases hraises.next with ⟨-, rfl⟩ | ⟨-, rfl⟩
      · nofun
      · nofun
    · exact Or.inl (if_neg hid)
  · exact Or.inl (tier_of_kept (not_exists.mp hraises) id)

theorem snapshotsBehind_op (hs : SnapshotsBehind s) (hbehind : NotTwoBehind op s) :
    SnapshotsBehind (tier_op backend env op s) := by
  have hforward : GoesForward backend env op s := (goes_forward_iff hs).mpr hbehind
  cases op with
  | read case_id =>
    refine ⟨hs.keyed, fun case hcase => ?_⟩
    rcases List.mem_append.mp hcase with hcase | hcase
    · exact hs.behind case hcase
    · have hrow := Option.mem_toList.mp hcase
      refine ⟨case.tier, ?_, Nat.le_refl _, id⟩
      rw [hs.keyed case_id case hrow]
      exact congrArg (Option.map AgentCase.tier) hrow
  | run k step =>
    rcases hk : s.snapshots[k]? with _ | case
    · rw [tier_op, hk]
      exact hs
    · refine ⟨fun case_id row hrow => ?_, fun case' hcase' => ?_⟩
      · rw [tier_op_run hk] at hrow
        have hsame : SameCases s.harness.cases
          (harness_step backend env { step with case := case } s.harness).cases := sameCases_step
        have hget := hsame case_id
        rw [hrow, Option.map_some, eq_comm, Option.map_eq_some_iff] at hget
        obtain ⟨old, hold, hfields⟩ := hget
        rw [← hs.keyed case_id old hold]
        exact congrArg OrderCase.case_id hfields.symm
      · have hmem : case' ∈ s.snapshots := by
          rw [tier_op_run hk] at hcase'
          exact hcase'
        obtain ⟨old, hold, hle, hfour⟩ := hs.behind case' hmem
        obtain ⟨tier, htier, hrises, -⟩ := hforward case'.case_id old hold
        refine ⟨tier, htier, Nat.le_trans hle hrises, fun htop => ?_⟩
        rcases tier_of_op hk case'.case_id with hsame | ⟨tier', hlow, htier'⟩
        · rw [htier, hold] at hsame
          cases hsame
          exact hfour htop
        · cases htier.symm.trans htier'
          exact absurd htop hlow

end readers

/-- All along a run the tiers of the cases go forward, one at a time, exactly
when no step that may write a tier has a snapshot two tiers behind. -/
theorem tiers_go_forward_iff_no_snapshot_is_two_behind (backend : ReplayBackend)
    (env : CompactionEnv) (rows : List AgentCase) (log : List ToolCallReplayEntry)
    (ops : List TierOp) :
    AllSteps (tier_op backend env) (GoesForward backend env) ⟨⟨stored_cases rows, log⟩, []⟩ ops ↔
      AllSteps (tier_op backend env) NotTwoBehind ⟨⟨stored_cases rows, log⟩, []⟩ ops :=
  allSteps_iff (I := SnapshotsBehind) (fun _ _ => snapshotsBehind_op)
    (fun _ _ => goes_forward_iff)
    ⟨keyed_stored_cases rows, fun _ hcase => absurd hcase List.not_mem_nil⟩

/-! ## A snapshot from before -/

/-- A case that was opened at the lowest tier. -/
def lowCase : AgentCase := { openedCase with tier := .T1 }

/-- Two steps with fresh snapshots, and a third one with the first snapshot. -/
def staleOps : List TierOp :=
  [.read "C1", .run 0 (doneStep "2026-01-02T00:00:00+00:00" 1767312000000000), .read "C1",
    .run 1 (doneStep "2026-01-03T00:00:00+00:00" 1767398400000000),
    .run 0 (doneStep "2026-01-04T00:00:00+00:00" 1767484800000000)]

/-- The case goes from T1 to T3, and the third step takes it back to T2. -/
theorem an_old_snapshot_takes_the_tier_back :
    ¬ ∀ (backend : ReplayBackend) (env : CompactionEnv) (rows : List AgentCase)
      (log : List ToolCallReplayEntry) (ops : List TierOp),
      AllSteps (tier_op backend env) (GoesForward backend env)
        ⟨⟨stored_cases rows, log⟩, []⟩ ops := by
  intro h
  have hforward := h .memory sampleCompaction [lowCase] [] staleOps
  obtain ⟨tier, htier, hle, -⟩ := hforward.2.2.2.2.1 "C1" .T3 (by decide +kernel)
  have hlow : tier_of "C1" (run (tier_op .memory sampleCompaction)
      ⟨⟨stored_cases [lowCase], []⟩, []⟩ staleOps).harness.cases = some .T2 := by
    decide +kernel
  cases htier.symm.trans hlow
  exact absurd hle (by decide)

end asoe
