-- What is left of an event whose record the database refuses: the service
-- runs as before while the inserts go through, and a refused insert leaves
-- the case that was materialised for it.
import Asoe.DatabasePersistence

namespace asoe

open py prog

/-! ## A refused insert -/

/-- The case is materialised, and `exception_store.create` raises. -/
def CreateFails (cfg : Config) (env : StepEnv) (intake : Intake) (tenant trace : String)
    (fin : GraphState) (t : Tables) : Prop :=
  ∃ data, resolution_data_of fin = .ok data ∧
    wp (materialise_for_event cfg env intake tenant fin.event fin.final_status fin.intent)
      (fun case t₁ => insert_fault intake t₁ (record_of env tenant trace case data fin) ≠ none)
      (fun _ _ => False) t

instance {cfg : Config} {env : StepEnv} {intake : Intake} {tenant trace : String}
    {fin : GraphState} {t : Tables} : Decidable (CreateFails cfg env intake tenant trace fin t) :=
  inferInstanceAs (Decidable (∃ _, _ ∧ wp _ _ _ _))

/-- No case was opened or moved, no key registered, no classification noted. -/
def Untouched (t t' : Tables) : Prop :=
  t'.api.cases = t.api.cases ∧ t'.case_correlation_keys = t.case_correlation_keys ∧
    t'.case_classification_history = t.case_classification_history

instance {t t' : Tables} : Decidable (Untouched t t') := inferInstanceAs (Decidable (_ ∧ _ ∧ _))

/-- The event is known already: it attaches to a case that all its keys point
at, and whose status its own does not move. -/
def AlreadySettled (cfg : Config) (intake : Intake) (tenant : String) (fin : GraphState)
    (t : Tables) : Prop :=
  ∃ case_id case,
    find_by_priority intake.bind_text tenant t.case_correlation_keys
      (correlation_keys fin.event) = .ok (some case_id) ∧
    dict.get t.api.cases case_id = some case ∧
    (∀ key ∈ correlation_keys fin.event, key.2.truthy = true → ∀ text,
      intake.bind_text key.2 = .ok text →
        dict.get t.case_correlation_keys (tenant, key.1, text) = some case_id) ∧
    KeepsStatus cfg t.api tenant case.case_id [resolve_lifecycle fin.final_status]

/-! ## The service while the inserts go through -/

section refinement

variable {α : Type} {cfg : Config} {env : StepEnv} {intake : Intake} {tenant trace : String}
  {fin : GraphState} {t : Tables}

/-- A result, without the two tables that only the case store writes. -/
def api_result : EStateM.Result ApiError Tables α → EStateM.Result ApiError Api α
  | .ok a t => .ok a t.api
  | .error e t => .error e t.api

/-- The service finds and opens the cases that the case store does. -/
def AgreesOnCases (env : StepEnv) (intake : Intake) (tenant : String) (fin : GraphState)
    (t : Tables) : Prop :=
  env.lookup_or_create fin.event t.api.cases =
    (resolve_or_open_case intake tenant fin.event fin.intent t).map fun found =>
      (found.1.api.cases, found.2.1)

theorem LookedUp.api_eq {keys : List (String × PyVal)} {classification : CaseClassification}
    {found : Tables × OrderCase × Bool} (h : LookedUp intake tenant keys classification t found) :
    found.1.api = { t.api with cases := found.1.api.cases } := by
  cases h <;> rfl

theorem materialise_for_event_run {event : OrderEvent} {final_status : Option TerminalStatus}
    {intent : Intent} :
    materialise_for_event cfg env intake tenant event final_status intent t =
      match resolve_or_open_case intake tenant event intent t with
      | .error e => .error (.raised e) t
      | .ok found =>
        match recompute_case_status cfg env tenant found.2.1.case_id
          [resolve_lifecycle final_status] found.1.api with
        | .ok _ api => .ok found.2.1 { found.1 with api := api }
        | .error e api => .error e { found.1 with api := api } := by
  unfold materialise_for_event lift_tables on_api
  simp only [run_bind, run_get, run_ofExcept]
  rcases resolve_or_open_case intake tenant event intent t with e | found
  · rfl
  · simp only [run_set, run_zoom]
    rcases recompute_case_status cfg env tenant found.2.1.case_id [resolve_lifecycle final_status]
      found.1.api with ⟨a, api⟩ | ⟨e, api⟩
    · rfl
    · rfl

/-- While no insert is refused, persisting on the database is what the
service does. -/
theorem persist_on_database_refines (hcases : AgreesOnCases env intake tenant fin t)
    (htaken : ¬ CreateFails cfg env intake tenant trace fin t) :
    api_result (persist_on_database cfg env intake tenant trace fin t) =
      persist_exception cfg env tenant trace fin t.api := by
  unfold AgreesOnCases at hcases
  unfold persist_on_database persist_exception create_exception lift_tables lift_py
  simp only [run_bind, run_get, run_ofExcept]
  rcases hdata : resolution_data_of fin with e | data
  · rfl
  have hinsert : ∀ case t₁, materialise_for_event cfg env intake tenant fin.event
      fin.final_status fin.intent t = .ok case t₁ →
      insert_fault intake t₁ (record_of env tenant trace case data fin) = none := by
    intro case t₁ hmat
    by_contra hfault
    exact htaken ⟨data, hdata, wp_of_ok hmat hfault⟩
  dsimp only
  rw [materialise_for_event_run] at hinsert ⊢
  rw [hcases]
  rcases hfound : resolve_or_open_case intake tenant fin.event fin.intent t with e | found
  · rfl
  have hapi := (resolve_or_open_case_cases found hfound).api_eq
  rw [hfound] at hinsert
  simp only [Except.map, run_modify, ← hapi]
  rcases hroll : recompute_case_status cfg env tenant found.2.1.case_id
    [resolve_lifecycle fin.final_status] found.1.api with ⟨a, api'⟩ | ⟨e, api'⟩
  · simp only [hroll] at hinsert
    simp only [hinsert _ _ rfl, run_set]
    rcases env.compose_record _ with e | composed
    · rfl
    · rfl
  · rfl

end refinement

/-! ## The keys -/

section keys

variable {bind_text : PyVal → Except PyErr String} {tenant case_id : String}
  {keys : List (String × PyVal)} {m m' : List (CorrelationKey × String)}

theorem register_keys_cons {key : String × PyVal}
    (h : register_keys bind_text tenant case_id (key :: keys) m = .ok m') :
    (key.2.truthy = false ∧ register_keys bind_text tenant case_id keys m = .ok m') ∨
      (key.2.truthy = true ∧ ∃ text, bind_text key.2 = .ok text ∧
        register_keys bind_text tenant case_id keys
          (dict.set m (tenant, key.1, text) case_id) = .ok m') := by
  unfold register_keys at h
  by_cases hset : key.2.truthy = true
  · rw [if_neg (by simp [hset])] at h
    rcases htext : bind_text key.2 with e | text
    · rw [error_bind htext] at h
      cases h
    · rw [ok_bind htext] at h
      exact Or.inr ⟨hset, text, rfl, h⟩
  · rw [if_pos (by simpa using hset)] at h
    exact Or.inl ⟨by simpa using hset, h⟩

theorem register_keys_keeps {k : CorrelationKey}
    (h : register_keys bind_text tenant case_id keys m = .ok m')
    (hk : dict.get m k = some case_id) : dict.get m' k = some case_id := by
  induction keys generalizing m with
  | nil =>
    cases h
    exact hk
  | cons key keys ih =>
    obtain ⟨-, hrest⟩ | ⟨-, text, -, hrest⟩ := register_keys_cons h
    · exact ih hrest hk
    · apply ih hrest
      by_cases hsame : k = (tenant, key.1, text)
      · rw [hsame, dict.get_set_self]
      · rw [dict.get_set_of_ne _ _ hsame, hk]

theorem register_keys_points (h : register_keys bind_text tenant case_id keys m = .ok m') :
    ∀ key ∈ keys, key.2.truthy = true → ∀ text, bind_text key.2 = .ok text →
      dict.get m' (tenant, key.1, text) = some case_id := by
  induction keys generalizing m with
  | nil => simp
  | cons key keys ih =>
    intro key' hkey' hset' text' htext'
    obtain ⟨hset, hrest⟩ | ⟨-, text, htext, hrest⟩ := register_keys_cons h
    · rcases List.mem_cons.mp hkey' with rfl | hkey'
      · rw [hset] at hset'
        cases hset'
      · exact ih hrest key' hkey' hset' text' htext'
    · rcases List.mem_cons.mp hkey' with rfl | hkey'
      · cases htext.symm.trans htext'
        exact register_keys_keeps hrest (dict.get_set_self _ _ _)
      · exact ih hrest key' hkey' hset' text' htext'

theorem register_keys_same (h : register_keys bind_text tenant case_id keys m = .ok m')
    (hall : ∀ key ∈ keys, key.2.truthy = true → ∀ text, bind_text key.2 = .ok text →
      dict.get m (tenant, key.1, text) = some case_id) : m' = m := by
  induction keys generalizing m with
  | nil =>
    cases h
    rfl
  | cons key keys ih =>
    have hothers := fun other hother => hall other (List.mem_cons_of_mem _ hother)
    obtain ⟨-, hrest⟩ | ⟨hset, text, htext, hrest⟩ := register_keys_cons h
    · exact ih hrest hothers
    · rw [dict.set_of_get (hall key List.mem_cons_self hset text htext)] at hrest
      exact ih hrest hothers

theorem register_keys_same_iff (h : register_keys bind_text tenant case_id keys m = .ok m') :
    m' = m ↔ ∀ key ∈ keys, key.2.truthy = true → ∀ text, bind_text key.2 = .ok text →
      dict.get m (tenant, key.1, text) = some case_id := by
  constructor
  · rintro rfl
    exact register_keys_points h
  · exact register_keys_same h

end keys

/-! ## What the refused insert leaves -/

section leftovers

variable {cfg : Config} {env : StepEnv} {intake : Intake} {tenant trace : String}
  {event : OrderEvent} {final_status : Option TerminalStatus} {intent : Intent}
  {fin : GraphState} {case : OrderCase} {t t₁ : Tables}

theorem create_fails_ends (h : CreateFails cfg env intake tenant trace fin t) :
    ∃ case t₁, materialise_for_event cfg env intake tenant fin.event fin.final_status fin.intent
        t = .ok case t₁ ∧
      endState (persist_on_database cfg env intake tenant trace fin t) = t₁ := by
  obtain ⟨data, hdata, hwp⟩ := h
  obtain ⟨case, t₁, hmat, hfault⟩ := wp_returned hwp
  refine ⟨case, t₁, hmat, ?_⟩
  have hends := create_exception_ends cfg tenant trace hmat hdata
  dsimp only at hends
  rcases hinsert : insert_fault intake t₁ (record_of env tenant trace case data fin) with _ | e
  · exact absurd hinsert hfault
  · rw [hinsert] at hends
    exact hends

theorem Moves.cases_ne {api api' : Api} {case_id : String} (h : Moves api case_id api') :
    dict.get api'.cases case_id ≠ dict.get api.cases case_id := by
  obtain ⟨case, status, closed_at, hcase, hne, rfl⟩ := h
  rw [dict.get_set_self, hcase]
  intro hsame
  injection hsame with hsame
  exact hne (congrArg OrderCase.status hsame)

/-- The intake of an event leaves the tables alone exactly when the event is
settled already. -/
theorem materialised_untouched_iff
    (h : Materialised cfg intake tenant fin.event fin.final_status fin.intent t case t₁) :
    Untouched t t₁ ↔ AlreadySettled cfg intake tenant fin t := by
  cases h with
  | kept found hfound hkeeps =>
    cases resolve_or_open_case_cases found hfound with
    | attached case_id case correlation hfind hcase hregister =>
      constructor
      · rintro ⟨-, hkeys, -⟩
        exact ⟨case_id, case, hfind, hcase, (register_keys_same_iff hregister).mp hkeys, hkeeps⟩
      · rintro ⟨case_id', case', hfind', hcase', hall, -⟩
        cases hfind.symm.trans hfind'
        exact ⟨rfl, (register_keys_same_iff hregister).mpr hall, rfl⟩
    | opened correlation history hfind hunused =>
      constructor
      · rintro ⟨hcases, -⟩
        have hopened := congrArg (dict.get · intake.new_case_id) hcases
        simp [hunused] at hopened
      · rintro ⟨case_id', case', hfind', -⟩
        cases hfind.symm.trans hfind'
  | moved found api' hfound hmust hmoves =>
    cases resolve_or_open_case_cases found hfound with
    | attached case_id case correlation hfind hcase hregister =>
      constructor
      · rintro ⟨hcases, -⟩
        exact absurd (congrArg (dict.get · case.case_id) hcases) hmoves.cases_ne
      · rintro ⟨case_id', case', hfind', hcase', -, hkeeps⟩
        cases hfind.symm.trans hfind'
        cases hcase.symm.trans hcase'
        exact absurd hkeeps hmust
    | opened correlation history hfind hunused =>
      constructor
      · rintro ⟨hcases, -⟩
        obtain ⟨case, status, closed_at, -, -, rfl⟩ := hmoves
        have hopened := congrArg (dict.get · intake.new_case_id) hcases
        simp [hunused, opened_case] at hopened
      · rintro ⟨case_id', case', hfind', -⟩
        cases hfind.symm.trans hfind'

/-- When the database refuses a record, nothing of its event is left exactly
when the event was settled before. -/
theorem a_refused_record_leaves_nothing_iff (cfg : Config) (env : StepEnv) (intake : Intake)
    (tenant trace : String) (fin : GraphState) (t : Tables)
    (hfails : CreateFails cfg env intake tenant trace fin t) :
    Untouched t (endState (persist_on_database cfg env intake tenant trace fin t)) ↔
      AlreadySettled cfg intake tenant fin t := by
  obtain ⟨case, t₁, hmat, hends⟩ := create_fails_ends hfails
  rw [hends]
  exact materialised_untouched_iff (wp_ok materialise_for_event_cases hmat)

end leftovers

/-! ## The duplicate order, lost twice -/

/-- A duplicate order that was halted, as it comes to be persisted. -/
def haltedDuplicate : GraphState :=
  { event := costlyDuplicate, intent := .DUPLICATE_PO, final_status := some .FAIL_TO_HUMAN }

/-- The service whose cases are those of the database. -/
def alikeEnv : StepEnv :=
  { sampleEnv (sampleRun 100) with
    lookup_or_create := fun event cases => (resolve_or_open_case sampleIntake "T1" event
      .MANUAL_ORDER_INTAKE { api := { cases } }).map fun found =>
        (found.1.api.cases, found.2.1) }

/-- A completed order, on tables without a row. -/
theorem the_first_order_is_persisted_alike :
    let fin : GraphState :=
      { event := sampleEvent, intent := .MANUAL_ORDER_INTAKE, final_status := some .COMPLETE }
    api_result (persist_on_database databaseConfig alikeEnv sampleIntake "T1" "T" fin {}) =
      persist_exception databaseConfig alikeEnv "T1" "T" fin {} :=
  persist_on_database_refines rfl (by decide +kernel)

/-- The case that an earlier event of the order has left. -/
def failedCase : OrderCase :=
  ⟨"C1", "T1", .FAILED, some "SG_BLOCK_ORDER_INTEGRITY", none, some "2025-01-01"⟩

/-- The tables with that case. -/
def settledTables : Tables where
  api := { cases := [("C1", failedCase)] }
  case_correlation_keys := [(("T1", "customer_po_number", "4711"), "C1")]
  case_classification_history :=
    [⟨"T1", "C1", "SG_BLOCK_ORDER_INTEGRITY", some "INT_DUPLICATE_PO", "system:case_intake",
      "RULE", none⟩]

/-- The run of the duplicate is refused, and its case stays: closed as
failed, without a record. -/
theorem a_lost_duplicate_leaves_its_case :
    wp (run_graph (sampleRun 100) none { event := costlyDuplicate })
      (fun fin _ =>
        let env := sampleEnv (sampleRun 100)
        CreateFails databaseConfig env sampleIntake "T1" (run_trace_id env fin) fin {} ∧
          ¬ Untouched {} (endState (persist_on_database databaseConfig env sampleIntake "T1"
            (run_trace_id env fin) fin {})))
      (fun _ _ => False) {} := by
  decide +kernel

/-- When it is refused again, nothing more is left. -/
theorem a_duplicate_lost_again_leaves_nothing :
    Untouched settledTables (endState (persist_on_database databaseConfig
      (sampleEnv (sampleRun 100)) sampleIntake "T1" "T" haltedDuplicate settledTables)) := by
  have hkeys : register_keys sampleIntake.bind_text "T1" "C1"
      (correlation_keys haltedDuplicate.event) [] = .ok settledTables.case_correlation_keys := by
    decide +kernel
  have hroll : rolled_up_status databaseConfig settledTables.api "T1" failedCase.case_id
      [resolve_lifecycle haltedDuplicate.final_status] = some .FAILED := by
    decide +kernel
  refine (a_refused_record_leaves_nothing_iff _ _ _ _ _ _ _ (by decide +kernel)).mpr
    ⟨"C1", failedCase, by decide +kernel, by decide +kernel, register_keys_points hkeys, ?_⟩
  intro case hcase _ status hstatus
  cases hroll.symm.trans hstatus
  cases hcase
  rfl

end asoe
