-- How the final state of a run is stored on the database: the trigger on the
-- rows of duplicate orders, the insert, and which states make a row.
import Asoe.CaseStore
import Asoe.EffectGuard

namespace asoe

open py prog

/-! ## The trigger -/

/-- What the metadata contract asks of a duplicate order that is over. -/
def CONTRACT_KEYS : List String :=
  ["signal_breakdown", "composite_score", "classification", "recommended_action"]

/-- `json_extract` finds no value under a key that is null, and JSON has no
NaN; the operator of Postgres only looks for the key. -/
def holds_key (database : DatabaseKind) (resolution_data : PyDict) (key : String) : Bool :=
  match database, dict.get resolution_data key with
  | _, none => false
  | .postgres, some _ => true
  | .sqlite, some .none => false
  | .sqlite, some (.float .nan) => false
  | .sqlite, some _ => true

/-- `V007`: the first key that a duplicate order with a final status lacks. -/
def metadata_contract_trigger (database : DatabaseKind) (record : ChildCase) : Option PyErr :=
  if record.intent = some .DUPLICATE_PO ∧ record.final_status ≠ none then
    (CONTRACT_KEYS.find? fun key => !holds_key database record.resolution_data.outputs key).map
      fun key => ⟨"IntegrityError",
        "metadata-contract violation: DUPLICATE_PO row missing resolution_data." ++ key⟩
  else none

/-! ## The insert -/

/-- What raises in `exception_store.create`: the key of the table, the
trigger, or anything else of the database. -/
def insert_fault (intake : Intake) (tables : Tables) (record : ChildCase) : Option PyErr :=
  if (dict.get tables.api.records record.id).isSome then
    some ⟨"IntegrityError", "UNIQUE constraint failed: exceptions.id"⟩
  else match metadata_contract_trigger intake.database record with
    | some e => some e
    | none => intake.insert_error tables record

def create_exception (intake : Intake) (record : ChildCase) : TablesM Unit := do
  let tables ← get
  match insert_fault intake tables record with
  | some e => throw (.raised e)
  | none => set { tables with api := put_record tables.api record.id record }

/-- `_persist_exception` on the database. -/
def persist_on_database (cfg : Config) (env : StepEnv) (intake : Intake)
    (tenant_id trace_id : String) (state : GraphState) : TablesM String := do
  let resolution_data ← lift_tables (resolution_data_of state)
  let case ← materialise_for_event cfg env intake tenant_id state.event state.final_status
    state.intent
  let record := record_of env tenant_id trace_id case resolution_data state
  create_exception intake record
  let composed ← lift_tables (env.compose_record record)
  on_api (modify (store_trace env.new_id (with_audit_gap composed (trace_data_of trace_id state))))
  return env.new_id

/-! ## Which rows are stored -/

/-- The run leaves one more row, under the new id. -/
def StoresOneRow (env : StepEnv) (t t' : Tables) : Prop :=
  ∃ record : ChildCase, t'.api.records = t.api.records ++ [(env.new_id, record)]

/-- A duplicate order that is over carries the keys of its contract. -/
def KeepsContract (database : DatabaseKind) (fin : GraphState) : Prop :=
  fin.intent = .DUPLICATE_PO → fin.final_status ≠ none →
    ∀ key ∈ CONTRACT_KEYS, holds_key database fin.outputs key = true

/-- Nothing but the contract stands against the row: the line items of the
event can be read, its case is found or opened, and the database itself takes
the insert. -/
def Insertable (cfg : Config) (env : StepEnv) (intake : Intake) (tenant trace : String)
    (fin : GraphState) (t : Tables) : Prop :=
  dict.get t.api.records env.new_id = none ∧
    ∃ data case t₁, resolution_data_of fin = .ok data ∧
      materialise_for_event cfg env intake tenant fin.event fin.final_status fin.intent t =
        .ok case t₁ ∧
      intake.insert_error t₁ (record_of env tenant trace case data fin) = none

section persist

variable {cfg : Config} {env : StepEnv} {intake : Intake} {tenant trace : String}
  {fin : GraphState} {t t₁ : Tables} {case : OrderCase} {data : ResolutionData}

theorem resolution_data_outputs (h : resolution_data_of fin = .ok data) {key : String}
    (hkey : key ≠ "line_items") : dict.get data.outputs key = dict.get fin.outputs key := by
  unfold resolution_data_of at h
  dsimp only at h
  split at h
  · cases h
    rfl
  · rcases hlines : project_line_items fin.event with e | lines
    · rw [error_bind hlines] at h
      cases h
    · rw [ok_bind hlines] at h
      cases h
      exact dict.get_set_of_ne _ _ hkey

theorem trigger_iff (hdata : resolution_data_of fin = .ok data) :
    metadata_contract_trigger intake.database (record_of env tenant trace case data fin) = none ↔
      KeepsContract intake.database fin := by
  have hholds : ∀ key ∈ CONTRACT_KEYS, holds_key intake.database data.outputs key =
      holds_key intake.database fin.outputs key := by
    intro key hkey
    unfold holds_key
    rw [resolution_data_outputs hdata (by rintro rfl; revert hkey; decide)]
  unfold metadata_contract_trigger KeepsContract
  by_cases hover : fin.intent = .DUPLICATE_PO ∧ fin.final_status ≠ none
  · rw [if_pos ⟨congrArg some hover.1, hover.2⟩, Option.map_eq_none_iff, List.find?_eq_none]
    constructor
    · intro h _ _ key hkey
      rw [← hholds key hkey]
      have hfound := h key hkey
      simp only [record_of, Bool.not_eq_true', Bool.not_eq_false] at hfound
      exact hfound
    · intro h key hkey
      have hkeep := h hover.1 hover.2 key hkey
      rw [← hholds key hkey] at hkeep
      simp only [record_of, hkeep, Bool.not_true, Bool.false_eq_true, not_false_eq_true]
  · rw [if_neg fun h => hover ⟨Option.some.inj h.1, h.2⟩]
    exact ⟨fun _ hdup hfinal => absurd ⟨hdup, hfinal⟩ hover, fun _ => rfl⟩

theorem insert_fault_iff (hdata : resolution_data_of fin = .ok data)
    (hrecords : t₁.api.records = t.api.records) :
    insert_fault intake t₁ (record_of env tenant trace case data fin) = none ↔
      dict.get t.api.records env.new_id = none ∧ KeepsContract intake.database fin ∧
        intake.insert_error t₁ (record_of env tenant trace case data fin) = none := by
  have hid : (record_of env tenant trace case data fin).id = env.new_id := rfl
  unfold insert_fault
  rw [hid, hrecords, ← trigger_iff hdata]
  by_cases hfresh : dict.get t.api.records env.new_id = none
  · rw [if_neg (by simp [hfresh])]
    rcases metadata_contract_trigger intake.database (record_of env tenant trace case data fin) with
      _ | e
    · simp [hfresh]
    · simp
  · rw [if_pos (by simpa [Option.isSome_iff_ne_none] using hfresh)]
    simp [hfresh]

theorem no_row_stored {t' : Tables} (h : t'.api.records = t.api.records) :
    ¬ StoresOneRow env t t' := by
  rintro ⟨record, hrow⟩
  rw [h] at hrow
  simpa using congrArg List.length hrow

/-- Where a run is once its insert is through. -/
theorem create_exception_ends (cfg : Config) (tenant trace : String)
    (hmat : materialise_for_event cfg env intake tenant fin.event fin.final_status fin.intent t =
      .ok case t₁) (hdata : resolution_data_of fin = .ok data) :
    let record := record_of env tenant trace case data fin
    let t' := endState (persist_on_database cfg env intake tenant trace fin t)
    match insert_fault intake t₁ record with
    | some _ => t' = t₁
    | none => t'.api.records = dict.set t₁.api.records env.new_id record := by
  intro record t'
  have hwp : wp (persist_on_database cfg env intake tenant trace fin)
      (fun _ t' => match insert_fault intake t₁ record with
        | some _ => t' = t₁
        | none => t'.api.records = dict.set t₁.api.records env.new_id record)
      (fun _ t' => match insert_fault intake t₁ record with
        | some _ => t' = t₁
        | none => t'.api.records = dict.set t₁.api.records env.new_id record) t := by
    unfold persist_on_database
    rw [wp_bind]
    refine wp_lift_tables (fun data' hdata' => ?_) fun e he => ?_
    swap
    · cases hdata.symm.trans he
    cases hdata.symm.trans hdata'
    rw [wp_bind]
    refine wp_of_ok hmat ?_
    dsimp only
    unfold create_exception
    rw [wp_bind, wp_bind, wp_get]
    rcases hfault : insert_fault intake t₁ record with _ | e
    · dsimp only
      simp only [wp_set, wp_bind]
      refine wp_lift_tables (fun composed _ => ?_) fun _ _ => rfl
      simp only [on_api, wp_zoom, wp_modify, wp_pure]
      rfl
    · exact rfl
  exact wp_end hwp

theorem unready_run_stores_nothing (h : ¬ ∃ data case t₁, resolution_data_of fin = .ok data ∧
      materialise_for_event cfg env intake tenant fin.event fin.final_status fin.intent t =
        .ok case t₁) :
    (endState (persist_on_database cfg env intake tenant trace fin t)).api.records =
      t.api.records := by
  refine wp_end (P := fun t' : Tables => t'.api.records = t.api.records) ?_
  unfold persist_on_database
  rw [wp_bind]
  refine wp_lift_tables (fun data hdata => ?_) fun _ _ => rfl
  rw [wp_bind]
  refine wp_intro (fun case t₁ hmat => absurd ⟨data, case, t₁, hdata, hmat⟩ h) fun e t₁ hraise => ?_
  have hkept := wp_error materialise_for_event_cases hraise
  exact hkept

/-- What a stored row tells: nothing stood against it. -/
theorem stored_row_was_ready
    (h : StoresOneRow env t (endState (persist_on_database cfg env intake tenant trace fin t))) :
    Insertable cfg env intake tenant trace fin t ∧ KeepsContract intake.database fin := by
  by_cases hready : ∃ data case t₁, resolution_data_of fin = .ok data ∧
      materialise_for_event cfg env intake tenant fin.event fin.final_status fin.intent t =
        .ok case t₁
  swap
  · exact absurd h (no_row_stored (unready_run_stores_nothing hready))
  obtain ⟨data, case, t₁, hdata, hmat⟩ := hready
  have hrecords := (wp_ok materialise_for_event_cases hmat).records
  have hends := create_exception_ends cfg tenant trace hmat hdata
  dsimp only at hends
  rcases hfault : insert_fault intake t₁ (record_of env tenant trace case data fin) with _ | e
  · obtain ⟨hfresh, hkeeps, hinsert⟩ := (insert_fault_iff hdata hrecords).mp hfault
    exact ⟨⟨hfresh, data, case, t₁, hdata, hmat, hinsert⟩, hkeeps⟩
  · rw [hfault] at hends
    exact absurd h (no_row_stored (by rw [hends, hrecords]))

theorem ready_row_is_stored (hready : Insertable cfg env intake tenant trace fin t)
    (hkeeps : KeepsContract intake.database fin) :
    StoresOneRow env t (endState (persist_on_database cfg env intake tenant trace fin t)) := by
  obtain ⟨hfresh, data, case, t₁, hdata, hmat, hinsert⟩ := hready
  have hrecords := (wp_ok materialise_for_event_cases hmat).records
  have hends := create_exception_ends cfg tenant trace hmat hdata
  dsimp only at hends
  rw [(insert_fault_iff hdata hrecords).mpr ⟨hfresh, hkeeps, hinsert⟩] at hends
  dsimp only at hends
  rw [hrecords, dict.set_of_none _ hfresh] at hends
  exact ⟨_, hends⟩

/-- `_persist_exception` stores exactly one row when nothing else stands
against it and the metadata contract holds, and only then. -/
theorem a_row_is_stored_iff_the_contract_holds (cfg : Config) (env : StepEnv) (intake : Intake)
    (tenant trace : String) (fin : GraphState) (t : Tables) :
    StoresOneRow env t (endState (persist_on_database cfg env intake tenant trace fin t)) ↔
      Insertable cfg env intake tenant trace fin t ∧ KeepsContract intake.database fin := by
  constructor
  · exact stored_row_was_ready
  · rintro ⟨hready, hkeeps⟩
    exact ready_row_is_stored hready hkeeps

end persist

/-! ## A duplicate order above the breaker's limit -/

def costlyDuplicate : OrderEvent :=
  { sampleEvent with event_type := "DUPLICATE", po_price := .fin 20001, sap_base_price := .fin 1 }

/-- A database that takes every row which its trigger lets pass. -/
def sampleIntake : Intake where
  database := .sqlite
  new_case_id := "C1"
  upper := id
  email_supergroup _ := none
  bind_text v :=
    match v with
    | .str s => .ok s
    | _ => .error ⟨"ProgrammingError", "Error binding parameter"⟩
  insert_error _ _ := none

/-- The breaker halts the run, and the record of it is lost. -/
theorem a_costly_duplicate_is_lost :
    wp (run_graph (sampleRun 100) none { event := costlyDuplicate })
      (fun fin _ => fin.final_status = some .FAIL_TO_HUMAN ∧
        ¬ StoresOneRow (sampleEnv (sampleRun 100)) {}
          (endState (persist_on_database databaseConfig (sampleEnv (sampleRun 100)) sampleIntake
            "T1" (run_trace_id (sampleEnv (sampleRun 100)) fin) fin {})))
      (fun _ _ => False) {} := by
  have hlost : wp (run_graph (sampleRun 100) none { event := costlyDuplicate })
      (fun fin _ => fin.final_status = some .FAIL_TO_HUMAN ∧
        (endState (persist_on_database databaseConfig (sampleEnv (sampleRun 100)) sampleIntake
          "T1" (run_trace_id (sampleEnv (sampleRun 100)) fin) fin {})).api.records = [])
      (fun _ _ => False) {} := by
    decide +kernel
  refine wp_mono hlost ?_ fun _ _ h => h
  rintro fin ext' ⟨hfinal, hrecords⟩
  exact ⟨hfinal, no_row_stored hrecords⟩

end asoe
