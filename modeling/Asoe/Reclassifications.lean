-- The classification events. A call that changes the supergroup of a case, or
-- the supergroup or intent of a record under a case, appends one event and
-- writes its fields, or raises and changes nothing: on the database always,
-- in memory exactly when the event is one that the event model accepts.
import Asoe.CaseUpdates

namespace asoe

open py prog runs keyindex

/-! ## The fields of a record -/

/-- The fields that are given to `update` of a record. `rest` assigns those
that no classification reads. -/
structure RecordFields where
  supergroup_code : Option (Option String) := none
  intent_code : Option (Option String) := none
  divergence_reason : Option (Option String) := none
  parent_case_id : Option (Option String) := none
  rest : ChildCase → ChildCase := id

namespace RecordFields

/-- The record with the fields that are given. -/
def apply (fields : RecordFields) (now : String) (record : ChildCase) : ChildCase :=
  { fields.rest record with
    id := record.id
    tenant_id := record.tenant_id
    supergroup_code := fields.supergroup_code.getD record.supergroup_code
    intent_code := fields.intent_code.getD record.intent_code
    divergence_reason := fields.divergence_reason.getD record.divergence_reason
    parent_case_id := fields.parent_case_id.getD record.parent_case_id
    updated_at := now }

/-- `sg_changed`. -/
def MovesSupergroup (fields : RecordFields) (record : ChildCase) : Prop :=
  fields.supergroup_code.getD record.supergroup_code ≠ record.supergroup_code

/-- `sg_changed or intent_changed`. -/
def Reclassifies (fields : RecordFields) (record : ChildCase) : Prop :=
  fields.MovesSupergroup record ∨ fields.intent_code.getD record.intent_code ≠ record.intent_code

instance {fields : RecordFields} {record : ChildCase} : Decidable (fields.MovesSupergroup record) :=
  inferInstanceAs (Decidable (_ ≠ _))

instance {fields : RecordFields} {record : ChildCase} : Decidable (fields.Reclassifies record) :=
  inferInstanceAs (Decidable (_ ∨ _))

/-- The case that the record is under once it is reclassified, which is where
its event belongs. -/
def noted_under (fields : RecordFields) (now : String) (record : ChildCase) : Option String :=
  if fields.Reclassifies record then (fields.apply now record).parent else none

/-- The tests that `update` of a record makes before it writes; `store` is the
class that its messages name. -/
def validate (store id : String) (fields : RecordFields) (author : Attribution)
    (record : ChildCase) : Except PyErr Unit :=
  if fields.MovesSupergroup record ∧ fields.supergroup_code.getD record.supergroup_code = none then
    .error ⟨"ValueError", store ++ ".update(exception_id=" ++ id ++ "): cannot reclassify "
      ++ "supergroup_code to NULL (unclassifying is not a valid transition; requirements §8.6)."⟩
  else if fields.Reclassifies record ∧ ¬ author.Named then
    .error ⟨"ValueError", store ++ ".update(exception_id=" ++ id ++ ") changes supergroup_code or "
      ++ "intent_code but did not supply classified_by + classifier_type; every "
      ++ "reclassification must be attributable (requirements §8.6)."⟩
  else .ok ()

end RecordFields

/-- The record that `get` gives to a tenant. -/
def of_tenant (tenant_id : String) (record : Option ChildCase) : Option ChildCase :=
  record.filter fun record => record.tenant_id = tenant_id

/-! ## In memory -/

/-- `case_store` and `exception_store`. -/
structure MemoryStores where
  cases : CaseStore := {}
  records : List (String × ChildCase) := []
  deriving DecidableEq

/-- A program on the case store. -/
def on_cases {α : Type} (x : EStateM PyErr CaseStore α) : EStateM PyErr MemoryStores α :=
  zoom MemoryStores.cases (fun cases stores => { stores with cases := cases }) x

/-- A part that raises without reading the state. -/
def raise_or {σ α : Type} (r : Except PyErr α) : EStateM PyErr σ α := MonadExcept.ofExcept r

namespace CaseStore

def update (call : UpdateCall) : EStateM PyErr CaseStore OrderCase := do
  let store ← get
  match dict.get store.cases call.case_id with
  | none => throw ⟨"KeyError", "Unknown case_id: " ++ call.case_id⟩
  | some existing =>
    raise_or (validate_update call.case_id call.fields call.author existing)
    let updated := call.fields.apply existing
    set { store with cases := dict.set store.cases call.case_id updated }
    if call.fields.Reclassifies existing then
      record_classification_locked
        ⟨call.case_id, updated.supergroup_code.getD "", call.intent_code_classification,
          call.author.classified_by.getD "", call.author.classifier_type.getD "", none⟩
    return updated

def record_classification (event : Classification) : EStateM PyErr CaseStore Unit := do
  let store ← get
  require (dict.get store.cases event.case_id).isSome
    ⟨"KeyError", "Unknown case_id: " ++ event.case_id⟩
  record_classification_locked event

def not_in_memory (case_id : String) : PyErr :=
  ⟨"KeyError", "_record_for_child: case_id " ++ py.reprStr case_id ++ " not in the in-memory "
    ++ "CaseStore. The in-memory path requires the case to be present; the DB-backed path writes "
    ++ "to case_classification_history directly and must not reach this method."⟩

/-- `_record_for_child`: the event model takes no missing supergroup. -/
def record_for_child (case_id : String) (child : ChildCase) (author : Attribution) :
    EStateM PyErr CaseStore Unit := do
  let store ← get
  require (dict.get store.cases case_id).isSome (not_in_memory case_id)
  match child.supergroup_code with
  | none => throw ⟨"ValidationError", "validation error for ClassificationEvent"⟩
  | some code =>
    record_classification_locked
      ⟨case_id, code, child.intent_code, author.classified_by.getD "",
        author.classifier_type.getD "", some child.id⟩

end CaseStore

/-- `ExceptionStore.update`. The fields are assigned before the event is
built. -/
def ExceptionStore.update (id tenant_id now : String) (fields : RecordFields)
    (author : Attribution) : EStateM PyErr MemoryStores (Option ChildCase) := do
  let stores ← get
  match of_tenant tenant_id (dict.get stores.records id) with
  | none => return none
  | some record =>
    raise_or (fields.validate "ExceptionStore" id author record)
    let updated := fields.apply now record
    set { stores with records := dict.set stores.records id updated }
    match fields.noted_under now record with
    | some case_id => on_cases (CaseStore.record_for_child case_id updated author)
    | none => pure ()
    return some updated

/-! ## On the database -/

/-- What the constraints of the database raise on a row of each kind. -/
structure RowChecks where
  case_row : OrderCase → List ClassificationEvent → Option PyErr
  record_row : Tables → ChildCase → Option PyErr

def DatabaseBackedCaseStore.update (checks : RowChecks) (call : UpdateCall) (tables : Tables) :
    Except PyErr (Tables × Unit) := do
  let existing ← call.read tables
  let tables ← call.write checks.case_row existing tables
  return (tables, ())

def DatabaseBackedCaseStore.record_classification (event : Classification) (tables : Tables) :
    Except PyErr (Tables × Unit) :=
  match dict.get tables.api.cases event.case_id with
  | none => .error ⟨"KeyError", "Unknown case_id: " ++ event.case_id⟩
  | some case => do
    let history ← create_classification
      ⟨case.tenant_id, event.case_id, event.supergroup_code, event.intent_code,
        event.classified_by, event.classifier_type, event.child_case_id⟩
      tables.case_classification_history
    return ({ tables with case_classification_history := history }, ())

namespace DatabaseBackedStore

/-- The event of a record that is reclassified under a case. -/
def audit (tenant_id now : String) (fields : RecordFields) (author : Attribution)
    (record updated : ChildCase) (tables : Tables) : Except PyErr (List ClassificationEvent) :=
  match fields.noted_under now record with
  | none => .ok tables.case_classification_history
  | some case_id => do
    let history ← create_classification
      ⟨tenant_id, case_id, updated.supergroup_code.getD "", updated.intent_code,
        author.classified_by.getD "", author.classifier_type.getD "", some updated.id⟩
      tables.case_classification_history
    if (dict.get tables.api.cases case_id).isNone then
      throw ⟨"IntegrityError", "FOREIGN KEY constraint failed"⟩
    else return history

/-- `DatabaseBackedStore.update`: the row and its event in one transaction. -/
def update (checks : RowChecks) (id tenant_id now : String) (fields : RecordFields)
    (author : Attribution) (tables : Tables) : Except PyErr (Tables × Option ChildCase) :=
  match of_tenant tenant_id (dict.get tables.api.records id) with
  | none => .ok (tables, none)
  | some record => do
    fields.validate "DatabaseBackedStore" id author record
    let updated := fields.apply now record
    match checks.record_row tables updated with
    | some e => throw e
    | none =>
      let history ← audit tenant_id now fields author record updated tables
      return ({ tables with
        api := { tables.api with records := dict.set tables.api.records id updated }
        case_classification_history := history }, some updated)

end DatabaseBackedStore

/-! ## What a call has to do -/

/-- A call that classifies. -/
inductive StoreCall where
  | lookup_or_create (event : InboundEvent) (new_case_id : String)
  | update_case (call : UpdateCall)
  | update_record (id tenant_id now : String) (fields : RecordFields) (author : Attribution)
  | record_classification (event : Classification)

/-- The cases, the records, and the history of each case. -/
@[ext]
structure ClassifiedRows where
  cases : List (String × OrderCase)
  records : List (String × ChildCase)
  events : String → List Classification

/-- `_event_from_row`. -/
def event_from_row (row : ClassificationEvent) : Classification :=
  ⟨row.case_id, row.supergroup_code, row.intent_code, row.classified_by, row.classifier_type,
    row.child_case_id⟩

/-- The history of a case, oldest first. -/
def events_of (rows : List ClassificationEvent) (case_id : String) : List Classification :=
  (rows.filter fun row => row.case_id = case_id).map event_from_row

def MemoryStores.classified (stores : MemoryStores) : ClassifiedRows where
  cases := stores.cases.cases
  records := stores.records
  events case_id := (dict.get stores.cases.history case_id).getD []

def Tables.classified (tables : Tables) : ClassifiedRows where
  cases := tables.api.cases
  records := tables.api.records
  events := events_of tables.case_classification_history

/-- The event is appended to the history of its case, and nothing else is. -/
def Notes (v v' : ClassifiedRows) (event : Classification) : Prop :=
  ∀ case_id, v'.events case_id =
    v.events case_id ++ if event.case_id = case_id then [event] else []

/-- A call that returned has written all its fields, and has appended one
event with the new values and their author exactly when it reclassified. -/
def StoreCall.Done (v v' : ClassifiedRows) : StoreCall → Prop
  | .lookup_or_create event new_case_id => v'.records = v.records ∧
      (v'.cases = v.cases ∧ v'.events = v.events ∨
        v'.cases = dict.set v.cases new_case_id (event.order_case new_case_id) ∧
        match event.supergroup_code with
        | some code => Notes v v' ⟨new_case_id, code, event.intent_code, event.classified_by,
            event.classifier_type, none⟩
        | none => v'.events = v.events)
  | .update_case call => v'.records = v.records ∧
      ∃ case, dict.get v.cases call.case_id = some case ∧
        v'.cases = dict.set v.cases call.case_id (call.fields.apply case) ∧
        if call.fields.Reclassifies case then
          ∃ code, (call.fields.apply case).supergroup_code = some code ∧
            Notes v v' ⟨call.case_id, code, call.intent_code_classification,
              call.author.classified_by.getD "", call.author.classifier_type.getD "", none⟩
        else v'.events = v.events
  | .update_record id tenant_id now fields author => v'.cases = v.cases ∧
      match of_tenant tenant_id (dict.get v.records id) with
      | none => v'.records = v.records ∧ v'.events = v.events
      | some record => v'.records = dict.set v.records id (fields.apply now record) ∧
        match fields.noted_under now record with
        | none => v'.events = v.events
        | some case_id =>
          ∃ code, (fields.apply now record).supergroup_code = some code ∧
            Notes v v' ⟨case_id, code, (fields.apply now record).intent_code,
              author.classified_by.getD "", author.classifier_type.getD "", some record.id⟩
  | .record_classification event =>
      v'.cases = v.cases ∧ v'.records = v.records ∧ Notes v v' event

/-- A call is done, or it raised and left all as it was. -/
def StoreCall.Atomic {ε σ : Type} (view : σ → ClassifiedRows) (call : StoreCall) (s : σ) :
    EStateM.Result ε σ Unit → Prop
  | .ok _ s' => call.Done (view s) (view s')
  | .error _ s' => view s' = view s

/-- The call on the stores in memory. -/
def StoreCall.in_memory : StoreCall → EStateM PyErr MemoryStores Unit
  | .lookup_or_create event new_case_id => do
    let _ ← on_cases (CaseStore.lookup_or_create new_case_id event)
  | .update_case call => do
    let _ ← on_cases (CaseStore.update call)
  | .update_record id tenant_id now fields author => do
    let _ ← ExceptionStore.update id tenant_id now fields author
  | .record_classification event => on_cases (CaseStore.record_classification event)

/-- The call on the database. -/
def StoreCall.on_database (db : CaseDatabase) (checks : RowChecks) :
    StoreCall → EStateM PyErr Tables Unit
  | .lookup_or_create event new_case_id => do
    let _ ← transaction (DatabaseBackedCaseStore.lookup_or_create db new_case_id event)
  | .update_case call => do
    let _ ← transaction (DatabaseBackedCaseStore.update checks call)
  | .update_record id tenant_id now fields author => do
    let _ ← transaction (DatabaseBackedStore.update checks id tenant_id now fields author)
  | .record_classification event => do
    let _ ← transaction (DatabaseBackedCaseStore.record_classification event)

/-! ## In memory, one call -/

section memory

variable {store : CaseStore} {stores : MemoryStores}

/-- The condition under which a call in memory is done or leaves no trace: an
event that it comes to build is one that the event model accepts. -/
def StoreCall.Admissible (stores : MemoryStores) : StoreCall → Prop
  | .lookup_or_create event _ =>
    stores.cases.find_by_correlation event.tenant_id event.keys = none → event.Valid →
      event.supergroup_code ≠ none → event.classifier_type ∈ CLASSIFIER_TYPES
  | .update_case call => ∀ case, dict.get stores.cases.cases call.case_id = some case →
      validate_update call.case_id call.fields call.author case = .ok () →
      call.fields.Reclassifies case →
      (call.fields.apply case).supergroup_code ≠ none ∧
        call.author.classifier_type.getD "" ∈ CLASSIFIER_TYPES
  | .update_record id tenant_id now fields author => ∀ record,
      of_tenant tenant_id (dict.get stores.records id) =
        some record →
      fields.validate "ExceptionStore" id author record = .ok () →
      ∀ case_id, fields.noted_under now record =
        some case_id →
      dict.get stores.cases.cases case_id ≠ none ∧
        (fields.apply now record).supergroup_code ≠ none ∧
        author.classifier_type.getD "" ∈ CLASSIFIER_TYPES
  | .record_classification _ => True

/-- A store with the event in its history. -/
def CaseStore.with_event (store : CaseStore) (event : Classification) : CaseStore :=
  { store with
    history := dict.set store.history event.case_id
      ((dict.get store.history event.case_id).getD [] ++ [event]) }

theorem record_classification_locked_run (event : Classification) :
    CaseStore.record_classification_locked event store =
      if event.classifier_type ∈ CLASSIFIER_TYPES then .ok () (store.with_event event)
      else .error ⟨"ValidationError", "validation error for ClassificationEvent"⟩ store := by
  unfold CaseStore.record_classification_locked require
  by_cases h : event.classifier_type ∈ CLASSIFIER_TYPES
  · simp only [h, if_true]
    rfl
  · simp only [h, if_false]
    rfl

theorem notes_with_event (store : CaseStore) {v' : ClassifiedRows} {event : Classification}
    (h : v'.events = fun case_id => (dict.get (store.with_event event).history case_id).getD [])
    {v : ClassifiedRows} (hv : v.events = fun case_id => (dict.get store.history case_id).getD []) :
    Notes v v' event := by
  intro case_id
  rw [h, hv]
  unfold CaseStore.with_event
  by_cases hsame : case_id = event.case_id
  · subst hsame
    simp
  · simp [dict.get_set_of_ne _ _ hsame, Ne.symm hsame]

theorem update_case_run (call : UpdateCall) :
    CaseStore.update call store =
      match dict.get store.cases call.case_id with
      | none => .error ⟨"KeyError", "Unknown case_id: " ++ call.case_id⟩ store
      | some existing =>
        match validate_update call.case_id call.fields call.author existing with
        | .error e => .error e store
        | .ok () =>
          let updated := call.fields.apply existing
          let store' := { store with cases := dict.set store.cases call.case_id updated }
          if call.fields.Reclassifies existing then
            if call.author.classifier_type.getD "" ∈ CLASSIFIER_TYPES then
              .ok updated (store'.with_event
                ⟨call.case_id, updated.supergroup_code.getD "", call.intent_code_classification,
                  call.author.classified_by.getD "", call.author.classifier_type.getD "", none⟩)
            else .error ⟨"ValidationError", "validation error for ClassificationEvent"⟩ store'
          else .ok updated store' := by
  unfold CaseStore.update raise_or
  simp only [run_bind, run_get]
  rcases dict.get store.cases call.case_id with _ | existing
  · rfl
  · simp only [run_bind]
    rcases validate_update call.case_id call.fields call.author existing with e | ⟨⟩
    · rfl
    · simp only [run_set]
      by_cases hre : call.fields.Reclassifies existing
      · simp only [hre, if_true, run_bind, record_classification_locked_run]
        by_cases htype : call.author.classifier_type.getD "" ∈ CLASSIFIER_TYPES
        · simp only [htype, if_true]
          rfl
        · simp only [htype, if_false]
          rfl
      · simp only [hre, if_false]
        rfl

/-- The store with the case of an event, before its classification is noted. -/
def CaseStore.opened (store : CaseStore) (event : InboundEvent) (new_case_id : String) :
    CaseStore :=
  { store with
    cases := dict.set store.cases new_case_id (event.order_case new_case_id)
    correlation := CaseStore.register_correlations_locked event.tenant_id new_case_id event.keys
      store.correlation }

theorem lookup_or_create_run (event : InboundEvent) (new_case_id : String) :
    CaseStore.lookup_or_create new_case_id event store =
      match store.find_by_correlation event.tenant_id event.keys with
      | some existing => .ok (existing, false) { store with
          correlation := CaseStore.register_correlations_locked event.tenant_id existing.case_id
            event.keys store.correlation }
      | none =>
        if event.Valid then
          match event.supergroup_code with
          | none => .ok (event.order_case new_case_id, true) (store.opened event new_case_id)
          | some code =>
            if event.classifier_type ∈ CLASSIFIER_TYPES then
              .ok (event.order_case new_case_id, true)
                ((store.opened event new_case_id).with_event
                  ⟨new_case_id, code, event.intent_code, event.classified_by,
                    event.classifier_type, none⟩)
            else
              .error ⟨"ValidationError", "validation error for ClassificationEvent"⟩
                (store.opened event new_case_id)
        else .error ⟨"ValidationError", "validation error for OrderCase"⟩ store := by
  unfold CaseStore.lookup_or_create
  simp only [run_bind, run_get]
  rcases store.find_by_correlation event.tenant_id event.keys with _ | existing
  · unfold CaseStore.attach_or_open require
    by_cases hvalid : event.Valid
    · simp only [hvalid, if_true, run_bind, run_modify]
      rcases event.supergroup_code with _ | code
      · rfl
      · simp only [run_bind, record_classification_locked_run]
        by_cases htype : event.classifier_type ∈ CLASSIFIER_TYPES
        · simp only [htype, if_true]
          rfl
        · simp only [htype, if_false]
          rfl
    · simp only [hvalid, if_false]
      rfl
  · rfl

theorem record_for_child_run (case_id : String) (child : ChildCase) (author : Attribution) :
    CaseStore.record_for_child case_id child author store =
      if (dict.get store.cases case_id).isSome then
        match child.supergroup_code with
        | none => .error ⟨"ValidationError", "validation error for ClassificationEvent"⟩ store
        | some code =>
          if author.classifier_type.getD "" ∈ CLASSIFIER_TYPES then
            .ok () (store.with_event ⟨case_id, code, child.intent_code,
              author.classified_by.getD "", author.classifier_type.getD "", some child.id⟩)
          else .error ⟨"ValidationError", "validation error for ClassificationEvent"⟩ store
      else .error (CaseStore.not_in_memory case_id) store := by
  unfold CaseStore.record_for_child require
  simp only [run_bind, run_get]
  by_cases hcase : (dict.get store.cases case_id).isSome = true
  · simp only [hcase, if_true]
    rcases child.supergroup_code with _ | code
    · rfl
    · exact record_classification_locked_run _
  · simp only [hcase]
    rfl

theorem memory_update_case_atomic (call : UpdateCall) :
    (StoreCall.update_case call).Atomic MemoryStores.classified stores
        ((StoreCall.update_case call).in_memory stores) ↔
      (StoreCall.update_case call).Admissible stores := by
  unfold StoreCall.in_memory on_cases
  simp only [run_bind, run_zoom, update_case_run]
  unfold StoreCall.Admissible
  rcases hcase : dict.get stores.cases.cases call.case_id with _ | case
  · refine ⟨fun _ case h => ?_, fun _ => rfl⟩
    cases hcase.symm.trans h
  dsimp only
  rcases hvalid : validate_update call.case_id call.fields call.author case with e | ⟨⟩
  · refine ⟨fun _ case' h hok => ?_, fun _ => rfl⟩
    cases hcase.symm.trans h
    cases hvalid.symm.trans hok
  dsimp only
  by_cases hre : call.fields.Reclassifies case
  · rw [if_pos hre]
    by_cases htype : call.author.classifier_type.getD "" ∈ CLASSIFIER_TYPES
    · rw [if_pos htype]
      constructor
      · rintro ⟨-, case', hcase', -, hevents⟩ case'' h - -
        cases hcase.symm.trans h
        cases hcase.symm.trans hcase'
        rw [if_pos hre] at hevents
        obtain ⟨code, hcode, -⟩ := hevents
        exact ⟨by rw [hcode]; simp, htype⟩
      · intro hadmissible
        obtain ⟨hset, -⟩ := hadmissible case hcase hvalid hre
        obtain ⟨code, hcode⟩ := Option.ne_none_iff_exists'.mp hset
        refine ⟨rfl, case, hcase, rfl, ?_⟩
        rw [if_pos hre]
        refine ⟨code, hcode, notes_with_event stores.cases ?_ rfl⟩
        rw [hcode]
        rfl
    · rw [if_neg htype]
      constructor
      · -- The case was written before the event was refused.
        intro hsame
        have hcases := congrArg (fun v => dict.get v.cases call.case_id) hsame
        simp only [MemoryStores.classified, dict.get_set_self, hcase, Option.some.injEq] at hcases
        exact absurd (congrArg OrderCase.supergroup_code hcases) hre
      · intro hadmissible
        exact absurd (hadmissible case hcase hvalid hre).2 htype
  · rw [if_neg hre]
    refine ⟨fun _ case' h _ hre' => ?_, fun _ => ⟨rfl, case, hcase, rfl, ?_⟩⟩
    · cases hcase.symm.trans h
      exact absurd hre' hre
    · rw [if_neg hre]
      rfl

theorem memory_record_classification_atomic (event : Classification) :
    (StoreCall.record_classification event).Atomic MemoryStores.classified stores
      ((StoreCall.record_classification event).in_memory stores) := by
  unfold StoreCall.in_memory on_cases CaseStore.record_classification require
  simp only [run_bind, run_zoom, run_get]
  by_cases hcase : (dict.get stores.cases.cases event.case_id).isSome = true
  · simp only [hcase, if_true]
    rw [show (pure () : EStateM PyErr CaseStore Unit) stores.cases = .ok () stores.cases from rfl]
    dsimp only
    rw [record_classification_locked_run]
    by_cases htype : event.classifier_type ∈ CLASSIFIER_TYPES
    · rw [if_pos htype]
      exact ⟨rfl, rfl, notes_with_event stores.cases rfl rfl⟩
    · rw [if_neg htype]
      rfl
  · simp only [hcase]
    rfl

theorem memory_lookup_done (event : InboundEvent) (new_case_id : String)
    (hadmissible : (StoreCall.lookup_or_create event new_case_id).Admissible stores) :
    (StoreCall.lookup_or_create event new_case_id).Atomic MemoryStores.classified stores
      ((StoreCall.lookup_or_create event new_case_id).in_memory stores) := by
  unfold StoreCall.Admissible at hadmissible
  unfold StoreCall.in_memory on_cases
  simp only [run_bind, run_zoom, lookup_or_create_run]
  rcases hfind : stores.cases.find_by_correlation event.tenant_id event.keys with _ | existing
  swap
  · exact ⟨rfl, Or.inl ⟨rfl, rfl⟩⟩
  dsimp only
  by_cases hvalid : event.Valid
  swap
  · rw [if_neg hvalid]
    rfl
  rw [if_pos hvalid]
  rcases hcode : event.supergroup_code with _ | code
  · refine ⟨rfl, Or.inr ⟨rfl, ?_⟩⟩
    rw [hcode]
    rfl
  · dsimp only
    rw [if_pos (hadmissible hfind hvalid (by simp [hcode]))]
    refine ⟨rfl, Or.inr ⟨rfl, ?_⟩⟩
    rw [hcode]
    exact notes_with_event (stores.cases.opened event new_case_id) rfl rfl

theorem memory_lookup_admissible (event : InboundEvent) (new_case_id : String)
    (hnew : dict.get stores.cases.cases new_case_id = none)
    (hatomic : (StoreCall.lookup_or_create event new_case_id).Atomic MemoryStores.classified
      stores ((StoreCall.lookup_or_create event new_case_id).in_memory stores)) :
    (StoreCall.lookup_or_create event new_case_id).Admissible stores := by
  intro hfind hvalid hset
  obtain ⟨code, hcode⟩ := Option.ne_none_iff_exists'.mp hset
  unfold StoreCall.in_memory on_cases at hatomic
  simp only [run_bind, run_zoom, lookup_or_create_run, hfind, hcode, if_pos hvalid] at hatomic
  by_contra htype
  rw [if_neg htype] at hatomic
  -- The case is there, and the event of its classification is not.
  have hcases := congrArg (fun v => dict.get v.cases new_case_id) hatomic
  simp [MemoryStores.classified, CaseStore.opened, hnew] at hcases

theorem reclassified_is_new {fields : RecordFields} {now : String} {record : ChildCase}
    (hre : fields.Reclassifies record) : fields.apply now record ≠ record := by
  intro hsame
  rcases hre with hmoved | hintent
  · exact hmoved (congrArg ChildCase.supergroup_code hsame)
  · exact hintent (congrArg ChildCase.intent_code hsame)

theorem reclassifies_of_noted {fields : RecordFields} {now : String} {record : ChildCase}
    {case_id : String} (h : fields.noted_under now record = some case_id) :
    fields.Reclassifies record := by
  unfold RecordFields.noted_under at h
  split at h
  · assumption
  · cases h

theorem update_record_run (id tenant_id now : String) (fields : RecordFields)
    (author : Attribution) :
    ExceptionStore.update id tenant_id now fields author stores =
      match of_tenant tenant_id (dict.get stores.records id) with
      | none => .ok none stores
      | some record =>
        match fields.validate "ExceptionStore" id author record with
        | .error e => .error e stores
        | .ok () =>
          let updated := fields.apply now record
          let stores' := { stores with records := dict.set stores.records id updated }
          match fields.noted_under now record with
          | none => .ok (some updated) stores'
          | some case_id =>
            match CaseStore.record_for_child case_id updated author stores.cases with
            | .ok _ cases => .ok (some updated) { stores' with cases := cases }
            | .error e cases => .error e { stores' with cases := cases } := by
  unfold ExceptionStore.update raise_or on_cases
  simp only [run_bind, run_get]
  rcases of_tenant tenant_id (dict.get stores.records id) with _ | record
  · rfl
  · simp only [run_bind]
    rcases fields.validate "ExceptionStore" id author record with e | ⟨⟩
    · rfl
    · simp only [run_set]
      rcases fields.noted_under now record with _ | case_id
      · rfl
      · simp only [run_bind, run_zoom]
        rcases CaseStore.record_for_child case_id (fields.apply now record) author stores.cases with
          ⟨a, cases⟩ | ⟨e, cases⟩
        · rfl
        · rfl

theorem memory_update_record_atomic (id tenant_id now : String) (fields : RecordFields)
    (author : Attribution) :
    (StoreCall.update_record id tenant_id now fields author).Atomic MemoryStores.classified stores
        ((StoreCall.update_record id tenant_id now fields author).in_memory stores) ↔
      (StoreCall.update_record id tenant_id now fields author).Admissible stores := by
  unfold StoreCall.in_memory
  simp only [run_bind, update_record_run]
  unfold StoreCall.Admissible
  rcases hfound : of_tenant tenant_id (dict.get stores.records id) with _ | record
  · refine ⟨fun _ record h => ?_, fun _ => ⟨rfl, ?_⟩⟩
    · cases hfound.symm.trans h
    · dsimp only [MemoryStores.classified]
      rw [hfound]
      exact ⟨rfl, rfl⟩
  dsimp only
  have hrecord : dict.get stores.records id = some record := by
    unfold of_tenant at hfound
    rw [Option.filter_eq_some_iff] at hfound
    exact hfound.1
  rcases hvalid : fields.validate "ExceptionStore" id author record with e | ⟨⟩
  · refine ⟨fun _ record' h hok => ?_, fun _ => rfl⟩
    cases hfound.symm.trans h
    cases hvalid.symm.trans hok
  dsimp only
  rcases hnoted : fields.noted_under now record with _ | case_id
  · refine ⟨fun _ record' h _ case_id hsome => ?_, fun _ => ⟨rfl, ?_⟩⟩
    · cases hfound.symm.trans h
      cases hnoted.symm.trans hsome
    · dsimp only [MemoryStores.classified]
      rw [hfound]
      dsimp only
      rw [hnoted]
      exact ⟨rfl, rfl⟩
  dsimp only
  rw [record_for_child_run]
  -- The record was written before the event is refused.
  have hwritten : ({ stores with
      records := dict.set stores.records id (fields.apply now record) } : MemoryStores).classified ≠
        stores.classified := by
    intro hsame
    have hrecords := congrArg (fun v => dict.get v.records id) hsame
    simp only [MemoryStores.classified, dict.get_set_self, hrecord, Option.some.injEq] at hrecords
    exact reclassified_is_new (reclassifies_of_noted hnoted) hrecords
  by_cases hcase : (dict.get stores.cases.cases case_id).isSome = true
  swap
  · rw [if_neg hcase]
    refine ⟨fun hsame => absurd hsame hwritten, fun hadmissible => ?_⟩
    exact absurd (Option.isSome_iff_ne_none.mpr
      (hadmissible record hfound hvalid case_id hnoted).1) hcase
  rw [if_pos hcase]
  rcases hcode : (fields.apply now record).supergroup_code with _ | code
  · refine ⟨fun hsame => absurd hsame hwritten, fun hadmissible => ?_⟩
    exact absurd hcode (hadmissible record hfound hvalid case_id hnoted).2.1
  dsimp only
  by_cases htype : author.classifier_type.getD "" ∈ CLASSIFIER_TYPES
  · rw [if_pos htype]
    refine ⟨fun _ record' h _ case_id' hsome => ?_, fun _ => ⟨rfl, ?_⟩⟩
    · cases hfound.symm.trans h
      cases hnoted.symm.trans hsome
      exact ⟨Option.isSome_iff_ne_none.mp hcase, by rw [hcode]; simp, htype⟩
    · dsimp only [MemoryStores.classified]
      rw [hfound]
      dsimp only
      rw [hnoted]
      exact ⟨rfl, code, hcode, notes_with_event stores.cases rfl rfl⟩
  · rw [if_neg htype]
    refine ⟨fun hsame => absurd hsame hwritten, fun hadmissible => ?_⟩
    exact absurd (hadmissible record hfound hvalid case_id hnoted).2.2 htype

end memory

/-! ## On the database, one call -/

section database

variable {db : CaseDatabase} {checks : RowChecks} {tables : Tables}

theorem create_classification_noted {event : ClassificationEvent}
    {rows : List ClassificationEvent} :
    returns (create_classification event rows) fun rows' =>
      rows' = rows ++ [event] ∧ event.supergroup_code ≠ "" := by
  unfold create_classification
  refine returns_ite (fun _ => returns_error _) fun _ => ?_
  refine returns_ite (fun _ => returns_error _) fun hcode => ?_
  refine returns_ite (fun _ => returns_error _) fun _ => ?_
  rw [returns_pure]
  exact ⟨rfl, hcode⟩

theorem code_of_noted {code : Option String} (h : code.getD "" ≠ "") :
    code = some (code.getD "") := by
  rcases code with _ | code
  · exact absurd rfl h
  · rfl

theorem notes_of_row {v v' : ClassifiedRows} {rows : List ClassificationEvent}
    {row : ClassificationEvent} {event : Classification} (hv : v.events = events_of rows)
    (hv' : v'.events = events_of (rows ++ [row])) (hrow : event_from_row row = event) :
    Notes v v' event := by
  subst hrow
  intro case_id
  rw [hv, hv']
  unfold events_of
  rw [List.filter_append, List.map_append]
  by_cases hcase : row.case_id = case_id
  · simp [event_from_row, hcase]
  · simp [event_from_row, hcase]

theorem audit_noted {tenant_id now : String} {fields : RecordFields} {author : Attribution}
    {record updated : ChildCase} :
    returns (DatabaseBackedStore.audit tenant_id now fields author record updated tables)
      fun history => match fields.noted_under now record with
        | none => history = tables.case_classification_history
        | some case_id => history = tables.case_classification_history ++ [⟨tenant_id, case_id,
            updated.supergroup_code.getD "", updated.intent_code, author.classified_by.getD "",
            author.classifier_type.getD "", some updated.id⟩] ∧
            updated.supergroup_code.getD "" ≠ "" := by
  unfold DatabaseBackedStore.audit
  rcases fields.noted_under now record with _ | case_id
  · exact (returns_ok _).mpr rfl
  · refine returns_bind fun history hcreate => ?_
    refine returns_ite (fun _ => returns_error _) fun _ => (returns_pure _).mpr ?_
    exact create_classification_noted _ hcreate

/-- A transaction that writes the row that was read. -/
theorem write_done {call : UpdateCall} {existing : OrderCase}
    (hcase : dict.get tables.api.cases call.case_id = some existing) :
    returns (call.write checks.case_row existing tables) fun t' =>
      (StoreCall.update_case call).Done tables.classified t'.classified := by
  unfold UpdateCall.write
  refine returns_bind fun history haudit => ?_
  rw [hcase]
  dsimp only
  rw [if_pos rfl]
  split
  · exact returns_error _
  rw [returns_pure]
  refine ⟨rfl, existing, hcase, rfl, ?_⟩
  unfold UpdateCall.audit at haudit
  by_cases hre : call.fields.Reclassifies existing
  · rw [if_pos hre] at haudit
    obtain ⟨rfl, hset⟩ := create_classification_noted _ haudit
    rw [if_pos hre]
    rcases hgiven : call.fields.supergroup_code with _ | given
    · unfold CaseFields.Reclassifies at hre
      rw [hgiven] at hre
      exact absurd rfl hre
    · have hcode : given = some (given.getD "") := by
        apply code_of_noted
        simpa [UpdateCall.event, hgiven] using hset
      refine ⟨given.getD "", by simpa [CaseFields.apply, hgiven] using hcode, ?_⟩
      exact notes_of_row rfl rfl (by simp [event_from_row, UpdateCall.event, hgiven])
  · rw [if_neg hre] at haudit
    cases haudit
    rw [if_neg hre]
    rfl

theorem database_update_case_done (call : UpdateCall) :
    returns (DatabaseBackedCaseStore.update checks call tables) fun r =>
      (StoreCall.update_case call).Done tables.classified r.1.classified := by
  unfold DatabaseBackedCaseStore.update
  refine returns_bind fun existing hread => ?_
  refine returns_bind fun tables' hwrite => ?_
  refine (returns_pure _).mpr ?_
  exact write_done (read_cases _ hread) _ hwrite

theorem database_record_classification_done (event : Classification) :
    returns (DatabaseBackedCaseStore.record_classification event tables) fun r =>
      (StoreCall.record_classification event).Done tables.classified r.1.classified := by
  unfold DatabaseBackedCaseStore.record_classification
  split
  · exact returns_error _
  · rename_i case _
    refine returns_bind fun history hcreate => (returns_pure _).mpr ?_
    obtain ⟨rfl, -⟩ := create_classification_noted _ hcreate
    exact ⟨rfl, rfl, notes_of_row rfl rfl rfl⟩

theorem database_lookup_done (event : InboundEvent) (new_case_id : String) :
    returns (DatabaseBackedCaseStore.lookup_or_create db new_case_id event tables) fun r =>
      (StoreCall.lookup_or_create event new_case_id).Done tables.classified r.1.classified := by
  unfold DatabaseBackedCaseStore.lookup_or_create
  refine returns_bind fun existing _ => ?_
  rcases existing with _ | existing_id
  · unfold DatabaseBackedCaseStore.attach_or_open
    refine returns_ite (fun _ => returns_error _) fun _ => ?_
    refine returns_ite (fun _ => returns_error _) fun _ => ?_
    refine returns_bind fun correlation _ => ?_
    refine returns_bind fun history haudit => (returns_pure _).mpr ?_
    refine ⟨rfl, Or.inr ⟨rfl, ?_⟩⟩
    unfold DatabaseBackedCaseStore.audit_intake at haudit
    rcases hcode : event.supergroup_code with _ | code
    · rw [hcode] at haudit
      cases haudit
      rfl
    · rw [hcode] at haudit
      obtain ⟨rfl, -⟩ := create_classification_noted _ haudit
      exact notes_of_row rfl rfl rfl
  · refine returns_mono database_attach_cases fun found hfound => ?_
    rw [hfound.2.2]
    exact ⟨rfl, Or.inl ⟨rfl, rfl⟩⟩

theorem database_update_record_done (id tenant_id now : String) (fields : RecordFields)
    (author : Attribution) :
    returns (DatabaseBackedStore.update checks id tenant_id now fields author tables) fun r =>
      (StoreCall.update_record id tenant_id now fields author).Done tables.classified
        r.1.classified := by
  unfold DatabaseBackedStore.update StoreCall.Done Tables.classified
  dsimp only
  rcases of_tenant tenant_id (dict.get tables.api.records id) with _ | record
  · exact (returns_ok _).mpr ⟨rfl, rfl, rfl⟩
  refine returns_bind fun _ _ => ?_
  split
  · exact returns_error _
  refine returns_bind fun history haudit => (returns_pure _).mpr ⟨rfl, rfl, ?_⟩
  have hnoted := audit_noted _ haudit
  rcases hcase_id : fields.noted_under now record with _ | case_id
  · rw [hcase_id] at hnoted
    exact congrArg events_of hnoted
  · rw [hcase_id] at hnoted
    obtain ⟨rfl, hset⟩ := hnoted
    exact ⟨_, code_of_noted hset, notes_of_row rfl rfl rfl⟩

theorem transaction_atomic {α : Type} {f : Tables → Except PyErr (Tables × α)} {call : StoreCall}
    (h : returns (f tables) fun r => call.Done tables.classified r.1.classified) :
    call.Atomic Tables.classified tables ((do let _ ← transaction f) tables) := by
  rw [run_bind]
  unfold transaction
  rcases hf : f tables with e | r
  · rfl
  · exact h r hf

theorem database_atomic (call : StoreCall) :
    call.Atomic Tables.classified tables (call.on_database db checks tables) := by
  cases call with
  | lookup_or_create event new_case_id =>
    exact transaction_atomic (database_lookup_done event new_case_id)
  | update_case call => exact transaction_atomic (database_update_case_done call)
  | update_record id tenant_id now fields author =>
    exact transaction_atomic (database_update_record_done id tenant_id now fields author)
  | record_classification event =>
    exact transaction_atomic (database_record_classification_done event)

end database

/-! ## The history -/

/-- No event of the history changed or disappeared. -/
def Extends (v v' : ClassifiedRows) : Prop := ∀ case_id, v.events case_id <+: v'.events case_id

theorem extends_refl (v : ClassifiedRows) : Extends v v := fun _ => List.prefix_refl _

theorem extends_trans {v v' v'' : ClassifiedRows} (h : Extends v v') (h' : Extends v' v'') :
    Extends v v'' := fun case_id => (h case_id).trans (h' case_id)

theorem extends_of_same {v v' : ClassifiedRows} (h : v'.events = v.events) : Extends v v' := by
  intro case_id
  exact ⟨[], by rw [List.append_nil, h]⟩

theorem extends_of_notes {v v' : ClassifiedRows} {event : Classification}
    (h : Notes v v' event) : Extends v v' := by
  intro case_id
  rw [h case_id]
  exact List.prefix_append _ _

theorem extends_of_done {call : StoreCall} {v v' : ClassifiedRows} (h : call.Done v v') :
    Extends v v' := by
  cases call with
  | lookup_or_create event new_case_id =>
    obtain ⟨-, ⟨-, hevents⟩ | ⟨-, hevents⟩⟩ := h
    · exact extends_of_same hevents
    · split at hevents
      · exact extends_of_notes hevents
      · exact extends_of_same hevents
  | update_case call =>
    obtain ⟨-, case, -, -, hevents⟩ := h
    split at hevents
    · obtain ⟨code, -, happends⟩ := hevents
      exact extends_of_notes happends
    · exact extends_of_same hevents
  | update_record id tenant_id now fields author =>
    obtain ⟨-, hevents⟩ := h
    split at hevents
    · exact extends_of_same hevents.2
    · replace hevents := hevents.2
      split at hevents
      · exact extends_of_same hevents
      · obtain ⟨code, -, happends⟩ := hevents
        exact extends_of_notes happends
  | record_classification event => exact extends_of_notes h.2.2

theorem extends_of_atomic {ε σ : Type} {view : σ → ClassifiedRows} {call : StoreCall} {s : σ}
    {r : EStateM.Result ε σ Unit} (h : call.Atomic view s r) :
    Extends (view s) (view (endState r)) := by
  rcases r with ⟨_, s'⟩ | ⟨e, s'⟩
  · exact extends_of_done h
  · exact extends_of_same (congrArg ClassifiedRows.events h)

/-- What a call may write, also one that raises after a write. -/
def StoreCall.Writes (v v' : ClassifiedRows) : StoreCall → Prop
  | .lookup_or_create event new_case_id => v'.records = v.records ∧
      (v'.cases = v.cases ∨
        v'.cases = dict.set v.cases new_case_id (event.order_case new_case_id))
  | .update_case call => v'.records = v.records ∧
      (v'.cases = v.cases ∨ ∃ case, dict.get v.cases call.case_id = some case ∧
        v'.cases = dict.set v.cases call.case_id (call.fields.apply case))
  | .update_record id tenant_id now fields _ => v'.cases = v.cases ∧
      (v'.records = v.records ∨
        ∃ record, of_tenant tenant_id (dict.get v.records id) = some record ∧
          v'.records = dict.set v.records id (fields.apply now record))
  | .record_classification _ => v'.cases = v.cases ∧ v'.records = v.records

theorem writes_refl (call : StoreCall) (v : ClassifiedRows) : call.Writes v v := by
  cases call with
  | lookup_or_create event new_case_id => exact ⟨rfl, Or.inl rfl⟩
  | update_case call => exact ⟨rfl, Or.inl rfl⟩
  | update_record id tenant_id now fields author => exact ⟨rfl, Or.inl rfl⟩
  | record_classification event => exact ⟨rfl, rfl⟩

theorem writes_of_done {call : StoreCall} {v v' : ClassifiedRows} (h : call.Done v v') :
    call.Writes v v' := by
  cases call with
  | lookup_or_create event new_case_id =>
    obtain ⟨hrecords, ⟨hcases, -⟩ | ⟨hcases, -⟩⟩ := h
    · exact ⟨hrecords, Or.inl hcases⟩
    · exact ⟨hrecords, Or.inr hcases⟩
  | update_case call =>
    obtain ⟨hrecords, case, hcase, hcases, -⟩ := h
    exact ⟨hrecords, Or.inr ⟨case, hcase, hcases⟩⟩
  | update_record id tenant_id now fields author =>
    obtain ⟨hcases, hrecords⟩ := h
    refine ⟨hcases, ?_⟩
    split at hrecords
    · exact Or.inl hrecords.1
    · rename_i record hfound
      exact Or.inr ⟨record, hfound, hrecords.1⟩
  | record_classification event => exact ⟨h.1, h.2.1⟩

/-- The stores in memory after a call. -/
def memory_step (call : StoreCall) (stores : MemoryStores) : MemoryStores :=
  endState (call.in_memory stores)

section memory

variable {stores : MemoryStores}

/-- Also a call in memory that is not atomic writes no more than its own row,
and leaves the events that there are. -/
def StoreCall.Keeps (call : StoreCall) (stores : MemoryStores) : Prop :=
  call.Writes stores.classified (memory_step call stores).classified ∧
    Extends stores.classified (memory_step call stores).classified

theorem memory_update_case_writes (call : UpdateCall) :
    (StoreCall.update_case call).Keeps stores := by
  unfold StoreCall.Keeps memory_step StoreCall.in_memory on_cases
  simp only [run_bind, run_zoom, update_case_run]
  rcases hcase : dict.get stores.cases.cases call.case_id with _ | case
  · exact ⟨writes_refl _ _, extends_refl _⟩
  dsimp only
  rcases validate_update call.case_id call.fields call.author case with e | ⟨⟩
  · exact ⟨writes_refl _ _, extends_refl _⟩
  dsimp only
  by_cases hre : call.fields.Reclassifies case
  · rw [if_pos hre]
    by_cases htype : call.author.classifier_type.getD "" ∈ CLASSIFIER_TYPES
    · rw [if_pos htype]
      exact ⟨⟨rfl, Or.inr ⟨case, hcase, rfl⟩⟩,
        extends_of_notes (notes_with_event stores.cases rfl rfl)⟩
    · rw [if_neg htype]
      exact ⟨⟨rfl, Or.inr ⟨case, hcase, rfl⟩⟩, extends_of_same rfl⟩
  · rw [if_neg hre]
    exact ⟨⟨rfl, Or.inr ⟨case, hcase, rfl⟩⟩, extends_of_same rfl⟩

theorem memory_lookup_writes (event : InboundEvent) (new_case_id : String) :
    (StoreCall.lookup_or_create event new_case_id).Keeps stores := by
  unfold StoreCall.Keeps memory_step StoreCall.in_memory on_cases
  simp only [run_bind, run_zoom, lookup_or_create_run]
  rcases stores.cases.find_by_correlation event.tenant_id event.keys with _ | existing
  swap
  · exact ⟨⟨rfl, Or.inl rfl⟩, extends_of_same rfl⟩
  dsimp only
  by_cases hvalid : event.Valid
  · rw [if_pos hvalid]
    rcases event.supergroup_code with _ | code
    · exact ⟨⟨rfl, Or.inr rfl⟩, extends_of_same rfl⟩
    dsimp only
    by_cases htype : event.classifier_type ∈ CLASSIFIER_TYPES
    · rw [if_pos htype]
      exact ⟨⟨rfl, Or.inr rfl⟩, extends_of_notes
        (notes_with_event (stores.cases.opened event new_case_id) rfl rfl)⟩
    · rw [if_neg htype]
      exact ⟨⟨rfl, Or.inr rfl⟩, extends_of_same rfl⟩
  · rw [if_neg hvalid]
    exact ⟨writes_refl _ _, extends_refl _⟩

theorem memory_update_record_writes (id tenant_id now : String) (fields : RecordFields)
    (author : Attribution) :
    (StoreCall.update_record id tenant_id now fields author).Keeps stores := by
  unfold StoreCall.Keeps memory_step StoreCall.in_memory
  simp only [run_bind, update_record_run]
  rcases hfound : of_tenant tenant_id (dict.get stores.records id) with _ | record
  · exact ⟨writes_refl _ _, extends_refl _⟩
  dsimp only
  rcases fields.validate "ExceptionStore" id author record with e | ⟨⟩
  · exact ⟨writes_refl _ _, extends_refl _⟩
  dsimp only
  rcases fields.noted_under now record with _ | case_id
  · exact ⟨⟨rfl, Or.inr ⟨record, hfound, rfl⟩⟩, extends_of_same rfl⟩
  dsimp only
  rw [record_for_child_run]
  by_cases hcase : (dict.get stores.cases.cases case_id).isSome = true
  · rw [if_pos hcase]
    rcases (fields.apply now record).supergroup_code with _ | code
    · exact ⟨⟨rfl, Or.inr ⟨record, hfound, rfl⟩⟩, extends_of_same rfl⟩
    dsimp only
    by_cases htype : author.classifier_type.getD "" ∈ CLASSIFIER_TYPES
    · rw [if_pos htype]
      exact ⟨⟨rfl, Or.inr ⟨record, hfound, rfl⟩⟩,
        extends_of_notes (notes_with_event stores.cases rfl rfl)⟩
    · rw [if_neg htype]
      exact ⟨⟨rfl, Or.inr ⟨record, hfound, rfl⟩⟩, extends_of_same rfl⟩
  · rw [if_neg hcase]
    exact ⟨⟨rfl, Or.inr ⟨record, hfound, rfl⟩⟩, extends_of_same rfl⟩

theorem writes_of_atomic {ε σ : Type} {view : σ → ClassifiedRows} {call : StoreCall} {s : σ}
    {r : EStateM.Result ε σ Unit} (h : call.Atomic view s r) :
    call.Writes (view s) (view (endState r)) := by
  rcases r with ⟨_, s'⟩ | ⟨e, s'⟩
  · exact writes_of_done h
  · rw [show view (endState (.error e s' : EStateM.Result ε σ Unit)) = view s from h]
    exact writes_refl call _

theorem memory_writes (call : StoreCall) : call.Keeps stores := by
  cases call with
  | lookup_or_create event new_case_id => exact memory_lookup_writes event new_case_id
  | update_case call => exact memory_update_case_writes call
  | update_record id tenant_id now fields author =>
    exact memory_update_record_writes id tenant_id now fields author
  | record_classification event =>
    have hatomic := @memory_record_classification_atomic stores event
    exact ⟨writes_of_atomic hatomic, extends_of_atomic hatomic⟩

end memory

/-- The tables after a call. -/
def database_step (db : CaseDatabase) (checks : RowChecks) (call : StoreCall) (tables : Tables) :
    Tables :=
  endState (call.on_database db checks tables)

theorem memory_run_extends (stores : MemoryStores) (calls : List StoreCall) :
    Extends stores.classified (run memory_step stores calls).classified := by
  refine invariant (I := fun s : MemoryStores => Extends stores.classified s.classified) ?_
    (extends_refl _) (allSteps_true _ _)
  intro call s _ hs
  exact extends_trans hs (memory_writes call).2

theorem database_run_extends (db : CaseDatabase) (checks : RowChecks) (tables : Tables)
    (calls : List StoreCall) :
    Extends tables.classified (run (database_step db checks) tables calls).classified := by
  refine invariant (I := fun t : Tables => Extends tables.classified t.classified) ?_
    (extends_refl _) (allSteps_true _ _)
  intro call t _ ht
  exact extends_trans ht (extends_of_atomic (database_atomic call))

/-! ## Runs -/

/-- The id that a lookup draws is not the one of a case. -/
def StoreCall.Fresh (stores : MemoryStores) : StoreCall → Prop
  | .lookup_or_create _ new_case_id => dict.get stores.cases.cases new_case_id = none
  | _ => True

theorem memory_atomic_of_admissible {call : StoreCall} {stores : MemoryStores}
    (h : call.Admissible stores) :
    call.Atomic MemoryStores.classified stores (call.in_memory stores) := by
  cases call with
  | lookup_or_create event new_case_id => exact memory_lookup_done event new_case_id h
  | update_case call => exact (memory_update_case_atomic call).mpr h
  | update_record id tenant_id now fields author =>
    exact (memory_update_record_atomic id tenant_id now fields author).mpr h
  | record_classification event => exact memory_record_classification_atomic event

theorem admissible_of_memory_atomic {call : StoreCall} {stores : MemoryStores}
    (hfresh : call.Fresh stores)
    (h : call.Atomic MemoryStores.classified stores (call.in_memory stores)) :
    call.Admissible stores := by
  cases call with
  | lookup_or_create event new_case_id =>
    exact memory_lookup_admissible event new_case_id hfresh h
  | update_case call => exact (memory_update_case_atomic call).mp h
  | update_record id tenant_id now fields author =>
    exact (memory_update_record_atomic id tenant_id now fields author).mp h
  | record_classification event => trivial

/-- Over every run, a call that classifies is done with its event or leaves
no trace: on the database always, and in memory as long as the event model
accepts each event that a call comes to build, and for ids that are fresh only
then. On both the events that are noted stay. -/
theorem calls_whose_events_are_accepted_are_atomic (db : CaseDatabase) (checks : RowChecks)
    (stores : MemoryStores) (tables : Tables) (calls : List StoreCall) :
    (AllSteps memory_step (fun call s => call.Admissible s) stores calls →
      AllSteps memory_step
        (fun call s => call.Atomic MemoryStores.classified s (call.in_memory s)) stores calls) ∧
    (AllSteps memory_step (fun call s => call.Fresh s) stores calls →
      AllSteps memory_step
        (fun call s => call.Atomic MemoryStores.classified s (call.in_memory s)) stores calls →
      AllSteps memory_step (fun call s => call.Admissible s) stores calls) ∧
    Extends stores.classified (run memory_step stores calls).classified ∧
    AllSteps (database_step db checks)
      (fun call t => call.Atomic Tables.classified t (call.on_database db checks t))
      tables calls ∧
    Extends tables.classified (run (database_step db checks) tables calls).classified := by
  refine ⟨fun h => ?_, fun hfresh h => ?_, memory_run_extends stores calls, ?_,
    database_run_extends db checks tables calls⟩
  · exact allSteps_mono (fun _ _ => memory_atomic_of_admissible) h
  · exact allSteps_mono (fun _ _ h => admissible_of_memory_atomic h.1 h.2) (allSteps_and hfresh h)
  · exact allSteps_mono (fun call t _ => database_atomic call) (allSteps_true tables calls)

/-- A record under a case that the store does not have. -/
def orphanedRecord : ChildCase :=
  { id := "E1", tenant_id := "T1", order_id := "4711", event_type := "PRICE_DISCREPANCY",
    trace_id := "TR1", intent := none, lifecycle_state := .PENDING_REVIEW, shadow_verdict := none,
    selected_recipe := none, final_status := none, resolution_data := {},
    parent_case_id := some "C2", created_at := "t1", updated_at := "t1" }

def sampleStores : MemoryStores where
  cases := { cases := pricingCase.api.cases }
  records := [("E1", orphanedRecord)]

def moveCase (author : Attribution) : StoreCall :=
  .update_case ⟨"C1", { supergroup_code := some (some "SG_FULFILLMENT") }, author, none⟩

def moveRecord : StoreCall :=
  .update_record "E1" "T1" "t2" { supergroup_code := some (some "SG_FULFILLMENT") } asHuman

theorem a_human_moves_a_case_with_its_event :
    AllSteps memory_step
      (fun call s => call.Atomic MemoryStores.classified s (call.in_memory s))
      sampleStores [moveCase asHuman] := by
  have h := calls_whose_events_are_accepted_are_atomic ⟨fun _ => none, fun _ _ => false⟩
    ⟨fun _ _ => none, fun _ _ => none⟩ sampleStores {} [moveCase asHuman]
  refine h.1 ⟨?_, trivial⟩
  intro case hcase _ _
  cases hcase
  exact ⟨by simp [CaseFields.apply], by decide⟩

/-- An author who is no kind of classifier, and a record whose case is not in
the store: each call raises after it has written its fields. -/
theorem a_refused_event_leaves_its_fields_written :
    ¬ (moveCase { asHuman with classifier_type := some "BOT" }).Atomic MemoryStores.classified
        sampleStores
        ((moveCase { asHuman with classifier_type := some "BOT" }).in_memory sampleStores) ∧
      ¬ moveRecord.Atomic MemoryStores.classified sampleStores
        (moveRecord.in_memory sampleStores) := by
  refine ⟨fun h => ?_, fun h => ?_⟩
  · have hadmissible := (memory_update_case_atomic _).mp h
    exact absurd (hadmissible _ rfl (by rfl) (by decide)).2 (by decide)
  · have hadmissible := (memory_update_record_atomic _ _ _ _ _).mp h
    exact absurd rfl (hadmissible orphanedRecord (by rfl) (by rfl) "C2" (by rfl)).1

end asoe
