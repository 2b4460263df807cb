-- The two case stores, in memory and on the database: how an inbound event
-- finds its case by its correlation keys or opens one, how a single key is
-- registered, and how a case is deleted with its keys.
import Asoe.CaseWrites
import Asoe.FailedInserts
import Asoe.Lib.KeyIndex

namespace asoe

open py prog runs keyindex

/-! ## The calls -/

/-- What `lookup_or_create` is called with. -/
structure InboundEvent where
  tenant_id : String
  origin : String
  sales_order_id : Option String := none
  customer_po_number : Option String := none
  edi_transaction_id : Option String := none
  source_email_id : Option String := none
  supergroup_code : Option String := none
  intent_code : Option String := none
  classified_by : String := "system:case_intake"
  classifier_type : String := "RULE"
  deriving DecidableEq

/-- The keys of an event, in the order in which they are tried. -/
def InboundEvent.keys (event : InboundEvent) : List (String × Option String) :=
  [("sales_order_id", event.sales_order_id), ("customer_po_number", event.customer_po_number),
    ("edi_transaction_id", event.edi_transaction_id), ("source_email_id", event.source_email_id)]

/-- The origins that `OrderCase` declares. -/
def InboundEvent.Valid (event : InboundEvent) : Prop :=
  event.origin = "CUSTOMER" ∨ event.origin = "API"

instance {event : InboundEvent} : Decidable event.Valid := inferInstanceAs (Decidable (_ ∨ _))

/-- The case that is opened for an event. -/
def InboundEvent.order_case (event : InboundEvent) (new_case_id : String) : OrderCase :=
  ⟨new_case_id, event.tenant_id, .OPEN_AGENT_PROCESSING, event.supergroup_code, none, none⟩

/-- A call of a case store that reads or writes the correlation. -/
inductive CaseCall where
  | lookup_or_create (event : InboundEvent) (new_case_id : String)
  | register_correlation (tenant_id case_id key_type key_value : String)
  | delete (case_id : String)

/-- What the correlation reads of a store. -/
structure Correlations where
  cases : List (String × OrderCase) := []
  correlation : List (CorrelationKey × String) := []
  deriving DecidableEq

/-- A case store: its operations, and its state before any of them. -/
structure StoreModel (σ : Type) where
  lookup_or_create : String → InboundEvent → EStateM PyErr σ (OrderCase × Bool)
  register_correlation : String → String → String → String → EStateM PyErr σ Unit
  delete : String → EStateM PyErr σ Unit
  empty : σ
  view : σ → Correlations

def StoreModel.step {σ : Type} (store : StoreModel σ) : CaseCall → σ → σ
  | .lookup_or_create event new_case_id, s => endState (store.lookup_or_create new_case_id event s)
  | .register_correlation tenant_id case_id key_type key_value, s =>
    endState (store.register_correlation tenant_id case_id key_type key_value s)
  | .delete case_id, s => endState (store.delete case_id s)

def CLASSIFIER_TYPES : List String := ["HUMAN", "MODEL", "RULE"]

/-! ## The store in memory -/

/-- A classification as the store in memory keeps it. -/
structure Classification where
  case_id : String
  supergroup_code : String
  intent_code : Option String
  classified_by : String
  classifier_type : String
  child_case_id : Option String := none
  deriving DecidableEq

structure CaseStore where
  cases : List (String × OrderCase) := []
  correlation : List (CorrelationKey × String) := []
  history : List (String × List Classification) := []
  deriving DecidableEq

namespace CaseStore

/-- The first key that is set and known wins. -/
def find_by_correlation (store : CaseStore) (tenant_id : String) :
    List (String × Option String) → Option OrderCase
  | [] => none
  | (_, none) :: keys => find_by_correlation store tenant_id keys
  | (key_type, some key_value) :: keys =>
    if key_value = "" then find_by_correlation store tenant_id keys
    else
      match dict.get store.correlation (tenant_id, key_type, key_value) with
      | some case_id => dict.get store.cases case_id
      | none => find_by_correlation store tenant_id keys

def register_correlations_locked (tenant_id case_id : String) :
    List (String × Option String) → List (CorrelationKey × String) →
    List (CorrelationKey × String)
  | [], correlation => correlation
  | (_, none) :: keys, correlation =>
    register_correlations_locked tenant_id case_id keys correlation
  | (key_type, some key_value) :: keys, correlation =>
    if key_value = "" then register_correlations_locked tenant_id case_id keys correlation
    else
      register_correlations_locked tenant_id case_id keys
        (dict.set correlation (tenant_id, key_type, key_value) case_id)

def record_classification_locked (event : Classification) : EStateM PyErr CaseStore Unit := do
  require (event.classifier_type ∈ CLASSIFIER_TYPES)
    ⟨"ValidationError", "validation error for ClassificationEvent"⟩
  modify fun store => { store with
    history := dict.set store.history event.case_id
      ((dict.get store.history event.case_id).getD [] ++ [event]) }

/-- What `lookup_or_create` does under its lock with the case that it found
before. -/
def attach_or_open (new_case_id : String) (event : InboundEvent) :
    Option OrderCase → EStateM PyErr CaseStore (OrderCase × Bool)
  | some existing => do
    modify fun store => { store with
      correlation := register_correlations_locked event.tenant_id existing.case_id event.keys
        store.correlation }
    return (existing, false)
  | none => do
    require event.Valid ⟨"ValidationError", "validation error for OrderCase"⟩
    let case := event.order_case new_case_id
    modify fun store => { store with cases := dict.set store.cases case.case_id case }
    modify fun store => { store with
      correlation := register_correlations_locked event.tenant_id case.case_id event.keys
        store.correlation }
    match event.supergroup_code with
    | some code =>
      record_classification_locked
        ⟨case.case_id, code, event.intent_code, event.classified_by, event.classifier_type, none⟩
    | none => pure ()
    return (case, true)

def lookup_or_create (new_case_id : String) (event : InboundEvent) :
    EStateM PyErr CaseStore (OrderCase × Bool) := do
  let store ← get
  attach_or_open new_case_id event (find_by_correlation store event.tenant_id event.keys)

def register_correlation (tenant_id case_id key_type key_value : String) :
    EStateM PyErr CaseStore Unit := do
  let store ← get
  require (dict.get store.cases case_id).isSome ⟨"KeyError", "Unknown case_id: " ++ case_id⟩
  set { store with
    correlation := dict.set store.correlation (tenant_id, key_type, key_value) case_id }

def delete (case_id : String) : EStateM PyErr CaseStore Unit :=
  modify fun store => { store with
    cases := dict.pop store.cases case_id
    correlation := store.correlation.filter fun p => !decide (p.2 = case_id) }

end CaseStore

def inMemory : StoreModel CaseStore where
  lookup_or_create := CaseStore.lookup_or_create
  register_correlation := CaseStore.register_correlation
  delete := CaseStore.delete
  empty := {}
  view store := ⟨store.cases, store.correlation⟩

/-! ## The store on the database -/

/-- The database of a case store: what it raises on a text that it is given,
and whether rows of tables that the store does not know refer to a case. -/
structure CaseDatabase where
  text_error : String → Option PyErr
  referenced : Tables → String → Bool

def CaseDatabase.bind_text (db : CaseDatabase) : PyVal → Except PyErr String
  | .str text =>
    match db.text_error text with
    | none => .ok text
    | some e => .error e
  | _ => .error ⟨"ProgrammingError", "type is not supported"⟩

/-- One transaction: an exception leaves the tables as they were. -/
def transaction {σ α : Type} (f : σ → Except PyErr (σ × α)) : EStateM PyErr σ α := fun s =>
  match f s with
  | .ok (s', a) => .ok a s'
  | .error e => .error e s

/-- `ClassificationHistoryRepository.create`. -/
def create_classification (event : ClassificationEvent) (rows : List ClassificationEvent) :
    Except PyErr (List ClassificationEvent) := do
  if event.tenant_id = "" then
    throw ⟨"ValueError", "tenant_id is required (ADR-028 Guard-rail 4)."⟩
  if event.supergroup_code = "" then
    throw ⟨"ValueError", "supergroup_code is required on a classification event."⟩
  if event.classifier_type ∉ CLASSIFIER_TYPES then
    throw ⟨"ValueError", "classifier_type must be HUMAN | MODEL | RULE, got " ++
      py.reprStr event.classifier_type⟩
  return rows ++ [event]

namespace DatabaseBackedCaseStore

/-- The keys as the statements are given them. -/
def parameters (keys : List (String × Option String)) : List (String × PyVal) :=
  keys.map fun key => (key.1, .ofOption (key.2.map .str))

/-- The classification that a case is opened with is noted. -/
def audit_intake (event : InboundEvent) (case_id : String) (rows : List ClassificationEvent) :
    Except PyErr (List ClassificationEvent) :=
  match event.supergroup_code with
  | some code =>
    create_classification
      ⟨event.tenant_id, case_id, code, event.intent_code, event.classified_by,
        event.classifier_type, none⟩ rows
  | none => .ok rows

/-- What `lookup_or_create` writes for the case that it found. -/
def attach_or_open (db : CaseDatabase) (new_case_id : String) (event : InboundEvent) :
    Option String → Tables → Except PyErr (Tables × OrderCase × Bool)
  | some existing_id, tables => do
    let correlation ← register_keys db.bind_text event.tenant_id existing_id
      (parameters event.keys) tables.case_correlation_keys
    match dict.get tables.api.cases existing_id with
    | some case =>
      if case.tenant_id ≠ event.tenant_id then
        throw ⟨"TypeError", "argument after ** must be a mapping, not NoneType"⟩
      return ({ tables with case_correlation_keys := correlation }, case, false)
    | none => throw ⟨"TypeError", "argument after ** must be a mapping, not NoneType"⟩
  | none, tables => do
    if ¬ event.Valid then
      throw ⟨"ValidationError", "validation error for OrderCase"⟩
    if (dict.get tables.api.cases new_case_id).isSome then
      throw ⟨"IntegrityError", "UNIQUE constraint failed: order_case.case_id"⟩
    let case := event.order_case new_case_id
    let correlation ← register_keys db.bind_text event.tenant_id case.case_id
      (parameters event.keys) tables.case_correlation_keys
    let history ← audit_intake event case.case_id tables.case_classification_history
    return ({ api := { tables.api with cases := dict.set tables.api.cases case.case_id case }
              case_correlation_keys := correlation
              case_classification_history := history }, case, true)

def lookup_or_create (db : CaseDatabase) (new_case_id : String) (event : InboundEvent)
    (tables : Tables) : Except PyErr (Tables × OrderCase × Bool) := do
  let existing ← find_by_priority db.bind_text event.tenant_id tables.case_correlation_keys
    (parameters event.keys)
  attach_or_open db new_case_id event existing tables

def register_correlation (db : CaseDatabase) (tenant_id case_id key_type key_value : String)
    (tables : Tables) : Except PyErr (Tables × Unit) := do
  if (dict.get tables.api.cases case_id).all fun case => case.tenant_id ≠ tenant_id then
    throw ⟨"KeyError", "Unknown case_id: " ++ case_id⟩
  let text ← db.bind_text (.str key_value)
  return ({ tables with
    case_correlation_keys :=
      dict.set tables.case_correlation_keys (tenant_id, key_type, text) case_id }, ())

/-- The rows that refer to a case block its deletion. -/
def delete (db : CaseDatabase) (case_id : String) (tables : Tables) :
    Except PyErr (Tables × Unit) :=
  match dict.get tables.api.cases case_id with
  | none => .ok (tables, ())
  | some case =>
    let correlation := tables.case_correlation_keys.filter fun p =>
      !decide (p.2 = case_id ∧ p.1.1 = case.tenant_id)
    if (correlation.any fun p => p.2 = case_id) ∨
        (tables.api.records.any fun r => r.2.parent_case_id = some case_id) ∨
        (tables.case_classification_history.any fun row => row.case_id = case_id) ∨
        db.referenced tables case_id then
      .error ⟨"IntegrityError", "FOREIGN KEY constraint failed"⟩
    else
      .ok ({ tables with
        api := { tables.api with cases := dict.pop tables.api.cases case_id }
        case_correlation_keys := correlation }, ())

end DatabaseBackedCaseStore

def onDatabase (db : CaseDatabase) : StoreModel Tables where
  lookup_or_create new_case_id event :=
    transaction (DatabaseBackedCaseStore.lookup_or_create db new_case_id event)
  register_correlation tenant_id case_id key_type key_value :=
    transaction
      (DatabaseBackedCaseStore.register_correlation db tenant_id case_id key_type key_value)
  delete case_id := transaction (DatabaseBackedCaseStore.delete db case_id)
  empty := {}
  view tables := ⟨tables.api.cases, tables.case_correlation_keys⟩

/-! ## The keys that are set -/

/-- The keys of an event that are set, as the correlation has them. -/
def bound_keys (tenant_id : String) (keys : List (String × Option String)) : List CorrelationKey :=
  keys.filterMap fun key =>
    match key.2 with
    | some value => if value = "" then none else some (tenant_id, key.1, value)
    | none => none

def InboundEvent.correlation_keys (event : InboundEvent) : List CorrelationKey :=
  bound_keys event.tenant_id event.keys

section keys

variable {tenant case_id : String} {keys : List (String × Option String)}
  {m m' : List (CorrelationKey × String)} {db : CaseDatabase}

@[simp] theorem bound_keys_nil : bound_keys tenant [] = [] := rfl

@[simp] theorem bound_keys_unset (key_type : String) :
    bound_keys tenant ((key_type, none) :: keys) = bound_keys tenant keys := rfl

theorem bound_keys_set (key_type value : String) :
    bound_keys tenant ((key_type, some value) :: keys) =
      if value = "" then bound_keys tenant keys
      else (tenant, key_type, value) :: bound_keys tenant keys := by
  unfold bound_keys
  rw [List.filterMap_cons]
  by_cases h : value = ""
  · simp [h]
  · simp [h]

theorem tenant_of_bound {k : CorrelationKey} (h : k ∈ bound_keys tenant keys) : k.1 = tenant := by
  obtain ⟨⟨key_type, value⟩, -, hk⟩ := List.mem_filterMap.mp h
  rcases value with _ | value
  · cases hk
  · dsimp only at hk
    split at hk
    · cases hk
    · cases hk
      rfl

theorem find_by_correlation_eq (store : CaseStore) :
    store.find_by_correlation tenant keys =
      (first store.correlation (bound_keys tenant keys)).bind (dict.get store.cases) := by
  induction keys with
  | nil => rfl
  | cons key keys ih =>
    obtain ⟨key_type, _ | value⟩ := key
    · exact ih
    · rw [CaseStore.find_by_correlation, bound_keys_set]
      by_cases hvalue : value = ""
      · rw [if_pos hvalue, if_pos hvalue, ih]
      · rw [if_neg hvalue, if_neg hvalue, first_cons]
        rcases dict.get store.correlation (tenant, key_type, value) with _ | id
        · simpa using ih
        · rfl

theorem register_correlations_locked_eq :
    CaseStore.register_correlations_locked tenant case_id keys m =
      attach m (bound_keys tenant keys) case_id := by
  induction keys generalizing m with
  | nil => rfl
  | cons key keys ih =>
    obtain ⟨key_type, _ | value⟩ := key
    · exact ih
    · rw [CaseStore.register_correlations_locked, bound_keys_set]
      by_cases hvalue : value = ""
      · rw [if_pos hvalue, if_pos hvalue, ih]
      · rw [if_neg hvalue, if_neg hvalue, ih, attach_cons]

theorem bind_text_str {value text : String} (h : db.bind_text (.str value) = .ok text) :
    text = value := by
  unfold CaseDatabase.bind_text at h
  dsimp only at h
  split at h
  · cases h
    rfl
  · cases h

/-- What one key that is set does to the search. -/
theorem find_by_priority_set {key : String × PyVal} {rest : List (String × PyVal)}
    {found : Option String} (hset : key.2.truthy = true)
    (h : find_by_priority db.bind_text tenant m (key :: rest) = .ok found) :
    ∃ text, db.bind_text key.2 = .ok text ∧
      ((∃ id, dict.get m (tenant, key.1, text) = some id ∧ found = some id) ∨
        dict.get m (tenant, key.1, text) = none ∧
          find_by_priority db.bind_text tenant m rest = .ok found) := by
  rw [find_by_priority, if_neg (by simp [hset])] at h
  rcases htext : db.bind_text key.2 with e | text
  · rw [error_bind htext] at h
    cases h
  · rw [ok_bind htext] at h
    refine ⟨text, rfl, ?_⟩
    rcases hget : dict.get m (tenant, key.1, text) with _ | id
    · rw [hget] at h
      exact Or.inr ⟨rfl, h⟩
    · rw [hget] at h
      cases h
      exact Or.inl ⟨id, rfl, rfl⟩

theorem find_by_priority_eq {found : Option String}
    (h : find_by_priority db.bind_text tenant m (DatabaseBackedCaseStore.parameters keys) =
      .ok found) : found = first m (bound_keys tenant keys) := by
  induction keys with
  | nil =>
    cases h
    rfl
  | cons key keys ih =>
    obtain ⟨key_type, _ | value⟩ := key
    · exact ih h
    · rw [bound_keys_set]
      by_cases hvalue : value = ""
      · subst hvalue
        rw [if_pos rfl]
        exact ih h
      · rw [if_neg hvalue, first_cons]
        have hset : (PyVal.str value).truthy = true := by simpa [PyVal.truthy] using hvalue
        obtain ⟨text, htext, hfound⟩ := find_by_priority_set hset h
        cases bind_text_str htext
        rcases hfound with ⟨id, hget, rfl⟩ | ⟨hget, hrest⟩
        · rw [hget]
          rfl
        · rw [hget]
          simpa using ih hrest

theorem register_keys_eq
    (h : register_keys db.bind_text tenant case_id (DatabaseBackedCaseStore.parameters keys) m =
      .ok m') : m' = attach m (bound_keys tenant keys) case_id := by
  induction keys generalizing m with
  | nil =>
    cases h
    rfl
  | cons key keys ih =>
    obtain ⟨key_type, _ | value⟩ := key
    · exact ih h
    · rw [bound_keys_set]
      obtain ⟨hunset, hrest⟩ | ⟨hset, text, htext, hrest⟩ := register_keys_cons h
      · have hvalue : value = "" := by simpa [PyVal.truthy, PyVal.ofOption] using hunset
        rw [if_pos hvalue]
        exact ih hrest
      · have hvalue : value ≠ "" := by simpa [PyVal.truthy, PyVal.ofOption] using hset
        cases bind_text_str htext
        rw [if_neg hvalue, attach_cons]
        exact ih hrest

end keys

/-! ## One lookup -/

section lookup

variable {event : InboundEvent} {new_case_id : String}

/-- The store in memory with a case opened for an event. -/
def CaseStore.with_case (store : CaseStore) (event : InboundEvent) (new_case_id : String) :
    Correlations :=
  { cases := dict.set store.cases new_case_id (event.order_case new_case_id)
    correlation := attach store.correlation event.correlation_keys new_case_id }

theorem wp_attach {existing : OrderCase} {store : CaseStore} :
    wp (CaseStore.attach_or_open new_case_id event (some existing))
      (fun found store' => found = (existing, false) ∧ store' = { store with
        correlation := attach store.correlation event.correlation_keys existing.case_id })
      (fun _ _ => False) store := by
  unfold CaseStore.attach_or_open
  rw [wp_bind, wp_modify, register_correlations_locked_eq]
  exact ⟨rfl, rfl⟩

/-- A classification that is refused leaves the case that was opened. -/
theorem wp_open {store : CaseStore} :
    wp (CaseStore.attach_or_open new_case_id event none)
      (fun found store' => found = (event.order_case new_case_id, true) ∧
        inMemory.view store' = store.with_case event new_case_id)
      (fun _ store' => store' = store ∨ inMemory.view store' = store.with_case event new_case_id)
      store := by
  unfold CaseStore.attach_or_open
  rw [wp_bind, wp_require]
  refine ⟨fun _ => ?_, fun _ => Or.inl rfl⟩
  simp only [wp_bind, wp_modify, register_correlations_locked_eq]
  rcases event.supergroup_code with _ | code
  · exact ⟨rfl, rfl⟩
  · unfold CaseStore.record_classification_locked
    rw [wp_bind, wp_bind, wp_require]
    refine ⟨fun _ => ?_, fun _ => Or.inr rfl⟩
    rw [wp_modify]
    exact ⟨rfl, rfl⟩

theorem wp_transaction {σ α : Type} {f : σ → Except PyErr (σ × α)} {Q : α → σ → Prop}
    {E : PyErr → σ → Prop} {s : σ} (hQ : returns (f s) fun r => Q r.2 r.1)
    (hE : ∀ e, f s = .error e → E e s) : wp (transaction f) Q E s := by
  unfold wp transaction
  rcases hf : f s with e | r
  · exact hE e hf
  · exact hQ r hf

theorem database_attach_cases {db : CaseDatabase} {case_id : String} {tables : Tables} :
    returns (DatabaseBackedCaseStore.attach_or_open db new_case_id event (some case_id) tables)
      fun found => dict.get tables.api.cases case_id = some found.2.1 ∧ found.2.2 = false ∧
        found.1 = { tables with
          case_correlation_keys :=
            attach tables.case_correlation_keys event.correlation_keys case_id } := by
  unfold DatabaseBackedCaseStore.attach_or_open
  refine returns_bind fun correlation hregister => ?_
  split
  · rename_i case hcase
    refine returns_ite (fun _ => returns_error _) fun _ => (returns_pure _).mpr ?_
    cases register_keys_eq hregister
    exact ⟨hcase, rfl, rfl⟩
  · exact returns_error _

theorem database_open_cases {db : CaseDatabase} {tables : Tables} :
    returns (DatabaseBackedCaseStore.attach_or_open db new_case_id event none tables)
      fun found => dict.get tables.api.cases new_case_id = none ∧
        found.2 = (event.order_case new_case_id, true) ∧
        found.1.api.cases = dict.set tables.api.cases new_case_id (event.order_case new_case_id) ∧
        found.1.case_correlation_keys =
          attach tables.case_correlation_keys event.correlation_keys new_case_id := by
  unfold DatabaseBackedCaseStore.attach_or_open
  refine returns_ite (fun _ => returns_error _) fun _ => ?_
  refine returns_ite (fun _ => returns_error _) fun hunused => ?_
  refine returns_bind fun correlation hregister => ?_
  refine returns_bind fun history _ => (returns_pure _).mpr ?_
  exact ⟨by simpa using hunused, rfl, rfl, register_keys_eq hregister⟩

end lookup

end asoe
