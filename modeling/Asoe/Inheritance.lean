-- The supergroup that a record inherits from its case. The trigger on the
-- records compares the two when a record is created and when its supergroup
-- changes; it does not look when the record is put under another case, nor
-- when the case is reclassified. In memory nothing compares them.
import Asoe.Reclassifications

namespace asoe

open py prog runs

/-! ## The rule -/

/-- The record has the supergroup of its case. One of the two may have none. -/
def Inherits (cases : List (String × OrderCase)) (record : ChildCase) : Prop :=
  ∀ case_id, record.parent_case_id = some case_id → ∀ code, record.supergroup_code = some code →
    ∀ case, dict.get cases case_id = some case →
      ∀ parent_sg, case.supergroup_code = some parent_sg → code = parent_sg

/-- Every record has the supergroup of its case. -/
def AllInherit (v : ClassifiedRows) : Prop :=
  ∀ id record, dict.get v.records id = some record → Inherits v.cases record

/-! ## The trigger -/

/-- The database, its table `app_config`, the origins of the cases, and the
codes of the table `case_supergroup`. -/
structure InheritanceConfig where
  database : DatabaseKind
  inheritance_mode_customer : Option String := none
  origin : String → Option String
  case_supergroup : List String
  named : "" ∉ case_supergroup

namespace InheritanceConfig

def Strict (config : InheritanceConfig) : Prop :=
  config.inheritance_mode_customer = none ∨ config.inheritance_mode_customer = some "STRICT"

instance {config : InheritanceConfig} : Decidable config.Strict :=
  inferInstanceAs (Decidable (_ ∨ _))

/-- What the trigger raises; `names` are the two supergroups. -/
def abort (config : InheritanceConfig) (text names : String) : PyErr :=
  match config.database with
  | .sqlite => ⟨"IntegrityError", text⟩
  | .postgres => ⟨"RaiseException", text ++ names⟩

/-- `enforce_child_supergroup_inheritance`. -/
def enforce_child_supergroup_inheritance (config : InheritanceConfig)
    (cases : List (String × OrderCase)) (new : ChildCase) : Option PyErr :=
  match new.parent_case_id, new.supergroup_code with
  | some case_id, some code =>
    match (dict.get cases case_id).bind OrderCase.supergroup_code with
    | none => none
    | some parent_sg =>
      let names := " (child=" ++ code ++ ", parent=" ++ parent_sg ++ ")"
      if code = parent_sg then none
      else if config.origin case_id = some "API" then
        some (config.abort "API child cases cannot diverge from parent supergroup" names)
      else if config.Strict then
        some (config.abort "CUSTOMER child cases cannot diverge under STRICT inheritance" names)
      else if new.divergence_reason = none then
        some (config.abort
          "divergence_reason required under RELAXED mode when supergroup differs" "")
      else none
  | _, _ => none

/-- An update fires the trigger when the supergroup changes, and on PostgreSQL
also when the statement assigns it. -/
def fires (config : InheritanceConfig) (fields : RecordFields) (old : ChildCase) : Bool :=
  match config.database with
  | .sqlite => fields.supergroup_code.getD old.supergroup_code ≠
      some (old.supergroup_code.getD "")
  | .postgres => fields.supergroup_code.isSome

/-- The foreign keys of a record. -/
def foreign_keys (config : InheritanceConfig) (cases : List (String × OrderCase))
    (new : ChildCase) : Option PyErr :=
  if (new.parent_case_id.all fun case_id => (dict.get cases case_id).isSome) ∧
      (new.supergroup_code.all fun code => code ∈ config.case_supergroup) then none
  else some ⟨"IntegrityError", "FOREIGN KEY constraint failed"⟩

/-- The constraints that an update of a record meets. -/
def checks (config : InheritanceConfig) (others : RowChecks) (id : String)
    (fields : RecordFields) : RowChecks where
  case_row := others.case_row
  record_row tables new :=
    let trigger := if (dict.get tables.api.records id).any (config.fires fields) then
      config.enforce_child_supergroup_inheritance tables.api.cases new else none
    (trigger.or (config.foreign_keys tables.api.cases new)).or (others.record_row tables new)

end InheritanceConfig

/-! ## The calls -/

/-- `DatabaseBackedStore.create` of a record. -/
def DatabaseBackedStore.create (config : InheritanceConfig) (others : RowChecks)
    (record : ChildCase) (tables : Tables) : Except PyErr (Tables × Unit) :=
  if (dict.get tables.api.records record.id).isSome then
    .error ⟨"IntegrityError", "UNIQUE constraint failed: exceptions.id"⟩
  else
    match ((config.enforce_child_supergroup_inheritance tables.api.cases record).or
        (config.foreign_keys tables.api.cases record)).or (others.record_row tables record) with
    | some e => .error e
    | none => .ok ({ tables with
        api := { tables.api with records := dict.set tables.api.records record.id record } }, ())

/-- A call of one of the two stores. -/
inductive InheritanceCall where
  | create (record : ChildCase)
  | classify (call : StoreCall)
  | delete (case_id : String)

namespace InheritanceCall

def in_memory : InheritanceCall → EStateM PyErr MemoryStores Unit
  | .create record => modify fun stores => { stores with
      records := dict.set stores.records record.id record }
  | .classify call => call.in_memory
  | .delete case_id => on_cases (CaseStore.delete case_id)

def on_database (config : InheritanceConfig) (others : RowChecks) (db : CaseDatabase) :
    InheritanceCall → EStateM PyErr Tables Unit
  | .create record => do
    let _ ← transaction (DatabaseBackedStore.create config others record)
  | .classify (.update_record id tenant_id now fields author) =>
    (StoreCall.update_record id tenant_id now fields author).on_database db
      (config.checks others id fields)
  | .classify call => call.on_database db others
  | .delete case_id => do
    let _ ← transaction (DatabaseBackedCaseStore.delete db case_id)

/-- A record that keeps its supergroup fits the case that it is put under, and
a case that is reclassified has no record of another supergroup. -/
def Fits (v : ClassifiedRows) : InheritanceCall → Prop
  | .classify (.update_record id tenant_id now fields _) =>
    ∀ record, of_tenant tenant_id (dict.get v.records id) = some record →
      ¬ fields.MovesSupergroup record → Inherits v.cases (fields.apply now record)
  | .classify (.update_case call) =>
    ∀ case, dict.get v.cases call.case_id = some case → call.fields.Reclassifies case →
      ∀ id record, dict.get v.records id = some record →
        record.parent_case_id = some call.case_id →
        ∀ code, record.supergroup_code = some code →
          ∀ parent_sg, (call.fields.apply case).supergroup_code = some parent_sg →
            code = parent_sg
  | _ => True

/-- What the database sees to: the record that is written has the supergroup
of its case, and no record is under a case that is yet to be opened. -/
def Checked (v : ClassifiedRows) : InheritanceCall → Prop
  | .create record => Inherits v.cases record
  | .classify (.update_record id tenant_id now fields _) =>
    ∀ record, of_tenant tenant_id (dict.get v.records id) = some record →
      fields.MovesSupergroup record → Inherits v.cases (fields.apply now record)
  | .classify (.lookup_or_create _ new_case_id) =>
    ∀ id record, dict.get v.records id = some record → record.parent_case_id ≠ some new_case_id
  | _ => True

/-- What a call writes into the cases and the records, whether it returns or
raises. -/
def Writes (v v' : ClassifiedRows) : InheritanceCall → Prop
  | .create record => v'.cases = v.cases ∧
      (v'.records = v.records ∨ v'.records = dict.set v.records record.id record)
  | .classify call => call.Writes v v'
  | .delete case_id => v'.records = v.records ∧
      (v'.cases = v.cases ∨ v'.cases = dict.pop v.cases case_id)

end InheritanceCall

/-! ## What a write keeps -/

section writes

variable {v v' : ClassifiedRows} {call : InheritanceCall}

theorem allInherit_of_same (hcases : v'.cases = v.cases) (hrecords : v'.records = v.records)
    (h : AllInherit v) : AllInherit v' := by
  intro id record hget
  rw [hrecords] at hget
  rw [hcases]
  exact h id record hget

theorem allInherit_of_record {id : String} {record : ChildCase} (hcases : v'.cases = v.cases)
    (hrecords : v'.records = dict.set v.records id record) (hrecord : Inherits v.cases record)
    (h : AllInherit v) : AllInherit v' := by
  intro id' record' hget
  rw [hrecords] at hget
  rw [hcases]
  by_cases hsame : id' = id
  · subst hsame
    rw [dict.get_set_self] at hget
    cases hget
    exact hrecord
  · rw [dict.get_set_of_ne _ _ hsame] at hget
    exact h id' record' hget

/-- A call keeps the rule when the record that it writes fits its case, and the
case that it writes fits its records. -/
theorem allInherit_of_writes (hwrites : call.Writes v v') (hfits : call.Fits v)
    (hchecked : call.Checked v) (h : AllInherit v) : AllInherit v' := by
  cases call with
  | create record =>
    obtain ⟨hcases, hrecords | hrecords⟩ := hwrites
    · exact allInherit_of_same hcases hrecords h
    · exact allInherit_of_record hcases hrecords hchecked h
  | delete case_id =>
    obtain ⟨hrecords, hcases | hcases⟩ := hwrites
    · exact allInherit_of_same hcases hrecords h
    · intro id record hget p hp code hcode case hcase
      rw [hrecords] at hget
      rw [hcases] at hcase
      by_cases hsame : p = case_id
      · subst hsame
        rw [dict.get_pop_self] at hcase
        cases hcase
      · rw [dict.get_pop_of_ne _ hsame] at hcase
        exact h id record hget p hp code hcode case hcase
  | classify call =>
    cases call with
    | record_classification event => exact allInherit_of_same hwrites.1 hwrites.2 h
    | update_record id tenant_id now fields author =>
      obtain ⟨hcases, hrecords | ⟨record, hfound, hrecords⟩⟩ := hwrites
      · exact allInherit_of_same hcases hrecords h
      · refine allInherit_of_record hcases hrecords ?_ h
        by_cases hmoves : fields.MovesSupergroup record
        · exact hchecked record hfound hmoves
        · exact hfits record hfound hmoves
    | lookup_or_create event new_case_id =>
      obtain ⟨hrecords, hcases | hcases⟩ := hwrites
      · exact allInherit_of_same hcases hrecords h
      · intro id record hget p hp code hcode case hcase
        rw [hrecords] at hget
        rw [hcases] at hcase
        by_cases hsame : p = new_case_id
        · subst hsame
          exact absurd hp (hchecked id record hget)
        · rw [dict.get_set_of_ne _ _ hsame] at hcase
          exact h id record hget p hp code hcode case hcase
    | update_case call =>
      obtain ⟨hrecords, hcases | ⟨case, hcase, hcases⟩⟩ := hwrites
      · exact allInherit_of_same hcases hrecords h
      · intro id record hget p hp code hcode case' hcase' parent_sg hparent
        rw [hrecords] at hget
        rw [hcases] at hcase'
        by_cases hsame : p = call.case_id
        · subst hsame
          rw [dict.get_set_self] at hcase'
          cases hcase'
          by_cases hre : call.fields.Reclassifies case
          · exact hfits case hcase hre id record hget hp code hcode parent_sg hparent
          · have hkept : (call.fields.apply case).supergroup_code = case.supergroup_code :=
              not_not.mp hre
            rw [hkept] at hparent
            exact h id record hget _ hp code hcode case hcase parent_sg hparent
        · rw [dict.get_set_of_ne _ _ hsame] at hcase'
          exact h id record hget p hp code hcode case' hcase' parent_sg hparent

end writes

/-! ## In memory -/

section memory

variable {stores : MemoryStores}

theorem memory_call_writes (call : InheritanceCall) :
    call.Writes stores.classified (endState (call.in_memory stores)).classified := by
  cases call with
  | create record => exact ⟨rfl, Or.inr rfl⟩
  | delete case_id => exact ⟨rfl, Or.inr rfl⟩
  | classify call => exact (memory_writes call).1

end memory

/-! ## On the database -/

/-- The case of every record is there. -/
def ParentsExist (v : ClassifiedRows) : Prop :=
  ∀ id record, dict.get v.records id = some record →
    ∀ case_id, record.parent_case_id = some case_id → dict.get v.cases case_id ≠ none

/-- What a call has done that returned: nothing to the cases and the records,
or it wrote what the trigger and the foreign keys let pass. -/
def InheritanceCall.Accepted (v v' : ClassifiedRows) (call : InheritanceCall) : Prop :=
  (v'.cases = v.cases ∧ v'.records = v.records ∨ call.Writes v v' ∧ call.Checked v) ∧
    ParentsExist v'

section database

variable {config : InheritanceConfig} {others : RowChecks} {db : CaseDatabase} {tables : Tables}

theorem parentsExist_of_same {v v' : ClassifiedRows} (hcases : v'.cases = v.cases)
    (hrecords : v'.records = v.records) (h : ParentsExist v) : ParentsExist v' := by
  intro id record hget
  rw [hrecords] at hget
  rw [hcases]
  exact h id record hget

theorem parentsExist_of_record {v v' : ClassifiedRows} {id : String} {record : ChildCase}
    (hcases : v'.cases = v.cases) (hrecords : v'.records = dict.set v.records id record)
    (hrecord : ∀ case_id, record.parent_case_id = some case_id → dict.get v.cases case_id ≠ none)
    (h : ParentsExist v) : ParentsExist v' := by
  intro id' record' hget
  rw [hrecords] at hget
  rw [hcases]
  by_cases hsame : id' = id
  · subst hsame
    rw [dict.get_set_self] at hget
    cases hget
    exact hrecord
  · rw [dict.get_set_of_ne _ _ hsame] at hget
    exact h id' record' hget

theorem parentsExist_of_case {v v' : ClassifiedRows} {id : String} {case : OrderCase}
    (hcases : v'.cases = dict.set v.cases id case) (hrecords : v'.records = v.records)
    (h : ParentsExist v) : ParentsExist v' := by
  intro id' record hget case_id hp
  rw [hrecords] at hget
  rw [hcases]
  by_cases hsame : case_id = id
  · subst hsame
    simp
  · rw [dict.get_set_of_ne _ _ hsame]
    exact h id' record hget case_id hp

theorem database_open_rows {event : InboundEvent} {new_case_id : String} :
    returns (DatabaseBackedCaseStore.attach_or_open db new_case_id event none tables)
      fun found => dict.get tables.api.cases new_case_id = none ∧
        found.1.classified.cases =
          dict.set tables.api.cases new_case_id (event.order_case new_case_id) ∧
        found.1.classified.records = tables.api.records := by
  unfold DatabaseBackedCaseStore.attach_or_open
  refine returns_ite (fun _ => returns_error _) fun _ => ?_
  refine returns_ite (fun _ => returns_error _) fun hunused => ?_
  refine returns_bind fun correlation _ => ?_
  refine returns_bind fun history _ => (returns_pure _).mpr ?_
  exact ⟨by simpa using hunused, rfl, rfl⟩

theorem inherits_of_enforced (hstrict : config.Strict) {cases : List (String × OrderCase)}
    {record : ChildCase}
    (h : config.enforce_child_supergroup_inheritance cases record = none) :
    Inherits cases record := by
  intro case_id hp code hcode case hcase parent_sg hparent
  unfold InheritanceConfig.enforce_child_supergroup_inheritance at h
  rw [hp, hcode] at h
  simp only [hcase, Option.bind_some, hparent] at h
  by_contra hdiffers
  rw [if_neg hdiffers] at h
  split at h
  · cases h
  · cases h

theorem foreign_keys_none {cases : List (String × OrderCase)} {record : ChildCase}
    (h : config.foreign_keys cases record = none) :
    (∀ case_id, record.parent_case_id = some case_id → dict.get cases case_id ≠ none) ∧
      ∀ code, record.supergroup_code = some code → code ∈ config.case_supergroup := by
  unfold InheritanceConfig.foreign_keys at h
  split at h
  · rename_i hkeys
    refine ⟨fun case_id hp => ?_, fun code hcode => ?_⟩
    · have hcase := hkeys.1
      rw [hp, Option.all_some] at hcase
      exact Option.isSome_iff_ne_none.mp hcase
    · have hknown := hkeys.2
      rw [hcode, Option.all_some] at hknown
      exact of_decide_eq_true hknown
  · cases h

/-- An update that changes the supergroup fires the trigger. -/
theorem fires_of_moved {fields : RecordFields} {old : ChildCase}
    (hmoves : fields.MovesSupergroup old)
    (hset : fields.supergroup_code.getD old.supergroup_code ≠ none)
    (hknown : ∀ code, fields.supergroup_code.getD old.supergroup_code = some code →
      code ∈ config.case_supergroup) : config.fires fields old = true := by
  unfold InheritanceConfig.fires
  cases config.database with
  | sqlite =>
    obtain ⟨code, hcode⟩ := Option.ne_none_iff_exists'.mp hset
    have hnamed : code ≠ "" := fun h => config.named (h ▸ hknown code hcode)
    unfold RecordFields.MovesSupergroup at hmoves
    rw [hcode] at hmoves ⊢
    rcases hold : old.supergroup_code with _ | was
    · simpa using hnamed
    · rw [hold] at hmoves
      simpa using hmoves
  | postgres =>
    unfold RecordFields.MovesSupergroup at hmoves
    rcases hgiven : fields.supergroup_code with _ | given
    · rw [hgiven] at hmoves
      exact absurd rfl hmoves
    · rfl

theorem database_create_accepted (hstrict : config.Strict)
    (hparents : ParentsExist tables.classified) (record : ChildCase) :
    returns (DatabaseBackedStore.create config others record tables) fun r =>
      (InheritanceCall.create record).Accepted tables.classified r.1.classified := by
  unfold DatabaseBackedStore.create
  refine returns_ite (fun _ => returns_error _) fun _ => ?_
  split
  · exact returns_error _
  · rename_i hpasses
    rw [Option.or_eq_none_iff, Option.or_eq_none_iff] at hpasses
    refine (returns_ok _).mpr ⟨Or.inr ⟨⟨rfl, Or.inr rfl⟩, ?_⟩, ?_⟩
    · exact inherits_of_enforced hstrict hpasses.1.1
    · exact parentsExist_of_record (v := tables.classified) rfl rfl
        (foreign_keys_none hpasses.1.2).1 hparents

theorem database_delete_accepted (hparents : ParentsExist tables.classified) (case_id : String) :
    returns (DatabaseBackedCaseStore.delete db case_id tables) fun r =>
      (InheritanceCall.delete case_id).Accepted tables.classified r.1.classified := by
  unfold DatabaseBackedCaseStore.delete
  rcases dict.get tables.api.cases case_id with _ | case
  · exact (returns_ok _).mpr ⟨Or.inl ⟨rfl, rfl⟩, hparents⟩
  dsimp only
  refine returns_ite (fun _ => returns_error _) fun hfree => ?_
  refine (returns_ok _).mpr ⟨Or.inr ⟨⟨rfl, Or.inr rfl⟩, trivial⟩, ?_⟩
  intro id record hget p hp
  have hother : p ≠ case_id := by
    intro hsame
    subst hsame
    refine hfree (Or.inr (Or.inl ?_))
    rw [List.any_eq_true]
    exact ⟨(id, record), dict.mem_of_get hget, by simpa using hp⟩
  show dict.get (dict.pop tables.api.cases case_id) p ≠ none
  rw [dict.get_pop_of_ne _ hother]
  exact hparents id record hget p hp

/-- The case that a lookup opens has an id that no case had. -/
theorem database_lookup_accepted (hparents : ParentsExist tables.classified)
    (event : InboundEvent) (new_case_id : String) :
    returns (DatabaseBackedCaseStore.lookup_or_create db new_case_id event tables) fun r =>
      (InheritanceCall.classify (.lookup_or_create event new_case_id)).Accepted
        tables.classified r.1.classified := by
  unfold DatabaseBackedCaseStore.lookup_or_create
  refine returns_bind fun existing _ => ?_
  rcases existing with _ | existing_id
  · refine returns_mono database_open_rows fun found hfound => ?_
    obtain ⟨hunused, hcases, hrecords⟩ := hfound
    refine ⟨Or.inr ⟨⟨hrecords, Or.inr hcases⟩, ?_⟩,
      parentsExist_of_case (v := tables.classified) hcases hrecords hparents⟩
    intro id record hget hp
    exact hparents id record hget new_case_id hp hunused
  · refine returns_mono database_attach_cases fun found hfound => ?_
    rw [hfound.2.2]
    exact ⟨Or.inl ⟨rfl, rfl⟩, hparents⟩

theorem database_update_case_accepted (hparents : ParentsExist tables.classified)
    (call : UpdateCall) :
    returns (DatabaseBackedCaseStore.update others call tables) fun r =>
      (InheritanceCall.classify (.update_case call)).Accepted tables.classified
        r.1.classified := by
  refine returns_mono (database_update_case_done call) fun r hdone => ?_
  have hwrites := writes_of_done hdone
  refine ⟨Or.inr ⟨hwrites, trivial⟩, ?_⟩
  obtain ⟨hrecords, hcases | ⟨case, -, hcases⟩⟩ := hwrites
  · exact parentsExist_of_same hcases hrecords hparents
  · exact parentsExist_of_case hcases hrecords hparents

theorem database_record_classification_accepted (hparents : ParentsExist tables.classified)
    (event : Classification) :
    returns (DatabaseBackedCaseStore.record_classification event tables) fun r =>
      (InheritanceCall.classify (.record_classification event)).Accepted tables.classified
        r.1.classified := by
  refine returns_mono (database_record_classification_done event) fun r hdone => ?_
  exact ⟨Or.inl ⟨hdone.1, hdone.2.1⟩, parentsExist_of_same hdone.1 hdone.2.1 hparents⟩

/-- An update that returned passed its own tests and the constraints. -/
theorem update_record_passes {checks : RowChecks} (id tenant_id now : String)
    (fields : RecordFields) (author : Attribution) :
    returns (DatabaseBackedStore.update checks id tenant_id now fields author tables) fun _ =>
      ∀ record, of_tenant tenant_id (dict.get tables.api.records id) = some record →
        (fields.MovesSupergroup record →
          fields.supergroup_code.getD record.supergroup_code ≠ none) ∧
        checks.record_row tables (fields.apply now record) = none := by
  unfold DatabaseBackedStore.update
  rcases of_tenant tenant_id (dict.get tables.api.records id) with _ | record
  · refine (returns_ok _).mpr fun record h => ?_
    cases h
  refine returns_bind fun _ hvalid => ?_
  dsimp only
  split
  · exact returns_error _
  · rename_i hrow
    intro r _ record' h
    cases h
    refine ⟨fun hmoves hnone => ?_, hrow⟩
    unfold RecordFields.validate at hvalid
    rw [if_pos ⟨hmoves, hnone⟩] at hvalid
    cases hvalid

theorem database_update_record_accepted (hstrict : config.Strict)
    (hparents : ParentsExist tables.classified) (id tenant_id now : String)
    (fields : RecordFields) (author : Attribution) :
    returns (DatabaseBackedStore.update (config.checks others id fields) id tenant_id now fields
        author tables) fun r =>
      (InheritanceCall.classify (.update_record id tenant_id now fields author)).Accepted
        tables.classified r.1.classified := by
  intro r hr
  have hwrites := writes_of_done
    (database_update_record_done id tenant_id now fields author r hr)
  have hpasses := update_record_passes id tenant_id now fields author r hr
  have hkeys : ∀ record, of_tenant tenant_id (dict.get tables.api.records id) = some record →
      config.foreign_keys tables.api.cases (fields.apply now record) = none := by
    intro record hfound
    have hrow := (hpasses record hfound).2
    unfold InheritanceConfig.checks at hrow
    rw [Option.or_eq_none_iff, Option.or_eq_none_iff] at hrow
    exact hrow.1.2
  refine ⟨Or.inr ⟨hwrites, ?_⟩, ?_⟩
  · intro record hfound hmoves
    obtain ⟨hset, hrow⟩ := hpasses record hfound
    have hfires : config.fires fields record = true :=
      fires_of_moved hmoves (hset hmoves) (foreign_keys_none (hkeys record hfound)).2
    have hget : dict.get tables.api.records id = some record := by
      unfold of_tenant at hfound
      rw [Option.filter_eq_some_iff] at hfound
      exact hfound.1
    unfold InheritanceConfig.checks at hrow
    rw [Option.or_eq_none_iff, Option.or_eq_none_iff, hget, Option.any_some, if_pos hfires]
      at hrow
    exact inherits_of_enforced hstrict hrow.1.1
  · obtain ⟨hcases, hrecords | ⟨record, hfound, hrecords⟩⟩ := hwrites
    · exact parentsExist_of_same hcases hrecords hparents
    · exact parentsExist_of_record hcases hrecords
        (foreign_keys_none (hkeys record hfound)).1 hparents

theorem transaction_accepted {α : Type} {f : Tables → Except PyErr (Tables × α)}
    {call : InheritanceCall}
    (h : returns (f tables) fun r => call.Accepted tables.classified r.1.classified) :
    endState ((do let _ ← transaction f) tables) = tables ∨
      call.Accepted tables.classified
        (endState ((do let _ ← transaction f) tables)).classified := by
  rw [run_bind]
  unfold transaction
  rcases hf : f tables with e | r
  · exact Or.inl rfl
  · exact Or.inr (h r hf)

/-- A call on the database either raised and changed nothing, or is accepted. -/
theorem database_call_accepted (hstrict : config.Strict) (call : InheritanceCall)
    (hparents : ParentsExist tables.classified) :
    endState (call.on_database config others db tables) = tables ∨
      call.Accepted tables.classified
        (endState (call.on_database config others db tables)).classified := by
  cases call with
  | create record => exact transaction_accepted (database_create_accepted hstrict hparents record)
  | delete case_id => exact transaction_accepted (database_delete_accepted hparents case_id)
  | classify call =>
    cases call with
    | lookup_or_create event new_case_id =>
      exact transaction_accepted (database_lookup_accepted hparents event new_case_id)
    | update_case call => exact transaction_accepted (database_update_case_accepted hparents call)
    | update_record id tenant_id now fields author =>
      exact transaction_accepted
        (database_update_record_accepted hstrict hparents id tenant_id now fields author)
    | record_classification event =>
      exact transaction_accepted (database_record_classification_accepted hparents event)

end database

/-! ## Runs -/

def memory_call (call : InheritanceCall) (stores : MemoryStores) : MemoryStores :=
  endState (call.in_memory stores)

def database_call (config : InheritanceConfig) (others : RowChecks) (db : CaseDatabase)
    (call : InheritanceCall) (tables : Tables) : Tables :=
  endState (call.on_database config others db tables)

/-- Under STRICT inheritance, in every run on the database in which records are
put only under cases that they fit and no case is reclassified away from its
records, every record has the supergroup of its case after every call. In
memory, so it is when each record that is written fits its case as well. -/
theorem records_inherit_while_cases_and_parents_stay (config : InheritanceConfig)
    (hstrict : config.Strict) (others : RowChecks) (db : CaseDatabase)
    (calls : List InheritanceCall) :
    (∀ tables : Tables, AllInherit tables.classified → ParentsExist tables.classified →
      AllSteps (database_call config others db) (fun call t => call.Fits t.classified)
        tables calls →
      AllSteps (database_call config others db)
        (fun call t => AllInherit (database_call config others db call t).classified)
        tables calls) ∧
    (∀ stores : MemoryStores, AllInherit stores.classified →
      AllSteps memory_call
        (fun call s => call.Fits s.classified ∧ call.Checked s.classified) stores calls →
      AllSteps memory_call (fun call s => AllInherit (memory_call call s).classified)
        stores calls) := by
  refine ⟨fun tables hinherit hparents hfits => ?_, fun stores hinherit hfits => ?_⟩
  · have hrun := invariant_after
      (I := fun t : Tables => AllInherit t.classified ∧ ParentsExist t.classified)
      (fun call t hfits hinv => ?_) ⟨hinherit, hparents⟩ hfits
    · exact allSteps_mono (fun _ _ h => h.1) hrun
    · unfold database_call
      obtain hsame | hwritten := database_call_accepted hstrict call hinv.2
      · rw [hsame]
        exact hinv
      · refine ⟨?_, hwritten.2⟩
        obtain ⟨hcases, hrecords⟩ | ⟨hwrites, hchecked⟩ := hwritten.1
        · exact allInherit_of_same hcases hrecords hinv.1
        · exact allInherit_of_writes hwrites hfits hchecked hinv.1
  · refine invariant_after (I := fun s : MemoryStores => AllInherit s.classified)
      (fun call s hfits hinv => ?_) hinherit hfits
    exact allInherit_of_writes (memory_call_writes call) hfits.1 hfits.2 hinv

def strictConfig : InheritanceConfig where
  database := .sqlite
  origin _ := some "API"
  case_supergroup := ["SG_BLOCK_PRICING", "SG_FULFILLMENT"]
  named := by decide

def noChecks : RowChecks := ⟨fun _ _ => none, fun _ _ => none⟩

def noKeys : CaseDatabase := ⟨fun _ => none, fun _ _ => false⟩

/-- A lookup that opens a case in this supergroup. -/
def openCase (case_id code : String) : InheritanceCall :=
  .classify (.lookup_or_create
    { tenant_id := "T1", origin := "API", sales_order_id := some case_id,
      supergroup_code := some code } case_id)

/-- A record under the case `C1`, of its supergroup. -/
def createChild : InheritanceCall :=
  .create { orphanedRecord with
    parent_case_id := some "C1", supergroup_code := some "SG_FULFILLMENT" }

/-- The merge of duplicate cases puts the record under another case. -/
def mergeChild : InheritanceCall :=
  .classify (.update_record "E1" "T1" "t2" { parent_case_id := some (some "C2") } {})

def moveParent : InheritanceCall :=
  .classify (.update_case ⟨"C1", { supergroup_code := some (some "SG_BLOCK_PRICING") }, asHuman,
    none⟩)

theorem a_record_is_created_with_the_supergroup_of_its_case :
    AllSteps (database_call strictConfig noChecks noKeys)
      (fun call t => AllInherit (database_call strictConfig noChecks noKeys call t).classified)
      {} [openCase "C1" "SG_FULFILLMENT", createChild] := by
  have h := records_inherit_while_cases_and_parents_stay strictConfig (Or.inl rfl) noChecks
    noKeys [openCase "C1" "SG_FULFILLMENT", createChild]
  refine h.1 {} (fun id record hget => ?_) (fun id record hget => ?_) ⟨trivial, trivial, trivial⟩
  · cases hget
  · cases hget

/-- The supergroup of the record `E1`, and the one of its case. -/
def supergroups (tables : Tables) : Option (Option String × Option String) := do
  let record ← dict.get tables.api.records "E1"
  let case ← (record.parent_case_id).bind (dict.get tables.api.cases)
  return (record.supergroup_code, case.supergroup_code)

theorem not_allInherit_of_supergroups {tables : Tables} (code parent_sg : String)
    (h : supergroups tables = some (some code, some parent_sg)) (hdiffers : code ≠ parent_sg) :
    ¬ AllInherit tables.classified := by
  intro hinherit
  unfold supergroups at h
  simp only [Option.bind_eq_bind, Option.bind_eq_some_iff] at h
  obtain ⟨record, hrecord, case, ⟨case_id, hparent, hcase⟩, hpair⟩ := h
  obtain ⟨hcode, hsg⟩ := Prod.mk.inj (Option.some.inj hpair)
  exact hdiffers (hinherit "E1" record hrecord case_id hparent code hcode case hcase parent_sg hsg)

/-- A record is put under a case of another supergroup, and a case that has a
record is reclassified; neither call is refused. -/
theorem a_merge_and_a_reclassification_part_a_record_from_its_case :
    ¬ AllInherit (run (database_call strictConfig noChecks noKeys) {}
        [openCase "C1" "SG_FULFILLMENT", openCase "C2" "SG_BLOCK_PRICING", createChild,
          mergeChild]).classified ∧
      ¬ AllInherit (run (database_call strictConfig noChecks noKeys) {}
        [openCase "C1" "SG_FULFILLMENT", createChild, moveParent]).classified := by
  constructor
  · refine not_allInherit_of_supergroups "SG_FULFILLMENT" "SG_BLOCK_PRICING" ?_ (by decide)
    decide +kernel
  · refine not_allInherit_of_supergroups "SG_FULFILLMENT" "SG_BLOCK_PRICING" ?_ (by decide)
    decide +kernel

end asoe
