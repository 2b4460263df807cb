-- The cache of the intents of a case's children. A reader fills it from the
-- records, and the events of a case drop its entry, but for the closing one.
-- A new record is stored after the event of its case went out. So what is
-- cached stays fresh exactly while no write of a record comes too late for
-- the last drop.
import Asoe.CaseUpdates
import Asoe.CaseOverrides
import Asoe.Lib.ReadThrough
import Mathlib.Data.Finset.Dedup

namespace asoe

open py prog runs interleaving readthrough

/-! ## The cache -/

/-- Tenant and case. -/
abbrev CaseKey := String × String

/-- The tables, and the `_cache` of the process. -/
structure CachedTables where
  tables : Tables := {}
  intents : List (CaseKey × Finset String) := []
  deriving DecidableEq

/-- The intents of the records, those that are set. -/
def intents_of (records : List ChildCase) : Finset String :=
  ((records.filterMap fun r => r.intent.map Intent.value).filter fun text => text ≠ "").toFinset

/-- The intents of the children, as a fresh `list_by_case` gives them. -/
def listed_intents (cfg : Config) (tables : Tables) (key : CaseKey) : Finset String :=
  intents_of (list_by_case cfg tables.api key.1 key.2)

def intents_for (cfg : Config) (tenant_id case_id : String) (s : CachedTables) :
    Finset String × CachedTables :=
  match dict.get s.intents (tenant_id, case_id) with
  | some cached => (cached, s)
  | none =>
    let intents := listed_intents cfg s.tables (tenant_id, case_id)
    (intents, { s with intents := dict.set s.intents (tenant_id, case_id) intents })

def invalidate (tenant_id case_id : String) (s : CachedTables) : CachedTables :=
  { s with intents := dict.pop s.intents (tenant_id, case_id) }

/-! ## The events of a case -/

def publish_case_open (case : OrderCase) : CachedTables → CachedTables :=
  invalidate case.tenant_id case.case_id

def publish_case_update (case : OrderCase) : CachedTables → CachedTables :=
  invalidate case.tenant_id case.case_id

def publish_case_summary_changed (case : OrderCase) : CachedTables → CachedTables :=
  invalidate case.tenant_id case.case_id

/-- The closing event leaves the cache alone. -/
def publish_case_close (_case : OrderCase) : CachedTables → CachedTables := id

inductive CaseEvent where
  | case_open | case_update | case_summary_changed | case_close
  deriving DecidableEq

def CaseEvent.publish : CaseEvent → OrderCase → CachedTables → CachedTables
  | .case_open => publish_case_open
  | .case_update => publish_case_update
  | .case_summary_changed => publish_case_summary_changed
  | .case_close => publish_case_close

/-- The entry that an event drops. -/
def CaseEvent.drops (event : CaseEvent) (case : OrderCase) : Option CaseKey :=
  match event with
  | .case_close => none
  | _ => some (case.tenant_id, case.case_id)

/-- The event of a roll-up that moved the status. -/
def status_event (case : OrderCase) : CaseEvent :=
  if case.status ∈ TERMINAL_CASE_STATUSES then .case_close else .case_update

/-! ## The roll-up, step by step -/

/-- The fields that a roll-up writes. -/
def rolled_fields (env : StepEnv) (case : OrderCase) (status : CaseStatus) : CaseFields :=
  if status ∈ TERMINAL_CASE_STATUSES then
    if case.closed_at.isNone then { status := some status, closed_at := some (some env.now_iso) }
    else { status := some status }
  else if case.closed_at.isSome then { status := some status, closed_at := some none }
  else { status := some status }

/-- `case_store.update` of a row as it is now. -/
def write_case (call : UpdateCall) (tables : Tables) : Except PyErr (Tables × OrderCase) := do
  let existing ← call.read tables
  let updated := call.fields.apply existing
  return ({ tables with api := put_case call.case_id updated tables.api }, updated)

/-- How far `recompute_case_status` has come, and what it returns. -/
inductive RollState where
  | reading
  | aggregating (case : OrderCase)
  | updating (case : OrderCase) (status : CaseStatus)
  | rolled (case : Option OrderCase) (changed : Bool)
  | raised (e : PyErr)

def roll_next (cfg : Config) (env : StepEnv) (tenant_id case_id : String)
    (incoming : List LifecycleState) : RollState → Tables → RollState × Tables
  | .reading, tables =>
    match dict.get tables.api.cases case_id with
    | none => (.rolled none false, tables)
    | some case =>
      if case.pending_override.isSome then (.rolled (some case) false, tables)
      else (.aggregating case, tables)
  | .aggregating case, tables =>
    match rolled_up_status cfg tables.api tenant_id case_id incoming with
    | none => (.rolled (some case) false, tables)
    | some status =>
      if status = case.status then (.rolled (some case) false, tables)
      else (.updating case status, tables)
  | .updating case status, tables =>
    match write_case { case_id := case_id, fields := rolled_fields env case status } tables with
    | .error e => (.raised e, tables)
    | .ok (tables', updated) => (.rolled (some updated) true, tables')
  | roll, tables => (roll, tables)

/-! ## The calls -/

/-- The persistence of an event. How its case is found or opened is left
open, but that leaves the records alone. -/
structure Persist where
  env : StepEnv
  tenant_id : String
  trace_id : String
  state : GraphState
  resolution_data : ResolutionData
  resolve_or_open_case : Tables → Except PyErr (Tables × OrderCase × Bool)
  keeps_records : ∀ tables found, resolve_or_open_case tables = .ok found →
    found.1.api.records = tables.api.records

/-- A HITL operation or a reanalysis: the update of one record, which stays
with its case, and whether the handler rolls the case up afterwards. -/
structure RecordAct where
  env : StepEnv
  tenant_id : String
  exception_id : String
  message : String
  fields : ChildCase → ChildCase
  reaggregates : Bool
  in_place : ∀ r, (fields r).tenant_id = r.tenant_id ∧ (fields r).parent_case_id = r.parent_case_id

def RecordAct.reanalysis (env : StepEnv) (tenant_id exception_id : String)
    (final_state : GraphState) : RecordAct where
  env := env
  tenant_id := tenant_id
  exception_id := exception_id
  message := "Failed to update exception after reanalysis."
  fields := reanalyzed_record env final_state
  reaggregates := true
  in_place _ := ⟨rfl, rfl⟩

/-- A HITL operation on the case itself. -/
structure CaseAct where
  write : List (String × OrderCase) → Except PyErr (List (String × OrderCase) × OrderCase)
  event : OrderCase → CaseEvent

inductive ServiceCall where
  | persist (call : Persist)
  | act (call : RecordAct)
  | amend (call : CaseAct)
  | read (tenant_id case_id : String)

/-- How far a call has come. A call on a record keeps the record as it was
and as it wrote it, and leaves with the event that it still has to publish. -/
inductive ServiceState where
  | start
  | materialising (found : OrderCase) (opened_now : Bool) (roll : RollState)
  | announcing (case : OrderCase) (event : CaseEvent)
  | storing (parent : OrderCase)
  | reaggregating (old new : ChildCase) (case_id : String) (roll : RollState)
  | leaving (old new : ChildCase) (event : Option (CaseEvent × OrderCase)) (error : Option ApiError)
  | amended (case : OrderCase)
  | missed
  | listed (intents : Finset String)
  | done (answer : Option (Finset String))
  | failed (e : ApiError)

/-- `materialise_for_event` after its roll-up. -/
def after_materialise (found : OrderCase) (opened_now : Bool) : RollState → ServiceState
  | .rolled case changed =>
    let case := case.getD found
    if opened_now then .announcing case .case_open
    else if changed then .announcing case (status_event case)
    else .announcing case .case_summary_changed
  | .raised e => .failed (.raised e)
  | roll => .materialising found opened_now roll

/-- `_reaggregate_parent_case` after its roll-up. -/
def after_reaggregate (old new : ChildCase) (case_id : String) : RollState → ServiceState
  | .rolled none _ => .leaving old new none none
  | .rolled (some case) true => .leaving old new (some (status_event case, case)) none
  | .rolled (some case) false => .leaving old new (some (.case_summary_changed, case)) none
  | .raised e => .leaving old new none (some (.raised e))
  | roll => .reaggregating old new case_id roll

/-- The tables with the record of the event. -/
def Persist.create (call : Persist) (parent : OrderCase) (tables : Tables) : Tables :=
  { tables with
    api := put_record tables.api call.env.new_id
      (record_of call.env call.tenant_id call.trace_id parent call.resolution_data call.state) }

def Persist.next (cfg : Config) (call : Persist) :
    ServiceState → CachedTables → ServiceState × CachedTables
  | .start, s =>
    match call.resolve_or_open_case s.tables with
    | .error e => (.failed (.raised e), s)
    | .ok (tables, case, opened_now) =>
      (.materialising case opened_now .reading, { s with tables := tables })
  | .materialising found opened_now roll, s =>
    let next := roll_next cfg call.env call.tenant_id found.case_id
      [resolve_lifecycle call.state.final_status] roll s.tables
    (after_materialise found opened_now next.1, { s with tables := next.2 })
  | .announcing case event, s => (.storing case, event.publish case s)
  | .storing parent, s => (.done none, { s with tables := call.create parent s.tables })
  | l, s => (l, s)

/-- The last event of a call, when it has one. -/
def publish_last (event : Option (CaseEvent × OrderCase)) (s : CachedTables) : CachedTables :=
  match event with
  | some (event, case) => event.publish case s
  | none => s

/-- The record as the call writes it. -/
def RecordAct.written (call : RecordAct) (old : ChildCase) : ChildCase :=
  { call.fields old with updated_at := call.env.now_iso }

def RecordAct.update (call : RecordAct) (old : ChildCase) (tables : Tables) : Tables :=
  { tables with api := put_record tables.api call.exception_id (call.written old) }

def RecordAct.next (cfg : Config) (call : RecordAct) :
    ServiceState → CachedTables → ServiceState × CachedTables
  | .start, s =>
    match get_record s.tables.api call.exception_id call.tenant_id with
    | none => (.failed (.asoe_error "UPDATE_FAILED" call.message 500), s)
    | some old =>
      let new := call.written old
      let s := { s with tables := call.update old s.tables }
      match call.reaggregates, new.parent with
      | true, some case_id => (.reaggregating old new case_id .reading, s)
      | _, _ => (.leaving old new none none, s)
  | .reaggregating old new case_id roll, s =>
    let next := roll_next cfg call.env call.tenant_id case_id [] roll s.tables
    (after_reaggregate old new case_id next.1, { s with tables := next.2 })
  | .leaving _ _ event error, s =>
    ((error.map ServiceState.failed).getD (.done none), publish_last event s)
  | l, s => (l, s)

def CaseAct.next (call : CaseAct) : ServiceState → CachedTables → ServiceState × CachedTables
  | .start, s =>
    match call.write s.tables.api.cases with
    | .error e => (.failed (.raised e), s)
    | .ok (cases, case) =>
      (.amended case,
        { s with tables := { s.tables with api := { s.tables.api with cases := cases } } })
  | .amended case, s => (.done none, (call.event case).publish case s)
  | l, s => (l, s)

/-- `intents_for`, which lists the records outside its lock. -/
def read_next (cfg : Config) (key : CaseKey) :
    ServiceState → CachedTables → ServiceState × CachedTables
  | .start, s =>
    match dict.get s.intents key with
    | some cached => (.done (some cached), s)
    | none => (.missed, s)
  | .missed, s => (.listed (listed_intents cfg s.tables key), s)
  | .listed intents, s =>
    (.done (some intents), { s with intents := dict.set s.intents key intents })
  | l, s => (l, s)

def ServiceCall.next (cfg : Config) : ServiceCall → ServiceState → CachedTables →
    ServiceState × CachedTables
  | .persist call => call.next cfg
  | .act call => call.next cfg
  | .amend call => call.next
  | .read tenant_id case_id => read_next cfg (tenant_id, case_id)

/-! ## What a call owes -/

/-- A call that changed the intent of a record owes its case an event, until
it has left. -/
def ServiceState.owes : ServiceState → Option CaseKey
  | .reaggregating old new _ _ | .leaving old new _ _ =>
    if new.intent = old.intent then none else old.parent_case_id.map (old.tenant_id, ·)
  | _ => none

/-- The entry that the event of a leaving call drops. -/
def dropped (event : Option (CaseEvent × OrderCase)) : Option CaseKey :=
  event.bind fun p => p.1.drops p.2

/-- What must hold when a call takes its next step, where `Others` are the
cases to which other calls owe an event. A record is stored while no intents
are cached that it changes. A reader fills in what the records still give. A
call that owes an event leaves with one that drops the entry, or there is
none to drop. -/
def InTimeBeside (cfg : Config) (Others : CaseKey → Prop) (s : CachedTables) :
    ServiceCall → ServiceState → Prop
  | .persist call, .storing parent => ∀ key, ¬ Others key → dict.get s.intents key = none ∨
      listed_intents cfg (call.create parent s.tables) key = listed_intents cfg s.tables key
  | .act _, .leaving old new event error => ∀ key,
      (ServiceState.leaving old new event error).owes = some key → dropped event ≠ some key →
      Others key ∨ Current s.intents (listed_intents cfg s.tables) key
  | .read tenant_id case_id, .listed intents =>
      Others (tenant_id, case_id) ∨ intents = listed_intents cfg s.tables (tenant_id, case_id)
  | _, _ => True

/-! ## One step -/

section steps

variable {cfg : Config} {s : CachedTables} {tables : Tables} {Others : CaseKey → Prop}
  {l l' : ServiceState}

/-- Each entry is current but for the cases to which an event is owed. -/
abbrev FreshBut (cfg : Config) (Owed : CaseKey → Prop) (s : CachedTables) : Prop :=
  Coherent s.intents (listed_intents cfg s.tables) Owed

theorem listed_intents_congr (h : tables.api.records = s.tables.api.records) :
    listed_intents cfg tables = listed_intents cfg s.tables := by
  funext key
  unfold listed_intents list_by_case
  rw [h]

theorem current_publish {event : CaseEvent} {case : OrderCase} {key : CaseKey} :
    Current (event.publish case s).intents (listed_intents cfg (event.publish case s).tables) key ↔
      event.drops case = some key ∨ Current s.intents (listed_intents cfg s.tables) key := by
  have hdrop : ∀ k : CaseKey, Current (dict.pop s.intents k) (listed_intents cfg s.tables) key ↔
      some k = some key ∨ Current s.intents (listed_intents cfg s.tables) key := by
    intro k
    by_cases hk : key = k
    · subst hk
      exact iff_of_true current_drop (Or.inl rfl)
    · rw [current_drop_of_ne hk]
      simp [Ne.symm hk]
  cases event with
  | case_open => exact hdrop _
  | case_update => exact hdrop _
  | case_summary_changed => exact hdrop _
  | case_close => simp [CaseEvent.publish, publish_case_close, CaseEvent.drops]

theorem current_publish_last {event : Option (CaseEvent × OrderCase)} {key : CaseKey} :
    Current (publish_last event s).intents (listed_intents cfg (publish_last event s).tables) key ↔
      dropped event = some key ∨ Current s.intents (listed_intents cfg s.tables) key := by
  rcases event with _ | ⟨event, case⟩
  · simp [publish_last, dropped]
  · exact current_publish

theorem fresh_of_same {Owed Owed' : CaseKey → Prop} (h : FreshBut cfg Owed s)
    (hrecords : tables.api.records = s.tables.api.records)
    (howed : ∀ key, Owed key → Owed' key) :
    FreshBut cfg Owed' { s with tables := tables } := by
  unfold FreshBut
  rw [listed_intents_congr hrecords]
  exact h.mono howed

theorem write_case_records {call : UpdateCall} :
    returns (write_case call tables) fun found => found.1.api.records = tables.api.records := by
  unfold write_case
  exact returns_bind fun existing _ => (returns_pure _).mpr rfl

theorem roll_next_records {env : StepEnv} {tenant case_id : String}
    {incoming : List LifecycleState} {roll : RollState} :
    (roll_next cfg env tenant case_id incoming roll tables).2.api.records =
      tables.api.records := by
  cases roll with
  | reading =>
    rw [roll_next]
    split
    · rfl
    · split <;> rfl
  | aggregating case =>
    rw [roll_next]
    split
    · rfl
    · split <;> rfl
  | updating case status =>
    rw [roll_next]
    split
    · rfl
    · rename_i tables' updated hwrite
      exact write_case_records _ hwrite
  | rolled case changed => rfl
  | raised e => rfl

theorem after_materialise_owes {found : OrderCase} {opened_now : Bool} {roll : RollState} :
    (after_materialise found opened_now roll).owes = none := by
  unfold after_materialise
  split
  · dsimp only
    split
    · rfl
    · split <;> rfl
  · rfl
  · rfl

theorem after_reaggregate_owes {old new : ChildCase} {case_id : String} {roll : RollState} :
    (after_reaggregate old new case_id roll).owes =
      (ServiceState.reaggregating old new case_id roll).owes := by
  unfold after_reaggregate
  split <;> rfl

/-- Two records in the same place, with the same intent when that is in the
case. -/
def AlikeIn (key : CaseKey) (r r' : ChildCase) : Prop :=
  r'.tenant_id = r.tenant_id ∧ r'.parent_case_id = r.parent_case_id ∧
    (r.tenant_id = key.1 → r.parent_case_id = some key.2 → r'.intent = r.intent)

theorem alikeIn_refl {key : CaseKey} (rs : List ChildCase) : List.Forall₂ (AlikeIn key) rs rs :=
  List.forall₂_same.mpr fun _ _ => ⟨rfl, rfl, fun _ _ => rfl⟩

/-- Lists of such records agree on the intents of the case. -/
theorem intents_of_alike {key : CaseKey} {rs rs' : List ChildCase}
    (h : List.Forall₂ (AlikeIn key) rs rs')
    (hin : ∀ r ∈ rs, r.tenant_id = key.1 ∧ r.parent_case_id = some key.2) :
    intents_of rs' = intents_of rs := by
  have hsame : rs'.map (·.intent) = rs.map (·.intent) := by
    induction h with
    | nil => rfl
    | cons hr _ ih =>
      obtain ⟨ht, hp⟩ := hin _ List.mem_cons_self
      rw [List.map_cons, List.map_cons, hr.2.2 ht hp,
        ih fun r hr => hin r (List.mem_cons_of_mem _ hr)]
  have hmap : ∀ rs : List ChildCase, (rs.filterMap fun r => r.intent.map Intent.value) =
      (rs.map (·.intent)).filterMap fun intent => intent.map Intent.value := by
    intro rs
    rw [List.filterMap_map]
    rfl
  unfold intents_of
  rw [hmap, hmap, hsame]

theorem list_by_case_alike {api api' : Api} {key : CaseKey}
    (h : List.Forall₂ (AlikeIn key) (api.records.map (·.2)) (api'.records.map (·.2))) :
    List.Forall₂ (AlikeIn key) (list_by_case cfg api key.1 key.2)
      (list_by_case cfg api' key.1 key.2) := by
  have htenant : List.Forall₂ (AlikeIn key)
      ((api.records.map (·.2)).filter fun r => r.tenant_id = key.1)
      ((api'.records.map (·.2)).filter fun r => r.tenant_id = key.1) :=
    List.rel_filter (fun r r' hr => by simp [hr.1]) h
  have hparent : ∀ {rs rs' : List ChildCase}, List.Forall₂ (AlikeIn key) rs rs' →
      List.Forall₂ (AlikeIn key) (rs.filter fun r => r.parent_case_id = some key.2)
        (rs'.filter fun r => r.parent_case_id = some key.2) := fun hrs =>
    List.rel_filter (fun r r' hr => by simp [hr.2.1]) hrs
  unfold list_by_case
  rcases cfg.store with _ | _
  · exact hparent htenant
  · exact hparent (List.forall₂_take _ (List.rel_reverse htenant))

theorem mem_list_by_case {api : Api} {key : CaseKey} {r : ChildCase}
    (h : r ∈ list_by_case cfg api key.1 key.2) :
    r.tenant_id = key.1 ∧ r.parent_case_id = some key.2 := by
  unfold list_by_case at h
  dsimp only at h
  split at h
  · simp only [List.mem_filter, decide_eq_true_eq] at h
    exact ⟨h.1.2, h.2⟩
  · simp only [List.mem_filter, decide_eq_true_eq] at h
    have hmem := List.mem_of_mem_take h.1
    rw [List.mem_reverse, List.mem_filter] at hmem
    exact ⟨of_decide_eq_true hmem.2, h.2⟩

theorem intents_of_put {api : Api} {id : String} {old new : ChildCase} {key : CaseKey}
    (hget : dict.get api.records id = some old) (htenant : new.tenant_id = old.tenant_id)
    (hparent : new.parent_case_id = old.parent_case_id)
    (hkey : new.intent = old.intent ∨ old.parent_case_id.map (old.tenant_id, ·) ≠ some key) :
    intents_of (list_by_case cfg (put_record api id new) key.1 key.2) =
      intents_of (list_by_case cfg api key.1 key.2) := by
  refine intents_of_alike (list_by_case_alike ?_) fun r hr => mem_list_by_case hr
  obtain ⟨pre, post, hrecords, hset⟩ := dict.split_of_get hget
  unfold put_record
  rw [hset, hrecords]
  simp only [List.map_append, List.map_cons]
  refine List.rel_append (alikeIn_refl _)
    (.cons ⟨htenant, hparent, fun ht hp => ?_⟩ (alikeIn_refl _))
  refine hkey.resolve_right fun hne => hne ?_
  rw [hp, Option.map_some, ht]

/-- The cases to which an event is owed while a call is in the state `l`. -/
abbrev OwedWith (Others : CaseKey → Prop) (l : ServiceState) (key : CaseKey) : Prop :=
  Others key ∨ l.owes = some key

theorem owedWith_of_none (h : l.owes = none) : OwedWith Others l = Others := by
  funext key
  simp [OwedWith, h]

theorem persist_fresh {call : Persist} (h : FreshBut cfg (OwedWith Others l) s) :
    FreshBut cfg (OwedWith Others (call.next cfg l s).1) (call.next cfg l s).2 ↔
      InTimeBeside cfg Others s (.persist call) l := by
  cases l with
  | start =>
    refine iff_of_true ?_ trivial
    rw [Persist.next]
    split
    · exact h
    · rename_i tables case opened_now hfound
      exact fresh_of_same h (call.keeps_records _ _ hfound) fun key hkey => hkey
  | materialising found opened_now roll =>
    refine iff_of_true ?_ trivial
    rw [Persist.next]
    refine fresh_of_same h roll_next_records fun key hkey => ?_
    unfold OwedWith
    rw [after_materialise_owes]
    exact hkey
  | announcing case event =>
    exact iff_of_true (fun key hkey => current_publish.mpr (Or.inr (h key hkey))) trivial
  | storing parent =>
    rw [owedWith_of_none rfl] at h
    rw [Persist.next, owedWith_of_none rfl]
    exact coherent_write h
  | _ => exact iff_of_true h trivial

theorem act_fresh {call : RecordAct} (h : FreshBut cfg (OwedWith Others l) s) :
    FreshBut cfg (OwedWith Others (call.next cfg l s).1) (call.next cfg l s).2 ↔
      InTimeBeside cfg Others s (.act call) l := by
  cases l with
  | start =>
    refine iff_of_true ?_ trivial
    rw [owedWith_of_none rfl] at h
    rw [RecordAct.next]
    rcases hget : get_record s.tables.api call.exception_id call.tenant_id with _ | old
    · exact h.mono fun key hkey => Or.inl hkey
    obtain ⟨hold, -⟩ := get_record_some hget
    obtain ⟨htenant, hparent⟩ := call.in_place old
    -- Whichever way it goes on, it owes an event to the case that it changed.
    have hkept : ∀ l' : ServiceState,
        l'.owes = (ServiceState.leaving old (call.written old) none none).owes →
        FreshBut cfg (OwedWith Others l') { s with tables := call.update old s.tables } := by
      intro l' howes key hkey
      have hlisted : listed_intents cfg (call.update old s.tables) key =
          listed_intents cfg s.tables key := by
        refine intents_of_put hold htenant hparent ?_
        by_cases hsame : (call.written old).intent = old.intent
        · exact Or.inl hsame
        · refine Or.inr fun hkey' => hkey (Or.inr ?_)
          rw [howes]
          simp only [ServiceState.owes, if_neg hsame]
          exact hkey'
      exact (current_congr hlisted).mpr (h key fun hno => hkey (Or.inl hno))
    dsimp only
    split
    · exact hkept _ rfl
    · exact hkept _ rfl
  | reaggregating old new case_id roll =>
    refine iff_of_true ?_ trivial
    rw [RecordAct.next]
    refine fresh_of_same h roll_next_records fun key hkey => ?_
    unfold OwedWith
    rw [after_reaggregate_owes]
    exact hkey
  | leaving old new event error =>
    have hleft : (call.next cfg (.leaving old new event error) s).1.owes = none := by
      cases error <;> rfl
    rw [owedWith_of_none hleft]
    -- What the call owed is settled by its event, or by what it finds cached.
    constructor
    · intro hfresh key howes hdropped
      by_cases hkey : Others key
      · exact Or.inl hkey
      · exact Or.inr ((current_publish_last.mp (hfresh key hkey)).resolve_left hdropped)
    · intro hkept key hkey
      refine current_publish_last.mpr ?_
      by_cases hdropped : dropped event = some key
      · exact Or.inl hdropped
      right
      by_cases howes : (ServiceState.leaving old new event error).owes = some key
      · exact (hkept key howes hdropped).resolve_left hkey
      · exact h key (not_or.mpr ⟨hkey, howes⟩)
  | _ => exact iff_of_true h trivial

theorem amend_fresh {call : CaseAct} (h : FreshBut cfg (OwedWith Others l) s) :
    FreshBut cfg (OwedWith Others (call.next l s).1) (call.next l s).2 := by
  cases l with
  | start =>
    rw [CaseAct.next]
    split
    · exact h
    · exact fresh_of_same h rfl fun key hkey => hkey
  | amended case => exact fun key hkey => current_publish.mpr (Or.inr (h key hkey))
  | _ => exact h

theorem read_fresh {tenant case_id : String} (h : FreshBut cfg (OwedWith Others l) s) :
    FreshBut cfg (OwedWith Others (read_next cfg (tenant, case_id) l s).1)
        (read_next cfg (tenant, case_id) l s).2 ↔
      InTimeBeside cfg Others s (.read tenant case_id) l := by
  cases l with
  | start =>
    refine iff_of_true ?_ trivial
    rw [read_next]
    split
    · exact h
    · exact h
  | missed => exact iff_of_true h trivial
  | listed intents =>
    rw [owedWith_of_none rfl] at h
    rw [read_next, owedWith_of_none rfl]
    exact coherent_fill h
  | _ => exact iff_of_true h trivial

theorem call_fresh {call : ServiceCall} (h : FreshBut cfg (OwedWith Others l) s) :
    FreshBut cfg (OwedWith Others (call.next cfg l s).1) (call.next cfg l s).2 ↔
      InTimeBeside cfg Others s call l := by
  cases call with
  | persist call => exact persist_fresh h
  | act call => exact act_fresh h
  | amend call => exact iff_of_true (amend_fresh h) trivial
  | read tenant_id case_id => exact read_fresh h

end steps

/-! ## Schedules -/

section schedules

variable {κ : Type} (cfg : Config) (calls : κ → ServiceCall)

def service_next (i : κ) : ServiceState → CachedTables → ServiceState × CachedTables :=
  (calls i).next cfg

/-- All calls at their start, in a process that has cached nothing. -/
def served (tables : Tables) : Conf κ ServiceState CachedTables :=
  ⟨fun _ => .start, { tables := tables }⟩

/-- Some call changed an intent of the case and has not left yet. -/
def Owed (c : Conf κ ServiceState CachedTables) (key : CaseKey) : Prop :=
  ∃ i, (c.locals i).owes = some key

/-- What must hold when the call `i` takes its next step. -/
def InTime (i : κ) (c : Conf κ ServiceState CachedTables) : Prop :=
  InTimeBeside cfg (fun key => ∃ j, j ≠ i ∧ (c.locals j).owes = some key) c.shared (calls i)
    (c.locals i)

/-- Whoever asks for the intents of a case, with no change of them still on
its way, is answered those of its children. -/
def ReadsFresh (c : Conf κ ServiceState CachedTables) : Prop :=
  ∀ tenant_id case_id, ¬ Owed c (tenant_id, case_id) →
    (intents_for cfg tenant_id case_id c.shared).1 =
      listed_intents cfg c.shared.tables (tenant_id, case_id)

variable {cfg calls} {i : κ} {c : Conf κ ServiceState CachedTables}

theorem intents_for_answer {tenant_id case_id : String} {s : CachedTables} :
    (intents_for cfg tenant_id case_id s).1 =
      answer s.intents (listed_intents cfg s.tables) (tenant_id, case_id) := by
  unfold intents_for answer
  split
  · rename_i cached hcached
    rw [hcached]
    rfl
  · rename_i hnone
    rw [hnone]
    rfl

theorem readsFresh_iff : ReadsFresh cfg c ↔ FreshBut cfg (Owed c) c.shared := by
  constructor
  · intro h key hkey
    rw [← answer_eq_iff, ← intents_for_answer]
    exact h key.1 key.2 hkey
  · intro h tenant_id case_id hkey
    rw [intents_for_answer, answer_eq_iff]
    exact h (tenant_id, case_id) hkey

theorem owed_eq (i : κ) :
    Owed c = OwedWith (fun key => ∃ j, j ≠ i ∧ (c.locals j).owes = some key) (c.locals i) := by
  funext key
  refine propext ⟨fun howed => ?_, fun howed => ?_⟩
  · obtain ⟨j, hj⟩ := howed
    by_cases hji : j = i
    · subst hji
      exact Or.inr hj
    · exact Or.inl ⟨j, hji, hj⟩
  · rcases howed with ⟨j, -, hj⟩ | hi
    · exact ⟨j, hj⟩
    · exact ⟨i, hi⟩

variable [DecidableEq κ]

theorem step_reads_fresh (h : ReadsFresh cfg c) :
    ReadsFresh cfg (interleaving.step (service_next cfg calls) i c) ↔ InTime cfg calls i c := by
  rw [readsFresh_iff, owed_eq i] at h ⊢
  have hothers : (fun key => ∃ j, j ≠ i ∧
      ((interleaving.step (service_next cfg calls) i c).locals j).owes = some key) =
      fun key => ∃ j, j ≠ i ∧ (c.locals j).owes = some key := by
    funext key
    refine propext (exists_congr fun j => and_congr_right fun hji => ?_)
    rw [step_locals_of_ne _ _ hji]
  rw [hothers, step_locals_self, step_shared]
  exact call_fresh h

/-- The intents are read fresh in every state that a run reaches exactly when
each of its steps keeps to its condition. -/
theorem intents_are_read_fresh_iff_no_write_is_late (cfg : Config) (calls : κ → ServiceCall)
    (tables : Tables) (schedule : List κ) :
    AllSteps (interleaving.step (service_next cfg calls))
        (fun i c => ReadsFresh cfg (interleaving.step (service_next cfg calls) i c))
        (served tables) schedule ↔
      AllSteps (interleaving.step (service_next cfg calls)) (InTime cfg calls) (served tables)
        schedule := by
  refine allSteps_iff (I := ReadsFresh cfg) (fun i c h hmet => (step_reads_fresh h).mpr hmet)
    (fun i c h => step_reads_fresh h) ?_
  exact readsFresh_iff.mpr coherent_nil

/-- The persistence of an event on the database. -/
def Persist.on_database (env : StepEnv) (intake : Intake) (tenant_id trace_id : String)
    (state : GraphState) (resolution_data : ResolutionData) : Persist where
  env := env
  tenant_id := tenant_id
  trace_id := trace_id
  state := state
  resolution_data := resolution_data
  resolve_or_open_case := asoe.resolve_or_open_case intake tenant_id state.event state.intent
  keeps_records _ found hfound := (lookup_or_create_cases found hfound).records

/-! ## A case that is blocked by its second record -/

/-- The order of a run that ended, known by its sales order. -/
def endedRun (intent : Intent) (status : TerminalStatus) : GraphState where
  event := { sampleEvent with metadata := [("sales_order_id", .str "900")] }
  intent := intent
  final_status := some status

/-- A resolved case with its one record. -/
def resolvedOrder : Tables :=
  let case : OrderCase := ⟨"C1", "T1", .RESOLVED, some "SG_BLOCK_PRICING", none, some "2025-01-01"⟩
  let env := { sampleEnv (sampleRun 100) with new_id := "E0" }
  { api :=
      { records := [("E0",
          record_of env "T1" "TR0" case {} (endedRun .PRICE_HOLD_RELEASE .COMPLETE))]
        cases := [("C1", case)] }
    case_correlation_keys := [(("T1", "sales_order_id", "900"), "C1")] }

/-- One call lists the cases, the other one writes. -/
def listAndWrite (call : ServiceCall) (i : Bool) : ServiceCall :=
  if i then call else .read "T1" "C1"

/-- An event of the order that is blocked. -/
def blockedEvent : ServiceCall :=
  .persist (.on_database (sampleEnv (sampleRun 100)) sampleIntake "T1" "TR1"
    (endedRun .CREDIT_BLOCK .BLOCKED) {})

/-- The list is read, then the event is persisted, one call after the other.
The event closes the case, so the cache keeps the intents without its own. -/
theorem a_closing_record_is_missing_from_the_cached_intents :
    ¬ ∀ (calls : Bool → ServiceCall) (schedule : List Bool),
      ReadsFresh databaseConfig (run (interleaving.step (service_next databaseConfig calls))
        (served resolvedOrder) schedule) := by
  intro h
  have hread := h (listAndWrite blockedEvent)
    [false, false, false, true, true, true, true, true, true] "T1" "C1" ?_
  · revert hread
    decide +kernel
  · rintro ⟨i, hi⟩
    revert i
    decide +kernel

-- A reanalysis that closes the case leaves the old intent there as well.
example : (intents_for databaseConfig "T1" "C1"
    (run (interleaving.step (service_next databaseConfig (listAndWrite (.act
      (.reanalysis (sampleEnv (sampleRun 100)) "T1" "E0" (endedRun .CREDIT_BLOCK .BLOCKED))))))
      (served resolvedOrder)
      [false, false, false, true, true, true, true, true]).shared).1 =
    ["PRICE_HOLD_RELEASE"].toFinset := by
  decide +kernel

end schedules

end asoe
