-- The backfill of the records that have no case: each of them finds its case
-- by the correlation keys of its event, or opens one, in the stores in memory.
-- The keys come from a payload, so they are values of any type.
import Asoe.CaseMerges
import Asoe.QuantityRecipes

namespace asoe

open py prog runs keyindex

/-! ## The stores -/

/-- A record with the fields that the backfill reads and writes. -/
structure BackfillRecord where
  tenant_id : String
  parent_case_id : Option String := none
  original_event : Option PyDict := none
  created_at : String
  updated_at : String
  deriving DecidableEq

/-- Tenant, type and value of a key, whatever type the value has. -/
abbrev ValueKey := String × String × PyVal

structure BackfillState where
  records : List (String × BackfillRecord) := []
  cases : List (String × OrderCase) := []
  correlation : List (ValueKey × String) := []
  deriving DecidableEq

structure SlaPolicySet where
  default_sla_hours : ℤ := 48
  tiers : List (String × ℤ) := []

/-- What the backfill is given, and what it meets: the validation of an event,
the clock, the date arithmetic, and the id of the case that a record opens. -/
structure BackfillEnv where
  customer_tier_lookup : List (String × String) := []
  policy : SlaPolicySet := {}
  model_validate : PyDict → Except PyErr OrderEvent
  upper : String → String
  from_iso : FromIso
  utc_now : ℤ
  add_hours : ℤ → ℤ → Except PyErr String
  now_iso : String
  new_case_id : String → String

abbrev BackfillProg := EStateM PyErr BackfillState

/-- The value as the key of a dictionary. Numbers that are equal are one key, a
NaN is equal to no key, and a container cannot be one. -/
def dict_key (value : PyVal) : Except PyErr (Option PyVal) := do
  let value ← PyVal.hashed value
  match value.number? with
  | some (.inl n) => return some (.int n)
  | some (.inr (.fin q)) => return some (if q.den = 1 then .int q.num else .float (.fin q))
  | some (.inr .nan) => return none
  | some (.inr (.inf _)) | none => return some value

/-- The first key that is set and known wins. -/
def find_case_id (tenant_id : String) (correlation : List (ValueKey × String)) :
    List (String × PyVal) → Except PyErr (Option String)
  | [] => .ok none
  | (key_type, key_value) :: keys =>
    if !key_value.truthy then find_case_id tenant_id correlation keys
    else do
      let value ← dict_key key_value
      match value.bind fun v => dict.get correlation (tenant_id, key_type, v) with
      | some case_id => return some case_id
      | none => find_case_id tenant_id correlation keys

def register_correlations (tenant_id case_id : String) : List (String × PyVal) → BackfillProg Unit
  | [] => return
  | (key_type, key_value) :: keys =>
    if !key_value.truthy then register_correlations tenant_id case_id keys
    else do
      let value ← MonadExcept.ofExcept (dict_key key_value)
      match value with
      | some v => modify fun s => { s with
          correlation := dict.set s.correlation (tenant_id, key_type, v) case_id }
      | none => pure ()
      register_correlations tenant_id case_id keys

/-- The case that is opened for a record, without a supergroup. -/
def new_case (new_case_id tenant_id : String) : OrderCase :=
  ⟨new_case_id, tenant_id, .OPEN_AGENT_PROCESSING, none, none, none⟩

/-- What `CaseStore.lookup_or_create` does with the case that it found before. -/
def take_or_open (new_case_id tenant_id origin : String) (keys : List (String × PyVal)) :
    Option OrderCase → BackfillProg (OrderCase × Bool)
  | some existing => do
    register_correlations tenant_id existing.case_id keys
    return (existing, false)
  | none => do
    require (valid_case origin keys = true) ⟨"ValidationError", "validation error for OrderCase"⟩
    modify fun s => { s with
      cases := dict.set s.cases new_case_id (new_case new_case_id tenant_id) }
    register_correlations tenant_id new_case_id keys
    return (new_case new_case_id tenant_id, true)

def find_or_open (new_case_id tenant_id origin : String) (keys : List (String × PyVal)) :
    BackfillProg (OrderCase × Bool) := do
  let s ← get
  let existing ← MonadExcept.ofExcept (find_case_id tenant_id s.correlation keys)
  take_or_open new_case_id tenant_id origin keys (existing.bind (dict.get s.cases))

/-! ## The pass -/

/-- The records of the tenant that have no case. -/
def list_orphans (s : BackfillState) (tenant_id : String) : List (String × BackfillRecord) :=
  s.records.filter fun p => p.2.tenant_id = tenant_id ∧ p.2.parent_case_id = none

def event_from_record (env : BackfillEnv) (record : BackfillRecord) : Option OrderEvent :=
  match record.original_event with
  | none | some [] => none
  | some payload => (env.model_validate payload).toOption

def SlaPolicySet.hours_for_tier (policy : SlaPolicySet) : Option String → ℤ
  | none => policy.default_sla_hours
  | some tier_name =>
    if tier_name = "" then policy.default_sla_hours
    else (dict.get policy.tiers tier_name).getD policy.default_sla_hours

/-- A moment that cannot be read is taken to be now. -/
def stamp_sla_deadline (env : BackfillEnv) (opened_at : String) (customer_tier : Option String) :
    Except PyErr String := do
  let hours := env.policy.hours_for_tier customer_tier
  let opened ←
    match parse_iso env.from_iso (.str opened_at) with
    | .ok opened => pure opened
    | .error e => if e.kind = "ValueError" ∨ e.kind = "TypeError" then pure env.utc_now else throw e
  env.add_hours opened hours

/-- The link is written to the record. -/
def update_parent (env : BackfillEnv) (exception_id tenant_id case_id : String)
    (records : List (String × BackfillRecord)) : List (String × BackfillRecord) :=
  match dict.get records exception_id with
  | none => records
  | some record =>
    if record.tenant_id ≠ tenant_id then records
    else dict.set records exception_id
      { record with parent_case_id := some case_id, updated_at := env.now_iso }

/-- What is done for one orphan: nothing when its event cannot be read. -/
def place_record (env : BackfillEnv) (p : String × BackfillRecord) :
    BackfillProg (Option (OrderCase × Bool)) :=
  match event_from_record env p.2 with
  | none => return none
  | some event => do
    let origin := (derive_origin_and_channel env.upper event).1
    let _ ← MonadExcept.ofExcept (stamp_sla_deadline env p.2.created_at
      (dict.get env.customer_tier_lookup p.2.tenant_id))
    let (case, opened_now) ←
      find_or_open (env.new_case_id p.1) p.2.tenant_id origin (correlation_keys event)
    modify fun s => { s with
      records := update_parent env p.1 p.2.tenant_id case.case_id s.records }
    return some (case, opened_now)

/-- Summary of one backfill run for the audit log, with what this pass counts. -/
structure OrphanReport extends BackfillReport where
  records_scanned : ℕ := 0
  cases_opened : ℕ := 0
  records_attached_to_existing : ℕ := 0
  records_skipped_no_event : ℕ := 0
  deriving DecidableEq

def OrphanReport.counted (report : OrphanReport) (id : String) :
    Option (OrderCase × Bool) → OrphanReport
  | none => { report with
      records_scanned := report.records_scanned + 1
      records_skipped_no_event := report.records_skipped_no_event + 1 }
  | some (case, opened_now) => { report with
      records_scanned := report.records_scanned + 1
      record_to_case := dict.set report.record_to_case id case.case_id
      cases_opened := report.cases_opened + if opened_now then 1 else 0
      records_attached_to_existing :=
        report.records_attached_to_existing + if opened_now then 0 else 1 }

def backfill_records (env : BackfillEnv) :
    List (String × BackfillRecord) → OrphanReport → BackfillProg OrphanReport
  | [], report => return report
  | p :: orphans, report => do
    let placed ← place_record env p
    backfill_records env orphans (report.counted p.1 placed)

/-- Materialise a case for every orphan of the tenant. The orphans are listed
before any of them is placed. -/
def backfill_orphan_cases (env : BackfillEnv) (tenant_id : String) :
    BackfillProg OrphanReport := do
  let s ← get
  backfill_records env (list_orphans s tenant_id) {}

/-! ## The keys of a record -/

/-- The keys that are set, as the correlation has them; `none` when one of them
cannot be a key. -/
def value_keys (tenant_id : String) : List (String × PyVal) → Option (List ValueKey)
  | [] => some []
  | (key_type, key_value) :: keys =>
    if !key_value.truthy then value_keys tenant_id keys
    else
      match dict_key key_value, value_keys tenant_id keys with
      | .ok value, some rest => some ((value.map fun v => (tenant_id, key_type, v)).toList ++ rest)
      | _, _ => none

section keys

variable {tenant case_id : String} {keys : List (String × PyVal)} {ks : List ValueKey}

theorem value_keys_cons {key_type : String} {key_value : PyVal}
    (h : value_keys tenant ((key_type, key_value) :: keys) = some ks) :
    (key_value.truthy = false ∧ value_keys tenant keys = some ks) ∨
      ∃ value rest, key_value.truthy = true ∧ dict_key key_value = .ok value ∧
        value_keys tenant keys = some rest ∧
        ks = (value.map fun v => (tenant, key_type, v)).toList ++ rest := by
  unfold value_keys at h
  cases htruthy : key_value.truthy with
  | false =>
    rw [htruthy] at h
    exact Or.inl ⟨rfl, h⟩
  | true =>
    rw [htruthy] at h
    simp only [Bool.not_true, Bool.false_eq_true, if_false] at h
    split at h
    · rename_i value rest hvalue hrest
      exact Or.inr ⟨value, rest, rfl, hvalue, hrest, (Option.some.inj h).symm⟩
    · cases h

/-- The search is the one of the index. -/
theorem find_case_id_eq {correlation : List (ValueKey × String)}
    (h : value_keys tenant keys = some ks) :
    find_case_id tenant correlation keys = .ok (first correlation ks) := by
  induction keys generalizing ks with
  | nil =>
    cases h
    rfl
  | cons key keys ih =>
    obtain ⟨key_type, key_value⟩ := key
    unfold find_case_id
    rcases value_keys_cons h with ⟨hunset, hrest⟩ | ⟨value, rest, hset, hvalue, hrest, rfl⟩
    · rw [hunset]
      exact ih hrest
    · rw [hset]
      simp only [Bool.not_true, Bool.false_eq_true, if_false]
      rw [ok_bind hvalue]
      cases value with
      | none => exact ih hrest
      | some v =>
        simp only [Option.bind_some, Option.map_some, Option.toList_some, List.singleton_append]
        rw [first_cons]
        cases dict.get correlation (tenant, key_type, v) with
        | some id => rfl
        | none => exact ih hrest

theorem register_correlations_ok (s : BackfillState) (h : value_keys tenant keys = some ks) :
    register_correlations tenant case_id keys s =
      .ok () { s with correlation := attach s.correlation ks case_id } := by
  induction keys generalizing ks s with
  | nil =>
    cases h
    rfl
  | cons key keys ih =>
    obtain ⟨key_type, key_value⟩ := key
    unfold register_correlations
    rcases value_keys_cons h with ⟨hunset, hrest⟩ | ⟨value, rest, hset, hvalue, hrest, rfl⟩
    · rw [hunset]
      exact ih s hrest
    · rw [hset]
      simp only [Bool.not_true, Bool.false_eq_true, if_false]
      rw [hvalue]
      cases value with
      | none => exact ih s hrest
      | some v => exact ih _ hrest

/-- Keys of which one cannot be a key are never registered. -/
theorem register_correlations_fails (case_id : String) (s : BackfillState)
    (h : value_keys tenant keys = none) :
    ∃ e s', register_correlations tenant case_id keys s = .error e s' := by
  induction keys generalizing s with
  | nil => cases h
  | cons key keys ih =>
    obtain ⟨key_type, key_value⟩ := key
    unfold register_correlations
    unfold value_keys at h
    cases htruthy : key_value.truthy with
    | false =>
      rw [htruthy] at h
      exact ih s h
    | true =>
      rw [htruthy] at h
      simp only [Bool.not_true, Bool.false_eq_true, if_false] at h ⊢
      cases hvalue : dict_key key_value with
      | error e => exact ⟨e, s, rfl⟩
      | ok value =>
        rw [hvalue] at h
        have hrest : value_keys tenant keys = none := by
          split at h
          · cases h
          · rename_i hnot
            cases hkeys : value_keys tenant keys with
            | none => rfl
            | some rest => exact absurd hkeys (hnot value rest rfl)
        cases value with
        | none => exact ih s hrest
        | some v => exact ih _ hrest

end keys

/-! ## One record -/

/-- The case to which the first known key leads. -/
def known_case (s : BackfillState) (ks : List ValueKey) : Option OrderCase :=
  (first s.correlation ks).bind (dict.get s.cases)

section lookup

variable {new_case_id tenant origin : String} {keys : List (String × PyVal)} {ks : List ValueKey}
  {s : BackfillState}

theorem find_or_open_eq (hkeys : value_keys tenant keys = some ks) :
    find_or_open new_case_id tenant origin keys s =
      take_or_open new_case_id tenant origin keys (known_case s ks) s := by
  unfold find_or_open
  rw [run_bind, run_get]
  dsimp only
  rw [find_case_id_eq hkeys]
  rfl

theorem find_or_open_known {case : OrderCase} (hkeys : value_keys tenant keys = some ks)
    (hknown : known_case s ks = some case) :
    find_or_open new_case_id tenant origin keys s =
      .ok (case, false) { s with correlation := attach s.correlation ks case.case_id } := by
  rw [find_or_open_eq hkeys, hknown]
  rw [take_or_open, run_bind, register_correlations_ok s hkeys]
  rfl

theorem find_or_open_new (hkeys : value_keys tenant keys = some ks)
    (hnone : known_case s ks = none) (hvalid : valid_case origin keys = true) :
    find_or_open new_case_id tenant origin keys s =
      .ok (new_case new_case_id tenant, true) { s with
        cases := dict.set s.cases new_case_id (new_case new_case_id tenant)
        correlation := attach s.correlation ks new_case_id } := by
  rw [find_or_open_eq hkeys, hnone]
  rw [take_or_open, run_bind, require, if_pos hvalid]
  show (modify _ >>= fun _ => _ : BackfillProg (OrderCase × Bool)) s = _
  rw [run_bind, run_modify]
  dsimp only
  rw [run_bind, register_correlations_ok _ hkeys]
  rfl

theorem find_or_open_refused (new_case_id : String) (hkeys : value_keys tenant keys = some ks)
    (hnone : known_case s ks = none) (hvalid : valid_case origin keys ≠ true) :
    ∃ e s', find_or_open new_case_id tenant origin keys s = .error e s' := by
  rw [find_or_open_eq hkeys, hnone]
  rw [take_or_open, run_bind, require, if_neg hvalid]
  exact ⟨_, _, rfl⟩

/-- Keys of the types that a case declares are keys of the correlation. -/
theorem value_keys_of_valid (tenant : String) (hvalid : valid_case origin keys = true) :
    (value_keys tenant keys).isSome := by
  unfold valid_case at hvalid
  rw [Bool.and_eq_true] at hvalid
  have hall := hvalid.2
  clear hvalid
  induction keys with
  | nil => rfl
  | cons key keys ih =>
    obtain ⟨key_type, key_value⟩ := key
    rw [List.all_cons, Bool.and_eq_true] at hall
    obtain ⟨rest, hrest⟩ := Option.isSome_iff_exists.mp (ih hall.2)
    unfold value_keys
    rw [hrest]
    cases key_value with
    | none => rfl
    | str text =>
      split
      · rfl
      · rfl
    | _ => exact absurd hall.1 (by simp)

/-- Keys of which one cannot be a key make the lookup raise. -/
theorem find_or_open_fails (new_case_id origin : String) (s : BackfillState)
    (hkeys : value_keys tenant keys = none) :
    ∃ e s', find_or_open new_case_id tenant origin keys s = .error e s' := by
  unfold find_or_open
  rw [run_bind, run_get]
  dsimp only
  cases find_case_id tenant s.correlation keys with
  | error e => exact ⟨e, s, rfl⟩
  | ok existing =>
    show ∃ e s', take_or_open new_case_id tenant origin keys (existing.bind (dict.get s.cases)) s =
      .error e s'
    cases existing.bind (dict.get s.cases) with
    | some case =>
      obtain ⟨e, s', h⟩ := register_correlations_fails case.case_id s hkeys
      rw [take_or_open, run_bind, h]
      exact ⟨e, s', rfl⟩
    | none =>
      have hinvalid : valid_case origin keys ≠ true := by
        intro hvalid
        have hsome := value_keys_of_valid tenant hvalid
        rw [hkeys] at hsome
        cases hsome
      rw [take_or_open, run_bind, require, if_neg hinvalid]
      exact ⟨_, _, rfl⟩

end lookup

/-! ## What is done for a record -/

/-- The record can be placed: its deadline can be computed, its keys can be
keys, and they lead to a case or have the types that a case declares. -/
def takes (env : BackfillEnv) (p : String × BackfillRecord) (s : BackfillState) : Bool :=
  match event_from_record env p.2 with
  | none => true
  | some event =>
    (stamp_sla_deadline env p.2.created_at
      (dict.get env.customer_tier_lookup p.2.tenant_id)).toOption.isSome &&
    (value_keys p.2.tenant_id (correlation_keys event)).any fun ks =>
      (known_case s ks).isSome ||
        valid_case (derive_origin_and_channel env.upper event).1 (correlation_keys event)

/-- The state after a record was linked to a case. -/
def linked_to (env : BackfillEnv) (p : String × BackfillRecord) (ks : List ValueKey)
    (case_id : String) (cases : List (String × OrderCase)) (s : BackfillState) : BackfillState where
  records := update_parent env p.1 p.2.tenant_id case_id s.records
  cases := cases
  correlation := attach s.correlation ks case_id

/-- What is done for an orphan: it is skipped, attached to a case, or a case
is opened for it. -/
inductive OrphanPlaced (env : BackfillEnv) (p : String × BackfillRecord) (s : BackfillState) :
    Option (OrderCase × Bool) → BackfillState → Prop where
  | skipped (hevent : event_from_record env p.2 = none) : OrphanPlaced env p s none s
  | attached (event : OrderEvent) (ks : List ValueKey) (case : OrderCase)
      (hevent : event_from_record env p.2 = some event)
      (hkeys : value_keys p.2.tenant_id (correlation_keys event) = some ks)
      (hknown : known_case s ks = some case) :
      OrphanPlaced env p s (some (case, false)) (linked_to env p ks case.case_id s.cases s)
  | opened (event : OrderEvent) (ks : List ValueKey)
      (hevent : event_from_record env p.2 = some event)
      (hkeys : value_keys p.2.tenant_id (correlation_keys event) = some ks)
      (hnone : known_case s ks = none) :
      OrphanPlaced env p s (some (new_case (env.new_case_id p.1) p.2.tenant_id, true))
        (linked_to env p ks (env.new_case_id p.1)
          (dict.set s.cases (env.new_case_id p.1)
            (new_case (env.new_case_id p.1) p.2.tenant_id)) s)

section place

variable {env : BackfillEnv} {p : String × BackfillRecord} {s : BackfillState}

theorem place_record_placed (h : takes env p s = true) :
    ∃ placed s', place_record env p s = .ok placed s' ∧ OrphanPlaced env p s placed s' := by
  unfold takes at h
  unfold place_record
  cases hevent : event_from_record env p.2 with
  | none => exact ⟨none, s, rfl, .skipped hevent⟩
  | some event =>
    rw [hevent] at h
    dsimp only at h ⊢
    cases hdeadline : stamp_sla_deadline env p.2.created_at
        (dict.get env.customer_tier_lookup p.2.tenant_id) with
    | error e =>
      rw [hdeadline] at h
      cases h
    | ok deadline =>
      rw [hdeadline] at h
      simp only [Except.toOption, Option.isSome_some, Bool.true_and] at h
      cases hkeys : value_keys p.2.tenant_id (correlation_keys event) with
      | none =>
        rw [hkeys] at h
        cases h
      | some ks =>
        rw [hkeys] at h
        show ∃ placed s', (find_or_open _ _ _ _ >>= _ : BackfillProg _) s = .ok placed s' ∧ _
        rw [run_bind]
        cases hknown : known_case s ks with
        | some case =>
          rw [find_or_open_known hkeys hknown]
          exact ⟨_, _, rfl, .attached event ks case hevent hkeys hknown⟩
        | none =>
          simp only [Option.any_some, hknown, Option.isSome_none, Bool.false_or] at h
          rw [find_or_open_new hkeys hknown h]
          exact ⟨_, _, rfl, .opened event ks hevent hkeys hknown⟩

theorem place_record_fails (h : takes env p s ≠ true) :
    ∃ e s', place_record env p s = .error e s' := by
  unfold takes at h
  unfold place_record
  cases hevent : event_from_record env p.2 with
  | none =>
    rw [hevent] at h
    exact absurd rfl h
  | some event =>
    rw [hevent] at h
    dsimp only at h ⊢
    cases hdeadline : stamp_sla_deadline env p.2.created_at
        (dict.get env.customer_tier_lookup p.2.tenant_id) with
    | error e => exact ⟨e, s, rfl⟩
    | ok deadline =>
      rw [hdeadline] at h
      simp only [Except.toOption, Option.isSome_some, Bool.true_and] at h
      show ∃ e s', (find_or_open _ _ _ _ >>= _ : BackfillProg _) s = .error e s'
      rw [run_bind]
      cases hkeys : value_keys p.2.tenant_id (correlation_keys event) with
      | none =>
        obtain ⟨e, s', hfails⟩ := find_or_open_fails (env.new_case_id p.1)
          (derive_origin_and_channel env.upper event).1 s hkeys
        rw [hfails]
        exact ⟨e, s', rfl⟩
      | some ks =>
        rw [hkeys] at h
        cases hknown : known_case s ks with
        | some case =>
          simp only [Option.any_some, hknown, Option.isSome_some, Bool.true_or] at h
          exact absurd rfl h
        | none =>
          simp only [Option.any_some, hknown, Option.isSome_none, Bool.false_or] at h
          obtain ⟨e, s', hrefused⟩ := find_or_open_refused (env.new_case_id p.1) hkeys hknown h
          rw [hrefused]
          exact ⟨e, s', rfl⟩

end place

end asoe
