-- The audit log on the database. The writer takes the hash of the newest row
-- and the verifier walks the rows from the oldest one on, both by time and
-- id; the verifier hashes what the driver hands back.
import Asoe.AuditChain
import Asoe.CaseStore

namespace asoe

open py runs hashchain

/-! ## Rows -/

/-- A reading of the clock: the date and the time of day. -/
structure ClockReading where
  date : String
  time : String
  deriving DecidableEq

/-- `now.isoformat()`, the text that is written. -/
def ClockReading.isoformat (r : ClockReading) : String := r.date ++ "T" ++ r.time

/-- `str(now)`, the text that JSON gets of a `datetime`. -/
def ClockReading.str (r : ClockReading) : String := r.date ++ " " ++ r.time

/-- One row of `policy_audit_log`, with the JSON columns as they were
written. -/
structure AuditRow where
  id : String
  tenant_id : String
  policy_key : String
  previous_value : Option String
  new_value : String
  changed_by : String
  change_reason : Option String
  created_at : ClockReading
  prev_hash : String
  event_hash : String
  deriving DecidableEq

/-- The fields that are hashed, for given values of the typed columns. -/
def AuditRow.fields_with (row : AuditRow) (previous_value new_value created_at : PyVal) : PyDict :=
  [("id", .str row.id), ("tenant_id", .str row.tenant_id), ("policy_key", .str row.policy_key),
    ("previous_value", previous_value), ("new_value", new_value),
    ("changed_by", .str row.changed_by), ("change_reason", ofString? row.change_reason),
    ("created_at", created_at), ("prev_hash", .str row.prev_hash)]

/-- The fields as the writer has them. -/
def AuditRow.written (row : AuditRow) : PyDict :=
  row.fields_with (ofString? row.previous_value) (.str row.new_value)
    (.str row.created_at.isoformat)

/-- The database, with what its driver makes of a JSON column and what
`_json_loads` makes of a text. -/
structure Database where
  kind : DatabaseKind
  jsonb : String → PyVal
  json_loads : String → PyVal

/-- The fields as the driver hands them back: the text itself, or a
`datetime` and the parsed JSON. -/
def AuditRow.read_back (db : Database) (row : AuditRow) : PyDict :=
  match db.kind with
  | .sqlite => row.written
  | .postgres =>
    row.fields_with ((row.previous_value.map db.jsonb).getD .none) (db.jsonb row.new_value)
      (.str row.created_at.str)

def AuditRow.text (row : AuditRow) : List Char := audit_text row.prev_hash row.written

/-- `ORDER BY created_at, id`. -/
def AuditRow.le (r s : AuditRow) : Prop :=
  r.created_at.isoformat < s.created_at.isoformat ∨
    r.created_at.isoformat = s.created_at.isoformat ∧ r.id ≤ s.id

instance decidableRowLe : DecidableRel AuditRow.le :=
  fun _ _ => inferInstanceAs (Decidable (_ ∨ _ ∧ _))

/-! ## The repository -/

namespace policy_repository

/-- The arguments of `_insert_audit_event`, with the id and the reading of
the clock that it draws. -/
structure AuditInsert where
  tenant_id : String
  policy_key : String
  previous_value : Option String
  new_value : String
  changed_by : String
  change_reason : Option String
  audit_id : String
  now : ClockReading

def rows_of (log : List AuditRow) (tenant_id : String) : List AuditRow :=
  log.filter fun r => r.tenant_id = tenant_id

/-- The first row in descending order is the last one in ascending order. -/
def last_event_hash (log : List AuditRow) (tenant_id : String) : String :=
  match ((rows_of log tenant_id).insertionSort AuditRow.le).getLast? with
  | some row => row.event_hash
  | none => "GENESIS"

/-- The row that an insert adds, after the hash that was read. -/
def new_row (args : AuditInsert) (prev_hash : String) : AuditRow :=
  let row : AuditRow :=
    { id := args.audit_id, tenant_id := args.tenant_id, policy_key := args.policy_key,
      previous_value := args.previous_value, new_value := args.new_value,
      changed_by := args.changed_by, change_reason := args.change_reason, created_at := args.now,
      prev_hash := prev_hash, event_hash := "" }
  { row with event_hash := audit_event_hash prev_hash row.written }

def insert_audit_event (args : AuditInsert) (log : List AuditRow) : List AuditRow :=
  log ++ [new_row args (last_event_hash log args.tenant_id)]

/-- One row of `policy_overrides`, with its JSON column as it was written. -/
structure PolicyOverride where
  id : String
  tenant_id : String
  policy_key : String
  value : String
  effective_from : ClockReading
  created_by : String

structure PolicyTables where
  policy_overrides : List PolicyOverride := []
  policy_audit_log : List AuditRow := []

def json_dumps (v : PyVal) : String := String.ofList (json.dumps false v)

/-- The override that became effective last. -/
def get_override (tables : PolicyTables) (tenant_id policy_key : String) :
    Option PolicyOverride :=
  ((tables.policy_overrides.filter fun o =>
      o.tenant_id = tenant_id ∧ o.policy_key = policy_key).insertionSort
    fun a b => b.effective_from.isoformat ≤ a.effective_from.isoformat).head?

/-- The value that `get_override` gives: a text is parsed. -/
def override_value (db : Database) (o : PolicyOverride) : PyVal :=
  match db.kind with
  | .sqlite => db.json_loads o.value
  | .postgres =>
    match db.jsonb o.value with
    | .str s => db.json_loads s
    | v => v

/-- The arguments of `create_audit_event`, with its draws. -/
structure AuditEventCall where
  tenant_id : String
  policy_key : String
  previous_value : PyVal
  new_value : PyVal
  changed_by : String
  change_reason : Option String
  audit_id : String
  now : ClockReading

/-- What `create_audit_event` passes on to the insert. -/
def AuditEventCall.insert (call : AuditEventCall) : AuditInsert :=
  ⟨call.tenant_id, call.policy_key,
    if call.previous_value = .none then none else some (json_dumps call.previous_value),
    json_dumps call.new_value, call.changed_by, call.change_reason, call.audit_id, call.now⟩

/-- The calls that append an event. -/
inductive PolicyCall where
  | create_audit_event (tenant_id policy_key : String) (previous_value new_value : PyVal)
      (changed_by : String) (change_reason : Option String)
  | create_override (tenant_id policy_key : String) (value : PyVal) (created_by : String)
      (change_reason : Option String)

def PolicyCall.tenant_id : PolicyCall → String
  | .create_audit_event tenant_id .. | .create_override tenant_id .. => tenant_id

/-- A call, with the ids and the readings of the clock that it draws. -/
structure PolicyStep where
  call : PolicyCall
  record_id : String
  record_now : ClockReading
  audit_id : String
  audit_now : ClockReading

/-- What the call passes on to the insert. -/
def audit_insert (db : Database) (st : PolicyStep) (tables : PolicyTables) : AuditInsert :=
  match st.call with
  | .create_audit_event tenant_id policy_key previous_value new_value changed_by change_reason =>
    AuditEventCall.insert ⟨tenant_id, policy_key, previous_value, new_value, changed_by,
      change_reason, st.audit_id, st.audit_now⟩
  | .create_override tenant_id policy_key value created_by change_reason =>
    ⟨tenant_id, policy_key,
      (get_override tables tenant_id policy_key).map fun previous =>
        json_dumps (override_value db previous),
      json_dumps value, created_by, change_reason, st.audit_id, st.audit_now⟩

/-- The row of an override breaks `UNIQUE (tenant_id, policy_key,
effective_from)`. -/
def PolicyCall.BreaksUnique (now : ClockReading) (tables : PolicyTables) : PolicyCall → Prop
  | .create_audit_event .. => False
  | .create_override tenant_id policy_key .. =>
    ∃ o ∈ tables.policy_overrides, o.tenant_id = tenant_id ∧ o.policy_key = policy_key ∧
      o.effective_from = now

instance decidableBreaksUnique (now : ClockReading) (tables : PolicyTables) :
    (call : PolicyCall) → Decidable (call.BreaksUnique now tables)
  | .create_audit_event .. => instDecidableFalse
  | .create_override .. => inferInstanceAs (Decidable (∃ o ∈ tables.policy_overrides, _))

/-- The transaction of the call is rolled back. -/
def Refused (st : PolicyStep) (tables : PolicyTables) : Prop :=
  st.call.BreaksUnique st.record_now tables

instance decidableRefused (st : PolicyStep) (tables : PolicyTables) :
    Decidable (Refused st tables) := decidableBreaksUnique ..

/-- One call, with its transaction. -/
def policy_step (db : Database) (st : PolicyStep) (tables : PolicyTables) : PolicyTables :=
  if Refused st tables then tables
  else
    { policy_overrides :=
        match st.call with
        | .create_audit_event .. => tables.policy_overrides
        | .create_override tenant_id policy_key value created_by _ =>
          tables.policy_overrides ++
            [⟨st.record_id, tenant_id, policy_key, json_dumps value, st.record_now, created_by⟩]
      policy_audit_log := insert_audit_event (audit_insert db st tables) tables.policy_audit_log }

/-- What links a row to the one before it, for a reader that gets these
fields. -/
def rowScheme (read : AuditRow → PyDict) : Scheme AuditRow String where
  prev := AuditRow.prev_hash
  hash := AuditRow.event_hash
  digest row := audit_event_hash row.prev_hash (read row)
  genesis := "GENESIS"

def verify_audit_chain (db : Database) (log : List AuditRow) (tenant_id : String) :
    Bool × Option ℕ :=
  verify_walk (rowScheme (AuditRow.read_back db)) "GENESIS" 0
    ((rows_of log tenant_id).insertionSort AuditRow.le)

end policy_repository

open policy_repository

/-! ## The order of the rows -/

instance rowLe_total : Std.Total AuditRow.le := by
  refine ⟨fun r s => ?_⟩
  unfold AuditRow.le
  rcases lt_trichotomy r.created_at.isoformat s.created_at.isoformat with h | h | h
  · exact Or.inl (Or.inl h)
  · rcases le_total r.id s.id with hid | hid
    · exact Or.inl (Or.inr ⟨h, hid⟩)
    · exact Or.inr (Or.inr ⟨h.symm, hid⟩)
  · exact Or.inr (Or.inl h)

instance rowLe_trans : IsTrans AuditRow AuditRow.le := by
  refine ⟨fun r s t => ?_⟩
  rintro (hrs | ⟨hrs, hid⟩) (hst | ⟨hst, hid'⟩)
  · exact Or.inl (hrs.trans hst)
  · exact Or.inl (hst ▸ hrs)
  · exact Or.inl (hrs ▸ hst)
  · exact Or.inr ⟨hrs.trans hst, hid.trans hid'⟩

/-- The rows as they were drawn: new ids, and a clock that never goes back. -/
def Drawn (r s : AuditRow) : Prop :=
  r.id ≠ s.id ∧ r.created_at.isoformat ≤ s.created_at.isoformat

theorem not_le_of_drawn {r s : AuditRow} (h : Drawn r s) :
    ¬ AuditRow.le s r ↔ (r.created_at.isoformat = s.created_at.isoformat → r.id < s.id) := by
  obtain ⟨hid, hnow⟩ := h
  unfold AuditRow.le
  constructor
  · intro hle heq
    by_contra hlt
    exact hle (Or.inr ⟨heq.symm, not_lt.mp hlt⟩)
  · rintro hties (hlt | ⟨heq, hle⟩)
    · exact absurd hlt (not_lt.mpr hnow)
    · exact absurd (hties heq.symm) (not_lt.mpr hle)

/-! ## A run of calls -/

/-- The log after these calls. -/
abbrev audit_log (db : Database) (sts : List PolicyStep) : List AuditRow :=
  (run (policy_step db) {} sts).policy_audit_log

theorem policy_step_log (db : Database) (st : PolicyStep) (tables : PolicyTables) :
    (policy_step db st tables).policy_audit_log =
      if Refused st tables then tables.policy_audit_log
      else insert_audit_event (audit_insert db st tables) tables.policy_audit_log := by
  unfold policy_step
  split <;> rfl

theorem audit_insert_drawn (db : Database) (st : PolicyStep) (tables : PolicyTables) :
    (audit_insert db st tables).tenant_id = st.call.tenant_id ∧
      (audit_insert db st tables).audit_id = st.audit_id ∧
      (audit_insert db st tables).now = st.audit_now := by
  unfold audit_insert
  cases st.call <;> exact ⟨rfl, rfl, rfl⟩

theorem audit_log_concat (db : Database) (sts : List PolicyStep) (st : PolicyStep) :
    audit_log db (sts ++ [st]) =
      if Refused st (run (policy_step db) {} sts) then audit_log db sts
      else insert_audit_event (audit_insert db st (run (policy_step db) {} sts))
        (audit_log db sts) := by
  unfold audit_log
  rw [run_append, run_cons, run_nil, policy_step_log]

theorem audit_log_sublist (db : Database) (sts : List PolicyStep) :
    ((audit_log db sts).map fun r => (r.id, r.created_at)).Sublist
      (sts.map fun st => (st.audit_id, st.audit_now)) := by
  induction sts using List.reverseRecOn with
  | nil => exact List.Sublist.refl _
  | append_singleton sts st ih =>
    rw [audit_log_concat, List.map_append]
    split
    · exact ih.trans (List.sublist_append_left _ _)
    · rw [insert_audit_event, List.map_append]
      obtain ⟨-, hid, hnow⟩ := audit_insert_drawn db st (run (policy_step db) {} sts)
      refine ih.append ?_
      simp only [List.map_cons, List.map_nil, new_row, hid, hnow]
      exact List.Sublist.refl _

theorem audit_log_drawn (db : Database) {sts : List PolicyStep}
    (hids : (sts.map PolicyStep.audit_id).Nodup)
    (hclock : sts.Pairwise fun a b => a.audit_now.isoformat ≤ b.audit_now.isoformat) :
    (audit_log db sts).Pairwise Drawn := by
  have hsteps : (sts.map fun st => (st.audit_id, st.audit_now)).Pairwise fun p q =>
      p.1 ≠ q.1 ∧ p.2.isoformat ≤ q.2.isoformat := by
    rw [List.pairwise_map]
    exact (List.pairwise_map.mp hids).and hclock
  have hrows := hsteps.sublist (audit_log_sublist db sts)
  rwa [List.pairwise_map] at hrows

theorem last_event_hash_tip (log : List AuditRow) (tenant_id : String)
    (read : AuditRow → PyDict) :
    policy_repository.last_event_hash log tenant_id =
      tip (rowScheme read) "GENESIS" ((rows_of log tenant_id).insertionSort AuditRow.le) := by
  rw [tip_eq_getLast?]
  unfold policy_repository.last_event_hash
  split <;> rename_i hlast
  · rw [hlast]
    rfl
  · rw [hlast]
    rfl

theorem rows_of_insert (args : AuditInsert) (log : List AuditRow) (tenant_id : String) :
    rows_of (insert_audit_event args log) tenant_id =
      if args.tenant_id = tenant_id then
        rows_of log tenant_id ++
          [new_row args (policy_repository.last_event_hash log args.tenant_id)]
      else rows_of log tenant_id := by
  unfold insert_audit_event rows_of
  rw [List.filter_append]
  split <;> rename_i htenant
  · rw [List.filter_cons_of_pos (by simp [new_row, htenant]), List.filter_nil]
  · rw [List.filter_cons_of_neg (by simp [new_row, htenant]), List.filter_nil, List.append_nil]

/-- The call appends an event of this tenant. -/
def Appends (tenant_id : String) (st : PolicyStep) (tables : PolicyTables) : Prop :=
  st.call.tenant_id = tenant_id ∧ ¬ Refused st tables

theorem rows_of_concat (db : Database) (sts : List PolicyStep) (st : PolicyStep)
    (tenant_id : String) :
    let tables := run (policy_step db) {} sts
    let args := audit_insert db st tables
    (Appends tenant_id st tables ∧
        rows_of (audit_log db (sts ++ [st])) tenant_id = rows_of (audit_log db sts) tenant_id ++
          [new_row args (policy_repository.last_event_hash (audit_log db sts) tenant_id)]) ∨
      (¬ Appends tenant_id st tables ∧
        rows_of (audit_log db (sts ++ [st])) tenant_id = rows_of (audit_log db sts) tenant_id) := by
  intro tables args
  have htenant : args.tenant_id = st.call.tenant_id := (audit_insert_drawn db st tables).1
  rw [audit_log_concat]
  by_cases hrefused : Refused st tables
  · rw [if_pos hrefused]
    exact Or.inr ⟨fun h => h.2 hrefused, rfl⟩
  rw [if_neg hrefused, rows_of_insert, htenant]
  by_cases heq : st.call.tenant_id = tenant_id
  · rw [if_pos heq, heq]
    exact Or.inl ⟨⟨heq, hrefused⟩, rfl⟩
  · rw [if_neg heq]
    exact Or.inr ⟨fun h => heq h.1, rfl⟩

theorem audit_log_written (db : Database) (sts : List PolicyStep) (tenant_id : String) :
    Written (rowScheme AuditRow.written) AuditRow.le (rows_of (audit_log db sts) tenant_id) := by
  induction sts using List.reverseRecOn with
  | nil => exact Written.nil
  | append_singleton sts st ih =>
    rcases rows_of_concat db sts st tenant_id with ⟨-, heq⟩ | ⟨-, heq⟩
    · rw [heq]
      exact Written.snoc _ _ ih (last_event_hash_tip _ _ _) rfl
    · rw [heq]
      exact ih

/-! ## When the log verifies -/

/-- A call that appends draws an id above those of the rows with the same
reading; and the driver hands back what was written. -/
def InOrder (db : Database) (tenant_id : String) (st : PolicyStep) (tables : PolicyTables) : Prop :=
  Appends tenant_id st tables →
    match db.kind with
    | .sqlite => ∀ row ∈ rows_of tables.policy_audit_log tenant_id,
        row.created_at.isoformat = st.audit_now.isoformat → row.id < st.audit_id
    | .postgres => False

theorem in_order_iff_rows_rise {db : Database} (hdb : db.kind = .sqlite) {sts : List PolicyStep}
    (tenant_id : String) (hids : (sts.map PolicyStep.audit_id).Nodup)
    (hclock : sts.Pairwise fun a b => a.audit_now.isoformat ≤ b.audit_now.isoformat) :
    AllSteps (policy_step db) (InOrder db tenant_id) {} sts ↔
      (rows_of (audit_log db sts) tenant_id).Pairwise fun a b => ¬ AuditRow.le b a := by
  induction sts using List.reverseRecOn with
  | nil => exact ⟨fun _ => List.Pairwise.nil, fun _ => trivial⟩
  | append_singleton sts st ih =>
    have hdrawn := audit_log_drawn db hids hclock
    rw [List.map_append, List.nodup_append] at hids
    have ih := ih hids.1 (List.pairwise_append.mp hclock).1
    have hrows : (rows_of (audit_log db (sts ++ [st])) tenant_id).Pairwise Drawn :=
      hdrawn.sublist List.filter_sublist
    rw [allSteps_append, ih, allSteps_cons]
    unfold InOrder
    rw [hdb]
    rcases rows_of_concat db sts st tenant_id with ⟨happ, heq⟩ | ⟨happ, heq⟩
    · rw [heq] at hrows ⊢
      obtain ⟨-, hid, hnow⟩ := audit_insert_drawn db st (run (policy_step db) {} sts)
      rw [List.pairwise_append] at hrows ⊢
      have hlast := hrows.2.2
      simp only [List.mem_singleton, forall_eq] at hlast ⊢
      constructor
      · rintro ⟨hup, hties, -⟩
        refine ⟨hup, List.pairwise_singleton _ _, fun a ha => ?_⟩
        rw [not_le_of_drawn (hlast a ha)]
        simp only [new_row, hid, hnow]
        exact hties happ a ha
      · rintro ⟨hup, -, hlt⟩
        refine ⟨hup, fun _ a ha => ?_, trivial⟩
        have hties := (not_le_of_drawn (hlast a ha)).mp (hlt a ha)
        simp only [new_row, hid, hnow] at hties
        exact hties
    · rw [heq]
      exact ⟨fun h => h.1, fun h => ⟨h, fun h' => absurd h' happ, trivial⟩⟩

/-- What is hashed of a row when it is written and when it is verified. -/
def AuditRow.texts (db : Database) (row : AuditRow) : List (List Char) :=
  [row.text, audit_text row.prev_hash (row.read_back db)]

theorem verify_audit_chain_iff (db : Database) (log : List AuditRow) (tenant_id : String) :
    policy_repository.verify_audit_chain db log tenant_id = (true, none) ↔
      Chained (rowScheme (AuditRow.read_back db)) "GENESIS"
        ((rows_of log tenant_id).insertionSort AuditRow.le) := by
  unfold policy_repository.verify_audit_chain
  rw [verify_walk_eq, ← firstBreak_eq_none]
  cases firstBreak (rowScheme (AuditRow.read_back db)) "GENESIS" _ with
  | none => simp [verdict]
  | some i => simp [verdict]

theorem rows_binding {rows : List AuditRow}
    (h : Chained (rowScheme AuditRow.written) "GENESIS" rows)
    (hfree : CollisionFree (rows.map AuditRow.text)) : Binding (rowScheme AuditRow.written) rows :=
  binding_of_texts (fun _ => rfl) (fun _ => rfl) rfl h hfree

theorem rows_antisymm {rows : List AuditRow} (h : rows.Pairwise Drawn) :
    ∀ a ∈ rows, ∀ b ∈ rows, AuditRow.le a b → AuditRow.le b a → a = b := by
  have hids : (rows.map AuditRow.id).Nodup := List.pairwise_map.mpr (h.imp And.left)
  intro a ha b hb hab hba
  refine List.inj_on_of_nodup_map hids ha hb ?_
  rcases hab with hlt | ⟨heq, hle⟩
  · rcases hba with hlt' | ⟨heq', -⟩
    · exact absurd hlt' hlt.asymm
    · exact absurd heq' hlt.ne'
  · rcases hba with hlt' | ⟨-, hle'⟩
    · exact absurd heq hlt'.ne'
    · exact hle.antisymm hle'

theorem isoformat_ne_str (r : ClockReading) : r.isoformat ≠ r.str := by
  intro h
  have htexts := congrArg String.toList h
  simp [ClockReading.isoformat, ClockReading.str] at htexts

theorem text_ne_read_back {db : Database} (hdb : db.kind = .postgres) (row : AuditRow) :
    row.text ≠ audit_text row.prev_hash (row.read_back db) := by
  intro h
  have hdumps := (List.cons.inj (List.append_cancel_left h)).2
  have hmem : ("created_at", json.dumps true (.str row.created_at.isoformat)) ∈
      json.dumpsDict true row.written := by
    simp [AuditRow.written, AuditRow.fields_with, json.dumpsDict]
  have hread := json.mem_of_dumps_dict hdumps hmem
  simp [AuditRow.read_back, hdb, AuditRow.fields_with, json.dumpsDict, json.dumps] at hread
  exact isoformat_ne_str _ (json.quoted_inj hread)

/-- On PostgreSQL no log verifies that has a row. -/
theorem verifies_on_postgres_iff {db : Database} (hdb : db.kind = .postgres) {rows : List AuditRow}
    (hseal : ∀ row ∈ rows, row.event_hash = audit_event_hash row.prev_hash row.written)
    (hfree : CollisionFree (rows.flatMap (AuditRow.texts db))) :
    Chained (rowScheme (AuditRow.read_back db)) "GENESIS" (rows.insertionSort AuditRow.le) ↔
      rows = [] := by
  constructor
  · intro hchain
    by_contra hne
    obtain ⟨row, hrow⟩ := List.exists_mem_of_ne_nil rows hne
    have hread := hchain.hash_eq row ((List.mem_insertionSort _).mpr hrow)
    have hhash : sha256.hexdigest row.text =
        sha256.hexdigest (audit_text row.prev_hash (row.read_back db)) :=
      (hseal row hrow).symm.trans hread
    refine text_ne_read_back hdb row (hfree _ ?_ _ ?_ hhash) <;>
      exact List.mem_flatMap.mpr ⟨row, hrow, by simp [AuditRow.texts]⟩
  · rintro rfl
    trivial

theorem in_order_iff_no_rows {db : Database} (hdb : db.kind = .postgres) (sts : List PolicyStep)
    (tenant_id : String) :
    AllSteps (policy_step db) (InOrder db tenant_id) {} sts ↔
      rows_of (audit_log db sts) tenant_id = [] := by
  induction sts using List.reverseRecOn with
  | nil => exact ⟨fun _ => rfl, fun _ => trivial⟩
  | append_singleton sts st ih =>
    rw [allSteps_append, ih, allSteps_cons]
    unfold InOrder
    rw [hdb]
    rcases rows_of_concat db sts st tenant_id with ⟨happ, heq⟩ | ⟨happ, heq⟩
    · rw [heq]
      simp [happ]
    · rw [heq]
      simp [happ]

/-- The log of a tenant verifies when each event was appended in the order
of time and id and the driver gives back what was written, and, if no two
texts collide, only then. -/
theorem a_log_verifies_exactly_when_its_ids_rise_with_its_ties (db : Database)
    (sts : List PolicyStep) (tenant_id : String) (hids : (sts.map PolicyStep.audit_id).Nodup)
    (hclock : sts.Pairwise fun a b => a.audit_now.isoformat ≤ b.audit_now.isoformat) :
    (AllSteps (policy_step db) (InOrder db tenant_id) {} sts →
      policy_repository.verify_audit_chain db (audit_log db sts) tenant_id = (true, none)) ∧
    (CollisionFree ((rows_of (audit_log db sts) tenant_id).flatMap (AuditRow.texts db)) →
      policy_repository.verify_audit_chain db (audit_log db sts) tenant_id = (true, none) →
      AllSteps (policy_step db) (InOrder db tenant_id) {} sts) := by
  rw [verify_audit_chain_iff]
  have hwritten := audit_log_written db sts tenant_id
  rcases hdb : db.kind with _ | _
  · have hread : AuditRow.read_back db = AuditRow.written := by
      funext row
      simp [AuditRow.read_back, hdb]
    rw [hread, in_order_iff_rows_rise hdb tenant_id hids hclock]
    refine ⟨fun hup => ?_, fun hfree hchain => ?_⟩
    · rw [sorted_of_pairwise hup]
      exact hwritten.chained hup
    have hbinding := rows_binding hchain (hfree.of_subset fun s hs => ?_)
    swap
    · obtain ⟨row, hrow, rfl⟩ := List.mem_map.mp hs
      exact List.mem_flatMap.mpr
        ⟨row, (List.mem_insertionSort _).mp hrow, by simp [AuditRow.texts]⟩
    have hdrawn : (rows_of (audit_log db sts) tenant_id).Pairwise Drawn :=
      (audit_log_drawn db hids hclock).sublist List.filter_sublist
    have hnodup : (rows_of (audit_log db sts) tenant_id).Nodup :=
      hdrawn.imp fun h heq => h.1 (congrArg AuditRow.id heq)
    refine (hwritten.chained_iff ?_ hnodup (rows_antisymm hdrawn)).mp hchain
    exact hbinding.of_subset fun row hrow => (List.mem_insertionSort _).mpr hrow
  · rw [in_order_iff_no_rows hdb]
    refine ⟨fun hnil => ?_, fun hfree hchain => ?_⟩
    · rw [hnil]
      trivial
    · exact (verifies_on_postgres_iff hdb hwritten.hash_eq hfree).mp hchain

/-- A database, where the JSON texts are those of `1`. -/
def sampleDatabase (kind : DatabaseKind) : Database := ⟨kind, fun _ => .int 1, fun _ => .int 1⟩

/-- An event of a tenant that draws this id, at one reading of the clock. -/
def sampleAppend (audit_id : String) : PolicyStep :=
  let now : ClockReading := ⟨"2025-01-01", "10:00:00+00:00"⟩
  ⟨.create_audit_event "T1" "A" .none (.int 1) "ann" none, "o1", now, audit_id, now⟩

/-- Two events with one reading, whose ids rise. -/
def risingAppends : List PolicyStep :=
  [sampleAppend "0b9d1c3e-2f4a-4c5d-8e6f-7a8b9c0d1e2f",
    sampleAppend "f47ac10b-58cc-4372-a567-0e02b2c3d479"]

/-- The rising events verify. -/
theorem two_events_whose_ids_rise_verify :
    AllSteps (policy_step (sampleDatabase .sqlite)) (InOrder (sampleDatabase .sqlite) "T1") {}
        risingAppends ∧
      policy_repository.verify_audit_chain (sampleDatabase .sqlite)
        (audit_log (sampleDatabase .sqlite) risingAppends) "T1" = (true, none) := by
  have hrise : AllSteps (policy_step (sampleDatabase .sqlite))
      (InOrder (sampleDatabase .sqlite) "T1") {} risingAppends := by
    rw [in_order_iff_rows_rise rfl "T1" (by decide) (by decide)]
    decide +kernel
  exact ⟨hrise, (a_log_verifies_exactly_when_its_ids_rise_with_its_ties (sampleDatabase .sqlite)
    risingAppends "T1" (by decide) (by decide)).1 hrise⟩

/-- Falling ids break the log on SQLite, and the driver on PostgreSQL. -/
theorem a_log_with_falling_ids_or_a_parsing_driver_does_not_verify :
    (¬ ∀ (db : Database) (sts : List PolicyStep) (tenant_id : String), db.kind = .sqlite →
      (sts.map PolicyStep.audit_id).Nodup →
      (sts.Pairwise fun a b => a.audit_now.isoformat ≤ b.audit_now.isoformat) →
      policy_repository.verify_audit_chain db (audit_log db sts) tenant_id = (true, none)) ∧
    (¬ ∀ (db : Database) (sts : List PolicyStep) (tenant_id : String), db.kind = .postgres →
      (sts.map PolicyStep.audit_id).Nodup →
      (sts.Pairwise fun a b => a.audit_now.isoformat ≤ b.audit_now.isoformat) →
      policy_repository.verify_audit_chain db (audit_log db sts) tenant_id = (true, none)) := by
  constructor
  · intro h
    have hverify := h (sampleDatabase .sqlite) risingAppends.reverse "T1" rfl (by decide)
      (by decide)
    revert hverify
    decide +kernel
  · intro h
    have hverify := h (sampleDatabase .postgres) (risingAppends.take 1) "T1" rfl (by decide)
      (by decide)
    revert hverify
    decide +kernel

end asoe
