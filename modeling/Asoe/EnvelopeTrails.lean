-- The audit trail of an envelope. The entries that name the record are picked
-- out of the log of the tenant, which the in-memory store hands out whole and
-- the table newest first, fifty rows at most.
import Asoe.HumanActions

namespace asoe

open py prog runs newest policy_repository

/-! ## The logs -/

/-- `created_at` of a row: a text of SQLite, a `datetime` of PostgreSQL. -/
def AuditRow.stamp (db : Database) (row : AuditRow) : CreatedAt :=
  match db.kind with
  | .sqlite => .text row.created_at.isoformat
  | .postgres => .datetime row.created_at

/-- The log of a tenant in memory. -/
def memory_entries (items : List LoggedItem) (tenant_id : String) : LogEntries :=
  (exception_store.get_audit_log (logged_in_memory items) tenant_id).map
    fun e => (e, .text e.created_at)

/-- The log of a tenant as it is read from the table. -/
def table_entries (db : Database) (order : NewestFirst AuditRow.time) (reads : Bool)
    (items : List LoggedItem) (tenant_id : String) : LogEntries :=
  if reads then
    (order.page 50 (rows_of (logged_in_table items) tenant_id)).map
      fun row => (row.entry db, row.stamp db)
  else []

/-! ## Operations -/

/-- The payload of an event names no record. -/
def NamesNoRecord (event : AuditEvent) : Prop :=
  ∀ id, names_exception id (.dict event.previous_value) = false ∧
    names_exception id (.dict event.new_value) = false

/-- A logged event: of an operation on a record, or of one on something else
that names no record, such as an erasure or a change of the configuration. -/
inductive LoggedBy (item : AuditItem) : Option String → Prop where
  | record (cfg env user id r ext ledger req w)
      (h : Answered cfg env user id r ext ledger req w) (hevent : item.event = w.event) :
      LoggedBy item (some id)
  | elsewhere (h : NamesNoRecord item.event) : LoggedBy item none

/-- A logged event with the record that its operation was on. -/
structure LoggedOperation extends LoggedItem where
  exception_id : Option String
  logged_by : LoggedBy item exception_id

/-- The events of a tenant, in the order in which they were logged. -/
def own_operations (tenant_id : String) (ops : List LoggedOperation) : List LoggedOperation :=
  ops.filter fun x => x.tenant_id = tenant_id

/-- The events that operations on the record logged. -/
def operations_on (tenant_id id : String) (ops : List LoggedOperation) : List LoggedOperation :=
  (own_operations tenant_id ops).filter fun x => x.exception_id = some id

/-- What is read off an event. -/
structure Content where
  event_type : String
  timestamp : String
  actor : String
  previous_value : String → Option PyVal
  new_value : String → Option PyVal
  change_reason : PyVal

def keys_of : PyVal → String → Option PyVal
  | .dict d, key => dict.get d key
  | _, _ => none

def AuditTrailEntry.content (a : AuditTrailEntry) : Content where
  event_type := a.event_type
  timestamp := a.timestamp
  actor := a.actor
  previous_value := keys_of (value_at a.payload "previous_value")
  new_value := keys_of (value_at a.payload "new_value")
  change_reason := value_at a.payload "change_reason"

def LoggedItem.content (x : LoggedItem) : Content where
  event_type := x.item.event.policy_key
  timestamp := x.now.isoformat
  actor := if x.item.event.changed_by = "" then "system" else x.item.event.changed_by
  previous_value := dict.get x.item.event.previous_value
  new_value := dict.get x.item.event.new_value
  change_reason := .str x.item.event.change_reason

/-- The trail has exactly the events of the operations on the record, each
once, in the order in which they were logged. -/
def IsTrailOf (trail : Except PyErr (List AuditTrailEntry)) (tenant_id id : String)
    (ops : List LoggedOperation) : Prop :=
  ∃ entries, trail = .ok entries ∧ entries.map AuditTrailEntry.content =
    (operations_on tenant_id id ops).map fun x => x.content

/-! ## Which events name a record -/

section naming

theorem names_exception_iff {id : String} {d : PyDict} :
    names_exception id (.dict d) = true ↔ dict.get d "exception_id" = some (.str id) := by
  unfold names_exception value_at
  dsimp only
  rw [PyVal.eq_str, PyVal.ofOption_eq_str]

/-- The event of a request names its record by the value before it alone. -/
theorem answered_names {cfg : Config} {env : StepEnv} {user : AuthenticatedUser} {id : String}
    {r : ChildCase} {ext : External} {ledger : Ledger} {req : Request} {w : Write}
    (h : Answered cfg env user id r ext ledger req w) :
    dict.get w.event.previous_value "exception_id" = some (.str id) ∧
      dict.get w.event.new_value "exception_id" = none := by
  cases h with
  | submit_staged | submitted | drafted | deduped | sent | override_staged | disposed
  | cosign_submitted | cosigned | cosign_rejected | escalated | reanalyzed | challenged
  | released => exact ⟨rfl, rfl⟩

theorem LoggedOperation.names_iff (x : LoggedOperation) (id : String) :
    (names_exception id (.dict x.item.event.previous_value) ||
        names_exception id (.dict x.item.event.new_value)) = true ↔ x.exception_id = some id := by
  obtain ⟨item, exception_id, hlogged⟩ := x
  cases hlogged with
  | elsewhere h => simp [h id]
  | record cfg env user id' r ext ledger req w h hevent =>
    rw [Bool.or_eq_true, names_exception_iff, names_exception_iff]
    show dict.get item.item.event.previous_value _ = _ ∨
      dict.get item.item.event.new_value _ = _ ↔ _
    rw [hevent, (answered_names h).1, (answered_names h).2]
    simp

end naming

/-! ## What the trail shows of a log -/

section shown

/-- The entry says what the item says. -/
structure ReadsAs (x : LoggedItem) (e : AuditEntry) : Prop where
  policy_key : e.policy_key = x.item.event.policy_key
  changed_by : e.changed_by = x.item.event.changed_by
  change_reason : e.change_reason = some x.item.event.change_reason
  previous_value : ∃ d, e.previous_value = .dict d ∧
    ∀ key, dict.get d key = dict.get x.item.event.previous_value key
  new_value : ∃ d, e.new_value = .dict d ∧
    ∀ key, dict.get d key = dict.get x.item.event.new_value key

theorem names_exception_congr {id : String} {d d' : PyDict}
    (h : ∀ key, dict.get d key = dict.get d' key) :
    names_exception id (.dict d) = names_exception id (.dict d') := by
  unfold names_exception value_at
  dsimp only
  rw [h]

theorem ReadsAs.relates {x : LoggedOperation} {e : AuditEntry} (h : ReadsAs x.toLoggedItem e)
    (id : String) : entry_relates_to_exception e id = decide (x.exception_id = some id) := by
  obtain ⟨d, hd, hget⟩ := h.previous_value
  obtain ⟨d', hd', hget'⟩ := h.new_value
  unfold entry_relates_to_exception
  rw [hd, hd', names_exception_congr hget, names_exception_congr hget']
  exact Bool.eq_iff_iff.mpr ((x.names_iff id).trans decide_eq_true_iff.symm)

theorem ReadsAs.content {x : LoggedItem} {e : AuditEntry} (h : ReadsAs x e) :
    (e.shown x.now.isoformat).content = x.content := by
  obtain ⟨d, hd, hget⟩ := h.previous_value
  obtain ⟨d', hd', hget'⟩ := h.new_value
  have hprevious : keys_of e.previous_value = dict.get x.item.event.previous_value := by
    rw [hd]
    exact funext hget
  have hnew : keys_of e.new_value = dict.get x.item.event.new_value := by
    rw [hd']
    exact funext hget'
  unfold LoggedItem.content
  rw [← hprevious, ← hnew, ← h.policy_key, ← h.changed_by]
  unfold AuditTrailEntry.content AuditEntry.shown
  rw [h.change_reason]
  rfl

variable {β : Type} (entry : β → AuditEntry) (time : β → String)

/-- With times that are texts the trail shows every entry that relates. -/
theorem build_audit_trail_texts (rows : List β) (id : String) :
    build_audit_trail (rows.map fun r => (entry r, .text (time r))) id =
      .ok ((rows.filter fun r => entry_relates_to_exception (entry r) id).map
        fun r => (entry r).shown (time r)) := by
  have hfilter : ((rows.map fun r => (entry r, CreatedAt.text (time r))).filter
      fun e => entry_relates_to_exception e.1 id) =
        (rows.filter fun r => entry_relates_to_exception (entry r) id).map
          fun r => (entry r, .text (time r)) := by
    rw [List.filter_map]
    rfl
  unfold build_audit_trail
  rw [hfilter, List.mapM_map]
  generalize (rows.filter fun r => entry_relates_to_exception (entry r) id) = related
  induction related with
  | nil => rfl
  | cons r related ih =>
    rw [List.mapM_cons, ih]
    rfl

theorem related_content {rows : List β} {ops : List LoggedOperation} (id : String)
    (h : List.Forall₂ (fun x r => ReadsAs x.toLoggedItem (entry r) ∧ time r = x.now.isoformat)
      ops rows) :
    ((rows.filter fun r => entry_relates_to_exception (entry r) id).map
        fun r => ((entry r).shown (time r)).content) =
      (ops.filter fun x => x.exception_id = some id).map fun x => x.content := by
  induction h with
  | nil => rfl
  | @cons x r ops rows hr _ ih =>
    rw [List.filter_cons, List.filter_cons, hr.1.relates]
    split
    · rw [List.map_cons, List.map_cons, ih, hr.2, hr.1.content]
    · exact ih

end shown

/-! ## The in-memory store -/

section memory

theorem own_items_of_operations (tenant_id : String) (ops : List LoggedOperation) :
    own_items tenant_id (ops.map LoggedOperation.toLoggedItem) =
      (own_operations tenant_id ops).map LoggedOperation.toLoggedItem := by
  unfold own_items own_operations
  rw [List.filter_map]
  rfl

theorem readsAs_of_call {x : LoggedItem} {e : AuditEntry}
    (h : e.call = x.item.event.call x.id x.now.isoformat) : ReadsAs x e where
  policy_key := congrArg AuditCall.policy_key h
  changed_by := congrArg AuditCall.changed_by h
  change_reason := congrArg AuditCall.change_reason h
  previous_value := ⟨_, congrArg AuditCall.previous_value h, fun _ => rfl⟩
  new_value := ⟨_, congrArg AuditCall.new_value h, fun _ => rfl⟩

/-- In memory the trail has exactly the events of the record, in order. -/
theorem memory_trail (ops : List LoggedOperation) (tenant_id id : String) :
    IsTrailOf (build_audit_trail (memory_entries (ops.map LoggedOperation.toLoggedItem) tenant_id)
      id) tenant_id id ops := by
  have hcalls := own_log_calls (ops.map LoggedOperation.toLoggedItem) tenant_id
  unfold memory_entries
  generalize exception_store.get_audit_log _ tenant_id = log at hcalls
  rw [own_items_of_operations, List.map_map] at hcalls
  refine ⟨_, build_audit_trail_texts (fun e => e) AuditEntry.created_at log id, ?_⟩
  rw [List.map_map]
  refine related_content (fun e => e) AuditEntry.created_at id ?_
  generalize own_operations tenant_id ops = own at hcalls ⊢
  have hforall : List.Forall₂ (fun (x : LoggedOperation) e =>
      x.item.event.call x.id x.now.isoformat = AuditEntry.call e) own log := by
    have heq : List.Forall₂ (· = ·) (own.map ((fun x => x.item.event.call x.id x.now.isoformat) ∘
        LoggedOperation.toLoggedItem)) (log.map AuditEntry.call) := by
      rw [List.forall₂_eq_eq_eq]
      exact hcalls.symm
    rwa [List.forall₂_map_left_iff, List.forall₂_map_right_iff] at heq
  refine hforall.imp fun x e h => ⟨readsAs_of_call h.symm, ?_⟩
  exact (congrArg AuditCall.created_at h).symm

end memory

/-! ## The table -/

section table

variable {db : Database} {ops : List LoggedOperation} {tenant_id id : String}

/-- What the events of a history write is handed back. -/
def HandsBackEvents (db : Database) (ops : List LoggedOperation) : Prop :=
  ∀ x ∈ ops, HandsBackDict db x.item.event.previous_value ∧
    HandsBackDict db x.item.event.new_value

/-- Every operation on the record is among the fifty newest of the tenant, and
the later ones are older, or read the same. -/
structure OnThePage (tenant_id id : String) (ops : List LoggedOperation) : Prop where
  among_newest : ∀ x ∈ operations_on tenant_id id ops,
    ((own_operations tenant_id ops).countP fun y =>
      y.id ≠ x.id ∧ x.now.isoformat ≤ y.now.isoformat) < 50
  in_order : (operations_on tenant_id id ops).Pairwise fun x y =>
    y.now.isoformat < x.now.isoformat ∨ y.now.isoformat = x.now.isoformat ∧ x.content = y.content

/-- The rows of the operations. -/
abbrev rows_of_operations (tenant_id : String) (ops : List LoggedOperation) : List AuditRow :=
  rows_of (logged_in_table (ops.map LoggedOperation.toLoggedItem)) tenant_id

theorem readsAs_of_row {x : LoggedItem} (hprevious : HandsBackDict db x.item.event.previous_value)
    (hnew : HandsBackDict db x.item.event.new_value) (prev : String) :
    ReadsAs x ((new_row x.insert prev).entry db) where
  policy_key := rfl
  changed_by := rfl
  change_reason := rfl
  previous_value := hprevious
  new_value := hnew

/-- The rows of the tenant, operation by operation. -/
theorem rows_read_as (hback : HandsBackEvents db ops) (tenant_id : String) :
    List.Forall₂ (fun x (row : AuditRow) => (ReadsAs x.toLoggedItem (row.entry db) ∧
      row.time = x.now.isoformat) ∧ row.id = x.id) (own_operations tenant_id ops)
      (rows_of_operations tenant_id ops) := by
  have hrows := rows_of_table (ops.map LoggedOperation.toLoggedItem) tenant_id
  rw [own_items_of_operations, List.forall₂_map_left_iff] at hrows
  have hsub : ∀ x ∈ own_operations tenant_id ops, x ∈ ops := fun x hx => List.mem_of_mem_filter hx
  unfold rows_of_operations
  generalize own_operations tenant_id ops = own at hrows hsub
  generalize rows_of _ tenant_id = rows at hrows
  induction hrows with
  | nil => exact .nil
  | @cons x row own rows hrow _ ih =>
    obtain ⟨prev, rfl⟩ := hrow
    obtain ⟨hprevious, hnew⟩ := hback x (hsub x List.mem_cons_self)
    exact .cons ⟨⟨readsAs_of_row hprevious hnew prev, rfl⟩, rfl⟩
      (ih fun y hy => hsub y (List.mem_cons_of_mem _ hy))

/-- What the trail would show of a row. -/
def row_content (db : Database) (row : AuditRow) : Content :=
  ((row.entry db).shown row.time).content

def row_relates (db : Database) (id : String) (row : AuditRow) : Bool :=
  entry_relates_to_exception (row.entry db) id

theorem rows_content (hback : HandsBackEvents db ops) (tenant_id id : String) :
    ((rows_of_operations tenant_id ops).filter (row_relates db id)).map (row_content db) =
      (operations_on tenant_id id ops).map fun x => x.content :=
  related_content (AuditRow.entry db) AuditRow.time id
    ((rows_read_as hback tenant_id).imp fun _ _ h => h.1)

theorem handsBackErasures (hback : HandsBackEvents db ops) :
    HandsBackErasures db (ops.map LoggedOperation.toLoggedItem) := by
  intro x hx _
  obtain ⟨y, hy, rfl⟩ := List.mem_map.mp hx
  exact (hback y hy).2

theorem nodup_rows (hback : HandsBackEvents db ops)
    (hids : (ops.map fun x => x.id).Nodup) (tenant_id : String) :
    ((rows_of_operations tenant_id ops).map AuditRow.id).Nodup := by
  refine nodup_row_ids tenant_id (handsBackErasures hback) ?_
  rwa [List.map_map]

/-- The place of a row, read off the operations. -/
theorem onPage_row_iff (hback : HandsBackEvents db ops) (hids : (ops.map fun x => x.id).Nodup)
    {row : AuditRow} {x : LoggedOperation} (hrow : row ∈ rows_of_operations tenant_id ops)
    (htime : row.time = x.now.isoformat) (hid : row.id = x.id) :
    OnPage AuditRow.time 50 (rows_of_operations tenant_id ops) row ↔
      ((own_operations tenant_id ops).countP fun y =>
        y.id ≠ x.id ∧ x.now.isoformat ≤ y.now.isoformat) < 50 := by
  have hcount := @countP_rows db _ tenant_id (handsBackErasures hback)
    fun id time => decide (id ≠ x.id ∧ x.now.isoformat ≤ time)
  rw [own_items_of_operations, List.countP_map] at hcount
  have hrows : ((rows_of_operations tenant_id ops).countP fun r =>
      decide (r ≠ row ∧ row.time ≤ r.time)) =
        (rows_of_operations tenant_id ops).countP fun r =>
          decide (r.id ≠ x.id ∧ x.now.isoformat ≤ r.time) := by
    refine List.countP_congr fun r hr => ?_
    have hne : r ≠ row ↔ r.id ≠ x.id := by
      rw [← hid]
      exact not_congr ⟨congrArg AuditRow.id,
        List.inj_on_of_nodup_map (nodup_rows hback hids tenant_id) hr hrow⟩
    simp only [decide_eq_true_eq, hne, htime]
  unfold OnPage
  rw [hrows, hcount]
  rfl

theorem forall_rows_iff {S : LoggedOperation → AuditRow → Prop} {own : List LoggedOperation}
    {rows : List AuditRow} (h : List.Forall₂ S own rows) {P : AuditRow → Prop}
    {Q : LoggedOperation → Prop} (hiff : ∀ x, ∀ row ∈ rows, S x row → (P row ↔ Q x)) :
    (∀ row ∈ rows, P row) ↔ ∀ x ∈ own, Q x := by
  induction h with
  | nil => simp
  | @cons x row own rows hrow _ ih =>
    rw [List.forall_mem_cons, List.forall_mem_cons, hiff x row List.mem_cons_self hrow,
      ih fun y r hr => hiff y r (List.mem_cons_of_mem _ hr)]

theorem onPage_rows_iff (hback : HandsBackEvents db ops) (hids : (ops.map fun x => x.id).Nodup) :
    (∀ row ∈ rows_of_operations tenant_id ops, row_relates db id row = true →
        OnPage AuditRow.time 50 (rows_of_operations tenant_id ops) row) ↔
      ∀ x ∈ operations_on tenant_id id ops, ((own_operations tenant_id ops).countP fun y =>
        y.id ≠ x.id ∧ x.now.isoformat ≤ y.now.isoformat) < 50 := by
  have hpairs := rows_read_as hback tenant_id
  rw [forall_rows_iff hpairs (Q := fun x => x.exception_id = some id →
    ((own_operations tenant_id ops).countP fun y =>
      y.id ≠ x.id ∧ x.now.isoformat ≤ y.now.isoformat) < 50) ?_]
  · unfold operations_on
    simp only [List.mem_filter, decide_eq_true_eq, and_imp]
  · intro x row hrow h
    have hrelates : row_relates db id row = decide (x.exception_id = some id) := h.1.1.relates id
    rw [hrelates, decide_eq_true_eq, onPage_row_iff hback hids hrow h.1.2 h.2]

/-- A page that can be read, with times that are texts, gives the trail in
every order of ties exactly if it holds the operations in order. -/
theorem page_trail_iff (hback : HandsBackEvents db ops) (hids : (ops.map fun x => x.id).Nodup)
    (hkind : db.kind = .sqlite) :
    (∀ order, IsTrailOf (build_audit_trail (table_entries db order true
        (ops.map LoggedOperation.toLoggedItem) tenant_id) id) tenant_id id ops) ↔
      OnThePage tenant_id id ops := by
  classical
  have hnodup : (rows_of_operations tenant_id ops).Nodup :=
    List.Nodup.of_map AuditRow.id (nodup_rows hback hids tenant_id)
  have htrail : ∀ order : NewestFirst AuditRow.time,
      IsTrailOf (build_audit_trail (table_entries db order true
        (ops.map LoggedOperation.toLoggedItem) tenant_id) id) tenant_id id ops ↔
      (((order.page 50 (rows_of_operations tenant_id ops)).filter (row_relates db id)).map
          (row_content db)) =
        ((rows_of_operations tenant_id ops).filter (row_relates db id)).map (row_content db) := by
    intro order
    have hentries : table_entries db order true (ops.map LoggedOperation.toLoggedItem) tenant_id =
        (order.page 50 (rows_of_operations tenant_id ops)).map
          fun row => (row.entry db, .text row.time) := by
      unfold table_entries AuditRow.stamp
      rw [hkind]
      rfl
    unfold IsTrailOf
    rw [hentries, build_audit_trail_texts, rows_content hback]
    constructor
    · rintro ⟨entries, hentries, heq⟩
      cases hentries
      rw [List.map_map] at heq
      exact heq
    · intro heq
      refine ⟨_, rfl, ?_⟩
      rw [List.map_map]
      exact heq
  simp only [htrail]
  have htime : ∀ row, Content.timestamp (row_content db row) = row.time := fun _ => rfl
  rw [filter_page_reads_iff hnodup htime, onPage_rows_iff hback hids]
  have horder : ((rows_of_operations tenant_id ops).filter (row_relates db id)).Pairwise
      (newest.InOrder AuditRow.time (row_content db)) ↔ (operations_on tenant_id id ops).Pairwise
        fun x y => y.now.isoformat < x.now.isoformat ∨
          y.now.isoformat = x.now.isoformat ∧ x.content = y.content := by
    have hmap := congrArg (List.Pairwise fun c c' : Content =>
      c'.timestamp < c.timestamp ∨ c'.timestamp = c.timestamp ∧ c = c')
        (rows_content hback tenant_id id)
    rw [List.pairwise_map, List.pairwise_map] at hmap
    exact iff_of_eq hmap
  rw [horder]
  exact ⟨fun h => ⟨h.1, h.2⟩, fun h => ⟨h.among_newest, h.in_order⟩⟩

theorem isTrailOf_nil :
    IsTrailOf (.ok []) tenant_id id ops ↔ operations_on tenant_id id ops = [] := by
  unfold IsTrailOf
  constructor
  · rintro ⟨entries, hentries, heq⟩
    cases hentries
    exact List.map_eq_nil_iff.mp heq.symm
  · intro hnone
    exact ⟨[], rfl, by rw [hnone]; rfl⟩

/-- On PostgreSQL an entry that relates breaks the trail. -/
theorem postgres_trail_iff (hback : HandsBackEvents db ops) (hkind : db.kind = .postgres)
    (order : NewestFirst AuditRow.time) :
    IsTrailOf (build_audit_trail (table_entries db order true
        (ops.map LoggedOperation.toLoggedItem) tenant_id) id) tenant_id id ops ↔
      operations_on tenant_id id ops = [] := by
  have hentries : table_entries db order true (ops.map LoggedOperation.toLoggedItem) tenant_id =
      (order.page 50 (rows_of_operations tenant_id ops)).map
        fun row => (row.entry db, .datetime row.created_at) := by
    unfold table_entries AuditRow.stamp
    rw [hkind]
    rfl
  rw [hentries]
  unfold build_audit_trail
  have hfilter : (((order.page 50 (rows_of_operations tenant_id ops)).map
      fun row => (row.entry db, CreatedAt.datetime row.created_at)).filter
        fun e => entry_relates_to_exception e.1 id) =
      ((order.page 50 (rows_of_operations tenant_id ops)).filter (row_relates db id)).map
        fun row => (row.entry db, CreatedAt.datetime row.created_at) := by
    rw [List.filter_map]
    rfl
  rw [hfilter]
  rcases hpage : (order.page 50 (rows_of_operations tenant_id ops)).filter (row_relates db id) with
    _ | ⟨row, rest⟩
  · exact isTrailOf_nil
  · refine iff_of_false ?_ fun hnone => ?_
    · rintro ⟨entries, hentries, -⟩
      rw [List.map_cons, List.mapM_cons] at hentries
      cases hentries
    · -- The row on the page is one of an operation on the record.
      have hcontent := rows_content hback tenant_id id
      rw [hnone, List.map_nil, List.map_eq_nil_iff] at hcontent
      have hsub := (filter_page_subperm order 50 (rows_of_operations tenant_id ops)
        (row_relates db id)).subset
      rw [hpage, hcontent] at hsub
      exact List.not_mem_nil (hsub List.mem_cons_self)

/-- The table gives the trail, in every order of ties, exactly if there is
nothing to show, or SQLite is read and the page holds the operations in order. -/
theorem table_trail_iff (hback : HandsBackEvents db ops) (hids : (ops.map fun x => x.id).Nodup)
    (reads : Bool) :
    (∀ order, IsTrailOf (build_audit_trail (table_entries db order reads
        (ops.map LoggedOperation.toLoggedItem) tenant_id) id) tenant_id id ops) ↔
      operations_on tenant_id id ops = [] ∨
        reads = true ∧ db.kind = .sqlite ∧ OnThePage tenant_id id ops := by
  have hnone : operations_on tenant_id id ops = [] → OnThePage tenant_id id ops := by
    intro h
    constructor
    · intro x hx
      rw [h] at hx
      cases hx
    · rw [h]
      exact .nil
  have order : NewestFirst AuditRow.time := preferring AuditRow.time fun _ => true
  cases reads with
  | false =>
    simp only [Bool.false_eq_true, false_and, or_false]
    exact ⟨fun h => isTrailOf_nil.mp (h order), fun h _ => isTrailOf_nil.mpr h⟩
  | true =>
    cases hkind : db.kind with
    | sqlite =>
      rw [page_trail_iff hback hids hkind]
      exact ⟨fun h => Or.inr ⟨rfl, rfl, h⟩, fun h => h.elim hnone fun h => h.2.2⟩
    | postgres =>
      simp only [reduceCtorEq, false_and, and_false, or_false]
      exact ⟨fun h => (postgres_trail_iff hback hkind order).mp (h order),
        fun h order' => (postgres_trail_iff hback hkind order').mpr h⟩

end table

def openDuplicate : ChildCase :=
  { id := "E1", tenant_id := "T1", order_id := "4711", event_type := "EDI_850_DUPLICATE_PO",
    trace_id := "t1", intent := some .DUPLICATE_PO, lifecycle_state := .PENDING_REVIEW,
    shadow_verdict := some .YELLOW, selected_recipe := some .DuplicatePORecipe,
    final_status := some .MANUAL_REVIEW_REQUIRED, resolution_data := {},
    created_at := "2025-01-01", updated_at := "2025-01-01" }

def sampleEscalation : AuditEvent :=
  escalated_event (sampleUser "analyst") "E1" .PENDING_REVIEW ⟨"look", none⟩

/-- The duplicate is escalated, at this second. -/
def escalationAt (second : String) : LoggedOperation where
  item := .other ⟨sampleEscalation, by decide⟩
  id := "escalation" ++ second
  now := ⟨"2025-01-01", "00:00:" ++ second⟩
  exception_id := some "E1"
  logged_by := .record sampleConfig (sampleEnv (sampleRun 100)) (sampleUser "analyst") "E1"
    openDuplicate {} [] (.escalate "E1" none ⟨"look", none⟩) _
    (.escalated none ⟨"look", none⟩ (by decide)) rfl

theorem escalations_hand_back (seconds : List String) :
    HandsBackEvents jsonTexts (seconds.map escalationAt) := by
  have hprevious : json.loadable (.dict sampleEscalation.previous_value) = true := by decide
  have hnew : json.loadable (.dict sampleEscalation.new_value) = true := by decide
  intro x hx
  obtain ⟨second, -, rfl⟩ := List.mem_map.mp hx
  exact ⟨⟨_, column_jsonTexts hprevious, fun _ => rfl⟩, ⟨_, column_jsonTexts hnew, fun _ => rfl⟩⟩

end asoe
