-- Certificates of erasure. The endpoint searches the audit log of the tenant
-- from its end: the in-memory store ends with the newest event, the table
-- hands back its newest fifty rows with the oldest of them at the end.
import Asoe.Attachments
import Asoe.AuditTable
import Asoe.Lib.NewestFirst
import Asoe.Lib.PyJsonRead
import Mathlib.Data.String.Basic

namespace asoe

open py prog runs newest policy_repository

/-! ## The log of a tenant -/

/-- A JSON column as it is handed back: a text is parsed. -/
def column (db : Database) (text : String) : PyVal :=
  match db.kind with
  | .sqlite => db.json_loads text
  | .postgres =>
    match db.jsonb text with
    | .str s => db.json_loads s
    | v => v

/-- A row as `list_audit_log` hands it back. -/
def AuditRow.entry (db : Database) (row : AuditRow) : AuditEntry :=
  { id := row.id, tenant_id := row.tenant_id, policy_key := row.policy_key,
    previous_value := (row.previous_value.map (column db)).getD .none,
    new_value := column db row.new_value, changed_by := row.changed_by,
    change_reason := row.change_reason, created_at := row.created_at.isoformat,
    prev_hash := row.prev_hash, event_hash := row.event_hash }

/-- `ORDER BY created_at`, as texts. -/
def AuditRow.time (row : AuditRow) : String := row.created_at.isoformat

namespace policy_repository

def list_audit_log (db : Database) (order : NewestFirst AuditRow.time) (log : List AuditRow)
    (tenant_id : String) (limit : ℕ := 50) : List AuditEntry :=
  (order.page limit (rows_of log tenant_id)).map (AuditRow.entry db)

/-- The log as `DatabaseBackedStore` hands it out: empty when the read fails. -/
def get_audit_log (db : Database) (order : NewestFirst AuditRow.time) (reads : Bool)
    (log : List AuditRow) (tenant_id : String) : List AuditEntry :=
  if reads then list_audit_log db order log tenant_id else []

end policy_repository

/-! ## The endpoint -/

structure ErasureCertificate where
  attachment_id : String
  tenant_id : String
  tombstone : PyVal
  audit_event : AuditEntry
  chain_verified : Bool
  deriving DecidableEq

/-- `policy_key == "ATTACHMENT_ERASED" and (new_value or {}).get("attachment_id") == ...`. -/
def erasure_of (attachment_id : String) (e : AuditEntry) : Except ApiError Bool :=
  if e.policy_key ≠ "ATTACHMENT_ERASED" then .ok false
  else
    match e.new_value with
    | .dict d => .ok (dict.get d "attachment_id" = some (.str attachment_id))
    | v =>
      if v.truthy then .error (.raised ⟨"AttributeError", "object has no attribute 'get'"⟩)
      else .ok false

/-- `next((e for e in log if ...), None)`. -/
def next_erasure (attachment_id : String) : List AuditEntry → Except ApiError (Option AuditEntry)
  | [] => .ok none
  | e :: log => do
    if ← erasure_of attachment_id e then return some e else next_erasure attachment_id log

/-- The certificate, from the log and the verdict on the chain of the store. -/
def attachment_erasure_certificate (log : List AuditEntry) (chain_ok : Bool)
    (tenant_id attachment_id : String) : Except ApiError ErasureCertificate := do
  match ← next_erasure attachment_id log.reverse with
  | none =>
    .error (.asoe_error "NOT_FOUND"
      ("No erasure certificate found for attachment " ++ attachment_id ++ ".") 404)
  | some event =>
    let tombstone := if event.new_value.truthy then event.new_value else .dict []
    return ⟨attachment_id, tenant_id, tombstone, event, chain_ok⟩

/-! ## Histories -/

/-- What is logged: an erasure, or any other event. -/
inductive AuditItem where
  | erased (record : AttachmentRecord) (now : String) (erased_by reason : Option String)
  | other (event : { e : AuditEvent // e.policy_key ≠ "ATTACHMENT_ERASED" })

def AuditItem.event : AuditItem → AuditEvent
  | .erased record now erased_by reason =>
    attachment_erased record.tenant_id record now erased_by reason
  | .other event => event.1

/-- An item with the id and the time that the store draws for it. -/
structure LoggedItem where
  item : AuditItem
  id : String
  now : ClockReading

def LoggedItem.tenant_id (x : LoggedItem) : String := x.item.event.tenant_id

/-- The item is an erasure of this attachment. -/
def LoggedItem.erases (attachment_id : String) (x : LoggedItem) : Bool :=
  match x.item with
  | .erased record _ _ _ => record.id = attachment_id
  | .other _ => false

def own_items (tenant_id : String) (items : List LoggedItem) : List LoggedItem :=
  items.filter fun x => x.tenant_id = tenant_id

/-- The log of the in-memory store. -/
def logged_in_memory (items : List LoggedItem) : List AuditEntry :=
  history (items.map fun x => x.item.event.call x.id x.now.isoformat)

def LoggedItem.insert (x : LoggedItem) : AuditInsert :=
  AuditEventCall.insert ⟨x.item.event.tenant_id, x.item.event.policy_key,
    .dict x.item.event.previous_value, .dict x.item.event.new_value, x.item.event.changed_by,
    some x.item.event.change_reason, x.id, x.now⟩

/-- The rows of the table. -/
def logged_in_table (items : List LoggedItem) : List AuditRow :=
  run (fun x log => insert_audit_event x.insert log) [] items

/-- The certificates that the two stores give. -/
def memory_certificate (items : List LoggedItem) (tenant_id attachment_id : String) :
    Except ApiError ErasureCertificate :=
  attachment_erasure_certificate (exception_store.get_audit_log (logged_in_memory items) tenant_id)
    (exception_store.verify_audit_chain (logged_in_memory items) tenant_id).1 tenant_id
    attachment_id

def table_certificate (db : Database) (order : NewestFirst AuditRow.time) (reads : Bool)
    (items : List LoggedItem) (tenant_id attachment_id : String) :
    Except ApiError ErasureCertificate :=
  attachment_erasure_certificate
    (policy_repository.get_audit_log db order reads (logged_in_table items) tenant_id)
    (policy_repository.verify_audit_chain db (logged_in_table items) tenant_id).1 tenant_id
    attachment_id

/-! ## What the search finds -/

section search

variable {db : Database} {items : List LoggedItem} {tenant_id attachment_id : String}

/-- The entry is the erasure that is searched for. -/
def certifies (attachment_id : String) (e : AuditEntry) : Bool :=
  match erasure_of attachment_id e with
  | .ok b => b
  | .error _ => false

theorem next_erasure_map {β : Type} (f : β → AuditEntry) {rows : List β}
    (h : ∀ r ∈ rows, ∃ b, erasure_of attachment_id (f r) = .ok b) :
    next_erasure attachment_id (rows.map f) =
      .ok ((rows.find? fun r => certifies attachment_id (f r)).map f) := by
  induction rows with
  | nil => rfl
  | cons r rows ih =>
    obtain ⟨b, hb⟩ := h r List.mem_cons_self
    have hrest := ih fun r' hr' => h r' (List.mem_cons_of_mem _ hr')
    have hcertifies : certifies attachment_id (f r) = b := by
      unfold certifies
      rw [hb]
    rw [List.map_cons, next_erasure, hb, List.find?_cons, hcertifies]
    cases b
    · exact hrest
    · rfl

theorem next_erasure_skip {log log' : List AuditEntry}
    (h : ∀ e ∈ log, erasure_of attachment_id e = .ok false) :
    next_erasure attachment_id (log ++ log') = next_erasure attachment_id log' := by
  induction log with
  | nil => rfl
  | cons e log ih =>
    have hrest := ih fun e' he' => h e' (List.mem_cons_of_mem _ he')
    rw [List.cons_append, next_erasure, h e List.mem_cons_self]
    exact hrest

/-- The entry says what the item says. -/
structure Tells (x : LoggedItem) (e : AuditEntry) : Prop where
  id : e.id = x.id
  policy_key : e.policy_key = x.item.event.policy_key
  changed_by : e.changed_by = x.item.event.changed_by
  new_value : e.policy_key = "ATTACHMENT_ERASED" →
    ∃ d, e.new_value = .dict d ∧ ∀ key, dict.get d key = dict.get x.item.event.new_value key

theorem Tells.erasure_of {x : LoggedItem} {e : AuditEntry} (h : Tells x e) :
    erasure_of attachment_id e = .ok (x.erases attachment_id) := by
  unfold asoe.erasure_of LoggedItem.erases
  rw [h.policy_key]
  cases hitem : x.item with
  | other event =>
    rw [if_pos]
    exact event.2
  | erased record now erased_by reason =>
    have hkey : (AuditItem.erased record now erased_by reason).event.policy_key =
        "ATTACHMENT_ERASED" := rfl
    have hkey' : e.policy_key = "ATTACHMENT_ERASED" := by rw [h.policy_key, hitem, hkey]
    obtain ⟨d, hd, hget⟩ := h.new_value hkey'
    have hid : dict.get d "attachment_id" = some (.str record.id) := by
      rw [hget, hitem]
      rfl
    rw [if_neg (by simp [hkey]), hd]
    simp [hid]

/-- The certificate shows this erasure. -/
structure Shows (c : ErasureCertificate) (x : LoggedItem) : Prop where
  event_id : c.audit_event.id = x.id
  policy_key : c.audit_event.policy_key = "ATTACHMENT_ERASED"
  changed_by : c.audit_event.changed_by = x.item.event.changed_by
  tombstone : ∃ d, c.tombstone = .dict d ∧
    ∀ key, dict.get d key = dict.get x.item.event.new_value key

/-- The certificate of an entry that was found. -/
theorem Tells.shows (tenant_id : String) {x : LoggedItem} {e : AuditEntry} (h : Tells x e)
    (hx : x.erases attachment_id = true) {log : List AuditEntry} (chain_ok : Bool)
    (hfind : next_erasure attachment_id log.reverse = .ok (some e)) :
    ∃ c, attachment_erasure_certificate log chain_ok tenant_id attachment_id = .ok c ∧
      c.audit_event = e ∧ Shows c x := by
  have herased : ∃ record now erased_by reason, x.item = .erased record now erased_by reason := by
    unfold LoggedItem.erases at hx
    cases hitem : x.item with
    | other event =>
      rw [hitem] at hx
      cases hx
    | erased record now erased_by reason => exact ⟨record, now, erased_by, reason, rfl⟩
  obtain ⟨record, now, erased_by, reason, hitem⟩ := herased
  have hkey : e.policy_key = "ATTACHMENT_ERASED" := by
    rw [h.policy_key, hitem]
    rfl
  obtain ⟨d, hd, hget⟩ := h.new_value hkey
  have htruthy : e.new_value.truthy = true := by
    cases d with
    | nil =>
      have hnone := hget "attachment_id"
      rw [hitem] at hnone
      cases hnone
    | cons p d =>
      rw [hd]
      rfl
  refine ⟨⟨attachment_id, tenant_id, e.new_value, e, chain_ok⟩, ?_, rfl,
    ⟨h.id, hkey, h.changed_by, ⟨d, hd, hget⟩⟩⟩
  unfold attachment_erasure_certificate
  rw [ok_bind hfind]
  simp only [htruthy, if_true]
  rfl

/-! ## The in-memory store -/

theorem tells_of_call {x : LoggedItem} {e : AuditEntry}
    (h : e.call = x.item.event.call x.id x.now.isoformat) : Tells x e where
  id := congrArg AuditCall.id h
  policy_key := congrArg AuditCall.policy_key h
  changed_by := congrArg AuditCall.changed_by h
  new_value _ := ⟨_, congrArg AuditCall.new_value h, fun _ => rfl⟩

theorem own_log_calls (items : List LoggedItem) (tenant_id : String) :
    (exception_store.get_audit_log (logged_in_memory items) tenant_id).map AuditEntry.call =
      (own_items tenant_id items).map fun x => x.item.event.call x.id x.now.isoformat := by
  have hcalls := history_calls (items.map fun x => x.item.event.call x.id x.now.isoformat)
  have hlog : (exception_store.get_audit_log (logged_in_memory items) tenant_id).map
      AuditEntry.call =
        ((logged_in_memory items).map AuditEntry.call).filter
          (fun call => call.tenant_id = tenant_id) := by
    rw [List.filter_map]
    rfl
  rw [hlog, logged_in_memory, hcalls, List.filter_map]
  rfl

/-- The in-memory store shows the latest erasure, however long its log is. -/
theorem memory_certificate_shows {x : LoggedItem} {before later : List LoggedItem}
    (hown : own_items tenant_id items = before ++ x :: later)
    (hx : x.erases attachment_id = true)
    (hlater : ∀ y ∈ later, y.erases attachment_id = false) :
    ∃ c, memory_certificate items tenant_id attachment_id = .ok c ∧ Shows c x := by
  have hcalls := own_log_calls items tenant_id
  unfold memory_certificate
  generalize exception_store.get_audit_log (logged_in_memory items) tenant_id = log at hcalls
  rw [hown, List.map_append, List.map_cons] at hcalls
  obtain ⟨pre, rest, rfl, hpre, hrest⟩ := List.map_eq_append_iff.mp hcalls
  obtain ⟨e, post, rfl, he, hpost⟩ := List.map_eq_cons_iff.mp hrest
  have htells := tells_of_call he
  have hknown : ∀ (ls : List AuditEntry) (xs : List LoggedItem), ls.map AuditEntry.call =
      xs.map (fun x => x.item.event.call x.id x.now.isoformat) →
      ∀ e' ∈ ls, ∃ y ∈ xs, Tells y e' := by
    intro ls xs hmap e' he'
    have hmem := List.mem_map_of_mem (f := AuditEntry.call) he'
    rw [hmap] at hmem
    obtain ⟨y, hy, hcall⟩ := List.mem_map.mp hmem
    exact ⟨y, hy, tells_of_call hcall.symm⟩
  have hskip : ∀ e' ∈ post.reverse, erasure_of attachment_id e' = .ok false := by
    intro e' he'
    obtain ⟨y, hy, hy_tells⟩ := hknown post later hpost e' (List.mem_reverse.mp he')
    rw [hy_tells.erasure_of, hlater y hy]
  have hfind : next_erasure attachment_id (pre ++ e :: post).reverse = .ok (some e) := by
    rw [List.reverse_append, List.reverse_cons, List.append_assoc, next_erasure_skip hskip,
      List.singleton_append, next_erasure, htells.erasure_of, hx]
    rfl
  obtain ⟨c, hc, -, hshows⟩ := htells.shows tenant_id hx _ hfind
  exact ⟨c, hc, hshows⟩

/-! ## The table -/

/-- The column of a dict is handed back with its keys and values. -/
def HandsBackDict (db : Database) (d : PyDict) : Prop :=
  ∃ d', column db (json_dumps (.dict d)) = .dict d' ∧ ∀ key, dict.get d' key = dict.get d key

/-- What the erasures of a history write is handed back. -/
def HandsBackErasures (db : Database) (items : List LoggedItem) : Prop :=
  ∀ x ∈ items, x.item.event.policy_key = "ATTACHMENT_ERASED" →
    HandsBackDict db x.item.event.new_value

theorem logged_in_table_concat (items : List LoggedItem) (x : LoggedItem) :
    logged_in_table (items ++ [x]) = insert_audit_event x.insert (logged_in_table items) := by
  unfold logged_in_table
  rw [run_append]
  rfl

theorem own_items_concat (items : List LoggedItem) (x : LoggedItem) :
    own_items tenant_id (items ++ [x]) =
      if x.tenant_id = tenant_id then own_items tenant_id items ++ [x]
      else own_items tenant_id items := by
  unfold own_items
  rw [List.filter_append]
  split <;> rename_i htenant <;> simp [htenant]

theorem rows_of_table (items : List LoggedItem) (tenant_id : String) :
    List.Forall₂ (fun x row => ∃ prev, row = new_row x.insert prev) (own_items tenant_id items)
      (rows_of (logged_in_table items) tenant_id) := by
  induction items using List.reverseRecOn with
  | nil => exact .nil
  | append_singleton items x ih =>
    rw [logged_in_table_concat, rows_of_insert, own_items_concat]
    have htenant : x.insert.tenant_id = x.tenant_id := rfl
    rw [htenant]
    split
    · exact List.rel_append ih (.cons ⟨_, rfl⟩ .nil)
    · exact ih

theorem tells_of_row {x : LoggedItem} (hback : x.item.event.policy_key = "ATTACHMENT_ERASED" →
    HandsBackDict db x.item.event.new_value) (prev : String) :
    Tells x ((new_row x.insert prev).entry db) where
  id := rfl
  policy_key := rfl
  changed_by := rfl
  new_value hkey := hback hkey

/-- What the order of the rows and the search look at. -/
theorem rows_map_eq (hback : HandsBackErasures db items) (tenant_id attachment_id : String) :
    (rows_of (logged_in_table items) tenant_id).map
        (fun row => (row.id, row.time, certifies attachment_id (row.entry db))) =
      (own_items tenant_id items).map
        fun x => (x.id, x.now.isoformat, x.erases attachment_id) := by
  have hrows := rows_of_table items tenant_id
  have hsub : ∀ x ∈ own_items tenant_id items, x ∈ items := fun x hx => List.mem_of_mem_filter hx
  generalize own_items tenant_id items = own at hrows hsub ⊢
  generalize rows_of (logged_in_table items) tenant_id = rows at hrows ⊢
  induction hrows with
  | nil => rfl
  | @cons x row own rows hrow _ ih =>
    obtain ⟨prev, rfl⟩ := hrow
    rw [List.map_cons, List.map_cons, ih fun y hy => hsub y (List.mem_cons_of_mem _ hy)]
    have htells := tells_of_row (hback x (hsub x List.mem_cons_self)) prev
    have hcertifies : certifies attachment_id ((new_row x.insert prev).entry db) =
        x.erases attachment_id := by
      unfold certifies
      rw [htells.erasure_of]
    rw [hcertifies]
    rfl

/-- Fewer than fifty other events of the tenant are as new as this erasure, and
each other erasure of the attachment is newer or has fifty newer events. -/
structure AmongNewest (own : List LoggedItem) (attachment_id : String) (x : LoggedItem) :
    Prop where
  on_page : (own.countP fun y => y.id ≠ x.id ∧ x.now.isoformat ≤ y.now.isoformat) < 50
  not_hidden : ∀ y ∈ own, y.erases attachment_id = true → y.id ≠ x.id →
    x.now.isoformat < y.now.isoformat ∨ y.now.isoformat < x.now.isoformat ∧
      50 ≤ own.countP fun z => y.now.isoformat < z.now.isoformat

theorem nodup_row_ids (tenant_id : String) (hback : HandsBackErasures db items)
    (hids : (items.map LoggedItem.id).Nodup) :
    ((rows_of (logged_in_table items) tenant_id).map AuditRow.id).Nodup := by
  have hmap := congrArg (List.map Prod.fst) (rows_map_eq hback tenant_id "")
  rw [List.map_map, List.map_map] at hmap
  have hids' : (rows_of (logged_in_table items) tenant_id).map AuditRow.id =
      (own_items tenant_id items).map LoggedItem.id := hmap
  rw [hids']
  exact hids.sublist (List.filter_sublist.map LoggedItem.id)

theorem countP_rows (hback : HandsBackErasures db items) (p : String → String → Bool) :
    ((rows_of (logged_in_table items) tenant_id).countP fun row => p row.id row.time) =
      (own_items tenant_id items).countP fun x => p x.id x.now.isoformat := by
  have hmap := congrArg (List.countP fun t => p t.1 t.2.1) (rows_map_eq hback tenant_id "")
  rw [List.countP_map, List.countP_map] at hmap
  exact hmap

/-- The condition, read off the rows. -/
theorem amongNewest_iff (hback : HandsBackErasures db items)
    (hids : (items.map LoggedItem.id).Nodup) {x : LoggedItem} {row : AuditRow}
    (hrow : row ∈ rows_of (logged_in_table items) tenant_id) (hid : row.id = x.id)
    (htime : row.time = x.now.isoformat) :
    OnPage AuditRow.time 50 (rows_of (logged_in_table items) tenant_id) row ∧
        NotHidden AuditRow.time (fun r => certifies attachment_id (r.entry db)) 50
          (rows_of (logged_in_table items) tenant_id) row ↔
      AmongNewest (own_items tenant_id items) attachment_id x := by
  have hmap := rows_map_eq hback tenant_id attachment_id
  have hne : ∀ r ∈ rows_of (logged_in_table items) tenant_id, r ≠ row ↔ r.id ≠ x.id := by
    intro r hr
    rw [← hid]
    exact not_congr ⟨congrArg AuditRow.id,
      List.inj_on_of_nodup_map (nodup_row_ids tenant_id hback hids) hr hrow⟩
  have hpage : ((rows_of (logged_in_table items) tenant_id).countP fun r =>
        decide (r ≠ row ∧ row.time ≤ r.time)) =
      (own_items tenant_id items).countP fun y =>
        decide (y.id ≠ x.id ∧ x.now.isoformat ≤ y.now.isoformat) := by
    rw [← countP_rows hback fun id time => decide (id ≠ x.id ∧ x.now.isoformat ≤ time)]
    refine List.countP_congr fun r hr => ?_
    simp only [decide_eq_true_eq, hne r hr, htime]
  have hcount : ∀ time : String, ((rows_of (logged_in_table items) tenant_id).countP fun r =>
      decide (time < r.time)) = (own_items tenant_id items).countP fun z =>
        decide (time < z.now.isoformat) :=
    fun time => countP_rows hback fun _ t => decide (time < t)
  unfold OnPage NotHidden
  rw [hpage]
  simp only [hcount]
  constructor
  · rintro ⟨hon, hhidden⟩
    refine ⟨hon, fun y hy herases hy_ne => ?_⟩
    have hmem : (y.id, y.now.isoformat, y.erases attachment_id) ∈
        (own_items tenant_id items).map
          (fun x => (x.id, x.now.isoformat, x.erases attachment_id)) :=
      List.mem_map_of_mem hy
    rw [← hmap] at hmem
    obtain ⟨r, hr, heq⟩ := List.mem_map.mp hmem
    simp only [Prod.mk.injEq] at heq
    obtain ⟨hr_id, hr_time, hr_cert⟩ := heq
    have hr_ne : r ≠ row := by
      rw [hne r hr, hr_id]
      exact hy_ne
    have hr_hidden := hhidden r hr (hr_cert.trans herases) hr_ne
    rw [htime, hr_time] at hr_hidden
    exact hr_hidden
  · rintro ⟨hon, hhidden⟩
    refine ⟨hon, fun r hr hcert hr_ne => ?_⟩
    have hmem : (r.id, r.time, certifies attachment_id (r.entry db)) ∈
        (rows_of (logged_in_table items) tenant_id).map
          (fun row => (row.id, row.time, certifies attachment_id (row.entry db))) :=
      List.mem_map_of_mem hr
    rw [hmap] at hmem
    obtain ⟨y, hy, heq⟩ := List.mem_map.mp hmem
    simp only [Prod.mk.injEq] at heq
    obtain ⟨hy_id, hy_time, hy_erases⟩ := heq
    have hy_ne : y.id ≠ x.id := by
      rw [hy_id]
      exact (hne r hr).mp hr_ne
    have hy_hidden := hhidden y hy (hy_erases.trans hcert) hy_ne
    rw [htime, ← hy_time]
    exact hy_hidden

theorem exists_item {row : AuditRow} (hrow : row ∈ rows_of (logged_in_table items) tenant_id) :
    ∃ x ∈ own_items tenant_id items, ∃ prev, row = new_row x.insert prev := by
  have hrows := rows_of_table items tenant_id
  generalize own_items tenant_id items = own at hrows
  generalize rows_of (logged_in_table items) tenant_id = rows at hrows hrow
  induction hrows with
  | nil => cases hrow
  | @cons x r own rows hr _ ih =>
    rcases List.mem_cons.mp hrow with rfl | hrow
    · exact ⟨x, List.mem_cons_self, hr⟩
    · obtain ⟨y, hy, hprev⟩ := ih hrow
      exact ⟨y, List.mem_cons_of_mem _ hy, hprev⟩

theorem exists_row {x : LoggedItem} (hx : x ∈ own_items tenant_id items) :
    ∃ row ∈ rows_of (logged_in_table items) tenant_id, ∃ prev, row = new_row x.insert prev := by
  have hrows := rows_of_table items tenant_id
  generalize own_items tenant_id items = own at hrows hx
  generalize rows_of (logged_in_table items) tenant_id = rows at hrows
  induction hrows with
  | nil => cases hx
  | @cons y r own rows hr _ ih =>
    rcases List.mem_cons.mp hx with rfl | hx
    · exact ⟨r, List.mem_cons_self, hr⟩
    · obtain ⟨row, hrow, hprev⟩ := ih hx
      exact ⟨row, List.mem_cons_of_mem _ hrow, hprev⟩

theorem next_erasure_page (tenant_id attachment_id : String) (hback : HandsBackErasures db items)
    (order : NewestFirst AuditRow.time) :
    next_erasure attachment_id
        (policy_repository.get_audit_log db order true (logged_in_table items) tenant_id).reverse =
      .ok (((order.page 50 (rows_of (logged_in_table items) tenant_id)).reverse.find?
        fun r => certifies attachment_id (r.entry db)).map (AuditRow.entry db)) := by
  have hlog : (policy_repository.get_audit_log db order true (logged_in_table items)
      tenant_id).reverse = (order.page 50 (rows_of (logged_in_table items)
        tenant_id)).reverse.map (AuditRow.entry db) := List.map_reverse.symm
  rw [hlog]
  refine next_erasure_map _ fun row hrow => ?_
  have hmem : row ∈ rows_of (logged_in_table items) tenant_id :=
    (order.perm _).mem_iff.mp (List.mem_of_mem_take (List.mem_reverse.mp hrow))
  obtain ⟨x, hx, prev, rfl⟩ := exists_item hmem
  exact ⟨_, (tells_of_row (hback x (List.mem_of_mem_filter hx)) prev).erasure_of⟩

/-- The table shows the latest erasure, whatever the order of ties, exactly if
it can be read and the erasure is among its newest rows. -/
theorem table_certificate_shows_iff (hback : HandsBackErasures db items)
    (hids : (items.map LoggedItem.id).Nodup) {x : LoggedItem}
    (hown : x ∈ own_items tenant_id items) (hx : x.erases attachment_id = true) (reads : Bool) :
    (∀ order, ∃ c, table_certificate db order reads items tenant_id attachment_id = .ok c ∧
        Shows c x) ↔
      reads = true ∧ AmongNewest (own_items tenant_id items) attachment_id x := by
  obtain ⟨row, hrow, prev, hnew⟩ := exists_row hown
  have hid : row.id = x.id := by
    rw [hnew]
    rfl
  have htime : row.time = x.now.isoformat := by
    rw [hnew]
    rfl
  have htells : Tells x (row.entry db) := by
    rw [hnew]
    exact tells_of_row (hback x (List.mem_of_mem_filter hown)) prev
  have hcert : certifies attachment_id (row.entry db) = true := by
    unfold certifies
    rw [htells.erasure_of, hx]
  have hrow_ids := nodup_row_ids tenant_id hback hids
  rw [← amongNewest_iff hback hids hrow hid htime,
    ← find_oldest_iff (List.Nodup.of_map _ hrow_ids) hrow hcert]
  cases reads with
  | false =>
    constructor
    · intro h
      obtain ⟨c, hc, -⟩ := h (preferring AuditRow.time fun _ => true)
      cases hc
    · rintro ⟨hreads, -⟩
      cases hreads
  | true =>
    constructor
    · intro h
      refine ⟨rfl, fun order => ?_⟩
      obtain ⟨c, hc, hshows⟩ := h order
      have hnext := next_erasure_page tenant_id attachment_id hback order
      unfold table_certificate attachment_erasure_certificate at hc
      rw [ok_bind hnext] at hc
      cases hfind : (order.page 50 (rows_of (logged_in_table items) tenant_id)).reverse.find?
          fun r => certifies attachment_id (r.entry db) with
      | none =>
        rw [hfind] at hc
        cases hc
      | some r =>
        rw [hfind] at hc
        obtain rfl := Except.ok.inj hc
        have hr : r ∈ rows_of (logged_in_table items) tenant_id :=
          (order.perm _).mem_iff.mp (List.mem_of_mem_take
            (List.mem_reverse.mp (List.mem_of_find?_eq_some hfind)))
        have hr_id : r.id = row.id := by
          rw [hid, ← hshows.event_id]
          rfl
        rw [List.inj_on_of_nodup_map hrow_ids hr hrow hr_id]
    · rintro ⟨-, hfind⟩ order
      have hnext := next_erasure_page tenant_id attachment_id hback order
      rw [hfind order] at hnext
      obtain ⟨c, hc, -, hshows⟩ := htells.shows tenant_id hx
        (policy_repository.verify_audit_chain db (logged_in_table items) tenant_id).1 hnext
      exact ⟨c, hc, hshows⟩

end search

/-! ## JSON texts -/

/-- A table of texts, which are read back as `json.loads` reads them. -/
def jsonTexts : Database :=
  ⟨.sqlite, fun _ => .none, fun text => (json.loads text.toList).getD .none⟩

theorem loadable_ofString? (s : Option String) : json.loadable (ofString? s) = true := by
  cases s <;> rfl

theorem loadable_tombstone (record : AttachmentRecord) (now erased_by : String)
    (reason : Option String) :
    json.loadable (.dict (tombstone_of record now erased_by reason)) = true := by
  have hcase := loadable_ofString? record.case_id
  have hreason := loadable_ofString? reason
  simp [tombstone_of, json.loadable, json.loadableDict, hcase, hreason]

theorem column_jsonTexts {v : PyVal} (h : json.loadable v = true) :
    column jsonTexts (json_dumps v) = v := by
  simp only [column, jsonTexts, json_dumps, String.toList_ofList, json.loads_dumps h,
    Option.getD_some]

theorem jsonTexts_hand_back (items : List LoggedItem) : HandsBackErasures jsonTexts items := by
  intro x _ hkey
  cases hitem : x.item with
  | other event =>
    rw [hitem] at hkey
    exact absurd hkey event.2
  | erased record now erased_by reason =>
    have hloadable := loadable_tombstone record now
      (text_or erased_by "system:retention-sweeper") reason
    exact ⟨_, column_jsonTexts hloadable, fun _ => rfl⟩

/-! ## Certificates -/

/-- The in-memory store always shows the latest erasure of an attachment. The
table shows it exactly if it can be read, fewer than fifty other events of the
tenant are as new, and no earlier erasure of the attachment is on its page. -/
theorem the_latest_erasure_is_shown_while_it_is_among_the_newest_fifty (db : Database)
    (items : List LoggedItem) (hback : HandsBackErasures db items)
    (hids : (items.map LoggedItem.id).Nodup) (reads : Bool) (tenant_id attachment_id : String)
    (before later : List LoggedItem) (x : LoggedItem)
    (hown : own_items tenant_id items = before ++ x :: later)
    (hx : x.erases attachment_id = true)
    (hlater : ∀ y ∈ later, y.erases attachment_id = false) :
    (∃ c, memory_certificate items tenant_id attachment_id = .ok c ∧ Shows c x) ∧
    ((∀ order, ∃ c, table_certificate db order reads items tenant_id attachment_id = .ok c ∧
        Shows c x) ↔
      reads = true ∧ AmongNewest (own_items tenant_id items) attachment_id x) := by
  have hmem : x ∈ own_items tenant_id items := by
    rw [hown]
    simp
  exact ⟨memory_certificate_shows hown hx hlater, table_certificate_shows_iff hback hids hmem hx
    reads⟩

/-! ## Samples -/

def erasedLetter : AttachmentRecord :=
  ⟨"A1", "T1", "letter.txt", "text/plain", 1, "00", [1], "2026-01-01T00:00:00Z", none⟩

/-- An erasure of the letter, at this second. -/
def erasureAt (second : String) : LoggedItem :=
  ⟨.erased erasedLetter "2026-02-01T00:00:00Z" none none, "erasure" ++ second,
    ⟨"2026-02-01", "00:00:" ++ second⟩⟩

/-- Some other event of the tenant, a minute later. -/
def laterEvent (n : ℕ) : LoggedItem :=
  ⟨.other ⟨⟨"T1", "EXCEPTION_DISPOSITION", [], [], "ann@acme.com", ""⟩, by decide⟩,
    "event" ++ toString n, ⟨"2026-02-01", "00:01:00"⟩⟩

theorem a_single_erasure_is_shown :
    (∃ c, memory_certificate [erasureAt "01"] "T1" "A1" = .ok c ∧ Shows c (erasureAt "01")) ∧
    ((∀ order, ∃ c, table_certificate jsonTexts order true [erasureAt "01"] "T1" "A1" = .ok c ∧
        Shows c (erasureAt "01")) ↔
      true = true ∧ AmongNewest (own_items "T1" [erasureAt "01"]) "A1" (erasureAt "01")) :=
  the_latest_erasure_is_shown_while_it_is_among_the_newest_fifty jsonTexts [erasureAt "01"]
    (jsonTexts_hand_back _) (by decide) true "T1" "A1" [] [] (erasureAt "01")
    (by simp [own_items, LoggedItem.tenant_id, AuditItem.event, attachment_erased, erasureAt,
      erasedLetter]) (by decide) (fun _ hy => absurd hy List.not_mem_nil)

/-- After fifty other events the table does not show the erasure; and where an
erasure was tried twice, because the delete failed, it shows the first try. -/
theorem the_table_misses_some_erasures :
    ¬ (∀ order, ∃ c, table_certificate jsonTexts order true
        (erasureAt "01" :: (List.range 50).map laterEvent) "T1" "A1" = .ok c ∧
      Shows c (erasureAt "01")) ∧
    ¬ (∀ order, ∃ c, table_certificate jsonTexts order true [erasureAt "01", erasureAt "02"]
        "T1" "A1" = .ok c ∧ Shows c (erasureAt "02")) := by
  constructor
  · rw [table_certificate_shows_iff (jsonTexts_hand_back _) (by decide +kernel)
      (by simp [own_items, erasureAt]; rfl) (by decide)]
    rintro ⟨-, hamong⟩
    exact absurd hamong.on_page (by decide +kernel)
  · rw [table_certificate_shows_iff (jsonTexts_hand_back _) (by decide +kernel)
      (by simp [own_items, erasureAt]; rfl) (by decide)]
    rintro ⟨-, hamong⟩
    have hhidden := hamong.not_hidden (erasureAt "01") (by simp [own_items, erasureAt]; rfl)
      (by decide) (by decide)
    revert hhidden
    decide +kernel

end asoe
