-- The attachment store: blobs of a tenant behind one of three backends, their
-- erasure, which is written to the audit log before it happens, and the
-- sweeper that erases in bulk.
import Asoe.Records
import Asoe.Lib.Journal
import Asoe.Lib.Prog
import Asoe.Lib.PyText
import Asoe.Lib.Sha256

namespace asoe

open py prog

/-! ## Records -/

structure AttachmentRecord where
  id : String
  tenant_id : String
  name : String
  mime_type : String
  size_bytes : ℕ
  sha256 : String
  content : List ℕ
  created_at : String
  case_id : Option String
  deriving DecidableEq

def ATTACHMENT_MAX_BYTES : ℕ := 25 * 1024 * 1024

/-- Where the bytes are: in a dict of the process, in a table, or in an object
store beside an index of the process. -/
inductive AttachmentBackend where
  | memory | database | object_store
  deriving DecidableEq

/-- One write to the store, to the audit log, or to the registry of tombstones. -/
inductive VaultWrite where
  | put (record : AttachmentRecord)
  | event (e : AuditEvent)
  | drop_record (tenant_id attachment_id : String)
  | drop_blob (key : String)
  | tombstone (tenant_id attachment_id : String) (t : PyDict)
  deriving DecidableEq

/-- What the service runs with. -/
structure VaultEnv where
  backend : AttachmentBackend
  store : StoreKind
  sweeper_enabled : Option String
  lower : String → String

/-! ## The store after some writes -/

/-- The records, or the index without the bytes; the bytes beside it; and the
tombstones. -/
structure Vault where
  records : List ((String × String) × AttachmentRecord) := []
  blobs : List (String × List ℕ) := []
  tombstones : List ((String × String) × PyDict) := []

/-- `_key(tenant_id, attachment_id)`. -/
def blob_key (tenant_id attachment_id : String) : String := tenant_id ++ "/" ++ attachment_id

def Vault.apply (backend : AttachmentBackend) (vault : Vault) : VaultWrite → Vault
  | .put record =>
    let key := (record.tenant_id, record.id)
    if backend = .object_store then
      { vault with
        records := dict.set vault.records key { record with content := [] }
        blobs := dict.set vault.blobs (blob_key record.tenant_id record.id) record.content }
    else { vault with records := dict.set vault.records key record }
  | .event _ => vault
  | .drop_record tenant_id attachment_id =>
    { vault with records := dict.pop vault.records (tenant_id, attachment_id) }
  | .drop_blob key => { vault with blobs := dict.pop vault.blobs key }
  | .tombstone tenant_id attachment_id t =>
    { vault with tombstones := dict.set vault.tombstones (tenant_id, attachment_id) t }

def vault_after (backend : AttachmentBackend) (ws : List VaultWrite) : Vault :=
  ws.foldl (Vault.apply backend) {}

/-- `get(tenant_id, attachment_id)` of the backend. -/
def Vault.get (backend : AttachmentBackend) (vault : Vault) (tenant_id attachment_id : String) :
    Option AttachmentRecord :=
  (dict.get vault.records (tenant_id, attachment_id)).map fun record =>
    if backend = .object_store then
      { record with
        content := (dict.get vault.blobs (blob_key tenant_id attachment_id)).getD [] }
    else record

/-! ## Programs over the store -/

/-- The state is all that was written so far. -/
abbrev VaultM := EStateM ApiError (List VaultWrite)

def write_vault (w : VaultWrite) : VaultM Unit := modify fun ws => ws ++ [w]

def outage (text : String) : ApiError := .raised ⟨"OperationalError", text⟩

/-- A read of the backend; only the one in the process cannot fail. -/
def backend_get (env : VaultEnv) (ok : Bool) (tenant_id attachment_id : String) :
    VaultM (Option AttachmentRecord) := do
  require (env.backend = .memory ∨ ok = true) (outage "get")
  return (vault_after env.backend (← get)).get env.backend tenant_id attachment_id

def backend_put (env : VaultEnv) (ok : Bool) (record : AttachmentRecord) : VaultM Unit := do
  require (env.backend = .memory ∨ ok = true) (outage "put")
  write_vault (.put record)

/-- The index of an object store forgets the record before the blob goes. -/
def backend_delete (env : VaultEnv) (ok : Bool) (tenant_id attachment_id : String) :
    VaultM Unit :=
  match env.backend with
  | .memory => write_vault (.drop_record tenant_id attachment_id)
  | .database => do
    require (ok = true) (outage "delete")
    write_vault (.drop_record tenant_id attachment_id)
  | .object_store => do
    write_vault (.drop_record tenant_id attachment_id)
    require (ok = true) (outage "delete_blob")
    write_vault (.drop_blob (blob_key tenant_id attachment_id))

/-- `log_audit_event(..., strict=True)`: a failed insert raises. The in-memory
log cannot fail. -/
def log_strictly (env : VaultEnv) (ok : Bool) (e : AuditEvent) : VaultM Unit := do
  require (env.store = .memory ∨ ok = true) (outage "audit")
  write_vault (.event e)

/-! ## Storing and erasing -/

/-- The id and the time that a call draws, and whether its write goes through. -/
structure StoreDraws where
  id : String
  now : String
  put_ok : Bool := true

def store_attachment (env : VaultEnv) (draws : StoreDraws) (tenant_id name mime_type : String)
    (content : List ℕ) (case_id : Option String) : VaultM AttachmentRecord := do
  require (content.length ≤ ATTACHMENT_MAX_BYTES)
    (.raised ⟨"AttachmentTooLarge", "attachment " ++ py.reprStr name ++ " is " ++
      toString content.length ++ " bytes; limit is " ++ toString ATTACHMENT_MAX_BYTES⟩)
  let record : AttachmentRecord :=
    { id := draws.id, tenant_id := tenant_id, case_id := case_id, name := name,
      mime_type := mime_type, size_bytes := content.length,
      sha256 := sha256.hexdigest_bytes content, content := content, created_at := draws.now }
  backend_put env draws.put_ok record
  return record

/-- The time that an erasure draws, and which of its calls go through. -/
structure EraseDraws where
  now : String
  get_ok : Bool := true
  audit_ok : Bool := true
  delete_ok : Bool := true

/-- What is left of an erased attachment: neither its content nor its name. -/
def tombstone_of (record : AttachmentRecord) (now erased_by : String) (reason : Option String) :
    PyDict :=
  [("tenant_id", .str record.tenant_id), ("attachment_id", .str record.id),
    ("case_id", ofString? record.case_id), ("sha256", .str record.sha256),
    ("size_bytes", .int record.size_bytes), ("mime_type", .str record.mime_type),
    ("erased_at", .str now), ("erased_by", .str erased_by), ("reason", ofString? reason)]

/-- `s or default`, for a text that may be missing. -/
def text_or (s : Option String) (default_text : String) : String :=
  if s.getD "" = "" then default_text else s.getD ""

def attachment_erased (tenant_id : String) (record : AttachmentRecord) (now : String)
    (erased_by reason : Option String) : AuditEvent :=
  let author := text_or erased_by "system:retention-sweeper"
  { tenant_id := tenant_id
    policy_key := "ATTACHMENT_ERASED"
    previous_value := [("attachment_id", .str record.id), ("sha256", .str record.sha256),
      ("case_id", ofString? record.case_id), ("size_bytes", .int record.size_bytes),
      ("mime_type", .str record.mime_type)]
    new_value := tombstone_of record now author reason
    changed_by := author
    change_reason := text_or reason "right-to-erasure" }

def erase_attachment (env : VaultEnv) (draws : EraseDraws) (tenant_id attachment_id : String)
    (erased_by reason : Option String) : VaultM (Option PyDict) := do
  match ← backend_get env draws.get_ok tenant_id attachment_id with
  | none => return none
  | some record =>
    -- The audit event first: without it the bytes stay.
    log_strictly env draws.audit_ok
      (attachment_erased tenant_id record draws.now erased_by reason)
    backend_delete env draws.delete_ok tenant_id attachment_id
    let tombstone := tombstone_of record draws.now
      (text_or erased_by "system:retention-sweeper") reason
    write_vault (.tombstone tenant_id attachment_id tombstone)
    return some tombstone

/-! ## The sweeper -/

structure SweepCandidate where
  attachment_id : String
  tenant_id : String
  sha256 : String
  ttl_days_applied : ℤ
  reason : String

structure CommitResult where
  tenant_id : String
  residency_ok : Bool
  deleted_count : ℕ
  blocked_count : ℕ
  deriving DecidableEq

structure SweepDraws extends EraseDraws where
  scheduled_ok : Bool := true

def is_enabled (env : VaultEnv) : Prop :=
  env.lower (py.strip (env.sweeper_enabled.getD "")) ∈ ["true", "1", "yes", "on"]

instance (env : VaultEnv) : Decidable (is_enabled env) :=
  inferInstanceAs (Decidable (_ ∈ ["true", "1", "yes", "on"]))

def scheduled_delete (candidate : SweepCandidate) (sweeper_identity : String) : AuditEvent where
  tenant_id := candidate.tenant_id
  policy_key := "SCHEDULED_RETENTION_DELETE"
  previous_value := [("attachment_id", .str candidate.attachment_id),
    ("sha256", .str candidate.sha256), ("ttl_days_applied", .int candidate.ttl_days_applied)]
  new_value := [("attachment_id", .str candidate.attachment_id),
    ("sha256", .str candidate.sha256), ("ttl_days_applied", .int candidate.ttl_days_applied),
    ("reason", .str candidate.reason), ("swept_by", .str sweeper_identity)]
  changed_by := sweeper_identity
  change_reason := candidate.reason

/-- What became of one item. -/
inductive SweepOutcome where
  | deleted | blocked | absent
  deriving DecidableEq

/-- `try ... except Exception`: what was written before stays. -/
def attempt {α : Type} (x : VaultM α) : VaultM (Except ApiError α) := fun ws =>
  match x ws with
  | .ok a ws' => .ok (.ok a) ws'
  | .error e ws' => .ok (.error e) ws'

/-- The body of the loop, for one candidate. -/
def sweep_item (env : VaultEnv) (draws : SweepDraws) (sweeper_identity : String)
    (candidate : SweepCandidate) : VaultM SweepOutcome := do
  match ← attempt (erase_attachment env draws.toEraseDraws candidate.tenant_id
    candidate.attachment_id (some sweeper_identity) (some candidate.reason)) with
  | .error _ => return .blocked
  | .ok none => return .absent
  | .ok (some _) =>
    log_strictly env draws.scheduled_ok (scheduled_delete candidate sweeper_identity)
    return .deleted

/-- An item with what is drawn for it. -/
abbrev SweepItem := SweepCandidate × SweepDraws

def sweep_loop (env : VaultEnv) (sweeper_identity : String) :
    List SweepItem → ℕ → ℕ → VaultM (ℕ × ℕ)
  | [], deleted, blocked => return (deleted, blocked)
  | (candidate, draws) :: items, deleted, blocked => do
    match ← sweep_item env draws sweeper_identity candidate with
    | .deleted => sweep_loop env sweeper_identity items (deleted + 1) blocked
    | .blocked => sweep_loop env sweeper_identity items deleted (blocked + 1)
    | .absent => sweep_loop env sweeper_identity items deleted blocked

structure CommitArgs where
  tenant_id : String
  tenant_residency_region : String
  target_storage_region : String
  items : List SweepItem
  sweeper_identity : String := "system:service-principal"

def commit_with_residency_check (env : VaultEnv) (args : CommitArgs) : VaultM CommitResult := do
  require (args.target_storage_region = args.tenant_residency_region)
    (.asoe_error "RESIDENCY_VIOLATION" ("Refuse to delete from " ++ args.target_storage_region ++
      ": tenant " ++ args.tenant_id ++ " residency is " ++ args.tenant_residency_region ++ ".") 422)
  require (is_enabled env)
    (.asoe_error "RETENTION_SWEEPER_DISABLED" ("Retention sweeper is disabled. Set " ++
      "RETENTION_SWEEPER_ENABLED=true to opt in.") 403)
  let (deleted, blocked) ← sweep_loop env args.sweeper_identity args.items 0 0
  return ⟨args.tenant_id, true, deleted, blocked⟩

end asoe
