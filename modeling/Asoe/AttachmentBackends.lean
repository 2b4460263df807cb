-- The backends of the attachment store: a dict of the process, a table, and
-- an object store over a dict of blobs or over files. They answer alike while
-- no two attachments share a name in any of them.
import Asoe.Attachments
import Asoe.Lib.Grouping
import Asoe.Lib.Mirror
import Mathlib.Data.List.Sort

namespace asoe

open py prog runs mirror grouping

/-! ## Operations -/

/-- The digest and the size are those of the content. -/
def AttachmentRecord.Intact (record : AttachmentRecord) : Prop :=
  record.sha256 = sha256.hexdigest_bytes record.content ∧
    record.size_bytes = record.content.length

/-- A record as `store_attachment` makes it. -/
abbrev IntactRecord := { record : AttachmentRecord // record.Intact }

def AttachmentRecord.key (record : AttachmentRecord) : String × String :=
  (record.tenant_id, record.id)

/-- `replace(record, content=b"")`. -/
def AttachmentRecord.metadata (record : AttachmentRecord) : AttachmentRecord :=
  { record with content := [] }

/-- One operation; a put comes with the hexadecimal text that a file driver
draws for its temporary file. -/
inductive StoreOp where
  | put (record : IntactRecord) (hex : String)
  | get (tenant_id attachment_id : String)
  | list_for_case (tenant_id case_id : String)
  | delete (tenant_id attachment_id : String)

def StoreOp.tenant_id : StoreOp → String
  | .put record _ => record.1.tenant_id
  | .get tenant_id _ | .list_for_case tenant_id _ | .delete tenant_id _ => tenant_id

inductive StoreAnswer where
  | done
  | found (record : Option AttachmentRecord)
  | listed (records : List AttachmentRecord)
  deriving DecidableEq

/-- What a backend offers. -/
structure Backend (σ : Type) where
  put : AttachmentRecord → String → EStateM PyErr σ Unit
  get : String → String → EStateM PyErr σ (Option AttachmentRecord)
  list_for_case : String → String → EStateM PyErr σ (List AttachmentRecord)
  delete : String → String → EStateM PyErr σ Unit

def Backend.answer {σ : Type} (backend : Backend σ) : StoreOp → EStateM PyErr σ StoreAnswer
  | .put record hex => do
    backend.put record.1 hex
    return .done
  | .get tenant_id attachment_id => do return .found (← backend.get tenant_id attachment_id)
  | .list_for_case tenant_id case_id => do
    return .listed (← backend.list_for_case tenant_id case_id)
  | .delete tenant_id attachment_id => do
    backend.delete tenant_id attachment_id
    return .done

/-- The answer or the exception of one operation, and the state after it. -/
def Backend.act {σ : Type} (backend : Backend σ) (op : StoreOp) (s : σ) :
    Except PyErr StoreAnswer × σ :=
  match backend.answer op s with
  | .ok a s' => (.ok a, s')
  | .error e s' => (.error e, s')

/-! ## The dict of the process -/

abbrev Records := List ((String × String) × AttachmentRecord)

/-- `sorted(rows, key=lambda r: r.created_at)`, without the contents. -/
def listing (rows : List AttachmentRecord) : List AttachmentRecord :=
  (rows.insertionSort fun a b => a.created_at ≤ b.created_at).map AttachmentRecord.metadata

def of_case (tenant_id case_id : String) (record : AttachmentRecord) : Bool :=
  record.tenant_id = tenant_id && record.case_id = some case_id

/-- `_InMemoryBackend`. -/
def in_memory_backend : Backend Records where
  put record _ := modify fun records => dict.set records (record.tenant_id, record.id) record
  get tenant_id attachment_id := do return dict.get (← get) (tenant_id, attachment_id)
  list_for_case tenant_id case_id := do
    return listing (((← get).map Prod.snd).filter (of_case tenant_id case_id))
  delete tenant_id attachment_id :=
    modify fun records => dict.pop records (tenant_id, attachment_id)

/-! ## The table -/

/-- `ORDER BY created_at`; rows of one time come in any order. -/
structure ByCreatedAt where
  sort : List AttachmentRecord → List AttachmentRecord
  perm : ∀ rows, (sort rows).Perm rows
  ascending : ∀ rows, (sort rows).Pairwise fun a b => a.created_at ≤ b.created_at

namespace attachment_repository

abbrev Rows := List AttachmentRecord

/-- `WHERE id = ? AND tenant_id = ?`. -/
def held (tenant_id attachment_id : String) (row : AttachmentRecord) : Bool :=
  row.id = attachment_id && row.tenant_id = tenant_id

/-- The id alone is the primary key. -/
def insert (row : AttachmentRecord) : EStateM PyErr Rows Unit := do
  require (∀ r ∈ ← get, r.id ≠ row.id)
    ⟨"IntegrityError", "UNIQUE constraint failed: email_attachment.id"⟩
  modify fun rows => rows ++ [row]

def get (tenant_id attachment_id : String) : EStateM PyErr Rows (Option AttachmentRecord) := do
  return (← MonadState.get).find? (held tenant_id attachment_id)

def list_for_case (order : ByCreatedAt) (tenant_id case_id : String) :
    EStateM PyErr Rows (List AttachmentRecord) := do
  return (order.sort ((← MonadState.get).filter (of_case tenant_id case_id))).map
    AttachmentRecord.metadata

def delete (tenant_id attachment_id : String) : EStateM PyErr Rows Unit :=
  modify fun rows => rows.filter fun row => !held tenant_id attachment_id row

end attachment_repository

/-- `_DbBackend`. -/
def db_backend (order : ByCreatedAt) : Backend attachment_repository.Rows where
  put record _ := attachment_repository.insert record
  get := attachment_repository.get
  list_for_case := attachment_repository.list_for_case order
  delete := attachment_repository.delete

/-! ## Drivers of blobs -/

abbrev Blobs := List (String × List ℕ)

/-- What a driver of blobs offers; a put comes with what it may draw. -/
structure BlobStore where
  put_blob : String → List ℕ → String → EStateM PyErr Blobs Unit
  get_blob : String → EStateM PyErr Blobs (Option (List ℕ))
  delete_blob : String → EStateM PyErr Blobs Unit

/-- `_InMemoryBlobStore`. -/
def in_memory_blob_store : BlobStore where
  put_blob key data _ := modify fun blobs => dict.set blobs key data
  get_blob key := do return dict.get (← get) key
  delete_blob key := modify fun blobs => dict.pop blobs key

/-- What the files of a driver rest on: `str.isalnum` of a character, and the
file names that the system takes. -/
structure FileSystem where
  isalnum : Char → Bool
  accepts : String → Bool

/-- `_path`: the name of the file of a key, under the root of the driver. -/
def FileSystem.path (fs : FileSystem) (key : String) : String :=
  String.ofList (key.toList.flatMap fun c =>
    if fs.isalnum c ∨ c ∈ ['.', '_', '-'] then [c] else ['_', '_'])

def os_error : PyErr := ⟨"OSError", "[Errno 36] File name too long"⟩

/-- `_FilesystemBlobStore`: the bytes go to a temporary file that is renamed. -/
def filesystem_blob_store (fs : FileSystem) : BlobStore where
  put_blob key data hex := do
    let path := fs.path key
    let tmp := path ++ ".tmp." ++ hex
    require (fs.accepts tmp = true) os_error
    modify fun files => dict.set files tmp data
    require (fs.accepts path = true) os_error
    modify fun files => dict.set (dict.pop files tmp) path data
  get_blob key := do
    require (fs.accepts (fs.path key) = true) os_error
    return dict.get (← get) (fs.path key)
  delete_blob key := do
    require (fs.accepts (fs.path key) = true) os_error
    modify fun files => dict.pop files (fs.path key)

/-! ## The object store -/

/-- The index of the process, and the blobs. -/
structure ObjectStore where
  index : Records := []
  blobs : Blobs := []

/-- A call of the driver. -/
def with_blobs {α : Type} (x : EStateM PyErr Blobs α) : EStateM PyErr ObjectStore α :=
  zoom ObjectStore.blobs (fun blobs s => { s with blobs := blobs }) x

/-- `ObjectStoreBackend`. -/
def object_store_backend (driver : BlobStore) : Backend ObjectStore where
  put record hex := do
    with_blobs (driver.put_blob (blob_key record.tenant_id record.id) record.content hex)
    modify fun s =>
      { s with index := dict.set s.index (record.tenant_id, record.id) record.metadata }
  get tenant_id attachment_id := do
    match dict.get (← get).index (tenant_id, attachment_id) with
    | none => return none
    | some record =>
      let data ← with_blobs (driver.get_blob (blob_key tenant_id attachment_id))
      return some { record with content := data.getD [] }
  list_for_case tenant_id case_id := do
    return listing (((← get).index.map Prod.snd).filter (of_case tenant_id case_id))
  delete tenant_id attachment_id := do
    modify fun s => { s with index := dict.pop s.index (tenant_id, attachment_id) }
    with_blobs (driver.delete_blob (blob_key tenant_id attachment_id))

end asoe
