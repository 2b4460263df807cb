-- The admin endpoints of the tenant config: rows of weights, one for each
-- layer and scope, and the entry of the audit log that each edit writes.
import Asoe.AuditTable
import Asoe.Exceptions
import Asoe.Lib.Grouping

namespace asoe

open py prog policy_repository grouping

/-! ## Rows -/

/-- Named weights. -/
abbrev Weights := List (String × PyFloat)

def ofWeights (weights : Weights) : PyVal := .dict (weights.map fun p => (p.1, .float p.2))

/-- One row of `tenant_config`, with the values of its JSON columns as they
were written. -/
structure ConfigRow where
  id : String
  tenant_id : String
  layer : String
  scope_hash : String
  scope : PyDict
  weights : Weights
  created_by : String
  created_at : ClockReading
  updated_at : ClockReading
  deriving DecidableEq

structure ConfigTables extends PolicyTables where
  tenant_config : List ConfigRow := []

/-- An error of these endpoints. -/
inductive ConfigError where
  | http_exception (status_code : ℕ) (detail : String)
  | api (e : ApiError)
  deriving DecidableEq

abbrev ConfigM := EStateM ConfigError ConfigTables

/-! ## The repository -/

namespace tenant_config_repository

/-- `_canonical_scope(scope)`. -/
def canonical_scope (scope : PyDict) : PyDict := scope.filter fun p => p.2 ≠ .none

/-- `_scope_hash(scope)`. -/
def scope_hash (scope : PyDict) : String :=
  sha256.hexdigest (json.dumps true (.dict (canonical_scope scope)))

/-- The row has this place: it is unique in the table. -/
def At (tenant_id layer hash : String) (row : ConfigRow) : Prop :=
  row.tenant_id = tenant_id ∧ row.layer = layer ∧ row.scope_hash = hash

instance (tenant_id layer hash : String) : DecidablePred (At tenant_id layer hash) :=
  fun _ => inferInstanceAs (Decidable (_ ∧ _ ∧ _))

def get_row (rows : List ConfigRow) (tenant_id layer : String) (scope : PyDict) :
    Option ConfigRow :=
  rows.find? fun row => At tenant_id layer (scope_hash scope) row

/-- The weights of a row as `get` hands them out. -/
def stored_weights (db : Database) (weights : Weights) : PyVal :=
  let text := json_dumps (ofWeights weights)
  match db.kind with
  | .sqlite => (db.json_loads text).or (.dict [])
  | .postgres =>
    match db.jsonb text with
    | .str s => (db.json_loads s).or (.dict [])
    | v => v

/-- The weights at a place, `None` when it has no row. -/
def weights_before (db : Database) (rows : List ConfigRow) (tenant_id layer : String)
    (scope : PyDict) : PyVal :=
  match get_row rows tenant_id layer scope with
  | some existing => stored_weights db existing.weights
  | none => .none

/-- `ORDER BY created_at, id`. -/
def list_by_layer (rows : List ConfigRow) (tenant_id layer : String) : List ConfigRow :=
  (rows.filter fun row => row.tenant_id = tenant_id ∧ row.layer = layer).insertionSort
    fun a b => a.created_at.isoformat < b.created_at.isoformat ∨
      a.created_at.isoformat = b.created_at.isoformat ∧ a.id ≤ b.id

/-- The rows after `upsert`, with the id and the time that it draws. -/
def upsert (rows : List ConfigRow) (tenant_id layer : String) (scope : PyDict) (weights : Weights)
    (created_by record_id : String) (now : ClockReading) : List ConfigRow × ConfigRow :=
  let hash := scope_hash (canonical_scope scope)
  match get_row rows tenant_id layer (canonical_scope scope) with
  | some existing =>
    (rows.map fun row =>
        if At tenant_id layer hash row then
          { row with weights := weights, created_by := created_by, updated_at := now }
        else row,
      ⟨existing.id, tenant_id, layer, hash, canonical_scope scope, weights, created_by,
        existing.created_at, now⟩)
  | none =>
    let row : ConfigRow := ⟨record_id, tenant_id, layer, hash, canonical_scope scope, weights,
      created_by, now, now⟩
    (rows ++ [row], row)

def delete (rows : List ConfigRow) (tenant_id layer : String) (scope : PyDict) : List ConfigRow :=
  match get_row rows tenant_id layer scope with
  | none => rows
  | some existing => rows.filter fun row => ¬ At tenant_id layer existing.scope_hash row

end tenant_config_repository

open tenant_config_repository

/-! ## The event -/

/-- The layer of an event, with the keys of its scope. -/
inductive ConfigScope where
  | tenant
  | tier (customer_tier : String)
  | customer (customer_id : String)
  | channel (customer_id name : String)
  deriving DecidableEq

structure ConfigChangeEvent where
  scope : ConfigScope
  tenant_id : String
  changed_by : String
  timestamp : String
  new_weights : Weights
  previous_weights : Option Weights
  change_reason : Option String
  deriving DecidableEq

/-- What the key of an audit entry says after the prefix. -/
def ConfigScope.text : ConfigScope → String
  | .tenant => "tenant"
  | .tier customer_tier => "tier:" ++ customer_tier
  | .customer customer_id => "customer:" ++ customer_id
  | .channel customer_id name => "channel:" ++ customer_id ++ ":" ++ name

def CONFIG_AUDIT_PREFIX : String := "duplicate_po.weights."

def policy_key_for_event (event : ConfigChangeEvent) : String :=
  CONFIG_AUDIT_PREFIX ++ event.scope.text

def TIERS : List String := ["strategic", "standard", "smb"]

/-- The keys that the scope of a layer is read from. -/
def ConfigScope.fields : ConfigScope → List String
  | .tenant => []
  | .tier _ => ["customer_tier"]
  | .customer _ => ["customer_id"]
  | .channel _ _ => ["customer_id", "channel"]

/-- The fields of every event. -/
def BASE_FIELDS : List String :=
  ["event_type", "layer", "tenant_id", "changed_by", "timestamp", "new_weights",
    "previous_weights", "change_reason"]

/-! ## Validation -/

def text? : PyVal → Option String
  | .str s => some s
  | _ => none

def literal? (allowed : List String) (v : PyVal) : Option String :=
  (text? v).filter fun s => s ∈ allowed

def optional? {α : Type} (read : PyVal → Option α) : PyVal → Option (Option α)
  | .none => some none
  | v => (read v).map some

/-- A mapping to floats, for what the validator makes of a value that should
be a float. -/
def weights? (as_float : PyVal → Option PyFloat) : PyVal → Option Weights
  | .dict d => d.mapM fun p => (as_float p.2).map fun x => (p.1, x)
  | _ => none

/-- A field of the payload; the error names it. -/
def field {α : Type} (payload : PyDict) (key : String) (read : PyVal → Option α) :
    Except PyErr α :=
  match (dict.get payload key).bind read with
  | some a => .ok a
  | none => .error ⟨"ValidationError", key⟩

/-- The layer that the payload names decides which keys are read. -/
def read_scope (payload : PyDict) : Except PyErr ConfigScope := do
  let layer ← field payload "layer" (literal? ["tenant", "tier", "customer", "channel"])
  if layer = "tenant" then return .tenant
  else if layer = "tier" then return .tier (← field payload "customer_tier" (literal? TIERS))
  else if layer = "customer" then return .customer (← field payload "customer_id" text?)
  else return .channel (← field payload "customer_id" text?) (← field payload "channel" text?)

/-- `TypeAdapter(ConfigChangeEvent).validate_python(payload)`. -/
def validate_python (as_float : PyVal → Option PyFloat) (payload : PyDict) :
    Except PyErr ConfigChangeEvent := do
  let scope ← read_scope payload
  if ∃ p ∈ payload, p.1 ∉ BASE_FIELDS ++ scope.fields then
    .error ⟨"ValidationError", "Extra inputs are not permitted"⟩
  else do
    let _ ← field payload "event_type" (literal? ["config_change"])
    return { scope := scope,
             tenant_id := ← field payload "tenant_id" text?,
             changed_by := ← field payload "changed_by" text?,
             timestamp := ← field payload "timestamp" text?,
             new_weights := ← field payload "new_weights" (weights? as_float),
             previous_weights := ← field payload "previous_weights"
               (optional? (weights? as_float)),
             change_reason := ← field payload "change_reason" (optional? text?) }

/-- The fields of the event, and over them those of the scope. -/
def config_payload (layer tenant_id : String) (scope : PyDict) (new_weights : Weights)
    (previous_weights : PyVal) (changed_by : String) (change_reason : Option String)
    (timestamp : ClockReading) : PyDict :=
  dict.update [("event_type", .str "config_change"), ("layer", .str layer),
    ("tenant_id", .str tenant_id), ("changed_by", .str changed_by),
    ("timestamp", .str timestamp.isoformat), ("new_weights", ofWeights new_weights),
    ("previous_weights", previous_weights), ("change_reason", ofString? change_reason)] scope

/-! ## The handlers -/

def LAYERS : List String := ["tenant", "tier", "customer", "channel"]

def validate_layer_name (layer : String) : ConfigM Unit :=
  require (layer ∈ LAYERS) (.http_exception 404 ("unknown layer " ++ py.reprStr layer ++
    "; expected one of ('tenant', 'tier', 'customer', 'channel')"))

/-- `_validate_scope_for_layer(layer, scope)`. -/
def validate_scope_for_layer (layer : String) (scope : PyDict) : ConfigM Unit := do
  if layer = "tenant" then
    require (scope = []) (.http_exception 400 "tenant layer takes empty scope (no scope keys)")
  else if layer = "tier" then do
    require ((dict.get scope "customer_tier").isSome)
      (.http_exception 400 "tier layer requires customer_tier in scope")
    require (∃ tier ∈ TIERS, dict.get scope "customer_tier" = some (.str tier))
      (.http_exception 400 "customer_tier must be one of strategic|standard|smb")
  else if layer = "customer" then
    require ((dict.get scope "customer_id").isSome)
      (.http_exception 400 "customer layer requires customer_id in scope")
  else if layer = "channel" then
    require ((dict.get scope "customer_id").isSome ∧ (dict.get scope "channel").isSome)
      (.http_exception 400 "channel layer requires customer_id and channel in scope")

structure TenantConfigUpsertRequest where
  scope : PyDict := []
  once : Once scope := by decide
  weights : Weights
  change_reason : Option String := none

structure TenantConfigDeleteRequest where
  scope : PyDict := []
  once : Once scope := by decide
  change_reason : Option String := none

/-- The clock readings and the ids that a call draws. -/
structure ConfigDraws where
  timestamp : ClockReading
  record_id : String
  row_now : ClockReading
  audit_id : String
  audit_now : ClockReading

def forbidden_role (allowed : List String) : ApiError :=
  .asoe_error "FORBIDDEN" ("Requires one of roles: " ++ join ", " allowed ++ ".") 403

/-- The dependency `require_role(*allowed)`. -/
def config_role (user : AuthenticatedUser) (allowed : List String) : ConfigM Unit :=
  require (∃ r ∈ user.roles, r ∈ allowed) (.api (forbidden_role allowed))

/-- `create_audit_event`, in a transaction of its own. -/
def write_config_event (draws : ConfigDraws) (tenant_id : String) (event : ConfigChangeEvent)
    (changed_by : String) (change_reason : Option String) : ConfigM Unit :=
  modify fun tables =>
    { tables with
      policy_audit_log := insert_audit_event (AuditEventCall.insert
        ⟨tenant_id, policy_key_for_event event,
          (event.previous_weights.map ofWeights).getD .none, ofWeights event.new_weights,
          changed_by, change_reason, draws.audit_id, draws.audit_now⟩) tables.policy_audit_log }

section endpoints

variable (db : Database) (as_float : PyVal → Option PyFloat) (user : AuthenticatedUser)
  (draws : ConfigDraws) (tenant_id layer : String)

/-- `_build_config_change_event(...)`. -/
def build_config_change_event (scope : PyDict) (new_weights : Weights) (previous_weights : PyVal)
    (change_reason : Option String) : ConfigM ConfigChangeEvent :=
  MonadExcept.ofExcept ((validate_python as_float (config_payload layer tenant_id scope new_weights
    previous_weights user.sub change_reason draws.timestamp)).mapError fun e => .api (.raised e))

/-- `PUT /config/tenants/{tenant_id}/layers/{layer}`. -/
def upsert_layer (req : TenantConfigUpsertRequest) : ConfigM ConfigRow := do
  config_role user ["admin"]
  validate_layer_name layer
  validate_scope_for_layer layer req.scope
  let tables ← get
  let event ← build_config_change_event as_float user draws tenant_id layer req.scope req.weights
    (weights_before db tables.tenant_config tenant_id layer req.scope) req.change_reason
  let (rows, row) := upsert tables.tenant_config tenant_id layer req.scope req.weights user.sub
    draws.record_id draws.row_now
  modify fun tables => { tables with tenant_config := rows }
  write_config_event draws tenant_id event user.sub req.change_reason
  return row

/-- `DELETE /config/tenants/{tenant_id}/layers/{layer}`. -/
def delete_layer (req : TenantConfigDeleteRequest) : ConfigM Bool := do
  config_role user ["admin"]
  validate_layer_name layer
  validate_scope_for_layer layer req.scope
  let tables ← get
  require (get_row tables.tenant_config tenant_id layer req.scope).isSome
    (.http_exception 404 "config row not found for given (tenant, layer, scope)")
  let event ← build_config_change_event as_float user draws tenant_id layer req.scope []
    (weights_before db tables.tenant_config tenant_id layer req.scope) req.change_reason
  modify fun tables =>
    { tables with tenant_config := delete tables.tenant_config tenant_id layer req.scope }
  write_config_event draws tenant_id event user.sub req.change_reason
  return true

end endpoints

end asoe
