-- The envelope of a duplicate order. It tells what people did from what their
-- requests left on the record, and picks the audit events that name the record
-- out of the log of the tenant.
import Asoe.AuditReplay
import Asoe.ErasureCertificates

namespace asoe

open py prog

/-! ## Entries -/

inductive HumanAction where
  | APPROVE | REJECT | OVERRIDE | ESCALATE | COSIGN_APPROVE | COSIGN_REJECT | REANALYZE
  deriving DecidableEq

def HumanAction.value : HumanAction → String
  | APPROVE => "APPROVE"
  | REJECT => "REJECT"
  | OVERRIDE => "OVERRIDE"
  | ESCALATE => "ESCALATE"
  | COSIGN_APPROVE => "COSIGN_APPROVE"
  | COSIGN_REJECT => "COSIGN_REJECT"
  | REANALYZE => "REANALYZE"

structure HumanActionEntry where
  action : HumanAction
  actor : String
  timestamp : String
  notes : Option String
  reason_tag : Option String
  payload : PyDict
  deriving DecidableEq

structure AuditTrailEntry where
  event_type : String
  timestamp : String
  actor : String
  payload : PyDict
  event_hash : String
  deriving DecidableEq

/-- A text field of a pydantic model. -/
def text_field : PyVal → Except PyErr String
  | .str s => .ok s
  | _ => .error ⟨"ValidationError", "Input should be a valid string"⟩

def optional_text_field : PyVal → Except PyErr (Option String)
  | .none => .ok none
  | v => do return some (← text_field v)

/-- `HumanActionEntry(...)`, from the values that it is given. -/
def HumanActionEntry.of (action : HumanAction) (actor timestamp notes reason_tag : PyVal)
    (payload : PyDict) : Except PyErr HumanActionEntry := do
  let actor ← text_field actor
  let timestamp ← text_field timestamp
  let notes ← optional_text_field notes
  let reason_tag ← optional_text_field reason_tag
  return ⟨action, actor, timestamp, notes, reason_tag, payload⟩

/-! ## What the handlers left on the record -/

/-- An entry of the history, under the keys that `reanalyze_exception` wrote.
The executed nodes of the attempt before are left out. -/
def ReanalysisEntry.dict (entry : ReanalysisEntry) : PyDict :=
  [("attempt", .int entry.attempt), ("triggered_at", .str entry.triggered_at),
    ("triggered_by", .str entry.triggered_by), ("reason", .str entry.reason),
    ("prior_trace_id", .str entry.prior_trace_id),
    ("prior_shadow_verdict", ofString? (entry.prior_shadow_verdict.map (·.value))),
    ("prior_final_status", ofString? (entry.prior_final_status.map (·.value))),
    ("prior_lifecycle_state", ofLifecycle entry.prior_lifecycle_state),
    ("new_trace_id", .str entry.new_trace_id),
    ("new_shadow_verdict", ofString? (entry.new_shadow_verdict.map (·.value))),
    ("new_final_status", ofString? (entry.new_final_status.map (·.value))),
    ("new_lifecycle_state", ofLifecycle entry.new_lifecycle_state)]

/-- The cosign metadata, under the keys that `cosign_override` wrote. -/
def CosignMeta.dict (cosign : CosignMeta) : PyDict :=
  [("cosigned_by", .str cosign.cosigned_by), ("cosigned_at", .str cosign.cosigned_at),
    ("cosign_notes", .str cosign.cosign_notes), ("initiator", .str cosign.initiator),
    ("initiated_at", .str cosign.initiated_at)]

def PendingOverride.dict (pending : PendingOverride) : PyDict :=
  [("action", .str pending.action), ("notes", .str pending.notes),
    ("reason_tag", .str pending.reason_tag)] ++
  (match pending.corrections with
    | some corrections => [("corrections", .dict corrections)]
    | none => []) ++
  [("initiator", .str pending.initiator), ("initiated_at", .str pending.initiated_at),
    ("financial_impact_usd", .float pending.financial_impact_usd),
    ("from_lifecycle_state", ofLifecycle pending.from_lifecycle_state)]

/-! ## The human actions -/

section actions

variable (record : ChildCase)

def reanalysis_action (entry : PyDict) : Except PyErr HumanActionEntry :=
  HumanActionEntry.of .REANALYZE ((value_at entry "triggered_by").or (.str "system"))
    ((value_at entry "at").or (.str record.updated_at)) (value_at entry "reason") .none
    [("attempt", value_at entry "attempt")]

/-- `record.resolved_by and record.resolved_action`. -/
def is_resolved : Bool :=
  record.resolved_by.getD "" != "" && record.resolved_action.getD "" != ""

/-- The kind of a resolution: by the lifecycle, else by whether the
recommended action was chosen. -/
def resolution_kind (lifecycle_state : LifecycleState) (chosen recommended : String) :
    HumanAction :=
  if lifecycle_state = .REJECTED then .REJECT
  else if lifecycle_state = .ESCALATED then .ESCALATE
  else if chosen = recommended ∧ recommended ≠ "" then .APPROVE
  else .OVERRIDE

def resolution_actions : Except PyErr (List HumanActionEntry) :=
  if is_resolved record then do
    let rd := record.resolution_data.outputs
    let recommended ← text_of "strip" (value_at rd "recommended_action")
    let kind := resolution_kind record.lifecycle_state (strip (record.resolved_action.getD ""))
      (strip recommended)
    let entry ← HumanActionEntry.of kind (ofString? record.resolved_by) (.str record.updated_at)
      (ofString? record.resolution_notes) (value_at rd "reason_tag")
      [("resolved_action", ofString? record.resolved_action)]
    return [entry]
  else return []

def cosign_actions : Except PyErr (List HumanActionEntry) :=
  match record.resolution_data.cosign with
  | none => return []
  | some cosign => do
    let approved := value_at cosign.dict "approved"
    let entry ← HumanActionEntry.of (if approved.truthy then .COSIGN_APPROVE else .COSIGN_REJECT)
      ((value_at cosign.dict "cosigned_by").or (.str "unknown"))
      ((value_at cosign.dict "cosigned_at").or (.str record.updated_at))
      (value_at cosign.dict "notes") .none [("approved", .bool approved.truthy)]
    return [entry]

def pending_actions : Except PyErr (List HumanActionEntry) :=
  match record.resolution_data.pending_override with
  | none => return []
  | some pending => do
    let entry ← HumanActionEntry.of .OVERRIDE
      ((value_at pending.dict "initiator").or (.str "unknown"))
      ((value_at pending.dict "initiated_at").or (.str record.updated_at))
      (value_at pending.dict "notes") (value_at pending.dict "reason_tag")
      [("resolved_action", value_at pending.dict "action"), ("pending_cosign", .bool true),
        ("financial_impact_usd", value_at pending.dict "financial_impact_usd")]
    return [entry]

end actions

/-- `key=lambda a: (a.timestamp, 0 if a.actor == "system" else 1)`. -/
def HumanActionEntry.le (a b : HumanActionEntry) : Prop :=
  a.timestamp < b.timestamp ∨
    a.timestamp = b.timestamp ∧ (a.actor = "system" ∨ b.actor ≠ "system")

instance : DecidableRel HumanActionEntry.le :=
  fun _ _ => inferInstanceAs (Decidable (_ ∨ _ ∧ _))

def build_human_actions (record : ChildCase) : Except PyErr (List HumanActionEntry) := do
  let reanalyses ← record.reanalysis_history.mapM fun e => reanalysis_action record e.dict
  let resolutions ← resolution_actions record
  let cosigns ← cosign_actions record
  let pendings ← pending_actions record
  return (reanalyses ++ resolutions ++ cosigns ++ pendings).insertionSort HumanActionEntry.le

/-! ## The audit trail -/

/-- The value is a dict that names the exception. -/
def names_exception (exception_id : String) : PyVal → Bool
  | .dict d => (value_at d "exception_id").eq (.str exception_id)
  | _ => false

def entry_relates_to_exception (entry : AuditEntry) (exception_id : String) : Bool :=
  names_exception exception_id entry.previous_value || names_exception exception_id entry.new_value

/-- `created_at` as a store hands it out. -/
inductive CreatedAt where
  | text (s : String)
  | datetime (r : ClockReading)
  deriving DecidableEq

/-- `AuditTrailEntry.timestamp` is a text. -/
def timestamp_field : CreatedAt → Except PyErr String
  | .text s => .ok s
  | .datetime _ => .error ⟨"ValidationError", "Input should be a valid string"⟩

abbrev LogEntries := List (AuditEntry × CreatedAt)

/-- An entry of the log as the trail shows it. -/
def AuditEntry.shown (entry : AuditEntry) (timestamp : String) : AuditTrailEntry where
  event_type := entry.policy_key
  timestamp := timestamp
  actor := if entry.changed_by = "" then "system" else entry.changed_by
  payload := [("previous_value", entry.previous_value), ("new_value", entry.new_value),
    ("change_reason", ofString? entry.change_reason)]
  event_hash := entry.event_hash

/-- One entry of the trail. Each entry of a log has every key that is asked for. -/
def audit_trail_entry (entry : AuditEntry) (created_at : CreatedAt) :
    Except PyErr AuditTrailEntry := do
  let timestamp ← timestamp_field created_at
  return entry.shown timestamp

def build_audit_trail (audit_log_entries : LogEntries) (exception_id : String) :
    Except PyErr (List AuditTrailEntry) :=
  (audit_log_entries.filter fun e => entry_relates_to_exception e.1 exception_id).mapM
    fun e => audit_trail_entry e.1 e.2

/-! ## The envelope -/

def required_keys : List String :=
  ["signal_breakdown", "composite_score", "classification", "recommended_action"]

/-- The record has an envelope: a duplicate order whose recipe ran. -/
def has_envelope (record : ChildCase) : Bool :=
  record.intent = some .DUPLICATE_PO &&
    required_keys.all fun k => (dict.get record.resolution_data.outputs k).isSome

/-- The two lists of the envelope. The snapshots of the orders and the figures
of the recipe, which the composer copies beside them, are left out. -/
structure DuplicatePOEnvelope where
  exception_id : String
  tenant_id : String
  lifecycle_state : LifecycleState
  audit_trail : List AuditTrailEntry
  human_actions : List HumanActionEntry
  deriving DecidableEq

def compose_duplicate_po_envelope (record : ChildCase) (audit_log_entries : LogEntries) :
    Except PyErr (Option DuplicatePOEnvelope) :=
  if has_envelope record then do
    let audit_trail ← build_audit_trail audit_log_entries record.id
    let human_actions ← build_human_actions record
    return some ⟨record.id, record.tenant_id, record.lifecycle_state, audit_trail, human_actions⟩
  else return none

end asoe
