-- The rules that hold the verdict colour of a case at amber: the ones that
-- never let an intent show green, and the ones that never let it show red.
import Asoe.Harness
import Asoe.Recipes

namespace asoe

open py

/-! ## What the queue reads -/

/-- A case with the columns that its row in the queue shows. -/
structure QueuedCase extends AgentCase where
  customer_id : Option String := none

/-- A child record with the fields that the queue reads. -/
structure ChildRecord where
  intent : Option String
  shadow_verdict : Option ShadowStatus
  resolution_data : PyDict := []
  enrichment_context : Option PyDict := none
  original_event : Option PyDict := none
  deriving DecidableEq

inductive VerdictColor where
  | R | A | G
  deriving DecidableEq

/-- The dictionary under the key, if it is one. -/
def dict_at (d : PyDict) (key : String) : Option PyDict :=
  match value_at d key with
  | .dict e => some e
  | _ => none

/-- `int(value)`, `None` for a value that is no whole number. -/
def int_or_none (value : PyVal) : Except PyErr (Option ℤ) :=
  match value.toInt with
  | .ok n => .ok (some n)
  | .error e => if e.kind = "OverflowError" then .error e else .ok none

/-! ## Never green -/

def NEVER_GREEN_CUSTOMER_TIERS : List ℕ := [1]

def PRICE_HOLD_NEAR_CEILING_FRACTION : PyFloat := lit (8 / 10)

def DUPLICATE_PO_GREEN_FLOOR_USD : PyFloat := lit 10000

def price_hold_near_ceiling (record : ChildRecord) : Except PyErr Bool :=
  match dict_at record.resolution_data "price_hold_analysis" with
  | none => .ok false
  | some hold =>
    if value_at hold "action" ≠ .str "AUTO_RELEASE" then .ok false
    else do
      match ← as_float ((dict.get hold "variance_pct").getD (.int 0)) with
      | none => return false
      | some variance_pct =>
        match ← as_float ((dict.get hold "tolerance_pct").getD (.int 0)) with
        | none => return false
        | some tolerance_pct =>
          if tolerance_pct.le (.fin 0) then return false
          else return (tolerance_pct.mul PRICE_HOLD_NEAR_CEILING_FRACTION).le variance_pct

def duplicate_po_above_floor (record : ChildRecord) : Except PyErr Bool :=
  match (dict_at record.resolution_data "duplicate_detection").bind
    (dict_at · "duplicate_order") with
  | none => .ok false
  | some dup => do
    match ← as_float ((dict.get dup "total_value").getD (.int 0)) with
    | none => return false
    | some total => return DUPLICATE_PO_GREEN_FLOOR_USD.lt total

def is_high_tier_customer (case : QueuedCase) : Bool :=
  case.tier.value ∈ NEVER_GREEN_CUSTOMER_TIERS

def requires_cosign (record : ChildRecord) : Bool :=
  match (dict_at (record.enrichment_context.getD []) "change_analysis").bind
    (dict_at · "decision") with
  | none => false
  | some decision => dict.get decision "requires_cosign" = some (.bool true)

/-- A rule keeps the intent from showing green. -/
def should_floor_to_amber (intent : String) (record : ChildRecord) (case : QueuedCase) :
    Except PyErr Bool := do
  if intent = "PRICE_HOLD_RELEASE" then
    if ← price_hold_near_ceiling record then return true
  if intent = "DUPLICATE_PO" then
    if ← duplicate_po_above_floor record then return true
  if is_high_tier_customer case then return true
  return intent ∈ ["EMAIL_COMPLAINT", "CHANGE_ANALYSIS"] ∧ requires_cosign record

/-! ## Never red -/

def NEVER_RED_EDI_SUBTYPES : List String := ["DATE_FORMAT", "UOM_NORMALISATION"]

def NEVER_RED_PALLET_CLASSIFICATIONS : List String := ["BROKEN_LAYER", "PARTIAL_PALLET"]

def delivery_delay_within_sla (record : ChildRecord) : Except PyErr Bool := do
  let delay := (dict_at record.resolution_data "delivery_delay_analysis").getD
    record.resolution_data
  match ← int_or_none ((dict.get delay "days_late").getD (.int 0)) with
  | none => return false
  | some days_late =>
    return 0 < days_late ∧ dict.get delay "sla_breach" ≠ some (.bool true)

def pallet_routine_class (record : ChildRecord) : Except PyErr Bool :=
  match dict_at record.resolution_data "pallet_analysis" with
  | none => .ok false
  | some pallet => (value_at pallet "classification").memberOf NEVER_RED_PALLET_CLASSIFICATIONS

def edi_routine_subtype (record : ChildRecord) : Except PyErr Bool :=
  match dict_at record.resolution_data "edi_mismatch_analysis" with
  | none => .ok false
  | some edi => (value_at edi "sub_type").memberOf NEVER_RED_EDI_SUBTYPES

/-- A rule keeps the intent from showing red. -/
def should_ceiling_at_amber (intent : String) (record : ChildRecord) : Except PyErr Bool := do
  if intent = "DELIVERY_DELAY" then
    if ← delivery_delay_within_sla record then return true
  if intent = "PALLET_CONFIG" then
    if ← pallet_routine_class record then return true
  if intent = "EDI_MISMATCH" then
    if ← edi_routine_subtype record then return true
  return false

/-! ## The gates -/

/-- The colour of the children, after the rules for the primary child. -/
def apply_verdict_color_gates (raw_color : Option VerdictColor) (intent : Option String)
    (primary_record : Option ChildRecord) (case : QueuedCase) :
    Except PyErr (Option VerdictColor) :=
  match raw_color, intent, primary_record with
  | some .G, some intent, some record => do
    return some (if ← should_floor_to_amber intent record case then .A else .G)
  | some .R, some intent, some record => do
    return some (if ← should_ceiling_at_amber intent record then .A else .R)
  | raw_color, _, _ => .ok raw_color

end asoe
