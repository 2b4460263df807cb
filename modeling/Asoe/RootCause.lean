-- The root cause of the detail view (api/profile_composer.py), as far as it is
-- composed from the record itself. Upper case and title case are those of ASCII.
import Asoe.SummaryTemplates

namespace asoe

open py

/-! ## Formats -/

/-- The format `+.{digits}f`. -/
def signed (digits : ℕ) (x : PyFloat) : String :=
  let text := fixed digits x
  if text.toList.head? = some '-' then text else "+" ++ text

example : signed 1 (.fin (-1 / 4)) = "-0.2" ∧ signed 1 (.fin 25) = "+25.0" := by decide +kernel

/-- `isinstance(v, (int, float)) and v > 0`. -/
def positive_number : PyVal → Bool
  | .bool b => b
  | .int n => decide (0 < n)
  | .float x => (PyFloat.fin 0).lt x
  | _ => false

/-! ## The sentence of each intent -/

/-- The sentence about the prices, with a percentage in its place. -/
def price_sentence (po_price erp_price : PyFloat) (pct : String) : String :=
  "PO price $" ++ fixed 2 po_price ++ " differs from ERP master $" ++ fixed 2 erp_price ++ " by "
    ++ pct ++ "%."

/-- `(po_price - erp_price) / erp_price * 100.0`. -/
def delta_pct (po_price erp_price : PyFloat) : PyFloat :=
  (((po_price.sub erp_price).div? erp_price).getD .nan).mul (.fin 100)

def contractual_root_cause (event : PyDict) : Except PyErr (Option String) := do
  let po_price ← as_float (value_at event "po_price")
  let erp_price ← as_float (value_at event "sap_base_price")
  match po_price, erp_price with
  | some po_price, some erp_price =>
    if erp_price = .fin 0 then return none
    else return some (price_sentence po_price erp_price (signed 1 (delta_pct po_price erp_price)))
  | _, _ => return none

def credit_root_cause (event : PyDict) : Except PyErr (Option String) := do
  let limit ← as_float (value_at event "credit_limit")
  let exposure ← as_float (value_at event "current_exposure")
  match limit, exposure with
  | some limit, some exposure =>
    let delta := exposure.sub limit
    if (PyFloat.fin 0).lt delta then
      return some ("Current exposure $" ++ grouped exposure ++ " exceeds credit limit $"
        ++ grouped limit ++ " by $" ++ grouped delta ++ ".")
    else
      return some ("Credit hold raised on order despite exposure $" ++ grouped exposure
        ++ " within limit $" ++ grouped limit ++ ".")
  | _, _ => return none

def duplicate_root_cause (rd event : PyDict) : Except PyErr (Option String) := do
  let score ← as_float (value_at rd "composite_score")
  let label := (value_at rd "classification").or (.str "match")
  let meta_id := value_at ((dict_at event "metadata").getD []) "matched_po_id"
  let matched := (value_at rd "matched_po_id").or meta_id
  match score with
  | some score =>
    if matched.truthy then
      return some ("Inbound PO matches prior PO " ++ matched.toStr ++ " with composite score "
        ++ fixed 2 score ++ " (" ++ label.toStr ++ ").")
    else return none
  | none => return none

def mass_pricing_root_cause (event : PyDict) : Except PyErr (Option String) := do
  let line_count := value_at event "line_count"
  if positive_number line_count then
    let n ← line_count.toInt
    return some ("Mass-pricing error spanning " ++ toString n ++ " line item"
      ++ (if line_count.eq (.int 1) then "" else "s") ++ " on the inbound order.")
  else return none

/-- The sentence that fits every intent. -/
def universal_root_cause (intent verdict final : String) : Option String :=
  let words := intent.toList.map fun c => if c = '_' then ' ' else c
  let intent_label := String.ofList (titled false words)
  if intent = "" then none
  else if final = "AUDIT_CONTEXT_MISSING" then
    some (intent_label ++ " record reached a registry-enforced audit gap — "
      ++ "required evidence fields were missing from the recipe / gateway output, so the "
      ++ "record cannot be presented for operator action.")
  else if verdict ≠ "" ∧ final ≠ "" then
    some (intent_label ++ " event evaluated by Compliance Shadow (" ++ verdict
      ++ "); orchestration concluded with terminal status " ++ final ++ ".")
  else if final ≠ "" then
    some (intent_label ++ " event concluded with terminal status " ++ final ++ ".")
  else none

/-- `_synthesise_root_cause`, with the final status of the record. -/
def synthesise_root_cause (record : ChildRecord) (final_status : Option String) :
    Except PyErr (Option String) :=
  let intent := (record.intent.getD "").toUpper
  let event := record.original_event.getD []
  if intent = "CONTRACTUAL_CORRECTION" then contractual_root_cause event
  else if intent = "CREDIT_BLOCK" then credit_root_cause event
  else if intent = "DUPLICATE_PO" then duplicate_root_cause record.resolution_data event
  else if intent = "MASS_PRICING_ERROR" then mass_pricing_root_cause event
  else
    let verdict := (record.shadow_verdict.map ShadowStatus.value).getD ""
    .ok (universal_root_cause intent verdict (final_status.getD "").toUpper)

end asoe
