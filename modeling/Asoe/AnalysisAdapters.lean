-- The adapters that the headlines of the queue are made from: the figures of
-- an analysis, from what the recipe left on the record, or from a run of the
-- recipe on the event when it left nothing.
import Asoe.VerdictGates
import Asoe.QuantityRecipes

namespace asoe.analysis

open py

/-! ## Reading -/

/-- `_as_float(v, default)`. -/
def float_or (v : PyVal) (default : PyFloat) : Except PyErr PyFloat := do
  return (← as_float v).getD default

/-- `try: ... except (TypeError, ValueError): return None`; a failed
validation is a value error. -/
def unless_malformed {α : Type} (x : Except PyErr (Option α)) : Except PyErr (Option α) :=
  match x with
  | .ok a => .ok a
  | .error e =>
    if e.kind ∈ ["TypeError", "ValueError", "ValidationError"] then .ok none else .error e

/-- An `Optional[str]` of a model. -/
def opt_text : PyVal → Except PyErr (Option String)
  | .none => .ok none
  | .str s => .ok (some s)
  | _ => .error ⟨"ValidationError", "Input should be a valid string"⟩

/-- An `Optional[float]` of a model. -/
def opt_number (v : PyVal) : Except PyErr (Option PyFloat) :=
  if v = .none then .ok none
  else match v.toFloat with
    | .ok x => .ok (some x)
    | .error _ => .error ⟨"ValidationError", "Input should be a valid number"⟩

/-- `str(v.get(key) or default)`. -/
def text_or (v : PyVal) (key default : String) : Except PyErr String := do
  return ((← get_attr v key).or (.str default)).toStr

/-- `v.get(key) or w.get(key)`. -/
def first_of (v w : PyVal) (key : String) : Except PyErr PyVal := do
  let a ← get_attr v key
  if a.truthy then return a else get_attr w key

def metadata_of (event : PyDict) : PyVal := (value_at event "metadata").or (.dict [])

def order_id_of (event : PyDict) : PyVal :=
  .str ((dict.get event "order_id").getD (.str "")).toStr

/-- What the recipe left on the record is projected, and else what it returns
now, unless that is a failure. -/
def from_outputs_or {α : Type} (outputs : PyDict) (synthetic : Except PyErr (Option PyDict))
    (projection : PyDict → Except PyErr (Option α)) : Except PyErr (Option α) := do
  let status := value_at outputs "status"
  let found ← if status.truthy ∧ status ≠ .str "FAILED" then projection outputs else pure none
  match found with
  | some data => return some data
  | none =>
    match ← synthetic with
    | none => return none
    | some outputs =>
      if value_at outputs "status" = .str "FAILED" then return none else projection outputs

/-! ## Price -/

structure PriceAnalysisData where
  erp_unit_price : PyFloat
  po_unit_price : PyFloat
  variance_amount : PyFloat
  variance_pct : PyFloat
  total_at_risk : PyFloat
  total_quantity : PyFloat
  uom : String
  doc_type : String
  doc_number : String
  sku : String
  rule_id : String
  root_cause_category : String
  contract_ref : Option String
  promotion_ref : Option String
  material_desc : Option String
  order_date : Option String

def adapt_price (record : ChildRecord) : Except PyErr (Option PriceAnalysisData) := do
  let event := record.original_event.getD []
  let ctx := record.enrichment_context.getD []
  let sap_doc := (value_at ctx "sap_doc_context").or (.dict [])
  let contract := (value_at ctx "contract_context").or (.dict [])
  let promotion := (value_at ctx "promotion_context").or (.dict [])
  let doc_type ← get_attr sap_doc "doc_type"
  let doc_number ← get_attr sap_doc "doc_number"
  let rule_id ← get_attr contract "rule_id"
  let root_cause_category ← first_of promotion contract "root_cause_category"
  if !doc_type.truthy || !doc_number.truthy || !rule_id.truthy || !root_cause_category.truthy then
    return none
  let po_price ← float_or (value_at event "po_price") (.fin 0)
  let sap_base_price ← float_or (value_at event "sap_base_price") (.fin 0)
  if sap_base_price.le (.fin 0) then return none
  let metadata := metadata_of event
  let lines ← float_or (value_at event "line_count") (.fin 1)
  let total_quantity ← float_or (← get_attr metadata "total_quantity") lines
  let uom := (← first_of sap_doc metadata "uom").or (.str "EA")
  let variance_amount := (sap_base_price.sub po_price).roundTo 4
  let variance_pct := ((variance_amount.div? sap_base_price).getD .nan).roundTo 6
  unless_malformed do
    let sku := (value_at event "sku").or (← first_of metadata sap_doc "sku")
    let contract_ref ← opt_text (← get_attr contract "contract_ref")
    let promotion_ref ← opt_text (← get_attr promotion "promotion_ref")
    let material_desc ← opt_text (← first_of sap_doc metadata "material_desc")
    let order_date ← opt_text (← first_of sap_doc metadata "order_date")
    return some
      { erp_unit_price := sap_base_price, po_unit_price := po_price
        variance_amount := variance_amount, variance_pct := variance_pct
        total_at_risk := (variance_amount.mul total_quantity).roundTo 2
        total_quantity := total_quantity, uom := uom.toStr, doc_type := doc_type.toStr
        doc_number := doc_number.toStr, sku := (sku.or (.str "")).toStr, rule_id := rule_id.toStr
        root_cause_category := root_cause_category.toStr, contract_ref := contract_ref
        promotion_ref := promotion_ref, material_desc := material_desc, order_date := order_date }

/-! ## Back order -/

structure WarehouseInfo where
  plant : String
  name : String
  region : String
  qty : PyFloat

structure AlternateWarehouse extends WarehouseInfo where
  eta_days : ℤ
  freight_delta_per_unit : PyFloat
  freight_delta_total : PyFloat

structure SubstituteSKU where
  sku : String
  description : String
  available_qty : PyFloat
  price_delta_pct : PyFloat
  acceptance_rate : PyFloat
  source : String
  priority : ℤ

structure InboundOrder where
  qty : PyFloat
  date : Option String
  eta : Option String
  po_num : Option String

structure ResolutionOptionScores where
  service : PyFloat
  revenue : PyFloat
  logistics : PyFloat
  preference : PyFloat

structure ResolutionOption where
  id : String
  kind : String
  title : String
  description : String
  composite_score : PyFloat
  scores : ResolutionOptionScores
  sap_steps : List String

structure BackOrderAnalysisData where
  ordered_qty : PyFloat
  available_qty : PyFloat
  gap_qty : PyFloat
  gap_pct : PyFloat
  unit_price : PyFloat
  uom : String
  at_risk : PyFloat
  atp_date : String
  primary_dc : WarehouseInfo
  resolution_options : List ResolutionOption
  alternate_warehouses : List AlternateWarehouse
  substitutes : List SubstituteSKU
  production : Option InboundOrder
  inbound_po : Option InboundOrder

/-- `_as_float(v.get(key))`. -/
def number_at (v : PyVal) (key : String) : Except PyErr PyFloat := do
  float_or (← get_attr v key) (.fin 0)

/-- `int(v.get(key) or 0)`. -/
def count_at (v : PyVal) (key : String) : Except PyErr ℤ := do
  ((← get_attr v key).or (.int 0)).toInt

def text_at (v : PyVal) (key : String) : Except PyErr String := do
  return (← get_default v key (.str "")).toStr

def warehouse_info (payload : PyVal) : Except PyErr (Option WarehouseInfo) := do
  if !payload.truthy then return none
  let plant ← get_attr payload "plant"
  let qty ← get_attr payload "qty"
  if plant = .none ∨ qty = .none then return none
  return some { plant := plant.toStr, name := ← text_or payload "name" ""
                region := ← text_or payload "region" "", qty := ← float_or qty (.fin 0) }

def alternate_warehouse (payload : PyVal) : Except PyErr (Option AlternateWarehouse) :=
  unless_malformed do
    return some { plant := ← text_at payload "plant", name := ← text_or payload "name" ""
                  region := ← text_or payload "region" "", qty := ← number_at payload "qty"
                  eta_days := ← count_at payload "eta_days"
                  freight_delta_per_unit := ← number_at payload "freight_delta_per_unit"
                  freight_delta_total := ← number_at payload "freight_delta_total" }

def substitute (payload : PyVal) : Except PyErr (Option SubstituteSKU) :=
  unless_malformed do
    return some { sku := ← text_at payload "sku", description := ← text_or payload "description" ""
                  available_qty := ← number_at payload "available_qty"
                  price_delta_pct := ← number_at payload "price_delta_pct"
                  acceptance_rate := ← number_at payload "acceptance_rate"
                  source := ← text_or payload "source" ""
                  priority := ← count_at payload "priority" }

def inbound (payload : PyVal) : Except PyErr (Option InboundOrder) :=
  if !payload.truthy then .ok none
  else unless_malformed do
    return some { qty := ← number_at payload "qty", date := ← opt_text (← get_attr payload "date")
                  eta := ← opt_text (← get_attr payload "eta")
                  po_num := ← opt_text (← get_attr payload "po_num") }

def resolution_option (payload : PyVal) : Except PyErr (Option ResolutionOption) :=
  unless_malformed do
    let scores := (← get_attr payload "scores").or (.dict [])
    let steps ← iterate ((← get_attr payload "sap_steps").or (.list []))
    return some { id := ← text_at payload "id", kind := ← text_at payload "type"
                  title := ← text_or payload "title" ""
                  description := ← text_or payload "description" ""
                  composite_score := ← number_at payload "composite_score"
                  scores := { service := ← number_at scores "service"
                              revenue := ← number_at scores "revenue"
                              logistics := ← number_at scores "logistics"
                              preference := ← number_at scores "preference" }
                  sap_steps := steps.map (·.toStr) }

/-- The entries that make a model. -/
def models {α : Type} (coerce : PyVal → Except PyErr (Option α)) (raw : PyVal) :
    Except PyErr (List α) := do
  return (← (← iterate (raw.or (.list []))).mapM coerce).reduceOption

def inventory_snapshot (record : ChildRecord) : PyVal :=
  (value_at (record.enrichment_context.getD []) "inventory_snapshot").or (.dict [])

def synthesize_back_order_outputs (record : ChildRecord) : Except PyErr PyDict := do
  let event := record.original_event.getD []
  let metadata := metadata_of event
  let ordered_qty ← number_at metadata "ordered_qty"
  let available_qty ← number_at metadata "available_qty"
  if ordered_qty.le (.fin 0) then return []
  let enrichment := inventory_snapshot record
  let outputs ← unless_malformed do
    let sku := (value_at event "sku").or ((← get_attr metadata "sku").or (.str ""))
    return some (← resolve_back_order (order_id_of event) (.str sku.toStr) (.float ordered_qty)
      (.float available_qty) (.float (← number_at metadata "unit_price"))
      (.str (← text_or metadata "uom" "CS")) (.float BACK_ORDER_SEVERE_GAP_PCT)
      (← get_attr enrichment "alternate_warehouses") (← get_attr enrichment "substitutes"))
  return outputs.getD []

def adapt_back_order (record : ChildRecord) : Except PyErr (Option BackOrderAnalysisData) := do
  let event := record.original_event.getD []
  let metadata := metadata_of event
  let ordered_qty ← number_at metadata "ordered_qty"
  if ordered_qty.le (.fin 0) then return none
  let enrichment := inventory_snapshot record
  match ← warehouse_info (← get_attr enrichment "primary_dc") with
  | none => return none
  | some primary_dc =>
    let atp_date ← get_attr enrichment "atp_date"
    if !atp_date.truthy then return none
    let recorded := record.resolution_data
    let outputs ← if !(value_at recorded "recommended_action").truthy ∧
        value_at recorded "status" ≠ .str "COMPLETE" then synthesize_back_order_outputs record
      else pure recorded
    let available_qty ← number_at metadata "available_qty"
    let unit_price ← number_at metadata "unit_price"
    let uom ← text_or metadata "uom" ""
    let resolution_options ← models resolution_option (value_at outputs "resolution_options")
    let alternates ← models alternate_warehouse (← get_attr enrichment "alternate_warehouses")
    let substitutes ← models substitute (← get_attr enrichment "substitutes")
    unless_malformed do
      let gap := ordered_qty.sub available_qty
      return some
        { ordered_qty := ordered_qty, available_qty := available_qty
          gap_qty := ← float_or (value_at outputs "gap_qty") gap
          gap_pct := ← float_or (value_at outputs "gap_pct") ((gap.div? ordered_qty).getD .nan)
          unit_price := unit_price, uom := uom
          at_risk := ← float_or (value_at outputs "at_risk") (gap.mul unit_price)
          atp_date := atp_date.toStr, primary_dc := primary_dc
          resolution_options := resolution_options, alternate_warehouses := alternates
          substitutes := substitutes
          production := ← inbound (← get_attr enrichment "production")
          inbound_po := ← inbound (← get_attr enrichment "inbound_po") }

/-! ## Delivery delay -/

structure AlternateDeliveryOption where
  id : String
  kind : String
  title : String
  description : String
  new_eta : Option String
  extra_cost : PyFloat
  recommended : Bool

structure DeliveryDelayAnalysisData where
  planned_date : String
  projected_eta : String
  days_late : ℤ
  delay_category : String
  affected_lines : ℤ
  at_risk : Option PyFloat
  sla_deadline : Option String
  alternate_options : List AlternateDeliveryOption
  delay_reason : Option String
  carrier : Option String
  route : Option String
  rule_id : Option String

/-- One option of the recipe; the option that it names first is recommended. -/
def ranked_option_to_model (primary_id : PyVal) (raw : PyVal) :
    Except PyErr (Option AlternateDeliveryOption) :=
  match raw with
  | .dict raw =>
    let raw_type := value_at raw "type"
    let is_primary := (value_at raw "id").eq primary_id || raw_type.eq primary_id
    if !raw_type.truthy then .ok none
    else unless_malformed do
      return some { id := ((value_at raw "id").or raw_type).toStr, kind := raw_type.toStr
                    title := ((value_at raw "title").or raw_type).toStr
                    description := ((value_at raw "description").or (.str "")).toStr
                    extra_cost := ← float_or (value_at raw "extra_cost") (.fin 0)
                    new_eta := ← opt_text (value_at raw "new_eta")
                    recommended := ((dict.get raw "recommended").getD (.bool is_primary)).truthy }
  | _ => .ok none

/-- `primary_raw.get("id") or primary_raw.get("type")`. -/
def primary_id_of (outputs : PyDict) : PyVal :=
  match dict_at outputs "primary_option" with
  | some primary => (value_at primary "id").or (value_at primary "type")
  | none => .none

def delivery_delay_from_outputs (event : PyDict) (sla_ctx : PyVal) (outputs : PyDict) :
    Except PyErr (Option DeliveryDelayAnalysisData) := do
  let metadata := metadata_of event
  let planned ← get_attr metadata "planned_date"
  let projected ← get_attr metadata "projected_eta"
  if !planned.truthy || !projected.truthy then return none
  let days_late := value_at outputs "days_late"
  if days_late = .none then return none
  let alternates ← models (ranked_option_to_model (primary_id_of outputs))
    (value_at outputs "alternate_options")
  unless_malformed do
    let days ← days_late.toInt
    let category := (value_at outputs "delay_category").or (← get_attr metadata "delay_category")
    let affected_lines ← ((value_at event "line_count").or (.int 1)).toInt
    let contracted ← get_attr sla_ctx "at_risk"
    let at_risk ← if contracted ≠ .none then as_float contracted
      else opt_number (← get_attr metadata "at_risk")
    let sla_deadline ← opt_text (← first_of sla_ctx metadata "sla_deadline")
    let delay_reason ← opt_text (← get_attr metadata "delay_reason")
    let carrier ← opt_text ((value_at outputs "carrier").or (← get_attr metadata "carrier"))
    let route ← opt_text ((value_at outputs "route").or (← get_attr metadata "route"))
    let rule_id ← opt_text (← get_attr metadata "rule_id")
    return some
      { planned_date := planned.toStr, projected_eta := projected.toStr, days_late := days
        delay_category := (category.or (.str "UNSPECIFIED")).toStr
        affected_lines := affected_lines, at_risk := at_risk, sla_deadline := sla_deadline
        alternate_options := alternates, delay_reason := delay_reason, carrier := carrier
        route := route, rule_id := rule_id }

def adapt_delivery_delay (from_iso : FromIso) (record : ChildRecord) :
    Except PyErr (Option DeliveryDelayAnalysisData) := do
  let event := record.original_event.getD []
  let sla_ctx := (value_at (record.enrichment_context.getD []) "sla_contract_context").or (.dict [])
  let synthetic := do
    let metadata := metadata_of event
    let planned ← get_attr metadata "planned_date"
    let projected ← get_attr metadata "projected_eta"
    if !planned.truthy || !projected.truthy then return none
    unless_malformed do
      return some (← resolve_delivery_delay from_iso (order_id_of event) (.str planned.toStr)
        (.str projected.toStr) (.int DELIVERY_DELAY_MINOR_DAYS) (.int DELIVERY_DELAY_SEVERE_DAYS)
        (← get_attr metadata "carrier") (← get_attr metadata "route")
        (← get_attr metadata "delay_category")
        ((← get_attr metadata "alternate_options").or (.list [])))
  from_outputs_or record.resolution_data synthetic (delivery_delay_from_outputs event sla_ctx)

/-! ## Over maximum -/

structure OverMaxLine where
  sku : String
  description : String
  qty : PyFloat
  max_line_qty : Option PyFloat
  excess : PyFloat
  is_even_layer_item : Bool

structure TrimPlanLine where
  sku : String
  description : String
  ordered : PyFloat
  trimmed_to : PyFloat
  delta : PyFloat
  action : TrimAction

structure OverMaxAnalysisData where
  total_ordered : PyFloat
  max_qty : PyFloat
  excess_qty : PyFloat
  exceedance_pct : PyFloat
  uom : String
  at_risk : PyFloat
  order_lines : List OverMaxLine
  trim_plan : List TrimPlanLine
  contract_ref : Option String
  block_status : Option String
  block_reason : Option String

/-- The totals of the plan, which the model computes itself. -/
def OverMaxAnalysisData.trimmed_total (data : OverMaxAnalysisData) : PyFloat :=
  PyFloat.sum (data.trim_plan.map (·.trimmed_to))

def OverMaxAnalysisData.delta_total (data : OverMaxAnalysisData) : PyFloat :=
  PyFloat.sum (data.trim_plan.map (·.delta))

/-- `_as_float(raw.get(key))` of a line. -/
def quantity_at (raw : PyDict) (key : String) : Except PyErr PyFloat :=
  float_or (value_at raw key) (.fin 0)

/-- A dictionary with a SKU becomes a line. -/
def coerce_line {α : Type} (line : PyDict → String → String → Except PyErr α) (raw : PyVal) :
    Except PyErr (Option α) :=
  match raw with
  | .dict raw =>
    match dict.get raw "sku" with
    | none => .ok none
    | some sku => unless_malformed do
      return some (← line raw sku.toStr ((value_at raw "description").or (.str "")).toStr)
  | _ => .ok none

def coerce_overmax_line : PyVal → Except PyErr (Option OverMaxLine) :=
  coerce_line fun raw sku description => do
    let max_line_qty ← quantity_at raw "max_line_qty"
    return { sku := sku, description := description, qty := ← quantity_at raw "qty"
             max_line_qty :=
               if value_at raw "max_line_qty" = .none then none else some max_line_qty
             excess := ← quantity_at raw "excess"
             is_even_layer_item := (value_at raw "is_even_layer_item").truthy }

def trim_action (action : PyVal) : TrimAction :=
  if action = .str "SKIP" then .SKIP else if action = .str "OK" then .OK else .TRIM

def coerce_trim_plan_line : PyVal → Except PyErr (Option TrimPlanLine) :=
  coerce_line fun raw sku description => do
    return { sku := sku, description := description, ordered := ← quantity_at raw "ordered"
             trimmed_to := ← quantity_at raw "trimmed_to", delta := ← quantity_at raw "delta"
             action := trim_action (value_at raw "action") }

def overmax_from_outputs (event : PyDict) (contract_ctx block_ctx : PyVal) (outputs : PyDict) :
    Except PyErr (Option OverMaxAnalysisData) := do
  let metadata := metadata_of event
  let total_ordered ← number_at metadata "total_ordered"
  let max_qty ← number_at metadata "max_qty"
  if total_ordered.le (.fin 0) || max_qty.le (.fin 0) then return none
  let excess_qty := value_at outputs "excess_qty"
  let exceedance_pct := value_at outputs "exceedance_pct"
  if excess_qty = .none ∨ exceedance_pct = .none then return none
  let order_lines ← models coerce_overmax_line (← get_attr metadata "order_lines")
  let trim_plan ← models coerce_trim_plan_line (value_at outputs "trim_plan")
  unless_malformed do
    let excess ← float_or excess_qty (.fin 0)
    let exceedance ← float_or exceedance_pct (.fin 0)
    let uom ← text_or metadata "uom" ""
    let at_risk ← quantity_at outputs "at_risk"
    let contract_ref ← opt_text (← first_of contract_ctx metadata "contract_ref")
    let block_status ← opt_text (← first_of block_ctx metadata "block_status")
    let block_reason ← opt_text (← first_of block_ctx metadata "block_reason")
    return some
      { total_ordered := total_ordered, max_qty := max_qty, excess_qty := excess
        exceedance_pct := exceedance, uom := uom, at_risk := at_risk, order_lines := order_lines
        trim_plan := trim_plan, contract_ref := contract_ref, block_status := block_status
        block_reason := block_reason }

def adapt_overmax (record : ChildRecord) : Except PyErr (Option OverMaxAnalysisData) := do
  let event := record.original_event.getD []
  let enrichment := record.enrichment_context.getD []
  let contract_ctx := (value_at enrichment "contract_context").or (.dict [])
  let block_ctx := (value_at enrichment "block_context").or (.dict [])
  let synthetic := do
    let metadata := metadata_of event
    let total_ordered ← number_at metadata "total_ordered"
    let max_qty ← number_at metadata "max_qty"
    if total_ordered.le (.fin 0) || max_qty.le (.fin 0) then return none
    unless_malformed do
      return some (← trim_over_max (order_id_of event) (.float total_ordered) (.float max_qty)
        (.float OVER_MAX_SEVERE_EXCEEDANCE_PCT) (← get_attr metadata "order_lines")
        (← get_attr metadata "unit_cost_per_line"))
  from_outputs_or record.resolution_data synthetic
    (overmax_from_outputs event contract_ctx block_ctx)

/-! ## Minimum order quantity -/

inductive RoundUpAction where
  | ROUND_UP | ACCEPT_BELOW | ESCALATE
  deriving DecidableEq

structure RoundUpPlanLine where
  sku : String
  description : String
  ordered : PyFloat
  round_up_to : PyFloat
  delta : PyFloat
  action : RoundUpAction

structure MOQAnalysisData where
  ordered_qty : PyFloat
  moq_qty : PyFloat
  shortfall_qty : PyFloat
  shortfall_pct : PyFloat
  sku : String
  unit_cost : PyFloat
  uom : String
  at_risk : PyFloat
  round_up_plan : List RoundUpPlanLine
  moq_source : Option String
  channel : Option String
  contract_ref : Option String
  block_status : Option String
  description : Option String
  block_message : Option String

def round_up_action (action : PyVal) : RoundUpAction :=
  if action = .str "ACCEPT_BELOW" then .ACCEPT_BELOW
  else if action = .str "ESCALATE" then .ESCALATE else .ROUND_UP

/-- The plan is one dictionary, and becomes a list of one line. -/
def round_up_plan (sku : PyVal) (outputs : PyDict) : Except PyErr (List RoundUpPlanLine) :=
  match dict_at outputs "round_up_plan" with
  | none => .ok []
  | some plan => do
    let line ← unless_malformed do
      return some { sku := ((value_at plan "sku").or sku).toStr
                    description := ((value_at plan "description").or (.str "")).toStr
                    ordered := ← quantity_at plan "ordered"
                    round_up_to := ← quantity_at plan "round_up_to"
                    delta := ← quantity_at plan "delta"
                    action := round_up_action (value_at plan "action") }
    return line.toList

def moq_from_outputs (event : PyDict) (cm_ctx contract_ctx block_ctx : PyVal) (outputs : PyDict) :
    Except PyErr (Option MOQAnalysisData) := do
  let metadata := metadata_of event
  let ordered_qty ← number_at metadata "ordered_qty"
  let moq_qty ← number_at metadata "moq_qty"
  if ordered_qty.lt (.fin 0) || moq_qty.le (.fin 0) then return none
  let shortfall_qty := value_at outputs "shortfall_qty"
  let shortfall_pct := value_at outputs "shortfall_pct"
  if shortfall_qty = .none ∨ shortfall_pct = .none then return none
  let sku := ((value_at event "sku").or ((← get_attr metadata "sku").or
    (value_at outputs "sku"))).or (.str "")
  let plan ← round_up_plan sku outputs
  unless_malformed do
    let shortfall ← float_or shortfall_qty (.fin 0)
    let shortfall_share ← float_or shortfall_pct (.fin 0)
    let unit_cost ← number_at metadata "unit_cost"
    let uom ← text_or metadata "uom" ""
    let at_risk ← quantity_at outputs "uplift_value"
    let moq_source ← opt_text (← first_of cm_ctx metadata "moq_source")
    let channel ← opt_text (← first_of cm_ctx metadata "channel")
    let contract_ref ← opt_text (← first_of contract_ctx metadata "contract_ref")
    let block_status ← opt_text (← first_of block_ctx metadata "block_status")
    let description ← opt_text (← get_attr metadata "description")
    let block_message ← opt_text (← first_of block_ctx metadata "block_message")
    return some
      { ordered_qty := ordered_qty, moq_qty := moq_qty, shortfall_qty := shortfall
        shortfall_pct := shortfall_share, sku := sku.toStr, unit_cost := unit_cost, uom := uom
        at_risk := at_risk, round_up_plan := plan, moq_source := moq_source, channel := channel
        contract_ref := contract_ref, block_status := block_status, description := description
        block_message := block_message }

def adapt_moq (record : ChildRecord) : Except PyErr (Option MOQAnalysisData) := do
  let event := record.original_event.getD []
  let enrichment := record.enrichment_context.getD []
  let cm_ctx := (value_at enrichment "customer_master_context").or (.dict [])
  let contract_ctx := (value_at enrichment "contract_context").or (.dict [])
  let block_ctx := (value_at enrichment "block_context").or (.dict [])
  let synthetic := do
    let metadata := metadata_of event
    let ordered_qty ← number_at metadata "ordered_qty"
    let moq_qty ← number_at metadata "moq_qty"
    if ordered_qty.lt (.fin 0) || moq_qty.le (.fin 0) then return none
    unless_malformed do
      let sku := (value_at event "sku").or ((← get_attr metadata "sku").or (.str ""))
      return some (← round_up_moq (order_id_of event) (.str sku.toStr) (.float ordered_qty)
        (.float moq_qty) (.float (← number_at metadata "unit_cost"))
        (.str (← text_or metadata "uom" "CS")) (.float MOQ_SEVERE_SHORTFALL_PCT)
        (.float MOQ_UPLIFT_REVIEW_PCT))
  from_outputs_or record.resolution_data synthetic
    (moq_from_outputs event cm_ctx contract_ctx block_ctx)

end asoe.analysis
