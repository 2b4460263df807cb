-- The two recipes of the order-entry flow, the table of all recipes with
-- the gateways that each one declares, and the executor that calls them.
import Asoe.Contracts
import Asoe.Lib.PyArith

namespace asoe

open py

/-! ## Attribute reads that may raise -/

/-- The dictionary whose method `attr` is called. -/
def method_of (attr : String) : PyVal → Except PyErr PyDict
  | .dict d => .ok d
  | v => .error ⟨"AttributeError", "'" ++ type_name v ++ "' object has no attribute '" ++ attr ++ "'"⟩

/-- `d.get(key)`. -/
def value_at (d : PyDict) (key : String) : PyVal := .ofOption (dict.get d key)

/-- `v.get(key)`. -/
def get_attr (v : PyVal) (key : String) : Except PyErr PyVal := do
  let d ← method_of "get" v
  return .ofOption (dict.get d key)

/-- `dict(v)`: a dictionary is copied, and an iterable must hold pairs. -/
def to_dict : PyVal → Except PyErr PyDict
  | .dict d => .ok d
  | .list xs => xs.foldlM (fun d x =>
      match x with
      | .list [.str k, v] => .ok (dict.set d k v)
      | _ => .error ⟨"TypeError", "cannot convert dictionary update sequence"⟩) []
  | .str s =>
    if s = "" then .ok [] else .error ⟨"ValueError", "dictionary update sequence element #0"⟩
  | v => .error ⟨"TypeError", "'" ++ type_name v ++ "' object is not iterable"⟩

/-- The values that a `for` loop over `v` visits. -/
def iterate : PyVal → Except PyErr (List PyVal)
  | .list xs => .ok xs
  | .dict d => .ok (d.map fun p => .str p.1)
  | .str s => .ok (s.toList.map fun c => .str c.toString)
  | v => .error ⟨"TypeError", "'" ++ type_name v ++ "' object is not iterable"⟩

/-! ## Submit to ERP -/

def HEADER_FIELDS : List String :=
  ["customer_po", "order_type", "sales_org", "dist_channel", "ship_window_from", "ship_window_to",
    "requested_date"]

def LINE_FIELDS : List String := ["material", "quantity", "uom", "unit_price"]

/-- `float(value)`, `None` for a value that is no number. -/
def as_float (value : PyVal) : Except PyErr (Option PyFloat) :=
  if value = .none then .ok none
  else match value.toFloat with
    | .ok x => .ok (some x)
    | .error e => if e.kind = "OverflowError" then .error e else .ok none

/-- One loop over operator edits: each known field whose value changes is
written, and noted with its value before and after. -/
def apply_edits (fields : List String) (note : PyDict) (edits target : PyDict) (applied : List PyVal) :
    PyDict × List PyVal :=
  edits.foldl (fun (acc : PyDict × List PyVal) edit =>
    if edit.1 ∉ fields then acc
    else
      let before := PyVal.ofOption (dict.get acc.1 edit.1)
      if before.eq edit.2 then acc
      else (dict.set acc.1 edit.1 edit.2,
        acc.2 ++ [.dict (note ++ [("field", .str edit.1), ("before", before), ("after", edit.2)])]))
    (target, applied)

def line_num_of (line : PyDict) : String := ((dict.get line "line_num").getD (.str "")).toStr

def apply_line_edits (line_edits : PyDict) (raw : PyVal) (applied : List PyVal) :
    Except PyErr (PyDict × List PyVal) := do
  let line ← to_dict raw
  let line_num := line_num_of line
  let edits ← method_of "items" ((PyVal.ofOption (dict.get line_edits line_num)).or (.dict []))
  return apply_edits LINE_FIELDS [("line_num", .str line_num)] edits line applied

def apply_all_line_edits (line_edits : PyDict) :
    List PyVal → List PyVal → Except PyErr (List PyDict × List PyVal)
  | [], applied => .ok ([], applied)
  | raw :: rest, applied => do
    let (line, applied) ← apply_line_edits line_edits raw applied
    let (lines, applied) ← apply_all_line_edits line_edits rest applied
    return (line :: lines, applied)

def reject_reason_line (li : PyDict) : Except PyErr (Option String) := do
  let name := (PyVal.ofOption (dict.get li "line_num")).repr
  if !(PyVal.ofOption (dict.get li "material")).truthy then
    return some ("Line " ++ name ++ " is missing a material.")
  let qty ← as_float (.ofOption (dict.get li "quantity"))
  match qty with
  | none => return some ("Line " ++ name ++ " has a non-positive quantity.")
  | some q =>
    if q.le (.fin 0) then return some ("Line " ++ name ++ " has a non-positive quantity.")
    else return none

def reject_reason_lines : List PyDict → Except PyErr (Option String)
  | [] => .ok none
  | li :: lines => do
    match ← reject_reason_line li with
    | some reason => return some reason
    | none => reject_reason_lines lines

def reject_reason (lines : List PyDict) : Except PyErr (Option String) :=
  if lines.isEmpty then .ok (some "No line items to submit.") else reject_reason_lines lines

/-- One line of the payload, its two numbers read as floats. -/
structure PayloadLine where
  line_num : String
  material : PyVal
  quantity : Option PyFloat
  uom : PyVal
  unit_price : Option PyFloat

def ofFloat? : Option PyFloat → PyVal
  | some x => .float x
  | none => .none

def PayloadLine.toVal (pl : PayloadLine) : PyVal :=
  .dict [("line_num", .str pl.line_num), ("material", pl.material),
    ("quantity", ofFloat? pl.quantity), ("uom", pl.uom), ("unit_price", ofFloat? pl.unit_price)]

def payload_line (li : PyDict) : Except PyErr PayloadLine := do
  let quantity ← as_float (.ofOption (dict.get li "quantity"))
  let unit_price ← as_float (.ofOption (dict.get li "unit_price"))
  return { line_num := line_num_of li, material := .ofOption (dict.get li "material"),
           quantity := quantity, uom := .ofOption (dict.get li "uom"), unit_price := unit_price }

/-- The value of the order: the sum of quantity times unit price, rounded
to cents. -/
def total_value_usd (payload_lines : List PayloadLine) : PyFloat :=
  (PyFloat.sum (payload_lines.map fun pl =>
    (pl.quantity.getD (.fin 0)).mul (pl.unit_price.getD (.fin 0)))).roundTo 2

def rejected_submission (reason : String) (applied : List PyVal) (line_count : ℕ) : PyDict :=
  [("status", .str "REJECTED"), ("reason", .str reason), ("erp_payload", .dict []),
    ("corrections_applied", .list applied), ("line_count", .int line_count),
    ("total_value_usd", .float (.fin 0))]

def build_erp_submission (order_id customer_bp header line_items corrections : PyVal) :
    Except PyErr PyDict := do
  let corrections := corrections.or (.dict [])
  let eff_header ← to_dict (header.or (.dict []))
  let header_edits ← method_of "items" ((← get_attr corrections "header").or (.dict []))
  let (eff_header, applied) := apply_edits HEADER_FIELDS [] header_edits eff_header []
  let line_edits := (← get_attr corrections "lines").or (.dict [])
  let raws ← iterate (line_items.or (.list []))
  -- `line_edits.get` is first called inside the loop
  let line_edits ← if raws.isEmpty then .ok [] else method_of "get" line_edits
  let (eff_lines, applied) ← apply_all_line_edits line_edits raws applied
  match ← reject_reason eff_lines with
  | some reason => return rejected_submission reason applied eff_lines.length
  | none =>
    let payload_lines ← eff_lines.mapM payload_line
    let field (key : String) := PyVal.ofOption (dict.get eff_header key)
    let erp_payload : PyDict :=
      [("order_id", order_id), ("doc_type", field "order_type"), ("sales_org", field "sales_org"),
        ("dist_channel", field "dist_channel"), ("customer_bp", customer_bp),
        ("customer_po", field "customer_po"), ("requested_date", field "requested_date"),
        ("line_items", .list (payload_lines.map PayloadLine.toVal))]
    return [("status", .str "SUCCESS"), ("reason", .none), ("erp_payload", .dict erp_payload),
      ("corrections_applied", .list applied), ("line_count", .int payload_lines.length),
      ("total_value_usd", .float (total_value_usd payload_lines))]

/-! ## Reply draft -/

def ORDER_CLARIFICATION : String := "email_order_clarification_request"

def rejected_draft (reason : String) : PyDict :=
  [("status", .str "REJECTED"), ("reason", .str reason), ("draft", .dict []),
    ("edits_applied", .list [])]

def bullets (points : PyVal) : Except PyErr String :=
  if points.truthy then do
    let ps ← iterate points
    return join "\n" (ps.map fun p => "- " ++ p.toStr)
  else .ok ""

/-- The subject and the body of the one template, filled in. -/
def render_clarification (customer_po customer_name clarification_block : String) :
    String × String :=
  ("Re: Your purchase order " ++ customer_po ++ " — a few details to confirm",
    "Hello " ++ customer_name ++ ",\n\n" ++
      "Thank you for your order. Before we can enter it, could you please " ++
      "confirm the following:\n\n" ++ clarification_block ++ "\n\n" ++
      "Once you confirm, we'll process the order right away.\n\n" ++
      "Best regards,\nOrder Management Team")

/-- One operator override of a rendered field. -/
def override_field (edits : PyDict) (name : String) (before : PyVal) : PyVal × List PyVal :=
  match dict.get edits name with
  | none | some .none => (before, [])
  | some after =>
    if before.eq after then (before, [])
    else (after, [.dict [("field", .str name), ("before", before), ("after", after)]])

/-- The context value that `format_map` puts for a placeholder, `""` when
the key is absent. -/
def placeholder (context : PyDict) (key : String) : String :=
  match dict.get context key with
  | some v => v.toStr
  | none => ""

def compose_reply_draft (recipient template_name customer_name : PyVal) (context : PyDict)
    (edits mode : PyVal) : Except PyErr PyDict := do
  let edits := edits.or (.dict [])
  if !recipient.truthy || strip recipient.toStr = "" then
    return rejected_draft "No buyer recipient to send the draft to."
  match template_name with
  | .list _ | .dict _ =>
    throw ⟨"TypeError", "unhashable type: '" ++ type_name template_name ++ "'"⟩
  | _ => pure ()
  if template_name ≠ .str ORDER_CLARIFICATION then
    return rejected_draft ("Unknown reply template " ++ template_name.repr ++ ".")
  let block ← bullets (.ofOption (dict.get context "clarification_points"))
  let (subject, body) := render_clarification (placeholder context "customer_po")
    (customer_name.or (.str "there")).toStr block
  let edits ← method_of "get" edits
  let (subject, applied_subject) := override_field edits "subject" (.str subject)
  let (body, applied_body) := override_field edits "body" (.str body)
  let draft : PyDict :=
    [("template_name", template_name), ("recipient", recipient), ("subject", subject),
      ("body", body)]
  let sending := mode.eq (.str "send")
  let result : PyDict :=
    [("status", .str (if sending then "READY_TO_SEND" else "DRAFTED")), ("reason", .none),
      ("draft", .dict draft), ("edits_applied", .list (applied_subject ++ applied_body))]
  return if sending then
    result ++ [("recipient", recipient), ("subject", subject), ("body", body)]
  else result

/-! ## The registry -/

structure RecipeSpec where
  required_params : List String
  allowed_intents : List Intent
  dependencies : List GatewayDependency := []
  effects : List GatewayEffect := []

def MANUAL_ORDER_INTAKE_SPEC : RecipeSpec where
  required_params :=
    ["order_id", "customer_id", "composite_confidence", "validation_failures",
      "non_disableable_floor", "autonomy_levels", "threshold_auto_approve",
      "threshold_review_band_low", "threshold_auto_correct"]
  allowed_intents := [.MANUAL_ORDER_INTAKE]
  dependencies :=
    let order_and_customer : List (String × StatePath) :=
      [("order_id", .event_order_id), ("customer_id", .event_retailer_id)]
    let read (gateway operation param key : String) : GatewayDependency :=
      ⟨gateway, operation, [(param, .event_order_id)], key, false⟩
    [⟨"email_intake", "sender_auth", order_and_customer, "sender_auth_context", true⟩,
      ⟨"email_intake", "resolve_customer", order_and_customer, "customer_resolution_context", true⟩,
      ⟨"email_intake", "duplicate_po_pre_check", order_and_customer,
        "duplicate_po_pre_check_context", true⟩,
      ⟨"email_intake", "credit_check", order_and_customer, "credit_check_context", true⟩,
      ⟨"email_intake", "fetch_message", order_and_customer, "email_source_context", true⟩,
      read "order_extraction" "extract_order" "case" "order_entry_extraction",
      read "order_extraction" "extract_entities" "case" "inbox_entities",
      read "sap_order" "validate" "order_id" "sap_data",
      read "edi_850" "build" "order_id" "edi_850",
      read "change_analysis" "evaluate" "order_id" "change_analysis",
      read "knowledge_graph" "build" "order_id" "knowledge_graph"]

def get_recipe : RecipeName → RecipeSpec
  | .PriceAdjustmentRecipe =>
    { required_params := ["order_id", "line_item", "requested_price", "erp_context"]
      allowed_intents := [.CONTRACTUAL_CORRECTION]
      dependencies :=
        [⟨"sap_doc", "lookup", [("order_id", .event_order_id), ("line_item", .event_line_item)],
            "sap_doc_context", true⟩,
          ⟨"sap_contract", "lookup",
            [("order_id", .event_order_id), ("retailer_id", .event_retailer_id),
              ("sku", .event_sku)], "contract_context", true⟩,
          ⟨"promotion", "lookup", [("order_id", .event_order_id), ("sku", .event_sku)],
            "promotion_context", true⟩] }
  | .CreditHoldReleaseRecipe =>
    { required_params :=
        ["order_id", "requester_role", "credit_limit", "current_exposure", "authorized_roles",
          "exposure_tolerance"]
      allowed_intents := [.CREDIT_BLOCK] }
  | .DuplicatePORecipe =>
    { required_params :=
        ["incoming_po_number", "customer_id", "signal_scores", "threshold_auto_block",
          "threshold_review_required", "threshold_soft_flag"]
      allowed_intents := [.DUPLICATE_PO]
      dependencies :=
        [⟨"oms", "get_fulfillment_status", [("order_id", .event_order_id)],
            "fulfillment_status", true⟩,
          ⟨"oms", "get_matched_po_details",
            [("order_id", .event_order_id), ("customer_id", .event_retailer_id)],
            "matched_po_details", true⟩,
          ⟨"tenant_config", "resolve_for_event",
            [("customer_id", .event_retailer_id), ("order_id", .event_order_id)],
            "tenant_config", true⟩]
      effects :=
        [⟨"buyer_notification", "send",
            [("template", "notification_template"), ("po_number", "incoming_po_number"),
              ("customer_id", "customer_id")], none⟩] }
  | .PriceHoldReleaseRecipe =>
    { required_params :=
        ["order_id", "line_item", "po_price", "sap_base_price", "tolerance_pct",
          "hard_block_pct", "hold_status"]
      allowed_intents := [.PRICE_HOLD_RELEASE]
      dependencies :=
        [⟨"oms", "get_price_hold_status", [("order_id", .event_order_id)],
          "price_hold_status", true⟩]
      effects :=
        [⟨"oms", "update_hold_flag", [("order_id", "order_id"), ("action", "action")], none⟩] }
  | .EdiMismatchRecipe =>
    { required_params :=
        ["order_id", "sub_type", "expected_value", "received_value", "autonomy_levels"]
      allowed_intents := [.EDI_MISMATCH]
      effects :=
        [⟨"buyer_notification", "send",
          [("template", "notification_template"), ("order_id", "order_id")], none⟩] }
  | .BackOrderResolutionRecipe =>
    { required_params :=
        ["order_id", "sku", "ordered_qty", "available_qty", "unit_price", "uom",
          "severe_gap_pct"]
      allowed_intents := [.BACK_ORDER]
      dependencies :=
        [⟨"oms", "get_inventory_snapshot", [("order_id", .event_order_id), ("sku", .event_sku)],
          "inventory_snapshot", true⟩]
      effects :=
        [⟨"buyer_notification", "send",
          [("template", "backorder_template"), ("order_id", "order_id")], none⟩] }
  | .OverMaxTrimRecipe =>
    { required_params := ["order_id", "total_ordered", "max_qty", "severe_exceedance_pct"]
      allowed_intents := [.OVER_MAX]
      dependencies :=
        [⟨"sap_contract", "lookup",
            [("order_id", .event_order_id), ("retailer_id", .event_retailer_id)],
            "contract_context", true⟩,
          ⟨"sap_block", "lookup", [("order_id", .event_order_id)], "block_context", true⟩] }
  | .MOQRoundUpRecipe =>
    { required_params :=
        ["order_id", "sku", "ordered_qty", "moq_qty", "unit_cost", "uom",
          "severe_shortfall_pct", "uplift_review_pct"]
      allowed_intents := [.MIN_ORDER_QTY]
      dependencies :=
        [⟨"sap_customer_master", "lookup",
            [("retailer_id", .event_retailer_id), ("sku", .event_sku)],
            "customer_master_context", true⟩,
          ⟨"sap_contract", "lookup",
            [("order_id", .event_order_id), ("retailer_id", .event_retailer_id)],
            "contract_context", true⟩,
          ⟨"sap_block", "lookup", [("order_id", .event_order_id)], "block_context", true⟩] }
  | .PalletAlignmentRecipe =>
    { required_params := ["order_id", "lines", "min_fill_pct", "broken_layer_fill_pct"]
      allowed_intents := [.PALLET_CONFIG] }
  | .ManualOrderIntakeRecipe | .EmailOrderEntryRecipe => MANUAL_ORDER_INTAKE_SPEC
  | .SubmitToErpRecipe =>
    { required_params := ["order_id", "header", "line_items"]
      allowed_intents := [.MANUAL_ORDER_INTAKE]
      effects :=
        [⟨"erp", "create_sales_order", [("payload", "erp_payload")], some ["SUCCESS"]⟩] }
  | .ReplyDraftRecipe =>
    { required_params := ["order_id", "template_name"]
      allowed_intents := [.MANUAL_ORDER_INTAKE]
      effects :=
        [⟨"buyer_notification", "send",
          [("recipient", "recipient"), ("subject", "subject"), ("body", "body")],
          some ["READY_TO_SEND"]⟩] }
  | .DeliveryDelayResolutionRecipe =>
    { required_params :=
        ["order_id", "planned_date", "projected_eta", "minor_days", "severe_days"]
      allowed_intents := [.DELIVERY_DELAY]
      dependencies :=
        [⟨"sla_contract", "lookup",
          [("order_id", .event_order_id), ("retailer_id", .event_retailer_id)],
          "sla_contract_context", true⟩] }

/-! ## The executor -/

/-- `spec.func(**params)`. The other recipes are `others`. -/
def recipe_func (others : RecipeName → PyDict → Except PyErr PyDict) (name : RecipeName)
    (params : PyDict) : Except PyErr PyDict :=
  let param (key : String) := PyVal.ofOption (dict.get params key)
  match name with
  | .SubmitToErpRecipe =>
    build_erp_submission (param "order_id") (param "customer_bp") (param "header")
      (param "line_items") (param "corrections")
  | .ReplyDraftRecipe => do
    let context ← method_of "get" ((param "context").or (.dict []))
    compose_reply_draft (param "recipient") (param "template_name") (param "customer_name")
      context (param "edits") (param "mode")
  | name => others name params

/-- The required parameters that are absent or `None`. -/
def missing_params (spec : RecipeSpec) (params : PyDict) : List String :=
  spec.required_params.filter fun k =>
    match dict.get params k with
    | none | some .none => true
    | _ => false

/-- `RecipeExecutor().run(...)`. -/
def run_recipe (others : RecipeName → PyDict → Except PyErr PyDict) (recipe_name : RecipeName)
    (params : PyDict) (trace_id : String) (intent_selected : Intent)
    (shadow_policy_hits : List String) : ExecutionLog :=
  let missing := missing_params (get_recipe recipe_name) params
  let log : ExecutionLog :=
    { trace_id := trace_id, recipe_name := recipe_name, inputs := params,
      constrained_outputs := [("recipe", "RecipeProposal")],
      intent_selected := some intent_selected, shadow_policy_hits := shadow_policy_hits }
  if !missing.isEmpty then
    { log with errors := ["Missing required parameters: " ++
        (PyVal.list (missing.map .str)).repr] }
  else match recipe_func others recipe_name params with
    | .error e => { log with errors := ["Recipe raised " ++ e.kind ++ ": " ++ e.text] }
    | .ok outputs =>
      { log with
        outputs := outputs
        constrained_outputs := [("recipe", "RecipeProposal"), ("intent", "IntentDecision"),
          ("shadow", "ShadowDecisionSchema")] }

end asoe
