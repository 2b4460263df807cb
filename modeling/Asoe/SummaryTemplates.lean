-- The headlines of the queue: one template for each intent that has one, and
-- the reason that the recipe gives for the intents that have none.
import Asoe.AnalysisAdapters
import Asoe.ChangeAnalysis
import Asoe.ExceptionPages

namespace asoe

open py analysis

/-! ## The fields of a headline -/

structure RenderedTemplate where
  sku_code : PyVal := .none
  sku_title : Option String := none
  one_liner : Option String := none

/-- The title says how many more lines the plan has. -/
def with_more_suffix (title : Option String) (plan_length : ℕ) : Option String :=
  if plan_length ≤ 1 then title
  else
    let suffix := "+" ++ toString (plan_length - 1) ++ " more"
    match given title with
    | some title => some (title ++ " (" ++ suffix ++ ")")
    | none => some suffix

/-- `int(round(x))`. -/
def rounded_int : PyFloat → Except PyErr ℤ
  | .fin q => .ok (PyFloat.roundHalfEven q)
  | x => (PyVal.float x).toInt

/-- `str.title`: a letter after a letter is small, any other is large. -/
def titled (after_letter : Bool) : List Char → List Char
  | [] => []
  | c :: cs => (if after_letter then c.toLower else c.toUpper) :: titled c.isAlpha cs

example : String.ofList (titled false "ORDER CHANGE".toList) = "Order Change" := by
  decide +kernel

/-- The subject of the mail, cut to eighty characters. -/
def cut_subject : PyVal → Except PyErr PyVal
  | .str s =>
    .ok (.str (if 80 < s.length then String.ofList (s.toList.take 77) ++ "…" else s))
  | .list xs =>
    if 80 < xs.length then
      .error ⟨"TypeError", "can only concatenate list (not \"str\") to list"⟩
    else .ok (.list xs)
  | .dict d =>
    if 80 < d.length then .error ⟨"TypeError", "unhashable type: 'slice'"⟩ else .ok (.dict d)
  | v => .error ⟨"TypeError", "object of type '" ++ type_name v ++ "' has no len()"⟩

/-- `try: data = adapt(record) except Exception: return None`. -/
def unless_raised {α : Type} : Except PyErr (Option α) → Option α
  | .ok data => data
  | .error _ => none

/-! ## The templates -/

section templates

variable (record : ChildRecord)

def duplicate_po_template : Except PyErr (Option RenderedTemplate) := do
  let detection := (value_at record.resolution_data "duplicate_detection").or (.dict [])
  let dup := (← get_attr detection "duplicate_order").or (.dict [])
  let orig := (← get_attr detection "original_order").or (.dict [])
  let dup_po ← get_attr dup "po_number"
  let orig_po ← get_attr orig "po_number"
  let days ← get_attr detection "days_between"
  let confidence ← get_attr detection "confidence"
  if dup_po = .none ∨ orig_po = .none ∨ days = .none ∨ confidence = .none then return none
  let days ← days.toInt
  let percent ← rounded_int ((← confidence.toFloat).mul (.fin 100))
  return some { one_liner := some ("PO " ++ dup_po.toStr ++ " — duplicate of " ++ orig_po.toStr
    ++ " (" ++ toString days ++ "d apart, " ++ toString percent ++ "% match)") }

def manual_order_intake_template : Except PyErr (Option RenderedTemplate) := do
  let email := (value_at (record.enrichment_context.getD []) "email_source").or (.dict [])
  let subject ← get_attr email "subject"
  let classification := (← get_attr email "classification").or (.str "OTHER")
  if !subject.truthy then return none
  let subject ← cut_subject subject
  match classification with
  | .str s =>
    let words := s.toList.map fun c => if c = '_' then ' ' else c
    return some { one_liner := some (String.ofList (titled false words) ++ ": " ++ subject.toStr) }
  | v => throw ⟨"AttributeError", "'" ++ type_name v ++ "' object has no attribute 'replace'"⟩

def grandfathered_no_template : Except PyErr (Option RenderedTemplate) := .ok none

def price_discrepancy_template : Except PyErr (Option RenderedTemplate) := do
  return (unless_raised (adapt_price record)).map fun data =>
    { sku_code := .str data.sku, sku_title := given data.material_desc
      one_liner := some ("PO $" ++ fixed 2 data.po_unit_price ++ "/" ++ data.uom ++ " vs ERP $"
        ++ fixed 2 data.erp_unit_price ++ " — " ++ fixed 1 data.variance_pct ++ "% delta, $"
        ++ groupedCents data.total_at_risk ++ " at risk") }

def back_order_template : Except PyErr (Option RenderedTemplate) := do
  return (unless_raised (adapt_back_order record)).map fun data =>
    { sku_code := value_at (record.original_event.getD []) "sku"
      one_liner := some ("Short stock: " ++ general data.available_qty ++ "/"
        ++ general data.ordered_qty ++ " " ++ data.uom ++ " (" ++ fixed 1 data.gap_pct
        ++ "% gap, ATP " ++ data.atp_date ++ ")") }

def credit_block_template : Except PyErr (Option RenderedTemplate) := do
  let enrichment := record.enrichment_context.getD []
  match (value_at enrichment "customer_master_context").or (.dict []) with
  | .dict cm_ctx =>
    let credit_limit := value_at cm_ctx "credit_limit"
    let limit_f ← as_float credit_limit
    if limit_f.isNone ∧ credit_limit ≠ .none then return none
    let exposure_f ← as_float (value_at cm_ctx "current_exposure")
    match limit_f, exposure_f with
    | some limit_f, some exposure_f =>
      return some { one_liner := some ("Credit limit breached: $" ++ grouped exposure_f
        ++ " exposure over $" ++ grouped limit_f ++ " limit") }
    | _, _ => return none
  | _ => return none

def contractual_correction_template : Except PyErr (Option RenderedTemplate) :=
  price_discrepancy_template record

/-- The share by which the price of one line is off. -/
def line_delta : PyVal → Except PyErr (Option PyFloat)
  | .dict it => unless_malformed do
    let pp ← ((value_at it "po_price").or (.int 0)).toFloat
    let sp ← ((value_at it "sap_base_price").or (.int 0)).toFloat
    if (PyFloat.fin 0).lt sp then
      return some ((((pp.sub sp).abs.div? sp).getD .nan).mul (.fin 100))
    else return none
  | _ => .ok none

/-- The average that the event names, or else that of its lines. -/
def avg_variance_pct (event : PyDict) : Except PyErr PyVal := do
  let avg := value_at ((dict_at event "metadata").getD []) "avg_variance_pct"
  if avg ≠ .none then return avg
  let items := match value_at event "line_items" with
    | .list items => items
    | _ => []
  let deltas := (← items.mapM line_delta).reduceOption
  if deltas.isEmpty then return .none
  return .float (((PyFloat.sum deltas).div? (.fin deltas.length)).getD .nan)

def mass_pricing_error_template : Except PyErr (Option RenderedTemplate) := do
  let event := record.original_event.getD []
  let avg ← avg_variance_pct event
  let n ← int_or_none (value_at event "line_count")
  let pct ← as_float avg
  let lines := n.map fun n => "Bulk price drift across " ++ toString n ++ " lines"
  let variance := pct.map fun pct => "avg " ++ fixed 1 pct ++ "% variance"
  match lines, variance with
  | some lines, some variance =>
    return some { one_liner := some (lines ++ " (" ++ variance ++ ")") }
  | some part, none | none, some part => return some { one_liner := some part }
  | none, none => return none

def over_max_template : Except PyErr (Option RenderedTemplate) := do
  return (unless_raised (adapt_overmax record)).map fun data =>
    let head := data.trim_plan.head?
    { sku_code := ofString? (head.bind fun head => given (some head.sku))
      sku_title := head.bind fun head =>
        with_more_suffix (given (some head.description)) data.trim_plan.length
      one_liner := some ("Over max by " ++ general data.excess_qty ++ " " ++ data.uom ++ " ("
        ++ fixed 1 data.exceedance_pct ++ "% over)") }

def moq_uplift_template : Except PyErr (Option RenderedTemplate) := do
  return (unless_raised (adapt_moq record)).map fun data =>
    { sku_code := .str data.sku
      sku_title := with_more_suffix (given data.description) data.round_up_plan.length
      one_liner := some ("Below MOQ by " ++ general data.shortfall_qty ++ " " ++ data.uom
        ++ " (ordered " ++ general data.ordered_qty ++ " vs " ++ general data.moq_qty
        ++ " required)") }

def delivery_delay_template (from_iso : FromIso) : Except PyErr (Option RenderedTemplate) := do
  return (unless_raised (adapt_delivery_delay from_iso record)).map fun data =>
    let line_word := if data.affected_lines = 1 then "line" else "lines"
    { one_liner := some (toString data.affected_lines ++ " " ++ line_word ++ " — "
        ++ toString data.days_late ++ "d late (" ++ data.delay_category ++ ", ETA "
        ++ data.projected_eta ++ ")") }

end templates

/-! ## The registry -/

abbrev TemplateFn := ChildRecord → Except PyErr (Option RenderedTemplate)

def INTENT_TEMPLATES (from_iso : FromIso) : List (String × TemplateFn) :=
  [("DUPLICATE_PO", duplicate_po_template),
    ("MANUAL_ORDER_INTAKE", manual_order_intake_template),
    ("BACK_ORDER", back_order_template),
    ("CREDIT_BLOCK", credit_block_template),
    ("CONTRACTUAL_CORRECTION", contractual_correction_template),
    ("MASS_PRICING_ERROR", mass_pricing_error_template),
    ("OVER_MAX", over_max_template),
    ("MIN_ORDER_QTY", moq_uplift_template),
    ("DELIVERY_DELAY", fun record => delivery_delay_template record from_iso),
    ("PRICE_HOLD_RELEASE", fun _ => grandfathered_no_template),
    ("EDI_MISMATCH", fun _ => grandfathered_no_template),
    ("PALLET_CONFIG", fun _ => grandfathered_no_template)]

/-- The headline of the record, empty where the intent has no template. -/
def render_template (from_iso : FromIso) (record : Option ChildRecord) :
    Except PyErr RenderedTemplate :=
  match record with
  | none => .ok {}
  | some record =>
    match record.intent.bind (dict.get (INTENT_TEMPLATES from_iso)) with
    | none => .ok {}
    | some template => do return (← template record).getD {}

/-! ## The reason of the recipe -/

def HEADLINE_MAX : ℕ := 110

/-- What stands before the first white space after a full stop. -/
def first_sentence (after_stop : Bool) : List Char → List Char
  | [] => []
  | c :: cs =>
    if after_stop && isSpace c then [] else c :: first_sentence (c ∈ ['.', '!', '?']) cs

def rstrip (cs : List Char) : List Char := (cs.reverse.dropWhile isSpace).reverse

def reason_headline_fallback (record : Option ChildRecord) : Option String :=
  match record.map fun record => value_at record.resolution_data "reason" with
  | some (.str reason) =>
    if strip reason = "" then none
    else
      let first := strip (String.ofList (first_sentence false (strip reason).toList))
      if first.length ≤ HEADLINE_MAX then some first
      else some (String.ofList (rstrip (first.toList.take (HEADLINE_MAX - 1))) ++ "…")
  | _ => none

end asoe
