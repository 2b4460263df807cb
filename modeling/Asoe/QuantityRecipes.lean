-- The recipes on quantities and dates: the back order, the trim of an order
-- over its ceiling, the round-up to a minimum, the pallets, and the delay of
-- a delivery.
import Asoe.Recipes

namespace asoe

open py

/-! ## Reading lines and options -/

/-- `v.get(key, default)`. -/
def get_default (v : PyVal) (key : String) (default : PyVal) : Except PyErr PyVal := do
  let d ← method_of "get" v
  return (dict.get d key).getD default

/-- `float(v.get(key) or 0.0)`. -/
def get_float (v : PyVal) (key : String) : Except PyErr PyFloat := do
  ((← get_attr v key).or (.float (.fin 0))).toFloat

/-- `a or b`: the second condition is read only when the first fails. -/
def either (a b : Except PyErr Bool) : Except PyErr Bool := do
  if ← a then return true else b

/-! ## Back order -/

inductive ResolutionKind where
  | ALT_DC | SUBSTITUTE | SPLIT_SHIPMENT | RESCHEDULE
  deriving DecidableEq

def ResolutionKind.value : ResolutionKind → String
  | ALT_DC => "ALT_DC"
  | SUBSTITUTE => "SUBSTITUTE"
  | SPLIT_SHIPMENT => "SPLIT_SHIPMENT"
  | RESCHEDULE => "RESCHEDULE"

structure ResolutionOption where
  id : String
  kind : ResolutionKind
  title : String
  details : PyDict
  extra_cost : PyFloat
  composite_score : PyFloat

def ResolutionOption.toVal (o : ResolutionOption) : PyVal :=
  .dict ([("id", .str o.id), ("type", .str o.kind.value), ("title", .str o.title)] ++ o.details
    ++ [("extra_cost", .float o.extra_cost), ("composite_score", .float o.composite_score)])

/-- The weighted aggregate that options are ranked by. -/
def score (service revenue_preservation logistics_penalty : PyFloat) : PyFloat :=
  ((((lit (1 / 2)).mul service).add ((lit (35 / 100)).mul revenue_preservation)).sub
    ((lit (15 / 100)).mul logistics_penalty)).roundTo 4

/-- The option of one other warehouse, if it holds the gap. -/
def warehouse_option (gap_qty unit_price : PyVal) (index : ℕ) (dc : PyVal) :
    Except PyErr (Option ResolutionOption) := do
  let qty ← get_float dc "qty"
  if ← (PyVal.float qty).compare .lt gap_qty then return none
  let freight_delta ← get_float dc "freight_delta_per_unit"
  let total_freight ← (← (← (PyVal.float freight_delta).mul gap_qty).round 2).toFloat
  let plant ← get_default dc "plant" (.str "alternate DC")
  let source ← get_attr dc "plant"
  let eta_days ← get_attr dc "eta_days"
  let order_value ← (← unit_price.mul gap_qty).add (.float (lit (1 / 1000000000)))
  let logistics_penalty ← (← (PyVal.float total_freight).div order_value).toFloat
  return some
    { id := "alt-dc-" ++ toString (index + 1), kind := .ALT_DC
      title := "Ship gap from " ++ plant.toStr
      details := [("source", source), ("eta_days", eta_days)]
      extra_cost := total_freight
      composite_score := score (lit (85 / 100)) (lit 1) logistics_penalty }

/-- The option of one substitute, if there is enough of it. -/
def substitute_option (gap_qty unit_price : PyVal) (index : ℕ) (sub : PyVal) :
    Except PyErr (Option ResolutionOption) := do
  let sub_qty ← get_float sub "available_qty"
  if ← (PyVal.float sub_qty).compare .lt gap_qty then return none
  let price_delta_pct ← get_float sub "price_delta_pct"
  let acceptance_rate ← get_float sub "acceptance_rate"
  let sku ← get_default sub "sku" (.str "alternate SKU")
  let substitute_sku ← get_attr sub "sku"
  let extra_cost ← (← (← (← (PyVal.float price_delta_pct).mul unit_price).mul gap_qty).round 2).toFloat
  return some
    { id := "substitute-" ++ toString (index + 1), kind := .SUBSTITUTE
      title := "Substitute with " ++ sku.toStr
      details := [("substitute_sku", substitute_sku), ("price_delta_pct", .float price_delta_pct),
        ("acceptance_rate", .float acceptance_rate)]
      extra_cost := extra_cost
      composite_score := score acceptance_rate ((lit 1).sub price_delta_pct.abs)
        (price_delta_pct.abs.mul (lit (1 / 2))) }

/-- The two options that are always there. -/
def standing_options : List ResolutionOption :=
  [{ id := "split-shipment", kind := .SPLIT_SHIPMENT
     title := "Ship available qty now, backorder the gap", details := []
     extra_cost := .fin 0
     composite_score := score (lit (60 / 100)) (lit (70 / 100)) (lit (1 / 10)) },
   { id := "reschedule", kind := .RESCHEDULE
     title := "Reschedule entire order to next ATP window", details := []
     extra_cost := .fin 0
     composite_score := score (lit (40 / 100)) (lit 1) (.fin 0) }]

/-- The options for the gap, the best score first. -/
def build_options (gap_qty unit_price alternate_warehouses substitutes : PyVal) :
    Except PyErr (List ResolutionOption) := do
  let warehouses ← iterate alternate_warehouses
  let alt ← warehouses.zipIdx.mapM fun dc => warehouse_option gap_qty unit_price dc.2 dc.1
  let subs ← iterate substitutes
  let substitute ← subs.zipIdx.mapM fun sub => substitute_option gap_qty unit_price sub.2 sub.1
  let options := alt.reduceOption ++ substitute.reduceOption ++ standing_options
  return sortByKey (fun a b => PyFloat.lt b a) (options.map fun o => (o.composite_score, o))

/-- `gap / whole` when `whole > 0`, else zero. -/
def share_of (gap whole : PyVal) : Except PyErr PyVal := do
  if ← whole.compare .gt (.int 0) then gap.div whole else return .float (.fin 0)

def resolve_back_order (order_id sku ordered_qty available_qty unit_price uom severe_gap_pct
    alternate_warehouses substitutes : PyVal) : Except PyErr PyDict := do
  if ← either (ordered_qty.compare .le (.int 0)) (available_qty.compare .lt (.int 0)) then
    return [("status", .str "FAILED"), ("classification", .none), ("gap_qty", .none),
      ("gap_pct", .none), ("at_risk", .none), ("primary_option", .none),
      ("resolution_options", .list []), ("recommended_action", .none), ("order_id", order_id),
      ("reason", .str ("ordered_qty must be > 0 and available_qty >= 0; got "
        ++ ordered_qty.toStr ++ ", " ++ available_qty.toStr ++ "."))]
  let gap_qty ← (← ordered_qty.sub available_qty).maxZero
  let gap_pct ← share_of gap_qty ordered_qty
  let at_risk ← (← gap_qty.mul unit_price).round 2
  if gap_qty.eq (.int 0) then
    return [("status", .str "COMPLETE"), ("classification", .str "NO_GAP"),
      ("gap_qty", .float (.fin 0)), ("gap_pct", .float (.fin 0)), ("at_risk", .float (.fin 0)),
      ("primary_option", .none), ("resolution_options", .list []), ("recommended_action", .none),
      ("order_id", order_id), ("sku", sku), ("uom", uom)]
  let severe ← gap_pct.compare .ge severe_gap_pct
  let options ← build_options gap_qty unit_price (alternate_warehouses.or (.list []))
    (substitutes.or (.list []))
  let primary := options.head?
  let recommended_action := (primary.map (·.kind)).getD .RESCHEDULE
  let gap_rounded ← gap_qty.round 3
  let gap_pct_rounded ← gap_pct.round 4
  return [("status", .str (if severe then "ESCALATE" else "REVIEW_REQUIRED")),
    ("classification", .str (if severe then "SEVERE_GAP" else "MINOR_GAP")),
    ("gap_qty", gap_rounded), ("gap_pct", gap_pct_rounded), ("at_risk", at_risk),
    ("primary_option", .ofOption (primary.map (·.toVal))),
    ("resolution_options", .list (options.map (·.toVal))),
    ("recommended_action", .str recommended_action.value), ("order_id", order_id), ("sku", sku),
    ("uom", uom)]

/-! ## Over the maximum -/

inductive TrimAction where
  | TRIM | SKIP | OK
  deriving DecidableEq

def TrimAction.value : TrimAction → String
  | TRIM => "TRIM"
  | SKIP => "SKIP"
  | OK => "OK"

structure TrimRow where
  sku : PyVal
  description : PyVal
  ordered : PyFloat
  trimmed_to : PyFloat
  delta : PyFloat
  action : TrimAction
  reason : String
  is_even_layer_item : Bool

def TrimRow.toVal (row : TrimRow) : PyVal :=
  .dict [("sku", row.sku), ("description", row.description), ("ordered", .float row.ordered),
    ("trimmed_to", .float row.trimmed_to), ("delta", .float row.delta),
    ("action", .str row.action.value), ("reason", .str row.reason),
    ("is_even_layer_item", .bool row.is_even_layer_item)]

/-- Each line is trimmed to its own ceiling; the excess that is left goes on. -/
def ceiling_trims (remaining_excess : PyVal) : List PyVal → Except PyErr (PyVal × List TrimRow)
  | [] => .ok (remaining_excess, [])
  | line :: lines => do
    let sku ← get_default line "sku" (.str "")
    let ordered ← get_float line "qty"
    let line_max ← ((← get_attr line "max_line_qty").or (.float ordered)).toFloat
    let is_even := (← get_default line "is_even_layer_item" (.bool true)).truthy
    let description ← get_attr line "description"
    if line_max.lt ordered then
      let delta := (line_max.sub ordered).roundTo 3
      let left ← (← remaining_excess.add (.float delta)).maxZero
      let (left, rows) ← ceiling_trims left lines
      return (left, ⟨sku, description, ordered, line_max, delta, .TRIM,
        "Line exceeds max_line_qty.", is_even⟩ :: rows)
    else
      let (left, rows) ← ceiling_trims remaining_excess lines
      return (left, ⟨sku, description, ordered, ordered, .fin 0, .OK,
        "Line within contract max.", is_even⟩ :: rows)

def TrimRow.eligible (row : TrimRow) : Bool := row.action = .OK && row.is_even_layer_item

/-- The share of one even-layer line in the excess that is left. -/
def proportional_trim (remaining_excess : PyVal) (total_ok_qty : PyFloat) (row : TrimRow) :
    Except PyErr TrimRow := do
  if !row.eligible then return row
  let share ← (← (PyVal.float row.ordered).div (.float total_ok_qty)).toFloat
  let trim_by ← (← (← (PyVal.float share).mul remaining_excess).round 3).toFloat
  if trim_by.le (.fin 0) then return row
  return { row with
    trimmed_to := (row.ordered.sub trim_by).roundTo 3
    delta := trim_by.neg
    action := .TRIM
    reason := "Proportional trim (" ++ percent 1 share ++ ") to hit contract max." }

/-- The excess that is left is shared by the even-layer lines. -/
def residual_trims (remaining_excess : PyVal) (plan : List TrimRow) :
    Except PyErr (List TrimRow) := do
  if ← remaining_excess.compare .gt (.int 0) then
    let total_ok_qty := PyFloat.sum ((plan.filter (·.eligible)).map (·.ordered))
    if (PyFloat.fin 0).lt total_ok_qty then
      return ← plan.mapM (proportional_trim remaining_excess total_ok_qty)
  return plan

/-- A broken-layer line that the trims leave over the ceiling needs a human. -/
def skip_broken (excess remaining_excess : PyVal) (trimmed : PyVal) (row : TrimRow) :
    Except PyErr TrimRow := do
  if row.action = .OK && !row.is_even_layer_item then
    if ← excess.compare .gt (.int 0) then
      let unresolved ← remaining_excess.sub trimmed
      if ← unresolved.compare .gt (.float (lit (1 / 1000))) then
        return { row with
          action := .SKIP, reason := "Broken-layer line — requires human review." }
  return row

def plan_trim (excess order_lines : PyVal) : Except PyErr (List TrimRow) := do
  let (remaining_excess, plan) ← ceiling_trims excess (← iterate order_lines)
  let plan ← residual_trims remaining_excess plan
  let trimmed := PyVal.sumFloats ((plan.filter (·.action = .TRIM)).map (·.delta.abs))
  plan.mapM (skip_broken excess remaining_excess trimmed)

/-- The cost of what one row trims. -/
def row_at_risk (unit_cost_per_line : PyVal) (row : TrimRow) : Except PyErr PyFloat := do
  let costs ← method_of "get" unit_cost_per_line
  let cost ← row.sku.lookupIn costs
  return row.delta.abs.mul (← (cost.getD (.float (.fin 0))).toFloat)

def trim_over_max (order_id total_ordered max_qty severe_exceedance_pct order_lines
    unit_cost_per_line : PyVal) : Except PyErr PyDict := do
  if ← either (total_ordered.compare .le (.int 0)) (max_qty.compare .le (.int 0)) then
    return [("status", .str "FAILED"), ("classification", .none), ("excess_qty", .none),
      ("exceedance_pct", .none), ("at_risk", .none), ("trim_plan", .list []),
      ("recommended_action", .none), ("order_id", order_id),
      ("reason", .str ("total_ordered and max_qty must be > 0; got " ++ total_ordered.toStr
        ++ ", " ++ max_qty.toStr ++ "."))]
  let excess ← (← total_ordered.sub max_qty).maxZero
  let exceedance_pct ← share_of excess max_qty
  if excess.eq (.int 0) then
    return [("status", .str "COMPLETE"), ("classification", .str "NO_EXCEEDANCE"),
      ("excess_qty", .float (.fin 0)), ("exceedance_pct", .float (.fin 0)),
      ("at_risk", .float (.fin 0)), ("trim_plan", .list []),
      ("recommended_action", .str "NO_ACTION"), ("order_id", order_id)]
  let severe ← exceedance_pct.compare .gt severe_exceedance_pct
  let trim_plan ← plan_trim excess (order_lines.or (.list []))
  let costs ← (trim_plan.filter (·.action = .TRIM)).mapM
    (row_at_risk (unit_cost_per_line.or (.dict [])))
  let at_risk ← (PyVal.sumFloats costs).round 2
  let excess_rounded ← excess.round 3
  let exceedance_rounded ← exceedance_pct.round 4
  return [("status", .str (if severe then "ESCALATE" else "REVIEW_REQUIRED")),
    ("classification", .str (if severe then "SEVERE" else "MINOR")),
    ("excess_qty", excess_rounded), ("exceedance_pct", exceedance_rounded), ("at_risk", at_risk),
    ("trim_plan", .list (trim_plan.map (·.toVal))),
    ("recommended_action", .str (if severe then "ESCALATE" else "TRIM_TO_MAX")),
    ("order_id", order_id)]

/-! ## Minimum order quantity -/

/-- The uplift over what was ordered, infinite when nothing was. -/
def uplift_of (uplift_qty ordered_qty : PyVal) : Except PyErr PyVal := do
  if ← ordered_qty.compare .gt (.int 0) then uplift_qty.div ordered_qty
  else return .float (.inf false)

/-- `ordered_qty > 0 and uplift_pct >= uplift_review_pct`, asked when the
shortfall is not severe. -/
def uplift_review (severe : Bool) (ordered_qty uplift_pct uplift_review_pct : PyVal) :
    Except PyErr Bool := do
  if severe then return false
  if ← ordered_qty.compare .gt (.int 0) then uplift_pct.compare .ge uplift_review_pct
  else return false

def rounded_uplift (uplift_pct : PyVal) : Except PyErr PyVal :=
  if uplift_pct.eq (.float (.inf false)) then .ok .none else uplift_pct.round 4

def round_up_moq (order_id sku ordered_qty moq_qty unit_cost uom severe_shortfall_pct
    uplift_review_pct : PyVal) : Except PyErr PyDict := do
  if ← either (moq_qty.compare .le (.int 0)) (ordered_qty.compare .lt (.int 0)) then
    return [("status", .str "FAILED"), ("classification", .none), ("shortfall_qty", .none),
      ("shortfall_pct", .none), ("uplift_qty", .none), ("uplift_pct", .none),
      ("uplift_value", .none), ("recommended_action", .none), ("round_up_plan", .none),
      ("order_id", order_id), ("sku", sku),
      ("reason", .str ("moq_qty must be > 0 and ordered_qty >= 0; got moq=" ++ moq_qty.toStr
        ++ ", ordered=" ++ ordered_qty.toStr ++ "."))]
  if ← ordered_qty.compare .ge moq_qty then
    return [("status", .str "COMPLETE"), ("classification", .str "NO_SHORTFALL"),
      ("shortfall_qty", .float (.fin 0)), ("shortfall_pct", .float (.fin 0)),
      ("uplift_qty", .float (.fin 0)), ("uplift_pct", .float (.fin 0)),
      ("uplift_value", .float (.fin 0)), ("recommended_action", .str "NO_ACTION"),
      ("round_up_plan", .none), ("order_id", order_id), ("sku", sku), ("uom", uom)]
  let shortfall_qty ← moq_qty.sub ordered_qty
  let shortfall_pct ← shortfall_qty.div moq_qty
  let uplift_pct ← uplift_of shortfall_qty ordered_qty
  let uplift_value ← (← shortfall_qty.mul unit_cost).round 2
  let severe ← shortfall_pct.compare .ge severe_shortfall_pct
  -- whether the uplift needs a review or not, the answer is the same
  let _ ← uplift_review severe ordered_qty uplift_pct uplift_review_pct
  let action := if severe then "ESCALATE" else "ROUND_UP"
  let delta ← shortfall_qty.round 3
  let shortfall ← shortfall_pct.format (percent 1)
  let round_up_plan : PyDict :=
    [("sku", sku), ("ordered", ordered_qty), ("round_up_to", moq_qty), ("delta", delta),
      ("action", .str action),
      ("reason", .str ("Ordered " ++ ordered_qty.toStr ++ " " ++ uom.toStr ++ " < MOQ "
        ++ moq_qty.toStr ++ " " ++ uom.toStr ++ " (shortfall " ++ shortfall ++ ")."))]
  let shortfall_pct_rounded ← shortfall_pct.round 4
  let uplift_pct_rounded ← rounded_uplift uplift_pct
  return [("status", .str (if severe then "ESCALATE" else "REVIEW_REQUIRED")),
    ("classification", .str (if severe then "SEVERE_SHORTFALL" else "MINOR_SHORTFALL")),
    ("shortfall_qty", delta), ("shortfall_pct", shortfall_pct_rounded), ("uplift_qty", delta),
    ("uplift_pct", uplift_pct_rounded), ("uplift_value", uplift_value),
    ("recommended_action", .str action), ("round_up_plan", .dict round_up_plan),
    ("order_id", order_id), ("sku", sku), ("uom", uom)]

/-! ## Pallets -/

inductive PalletViolation where
  | brokenLayer | partialPallet
  deriving DecidableEq

def PalletViolation.value : PalletViolation → String
  | brokenLayer => "Broken Layer"
  | partialPallet => "Partial Pallet"

def reason_for (violation : Option PalletViolation) (layer_qty pallet_qty : PyFloat)
    (complete_layers : ℤ) : Except PyErr String := do
  match violation with
  | some .brokenLayer =>
    let layer ← (PyVal.float layer_qty).toInt
    return "Round down to " ++ toString complete_layers ++ " full layer(s) of " ++ toString layer
      ++ " " ++ (if (PyVal.float pallet_qty).truthy then "CS" else "")
      ++ " — preserves layer integrity (SD-PLT-001)."
  | some .partialPallet =>
    let pallet ← (PyVal.float pallet_qty).toInt
    return "Round down to full pallets of " ++ toString pallet
      ++ " to eliminate partial-pallet freight waste (SD-PLT-002)."
  | none => return "Line aligned to pallet config; no alignment change needed."

/-- What the loop over the lines has gathered. -/
structure PalletTally where
  lines : List PyVal := []
  suggested_plan : List PyVal := []
  total_ordered : PyFloat := .fin 0
  total_loose : PyFloat := .fin 0
  has_broken : Bool := false
  has_partial : Bool := false

/-- `int(x // y)` of floats. -/
def floor_quotient (x y : PyFloat) : Except PyErr ℤ :=
  match x.floorDiv? y with
  | some q => (PyVal.float q).toInt
  | none => .error ⟨"ZeroDivisionError", "float floor division by zero"⟩

/-- An integer times a float. -/
def times (n : ℤ) (x : PyFloat) : Except PyErr PyFloat := do
  return (← floatOfNumber (.inl n)).mul x

/-- The violation of a line, and the quantity that would mend it. -/
def pallet_violation (loose residual fill ordered on_pallets on_layers : PyFloat)
    (min_fill_pct broken_layer_fill_pct : PyVal) :
    Except PyErr (Option PalletViolation × PyFloat) := do
  if (PyFloat.fin 0).lt loose then return (some .brokenLayer, on_pallets.add on_layers)
  if (PyFloat.fin 0).lt residual then
    if ← (PyVal.float fill).compare .lt min_fill_pct then return (some .partialPallet, on_pallets)
    -- between the two thresholds the line stays as it is, as above them
    let _ ← (PyVal.float fill).compare .lt broken_layer_fill_pct
  return (none, ordered)

def align_line (min_fill_pct broken_layer_fill_pct : PyVal) (tally : PalletTally) (line : PyVal) :
    Except PyErr PalletTally := do
  let sku ← get_default line "sku" (.str "")
  let description ← get_attr line "description"
  let layer_qty ← get_float line "layer_qty"
  let pallet_qty ← get_float line "pallet_qty"
  let ordered ← get_float line "ordered_qty"
  let uom := (← get_attr line "uom").or (.str "CS")
  let tally := { tally with total_ordered := tally.total_ordered.add ordered }
  let entry (complete_layers full_pallets : ℤ) (loose fill : PyFloat) (violation : PyVal) : PyVal :=
    .dict [("sku", sku), ("description", description), ("uom", uom),
      ("layer_qty", .float layer_qty), ("pallet_qty", .float pallet_qty),
      ("ordered_qty", .float ordered), ("complete_layers", .int complete_layers),
      ("loose_qty", .float loose), ("full_pallets", .int full_pallets),
      ("pallet_fill_pct", .float fill), ("violation_type", violation)]
  let suggestion (complete_layers full_pallets : ℤ) (suggested delta : PyFloat) (reason : String) :
      PyVal :=
    .dict [("sku", sku), ("description", description), ("current", .float ordered),
      ("suggested", .float suggested), ("delta", .float delta), ("layers", .int complete_layers),
      ("full_pallets", .int full_pallets), ("reason", .str reason)]
  if pallet_qty.le (.fin 0) || layer_qty.le (.fin 0) then
    return { tally with
      lines := tally.lines ++ [entry 0 0 ordered (.fin 0) (.str "Invalid Pallet Spec")]
      total_loose := tally.total_loose.add ordered
      suggested_plan := tally.suggested_plan ++ [suggestion 0 0 ordered (.fin 0)
        "Missing / zero layer or pallet qty — cannot align."] }
  let full_pallets ← floor_quotient ordered pallet_qty
  let on_pallets ← times full_pallets pallet_qty
  let residual := ordered.sub on_pallets
  let complete_layers ← floor_quotient residual layer_qty
  let on_layers ← times complete_layers layer_qty
  let loose := residual.sub on_layers
  let fill := if residual.eq (.fin 0) then .fin 1 else (residual.div? pallet_qty).getD .nan
  let (violation, target_qty) ← pallet_violation loose residual fill ordered on_pallets on_layers
    min_fill_pct broken_layer_fill_pct
  let reason ← reason_for violation layer_qty pallet_qty complete_layers
  return { tally with
    lines := tally.lines ++ [entry complete_layers full_pallets (loose.roundTo 3) (fill.roundTo 4)
      (match violation with
        | some v => .str v.value
        | none => .none)]
    suggested_plan := tally.suggested_plan ++ [suggestion complete_layers full_pallets
      (target_qty.roundTo 3) ((target_qty.sub ordered).roundTo 3) reason]
    total_loose := tally.total_loose.add loose
    has_broken := tally.has_broken || violation = some .brokenLayer
    has_partial := tally.has_partial || violation = some .partialPallet }

def align_pallets (order_id lines min_fill_pct broken_layer_fill_pct : PyVal) :
    Except PyErr PyDict := do
  if !lines.truthy then
    return [("status", .str "FAILED"), ("classification", .none),
      ("total_ordered_cases", .float (.fin 0)), ("loose_cases_total", .float (.fin 0)),
      ("order_line_count", .int 0), ("lines", .list []), ("suggested_plan", .list []),
      ("recommended_action", .none), ("order_id", order_id),
      ("reason", .str "lines must be a non-empty list.")]
  let tally ← (← iterate lines).foldlM (align_line min_fill_pct broken_layer_fill_pct) {}
  let violated := tally.has_broken || tally.has_partial
  let classification :=
    if tally.has_broken && tally.has_partial then "MIXED_VIOLATION"
    else if tally.has_broken then "BROKEN_LAYER"
    else if tally.has_partial then "PARTIAL_PALLET"
    else "NO_VIOLATION"
  return [("status", .str (if violated then "REVIEW_REQUIRED" else "COMPLETE")),
    ("classification", .str classification),
    ("total_ordered_cases", .float (tally.total_ordered.roundTo 3)),
    ("loose_cases_total", .float (tally.total_loose.roundTo 3)),
    ("order_line_count", .int tally.lines.length), ("lines", .list tally.lines),
    ("suggested_plan", .list tally.suggested_plan),
    ("recommended_action", .str (if violated then "ROUND_DOWN_TO_LAYERS" else "ACCEPT_AS_IS")),
    ("order_id", order_id)]

/-! ## Delivery delay -/

/-- `datetime.fromisoformat`, as the microsecond of the instant; a text
without an offset is read as UTC. -/
abbrev FromIso := String → Except PyErr ℤ

def parse_iso (from_iso : FromIso) (value : PyVal) : Except PyErr ℤ :=
  match value with
  | .str s =>
    from_iso (String.ofList (s.toList.flatMap fun c => if c = 'Z' then "+00:00".toList else [c]))
  | v => .error ⟨"AttributeError", "'" ++ type_name v ++ "' object has no attribute 'replace'"⟩

/-- `(eta_dt - planned_dt).days`. -/
def days_late (from_iso : FromIso) (planned_date projected_eta : PyVal) : Except PyErr ℤ := do
  let planned_dt ← parse_iso from_iso planned_date
  let eta_dt ← parse_iso from_iso projected_eta
  return (eta_dt - planned_dt) / 86400000000

/-- The rank of an option's type: a severe delay prefers the buyer's
coordination to an expensive expedite. -/
def type_weights (severe : Bool) : List (String × ℕ) :=
  if severe then [("RESCHEDULE", 0), ("SPLIT_SHIP", 1), ("EXPEDITE", 2)]
  else [("EXPEDITE", 0), ("SPLIT_SHIP", 1), ("RESCHEDULE", 2)]

def option_key (severe : Bool) (o : PyVal) : Except PyErr (ℕ × PyFloat) := do
  let weight ← (← get_default o "type" (.str "")).lookupIn (type_weights severe)
  let extra_cost ← get_float o "extra_cost"
  return (weight.getD 99, extra_cost)

def key_before (a b : ℕ × PyFloat) : Bool := a.1 < b.1 || (a.1 = b.1 && a.2.lt b.2)

/-- The options that the caller recommends, and then the others by rank. -/
def rank_options (severe : Bool) (alternate_options : PyVal) : Except PyErr (List PyVal) := do
  if !alternate_options.truthy then return []
  let marked ← (← iterate alternate_options).mapM fun o => do
    return (o, (← get_attr o "recommended").truthy)
  let pinned := (marked.filter (·.2)).map (·.1)
  let others := (marked.filter (!·.2)).map (·.1)
  let keyed ← others.mapM fun o => do return (← option_key severe o, o)
  return pinned ++ sortByKey key_before keyed

def recommended_action (severe : Bool) : Option PyVal → Except PyErr PyVal
  | none => .ok (.str (if severe then "RESCHEDULE" else "EXPEDITE"))
  | some primary => get_default primary "type" (.str "RESCHEDULE")

def resolve_delivery_delay (from_iso : FromIso) (order_id planned_date projected_eta minor_days
    severe_days carrier route delay_category alternate_options : PyVal) : Except PyErr PyDict :=
  match days_late from_iso planned_date projected_eta with
  | .error exc =>
    if exc.kind = "ValueError" then
      .ok [("status", .str "FAILED"), ("classification", .none), ("days_late", .none),
        ("delay_category", .none), ("primary_option", .none), ("alternate_options", .list []),
        ("recommended_action", .none), ("order_id", order_id),
        ("reason", .str ("Invalid ISO-8601 date input: " ++ exc.text))]
    else .error exc
  | .ok delta_days => do
    if ← (PyVal.int delta_days).compare .lt minor_days then
      return [("status", .str "COMPLETE"), ("classification", .str "ON_TIME"),
        ("days_late", .int (max 0 delta_days)), ("delay_category", delay_category.or (.str "NONE")),
        ("primary_option", .none), ("alternate_options", .list []),
        ("recommended_action", .str "NO_ACTION"), ("order_id", order_id), ("carrier", carrier),
        ("route", route)]
    let severe ← (PyVal.int delta_days).compare .ge severe_days
    let ranked ← rank_options severe (alternate_options.or (.list []))
    let primary := ranked.head?
    let action ← recommended_action severe primary
    return [("status", .str (if severe then "ESCALATE" else "REVIEW_REQUIRED")),
      ("classification", .str (if severe then "SEVERE_DELAY" else "MINOR_DELAY")),
      ("days_late", .int delta_days), ("delay_category", delay_category.or (.str "UNSPECIFIED")),
      ("primary_option", .ofOption primary), ("alternate_options", .list ranked),
      ("recommended_action", action), ("order_id", order_id), ("carrier", carrier),
      ("route", route)]

end asoe
