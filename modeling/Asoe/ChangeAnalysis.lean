-- The evaluation of a requested order change: ten constraint checks, the
-- scenarios that they imply and the decision between them.
import Asoe.Recipes

namespace asoe

open py

/-! ## Reading the signals -/

/-- `int(float(value))`, `None` for a value that is no number. -/
def as_int (value : PyVal) : Except PyErr (Option ℤ) := do
  match ← as_float value with
  | none => return none
  | some f => return some (← (PyVal.float f).toInt)

def opt_str : PyVal → Option String
  | .none => none
  | v => some v.toStr

/-- The dictionary under the key, when the signal is there. -/
def signal (sig : PyDict) (key : String) : Option PyDict :=
  match dict.get sig key with
  | some (.dict s) => some s
  | _ => none

def signal_value (s : PyDict) (key : String) : PyVal := .ofOption (dict.get s key)

def flag_at (s : PyDict) (key : String) : Bool := (signal_value s key).truthy

/-- `f"{flag}"`. -/
def flag_text (flag : Bool) : String := (PyVal.bool flag).repr

/-! ## Numbers as text -/

def dropLastZeros (ds : List Char) : List Char := (ds.reverse.dropWhile (· = '0')).reverse

/-- The format `%g` of a number above zero. -/
def generalPos (q : ℚ) : List Char :=
  let (m, e) := significant q 6
  let ds := Nat.toDigits 10 m
  if -4 ≤ e ∧ e < 6 then
    if 0 ≤ e then
      let frac := dropLastZeros (ds.drop (e.toNat + 1))
      ds.take (e.toNat + 1) ++ (if frac.isEmpty then [] else '.' :: frac)
    else '0' :: '.' :: zeros ((-e).toNat - 1) ++ dropLastZeros ds
  else
    let tail := dropLastZeros (ds.drop 1)
    let digits := Nat.toDigits 10 e.natAbs
    ds.take 1 ++ (if tail.isEmpty then [] else '.' :: tail) ++ 'e' ::
      (if e < 0 then '-' else '+') :: zeros (2 - digits.length) ++ digits

/-- The format `%g`. -/
def general : PyFloat → String
  | .nan => "nan"
  | .inf s => if s then "-inf" else "inf"
  | .fin q =>
    if q = 0 then "0"
    else String.ofList (if q < 0 then '-' :: generalPos (-q) else generalPos q)

example : [general (.fin (5 / 2)), general (.fin (12345675 / 10)), general (.fin (1 / 65536))] =
    ["2.5", "1.23457e+06", "1.52588e-05"] := by decide +kernel

def num (value : PyFloat) : Except PyErr String := do
  let n ← (PyVal.float value).toInt
  return if value = .fin n then toString n else general value

/-- The format `,.2f`. -/
def groupedCents (x : PyFloat) : String :=
  let cs := (fixed 2 x).toList
  let (sign, digits) :=
    match cs with
    | '-' :: rest => (['-'], rest)
    | _ => ([], cs)
  let whole := digits.takeWhile (· ≠ '.')
  String.ofList (sign ++ (groupThousands whole.reverse).reverse ++ digits.dropWhile (· ≠ '.'))

def usd (value : PyFloat) : String := "$" ++ groupedCents value

example : usd (.fin (12345675 / 10)) = "$1,234,567.50" := by decide +kernel

/-! ## The constraint checks -/

inductive CheckStatus where
  | PASS | CONDITIONAL | WARNING
  deriving DecidableEq

structure ConstraintCheck where
  name : String
  status : CheckStatus
  detail : String
  metric : Option String
  agent : String
  system_ref : String
  deriving DecidableEq

/-- A check of the catalogue, `None` when its signal is absent. -/
abbrev Evaluator := PyDict → Except PyErr (Option ConstraintCheck)

def inventory : Evaluator := fun sig => do
  match signal sig "inventory" with
  | none => return none
  | some s =>
    let atp ← as_float (signal_value s "atp")
    let required ← as_float (signal_value s "required")
    match atp, required with
    | some atp, some required =>
      let (status, detail) :=
        if required.le atp then (CheckStatus.PASS, "ATP covers the requested quantity.")
        else if ((lit (8 / 10)).mul required).le atp then
          (.CONDITIONAL, "ATP partially covers the change; partial ship feasible.")
        else (.WARNING, "ATP is short of the requested quantity.")
      let metric := "ATP " ++ (← num atp) ++ " vs " ++ (← num required) ++ " required"
      return some ⟨"Inventory", status, detail, some metric, "Inventory Agent", "SAP MM/ATP"⟩
    | _, _ => return none

/-- `str(...).upper()`, of which the source asks only whether it is one of
three words of ASCII letters. -/
def stage_of (s : PyDict) : String :=
  String.ofList ((((dict.get s "stage").getD (.str "")).toStr).toList.map Char.toUpper)

def production_status (stage : String) : Option (CheckStatus × String) :=
  dict.get [("REL", (CheckStatus.PASS, "Production order released; change can be incorporated.")),
    ("CRTD", (.CONDITIONAL, "Production order created but not firm; review capacity.")),
    ("TECO", (.WARNING, "Production technically complete; change is disruptive."))] stage

def production : Evaluator := fun sig =>
  match signal sig "production" with
  | none => .ok none
  | some s =>
    match production_status (stage_of s) with
    | none => .ok none
    | some (status, detail) =>
      .ok (some ⟨"Production", status, detail, some ("Order status " ++ stage_of s),
        "Production Agent", "SAP PP"⟩)

def transport : Evaluator := fun sig =>
  match signal sig "transport" with
  | none => .ok none
  | some s =>
    let route := flag_at s "route_available"
    let capacity := flag_at s "carrier_capacity"
    let (status, detail) :=
      if route && capacity then (CheckStatus.PASS, "Route and carrier capacity available.")
      else if route || capacity then
        (.CONDITIONAL, "Partial transport availability; re-plan may be needed.")
      else (.WARNING, "No route or carrier capacity for the change.")
    .ok (some ⟨"Transport", status, detail,
      some ("route=" ++ flag_text route ++ ", carrier=" ++ flag_text capacity),
      "Transport Agent", "TMS"⟩)

def warehouse : Evaluator := fun sig =>
  match signal sig "warehouse" with
  | none => .ok none
  | some s =>
    let feasible := flag_at s "pick_pack_feasible"
    .ok (some ⟨"Warehouse", if feasible then .PASS else .WARNING,
      if feasible then "Pick/pack is feasible for the change."
      else "Pick/pack is not feasible at the current stage.",
      some ("pick_pack_feasible=" ++ flag_text feasible), "Warehouse Agent", "WMS"⟩)

def order_status : Evaluator := fun sig => do
  match signal sig "order_status" with
  | none => return none
  | some s =>
    match ← as_int (signal_value s "fulfillment_stage") with
    | none => return none
    | some stage =>
      let (status, detail) :=
        if stage ≤ 1 then
          (CheckStatus.PASS, "Order is early in fulfilment; change is low-risk.")
        else if stage ≤ 3 then
          (.CONDITIONAL, "Order is mid-fulfilment; change needs coordination.")
        else (.WARNING, "Order is late in fulfilment; change is high-risk.")
      return some ⟨"Order Status", status, detail,
        some ("fulfilment stage " ++ toString stage ++ "/5"), "Order Lifecycle Agent", "SAP SD"⟩

def sla : Evaluator := fun sig => do
  match signal sig "sla" with
  | none => return none
  | some s =>
    let within := flag_at s "within_window"
    let days ← as_int (signal_value s "days_to_deadline")
    let tight := days.any fun d => decide (d < 2)
    let (status, detail) :=
      if !within then (CheckStatus.WARNING, "Change breaches the contractual delivery window.")
      else if tight then (.CONDITIONAL, "Change is within window but the deadline is tight.")
      else (.PASS, "Change stays within the contractual delivery window.")
    let metric :=
      match days with
      | some d => toString d ++ " days to deadline"
      | none => "within window"
    return some ⟨"SLA", status, detail, some metric, "SLA Agent", "Contract DB"⟩

/-- The one check that reads the order value, and no signal. -/
def financial (order_value_usd threshold_usd : PyFloat) : ConstraintCheck :=
  let material := threshold_usd.le order_value_usd
  ⟨"Financial", if material then .CONDITIONAL else .PASS,
    if material then "Revenue impact meets the four-eyes threshold; cosign required."
    else "Revenue impact is below the four-eyes threshold.",
    some (usd order_value_usd ++ " revenue impact"), "Finance Agent", "SAP FI/CO"⟩

def dependencies : Evaluator := fun sig => do
  match signal sig "dependencies" with
  | none => return none
  | some s =>
    match ← as_int (signal_value s "linked_orders") with
    | none => return none
    | some linked =>
      let (status, detail) :=
        if linked = 0 then (CheckStatus.PASS, "No linked orders or deliveries affected.")
        else if linked ≤ 2 then
          (.CONDITIONAL, "A few linked orders may need re-coordination.")
        else (.WARNING, "Many linked orders/deliveries are affected.")
      return some ⟨"Dependencies", status, detail, some (toString linked ++ " linked orders"),
        "Dependency Agent", "SAP SD"⟩

def network : Evaluator := fun sig =>
  match signal sig "network" with
  | none => .ok none
  | some s =>
    let ok := flag_at s "dc_routing_ok"
    .ok (some ⟨"Network", if ok then .PASS else .CONDITIONAL,
      if ok then "DC routing supports the change."
      else "DC routing needs re-optimisation for the change.",
      some ("dc_routing_ok=" ++ flag_text ok), "Network Optimization", "Network Opt"⟩)

def priority : Evaluator := fun sig =>
  match signal sig "priority" with
  | none => .ok none
  | some s =>
    let tier := opt_str (signal_value s "customer_tier")
    let auto := flag_at s "auto_approve"
    .ok (some ⟨"Priority", if auto then .PASS else .CONDITIONAL,
      if auto then "Customer tier qualifies the change for auto-approval."
      else "Customer tier requires manual approval of the change.",
      (tier.filter fun t => t ≠ "").map fun t => "tier " ++ t, "Priority Agent", "CRM"⟩)

/-- The catalogue up to the SLA, after which the financial check stands. -/
def EVALUATORS_TO_SLA : List Evaluator :=
  [inventory, production, transport, warehouse, order_status, sla]

def EVALUATORS_AFTER_SLA : List Evaluator := [dependencies, network, priority]

def evaluate_constraints (signals : PyDict) (order_value_usd cosign_threshold_usd : PyFloat) :
    Except PyErr (List ConstraintCheck) := do
  let before ← EVALUATORS_TO_SLA.mapM fun evaluator => evaluator signals
  let after ← EVALUATORS_AFTER_SLA.mapM fun evaluator => evaluator signals
  return before.reduceOption ++ [financial order_value_usd cosign_threshold_usd]
    ++ after.reduceOption

structure Counts where
  pass : ℕ
  conditional : ℕ
  warning : ℕ

def tally_checks (checks : List ConstraintCheck) : Counts where
  pass := checks.countP fun c => c.status = .PASS
  conditional := checks.countP fun c => c.status = .CONDITIONAL
  warning := checks.countP fun c => c.status = .WARNING

/-! ## Scenarios -/

structure ScenarioOption where
  name : String
  description : String
  recommended : Bool
  impact : String
  financial_delta_usd : Option PyFloat

/-- The check of this name is not clean. -/
def flagged (checks : List ConstraintCheck) (name : String) : Bool :=
  checks.any fun c => c.name = name && (c.status = .CONDITIONAL || c.status = .WARNING)

def share_of_value (order_value_usd share : PyFloat) : PyFloat :=
  ((order_value_usd.mul share).roundTo 2).neg

def approve_scenario (approve_ok : Bool) : ScenarioOption where
  name := "Approve as requested"
  description := "Apply the requested change to the order as-is."
  recommended := approve_ok
  impact :=
    if approve_ok then "All constraints clear or conditional."
    else "One or more constraints flag a warning."
  financial_delta_usd := some (.fin 0)

def partial_scenario (approve_ok : Bool) (order_value_usd : PyFloat) : ScenarioOption where
  name := "Partial fulfilment"
  description := "Fulfil the available quantity now and backorder the remainder."
  recommended := !approve_ok
  impact := "Protects the delivery date for the available portion."
  financial_delta_usd := some (share_of_value order_value_usd (lit (1 / 4)))

def expedite_scenario (order_value_usd : PyFloat) : ScenarioOption where
  name := "Expedite shipping"
  description := "Upgrade the carrier service to hold the SLA window."
  recommended := false
  impact := "Holds the delivery window at added freight cost."
  financial_delta_usd := some (share_of_value order_value_usd (lit (5 / 100)))

def reject_scenario (recommended : Bool) : ScenarioOption where
  name := "Reject / escalate to planner"
  description := "Decline the change and route to a supply planner."
  recommended := recommended
  impact := "Avoids committing to an infeasible change."
  financial_delta_usd := none

def generate_scenarios (checks : List ConstraintCheck) (order_value_usd : PyFloat) :
    List ScenarioOption :=
  let approve_ok := decide ((tally_checks checks).warning = 0)
  let scenarios := [approve_scenario approve_ok]
    ++ (if flagged checks "Inventory" || flagged checks "Transport" || flagged checks "Warehouse"
        then [partial_scenario approve_ok order_value_usd] else [])
    ++ (if flagged checks "SLA" then [expedite_scenario order_value_usd] else [])
  scenarios ++ (if 0 < (tally_checks checks).warning
    then [reject_scenario (!scenarios.any (·.recommended))] else [])

/-! ## The decision -/

structure ChangeDecision where
  recommended_action : String
  confidence : PyFloat
  rationale : String
  revenue_impact_usd : PyFloat
  requires_cosign : Bool
  sap_actions : List String

/-- `max(0.3, min(0.98, round(1.0 - 0.1 * c - 0.25 * w, 2)))`. -/
def change_confidence (counts : Counts) : PyFloat :=
  let raw := (((lit 1).sub ((lit (1 / 10)).mul (.ofRat counts.conditional))).sub
    ((lit (1 / 4)).mul (.ofRat counts.warning))).roundTo 2
  (lit (3 / 10)).max (if raw.lt (lit (98 / 100)) then raw else lit (98 / 100))

def sap_actions (checks : List ConstraintCheck) : List String :=
  ["VA02: update sales order"]
    ++ (if flagged checks "Production" then ["CO02: review production order"] else [])
    ++ (if flagged checks "Transport" then ["VT02N: re-plan shipment"] else [])

def decide_change (checks : List ConstraintCheck) (counts : Counts)
    (scenarios : List ScenarioOption) (order_value_usd cosign_threshold_usd : PyFloat) :
    ChangeDecision where
  recommended_action :=
    match scenarios.find? (·.recommended) with
    | some s => s.name
    | none => "Manual review required"
  confidence := change_confidence counts
  rationale :=
    if 0 < counts.warning then
      "One or more constraints raised a warning; see the flagged checks."
    else if 0 < counts.conditional then
      "Change is feasible with conditions; review the conditional checks."
    else "All evaluated constraints pass; change is low-risk."
  revenue_impact_usd := order_value_usd.roundTo 2
  requires_cosign := cosign_threshold_usd.le order_value_usd
  sap_actions := sap_actions checks

/-! ## The recipe -/

structure ChangeItem where
  field : String
  from_value : Option String
  to_value : Option String

def LIFECYCLE_STAGES : List String := ["Created", "Confirmed", "Released", "Picked", "Shipped"]

structure ConstraintEvaluation where
  lifecycle_stages : List String
  lifecycle_index : Option ℤ
  change_items : List ChangeItem
  checks : List ConstraintCheck
  counts : Counts

structure ChangeAnalysis where
  evaluation : ConstraintEvaluation
  scenarios : List ScenarioOption
  decision : ChangeDecision

/-- The items that name a field. -/
def change_items_of (change_items : List PyDict) : List ChangeItem :=
  (change_items.filter fun ci => flag_at ci "field").map fun ci =>
    { field := (signal_value ci "field").toStr, from_value := opt_str (signal_value ci "from_value")
      to_value := opt_str (signal_value ci "to_value") }

def evaluate_change (order_value_usd cosign_threshold_usd : PyFloat)
    (change_items : List PyDict) (signals : PyDict) (lifecycle_index : Option ℤ) :
    Except PyErr ChangeAnalysis := do
  let checks ← evaluate_constraints signals order_value_usd cosign_threshold_usd
  let counts := tally_checks checks
  let scenarios := generate_scenarios checks order_value_usd
  return {
    evaluation := { lifecycle_stages := LIFECYCLE_STAGES, lifecycle_index := lifecycle_index
                    change_items := change_items_of change_items, checks := checks
                    counts := counts }
    scenarios := scenarios
    decision := decide_change checks counts scenarios order_value_usd cosign_threshold_usd }

end asoe
