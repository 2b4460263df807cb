-- The impact metrics of a record (api/profile_composer.py), and the line items
-- that they are summed over: the entries of an event are handed on as rows of
-- the stored record (api/routes/exceptions.py).
import Asoe.QuantityRecipes
import Asoe.Reanalysis

open py prog

namespace asoe.impact

/-! ## The metrics -/

structure ImpactMetrics where
  revenue_at_risk : PyFloat
  delta_amount : PyFloat
  delta_percentage : PyFloat
  fulfillment_gap_pct : Option PyFloat
  sla_priority : String
  sla_deadline : Option String
  affected_lines : ℕ

/-- `_sla_priority_for`. -/
def sla_priority_for (record : ChildCase) : String :=
  match record.shadow_verdict with
  | some .RED => "P1"
  | some .YELLOW => "P2"
  | some .GREEN => "P3"
  | none => "P4"

/-- What the loop over the line items carries. -/
structure LineTotals where
  total_erp : PyFloat := .fin 0
  total_po : PyFloat := .fin 0
  fulfilled_qty : PyFloat := .fin 0
  requested_qty : PyFloat := .fin 0

/-- `float(li.get(key, default) or default)`. -/
def line_number (li : PyVal) (key : String) (default : PyFloat) : Except PyErr PyFloat := do
  ((← get_default li key (.float default)).or (.float default)).toFloat

def add_line_totals (t : LineTotals) (li : PyVal) : Except PyErr LineTotals := do
  let qty ← line_number li "quantity" (.fin 0)
  let erp ← line_number li "erp_price" (.fin 0)
  let po ← line_number li "po_price" (.fin 0)
  let fulfilled ← line_number li "fulfilled_quantity" qty
  return {
    total_erp := t.total_erp.add (erp.mul qty)
    total_po := t.total_po.add (po.mul qty)
    requested_qty := t.requested_qty.add qty
    fulfilled_qty := t.fulfilled_qty.add fulfilled }

/-- `x != 0` of a float. -/
def nonzero (x : PyFloat) : Bool := (PyVal.float x).truthy

/-- The metrics of the totals. -/
def metrics_of (record : ChildCase) (affected_lines : ℕ) (t : LineTotals) : ImpactMetrics :=
  let delta := t.total_po.sub t.total_erp
  let delta_pct :=
    if nonzero t.total_erp then (quotient delta t.total_erp).mul (.fin 100) else .fin 0
  let revenue_at_risk := if nonzero delta then delta.abs else t.total_po
  { revenue_at_risk := revenue_at_risk.roundTo 2
    delta_amount := delta.roundTo 2
    delta_percentage := delta_pct.roundTo 2
    fulfillment_gap_pct :=
      if (PyFloat.fin 0).lt t.requested_qty && t.fulfilled_qty.lt t.requested_qty then
        some (((quotient (t.requested_qty.sub t.fulfilled_qty) t.requested_qty).mul
          (.fin 100)).roundTo 2)
      else none
    sla_priority := sla_priority_for record
    sla_deadline := none
    affected_lines := affected_lines }

def compose_impact_metrics (record : ChildCase) : Except PyErr (Option ImpactMetrics) := do
  let raw_items := ((dict.get record.resolution_data.outputs "line_items").getD (.list [])).or
    (.list [])
  if !raw_items.truthy then return none
  else
    let items ← iterate raw_items
    let totals ← items.foldlM add_line_totals {}
    return some (metrics_of record items.length totals)

end asoe.impact
