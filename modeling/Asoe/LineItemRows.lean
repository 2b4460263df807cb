-- The entries of an event as rows of its record (api/routes/exceptions.py), and
-- the metrics that are composed of them (api/profile_composer.py): numbers
-- that are given and not zero are kept, the quantity as an integer.
import Asoe.ImpactMetrics
import Asoe.Lib.Cents
import Asoe.Lib.Distinct
import Asoe.Transitions

open py prog

namespace asoe.impact

/-! ## One entry -/

/-- The numbers of a row: the quantity as an integer and as a float. -/
structure Line where
  count : ℤ
  quantity : PyFloat
  erp_price : PyFloat
  po_price : PyFloat

/-- The entry has this value under the key, and it is not zero. -/
def Given (raw : PyDict) (key : String) (v : PyVal) : Prop :=
  dict.get raw key = some v ∧ v.truthy = true

/-- The numbers of an entry: `int` takes its quantity, and `float` its prices
and the integer. -/
structure Gives (raw : PyDict) (l : Line) : Prop where
  quantity : ∃ v, Given raw "quantity" v ∧ v.toInt = .ok l.count ∧
    (PyVal.int l.count).toFloat = .ok l.quantity
  erp_price : ∃ v, Given raw "erp_price" v ∧ v.toFloat = .ok l.erp_price
  po_price : ∃ v, Given raw "po_price" v ∧ v.toFloat = .ok l.po_price

/-- The id of an entry without one of its own: its `line_item`, or else its
position. -/
def generated_id (event : OrderEvent) (idx : ℕ) (raw : PyDict) : String :=
  event.order_id ++ "-" ++ ((dict.get raw "line_item").getD (.int idx)).toStr

def line_id_of (event : OrderEvent) (idx : ℕ) (raw : PyDict) : String :=
  ((value_at raw "line_id").or (.str (generated_id event idx raw))).toStr

/-- The row of an entry. -/
def row_of (event : OrderEvent) (idx : ℕ) (raw : PyDict) (l : Line) : PyDict :=
  [("line_id", .str (line_id_of event idx raw)), ("sku", line_text raw "sku" (fallback_sku event)),
    ("description", line_text raw "description" (fallback_description event)),
    ("uom", line_text raw "uom" "EA"), ("quantity", .int l.count),
    ("erp_price", .float l.erp_price), ("po_price", .float l.po_price),
    ("root_cause", value_at raw "root_cause")]

theorem Given.or {raw : PyDict} {key : String} {v : PyVal} (h : Given raw key v)
    (default default' : PyVal) : ((dict.get raw key).getD default).or default' = v := by
  rw [h.1, Option.getD_some, PyVal.or, if_pos h.2]

theorem line_price_given {raw : PyDict} {key : String} {v : PyVal} {x : PyFloat}
    (h : Given raw key v) (hx : v.toFloat = .ok x) (default : PyFloat) :
    line_price raw key default = .ok (.float x) := by
  unfold line_price
  rw [h.or, ok_bind hx]
  rfl

theorem project_line_eq (event : OrderEvent) (idx : ℕ) {raw : PyDict} {l : Line}
    (h : Gives raw l) : project_line event idx raw = .ok (.dict (row_of event idx raw l)) := by
  obtain ⟨v, hv, hcount, -⟩ := h.quantity
  obtain ⟨w, hw, herp⟩ := h.erp_price
  obtain ⟨z, hz, hpo⟩ := h.po_price
  unfold project_line
  dsimp only
  rw [hv.or, ok_bind hcount, ok_bind (line_price_given hw herp _),
    ok_bind (line_price_given hz hpo _)]
  rfl

/-! ## The entries -/

/-- The rows of the entries, numbered from `idx`. -/
def rows_of (event : OrderEvent) (idx : ℕ) (raws : List PyDict) (lines : List Line) :
    List PyDict :=
  ((raws.zipIdx idx).zip lines).map fun p => row_of event p.1.2 p.1.1 p.2

theorem project_lines_eq (event : OrderEvent) (idx : ℕ) {raws : List PyDict} {lines : List Line}
    (h : List.Forall₂ Gives raws lines) : project_lines event idx (raws.map .dict) =
      .ok ((rows_of event idx raws lines).map .dict) := by
  induction h generalizing idx with
  | nil => rfl
  | @cons raw l raws lines hl _ ih =>
    rw [List.map_cons, project_lines, ok_bind (project_line_eq event idx hl),
      ok_bind (ih (idx + 1))]
    rfl

/-- The event has these entries. -/
def HasEntries (event : OrderEvent) (raws : List PyDict) : Prop :=
  metadata_get event "line_items" = .list (raws.map .dict) ∧ raws ≠ []

variable {event : OrderEvent} {raws : List PyDict} {lines : List Line}

theorem project_line_items_eq
    (hentries : HasEntries event raws) (h : List.Forall₂ Gives raws lines) :
    project_line_items event = .ok ((rows_of event 1 raws lines).map .dict) := by
  obtain ⟨hraws, hne⟩ := hentries
  have hrows : (((rows_of event 1 raws lines).map PyVal.dict).isEmpty) = false := by
    cases h with
    | nil => exact absurd rfl hne
    | cons _ _ => rfl
  unfold project_line_items
  rw [hraws]
  dsimp only
  rw [ok_bind (project_lines_eq event 1 h), hrows]
  rfl

/-! ## The totals -/

def Line.erp_amount (l : Line) : PyFloat := l.erp_price.mul l.quantity

def Line.po_amount (l : Line) : PyFloat := l.po_price.mul l.quantity

/-- What the loop adds for a row. -/
def LineTotals.add (t : LineTotals) (l : Line) : LineTotals where
  total_erp := t.total_erp.add l.erp_amount
  total_po := t.total_po.add l.po_amount
  requested_qty := t.requested_qty.add l.quantity
  fulfilled_qty := t.fulfilled_qty.add l.quantity

theorem float_or_zero (x : PyFloat) : (PyVal.float x).or (.float (.fin 0)) = .float x := by
  unfold PyVal.or
  split
  · rfl
  · rename_i hzero
    cases x with
    | nan => exact absurd rfl hzero
    | inf s => exact absurd rfl hzero
    | fin q =>
      have hq : q = 0 := by simpa [PyVal.truthy] using hzero
      rw [hq]

theorem float_or_self (x : PyFloat) : (PyVal.float x).or (.float x) = .float x := by
  unfold PyVal.or
  split <;> rfl

theorem int_or_zero {n : ℤ} {x : PyFloat} (h : (PyVal.int n).toFloat = .ok x) :
    ((PyVal.int n).or (.float (.fin 0))).toFloat = .ok x := by
  unfold PyVal.or
  split
  · exact h
  · rename_i hzero
    have hn : n = 0 := by simpa [PyVal.truthy] using hzero
    rw [hn] at h
    rw [← h]
    decide +kernel

theorem add_line_totals_row (event : OrderEvent) (idx : ℕ) (t : LineTotals) {raw : PyDict}
    {l : Line} (h : Gives raw l) :
    add_line_totals t (.dict (row_of event idx raw l)) = .ok (t.add l) := by
  obtain ⟨v, -, -, hquantity⟩ := h.quantity
  have hqty : line_number (.dict (row_of event idx raw l)) "quantity" (.fin 0) =
      .ok l.quantity := int_or_zero hquantity
  have herp : line_number (.dict (row_of event idx raw l)) "erp_price" (.fin 0) =
      .ok l.erp_price := congrArg PyVal.toFloat (float_or_zero l.erp_price)
  have hpo : line_number (.dict (row_of event idx raw l)) "po_price" (.fin 0) =
      .ok l.po_price := congrArg PyVal.toFloat (float_or_zero l.po_price)
  have hfulfilled : line_number (.dict (row_of event idx raw l)) "fulfilled_quantity" l.quantity =
      .ok l.quantity := congrArg PyVal.toFloat (float_or_self l.quantity)
  unfold add_line_totals
  rw [ok_bind hqty, ok_bind herp, ok_bind hpo, ok_bind hfulfilled]
  rfl

theorem add_rows_eq (event : OrderEvent) (idx : ℕ) (t : LineTotals) {raws : List PyDict}
    {lines : List Line} (h : List.Forall₂ Gives raws lines) :
    ((rows_of event idx raws lines).map PyVal.dict).foldlM add_line_totals t =
      .ok (lines.foldl LineTotals.add t) := by
  induction h generalizing idx t with
  | nil => rfl
  | @cons raw l raws lines hl _ ih =>
    have hrow := add_line_totals_row event idx t hl
    have hcut : (rows_of event idx (raw :: raws) (l :: lines)).map PyVal.dict =
        .dict (row_of event idx raw l) :: (rows_of event (idx + 1) raws lines).map .dict := rfl
    rw [hcut, List.foldlM_cons, ok_bind hrow]
    exact ih (idx + 1) (t.add l)

theorem foldl_totals (lines : List Line) (t : LineTotals) : lines.foldl LineTotals.add t =
    { total_erp := (lines.map Line.erp_amount).foldl PyFloat.add t.total_erp
      total_po := (lines.map Line.po_amount).foldl PyFloat.add t.total_po
      fulfilled_qty := (lines.map Line.quantity).foldl PyFloat.add t.fulfilled_qty
      requested_qty := (lines.map Line.quantity).foldl PyFloat.add t.requested_qty } := by
  induction lines generalizing t with
  | nil => rfl
  | cons l lines ih =>
    rw [List.foldl_cons, ih]
    rfl

/-! ## The ids of the rows -/

/-- The entries with their positions. -/
def placed (raws : List PyDict) : List (PyDict × ℕ) := raws.zipIdx 1

def has_id (p : PyDict × ℕ) : Bool := (value_at p.1 "line_id").truthy

/-- The ids that the entries have. -/
def explicit_ids (raws : List PyDict) : List String :=
  ((placed raws).filter has_id).map fun p => (value_at p.1 "line_id").toStr

/-- The ids of the entries without one. -/
def generated_ids (event : OrderEvent) (raws : List PyDict) : List String :=
  ((placed raws).filter fun p => !has_id p).map fun p => generated_id event p.2 p.1

theorem line_id_explicit {p : PyDict × ℕ} (h : has_id p = true) :
    line_id_of event p.2 p.1 = (value_at p.1 "line_id").toStr := by
  unfold has_id at h
  rw [line_id_of, PyVal.or, if_pos h]

theorem line_id_generated {p : PyDict × ℕ} (h : has_id p = false) :
    line_id_of event p.2 p.1 = generated_id event p.2 p.1 := by
  have hfalse : ¬ (value_at p.1 "line_id").truthy = true := by
    unfold has_id at h
    simp [h]
  rw [line_id_of, PyVal.or, if_neg hfalse]
  rfl

theorem ids_of_rows (h : raws.length = lines.length) :
    (rows_of event 1 raws lines).map (fun row => value_at row "line_id") =
      ((placed raws).map fun p => line_id_of event p.2 p.1).map PyVal.str := by
  have hfst : ((raws.zipIdx 1).zip lines).map Prod.fst = raws.zipIdx 1 :=
    List.map_fst_zip (by rw [List.length_zipIdx, h])
  rw [placed, ← hfst, rows_of, List.map_map, List.map_map, List.map_map]
  rfl

theorem ids_nodup_iff (event : OrderEvent) (raws : List PyDict) :
    ((placed raws).map fun p => line_id_of event p.2 p.1).Nodup ↔
      (explicit_ids raws).Nodup ∧ (generated_ids event raws).Nodup ∧
        ∀ id ∈ explicit_ids raws, id ∉ generated_ids event raws := by
  have hexplicit : ((placed raws).filter has_id).map (fun p => line_id_of event p.2 p.1) =
      explicit_ids raws :=
    List.map_congr_left fun p hp => line_id_explicit (List.mem_filter.mp hp).2
  have hgenerated : ((placed raws).filter fun p => !has_id p).map
      (fun p => line_id_of event p.2 p.1) = generated_ids event raws :=
    List.map_congr_left fun p hp =>
      line_id_generated (by simpa using (List.mem_filter.mp hp).2)
  rw [distinct.nodup_map_iff has_id, hexplicit, hgenerated]

/-! ## The stored record -/

/-- The stored rows: one for each entry in order; their ids are distinct just
when the given ids and the generated ones are. -/
structure RowsKept (event : OrderEvent) (raws : List PyDict) (lines : List Line)
    (record : ChildCase) : Prop where
  rows : dict.get record.resolution_data.outputs "line_items" =
    some (.list ((rows_of event 1 raws lines).map .dict))
  length : (rows_of event 1 raws lines).length = raws.length
  ids : ((rows_of event 1 raws lines).map fun row => value_at row "line_id").Nodup ↔
    (explicit_ids raws).Nodup ∧ (generated_ids event raws).Nodup ∧
      ∀ id ∈ explicit_ids raws, id ∉ generated_ids event raws

/-- A line whose prices are amounts of cents. -/
structure CentLine where
  count : ℤ
  erp_cents : ℤ
  po_cents : ℤ

def CentLine.line (c : CentLine) : Line where
  count := c.count
  quantity := .fin c.count
  erp_price := cents.amount c.erp_cents
  po_price := cents.amount c.po_cents

/-- The metrics of the lines. The difference is summed as floats; it is exact
when the prices are amounts of cents and the sums are of moderate size. -/
structure MetricsOf (lines : List Line) (m : ImpactMetrics) : Prop where
  delta : m.delta_amount = ((float_sums.total (lines.map Line.po_amount)).sub
    (float_sums.total (lines.map Line.erp_amount))).roundTo 2
  exact_delta : ∀ cs : List CentLine, lines = cs.map CentLine.line → (∀ c ∈ cs, c.count ≠ 0) →
    cs.length ≤ 500 → (cs.map fun c => |c.po_cents * c.count|).sum ≤ cents.sum_limit →
    (cs.map fun c => |c.erp_cents * c.count|).sum ≤ cents.sum_limit →
    m.delta_amount = cents.amount (cs.map fun c => (c.po_cents - c.erp_cents) * c.count).sum
  gap : m.fulfillment_gap_pct = none
  affected : m.affected_lines = lines.length

theorem lt_irrefl (x : PyFloat) : x.lt x = false := by
  cases x with
  | nan => rfl
  | inf s => cases s <;> rfl
  | fin q => simp [PyFloat.lt]

theorem delta_of_cents (cs : List CentLine) (hcount : ∀ c ∈ cs, c.count ≠ 0)
    (hlength : cs.length ≤ 500)
    (hpo : (cs.map fun c => |c.po_cents * c.count|).sum ≤ cents.sum_limit)
    (herp : (cs.map fun c => |c.erp_cents * c.count|).sum ≤ cents.sum_limit) :
    ((float_sums.total ((cs.map CentLine.line).map Line.po_amount)).sub
      (float_sums.total ((cs.map CentLine.line).map Line.erp_amount))).roundTo 2 =
      cents.amount (cs.map fun c => (c.po_cents - c.erp_cents) * c.count).sum := by
  let pos := cs.map fun c => (c.po_cents, c.count)
  let erps := cs.map fun c => (c.erp_cents, c.count)
  have hpos : (cs.map CentLine.line).map Line.po_amount = cents.products pos := by
    simp only [pos, cents.products, List.map_map]
    rfl
  have herps : (cs.map CentLine.line).map Line.erp_amount = cents.products erps := by
    simp only [erps, cents.products, List.map_map]
    rfl
  have hdelta : (cs.map fun c => (c.po_cents - c.erp_cents) * c.count).sum =
      cents.cents_of pos - cents.cents_of erps := by
    simp only [pos, erps, cents.cents_of, List.map_map]
    clear hcount hlength hpo herp pos erps hpos herps
    induction cs with
    | nil => rfl
    | cons c cs ih =>
      simp only [List.map_cons, List.sum_cons, Function.comp_apply] at ih ⊢
      rw [ih]
      ring
  rw [hpos, herps, hdelta]
  have hposum : (pos.map fun x => |x.1 * x.2|).sum ≤ cents.sum_limit := by
    simp only [pos, List.map_map]
    exact hpo
  have herpsum : (erps.map fun x => |x.1 * x.2|).sum ≤ cents.sum_limit := by
    simp only [erps, List.map_map]
    exact herp
  refine cents.difference_exact ?_ ?_ (by simpa [pos] using hlength)
    (by simpa [erps] using hlength) hposum herpsum
  · intro x hx
    obtain ⟨c, hc, rfl⟩ := List.mem_map.mp hx
    exact hcount c hc
  · intro x hx
    obtain ⟨c, hc, rfl⟩ := List.mem_map.mp hx
    exact hcount c hc

theorem metrics_of_totals (record : ChildCase) (lines : List Line) :
    MetricsOf lines (metrics_of record lines.length (lines.foldl LineTotals.add {})) := by
  have hdelta : (metrics_of record lines.length (lines.foldl LineTotals.add {})).delta_amount =
      ((float_sums.total (lines.map Line.po_amount)).sub
        (float_sums.total (lines.map Line.erp_amount))).roundTo 2 := by
    rw [foldl_totals]
    rfl
  refine ⟨hdelta, ?_, ?_, rfl⟩
  · rintro cs rfl hcount hlength hpo herp
    rw [hdelta, delta_of_cents cs hcount hlength hpo herp]
  · rw [foldl_totals, metrics_of]
    simp [lt_irrefl]

theorem resolution_data_eq {fin : GraphState} (hentries : HasEntries fin.event raws)
    (hnone : (value_at fin.outputs "line_items").truthy = false)
    (hlines : List.Forall₂ Gives raws lines) : resolution_data_of fin =
      .ok { outputs := dict.set fin.outputs "line_items"
              (.list ((rows_of fin.event 1 raws lines).map .dict)) } := by
  have hnone' : ¬ (PyVal.ofOption (dict.get fin.outputs "line_items")).truthy = true := by
    unfold value_at at hnone
    simp [hnone]
  unfold resolution_data_of
  dsimp only
  rw [if_neg hnone', ok_bind (project_line_items_eq hentries hlines)]
  rfl

theorem compose_of_rows
    (hne : raws ≠ []) (hlines : List.Forall₂ Gives raws lines) {record : ChildCase}
    (hrows : dict.get record.resolution_data.outputs "line_items" =
      some (.list ((rows_of event 1 raws lines).map .dict))) :
    ∃ m, compose_impact_metrics record = .ok (some m) ∧ MetricsOf lines m := by
  have htruthy : (PyVal.list ((rows_of event 1 raws lines).map PyVal.dict)).truthy = true := by
    cases hlines with
    | nil => exact absurd rfl hne
    | cons _ _ => rfl
  have hlength : ((rows_of event 1 raws lines).map PyVal.dict).length = lines.length := by
    simp [rows_of, hlines.length_eq]
  refine ⟨metrics_of record lines.length (lines.foldl LineTotals.add {}), ?_,
    metrics_of_totals record lines⟩
  unfold compose_impact_metrics
  rw [hrows, Option.getD_some, PyVal.or, if_pos htruthy]
  dsimp only
  rw [htruthy]
  have hiterate : iterate (.list ((rows_of event 1 raws lines).map PyVal.dict)) =
      .ok ((rows_of event 1 raws lines).map PyVal.dict) := rfl
  simp only [Bool.not_true]
  rw [ok_bind hiterate, ok_bind (add_rows_eq event 1 {} hlines), hlength]
  rfl

/-- Entries whose numbers are given and not zero are stored as one row each, in
order; the metrics of the record that is stored are those of the entries, with
the quantities as integers, and there is no fulfilment gap. -/
theorem entries_are_stored_and_summed_up (cfg : Config) (env : StepEnv) (tenant : String)
    (fin : GraphState) (raws : List PyDict) (lines : List Line)
    (hentries : HasEntries fin.event raws)
    (hnone : (value_at fin.outputs "line_items").truthy = false)
    (hlines : List.Forall₂ Gives raws lines) :
    (∃ data, resolution_data_of fin = .ok data) ∧
    ∀ api, wp (persist_exception cfg env tenant (run_trace_id env fin) fin)
      (fun id api' => ∃ record, dict.get api'.records id = some record ∧
        RowsKept fin.event raws lines record ∧
        ∃ m, compose_impact_metrics record = .ok (some m) ∧ MetricsOf lines m)
      (fun _ _ => True) api := by
  have hdata := resolution_data_eq hentries hnone hlines
  refine ⟨⟨_, hdata⟩, fun api => wp_mono (wp_persist_exception cfg env tenant fin api) ?_ ?_⟩
  · rintro id api' ⟨record, trace, hpersisted⟩
    obtain ⟨cases', case, data, composed, -, hbuilt, hrecord, -, -⟩ := hpersisted.built
    have houtputs : record.resolution_data = data := by rw [hrecord]; rfl
    have hrows : dict.get record.resolution_data.outputs "line_items" =
        some (.list ((rows_of fin.event 1 raws lines).map .dict)) := by
      rw [houtputs, ← Except.ok.inj (hdata.symm.trans hbuilt)]
      exact dict.get_set_self _ _ _
    refine ⟨record, hpersisted.record_get, ⟨hrows, ?_, ?_⟩,
      compose_of_rows hentries.2 hlines hrows⟩
    · simp [rows_of, hlines.length_eq]
    · rw [ids_of_rows hlines.length_eq, ← ids_nodup_iff]
      exact List.nodup_map_iff fun a b hab => PyVal.str.inj hab
  · exact fun _ _ _ => trivial

/-- The end of a run for an event with these entries. -/
def endOf (entries : List PyDict) : GraphState where
  event :=
    { order_id := "PO-1", po_price := .fin 10, sap_base_price := .fin 10,
      metadata := [("line_items", .list (entries.map .dict))] }
  tenant_id := some "T1"

/-- Ten units that are invoiced below the price, and three with an id. -/
def twoEntries : List PyDict :=
  [[("quantity", .int 10), ("erp_price", .float (.fin 5)), ("po_price", .float (.fin 4))],
    [("line_id", .str "A"), ("quantity", .int 3), ("erp_price", .int 2), ("po_price", .int 2)]]

def twoLines : List Line :=
  [⟨10, .fin 10, .fin 5, .fin 4⟩, ⟨3, .fin 3, .fin 2, .fin 2⟩]

theorem two_entries_are_stored_and_summed_up :
    (∃ data, resolution_data_of (endOf twoEntries) = .ok data) ∧
    ∀ api, wp (persist_exception sampleConfig (sampleEnv (sampleRun 20000)) "T1"
        (run_trace_id (sampleEnv (sampleRun 20000)) (endOf twoEntries)) (endOf twoEntries))
      (fun id api' => ∃ record, dict.get api'.records id = some record ∧
        RowsKept (endOf twoEntries).event twoEntries twoLines record ∧
        ∃ m, compose_impact_metrics record = .ok (some m) ∧ MetricsOf twoLines m)
      (fun _ _ => True) api := by
  refine entries_are_stored_and_summed_up _ _ _ _ _ _ ⟨rfl, List.cons_ne_nil _ _⟩ rfl ?_
  refine .cons ⟨?_, ?_, ?_⟩ (.cons ⟨?_, ?_, ?_⟩ .nil)
  · exact ⟨.int 10, ⟨rfl, rfl⟩, rfl, by decide +kernel⟩
  · exact ⟨.float (.fin 5), ⟨rfl, by decide +kernel⟩, rfl⟩
  · exact ⟨.float (.fin 4), ⟨rfl, by decide +kernel⟩, rfl⟩
  · exact ⟨.int 3, ⟨rfl, rfl⟩, rfl, by decide +kernel⟩
  · exact ⟨.int 2, ⟨rfl, rfl⟩, by decide +kernel⟩
  · exact ⟨.int 2, ⟨rfl, rfl⟩, by decide +kernel⟩

/-- The record that is built of these entries. -/
def recordWith (entries : List PyDict) : Except PyErr ChildCase := do
  let data ← resolution_data_of (endOf entries)
  return record_of (sampleEnv (sampleRun 20000)) "T1" "r1"
    ⟨"C1", "T1", .OPEN_AGENT_PROCESSING, none, none, none⟩ data (endOf entries)

/-- Two and a half units, of which one was fulfilled. -/
def shortEntry : PyDict :=
  [("quantity", .float (.fin (5 / 2))), ("erp_price", .int 1), ("po_price", .int 3),
    ("fulfilled_quantity", .int 1)]

/-- The difference, the gap and the count of the metrics. -/
def figuresOf (record : ChildCase) : Option (PyFloat × Option PyFloat × ℕ) :=
  (compose_impact_metrics record).toOption.join.map fun m =>
    (m.delta_amount, m.fulfillment_gap_pct, m.affected_lines)

/-- The fraction of a quantity is cut off, and what was fulfilled is not kept:
the difference is 4 where the entry has 5, and no gap is shown. -/
theorem a_fraction_and_a_shortfall_are_lost :
    ∃ record, recordWith [shortEntry] = .ok record ∧ figuresOf record = some (.fin 4, none, 1) := by
  decide +kernel

end asoe.impact
