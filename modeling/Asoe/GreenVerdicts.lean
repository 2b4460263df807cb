-- What a GREEN verdict of the first Shadow says of the recipe: the delay and
-- the price hold are checked on other data than the recipe reads.
import Asoe.SeverityAgreement
import Mathlib.Tactic.NormNum

namespace asoe

open py prog

/-! ## Delivery delay -/

/-- The days that the event itself reports are below the limit. -/
def DelayReportedSmall (event : OrderEvent) : Prop :=
  metadata_get event "days_late" ≠ .none ∧
    ∃ days, (metadata_get event "days_late").toInt = .ok days ∧ days < DELIVERY_DELAY_MINOR_DAYS

/-- The two dates of the event can be read, and the later one is less than
the limit after the other. -/
def DatesClose (from_iso : FromIso) (event : OrderEvent) : Prop :=
  ∃ planned eta,
    parse_iso from_iso ((metadata_get event "planned_date").or (.str "")) = .ok planned ∧
    parse_iso from_iso ((metadata_get event "projected_eta").or (.str "")) = .ok eta ∧
    eta - planned < DELIVERY_DELAY_MINOR_DAYS * 86400000000

/-- The verdict is GREEN. -/
def Green (verdict : Except PyErr ShadowDecision) : Prop :=
  ∃ decision, verdict = .ok decision ∧ decision.status = .GREEN

theorem shadow_for_delivery_delay_green (event : OrderEvent) :
    Green (shadow_for_delivery_delay event) ↔ DelayReportedSmall event := by
  unfold shadow_for_delivery_delay DelayReportedSmall Green
  dsimp only
  by_cases hnone : metadata_get event "days_late" = .none
  · rw [if_pos hnone]
    simp [hnone, pure, Except.pure]
  rw [if_neg hnone]
  cases hdays : (metadata_get event "days_late").toInt with
  | error exc => simp [error_bind]
  | ok days =>
    rw [ok_bind rfl]
    have horder : DELIVERY_DELAY_MINOR_DAYS ≤ DELIVERY_DELAY_SEVERE_DAYS := by decide
    split
    · rename_i hsevere
      have hlate : ¬ days < DELIVERY_DELAY_MINOR_DAYS := by omega
      simp [pure, Except.pure, hlate]
    · split
      · rename_i hminor
        have hlate : ¬ days < DELIVERY_DELAY_MINOR_DAYS := by omega
        simp [pure, Except.pure, hlate]
      · rename_i hminor
        have hearly : days < DELIVERY_DELAY_MINOR_DAYS := by omega
        simp [pure, Except.pure, hearly, hnone]

theorem days_late_lt_iff (from_iso : FromIso) (event : OrderEvent) :
    (∃ days, days_late from_iso ((metadata_get event "planned_date").or (.str ""))
        ((metadata_get event "projected_eta").or (.str "")) = .ok days ∧
        days < DELIVERY_DELAY_MINOR_DAYS) ↔ DatesClose from_iso event := by
  unfold days_late DatesClose
  cases hplanned : parse_iso from_iso ((metadata_get event "planned_date").or (.str "")) with
  | error exc => simp [error_bind]
  | ok planned =>
    cases heta : parse_iso from_iso ((metadata_get event "projected_eta").or (.str "")) with
    | error exc => simp [ok_bind, error_bind]
    | ok eta =>
      rw [ok_bind rfl, ok_bind rfl]
      have hday : (eta - planned) / 86400000000 < DELIVERY_DELAY_MINOR_DAYS ↔
          eta - planned < DELIVERY_DELAY_MINOR_DAYS * 86400000000 :=
        Int.ediv_lt_iff_lt_mul (by norm_num)
      simp [pure, Except.pure, hday]

section delay

variable (from_iso : FromIso) (order_id planned_date projected_eta severe_days carrier route
  delay_category alternate_options : PyVal)

/-- The recipe is on time only below its limit. -/
theorem days_of_on_time (minor_days : ℤ) :
    returns (resolve_delivery_delay from_iso order_id planned_date projected_eta (.int minor_days)
      severe_days carrier route delay_category alternate_options) fun outputs =>
        dict.get outputs "classification" = some (.str "ON_TIME") →
          ∃ days, days_late from_iso planned_date projected_eta = .ok days ∧
            days < minor_days := by
  unfold resolve_delivery_delay
  rcases hdays : days_late from_iso planned_date projected_eta with exc | days
  · refine returns_ite (fun _ => (returns_ok _).mpr ?_) fun _ => returns_error _
    simp [dict.get_cons]
  have hcompare : (PyVal.int days).compare .lt (.int minor_days) =
      .ok (decide (days < minor_days)) := rfl
  dsimp only
  rw [ok_bind hcompare]
  refine returns_ite (fun hearly => ?_) fun _ => ?_
  · refine (returns_pure _).mpr fun _ => ?_
    exact ⟨days, rfl, by simpa using hearly⟩
  refine returns_bind fun severe _ => returns_bind fun _ _ => returns_bind fun _ _ => ?_
  refine (returns_pure _).mpr fun hclass => ?_
  cases severe <;> simp [dict.get_cons] at hclass

theorem on_time_of_days {minor_days days : ℤ}
    (hdays : days_late from_iso planned_date projected_eta = .ok days)
    (hearly : days < minor_days) :
    ∃ outputs, resolve_delivery_delay from_iso order_id planned_date projected_eta
        (.int minor_days) severe_days carrier route delay_category alternate_options =
          .ok outputs ∧
      dict.get outputs "classification" = some (.str "ON_TIME") := by
  have hcompare : (PyVal.int days).compare .lt (.int minor_days) = .ok true := by
    change Except.ok (decide (days < minor_days)) = _
    simp [hearly]
  unfold resolve_delivery_delay
  rw [hdays]
  dsimp only
  rw [ok_bind hcompare, if_pos rfl]
  exact ⟨_, rfl, by simp [dict.get_cons]⟩

end delay

theorem delay_on_time_iff (from_iso : FromIso) (event : OrderEvent) :
    (∃ outputs, registered_recipe from_iso .DeliveryDelayResolutionRecipe
        (delivery_delay_params event) = .ok outputs ∧
        dict.get outputs "classification" = some (.str "ON_TIME")) ↔
      DatesClose from_iso event := by
  rw [← days_late_lt_iff]
  constructor
  · rintro ⟨outputs, hout, hclass⟩
    exact days_of_on_time _ _ _ _ _ _ _ _ _ _ outputs hout hclass
  · rintro ⟨days, hdays, hearly⟩
    exact on_time_of_days _ _ _ _ _ _ _ _ _ hdays hearly

/-! ## Price hold -/

/-- The share by which the price of the order differs from the base price. -/
def price_variance (event : OrderEvent) : PyFloat :=
  (quotient (event.po_price.sub event.sap_base_price) event.sap_base_price).abs

/-- The prices differ by less than the limits of the policy. -/
def PriceNear (event : OrderEvent) : Prop :=
  event.sap_base_price.le (.fin 0) = false ∧
    PRICE_HOLD_HARD_BLOCK_PCT.lt (price_variance event) = false ∧
    PRICE_HOLD_TOLERANCE_PCT.lt (price_variance event) = false

/-- The tolerance that the event asks for, or the one of the policy. -/
def event_tolerance (event : OrderEvent) : PyVal :=
  (dict.get event.metadata "tolerance_pct").getD (.float PRICE_HOLD_TOLERANCE_PCT)

/-- The tolerance is a number below the hard block, and the prices differ by
no more than it. -/
def WithinTolerance (event : OrderEvent) : Prop :=
  ∃ tolerance, (event_tolerance event).number? = some tolerance ∧
    ltNumber tolerance (.inr PRICE_HOLD_HARD_BLOCK_PCT) = true ∧
    leNumber (.inr (price_variance event)) tolerance = true

theorem shadow_for_price_hold_green (event : OrderEvent) :
    Green (.ok (shadow_for_price_hold_release event)) ↔ PriceNear event := by
  unfold Green PriceNear price_variance
  simp only [Except.ok.injEq, exists_eq_left']
  unfold shadow_for_price_hold_release
  dsimp only
  by_cases hbase : event.sap_base_price.le (.fin 0) = true
  · simp [hbase]
  rw [if_neg hbase]
  split
  · rename_i hblock
    simp [hblock]
  · split
    · rename_i htolerance
      simp [htolerance]
    · rename_i hblock htolerance
      simp [hbase, hblock, htolerance]

theorem compare_number (op : PyVal.CmpOp) {v w : PyVal} {x y : ℤ ⊕ PyFloat}
    (hv : v.number? = some x) (hw : w.number? = some y) :
    v.compare op w = .ok (op.holds ltNumber leNumber x y) := by
  cases v <;> cases w <;> simp_all [PyVal.number?, PyVal.compare]

theorem compare_of_ok (op : PyVal.CmpOp) {v : PyVal} {x : PyFloat} {b : Bool}
    (h : v.compare op (.float x) = .ok b) : ∃ y, v.number? = some y := by
  cases v <;> simp_all [PyVal.number?, PyVal.compare]

theorem abs_nonneg_of_le {x : PyFloat} {n : ℤ} (h : leNumber (.inr x.abs) (.inl n) = true) :
    0 ≤ n := by
  cases x with
  | nan => cases h
  | inf s => cases h
  | fin q =>
    simp only [PyFloat.abs, leNumber, ltNumber, PyVal.eqNumber, Bool.or_eq_true,
      decide_eq_true_eq] at h
    have hq : |q| ≤ n := h.elim le_of_lt fun heq => le_of_eq heq.symm
    exact_mod_cast (abs_nonneg q).trans hq

theorem hard_block_lt_one : ∃ q, PRICE_HOLD_HARD_BLOCK_PCT = .fin q ∧ q < 1 :=
  ⟨3602879701896397 / 36028797018963968, by decide +kernel, by norm_num⟩

/-- A tolerance that lets an order through can be printed. -/
theorem float_of_tolerance {tolerance : ℤ ⊕ PyFloat} {x : PyFloat}
    (hblock : ltNumber tolerance (.inr PRICE_HOLD_HARD_BLOCK_PCT) = true)
    (hnear : leNumber (.inr x.abs) tolerance = true) :
    ∃ y, floatOfNumber tolerance = .ok y := by
  cases tolerance with
  | inr y => exact ⟨y, rfl⟩
  | inl n =>
    obtain ⟨q, hq, hone⟩ := hard_block_lt_one
    have hlow := abs_nonneg_of_le hnear
    have hhigh : (n : ℚ) < 1 := by
      rw [hq] at hblock
      have hlt : (n : ℚ) < q := by simpa [ltNumber] using hblock
      linarith
    obtain rfl : n = 0 := by
      have : n < 1 := by exact_mod_cast hhigh
      omega
    exact ⟨_, rfl⟩

theorem price_hold_decision_release {variance : PyFloat} {tolerance_pct : PyVal}
    {tolerance : ℤ ⊕ PyFloat} (htolerance : tolerance_pct.number? = some tolerance) :
    returns (price_hold_decision (.float variance) tolerance_pct
      (.float PRICE_HOLD_HARD_BLOCK_PCT)) fun decision =>
        decision.1 = .AUTO_RELEASE → leNumber (.inr variance.abs) tolerance = true := by
  have habs : (PyVal.float variance).abs = .ok (.float variance.abs) := rfl
  unfold price_hold_decision
  rw [ok_bind habs, ok_bind (compare_number .le rfl htolerance)]
  refine returns_ite (fun hnear => ?_) fun _ => ?_
  · exact returns_bind fun _ _ => returns_bind fun _ _ => (returns_pure _).mpr fun _ => hnear
  refine returns_bind fun _ _ => returns_ite (fun _ => ?_) fun _ => ?_
  · refine returns_bind fun _ _ => returns_bind fun _ _ => returns_bind fun _ _ => ?_
    exact (returns_pure _).mpr (by simp)
  · exact returns_bind fun _ _ => returns_bind fun _ _ => (returns_pure _).mpr (by simp)

theorem price_hold_decision_near {variance : PyFloat} {tolerance_pct : PyVal}
    {tolerance : ℤ ⊕ PyFloat} (htolerance : tolerance_pct.number? = some tolerance)
    (hnear : leNumber (.inr variance.abs) tolerance = true)
    (hprinted : ∃ y, floatOfNumber tolerance = .ok y) :
    ∃ reason, price_hold_decision (.float variance) tolerance_pct
      (.float PRICE_HOLD_HARD_BLOCK_PCT) = .ok (.AUTO_RELEASE, reason) := by
  have habs : (PyVal.float variance).abs = .ok (.float variance.abs) := rfl
  have hcompare : (PyVal.float variance.abs).compare .le tolerance_pct = .ok true :=
    (compare_number .le rfl htolerance).trans (by simpa [PyVal.CmpOp.holds] using hnear)
  obtain ⟨y, hy⟩ := hprinted
  have hformat : tolerance_pct.format (fixed 4) = .ok (fixed 4 y) := by
    simp [PyVal.format, htolerance, hy, Except.map]
  unfold price_hold_decision
  rw [ok_bind habs, ok_bind hcompare, if_pos rfl, ok_bind (format_float _ _), ok_bind hformat]
  exact ⟨_, rfl⟩

section priceHold

variable (order_id line_item tolerance_pct requester_role : PyVal)
  (po_price sap_base_price : PyFloat)

/-- The recipe releases an order only within its tolerance. -/
theorem tolerance_of_released (hold_status : PyVal) (hbase : sap_base_price.le (.fin 0) = false) :
    returns (execute_price_hold_release order_id line_item (.float po_price)
      (.float sap_base_price) tolerance_pct (.float PRICE_HOLD_HARD_BLOCK_PCT) hold_status
      requester_role) fun outputs => dict.get outputs "status" = some (.str "RELEASED") →
        ∃ tolerance, tolerance_pct.number? = some tolerance ∧
          ltNumber tolerance (.inr PRICE_HOLD_HARD_BLOCK_PCT) = true ∧
          leNumber (.inr (quotient (po_price.sub sap_base_price) sap_base_price).abs) tolerance =
            true := by
  unfold execute_price_hold_release
  refine returns_bind fun below hbelow => returns_ite (fun _ => returns_error _) fun hlt => ?_
  obtain ⟨tolerance, htolerance⟩ := compare_of_ok _ hbelow
  have hblock : ltNumber tolerance (.inr PRICE_HOLD_HARD_BLOCK_PCT) = true := by
    rw [compare_number _ htolerance rfl] at hbelow
    cases hbelow
    simpa [PyVal.CmpOp.holds] using hlt
  refine returns_ite (fun _ => (returns_pure _).mpr (by simp [dict.get_cons])) fun _ => ?_
  rw [ok_bind (sub_float _ _), ok_bind (div_float_pos hbase)]
  refine returns_bind fun decision hdecision => ?_
  refine returns_bind fun _ _ => (returns_pure _).mpr fun hreleased => ?_
  refine ⟨tolerance, htolerance, hblock, ?_⟩
  refine price_hold_decision_release htolerance decision hdecision ?_
  obtain ⟨action, reason⟩ := decision
  cases action <;> simp [dict.get_cons, PriceHoldAction.status] at hreleased ⊢

theorem released_of_tolerance {tolerance : ℤ ⊕ PyFloat}
    (hbase : sap_base_price.le (.fin 0) = false)
    (htolerance : tolerance_pct.number? = some tolerance)
    (hblock : ltNumber tolerance (.inr PRICE_HOLD_HARD_BLOCK_PCT) = true)
    (hnear : leNumber (.inr (quotient (po_price.sub sap_base_price) sap_base_price).abs)
      tolerance = true) :
    ∃ outputs, execute_price_hold_release order_id line_item (.float po_price)
        (.float sap_base_price) tolerance_pct (.float PRICE_HOLD_HARD_BLOCK_PCT) (.str "HELD")
        requester_role = .ok outputs ∧
      dict.get outputs "status" = some (.str "RELEASED") := by
  have hcompare : tolerance_pct.compare .lt (.float PRICE_HOLD_HARD_BLOCK_PCT) = .ok true :=
    (compare_number .lt htolerance rfl).trans (by simpa [PyVal.CmpOp.holds] using hblock)
  obtain ⟨reason, hdecision⟩ :=
    price_hold_decision_near htolerance hnear (float_of_tolerance hblock hnear)
  unfold execute_price_hold_release
  rw [ok_bind hcompare, if_neg (by simp), if_neg (by simp [PyVal.eq]), ok_bind (sub_float _ _),
    ok_bind (div_float_pos hbase), ok_bind hdecision]
  exact ⟨_, rfl, by simp [dict.get_cons, PriceHoldAction.status]⟩

end priceHold

/-- The recipe releases a held order just within the tolerance of its event. -/
theorem price_hold_released_iff (from_iso : FromIso) (state : GraphState)
    (hbase : state.event.sap_base_price.le (.fin 0) = false)
    (hheld : dict.get (price_hold_params state) "hold_status" = some (.str "HELD")) :
    (∃ outputs, registered_recipe from_iso .PriceHoldReleaseRecipe (price_hold_params state) =
        .ok outputs ∧ dict.get outputs "status" = some (.str "RELEASED")) ↔
      WithinTolerance state.event := by
  have hrun : registered_recipe from_iso .PriceHoldReleaseRecipe (price_hold_params state) =
      execute_price_hold_release (.str state.event.order_id) (.int state.event.line_item)
        (.float state.event.po_price) (.float state.event.sap_base_price)
        (event_tolerance state.event) (.float PRICE_HOLD_HARD_BLOCK_PCT) (.str "HELD")
        (ofString? state.event.requester_role) := by
    change execute_price_hold_release _ _ _ _ _ _
      (PyVal.ofOption (dict.get (price_hold_params state) "hold_status")) _ = _
    rw [hheld]
    rfl
  rw [hrun]
  constructor
  · rintro ⟨outputs, hout, hreleased⟩
    exact tolerance_of_released _ _ _ _ _ _ _ hbase outputs hout hreleased
  · rintro ⟨tolerance, htolerance, hblock, hnear⟩
    exact released_of_tolerance _ _ _ _ _ _ hbase htolerance hblock hnear

/-! ## The two checks together -/

theorem green_iff_check {intent : Intent} {event : OrderEvent} {variance : PyFloat}
    {check : Except PyErr ShadowDecision}
    (hcheck : CIRCUIT_BREAKER_MAX_VARIANCE.lt variance = false →
      shadow_decision intent variance event = check) :
    Green (shadow_decision intent variance event) ↔
      CIRCUIT_BREAKER_MAX_VARIANCE.lt variance = false ∧ Green check := by
  cases hvariance : CIRCUIT_BREAKER_MAX_VARIANCE.lt variance with
  | false => simp [hcheck hvariance]
  | true =>
    obtain ⟨decision, hverdict, hred⟩ := shadow_decision_variance intent event hvariance
    rw [hverdict]
    simp [Green, hred]

theorem green_delay_iff {event : OrderEvent} {variance : PyFloat}
    (hlines : ¬ event.line_count > MASS_UPDATE_LINE_COUNT_THRESHOLD) :
    Green (shadow_decision .DELIVERY_DELAY variance event) ↔
      CIRCUIT_BREAKER_MAX_VARIANCE.lt variance = false ∧ DelayReportedSmall event := by
  rw [← shadow_for_delivery_delay_green]
  refine green_iff_check fun hvariance => ?_
  simp [shadow_decision, hvariance, hlines]

theorem green_price_iff {event : OrderEvent} {variance : PyFloat}
    (hlines : ¬ event.line_count > MASS_UPDATE_LINE_COUNT_THRESHOLD) :
    Green (shadow_decision .PRICE_HOLD_RELEASE variance event) ↔
      CIRCUIT_BREAKER_MAX_VARIANCE.lt variance = false ∧ PriceNear event := by
  rw [← shadow_for_price_hold_green]
  refine green_iff_check fun hvariance => ?_
  simp [shadow_decision, hvariance, hlines]

theorem few_lines_of_intent (event : OrderEvent)
    (h : (classify_intent event).intent ≠ .MASS_PRICING_ERROR) :
    ¬ event.line_count > MASS_UPDATE_LINE_COUNT_THRESHOLD := by
  intro hlines
  simp [classify_intent, hlines] at h

/-- A GREEN delay is on time in the recipe just when its dates are as close
as its reported days, and a GREEN price hold is released just when the
prices are within the tolerance of the event as well. -/
theorem green_verdict_is_kept_iff (from_iso : FromIso) (state : GraphState)
    (hintent : state.intent = (classify_intent state.event).intent)
    (hselected : state.selected_recipe = propose_recipe state.intent)
    {checked : GraphState} {invocation : RecipeInvocation}
    (hchecked : validate_types state = .ok checked)
    (hinvocation : checked.invocation = some invocation) :
    let verdict := shadow_decision state.intent state.batch_total_variance state.event
    let run := registered_recipe from_iso invocation.recipe_name invocation.params
    let small := CIRCUIT_BREAKER_MAX_VARIANCE.lt state.batch_total_variance = false
    (state.intent = .DELIVERY_DELAY →
      ((Green verdict → ∃ outputs, run = .ok outputs ∧
          dict.get outputs "classification" = some (.str "ON_TIME")) ↔
        (small ∧ DelayReportedSmall state.event → DatesClose from_iso state.event))) ∧
    (state.intent = .PRICE_HOLD_RELEASE →
      dict.get invocation.params "hold_status" = some (.str "HELD") →
      ((Green verdict → ∃ outputs, run = .ok outputs ∧
          dict.get outputs "status" = some (.str "RELEASED")) ↔
        (small ∧ PriceNear state.event → WithinTolerance state.event))) := by
  dsimp only
  constructor
  · intro hdelay
    have hlines := few_lines_of_intent state.event (by rw [← hintent, hdelay]; decide)
    rw [hdelay] at hselected ⊢
    obtain ⟨hname, hparams⟩ :=
      validate_types_invocation hselected (by simp) hchecked hinvocation
    have hparams : delivery_delay_params state.event = invocation.params := by
      simpa [invocation_params] using hparams
    rw [hname, ← hparams, green_delay_iff hlines, delay_on_time_iff]
  · intro hprice hheld
    have hlines := few_lines_of_intent state.event (by rw [← hintent, hprice]; decide)
    rw [hprice] at hselected ⊢
    rw [green_price_iff hlines]
    by_cases hbase : state.event.sap_base_price.le (.fin 0) = true
    · simp [PriceNear, hbase]
    · obtain ⟨hname, hparams⟩ :=
        validate_types_invocation hselected (by simp [hbase]) hchecked hinvocation
      have hparams : price_hold_params state = invocation.params := by
        simpa [invocation_params] using hparams
      rw [hname, ← hparams, price_hold_released_iff from_iso state (by simpa using hbase)
        (by rw [hparams]; exact hheld)]

/-- Two days of a spring, ten days apart. -/
def aprilDates : FromIso := fun s =>
  if s = "2026-04-20" then .ok (20563 * 86400000000)
  else if s = "2026-04-30" then .ok (20573 * 86400000000)
  else .error ⟨"ValueError", "Invalid isoformat string: " ++ py.reprStr s⟩

/-- An event that reports no delay. -/
def reportedPunctual (projected_eta : String) : OrderEvent :=
  { order_id := "4711", event_type := "DELIVERY_DELAY", po_price := .fin 10,
    sap_base_price := .fin 10,
    metadata := [("days_late", .int 0), ("planned_date", .str "2026-04-20"),
      ("projected_eta", .str projected_eta)] }

/-- A price one percent over the base, with a tolerance of half of it. -/
def narrowTolerance : OrderEvent :=
  { order_id := "4711", event_type := "EDI_850_PRICE_HOLD", po_price := .fin 101,
    sap_base_price := .fin 100,
    metadata := [("tolerance_pct", .float (lit (5 / 1000)))] }

theorem green_verdict_is_kept_iff_punctual :
    ∃ checked,
      validate_types (selectedState (reportedPunctual "2026-04-20") (.fin 0)) = .ok checked ∧
      ∃ invocation ∈ checked.invocation, ∃ outputs,
        registered_recipe aprilDates invocation.recipe_name invocation.params = .ok outputs ∧
        dict.get outputs "classification" = some (.str "ON_TIME") := by
  obtain ⟨checked, hchecked, invocation, hinvocation, -⟩ : ∃ checked,
      validate_types (selectedState (reportedPunctual "2026-04-20") (.fin 0)) = .ok checked ∧
      ∃ invocation ∈ checked.invocation, invocation = invocation := by
    decide +kernel
  refine ⟨checked, hchecked, invocation, hinvocation, ?_⟩
  have hkept := (green_verdict_is_kept_iff aprilDates
    (selectedState (reportedPunctual "2026-04-20") (.fin 0)) (by decide +kernel)
    (by decide +kernel) hchecked hinvocation).1 (by decide +kernel)
  refine hkept.mpr (fun _ => ?_) ?_
  · exact ⟨20563 * 86400000000, 20563 * 86400000000, by decide +kernel, by decide +kernel,
      by decide⟩
  · change ∃ decision, _ ∧ _
    decide +kernel

/-- A GREEN verdict on the reported days while the dates are ten days apart,
and one on a price that the tolerance of its event sends to a review. -/
theorem green_verdicts_can_be_lost :
    (∃ checked,
      validate_types (selectedState (reportedPunctual "2026-04-30") (.fin 0)) = .ok checked ∧
      ∃ invocation ∈ checked.invocation,
        (∃ outputs, registered_recipe aprilDates invocation.recipe_name invocation.params =
          .ok outputs ∧ dict.get outputs "classification" = some (.str "SEVERE_DELAY") ∧
          dict.get outputs "status" = some (.str "ESCALATE")) ∧
        ∃ decision, shadow_decision .DELIVERY_DELAY (.fin 0) (reportedPunctual "2026-04-30") =
          .ok decision ∧ decision.status = .GREEN) ∧
    ∃ checked, validate_types (selectedState narrowTolerance (.fin 0)) = .ok checked ∧
      ∃ invocation ∈ checked.invocation,
        dict.get invocation.params "hold_status" = some (.str "HELD") ∧
        (∃ outputs, registered_recipe aprilDates invocation.recipe_name invocation.params =
          .ok outputs ∧ dict.get outputs "status" = some (.str "REVIEW_REQUIRED")) ∧
        ∃ decision, shadow_decision .PRICE_HOLD_RELEASE (.fin 0) narrowTolerance =
          .ok decision ∧ decision.status = .GREEN := by
  decide +kernel

end asoe
