-- The table of the recipes that a run without a direction may call, and what
-- the outcome of each of them says when it asks for a human.
import Asoe.MatchRecipes
import Asoe.PriceRecipes
import Asoe.QuantityRecipes
import Asoe.Lib.Prog

namespace asoe

open py prog

/-- `spec.func(**params)` for the recipes that the executor does not call
by itself. -/
def registered_recipe (from_iso : FromIso) (name : RecipeName) (params : PyDict) :
    Except PyErr PyDict := do
  let param (key : String) := PyVal.ofOption (dict.get params key)
  let default (key : String) (v : PyVal) := (dict.get params key).getD v
  match name with
  | .PriceAdjustmentRecipe =>
    bindArguments "execute_price_correction"
      ["order_id", "line_item", "requested_price", "erp_context"] [] params
    execute_price_correction (param "order_id") (param "line_item") (param "requested_price")
      (param "erp_context")
  | .CreditHoldReleaseRecipe =>
    bindArguments "release_credit_hold"
      ["order_id", "requester_role", "credit_limit", "current_exposure"]
      ["authorized_roles", "exposure_tolerance"] params
    release_credit_hold (param "order_id") (param "requester_role") (param "credit_limit")
      (param "current_exposure") (default "authorized_roles" (.list []))
      (default "exposure_tolerance" (.float (.fin 0)))
  | .DuplicatePORecipe =>
    bindArguments "detect_duplicate_po" ["incoming_po_number", "customer_id", "signal_scores"]
      ["threshold_auto_block", "threshold_review_required", "threshold_soft_flag",
        "original_fulfilled", "has_revision_indicator", "line_items_identical", "autonomy_levels",
        "weights"] params
    detect_duplicate_po (param "incoming_po_number") (param "customer_id") (param "signal_scores")
      (default "threshold_auto_block" (.float (lit (90 / 100))))
      (default "threshold_review_required" (.float (lit (70 / 100))))
      (default "threshold_soft_flag" (.float (lit (50 / 100)))) (param "original_fulfilled")
      (param "has_revision_indicator") (param "line_items_identical") (param "autonomy_levels")
      (param "weights")
  | .PriceHoldReleaseRecipe =>
    bindArguments "execute_price_hold_release"
      ["order_id", "line_item", "po_price", "sap_base_price", "tolerance_pct", "hard_block_pct",
        "hold_status"] ["requester_role"] params
    execute_price_hold_release (param "order_id") (param "line_item") (param "po_price")
      (param "sap_base_price") (param "tolerance_pct") (param "hard_block_pct")
      (param "hold_status") (param "requester_role")
  | .EdiMismatchRecipe =>
    bindArguments "detect_edi_mismatch"
      ["order_id", "sub_type", "expected_value", "received_value", "autonomy_levels"] [] params
    detect_edi_mismatch (param "order_id") (param "sub_type") (param "expected_value")
      (param "received_value") (param "autonomy_levels")
  | .BackOrderResolutionRecipe =>
    bindArguments "resolve_back_order"
      ["order_id", "sku", "ordered_qty", "available_qty", "unit_price", "uom", "severe_gap_pct"]
      ["alternate_warehouses", "substitutes"] params
    resolve_back_order (param "order_id") (param "sku") (param "ordered_qty")
      (param "available_qty") (param "unit_price") (param "uom") (param "severe_gap_pct")
      (param "alternate_warehouses") (param "substitutes")
  | .OverMaxTrimRecipe =>
    bindArguments "trim_over_max" ["order_id", "total_ordered", "max_qty", "severe_exceedance_pct"]
      ["order_lines", "unit_cost_per_line"] params
    trim_over_max (param "order_id") (param "total_ordered") (param "max_qty")
      (param "severe_exceedance_pct") (param "order_lines") (param "unit_cost_per_line")
  | .MOQRoundUpRecipe =>
    bindArguments "round_up_moq"
      ["order_id", "sku", "ordered_qty", "moq_qty", "unit_cost", "uom", "severe_shortfall_pct",
        "uplift_review_pct"] [] params
    round_up_moq (param "order_id") (param "sku") (param "ordered_qty") (param "moq_qty")
      (param "unit_cost") (param "uom") (param "severe_shortfall_pct") (param "uplift_review_pct")
  | .PalletAlignmentRecipe =>
    bindArguments "align_pallets" ["order_id", "lines", "min_fill_pct", "broken_layer_fill_pct"] []
      params
    align_pallets (param "order_id") (param "lines") (param "min_fill_pct")
      (param "broken_layer_fill_pct")
  | .DeliveryDelayResolutionRecipe =>
    bindArguments "resolve_delivery_delay"
      ["order_id", "planned_date", "projected_eta", "minor_days", "severe_days"]
      ["carrier", "route", "delay_category", "alternate_options"] params
    resolve_delivery_delay from_iso (param "order_id") (param "planned_date")
      (param "projected_eta") (param "minor_days") (param "severe_days") (param "carrier")
      (param "route") (param "delay_category") (param "alternate_options")
  | .ManualOrderIntakeRecipe | .EmailOrderEntryRecipe =>
    bindArguments "classify_manual_order_intake"
      ["order_id", "customer_id", "composite_confidence", "validation_failures",
        "non_disableable_floor", "autonomy_levels"]
      ["threshold_auto_approve", "threshold_review_band_low", "threshold_auto_correct",
        "reject_reason_code"] params
    classify_manual_order_intake (param "order_id") (param "customer_id")
      (param "composite_confidence") (param "validation_failures") (param "non_disableable_floor")
      (param "autonomy_levels") (default "threshold_auto_approve" (.float (lit (95 / 100))))
      (default "threshold_review_band_low" (.float (lit (85 / 100))))
      (default "threshold_auto_correct" (.float (lit (99 / 100)))) (param "reject_reason_code")
  | .SubmitToErpRecipe | .ReplyDraftRecipe => throw ⟨"KeyError", "Unknown recipe: " ++ name.value⟩

/-! ## Outcomes that ask for a human -/

/-- The outcome asks for a human, by its status or by its action. -/
def AsksForHuman (outputs : PyDict) : Prop :=
  dict.get outputs "status" = some (.str "ESCALATE") ∨
    dict.get outputs "recommended_action" = some (.str "ESCALATE")

/-- An outcome that asks for a human does so with the status ESCALATE and
no autonomy level, if the finding is severe, and as a review otherwise. -/
def Escalates (severe : Prop) (outputs : PyDict) : Prop :=
  AsksForHuman outputs →
    (severe ∧ dict.get outputs "status" = some (.str "ESCALATE") ∧
      dict.get outputs "autonomy_level" = none) ∨
    (¬ severe ∧ dict.get outputs "status" = some (.str "REVIEW_REQUIRED"))

theorem escalates_of_silent {severe : Prop} {outputs : PyDict}
    (hstatus : dict.get outputs "status" ≠ some (.str "ESCALATE"))
    (haction : dict.get outputs "recommended_action" ≠ some (.str "ESCALATE")) :
    Escalates severe outputs := by
  rintro (h | h)
  · exact absurd h hstatus
  · exact absurd h haction

theorem returns_silent {severe : Prop} {outputs : PyDict}
    (hstatus : dict.get outputs "status" ≠ some (.str "ESCALATE"))
    (haction : dict.get outputs "recommended_action" ≠ some (.str "ESCALATE")) :
    returns (pure outputs : Except PyErr PyDict) (Escalates severe) :=
  (returns_pure _).mpr (escalates_of_silent hstatus haction)

section outcomes

variable (order_id customer_id line_item sku uom : PyVal)

theorem execute_price_correction_escalates (requested_price erp_context : PyVal) :
    returns (execute_price_correction order_id line_item requested_price erp_context)
      (Escalates False) := by
  unfold execute_price_correction
  refine returns_bind fun _ _ => returns_bind fun _ _ => returns_bind fun _ _ => ?_
  refine returns_bind fun _ _ => returns_bind fun _ _ => returns_bind fun _ _ => ?_
  refine returns_ite (fun _ => ?_) fun _ => ?_
  · refine returns_bind fun _ _ => returns_bind fun _ _ => (returns_pure _).mpr ?_
    exact escalates_of_silent (by simp [dict.get_cons]) (by simp [dict.get_cons])
  · exact returns_silent (by simp [dict.get_cons]) (by simp [dict.get_cons])

theorem release_credit_hold_escalates (requester_role credit_limit current_exposure
    authorized_roles exposure_tolerance : PyVal) :
    returns (release_credit_hold order_id requester_role credit_limit current_exposure
      authorized_roles exposure_tolerance) (Escalates False) := by
  unfold release_credit_hold
  refine returns_bind fun _ _ => returns_ite (fun _ => ?_) fun _ => ?_
  · exact returns_silent (by simp [dict.get_cons]) (by simp [dict.get_cons])
  refine returns_bind fun _ _ => returns_bind fun _ _ => returns_ite (fun _ => ?_) fun _ => ?_
  · refine returns_bind fun _ _ => (returns_pure _).mpr ?_
    exact escalates_of_silent (by simp [dict.get_cons]) (by simp [dict.get_cons])
  · exact returns_silent (by simp [dict.get_cons]) (by simp [dict.get_cons])

theorem execute_price_hold_release_escalates (po_price sap_base_price tolerance_pct hard_block_pct
    hold_status requester_role : PyVal) :
    returns (execute_price_hold_release order_id line_item po_price sap_base_price tolerance_pct
      hard_block_pct hold_status requester_role) (Escalates False) := by
  unfold execute_price_hold_release
  refine returns_bind fun _ _ => returns_ite (fun _ => returns_error _) fun _ => ?_
  refine returns_ite (fun _ => ?_) fun _ => ?_
  · exact returns_silent (by simp [dict.get_cons]) (by simp [dict.get_cons])
  refine returns_bind fun _ _ => returns_bind fun _ _ => ?_
  refine returns_bind fun decision _ => returns_bind fun _ _ => (returns_pure _).mpr ?_
  refine escalates_of_silent ?_ (by simp [dict.get_cons])
  rcases decision with ⟨action, _⟩
  cases action <;> simp [dict.get_cons, PriceHoldAction.status]

theorem resolve_action_escalate {classification : DuplicateClass} {fulfilled revision same : PyVal}
    (h : resolve_action classification fulfilled revision same = .ESCALATE) :
    classification = .REVIEW_REQUIRED := by
  unfold resolve_action at h
  cases classification
  case REVIEW_REQUIRED => rfl
  all_goals
    dsimp only at h
    repeat' split at h
    all_goals cases h

theorem detect_duplicate_po_escalates (po_number signal_scores auto_block review_required
    soft_flag fulfilled revision same autonomy_levels weights : PyVal) :
    returns (detect_duplicate_po po_number customer_id signal_scores auto_block review_required
      soft_flag fulfilled revision same autonomy_levels weights) (Escalates False) := by
  unfold detect_duplicate_po
  refine returns_bind fun _ _ => returns_bind fun _ _ => returns_bind fun _ _ => ?_
  refine returns_bind fun classification _ => returns_bind fun _ _ => (returns_pure _).mpr ?_
  rintro (hstatus | haction)
  · cases classification <;> simp [dict.get_cons, DuplicateClass.status] at hstatus
  · right
    rcases hact : resolve_action classification fulfilled revision same with _ | _ | _ | _ | _ <;>
      simp [dict.get_cons, ResolutionAction.value, hact] at haction
    simp [dict.get_cons, resolve_action_escalate hact, DuplicateClass.status]

theorem detect_edi_mismatch_escalates (sub_type expected received autonomy_levels : PyVal) :
    returns (detect_edi_mismatch order_id sub_type expected received autonomy_levels)
      (Escalates False) := by
  unfold detect_edi_mismatch
  refine returns_bind fun found _ => ?_
  rcases found with _ | classification
  · exact returns_silent (by simp [dict.get_cons]) (by simp [dict.get_cons])
  · refine returns_bind fun _ _ => (returns_pure _).mpr ?_
    cases classification
    case ESCALATE => exact fun _ => Or.inr ⟨id, by simp [dict.get_cons, STATUS_BY_CLASSIFICATION]⟩
    all_goals
      refine escalates_of_silent ?_ ?_ <;>
        simp [dict.get_cons, STATUS_BY_CLASSIFICATION, ACTION_BY_CLASSIFICATION,
          ResolutionAction.value]

/-- The action of a standard review goes with its class, and no class
escalates by itself. -/
def Proper (decision : IntakeClass × ResolutionAction) : Prop :=
  decision.2 ≠ .ESCALATE ∧ (decision.2 = .STANDARD_REVIEW → decision.1 = .STANDARD_REVIEW)

theorem intake_decision_proper (confidence : PyVal) (failures : List PyVal)
    (t : IntakeThresholds) : returns (intake_decision confidence failures t) Proper := by
  have hlow : returns (do
      if ← confidence.compare .ge t.review_band_low then
        return (IntakeClass.STANDARD_REVIEW, ResolutionAction.STANDARD_REVIEW)
      return (IntakeClass.LOW_CONFIDENCE, ResolutionAction.LOW_CONFIDENCE_FLAG)) Proper := by
    refine returns_bind fun _ _ => returns_ite (fun _ => ?_) fun _ => ?_
    · exact (returns_pure _).mpr ⟨by decide, fun _ => rfl⟩
    · exact (returns_pure _).mpr ⟨by decide, by decide⟩
  have hhigh : returns (do
      if ← confidence.compare .ge t.auto_approve then
        if failures.isEmpty then
          return (IntakeClass.ONE_CLICK_APPROVE, ResolutionAction.ONE_CLICK_APPROVE)
      if ← confidence.compare .ge t.review_band_low then
        return (IntakeClass.STANDARD_REVIEW, ResolutionAction.STANDARD_REVIEW)
      return (IntakeClass.LOW_CONFIDENCE, ResolutionAction.LOW_CONFIDENCE_FLAG)) Proper := by
    refine returns_bind fun _ _ => returns_ite (fun _ => returns_ite (fun _ => ?_) fun _ => hlow)
      fun _ => hlow
    exact (returns_pure _).mpr ⟨by decide, by decide⟩
  unfold intake_decision
  refine returns_bind fun _ _ => returns_ite (fun _ => ?_) fun _ => ?_
  · exact (returns_pure _).mpr ⟨by decide, by decide⟩
  refine returns_bind fun _ _ => returns_ite (fun _ => returns_ite (fun _ => ?_) fun _ => hhigh)
    fun _ => hhigh
  refine returns_bind fun _ _ => returns_ite (fun _ => ?_) fun _ => hhigh
  exact (returns_pure _).mpr ⟨by decide, fun _ => rfl⟩

theorem intake_classification_proper (confidence : PyVal) (breaches : List String)
    (failures : List PyVal) (t : IntakeThresholds) (code : PyVal) :
    returns (intake_classification confidence breaches failures t code) fun d =>
      Proper (d.1, d.2.1) := by
  have hreject : Proper (.FATAL_REJECT, .REJECT) := ⟨by decide, by decide⟩
  unfold intake_classification
  refine returns_ite (fun _ => (returns_ok _).mpr hreject) fun _ => ?_
  rcases breaches with _ | ⟨key, _⟩
  · refine returns_bind fun d hd => (returns_pure _).mpr ?_
    exact intake_decision_proper confidence failures t d hd
  · exact (returns_ok _).mpr hreject

theorem escalate_review_spec (action : ResolutionAction) (failures : List PyVal) :
    returns (escalate_review action failures) fun action' =>
      action' = action ∨ action = .STANDARD_REVIEW := by
  unfold escalate_review
  refine returns_ite (fun h => ?_) fun _ => (returns_pure _).mpr (Or.inl rfl)
  have hreview : action = .STANDARD_REVIEW := by
    simp only [Bool.and_eq_true, decide_eq_true_eq] at h
    exact h.1
  refine returns_bind fun _ _ => returns_ite (fun _ => ?_) fun _ => ?_
  · exact (returns_pure _).mpr (Or.inr hreview)
  · exact (returns_pure _).mpr (Or.inl rfl)

theorem classify_manual_order_intake_escalates (composite_confidence failures floor
    autonomy_levels auto_approve review_band_low auto_correct code : PyVal) :
    returns (classify_manual_order_intake order_id customer_id composite_confidence failures floor
      autonomy_levels auto_approve review_band_low auto_correct code) (Escalates False) := by
  unfold classify_manual_order_intake
  refine returns_bind fun _ _ => returns_bind fun _ _ => returns_bind fun _ _ => ?_
  refine returns_bind fun decision hdecision => ?_
  obtain ⟨classification, action, resolved⟩ := decision
  have hproper := intake_classification_proper _ _ _ _ _ _ hdecision
  refine returns_bind fun action' haction => returns_bind fun _ _ => (returns_pure _).mpr ?_
  rintro (hstatus | hescalate)
  · cases classification <;> simp [dict.get_cons, DEFAULT_STATUS_BY_CLASSIFICATION] at hstatus
  · right
    have hvalue : action' = .ESCALATE := by
      cases action' <;> simp [dict.get_cons, ResolutionAction.value] at hescalate
      rfl
    have hclass : classification = .STANDARD_REVIEW := by
      rcases escalate_review_spec action _ action' haction with h | h
      · exact absurd (h.symm.trans hvalue) hproper.1
      · exact hproper.2 h
    simp [dict.get_cons, hclass, DEFAULT_STATUS_BY_CLASSIFICATION]

theorem resolve_back_order_escalates (ordered available unit_price severe_gap warehouses
    substitutes : PyVal) :
    returns (resolve_back_order order_id sku ordered available unit_price uom severe_gap
      warehouses substitutes) (Escalates True) := by
  unfold resolve_back_order
  refine returns_bind fun _ _ => returns_ite (fun _ => ?_) fun _ => ?_
  · exact returns_silent (by simp [dict.get_cons]) (by simp [dict.get_cons])
  refine returns_bind fun _ _ => returns_bind fun _ _ => returns_bind fun _ _ => ?_
  refine returns_bind fun _ _ => returns_bind fun _ _ => returns_ite (fun _ => ?_) fun _ => ?_
  · exact returns_silent (by simp [dict.get_cons]) (by simp [dict.get_cons])
  refine returns_bind fun severe _ => returns_bind fun options _ => returns_bind fun _ _ => ?_
  refine returns_bind fun _ _ => (returns_pure _).mpr ?_
  have hkind : ∀ kind : ResolutionKind, kind.value ≠ "ESCALATE" := by
    intro kind
    cases kind <;> decide
  rcases severe with _ | _
  · exact escalates_of_silent (by simp [dict.get_cons]) (by simp [dict.get_cons, hkind])
  · exact fun _ => Or.inl ⟨trivial, by simp [dict.get_cons], by simp [dict.get_cons]⟩

theorem trim_over_max_escalates (total max_qty severe_exceedance lines costs : PyVal) :
    returns (trim_over_max order_id total max_qty severe_exceedance lines costs)
      (Escalates True) := by
  unfold trim_over_max
  refine returns_bind fun _ _ => returns_ite (fun _ => ?_) fun _ => ?_
  · exact returns_silent (by simp [dict.get_cons]) (by simp [dict.get_cons])
  refine returns_bind fun _ _ => returns_bind fun _ _ => returns_bind fun _ _ => ?_
  refine returns_ite (fun _ => ?_) fun _ => ?_
  · exact returns_silent (by simp [dict.get_cons]) (by simp [dict.get_cons])
  refine returns_bind fun severe _ => returns_bind fun _ _ => returns_bind fun _ _ => ?_
  refine returns_bind fun _ _ => returns_bind fun _ _ => returns_bind fun _ _ => ?_
  refine (returns_pure _).mpr ?_
  rcases severe with _ | _
  · exact escalates_of_silent (by simp [dict.get_cons]) (by simp [dict.get_cons])
  · exact fun _ => Or.inl ⟨trivial, by simp [dict.get_cons], by simp [dict.get_cons]⟩

theorem round_up_moq_escalates (ordered moq unit_cost severe_shortfall uplift : PyVal) :
    returns (round_up_moq order_id sku ordered moq unit_cost uom severe_shortfall uplift)
      (Escalates True) := by
  unfold round_up_moq
  refine returns_bind fun _ _ => returns_ite (fun _ => ?_) fun _ => ?_
  · exact returns_silent (by simp [dict.get_cons]) (by simp [dict.get_cons])
  refine returns_bind fun _ _ => returns_ite (fun _ => ?_) fun _ => ?_
  · exact returns_silent (by simp [dict.get_cons]) (by simp [dict.get_cons])
  refine returns_bind fun _ _ => returns_bind fun _ _ => returns_bind fun _ _ => ?_
  refine returns_bind fun _ _ => returns_bind fun _ _ => returns_bind fun severe _ => ?_
  refine returns_bind fun _ _ => returns_bind fun _ _ => returns_bind fun _ _ => ?_
  refine returns_bind fun _ _ => returns_bind fun _ _ => (returns_pure _).mpr ?_
  rcases severe with _ | _
  · exact escalates_of_silent (by simp [dict.get_cons]) (by simp [dict.get_cons])
  · exact fun _ => Or.inl ⟨trivial, by simp [dict.get_cons], by simp [dict.get_cons]⟩

theorem align_pallets_escalates (lines min_fill broken_layer : PyVal) :
    returns (align_pallets order_id lines min_fill broken_layer) (Escalates False) := by
  unfold align_pallets
  refine returns_ite (fun _ => ?_) fun _ => ?_
  · exact returns_silent (by simp [dict.get_cons]) (by simp [dict.get_cons])
  refine returns_bind fun _ _ => returns_bind fun tally _ => (returns_pure _).mpr ?_
  rcases tally.has_broken || tally.has_partial with _ | _ <;>
    exact escalates_of_silent (by simp [dict.get_cons]) (by simp [dict.get_cons])

/-- The delay is at or over the severe limit. -/
def SevereDelay (from_iso : FromIso) (planned_date projected_eta severe_days : PyVal) : Prop :=
  ∃ days, days_late from_iso planned_date projected_eta = .ok days ∧
    (PyVal.int days).compare .ge severe_days = .ok true

theorem resolve_delivery_delay_escalates (from_iso : FromIso) (planned eta minor severe_days
    carrier route category options : PyVal) :
    returns (resolve_delivery_delay from_iso order_id planned eta minor severe_days carrier route
      category options) (Escalates (SevereDelay from_iso planned eta severe_days)) := by
  unfold resolve_delivery_delay SevereDelay
  rcases days_late from_iso planned eta with exc | days
  · refine returns_ite (fun _ => (returns_ok _).mpr ?_) fun _ => returns_error _
    exact escalates_of_silent (by simp [dict.get_cons]) (by simp [dict.get_cons])
  refine returns_bind fun _ _ => returns_ite (fun _ => ?_) fun _ => ?_
  · exact returns_silent (by simp [dict.get_cons]) (by simp [dict.get_cons])
  refine returns_bind fun severe hsevere => returns_bind fun _ _ => returns_bind fun _ _ => ?_
  refine (returns_pure _).mpr fun _ => ?_
  rcases severe with _ | _
  · right
    simp [dict.get_cons, hsevere]
  · left
    simp [dict.get_cons, hsevere]

end outcomes

end asoe
