-- The floor checks of an order intake, from the gateway responses and the
-- metadata to the status of the recipe.
import Asoe.Graph
import Asoe.RegisteredRecipes
import Asoe.Lib.FloatOrder
import Mathlib.Data.Fintype.Option

namespace asoe

open py prog

/-! ## The two sources of a check -/

/-- The response of the gateway has the flag. -/
def GatewayFlag (state : GraphState) (gw_key flag : String) (v : PyVal) : Prop :=
  ∃ gw, dict.get state.enrichment_context gw_key = some (.dict gw) ∧ dict.get gw flag = some v

def MetadataFlag (state : GraphState) (flag : String) (v : PyVal) : Prop :=
  ∃ floor, metadata_get state.event "non_disableable_floor" = .dict floor ∧
    dict.get floor flag = some v

/-- A check is passed when the flag of the gateway is truthy, or when it has
none and that of the metadata is. -/
def Passes (state : GraphState) (gw_key flag : String) : Prop :=
  (∃ v, GatewayFlag state gw_key flag v ∧ v.truthy = true) ∨
    (∀ v, ¬ GatewayFlag state gw_key flag v) ∧ ∃ v, MetadataFlag state flag v ∧ v.truthy = true

/-- The response that each of the four checks is read from. -/
def FLOOR_SOURCES : List (String × String) :=
  [("sender_auth_context", "sender_authorized"),
    ("customer_resolution_context", "customer_resolved"),
    ("duplicate_po_pre_check_context", "duplicate_po_clear"),
    ("credit_check_context", "credit_clear")]

/-- No reason for a rejection was supplied, and the four checks are passed. -/
def IntakeAdmitted (state : GraphState) : Prop :=
  metadata_get state.event "reject_reason_code" = .none ∧
    ∀ source ∈ FLOOR_SOURCES, Passes state source.1 source.2

/-- The failures that the recipe is given: a value that is no list counts as none. -/
def validation_failures_of (state : GraphState) : List PyVal :=
  match metadata_get state.event "validation_failures" with
  | .list failures => failures
  | _ => []

/-- The run has this confidence, which reaches the threshold of an approval. -/
def Confident (state : GraphState) : Prop :=
  ∃ x, metadata_float state.event "composite_confidence" = .ok x ∧
    EMAIL_ORDER_AUTO_APPROVE_CONFIDENCE.le (clamp_confidence x) = true

/-! ## What the recipe is given -/

def floor_meta_of (state : GraphState) : PyDict :=
  match metadata_get state.event "non_disableable_floor" with
  | .dict d => d
  | _ => []

theorem metadataFlag_iff {state : GraphState} {flag : String} {v : PyVal} :
    MetadataFlag state flag v ↔ dict.get (floor_meta_of state) flag = some v := by
  unfold MetadataFlag floor_meta_of
  constructor
  · rintro ⟨floor, hfloor, hflag⟩
    rw [hfloor]
    exact hflag
  · intro h
    split at h
    · rename_i floor hfloor
      exact ⟨floor, hfloor, h⟩
    · cases h

theorem gatewayFlag_unique {state : GraphState} {gw_key flag : String} {v w : PyVal}
    (hv : GatewayFlag state gw_key flag v) (hw : GatewayFlag state gw_key flag w) : v = w := by
  obtain ⟨gw, hgw, hflag⟩ := hv
  obtain ⟨gw', hgw', hflag'⟩ := hw
  rw [hgw] at hgw'
  cases hgw'
  exact Option.some.inj (hflag.symm.trans hflag')

/-- A check gives one flag, or none. -/
def flag_given (flag : String) (given : Option Bool) : PyDict :=
  given.toList.map fun b => (flag, .bool b)

theorem floor_check_cases (state : GraphState) (gw_key flag : String) :
    ∃ given : Option Bool,
      floor_check state.enrichment_context (floor_meta_of state) gw_key flag =
        flag_given flag given ∧
      (given = some true ↔ Passes state gw_key flag) := by
  -- without an answer of the gateway the check reads the metadata
  have hmeta : ∃ given : Option Bool,
      floor_check [] (floor_meta_of state) gw_key flag = flag_given flag given ∧
      (given = some true ↔ ∃ v, MetadataFlag state flag v ∧ v.truthy = true) := by
    unfold floor_check
    simp only [metadataFlag_iff]
    cases hflag : dict.get (floor_meta_of state) flag with
    | none => exact ⟨none, rfl, by simp⟩
    | some v => exact ⟨some v.truthy, rfl, by simp⟩
  obtain ⟨given, hgiven, hpasses⟩ := hmeta
  have hsilent : (∀ v, ¬ GatewayFlag state gw_key flag v) →
      (given = some true ↔ Passes state gw_key flag) := by
    intro hnone
    rw [hpasses]
    unfold Passes
    constructor
    · exact fun h => Or.inr ⟨hnone, h⟩
    · rintro (⟨v, hv, -⟩ | ⟨-, h⟩)
      · exact absurd hv (hnone v)
      · exact h
  unfold floor_check
  dsimp only
  cases hresponse : dict.get state.enrichment_context gw_key with
  | none => exact ⟨given, hgiven, hsilent fun v => by simp [GatewayFlag, hresponse]⟩
  | some response =>
    cases response with
    | dict gw =>
      dsimp only
      cases hflag : dict.get gw flag with
      | none => exact ⟨given, hgiven, hsilent fun v => by simp [GatewayFlag, hresponse, hflag]⟩
      | some v =>
        refine ⟨some v.truthy, rfl, ?_⟩
        have hgateway : ∀ w, GatewayFlag state gw_key flag w ↔ w = v := by
          intro w
          simp [GatewayFlag, hresponse, hflag, eq_comm]
        simp [Passes, hgateway]
    | _ => exact ⟨given, hgiven, hsilent fun v => by simp [GatewayFlag, hresponse]⟩

def floor_of (state : GraphState) : PyDict :=
  floor_check state.enrichment_context (floor_meta_of state) "sender_auth_context"
      "sender_authorized"
    ++ floor_check state.enrichment_context (floor_meta_of state) "customer_resolution_context"
      "customer_resolved"
    ++ floor_check state.enrichment_context (floor_meta_of state) "duplicate_po_pre_check_context"
      "duplicate_po_clear"
    ++ floor_check state.enrichment_context (floor_meta_of state) "credit_check_context"
      "credit_clear"

def floor_breaches_of (floor : PyDict) : List String :=
  FLOOR_KEYS.filter fun key => !((dict.get floor key).getD (.bool false)).truthy

theorem floor_breaches_of_given : ∀ sender customer duplicate credit : Option Bool,
    floor_breaches_of (flag_given "sender_authorized" sender
      ++ flag_given "customer_resolved" customer ++ flag_given "duplicate_po_clear" duplicate
      ++ flag_given "credit_clear" credit) = [] ↔
    sender = some true ∧ customer = some true ∧ duplicate = some true ∧ credit = some true := by
  decide +kernel

theorem floor_breaches_eq_nil_iff (state : GraphState) :
    floor_breaches_of (floor_of state) = [] ↔
      ∀ source ∈ FLOOR_SOURCES, Passes state source.1 source.2 := by
  obtain ⟨sender, hsender, hsender_iff⟩ :=
    floor_check_cases state "sender_auth_context" "sender_authorized"
  obtain ⟨customer, hcustomer, hcustomer_iff⟩ :=
    floor_check_cases state "customer_resolution_context" "customer_resolved"
  obtain ⟨duplicate, hduplicate, hduplicate_iff⟩ :=
    floor_check_cases state "duplicate_po_pre_check_context" "duplicate_po_clear"
  obtain ⟨credit, hcredit, hcredit_iff⟩ :=
    floor_check_cases state "credit_check_context" "credit_clear"
  simp only [FLOOR_SOURCES, List.forall_mem_cons, ← hsender_iff, ← hcustomer_iff,
    ← hduplicate_iff, ← hcredit_iff, List.not_mem_nil, false_imp_iff, implies_true, and_true]
  unfold floor_of
  rw [hsender, hcustomer, hduplicate, hcredit]
  exact floor_breaches_of_given sender customer duplicate credit

/-! ## The decision -/

variable {confidence : PyFloat} {breaches : List String} {failures : List PyVal}
  {action action' action'' : ResolutionAction}

/-- The parts of the thresholds are floats. -/
def FloatThresholds (approve low correct : PyFloat) : IntakeThresholds :=
  ⟨.float approve, .float low, .float correct⟩

/-- The last three branches: an approval, or a review. -/
theorem approval_or_review (approve low : PyFloat) :
    returns (do
        if ← (.ok (approve.le confidence) : Except PyErr Bool) then
          if failures.isEmpty then return (IntakeClass.ONE_CLICK_APPROVE, action)
        if ← (.ok (low.le confidence) : Except PyErr Bool) then
          return (IntakeClass.STANDARD_REVIEW, action')
        return (IntakeClass.LOW_CONFIDENCE, action''))
      fun d : IntakeClass × ResolutionAction => d.1 ≠ .FATAL_REJECT ∧
        (d.1 = .ONE_CLICK_APPROVE → failures = [] ∧ approve.le confidence = true) := by
  have hreview : returns (do
        if ← (.ok (low.le confidence) : Except PyErr Bool) then
          return (IntakeClass.STANDARD_REVIEW, action')
        return (IntakeClass.LOW_CONFIDENCE, action''))
      fun d : IntakeClass × ResolutionAction => d.1 ≠ .FATAL_REJECT ∧
        (d.1 = .ONE_CLICK_APPROVE → failures = [] ∧ approve.le confidence = true) := by
    refine returns_bind fun _ _ => returns_ite (fun _ => ?_) fun _ => ?_
    · exact (returns_pure _).mpr (by simp)
    · exact (returns_pure _).mpr (by simp)
  refine returns_bind fun confident hconfident => returns_ite (fun hyes => ?_) fun _ => hreview
  refine returns_ite (fun hempty => ?_) fun _ => hreview
  refine (returns_pure _).mpr ⟨by simp, fun _ => ⟨List.isEmpty_iff.mp hempty, ?_⟩⟩
  exact (Except.ok.inj hconfident).trans hyes

theorem intake_decision_class (approve low correct : PyFloat) :
    returns (intake_decision (.float confidence) failures (FloatThresholds approve low correct))
      fun d => d.1 ≠ .FATAL_REJECT ∧
        (d.1 = .ONE_CLICK_APPROVE → failures = [] ∧ approve.le confidence = true) := by
  unfold intake_decision
  simp only [FloatThresholds, compare_float, PyVal.CmpOp.holds]
  refine returns_bind fun clarify _ => returns_ite (fun _ => ?_) fun _ => ?_
  · exact (returns_pure _).mpr (by simp)
  refine returns_bind fun correctable _ => returns_ite (fun _ => ?_) fun _ =>
    approval_or_review approve low
  refine returns_ite (fun _ => ?_) fun _ => approval_or_review approve low
  refine returns_bind fun settled _ => returns_ite (fun _ => ?_) fun _ =>
    approval_or_review approve low
  exact (returns_pure _).mpr (by simp)

theorem intake_decision_approves (approve low correct : PyFloat)
    (h : approve.le confidence = true) :
    intake_decision (.float confidence) [] (FloatThresholds approve low correct) =
      .ok (.ONE_CLICK_APPROVE, .ONE_CLICK_APPROVE) := by
  unfold intake_decision
  simp only [FloatThresholds, compare_float, PyVal.CmpOp.holds, has_clarification_failure, h]
  cases correct.le confidence <;> rfl

theorem intake_classification_class (approve low correct : PyFloat) (code : PyVal) :
    returns (intake_classification (.float confidence) breaches failures
        (FloatThresholds approve low correct) code) fun d =>
      (d.1 ≠ .FATAL_REJECT → code = .none ∧ breaches = []) ∧
        (d.1 = .ONE_CLICK_APPROVE → failures = [] ∧ approve.le confidence = true) := by
  unfold intake_classification
  refine returns_ite (fun _ => (returns_ok _).mpr (by simp)) fun hcode => ?_
  cases breaches with
  | cons key rest => exact (returns_ok _).mpr (by simp)
  | nil =>
    refine returns_bind fun decision hdecision => (returns_pure _).mpr ?_
    exact ⟨fun _ => ⟨not_not.mp hcode, rfl⟩,
      (intake_decision_class approve low correct decision hdecision).2⟩

/-! ## The recipe -/

theorem iterate_list_or (xs : List PyVal) : iterate ((PyVal.list xs).or (.list [])) = .ok xs := by
  cases xs <;> rfl

section recipe

variable (order_id customer_id : PyVal) (x approve low correct : PyFloat)
  (floor autonomy_levels : PyDict)

/-- What the status of the recipe says of its parameters. -/
theorem classify_manual_order_intake_status (failures : List PyVal) (code : PyVal) :
    returns (classify_manual_order_intake order_id customer_id (.float x) (.list failures)
        (.dict floor) (.dict autonomy_levels) (.float approve) (.float low) (.float correct) code)
      fun out =>
        (dict.get out "status" ≠ some (.str "REJECTED") →
          code = .none ∧ floor_breaches_of floor = []) ∧
        (dict.get out "status" = some (.str "SUCCESS") →
          failures = [] ∧ approve.le (clamp_confidence x) = true) := by
  unfold classify_manual_order_intake
  refine returns_bind fun raw hraw => returns_bind fun floor' hfloor => ?_
  obtain rfl : x = raw := Except.ok.inj hraw
  obtain rfl : floor = floor' := Except.ok.inj hfloor
  rw [iterate_list_or]
  refine returns_bind fun read hread => returns_bind fun decision hdecision => ?_
  obtain rfl : failures = read := Except.ok.inj hread
  obtain ⟨classification, action, resolved⟩ := decision
  have hclass := intake_classification_class approve low correct code _ hdecision
  refine returns_bind fun action' _ => returns_bind fun level _ => (returns_pure _).mpr ?_
  simp only [dict.get_cons, if_pos, Option.some.injEq, PyVal.str.injEq]
  cases classification <;> simp_all [DEFAULT_STATUS_BY_CLASSIFICATION, floor_breaches_of]

/-- An order that passes every check and is confident enough is a success. -/
theorem classify_manual_order_intake_succeeds (hfloor : floor_breaches_of floor = [])
    (hconfident : approve.le (clamp_confidence x) = true) :
    ∃ out, classify_manual_order_intake order_id customer_id (.float x) (.list []) (.dict floor)
        (.dict autonomy_levels) (.float approve) (.float low) (.float correct) .none = .ok out ∧
      dict.get out "status" = some (.str "SUCCESS") := by
  have hclass : intake_classification (.float (clamp_confidence x)) (floor_breaches_of floor) []
      (FloatThresholds approve low correct) .none =
        .ok (.ONE_CLICK_APPROVE, .ONE_CLICK_APPROVE, .none) := by
    unfold intake_classification
    rw [if_neg (by simp), hfloor]
    dsimp only
    rw [intake_decision_approves approve low correct hconfident]
    rfl
  unfold floor_breaches_of FloatThresholds at hclass
  unfold classify_manual_order_intake
  rw [ok_bind (rfl : (PyVal.float x).toFloat = .ok x),
    ok_bind (rfl : method_of "get" (.dict floor) = .ok floor), ok_bind (iterate_list_or []),
    ok_bind hclass]
  exact ⟨_, rfl, rfl⟩

end recipe

/-! ## The parameters -/

theorem order_intake_params_returns (state : GraphState) :
    returns (order_intake_params state) fun params =>
      ∃ x, metadata_float state.event "composite_confidence" = .ok x ∧
        ∀ from_iso, registered_recipe from_iso .ManualOrderIntakeRecipe params =
          classify_manual_order_intake (.str state.event.order_id)
            (.str (state.event.retailer_id.getD "")) (.float x)
            (.list (validation_failures_of state)) (.dict (floor_of state))
            (.dict MANUAL_ORDER_INTAKE_AUTONOMY_LEVELS)
            (.float EMAIL_ORDER_AUTO_APPROVE_CONFIDENCE) (.float EMAIL_ORDER_REVIEW_BAND_LOW)
            (.float EMAIL_ORDER_AUTO_CORRECT_CONFIDENCE)
            (metadata_get state.event "reject_reason_code") := by
  refine returns_bind fun x hx => (returns_pure _).mpr ⟨x, hx, fun from_iso => ?_⟩
  rfl

theorem recipe_of_intake (from_iso : FromIso) {name : RecipeName}
    (hname : name = .ManualOrderIntakeRecipe ∨ name = .EmailOrderEntryRecipe) (params : PyDict) :
    recipe_func (registered_recipe from_iso) name params =
      registered_recipe from_iso .ManualOrderIntakeRecipe params := by
  rcases hname with rfl | rfl <;> rfl

/-- `validate_types` hands the parameters of an intake to its recipe. -/
theorem validate_types_intake {state state' : GraphState} {invocation : RecipeInvocation}
    {name : RecipeName} (hselected : state.selected_recipe = some name)
    (hname : name = .ManualOrderIntakeRecipe ∨ name = .EmailOrderEntryRecipe)
    (hvalid : validate_types state = .ok state')
    (hinvocation : state'.invocation = some invocation) :
    invocation.recipe_name = name ∧ order_intake_params state = .ok invocation.params := by
  unfold validate_types at hvalid
  rw [hselected] at hvalid
  dsimp only at hvalid
  rw [if_neg (by rcases hname with rfl | rfl <;> simp)] at hvalid
  have hparams : invocation_params state name = order_intake_params state := by
    rcases hname with rfl | rfl <;> rfl
  rw [hparams] at hvalid
  cases hread : order_intake_params state with
  | error e =>
    rw [hread, error_bind rfl] at hvalid
    cases hvalid
  | ok params =>
    rw [hread, ok_bind rfl] at hvalid
    cases hvalid
    cases hinvocation
    exact ⟨rfl, rfl⟩

/-! ## The floor -/

/-- The recipe of an intake rejects it unless the floor is passed, and it
succeeds just when besides nothing failed and the confidence is high enough. -/
theorem an_intake_is_rejected_unless_every_floor_check_is_passed (from_iso : FromIso)
    (state state' : GraphState) (name : RecipeName) (invocation : RecipeInvocation)
    (hselected : state.selected_recipe = some name)
    (hname : name = .ManualOrderIntakeRecipe ∨ name = .EmailOrderEntryRecipe)
    (hvalid : validate_types state = .ok state')
    (hinvocation : state'.invocation = some invocation) :
    (∀ out, recipe_func (registered_recipe from_iso) invocation.recipe_name invocation.params =
        .ok out → dict.get out "status" ≠ some (.str "REJECTED") → IntakeAdmitted state) ∧
      (∀ source ∈ FLOOR_SOURCES, ∀ v, GatewayFlag state source.1 source.2 v → v.truthy = false →
        ∀ out, recipe_func (registered_recipe from_iso) invocation.recipe_name invocation.params =
          .ok out → dict.get out "status" = some (.str "REJECTED")) ∧
      ((∃ out, recipe_func (registered_recipe from_iso) invocation.recipe_name invocation.params =
          .ok out ∧ dict.get out "status" = some (.str "SUCCESS")) ↔
        IntakeAdmitted state ∧ validation_failures_of state = [] ∧ Confident state) := by
  obtain ⟨hrecipe, hparams⟩ := validate_types_intake hselected hname hvalid hinvocation
  obtain ⟨x, hx, hrun⟩ := order_intake_params_returns state _ hparams
  rw [hrecipe, recipe_of_intake from_iso hname, hrun from_iso]
  have hstatus := classify_manual_order_intake_status (.str state.event.order_id)
    (.str (state.event.retailer_id.getD "")) x EMAIL_ORDER_AUTO_APPROVE_CONFIDENCE
    EMAIL_ORDER_REVIEW_BAND_LOW EMAIL_ORDER_AUTO_CORRECT_CONFIDENCE (floor_of state)
    MANUAL_ORDER_INTAKE_AUTONOMY_LEVELS (validation_failures_of state)
    (metadata_get state.event "reject_reason_code")
  have hconfident : Confident state ↔
      EMAIL_ORDER_AUTO_APPROVE_CONFIDENCE.le (clamp_confidence x) = true := by
    simp [Confident, hx]
  have hadmitted := fun out hout
      (hnot : dict.get out "status" ≠ some (PyVal.str "REJECTED")) =>
    (⟨((hstatus out hout).1 hnot).1,
      (floor_breaches_eq_nil_iff state).mp ((hstatus out hout).1 hnot).2⟩ : IntakeAdmitted state)
  refine ⟨hadmitted, ?_, ?_⟩
  · intro source hsource v hflag hfalsy out hout
    by_contra hnot
    rcases (hadmitted out hout hnot).2 source hsource with ⟨w, hw, htruthy⟩ | ⟨hnone, -⟩
    · rw [gatewayFlag_unique hflag hw, htruthy] at hfalsy
      cases hfalsy
    · exact hnone v hflag
  · constructor
    · rintro ⟨out, hout, hsuccess⟩
      have hnot : dict.get out "status" ≠ some (.str "REJECTED") := by
        rw [hsuccess]
        simp
      obtain ⟨hfailures, hhigh⟩ := (hstatus out hout).2 hsuccess
      exact ⟨hadmitted out hout hnot, hfailures, hconfident.mpr hhigh⟩
    · rintro ⟨⟨hcode, hpasses⟩, hfailures, hhigh⟩
      rw [hcode, hfailures]
      exact classify_manual_order_intake_succeeds _ _ x _ _ _ (floor_of state) _
        ((floor_breaches_eq_nil_iff state).mpr hpasses) (hconfident.mp hhigh)

/-- Three gateways answered, and the metadata has the flag of the fourth. -/
def intakeState : GraphState where
  event := { order_id := "4711", event_type := "MANUAL_ORDER_INTAKE", po_price := .fin 10,
             sap_base_price := .fin 10
             metadata := [("composite_confidence", .float (.fin 1)),
               ("non_disableable_floor", .dict [("credit_clear", .bool true)])] }
  selected_recipe := some .ManualOrderIntakeRecipe
  enrichment_context :=
    [("sender_auth_context", .dict [("sender_authorized", .bool true)]),
      ("customer_resolution_context", .dict [("customer_resolved", .bool true)]),
      ("duplicate_po_pre_check_context", .dict [("duplicate_po_clear", .bool true)])]

def intakeInvocation : RecipeInvocation where
  recipe_name := .ManualOrderIntakeRecipe
  params :=
    match order_intake_params intakeState with
    | .ok params => params
    | .error _ => []

theorem intakeState_admitted : IntakeAdmitted intakeState := by
  refine ⟨by decide +kernel, fun source hsource => ?_⟩
  simp only [FLOOR_SOURCES, List.mem_cons, List.not_mem_nil, or_false] at hsource
  rcases hsource with rfl | rfl | rfl | rfl
  · exact Or.inl ⟨.bool true, ⟨_, rfl, rfl⟩, rfl⟩
  · exact Or.inl ⟨.bool true, ⟨_, rfl, rfl⟩, rfl⟩
  · exact Or.inl ⟨.bool true, ⟨_, rfl, rfl⟩, rfl⟩
  · refine Or.inr ⟨?_, .bool true, ⟨_, rfl, rfl⟩, rfl⟩
    rintro v ⟨gw, hgw, -⟩
    cases hgw

theorem an_intake_with_a_flag_from_the_metadata_succeeds :
    ∃ out, recipe_func (registered_recipe fun _ => .ok 0) intakeInvocation.recipe_name
        intakeInvocation.params = .ok out ∧ dict.get out "status" = some (.str "SUCCESS") :=
  (an_intake_is_rejected_unless_every_floor_check_is_passed (fun _ => .ok 0) intakeState
    (record { intakeState with invocation := some intakeInvocation } .validate_types "ok")
    .ManualOrderIntakeRecipe intakeInvocation rfl (Or.inl rfl) (by decide +kernel) rfl).2.2.mpr
    ⟨intakeState_admitted, by decide +kernel, ⟨.fin 1, by decide +kernel, by decide +kernel⟩⟩

end asoe
