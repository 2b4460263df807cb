-- The outcome of a recipe and the terminal status of its run: how the status
-- and the autonomy level of the outcome are routed, and whether an outcome
-- that asks for a human gets one.
import Asoe.RegisteredRecipes
import Asoe.ReplyDraft

namespace asoe

open py prog

/-! ## Routing -/

/-- The terminal status that `execute_recipe` routes an outcome to. -/
def routed_status (state : GraphState) (human : Bool) (outputs : PyDict) : TerminalStatus :=
  let status := if human then .MANUAL_REVIEW_REQUIRED else (status_of_recipe outputs).1
  if status = .COMPLETE ∧ state.intent = .MANUAL_ORDER_INTAKE
      ∧ state.selected_recipe = some .ManualOrderIntakeRecipe then .MANUAL_REVIEW_REQUIRED
  else status

/-- What the recipe says of its own autonomy. -/
def autonomy_level (outputs : PyDict) : PyVal := .ofOption (dict.get outputs "autonomy_level")

theorem gate_intake_status (s : GraphState) (st : TerminalStatus) (h : s.final_status = some st) :
    (gate_intake s).final_status =
      some (if st = .COMPLETE ∧ s.intent = .MANUAL_ORDER_INTAKE
        ∧ s.selected_recipe = some .ManualOrderIntakeRecipe then .MANUAL_REVIEW_REQUIRED
      else st) := by
  unfold gate_intake
  simp only [h, Option.some.injEq]
  split <;> simp_all

theorem status_of_recipe_set (outputs : PyDict) (v : PyVal) :
    status_of_recipe (dict.set outputs "autonomy_vocab_version" v) = status_of_recipe outputs := by
  have hstatus : dict.get (dict.set outputs "autonomy_vocab_version" v) "status" =
      dict.get outputs "status" := dict.get_set_of_ne _ _ (by decide)
  have hreason : dict.get (dict.set outputs "autonomy_vocab_version" v) "reason" =
      dict.get outputs "reason" := dict.get_set_of_ne _ _ (by decide)
  unfold status_of_recipe
  rw [hstatus, hreason]

theorem route_outputs_status (state : GraphState) {log : ExecutionLog} {human : Bool}
    (h : requires_human (autonomy_level log.outputs) = .ok human) :
    ∃ s, route_outputs state log = .ok s ∧
      s.final_status = some (routed_status state human log.outputs) := by
  have hversion : ∀ b : Bool, status_of_recipe (if b = true then { log with
      outputs := dict.set log.outputs "autonomy_vocab_version" (.str "v2") } else log).outputs =
      status_of_recipe log.outputs := by
    intro b
    cases b
    · rfl
    · exact status_of_recipe_set log.outputs (.str "v2")
  unfold route_outputs
  dsimp only
  cases human
  · refine ⟨_, ok_bind h _, ?_⟩
    rw [gate_intake_status _ _ rfl, hversion]
    rfl
  · refine ⟨_, ok_bind h _, ?_⟩
    rw [gate_intake_status _ _ rfl]
    rfl

theorem route_outputs_returns {state : GraphState} {log : ExecutionLog} :
    returns (route_outputs state log) fun s => ∃ human,
      s.final_status = some (routed_status state human log.outputs) := by
  intro s hs
  rcases hhuman : requires_human (autonomy_level log.outputs) with e | human
  · have hraise : route_outputs state log = .error e := error_bind hhuman _
    rw [hraise] at hs
    cases hs
  · obtain ⟨s', hs', hstatus⟩ := route_outputs_status state hhuman
    cases hs.symm.trans hs'
    exact ⟨human, hstatus⟩

theorem execute_recipe_routes {env : RunEnv} {p : GraphState} {name : RecipeName}
    {params outputs : PyDict} (hinv : p.invocation = some ⟨name, params⟩)
    (hrequired : missing_params (get_recipe name) params = [])
    (hfunc : recipe_func env.other_recipes name params = .ok outputs) :
    ∃ log : ExecutionLog, log.outputs = outputs ∧ execute_recipe env p = (do
      let s ← route_outputs p log
      return record_plain s .execute_recipe) := by
  unfold execute_recipe run_recipe
  simp only [hinv, hrequired, hfunc, List.isEmpty_nil, Bool.not_true, Bool.false_eq_true, if_false]
  exact ⟨_, rfl, rfl⟩

theorem execute_recipe_status {env : RunEnv} {p : GraphState} {name : RecipeName}
    {params outputs : PyDict} {human : Bool} (hinv : p.invocation = some ⟨name, params⟩)
    (hrequired : missing_params (get_recipe name) params = [])
    (hfunc : recipe_func env.other_recipes name params = .ok outputs)
    (hhuman : requires_human (autonomy_level outputs) = .ok human) :
    ∃ s, execute_recipe env p = .ok s ∧
      s.final_status = some (routed_status p human outputs) := by
  obtain ⟨log, hlog, hexec⟩ := execute_recipe_routes hinv hrequired hfunc
  subst hlog
  obtain ⟨s, hs, hstatus⟩ := route_outputs_status p hhuman
  rw [hexec, ok_bind hs]
  exact ⟨_, rfl, hstatus⟩

theorem execute_recipe_returns {env : RunEnv} {p : GraphState} {name : RecipeName}
    {params outputs : PyDict} (hinv : p.invocation = some ⟨name, params⟩)
    (hrequired : missing_params (get_recipe name) params = [])
    (hfunc : recipe_func env.other_recipes name params = .ok outputs) :
    returns (execute_recipe env p) fun s => ∃ human,
      s.final_status = some (routed_status p human outputs) := by
  obtain ⟨log, rfl, hexec⟩ := execute_recipe_routes hinv hrequired hfunc
  rw [hexec]
  exact returns_bind fun s hs => (returns_pure _).mpr (route_outputs_returns s hs)

theorem execute_recipe_cases (env : RunEnv) (p : GraphState) (name : RecipeName) (params : PyDict)
    (hinv : p.invocation = some ⟨name, params⟩) :
    returns (execute_recipe env p) fun t => t.final_status = some .FAIL_TO_HUMAN ∨
      ∃ human outputs, recipe_func env.other_recipes name params = .ok outputs ∧
        t.final_status = some (routed_status p human outputs) := by
  unfold execute_recipe
  simp only [hinv]
  rcases run_recipe_outputs env.other_recipes name params
      ((p.shadow.map (·.trace_id)).getD env.shadow_trace_id) p.intent
      ((p.shadow.map (·.policy_hits)).getD []) with ⟨herr, -, -⟩ | ⟨herr, hfunc⟩
  · rw [if_pos (by simpa using herr)]
    exact (returns_pure _).mpr (Or.inl rfl)
  · rw [if_neg (by simp [herr])]
    refine returns_bind fun s hs => (returns_pure _).mpr (Or.inr ?_)
    obtain ⟨human, hstatus⟩ := route_outputs_returns s hs
    exact ⟨human, _, hfunc, hstatus⟩

/-! ## The table -/

/-- The finding that a recipe reports with the status ESCALATE. -/
def Severe (from_iso : FromIso) (name : RecipeName) (params : PyDict) : Prop :=
  let param (key : String) := PyVal.ofOption (dict.get params key)
  match name with
  | .BackOrderResolutionRecipe | .OverMaxTrimRecipe | .MOQRoundUpRecipe => True
  | .DeliveryDelayResolutionRecipe =>
    SevereDelay from_iso (param "planned_date") (param "projected_eta") (param "severe_days")
  | _ => False

theorem build_erp_submission_escalates (order_id customer_bp header line_items corrections : PyVal) :
    returns (build_erp_submission order_id customer_bp header line_items corrections)
      (Escalates False) := by
  unfold build_erp_submission
  refine returns_bind fun _ _ => returns_bind fun _ _ => returns_bind fun _ _ => ?_
  refine returns_bind fun _ _ => returns_bind fun _ _ => ?_
  refine returns_ite (fun _ => ?_) fun _ => ?_
  all_goals
    refine returns_bind fun _ _ => returns_bind fun _ _ => returns_bind fun rejected _ => ?_
    rcases rejected with _ | reason
    · refine returns_bind fun _ _ => (returns_pure _).mpr ?_
      exact escalates_of_silent (by simp [dict.get_cons]) (by simp [dict.get_cons])
    · refine (returns_pure _).mpr ?_
      exact escalates_of_silent (by simp [rejected_submission, dict.get_cons])
        (by simp [rejected_submission, dict.get_cons])

theorem compose_reply_draft_escalates (recipient template_name customer_name : PyVal)
    (context : PyDict) (edits mode : PyVal) :
    returns (compose_reply_draft recipient template_name customer_name context edits mode)
      (Escalates False) := by
  rcases compose_reply_draft_cases recipient template_name customer_name context edits with
    ⟨e, h⟩ | ⟨reason, h⟩ | ⟨-, subject, body, applied, h⟩
  · rw [h]
    exact returns_error e
  · rw [h]
    refine (returns_ok _).mpr (escalates_of_silent ?_ ?_) <;> simp [rejected_draft, dict.get_cons]
  · rw [h]
    refine (returns_ok _).mpr ?_
    unfold composed
    split <;> exact escalates_of_silent (by simp [dict.get_cons]) (by simp [dict.get_cons])

theorem recipe_escalates (from_iso : FromIso) (name : RecipeName) (params : PyDict) :
    returns (recipe_func (registered_recipe from_iso) name params)
      (Escalates (Severe from_iso name params)) := by
  cases name
  case SubmitToErpRecipe => exact build_erp_submission_escalates _ _ _ _ _
  case ReplyDraftRecipe =>
    exact returns_bind fun _ _ => compose_reply_draft_escalates _ _ _ _ _ _
  case PriceAdjustmentRecipe =>
    exact returns_bind fun _ _ => execute_price_correction_escalates _ _ _ _
  case CreditHoldReleaseRecipe =>
    exact returns_bind fun _ _ => release_credit_hold_escalates _ _ _ _ _ _
  case DuplicatePORecipe =>
    exact returns_bind fun _ _ => detect_duplicate_po_escalates _ _ _ _ _ _ _ _ _ _ _
  case PriceHoldReleaseRecipe =>
    exact returns_bind fun _ _ => execute_price_hold_release_escalates _ _ _ _ _ _ _ _
  case EdiMismatchRecipe => exact returns_bind fun _ _ => detect_edi_mismatch_escalates _ _ _ _ _
  case BackOrderResolutionRecipe =>
    exact returns_bind fun _ _ => resolve_back_order_escalates _ _ _ _ _ _ _ _ _
  case OverMaxTrimRecipe => exact returns_bind fun _ _ => trim_over_max_escalates _ _ _ _ _ _
  case MOQRoundUpRecipe => exact returns_bind fun _ _ => round_up_moq_escalates _ _ _ _ _ _ _ _
  case PalletAlignmentRecipe => exact returns_bind fun _ _ => align_pallets_escalates _ _ _ _
  case DeliveryDelayResolutionRecipe =>
    exact returns_bind fun _ _ => resolve_delivery_delay_escalates _ _ _ _ _ _ _ _ _ _
  case ManualOrderIntakeRecipe | EmailOrderEntryRecipe =>
    exact returns_bind fun _ _ => classify_manual_order_intake_escalates _ _ _ _ _ _ _ _ _ _

/-! ## The outcome and the status -/

section outcome

variable {env : RunEnv} {from_iso : FromIso} {p : GraphState} {name : RecipeName}
  {params outputs : PyDict}

theorem routed_status_review {human : Bool}
    (h : dict.get outputs "status" = some (.str "REVIEW_REQUIRED")) :
    routed_status p human outputs = .MANUAL_REVIEW_REQUIRED := by
  unfold routed_status status_of_recipe
  rw [h]
  cases human <;> simp

theorem routed_status_escalate (hn : p.selected_recipe ≠ some .ManualOrderIntakeRecipe)
    (h : dict.get outputs "status" = some (.str "ESCALATE")) :
    routed_status p false outputs = .COMPLETE := by
  unfold routed_status status_of_recipe
  rw [h]
  simp [hn]

theorem Severe.ne_intake (h : Severe from_iso name params) : name ≠ .ManualOrderIntakeRecipe := by
  rintro rfl
  exact h

/-- An outcome that asks for a human is kept from COMPLETE exactly when the
recipe did not find its case severe. -/
theorem a_human_is_asked_iff_not_severe (hrecipes : env.other_recipes = registered_recipe from_iso)
    (hselected : p.selected_recipe = some name) (hinv : p.invocation = some ⟨name, params⟩)
    (hrequired : missing_params (get_recipe name) params = [])
    (hfunc : recipe_func env.other_recipes name params = .ok outputs)
    (hasks : AsksForHuman outputs) :
    returns (execute_recipe env p) (fun s => s.final_status ≠ some .COMPLETE) ↔
      ¬ Severe from_iso name params := by
  have hcases := recipe_escalates from_iso name params outputs (hrecipes ▸ hfunc) hasks
  rcases hcases with ⟨hsevere, hstatus, hlevel⟩ | ⟨hmild, hstatus⟩
  · refine ⟨fun h => ?_, fun h => absurd hsevere h⟩
    have hhuman : requires_human (autonomy_level outputs) = .ok false := by
      unfold autonomy_level
      rw [hlevel]
      rfl
    obtain ⟨s, hs, hfinal⟩ := execute_recipe_status hinv hrequired hfunc hhuman
    have hne : p.selected_recipe ≠ some .ManualOrderIntakeRecipe := by
      rw [hselected]
      exact fun h => hsevere.ne_intake (Option.some.inj h)
    rw [routed_status_escalate hne hstatus] at hfinal
    exact absurd hfinal (h s hs)
  · refine ⟨fun _ => hmild, fun _ => ?_⟩
    refine returns_mono (execute_recipe_returns hinv hrequired hfunc) fun s hs => ?_
    obtain ⟨human, hfinal⟩ := hs
    rw [hfinal, routed_status_review hstatus]
    simp

end outcome

/-! ## A severe excess that is completed -/

/-- No text is a date. -/
def noDates : FromIso := fun s => .error ⟨"ValueError", "Invalid isoformat string: " ++ py.reprStr s⟩

def overMaxParams (total_ordered : ℚ) : PyDict :=
  [("order_id", .str "4711"), ("total_ordered", .float (lit total_ordered)),
    ("max_qty", .float (lit 10)),
    ("severe_exceedance_pct", .float OVER_MAX_SEVERE_EXCEEDANCE_PCT), ("order_lines", .none),
    ("unit_cost_per_line", .none)]

def overMaxRun : RunEnv := { sampleRun 100 with other_recipes := registered_recipe noDates }

def overMaxState (total_ordered : ℚ) : GraphState :=
  { event := { sampleEvent with event_type := "OVER_MAX_QTY" }
    intent := .OVER_MAX
    selected_recipe := some .OverMaxTrimRecipe
    invocation := some ⟨.OverMaxTrimRecipe, overMaxParams total_ordered⟩ }

/-- What the recipe says of an order of three times the maximum. -/
def severeExcess : PyDict :=
  [("status", .str "ESCALATE"), ("classification", .str "SEVERE"),
    ("excess_qty", .float (lit 20)), ("exceedance_pct", .float (lit 2)), ("at_risk", .int 0),
    ("trim_plan", .list []), ("recommended_action", .str "ESCALATE"), ("order_id", .str "4711")]

theorem trim_of_severe_excess :
    recipe_func overMaxRun.other_recipes .OverMaxTrimRecipe (overMaxParams 30) =
      .ok severeExcess := by
  decide +kernel

/-- The recipe asks for a human, and the run is completed. -/
theorem a_severe_excess_is_completed :
    recipe_func overMaxRun.other_recipes .OverMaxTrimRecipe (overMaxParams 30) =
        .ok severeExcess ∧
      AsksForHuman severeExcess ∧
      ¬ returns (execute_recipe overMaxRun (overMaxState 30))
        (fun s => s.final_status ≠ some .COMPLETE) := by
  refine ⟨trim_of_severe_excess, Or.inl rfl, fun h => ?_⟩
  obtain ⟨s, hs, hfinal⟩ := execute_recipe_status (p := overMaxState 30) rfl (by decide +kernel)
    trim_of_severe_excess rfl
  exact h s hs hfinal

/-- The rule at that order. -/
theorem a_severe_excess_misses_its_human :
    returns (execute_recipe overMaxRun (overMaxState 30))
        (fun s => s.final_status ≠ some .COMPLETE) ↔
      ¬ Severe noDates .OverMaxTrimRecipe (overMaxParams 30) :=
  a_human_is_asked_iff_not_severe rfl rfl rfl (by decide +kernel) trim_of_severe_excess (Or.inl rfl)

end asoe
