-- An order intake is never completed by the graph alone: the gate of
-- `execute_recipe` and the recipes that pass it by.
import Asoe.RecipeChoice

namespace asoe

open py prog flow

/-- The run does not complete an order intake. -/
def Waits (env : RunEnv) (origin : Option String) (s : GraphState) (ext : External) : Prop :=
  wp (run_graph env origin s)
    (fun fin _ => fin.intent = .MANUAL_ORDER_INTAKE → fin.final_status ≠ some .COMPLETE)
    (fun _ _ => True) ext

instance (env : RunEnv) (origin : Option String) (s : GraphState) (ext : External) :
    Decidable (Waits env origin s ext) :=
  inferInstanceAs (Decidable (wp _ _ _ _))

/-- The recipe backend gives this answer when the run asks it. -/
def AnswersWith (env : RunEnv) (s : GraphState) (answer : Option RecipeName) : Prop :=
  ∀ b, asked env s = .ok b → proposal env b = answer

/-- Every run of the live graph on which the backend gives this answer leaves
an order intake to its operator. -/
def OperatorGated (answer : Option RecipeName) : Prop :=
  ∀ (env : RunEnv) (from_iso : FromIso) (origin : Option String) (s : GraphState) (ext : External),
    env.other_recipes = registered_recipe from_iso → env.explain_mode = false → Fresh s →
    s.directed_recipe = none → AnswersWith env s answer → Waits env origin s ext

/-! ## The outcome of a gated recipe -/

theorem detect_edi_mismatch_open (order_id sub_type expected_value received_value
    autonomy_levels : PyVal) :
    returns (detect_edi_mismatch order_id sub_type expected_value received_value autonomy_levels)
      fun outputs => (status_of_recipe outputs).1 ≠ .COMPLETE := by
  unfold detect_edi_mismatch
  refine returns_bind fun found _ => ?_
  rcases found with _ | classification
  · exact (returns_pure _).mpr (by simp [status_of_recipe, dict.get_cons])
  · refine returns_bind fun level _ => (returns_pure _).mpr ?_
    cases classification <;>
      simp [status_of_recipe, dict.get_cons, STATUS_BY_CLASSIFICATION]

theorem routed_status_open {p : GraphState} {human : Bool} {outputs : PyDict}
    (h : (status_of_recipe outputs).1 ≠ .COMPLETE) : routed_status p human outputs ≠ .COMPLETE := by
  unfold routed_status
  cases human <;> simp [h]

theorem routed_status_gated {p : GraphState} {human : Bool} {outputs : PyDict}
    (hintent : p.intent = .MANUAL_ORDER_INTAKE)
    (hrecipe : p.selected_recipe = some .ManualOrderIntakeRecipe) :
    routed_status p human outputs ≠ .COMPLETE := by
  unfold routed_status
  generalize (if human = true then TerminalStatus.MANUAL_REVIEW_REQUIRED
    else (status_of_recipe outputs).1) = st
  simp only [hintent, hrecipe, and_self, and_true]
  split
  · simp
  · assumption

/-- The answers that the gate, or the recipe itself, keeps from completing. -/
def GatedAnswer (answer : Option RecipeName) : Prop :=
  answer ∈ [none, some .ManualOrderIntakeRecipe, some .EdiMismatchRecipe]

instance (answer : Option RecipeName) : Decidable (GatedAnswer answer) :=
  inferInstanceAs (Decidable (answer ∈ _))

theorem execute_recipe_gated {env : RunEnv} {from_iso : FromIso} {p : GraphState}
    (hrecipes : env.other_recipes = registered_recipe from_iso)
    (hgated : GatedAnswer p.selected_recipe) (hnone : p.selected_recipe = none → p.invocation = none)
    (hinv : ∀ name, p.selected_recipe = some name → ∃ params, p.invocation = some ⟨name, params⟩)
    (hintent : p.intent = .MANUAL_ORDER_INTAKE) :
    returns (execute_recipe env p) fun t => t.final_status ≠ some .COMPLETE := by
  rcases hname : p.selected_recipe with _ | name
  · unfold execute_recipe
    rw [hnone hname]
    exact (returns_pure _).mpr (by simp [record_plain])
  obtain ⟨params, hset⟩ := hinv name hname
  refine returns_mono (execute_recipe_cases env p name params hset) fun t ht => ?_
  rcases ht with hfail | ⟨human, outputs, hfunc, hstatus⟩
  · simp [hfail]
  rw [hstatus]
  refine fun h => absurd (Option.some.inj h) ?_
  rw [GatedAnswer, hname] at hgated
  simp only [List.mem_cons, reduceCtorEq, Option.some.injEq, List.not_mem_nil, or_false,
    false_or] at hgated
  rcases hgated with rfl | rfl
  · exact routed_status_gated hintent hname
  · refine routed_status_open ?_
    rw [hrecipes] at hfunc
    exact returns_bind (fun _ _ => detect_edi_mismatch_open _ _ _ _ _) outputs hfunc

/-! ## The whole run -/

/-- What a run keeps: its event, and that nothing but another intent than the
intake is completed. -/
structure Waiting (s p : GraphState) : Prop where
  event : p.event = s.event
  completes : p.final_status = some .COMPLETE →
    p.intent = (classify_intent s.event).intent ∧ p.intent ≠ .MANUAL_ORDER_INTAKE

section run

variable {env : RunEnv} {from_iso : FromIso} {origin : Option String} {s : GraphState}
  {ext : External} {answer : Option RecipeName}

/-- A run that is at its recipe does not complete the intake there. -/
theorem waits_at_execute_recipe (hrecipes : env.other_recipes = registered_recipe from_iso)
    (hfresh : Fresh s) (hdir : s.directed_recipe = none) (hanswer : AnswersWith env s answer)
    (hgated : GatedAnswer answer) {vs : List (Visit NodeName Pos)} {p : Pos} {t : GraphState}
    (hpath : Reaches env origin (s, ext) vs .execute_recipe p)
    (hexec : execute_recipe env p.1 = .ok t) (hcomplete : t.final_status = some .COMPLETE) :
    p.1.intent = (classify_intent s.event).intent ∧ p.1.intent ≠ .MANUAL_ORDER_INTAKE := by
  obtain ⟨hp, hopen, -, -⟩ := reaches_execute_recipe hpath
  obtain ⟨-, hintent, hinvokes, -⟩ := proposal_phase_invokes env s p.1 hp hopen
  obtain ⟨b, hb, hchoice⟩ :=
    proposal_phase_chooses env s hdir hfresh.selected_recipe p.1 hp hopen
  rw [hanswer b hb] at hchoice
  refine ⟨hintent, fun hintake => ?_⟩
  unfold Invokes at hinvokes
  refine execute_recipe_gated hrecipes (hchoice ▸ hgated) ?_ ?_ hintake t hexec hcomplete
  · intro hnone
    simp only [hnone] at hinvokes
    exact hinvokes.trans hfresh.invocation
  · intro name hname
    simp only [hname] at hinvokes
    obtain ⟨-, params, -, -, -, hset⟩ := hinvokes
    exact ⟨params, hset⟩

/-- One node of such a run. -/
theorem waiting_step (hrecipes : env.other_recipes = registered_recipe from_iso)
    (hfresh : Fresh s) (hdir : s.directed_recipe = none) (hanswer : AnswersWith env s answer)
    (hgated : GatedAnswer answer) {vs : List (Visit NodeName Pos)} {node : NodeName} {p p' : Pos}
    (hpath : Reaches env origin (s, ext) vs node p) (hwait : Waiting s p.1)
    (hexec : (build_graph env origin).exec node p = .ok p') : Waiting s p'.1 := by
  obtain ⟨hwrote, -⟩ := run_node_wrote hexec
  refine ⟨hwrote.event.trans hwait.event, fun hcomplete => ?_⟩
  by_cases hnode : node = .execute_recipe
  · subst hnode
    obtain ⟨hrun, -⟩ := inside_eq_ok hexec
    rw [hwrote.intent (by decide)]
    exact waits_at_execute_recipe hrecipes hfresh hdir hanswer hgated hpath hrun hcomplete
  -- no other node completes a run, so the node before had completed it
  obtain ⟨verdict, sets, hexit, -, hfinal⟩ := run_node_left hexec
  rw [hfinal] at hcomplete
  rcases sets with _ | st
  · obtain ⟨hintent, hother⟩ := hwait.completes hcomplete
    by_cases hclassify : node = .classify
    · subst hclassify
      cases hexec
      have hclass : (classify env p.1).intent = (classify_intent s.event).intent := by
        rw [classify_deterministic, hwait.event]
      exact ⟨hclass, hclass.trans hintent.symm ▸ hother⟩
    · rw [hwrote.intent hclassify]
      exact ⟨hintent, hother⟩
  · exact absurd hcomplete (hexit.ne_complete hnode)

/-- A run whose backend gives a gated answer does not complete an intake. -/
theorem waits_of_gated (hrecipes : env.other_recipes = registered_recipe from_iso)
    (hfresh : Fresh s) (hdir : s.directed_recipe = none) (hanswer : AnswersWith env s answer)
    (hgated : GatedAnswer answer) : Waits env origin s ext := by
  unfold Waits
  by_cases hkill : env.kill_switch = true
  · unfold run_graph
    rw [if_pos hkill, wp_pure]
    simp
  refine wp_mono (run_graph_follows_the_graph s (by simpa using hkill)) ?_ fun _ _ _ => trivial
  rintro fin ext' ⟨vs, t, hends, rfl⟩ hintake
  rw [explain_terminal_intent] at hintake
  rw [explain_terminal_final_status]
  obtain ⟨ws, a, u, hpath, hexec, -, -⟩ := hends.last_visit
  have hwait : Reaches env origin (s, ext) ws a u ∧ Waiting s u.1 := by
    refine hpath.rule (P := fun ws a u => Reaches env origin (s, ext) ws a u ∧ Waiting s u.1)
      ⟨.here _ _, rfl, fun h => ?_⟩ ?_
    · simp [hfresh.final_status] at h
    · rintro ws a u u' b ⟨hu, hwait⟩ hexec hnext
      exact ⟨hu.snoc hexec hnext,
        waiting_step hrecipes hfresh hdir hanswer hgated hu hwait hexec⟩
  have hlast := waiting_step hrecipes hfresh hdir hanswer hgated hpath hwait.2 hexec
  exact fun hcomplete => (hlast.completes hcomplete).2 hintake

end run

/-! ## The recipes that complete an intake -/

/-- An intake with figures for every recipe, each in order. -/
def plainEvent : OrderEvent :=
  { sampleEvent with
    requester_role := some "ORDER_MANAGER"
    credit_limit := some (.fin 100)
    current_exposure := some (.fin 10)
    metadata :=
      [("composite_confidence", .float (.fin 1)),
        ("non_disableable_floor", .dict [("sender_authorized", .bool true),
          ("customer_resolved", .bool true), ("duplicate_po_clear", .bool true),
          ("credit_clear", .bool true)]),
        ("ordered_qty", .int 10), ("available_qty", .int 10), ("unit_price", .int 1),
        ("total_ordered", .int 10), ("max_qty", .int 20), ("moq_qty", .int 10),
        ("unit_cost", .int 1),
        ("pallet_lines", .list [.dict [("sku", .str "M1"), ("layer_qty", .int 10),
          ("pallet_qty", .int 40), ("ordered_qty", .int 40)]]),
        ("planned_date", .str "2025-01-01"), ("projected_eta", .str "2025-01-01")] }

/-- The one date of that event. -/
def newYear : FromIso := fun s =>
  if s = "2025-01-01" then .ok 1735689600000000
  else .error ⟨"ValueError", "Invalid isoformat string: " ++ py.reprStr s⟩

def plainRun (name : RecipeName) : RunEnv :=
  { namingRun name with other_recipes := registered_recipe newYear }

/-- A run on that event, with an extracted order. -/
def plainState : GraphState :=
  { event := plainEvent
    enrichment_context := [("order_entry_extraction", .dict (sampleExtraction 10))] }

theorem plain_runs_complete (name : RecipeName) (h : ¬ GatedAnswer (some name)) :
    ¬ Waits (plainRun name) none plainState {} := by
  cases name
  case ManualOrderIntakeRecipe | EdiMismatchRecipe => exact absurd (by decide) h
  all_goals decide +kernel

/-- The answers on which every run of the live graph leaves an order intake
to its operator are no recipe, the intake recipe and the EDI mismatch. -/
theorem an_intake_waits_for_its_operator_iff (answer : Option RecipeName) :
    OperatorGated answer ↔ GatedAnswer answer := by
  constructor
  · intro hgates
    rcases answer with _ | name
    · decide
    by_contra hopen
    refine plain_runs_complete name hopen ?_
    exact hgates (plainRun name) newYear none plainState {} rfl rfl ⟨rfl, rfl, rfl, rfl⟩ rfl
      fun _ _ => rfl
  · intro hgated env from_iso origin s ext hrecipes _ hfresh hdir hanswer
    exact waits_of_gated hrecipes hfresh hdir hanswer hgated

/-- The run that the backend sends to the alias of the intake recipe. -/
def aliasRun : RunEnv :=
  { plainRun .EmailOrderEntryRecipe with
    compose_from_state := fun _ => .ok ⟨"EmailOrderEntryAnalysisData", [], false⟩ }

/-- The alias passes the gate by. -/
theorem an_email_order_is_completed : ¬ Waits aliasRun none { event := plainEvent } {} := by
  decide +kernel

end asoe
