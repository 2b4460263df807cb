-- The effect of a recipe that failed: `execute_recipe` and `apply_effects` are
-- joined by an unconditional edge, so only the guard of the effect itself
-- keeps it from being called.
import Asoe.UndirectedRuns

namespace asoe

open py prog

/-- Each effect of the recipe waits for a status of its outcome. -/
def GuardsItsEffects (name : RecipeName) : Prop :=
  ∀ effect ∈ (get_recipe name).effects, effect.only_on_recipe_status.isSome = true

instance (name : RecipeName) : Decidable (GuardsItsEffects name) :=
  inferInstanceAs (Decidable (∀ effect ∈ _, _))

/-- The run gets to its recipe, whose executor reports errors. -/
structure RecipeFails (env : RunEnv) (s t : GraphState) (log : ExecutionLog) : Prop where
  executes : Executes env s t
  execution_log : t.execution_log = some log
  errors : log.errors ≠ []

/-! ## The log of a recipe that failed -/

theorem run_recipe_name (others : RecipeName → PyDict → Except PyErr PyDict) (name : RecipeName)
    (params : PyDict) (trace_id : String) (intent : Intent) (hits : List String) :
    (run_recipe others name params trace_id intent hits).recipe_name = name := by
  simp only [run_recipe]
  split
  · rfl
  · split <;> rfl

theorem route_outputs_log (state : GraphState) (log : ExecutionLog) :
    returns (route_outputs state log) fun s => ∃ log', s.execution_log = some log' ∧
      log'.recipe_name = log.recipe_name ∧ log'.errors = log.errors := by
  have hvocab : ∀ b : Bool, ∀ log' : ExecutionLog, log' = (if b = true then { log with
      outputs := dict.set log.outputs "autonomy_vocab_version" (.str "v2") } else log) →
      log'.recipe_name = log.recipe_name ∧ log'.errors = log.errors := by
    rintro b log' rfl
    cases b <;> exact ⟨rfl, rfl⟩
  unfold route_outputs
  refine returns_bind fun human _ => ?_
  cases human
  all_goals
    refine (returns_pure _).mpr ?_
    simp only [gate_intake_execution_log]
    exact ⟨_, rfl, hvocab _ _ rfl⟩

/-- A recipe that was invoked leaves its log: without outputs when there are
errors. -/
theorem execute_recipe_log (env : RunEnv) (p : GraphState) (name : RecipeName) (params : PyDict)
    (hinv : p.invocation = some ⟨name, params⟩) :
    returns (execute_recipe env p) fun t => ∃ log, t.execution_log = some log ∧
      log.recipe_name = name ∧ (log.errors ≠ [] → log.outputs = []) := by
  unfold execute_recipe
  simp only [hinv]
  have hname := run_recipe_name env.other_recipes name params
    ((p.shadow.map (·.trace_id)).getD env.shadow_trace_id) p.intent
    ((p.shadow.map (·.policy_hits)).getD [])
  rcases run_recipe_outputs env.other_recipes name params
      ((p.shadow.map (·.trace_id)).getD env.shadow_trace_id) p.intent
      ((p.shadow.map (·.policy_hits)).getD []) with ⟨herr, hout, -⟩ | ⟨herr, -⟩
  · rw [if_pos (by simpa using herr)]
    exact (returns_pure _).mpr ⟨_, rfl, hname, fun _ => hout⟩
  · rw [if_neg (by simp [herr])]
    refine returns_bind fun s hs => (returns_pure _).mpr ?_
    obtain ⟨log, hlog, hrecipe, herrors⟩ := route_outputs_log _ _ s hs
    exact ⟨log, hlog, hrecipe.trans hname, fun h => absurd (herrors.trans herr) h⟩

section run

variable {env : RunEnv} {origin : Option String} {s t : GraphState} {log : ExecutionLog}
  {ext : External}

/-- The state after the failure: on its recipe, and without outputs. -/
theorem RecipeFails.leaves (h : RecipeFails env s t log) (hfresh : Fresh s) :
    t.selected_recipe = some log.recipe_name ∧ log.outputs = [] := by
  obtain ⟨⟨-, -, p, hp, hopen, ht⟩, hlog, herr⟩ := h
  obtain ⟨hgiven, -, hinvokes, -⟩ := proposal_phase_invokes env s p hp hopen
  have hsel := (execute_recipe_sameRun env p t ht).selected_recipe
  unfold Invokes at hinvokes
  rcases hname : p.selected_recipe with _ | name
  · simp only [hname] at hinvokes
    have hkept : t.execution_log = none := by
      unfold execute_recipe at ht
      rw [hinvokes.trans hfresh.invocation] at ht
      cases ht
      exact (congrArg Given.execution_log hgiven).trans hfresh.execution_log
    cases hlog.symm.trans hkept
  · simp only [hname] at hinvokes
    obtain ⟨-, params, -, -, -, hinv⟩ := hinvokes
    obtain ⟨log', hlog', rfl, hout⟩ := execute_recipe_log env p name params hinv t ht
    cases hlog.symm.trans hlog'
    exact ⟨hsel.trans hname, hout herr⟩

theorem requested_without_outcome (hsel : t.selected_recipe = some log.recipe_name)
    (hlog : t.execution_log = some log) (hout : log.outputs = []) :
    requested t = none ↔ GuardsItsEffects log.recipe_name := by
  have hstatus : dict.get t.outputs "status" = none := by
    simp [GraphState.outputs, hlog, hout, dict.get]
  unfold requested GuardsItsEffects
  simp only [hsel, hlog]
  rcases effects_at_most_one log.recipe_name with he | ⟨effect, he⟩
  · simp [he]
  · simp only [he, List.head?_cons, Option.bind_some, List.mem_singleton, forall_eq]
    unfold effect_request
    rw [hstatus]
    rcases effect.only_on_recipe_status with _ | allowed
    · simp
    · simp [PyVal.ofOption]

theorem Executes.external (h : Executes env s t) :
    endState (run_graph env origin s ext) = (apply_effects env origin t ext).1 := by
  obtain ⟨outcome, hrun⟩ := run_graph_ends env origin s ext
  generalize endState (run_graph env origin s ext) = ext' at hrun
  cases hrun with
  | halted fin hexec => exact absurd h (hexec t)
  | raised e hexec => exact absurd h (hexec t)
  | done t' fin hexec => rw [hexec.unique h]
  | broke t' e hexec => rw [hexec.unique h]

theorem Executes.calls_iff (h : Executes env s t) :
    (endState (run_graph env origin s ext)).calls = ext.calls ↔ requested t = none := by
  rw [h.external]
  have hspec := (apply_effects_spec env origin t ext).2
  rcases hreq : requested t with _ | req
  · simp only [hreq] at hspec
    simp [hspec.1]
  · simp only [hreq] at hspec
    simp [hspec.1, effected_calls]

end run

/-- A run whose recipe failed calls no effect gateway exactly when that
recipe guards all of its effects. -/
theorem a_failed_recipe_calls_nothing_iff (env : RunEnv) (origin : Option String)
    (s t : GraphState) (ext : External) (log : ExecutionLog) (hfresh : Fresh s)
    (hfails : RecipeFails env s t log) :
    (endState (run_graph env origin s ext)).calls = ext.calls ↔
      GuardsItsEffects log.recipe_name := by
  obtain ⟨hsel, hout⟩ := hfails.leaves hfresh
  exact hfails.executes.calls_iff.trans
    (requested_without_outcome hsel hfails.execution_log hout)

/-! ## A duplicate order without its scores -/

def scorelessEvent : OrderEvent :=
  { sampleEvent with event_type := "DUPLICATE", metadata := [("signal_scores", .none)] }

def scorelessRun : RunEnv := { sampleRun 100 with other_recipes := registered_recipe noDates }

/-- The name and the errors on the log of a run that gets to its recipe. -/
def executorReport (env : RunEnv) (s : GraphState) : Option (RecipeName × List String) :=
  ((executed env s).bind (·.execution_log)).map fun log => (log.recipe_name, log.errors)

theorem fails_of_report {env : RunEnv} {s : GraphState} {name : RecipeName} {errors : List String}
    (h : executorReport env s = some (name, errors)) (herr : errors ≠ []) :
    ∃ t log, RecipeFails env s t log ∧ log.recipe_name = name ∧ log.errors = errors := by
  unfold executorReport at h
  obtain ⟨log, hlog, hreport⟩ := Option.map_eq_some_iff.mp h
  obtain ⟨t, ht, hlog⟩ := Option.bind_eq_some_iff.mp hlog
  cases hreport
  exact ⟨t, log, ⟨executed_eq_some.mp ht, hlog, herr⟩, rfl, rfl⟩

/-- The recipe lacks a parameter, and the buyer is notified all the same. -/
theorem a_recipe_without_scores_notifies :
    (∃ t log, RecipeFails scorelessRun { event := scorelessEvent } t log ∧
      log.recipe_name = .DuplicatePORecipe ∧
      log.errors = ["Missing required parameters: ['signal_scores']"]) ∧
    (endState (run_graph scorelessRun none { event := scorelessEvent } {})).calls ≠ [] :=
  ⟨fails_of_report (by decide +kernel) (by decide), by decide +kernel⟩

/-- The rule at a pallet check without its lines, which has no effect. -/
theorem a_pallet_check_without_lines_is_silent :
    ∃ t log, RecipeFails (namingRun .PalletAlignmentRecipe) { event := sampleEvent } t log ∧
      log.recipe_name = .PalletAlignmentRecipe ∧
      ((endState (run_graph (namingRun .PalletAlignmentRecipe) none
        { event := sampleEvent } {})).calls = [] ↔ GuardsItsEffects log.recipe_name) := by
  obtain ⟨t, log, hfails, hname, -⟩ : ∃ t log,
      RecipeFails (namingRun .PalletAlignmentRecipe) { event := sampleEvent } t log ∧
        log.recipe_name = .PalletAlignmentRecipe ∧
        log.errors = ["Missing required parameters: ['lines']"] :=
    fails_of_report (by decide +kernel) (by decide)
  exact ⟨t, log, hfails, hname, a_failed_recipe_calls_nothing_iff _ none _ t {} log
    (fresh_of_event sampleEvent) hfails⟩

end asoe
