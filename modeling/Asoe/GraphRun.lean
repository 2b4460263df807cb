-- What a run of the graph hands back: the parts of its state that no node
-- writes, and the four ways in which a run ends. Only a run that passed its
-- Shadow executes a recipe, and only that run calls an effect gateway.
import Asoe.Graph

namespace asoe

open py prog

/-! ## What the proposal phase leaves alone -/

/-- The parts of the state that the proposal phase only reads. -/
structure Given where
  event : OrderEvent
  tenant_id : Option String
  directed_recipe : Option RecipeName
  directed_corrections : PyDict
  execution_log : Option ExecutionLog
  effect_results : List GatewayResponse

def GraphState.given (s : GraphState) : Given :=
  ⟨s.event, s.tenant_id, s.directed_recipe, s.directed_corrections, s.execution_log,
    s.effect_results⟩

section recordNode

variable (s : GraphState) (node : NodeName) (v : Option String) (hits : List String) (err : Bool)

@[simp] theorem record_node_given : (record_node s node v hits err).given = s.given := rfl

@[simp] theorem record_node_final_status :
    (record_node s node v hits err).final_status = s.final_status := rfl

@[simp] theorem record_node_selected_recipe :
    (record_node s node v hits err).selected_recipe = s.selected_recipe := rfl

@[simp] theorem record_node_enrichment_context :
    (record_node s node v hits err).enrichment_context = s.enrichment_context := rfl

@[simp] theorem record_node_invocation :
    (record_node s node v hits err).invocation = s.invocation := rfl

end recordNode

/-- The state with which the run goes on has the same givens, the same
enrichment and the same selection. -/
structure Undecided (s s' : GraphState) : Prop where
  given : s'.given = s.given
  enrichment_context : s'.enrichment_context = s.enrichment_context
  selected_recipe : s'.selected_recipe = s.selected_recipe

theorem Undecided.trans {s t u : GraphState} (h : Undecided s t) (h' : Undecided t u) :
    Undecided s u :=
  ⟨h'.given.trans h.given, h'.enrichment_context.trans h.enrichment_context,
    h'.selected_recipe.trans h.selected_recipe⟩

theorem ingest_undecided (env : RunEnv) (s : GraphState) : returns (ingest env s) (Undecided s) := by
  unfold ingest
  split
  · exact (returns_pure _).mpr ⟨rfl, rfl, rfl⟩
  · exact returns_bind fun _ _ => (returns_pure _).mpr ⟨rfl, rfl, rfl⟩

theorem classify_undecided (env : RunEnv) (s : GraphState) : Undecided s (classify env s) := by
  simp only [classify]
  split
  · exact ⟨rfl, rfl, rfl⟩
  · split <;> exact ⟨rfl, rfl, rfl⟩

theorem load_skill_undecided (env : RunEnv) (s : GraphState) :
    returns (load_skill env s) (Undecided s) :=
  returns_bind fun _ _ => (returns_pure _).mpr ⟨rfl, rfl, rfl⟩

theorem validate_circuit_breaker_undecided (s : GraphState) :
    Undecided s (validate_circuit_breaker s) := by
  simp only [validate_circuit_breaker]
  split <;> exact ⟨rfl, rfl, rfl⟩

/-! ## The recipe that the run is on -/

/-- A recipe that `select_recipe` may choose. -/
def Proposable (env : RunEnv) (directed : Option RecipeName) (name : RecipeName) : Prop :=
  match directed, env.recipe_backend with
  | some directed, _ => name = directed
  | none, some backend => ∃ t, backend t = some name
  | none, none => ∃ intent, propose_recipe intent = some name

theorem select_recipe_given (env : RunEnv) (s : GraphState) :
    (select_recipe env s).given = s.given := by
  simp only [select_recipe]
  split
  · rfl
  · split <;> rfl

theorem select_recipe_enrichment (env : RunEnv) (s : GraphState) :
    (select_recipe env s).enrichment_context = s.enrichment_context := by
  simp only [select_recipe]
  split
  · rfl
  · split <;> rfl

theorem select_recipe_proposable (env : RunEnv) (s : GraphState) (h : s.selected_recipe = none)
    (name : RecipeName) (hn : (select_recipe env s).selected_recipe = some name) :
    Proposable env s.directed_recipe name := by
  unfold Proposable
  simp only [select_recipe] at hn
  rcases hd : s.directed_recipe with _ | directed
  · rcases hb : env.recipe_backend with _ | backend
    · refine ⟨s.intent, ?_⟩
      rcases hc : propose_recipe s.intent with _ | chosen
      · simp [hd, hb, hc, record, h] at hn
      · simpa [hd, hb, hc, record] using hn
    · refine ⟨s, ?_⟩
      rcases hc : backend s with _ | chosen
      · simp [hd, hb, hc, record, h] at hn
      · simpa [hd, hb, hc, record] using hn
  · simpa [hd, record, eq_comm] using hn

theorem select_recipe_directed (env : RunEnv) (s : GraphState) (name : RecipeName)
    (h : s.directed_recipe = some name) : (select_recipe env s).selected_recipe = some name := by
  simp only [select_recipe, h]
  rfl

/-! ## Dependencies and parameters -/

theorem resolve_each_given (env : RunEnv) (deps : List GatewayDependency) (s : GraphState) :
    (resolve_each env s deps).given = s.given ∧
      (resolve_each env s deps).selected_recipe = s.selected_recipe := by
  induction deps generalizing s with
  | nil => exact ⟨rfl, rfl⟩
  | cons dep deps ih =>
    simp only [resolve_each]
    split
    · exact ih _
    · split
      · exact ⟨rfl, rfl⟩
      · exact ih _

theorem resolve_dependencies_given (env : RunEnv) (s : GraphState) :
    (resolve_dependencies env s).given = s.given ∧
      (resolve_dependencies env s).selected_recipe = s.selected_recipe := by
  simp only [resolve_dependencies]
  split
  · exact ⟨rfl, rfl⟩
  · exact resolve_each_given _ _ _

theorem resolve_dependencies_of_none (env : RunEnv) (s : GraphState) (name : RecipeName)
    (hs : s.selected_recipe = some name) (hd : (get_recipe name).dependencies = []) :
    Undecided s (resolve_dependencies env s) := by
  have horder : env.dependency_order [] = [] := (env.dependency_order_perm []).eq_nil
  simp only [resolve_dependencies, hs, hd, horder, resolve_each]
  exact ⟨rfl, rfl, rfl⟩

theorem validate_types_undecided (s : GraphState) :
    returns (validate_types s) fun s' => Undecided s s' ∧
      ∀ name, s.selected_recipe = some name → s'.final_status = none →
        ∃ params, invocation_params s name = .ok params ∧ s'.invocation = some ⟨name, params⟩ := by
  unfold validate_types
  split
  · rename_i hs
    refine (returns_pure _).mpr ⟨⟨rfl, rfl, rfl⟩, fun name h => ?_⟩
    cases hs.symm.trans h
  · rename_i chosen hs
    split
    · refine (returns_pure _).mpr ⟨⟨rfl, rfl, rfl⟩, fun name _ hf => ?_⟩
      cases hf
    · refine returns_bind fun params hp => (returns_pure _).mpr ⟨⟨rfl, rfl, rfl⟩, ?_⟩
      intro name h _
      cases hs.symm.trans h
      exact ⟨params, hp, rfl⟩

theorem shadow_audit_undecided (env : RunEnv) (s : GraphState) :
    returns (shadow_audit env s) fun s' => Undecided s s' ∧ s'.invocation = s.invocation := by
  refine returns_bind fun shadow _ => returns_bind fun shadow' _ => (returns_pure _).mpr ?_
  simp only [enforce]
  split <;> exact ⟨⟨rfl, rfl, rfl⟩, rfl⟩

/-! ## The whole proposal phase -/

theorem returns_after_gate {s : GraphState} {rest : GraphState → Except PyErr GraphState}
    {Q : GraphState → Prop} (hhalt : s.final_status.isSome = true → Q s)
    (hgo : s.final_status = none → returns (rest s) Q) : returns (after_gate s rest) Q := by
  unfold after_gate
  split
  · rename_i h
    exact (returns_ok _).mpr (hhalt h)
  · rename_i h
    exact hgo (by simpa using h)

theorem opening_undecided (env : RunEnv) (s s₁ s₂ : GraphState) (h₁ : ingest env s = .ok s₁)
    (h₂ : load_skill env (classify env s₁) = .ok s₂) :
    Undecided s (validate_circuit_breaker s₂) :=
  (((ingest_undecided env s _ h₁).trans (classify_undecided env s₁)).trans
    (load_skill_undecided env _ _ h₂)).trans (validate_circuit_breaker_undecided s₂)

theorem proposal_phase_given (env : RunEnv) (s : GraphState) :
    returns (proposal_phase env s) fun p => p.given = s.given := by
  refine returns_bind fun s₁ h₁ => returns_bind fun s₂ h₂ => ?_
  have hopen := (opening_undecided env s s₁ s₂ h₁ h₂).given
  refine returns_after_gate (fun _ => hopen) fun _ => ?_
  have hsel := (select_recipe_given env (validate_circuit_breaker s₂)).trans hopen
  refine returns_after_gate (fun _ => hsel) fun _ => ?_
  have hdeps := (resolve_dependencies_given env (select_recipe env
    (validate_circuit_breaker s₂))).1.trans hsel
  refine returns_after_gate (fun _ => hdeps) fun _ => returns_bind fun s₃ h₃ => ?_
  have htypes := (validate_types_undecided _ s₃ h₃).1.given.trans hdeps
  refine returns_after_gate (fun _ => htypes) fun _ => ?_
  exact returns_mono (shadow_audit_undecided env s₃) fun p hp => hp.1.given.trans htypes

/-- The proposal phase ends on a recipe that may be proposed, or on none. -/
theorem proposal_phase_proposable (env : RunEnv) (s : GraphState) (h : s.selected_recipe = none) :
    returns (proposal_phase env s) fun p =>
      ∀ name, p.selected_recipe = some name → Proposable env s.directed_recipe name := by
  refine returns_bind fun s₁ h₁ => returns_bind fun s₂ h₂ => ?_
  have hopen := opening_undecided env s s₁ s₂ h₁ h₂
  have hnone := hopen.selected_recipe.trans h
  have hdir := congrArg Given.directed_recipe hopen.given
  refine returns_after_gate (fun _ name hn => ?_) fun _ => ?_
  · cases hnone.symm.trans hn
  have hsel := select_recipe_proposable env _ hnone
  rw [show (validate_circuit_breaker s₂).directed_recipe = s.directed_recipe from hdir] at hsel
  refine returns_after_gate (fun _ => hsel) fun _ => ?_
  have hdeps := (resolve_dependencies_given env (select_recipe env
    (validate_circuit_breaker s₂))).2
  refine returns_after_gate (fun _ name hn => hsel name (hdeps.symm.trans hn)) fun _ =>
    returns_bind fun s₃ h₃ => ?_
  have htypes := (validate_types_undecided _ s₃ h₃).1.selected_recipe.trans hdeps
  refine returns_after_gate (fun _ name hn => hsel name (htypes.symm.trans hn)) fun _ => ?_
  exact returns_mono (shadow_audit_undecided env s₃) fun p hp name hn =>
    hsel name ((hp.1.selected_recipe.trans htypes).symm.trans hn)

/-- A directed run that passes its gates is on the recipe it was told to
run, with the parameters built from what it was started with. -/
theorem directed_proposal (env : RunEnv) (s : GraphState) (name : RecipeName)
    (hdir : s.directed_recipe = some name) (hdeps : (get_recipe name).dependencies = []) :
    returns (proposal_phase env s) fun p => p.final_status = none →
      p.selected_recipe = some name ∧
        ∃ t params, t.given = s.given ∧ t.enrichment_context = s.enrichment_context ∧
          invocation_params t name = .ok params ∧ p.invocation = some ⟨name, params⟩ := by
  refine returns_bind fun s₁ h₁ => returns_bind fun s₂ h₂ => ?_
  have hopen := opening_undecided env s s₁ s₂ h₁ h₂
  refine returns_after_gate (fun hh hf => ?_) fun _ => ?_
  · simp [hf] at hh
  have hsel := select_recipe_directed env (validate_circuit_breaker s₂) name
    ((congrArg Given.directed_recipe hopen.given).trans hdir)
  have hgiven := (select_recipe_given env (validate_circuit_breaker s₂)).trans hopen.given
  have henr := (select_recipe_enrichment env (validate_circuit_breaker s₂)).trans
    hopen.enrichment_context
  refine returns_after_gate (fun hh hf => ?_) fun _ => ?_
  · simp [hf] at hh
  have hnone := resolve_dependencies_of_none env _ name hsel hdeps
  refine returns_after_gate (fun hh hf => ?_) fun _ => returns_bind fun s₃ h₃ => ?_
  · simp [hf] at hh
  obtain ⟨hkeep, hparams⟩ := validate_types_undecided _ s₃ h₃
  refine returns_after_gate (fun hh hf => ?_) fun hf₃ => ?_
  · simp [hf] at hh
  obtain ⟨params, hp, hinv⟩ := hparams name (hnone.selected_recipe.trans hsel) hf₃
  refine returns_mono (shadow_audit_undecided env s₃) fun p hp' _ => ⟨?_, ?_⟩
  · rw [hp'.1.selected_recipe, hkeep.selected_recipe, hnone.selected_recipe, hsel]
  · exact ⟨_, params, hnone.given.trans hgiven, hnone.enrichment_context.trans henr, hp,
      hp'.2.trans hinv⟩

/-! ## Execution -/

/-- The parts of the state that a recipe run never writes. -/
structure SameRun (s s' : GraphState) : Prop where
  event : s'.event = s.event
  tenant_id : s'.tenant_id = s.tenant_id
  selected_recipe : s'.selected_recipe = s.selected_recipe
  enrichment_context : s'.enrichment_context = s.enrichment_context
  effect_results : s'.effect_results = s.effect_results

theorem gate_intake_sameRun (s : GraphState) : SameRun s (gate_intake s) := by
  unfold gate_intake
  split <;> exact ⟨rfl, rfl, rfl, rfl, rfl⟩

theorem gate_intake_execution_log (s : GraphState) :
    (gate_intake s).execution_log = s.execution_log := by
  unfold gate_intake
  split <;> rfl

/-- The run is routed on the log that the recipe left, with at most the
version of the autonomy vocabulary put into its outputs. -/
theorem route_outputs_spec (state : GraphState) (log : ExecutionLog) :
    returns (route_outputs state log) fun s => SameRun state s ∧
      ∀ key ≠ "autonomy_vocab_version", dict.get s.outputs key = dict.get log.outputs key := by
  have hvocab : ∀ (b : Bool) key, key ≠ "autonomy_vocab_version" →
      dict.get (if b = true then { log with
        outputs := dict.set log.outputs "autonomy_vocab_version" (.str "v2") } else log).outputs key
        = dict.get log.outputs key := by
    intro b key hkey
    cases b
    · rfl
    · exact dict.get_set_of_ne _ _ hkey
  unfold route_outputs
  refine returns_bind fun human _ => ?_
  cases human
  · refine (returns_pure _).mpr ⟨?_, fun key hkey => ?_⟩
    · obtain ⟨h₁, h₂, h₃, h₄, h₅⟩ := gate_intake_sameRun _
      exact ⟨h₁, h₂, h₃, h₄, h₅⟩
    · simp only [GraphState.outputs, gate_intake_execution_log]
      exact hvocab _ key hkey
  · refine (returns_pure _).mpr ⟨?_, fun key hkey => ?_⟩
    · obtain ⟨h₁, h₂, h₃, h₄, h₅⟩ := gate_intake_sameRun _
      exact ⟨h₁, h₂, h₃, h₄, h₅⟩
    · simp only [GraphState.outputs, gate_intake_execution_log]
      exact hvocab _ key hkey

/-- A log without errors holds what the recipe returned; a log with errors
holds no outputs. -/
theorem run_recipe_outputs (others : RecipeName → PyDict → Except PyErr PyDict)
    (name : RecipeName) (params : PyDict) (trace_id : String) (intent : Intent)
    (hits : List String) :
    let log := run_recipe others name params trace_id intent hits
    (log.errors ≠ [] ∧ log.outputs = [] ∧
      (missing_params (get_recipe name) params ≠ [] ∨
        ∃ e, recipe_func others name params = .error e)) ∨
      (log.errors = [] ∧ recipe_func others name params = .ok log.outputs) := by
  simp only [run_recipe]
  split
  · rename_i hmissing
    exact Or.inl ⟨by simp, rfl, Or.inl (by simpa using hmissing)⟩
  · split
    · rename_i e hfunc
      exact Or.inl ⟨by simp, rfl, Or.inr ⟨e, hfunc⟩⟩
    · rename_i outputs hfunc
      exact Or.inr ⟨rfl, hfunc⟩

theorem execute_recipe_sameRun (env : RunEnv) (p : GraphState) :
    returns (execute_recipe env p) (SameRun p) := by
  unfold execute_recipe
  split
  · exact (returns_pure _).mpr ⟨rfl, rfl, rfl, rfl, rfl⟩
  · dsimp only
    split
    · exact (returns_pure _).mpr ⟨rfl, rfl, rfl, rfl, rfl⟩
    · refine returns_bind fun s hs => (returns_pure _).mpr ?_
      obtain ⟨h₁, h₂, h₃, h₄, h₅⟩ := (route_outputs_spec _ _ s hs).1
      exact ⟨h₁, h₂, h₃, h₄, h₅⟩

/-- What the state shows after a recipe that was invoked: nothing when it
failed, else the outputs of the recipe. -/
theorem execute_recipe_outputs (env : RunEnv) (p : GraphState) (name : RecipeName)
    (params : PyDict) (hinv : p.invocation = some ⟨name, params⟩) :
    returns (execute_recipe env p) fun s =>
      (s.outputs = [] ∧ (missing_params (get_recipe name) params ≠ [] ∨
        ∃ e, recipe_func env.other_recipes name params = .error e)) ∨
      ∃ outputs, recipe_func env.other_recipes name params = .ok outputs ∧
        ∀ key ≠ "autonomy_vocab_version", dict.get s.outputs key = dict.get outputs key := by
  unfold execute_recipe
  simp only [hinv]
  rcases run_recipe_outputs env.other_recipes name params
      ((p.shadow.map (·.trace_id)).getD env.shadow_trace_id) p.intent
      ((p.shadow.map (·.policy_hits)).getD []) with ⟨herr, hout, hwhy⟩ | ⟨herr, hfunc⟩
  · rw [if_pos (by simpa using herr)]
    exact (returns_pure _).mpr (Or.inl ⟨hout, hwhy⟩)
  · rw [if_neg (by simp [herr])]
    refine returns_bind fun s hs => (returns_pure _).mpr (Or.inr ⟨_, hfunc, ?_⟩)
    exact (route_outputs_spec _ _ s hs).2

/-! ## Effects -/

/-- The gateway call of an effect. -/
def effect_call (state : GraphState) (effect : GatewayEffect) : GatewayRequest where
  gateway_name := effect.gateway_name
  operation := effect.operation
  params := effect.params_from_output.map fun p => (p.1, .ofOption (dict.get state.outputs p.2))
  trace_id := (state.shadow.map (·.trace_id)).getD state.request_trace_id

/-- The call, when the status of the recipe asks for it. -/
def effect_request (state : GraphState) (effect : GatewayEffect) : Option GatewayRequest :=
  if effect.only_on_recipe_status.any fun allowed =>
      PyVal.ofOption (dict.get state.outputs "status") ∉ allowed.map .str then none
  else some (effect_call state effect)

/-- The call that a state asks for when its recipe has run. -/
def requested (state : GraphState) : Option GatewayRequest :=
  match state.selected_recipe, state.execution_log with
  | some name, some _ => (get_recipe name).effects.head?.bind (effect_request state)
  | _, _ => none

/-- What the call of an effect leaves behind: the call itself and its entry
in the outbox. -/
def effected (env : RunEnv) (origin : Option String) (state : GraphState) (req : GatewayRequest)
    (ext : External) : External :=
  let response := env.gateway ext.calls.length req
  record_effect origin
    (if state.tenant_id.getD "" = "" then "default" else state.tenant_id.getD "")
    req.gateway_name req.operation response.status state.selected_recipe
    (.ofOption (dict.get state.outputs "status")) (some req.trace_id) response.error req.params
    (run_gateway env.gateway origin req ext).1

theorem effects_at_most_one (name : RecipeName) :
    (get_recipe name).effects = [] ∨ ∃ effect, (get_recipe name).effects = [effect] := by
  cases name <;> simp [get_recipe, MANUAL_ORDER_INTAKE_SPEC]

theorem apply_effect_spec (env : RunEnv) (origin : Option String) (name : RecipeName)
    (log : ExecutionLog) (state : GraphState) (effect : GatewayEffect) (ext : External)
    (hname : state.selected_recipe = some name) (hlog : state.execution_log = some log) :
    let after := apply_effect env origin name log.outputs state effect ext
    after.2.execution_log = state.execution_log ∧
    match effect_request state effect with
    | none => after.1 = ext ∧ after.2.effect_results = state.effect_results
    | some req => after.1 = effected env origin state req ext ∧
        after.2.effect_results = state.effect_results ++ [env.gateway ext.calls.length req] := by
  have hout : state.outputs = log.outputs := by simp [GraphState.outputs, hlog]
  simp only [apply_effect, effect_request, effect_call, hout]
  by_cases hblock : (effect.only_on_recipe_status.any fun allowed =>
      PyVal.ofOption (dict.get log.outputs "status") ∉ allowed.map .str) = true
  · simp only [hblock, if_true, and_self]
  · simp only [if_neg hblock, effected, run_gateway, hname, hout]
    split <;> exact ⟨rfl, rfl, rfl⟩

/-- The effect node makes the call that was asked for, and no other. -/
theorem apply_effects_spec (env : RunEnv) (origin : Option String) (state : GraphState)
    (ext : External) :
    (apply_effects env origin state ext).2.execution_log = state.execution_log ∧
    match requested state with
    | none => (apply_effects env origin state ext).1 = ext ∧
        (apply_effects env origin state ext).2.effect_results = state.effect_results
    | some req => (apply_effects env origin state ext).1 = effected env origin state req ext ∧
        (apply_effects env origin state ext).2.effect_results =
          state.effect_results ++ [env.gateway ext.calls.length req] := by
  unfold apply_effects requested
  rcases hname : state.selected_recipe with _ | name
  · exact ⟨rfl, rfl, rfl⟩
  rcases hlog : state.execution_log with _ | log
  · exact ⟨hlog, rfl, rfl⟩
  rcases effects_at_most_one name with he | ⟨effect, he⟩
  · simp only [he]
    exact ⟨hlog, rfl, rfl⟩
  · simp only [he, List.head?_cons, Option.bind_some, List.foldl_cons, List.foldl_nil]
    have hspec := apply_effect_spec env origin name log state effect ext hname hlog
    refine ⟨hspec.1.trans hlog, ?_⟩
    exact hspec.2

/-! ## Analysis and the end of a run -/

/-- The parts of the state that the analysis only reads. -/
structure SameResult (s s' : GraphState) : Prop where
  execution_log : s'.execution_log = s.execution_log
  effect_results : s'.effect_results = s.effect_results

theorem build_analysis_sameResult (env : RunEnv) (s : GraphState) :
    returns (build_analysis env s) (SameResult s) := by
  unfold build_analysis
  split
  · exact (returns_pure _).mpr ⟨rfl, rfl⟩
  · refine returns_bind fun offenders _ => ?_
    rcases offenders with _ | offenders
    · refine returns_bind fun composed _ => ?_
      dsimp only
      split <;> exact (returns_pure _).mpr ⟨rfl, rfl⟩
    · exact (returns_pure _).mpr ⟨rfl, rfl⟩

theorem explain_terminal_sameResult (s : GraphState) : SameResult s (explain_terminal s) := by
  unfold explain_terminal
  split
  · split <;> exact ⟨rfl, rfl⟩
  · exact ⟨rfl, rfl⟩

/-- The run gets as far as its recipe: no switch stops it, no gate halts it,
and `s` is the state that the recipe leaves. -/
def Executes (env : RunEnv) (state s : GraphState) : Prop :=
  env.kill_switch = false ∧ env.explain_mode = false ∧
    ∃ p, proposal_phase env state = .ok p ∧ p.final_status = none ∧ execute_recipe env p = .ok s

theorem Executes.unique {env : RunEnv} {state s t : GraphState} (hs : Executes env state s)
    (ht : Executes env state t) : s = t := by
  obtain ⟨-, -, p, hp, -, hs⟩ := hs
  obtain ⟨-, -, q, hq, -, ht⟩ := ht
  cases hp.symm.trans hq
  cases hs.symm.trans ht
  rfl

/-- `Executes`, as one can compute it. -/
def executed (env : RunEnv) (state : GraphState) : Option GraphState :=
  match proposal_phase env state with
  | .ok p =>
    if env.kill_switch = false ∧ env.explain_mode = false ∧ p.final_status = none then
      (execute_recipe env p).toOption
    else none
  | .error _ => none

theorem executed_eq_some {env : RunEnv} {state s : GraphState} :
    executed env state = some s ↔ Executes env state s := by
  unfold executed Executes
  rcases hp : proposal_phase env state with e | p
  · simp
  · rcases hs : execute_recipe env p with e | t
    · simp [hs, Except.toOption]
    · simp [hs, Except.toOption, and_assoc]

instance (env : RunEnv) (state : GraphState) : Decidable (∃ s, Executes env state s) :=
  decidable_of_iff ((executed env state).isSome = true)
    (by simp only [Option.isSome_iff_exists, executed_eq_some])

/-- The ways in which a run ends. -/
inductive RunEnd (env : RunEnv) (origin : Option String) (state : GraphState) (ext : External) :
    Except PyErr GraphState → External → Prop where
  /-- A switch or a gate stopped the run. -/
  | halted (fin : GraphState) (hexec : ∀ s, ¬ Executes env state s)
      (hreach : env.kill_switch = true ∨ ∃ p, proposal_phase env state = .ok p)
      (hlog : fin.execution_log = state.execution_log)
      (heff : fin.effect_results = state.effect_results) : RunEnd env origin state ext (.ok fin) ext
  /-- A node raised before any effect. -/
  | raised (e : PyErr) (hexec : ∀ s, ¬ Executes env state s) :
      RunEnd env origin state ext (.error e) ext
  /-- The recipe ran, its effect was called, and the analysis returned. -/
  | done (s fin : GraphState) (hexec : Executes env state s)
      (hlog : fin.execution_log = s.execution_log)
      (heff : fin.effect_results = (apply_effects env origin s ext).2.effect_results)
      (hret : ∃ t, build_analysis env (apply_effects env origin s ext).2 = .ok t) :
      RunEnd env origin state ext (.ok fin) (apply_effects env origin s ext).1
  /-- The recipe ran, its effect was called, and the analysis raised. -/
  | broke (s : GraphState) (e : PyErr) (hexec : Executes env state s)
      (hraise : build_analysis env (apply_effects env origin s ext).2 = .error e) :
      RunEnd env origin state ext (.error e) (apply_effects env origin s ext).1

/-- Every run ends in one of these ways. -/
theorem run_graph_end (env : RunEnv) (origin : Option String) (state : GraphState)
    (ext : External) :
    wp (run_graph env origin state) (fun fin ext' => RunEnd env origin state ext (.ok fin) ext')
      (fun e ext' => RunEnd env origin state ext (.error e) ext') ext := by
  unfold run_graph
  by_cases hkill : env.kill_switch = true
  · simp only [hkill, if_true, wp_pure]
    refine .halted _ ?_ (Or.inl hkill) rfl rfl
    rintro s ⟨hs, -⟩
    simp [hkill] at hs
  rw [if_neg hkill, wp_bind, wp_ofExcept]
  have hkill' : env.kill_switch = false := by simpa using hkill
  refine ⟨fun p hp => ?_, fun e he => .raised e ?_⟩
  swap
  · rintro s ⟨-, -, p, hp, -⟩
    cases he.symm.trans hp
  have hgiven := proposal_phase_given env state p hp
  have hlog := congrArg Given.execution_log hgiven
  have heff := congrArg Given.effect_results hgiven
  -- A run that never executes is analysed as it stands.
  have hhalt : ∀ q : GraphState, (∀ s, ¬ Executes env state s) → SameResult p q →
      wp (do
        let state ← ofExcept (build_analysis env q)
        return explain_terminal state)
        (fun fin ext' => RunEnd env origin state ext (.ok fin) ext')
        (fun e ext' => RunEnd env origin state ext (.error e) ext') ext := by
    intro q hno hq
    rw [wp_bind, wp_ofExcept]
    refine ⟨fun t ht => ?_, fun e _ => .raised e hno⟩
    have hb := build_analysis_sameResult env q t ht
    have hx := explain_terminal_sameResult t
    refine .halted _ hno (Or.inr ⟨p, hp⟩) ?_ ?_
    · exact hx.execution_log.trans (hb.execution_log.trans (hq.execution_log.trans hlog))
    · exact hx.effect_results.trans (hb.effect_results.trans (hq.effect_results.trans heff))
  by_cases hfin : p.final_status.isSome = true
  · rw [if_pos hfin, wp_bind, wp_pure]
    refine hhalt p ?_ ⟨rfl, rfl⟩
    rintro s ⟨-, -, q, hq, hnone, -⟩
    cases hp.symm.trans hq
    simp [hnone] at hfin
  rw [if_neg hfin, wp_bind]
  have hnone : p.final_status = none := by simpa using hfin
  unfold after_shadow
  by_cases hexplain : env.explain_mode = true
  · rw [if_pos hexplain, wp_pure]
    refine hhalt _ ?_ ⟨rfl, rfl⟩
    rintro s ⟨-, hs, -⟩
    simp [hexplain] at hs
  have hexplain' : env.explain_mode = false := by simpa using hexplain
  rw [if_neg hexplain, wp_bind, wp_ofExcept]
  refine ⟨fun s hs => ?_, fun e he => .raised e ?_⟩
  swap
  · rintro s ⟨-, -, q, hq, -, hs⟩
    cases hp.symm.trans hq
    cases he.symm.trans hs
  have hexec : Executes env state s := ⟨hkill', hexplain', p, hp, hnone, hs⟩
  simp only [wp_bind, wp_get, wp_set, wp_pure, wp_ofExcept]
  refine ⟨fun t ht => ?_, fun e he => .broke s e hexec he⟩
  have hb := build_analysis_sameResult env _ t ht
  have hx := explain_terminal_sameResult t
  have happ := (apply_effects_spec env origin s ext).1
  refine .done s _ hexec ?_ ?_ ⟨t, ht⟩
  · exact hx.execution_log.trans (hb.execution_log.trans happ)
  · exact hx.effect_results.trans hb.effect_results

end asoe
