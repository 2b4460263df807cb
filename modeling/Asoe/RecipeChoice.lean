-- Which recipe a run without a direction chooses: the answer of the recipe
-- backend to the state that it is asked on. What the registry allows for the
-- intent of the run is not read on the way.
import Asoe.HumanRequests
import Asoe.ShadowGate

namespace asoe

open py prog flow

/-! ## The run up to its recipe -/

/-- A state as the callers of `run_graph` start with. -/
structure Fresh (s : GraphState) : Prop where
  selected_recipe : s.selected_recipe = none
  invocation : s.invocation = none
  execution_log : s.execution_log = none
  final_status : s.final_status = none

/-- The state on which the recipe backend is asked. -/
def asked (env : RunEnv) (state : GraphState) : Except PyErr GraphState := do
  let state ← ingest env state
  let state ← load_skill env (classify env state)
  return validate_circuit_breaker state

theorem after_gate_open {s : GraphState} (h : s.final_status = none)
    (rest : GraphState → Except PyErr GraphState) : after_gate s rest = rest s := by
  unfold after_gate
  rw [if_neg (by simp [h])]

section path

variable {env : RunEnv} {origin : Option String} {ext : External} {s : GraphState} {p : Pos}
  {vs : List (Visit NodeName Pos)} {node m : NodeName}

theorem nothing_after_analysis {u : Pos}
    (h : Path (build_graph env origin) .build_analysis u vs node p) : node = .build_analysis := by
  by_contra hne
  obtain ⟨u', n', ws, hexec, hnext, hrest⟩ := h.first (Ne.symm hne)
  cases hnext

theorem past_gate {t : GraphState} (hnode : node ≠ .build_analysis)
    (h : Path (build_graph env origin) (route_after_gate t m) (t, ext) vs node p) :
    t.final_status = none ∧ Path (build_graph env origin) m (t, ext) vs node p := by
  unfold route_after_gate at h
  split at h
  · exact absurd (nothing_after_analysis h) hnode
  · rename_i hopen
    exact ⟨by simpa using hopen, h⟩

theorem next_inside {t : GraphState} {r : Except PyErr GraphState}
    (h : Path (build_graph env origin) node (t, ext) vs m p) (hne : node ≠ m)
    (hrun : run_node env origin node (t, ext) = r.map fun u => (u, ext)) :
    ∃ u n ws, r = .ok u ∧ successor env.explain_mode node u = some n ∧
      Path (build_graph env origin) n (u, ext) ws m p := by
  obtain ⟨u, n, ws, hexec, hnext, hrest⟩ := h.first hne
  have hexec' : r.map (fun u => (u, ext)) = .ok u := hrun.symm.trans hexec
  obtain ⟨hr, hext⟩ := inside_eq_ok hexec'
  refine ⟨u.1, n, ws, hr, hnext, ?_⟩
  rw [← hext]
  exact hrest

/-- A run that is at its recipe has been through the whole proposal phase,
and no gate has halted it. -/
theorem reaches_execute_recipe (h : Reaches env origin (s, ext) vs .execute_recipe p) :
    proposal_phase env s = .ok p.1 ∧ p.1.final_status = none ∧ env.explain_mode = false ∧
      p.2 = ext := by
  have hlive := (reaches_passed h (Or.inl rfl)).1
  have hlast : NodeName.execute_recipe ≠ .build_analysis := by decide
  obtain ⟨s₁, _, _, h₁, hn, h⟩ := next_inside h (by decide) rfl
  cases hn
  obtain ⟨_, _, _, hc, hn, h⟩ := next_inside (r := .ok (classify env s₁)) h (by decide) rfl
  cases hn
  cases hc
  obtain ⟨s₂, _, _, h₂, hn, h⟩ := next_inside h (by decide) rfl
  cases hn
  obtain ⟨b, _, _, hb, hn, h⟩ :=
    next_inside (r := .ok (validate_circuit_breaker s₂)) h (by decide) rfl
  cases hn
  cases hb
  obtain ⟨hopen_b, h⟩ := past_gate hlast h
  obtain ⟨c, _, _, hc, hn, h⟩ :=
    next_inside (r := .ok (select_recipe env (validate_circuit_breaker s₂))) h (by decide) rfl
  cases hn
  cases hc
  obtain ⟨hopen_c, h⟩ := past_gate hlast h
  obtain ⟨d, _, _, hd, hn, h⟩ := next_inside (r := .ok (resolve_dependencies env (select_recipe env
    (validate_circuit_breaker s₂)))) h (by decide) rfl
  cases hn
  cases hd
  obtain ⟨hopen_d, h⟩ := past_gate hlast h
  obtain ⟨t, _, _, ht, hn, h⟩ := next_inside h (by decide) rfl
  cases hn
  obtain ⟨hopen_t, h⟩ := past_gate hlast h
  obtain ⟨a, _, _, ha, hn, h⟩ := next_inside h (by decide) rfl
  cases hn
  obtain ⟨hopen_a, h⟩ := past_gate hlast h
  rw [hlive] at h
  cases h with
  | visit hexec hnext hrest =>
    -- after its recipe the run only has the effects and the analysis
    cases hnext
    obtain ⟨u', n', ws, hexec', hnext', hrest'⟩ := hrest.first (by decide)
    cases hnext'
    cases nothing_after_analysis hrest'
  | here =>
    refine ⟨?_, hopen_a, hlive, rfl⟩
    unfold proposal_phase
    rw [ok_bind h₁, ok_bind h₂, after_gate_open hopen_b, after_gate_open hopen_c,
      after_gate_open hopen_d, ok_bind ht, after_gate_open hopen_t]
    exact ha

end path

/-! ## What the proposal phase chooses -/

theorem select_recipe_answer (env : RunEnv) (b : GraphState) (hdir : b.directed_recipe = none)
    (hsel : b.selected_recipe = none) : (select_recipe env b).selected_recipe = proposal env b := by
  simp only [select_recipe, hdir]
  split
  · rename_i hp
    have hnone : proposal env b = none := hp
    rw [hnone]
    exact hsel
  · rename_i name hp
    have hsome : proposal env b = some name := hp
    rw [hsome]
    rfl

/-- What the run was given and what it has classified, at a state of the
proposal phase. -/
structure Opened (s t : GraphState) : Prop where
  given : t.given = s.given
  intent : t.intent = (classify_intent s.event).intent
  invocation : t.invocation = s.invocation

/-- The invocation of a run: the answer of the backend, with the parameters
that a state of this run gives. -/
def Invokes (s p : GraphState) (answer : Option RecipeName) : Prop :=
  match answer with
  | none => p.invocation = s.invocation
  | some name => ∃ d params, d.given = s.given ∧
      ((get_recipe name).dependencies = [] → d.enrichment_context = s.enrichment_context) ∧
      invocation_params d name = .ok params ∧ p.invocation = some ⟨name, params⟩

theorem asked_opened (env : RunEnv) (s : GraphState) : returns (asked env s) fun b =>
    Opened s b ∧ b.selected_recipe = s.selected_recipe ∧
      b.enrichment_context = s.enrichment_context := by
  refine returns_bind fun s₁ h₁ => returns_bind fun s₂ h₂ => (returns_pure _).mpr ?_
  have hkeep := opening_undecided env s s₁ s₂ h₁ h₂
  have w₁ := ingest_wrote env s s₁ h₁
  have w₂ := classify_wrote env s₁
  have w₃ := load_skill_wrote env _ s₂ h₂
  have w₄ := validate_circuit_breaker_wrote s₂
  refine ⟨⟨hkeep.given, ?_, ?_⟩, hkeep.selected_recipe, hkeep.enrichment_context⟩
  · rw [w₄.intent (by decide), w₃.intent (by decide), classify_deterministic, w₁.event]
  · rw [w₄.invocation (by decide), w₃.invocation (by decide), w₂.invocation (by decide),
      w₁.invocation (by decide)]

/-- The proposal phase from the state on which the backend is asked. -/
def after_asking (env : RunEnv) (b : GraphState) : Except PyErr GraphState :=
  after_gate b fun state =>
    after_gate (select_recipe env state) fun state =>
      after_gate (resolve_dependencies env state) fun state => do
        let state ← validate_types state
        after_gate state (shadow_audit env)

theorem proposal_phase_eq (env : RunEnv) (s : GraphState) :
    proposal_phase env s = asked env s >>= after_asking env := by
  unfold proposal_phase asked
  simp only [bind_assoc, pure_bind]
  rfl

theorem validate_types_without_recipe (d : GraphState) (h : d.selected_recipe = none) :
    returns (validate_types d) fun t => t.invocation = d.invocation := by
  unfold validate_types
  rw [h]
  exact (returns_pure _).mpr rfl

/-- A proposal phase that no gate halts has been through all of its nodes. -/
theorem proposal_phase_passes (env : RunEnv) (s : GraphState) :
    returns (proposal_phase env s) fun p => p.final_status = none →
      ∃ b t, asked env s = .ok b ∧ t.final_status = none ∧
        validate_types (resolve_dependencies env (select_recipe env b)) = .ok t ∧
        shadow_audit env t = .ok p := by
  rw [proposal_phase_eq]
  refine returns_bind fun b hb => ?_
  refine returns_after_gate (fun hh hf => ?_) fun _ => ?_
  · simp [hf] at hh
  refine returns_after_gate (fun hh hf => ?_) fun _ => ?_
  · simp [hf] at hh
  refine returns_after_gate (fun hh hf => ?_) fun _ => returns_bind fun t ht => ?_
  · simp [hf] at hh
  refine returns_after_gate (fun hh hf => ?_) fun hopen => ?_
  · simp [hf] at hh
  intro p hp _
  exact ⟨b, t, hb, hopen, ht, hp⟩

/-- It ends with the intent of the deterministic classifier, and with the
invocation of the recipe that it is on. -/
theorem proposal_phase_invokes (env : RunEnv) (s : GraphState) :
    returns (proposal_phase env s) fun p => p.final_status = none →
      p.given = s.given ∧ p.intent = (classify_intent s.event).intent ∧
        Invokes s p p.selected_recipe ∧
        ∃ b, asked env s = .ok b ∧
          p.selected_recipe = (select_recipe env b).selected_recipe := by
  intro p hp hfinal
  obtain ⟨b, t, hb, hopen, ht, hp⟩ := proposal_phase_passes env s p hp hfinal
  obtain ⟨hopened, -, hbenr⟩ := asked_opened env s b hb
  have w₁ := select_recipe_wrote env b
  have w₂ := resolve_dependencies_wrote env (select_recipe env b)
  have w₃ := validate_types_wrote _ t ht
  have w₄ := shadow_audit_wrote env t p hp
  obtain ⟨hkeep, hparams⟩ := validate_types_undecided _ t ht
  obtain ⟨hkeep', hinv⟩ := shadow_audit_undecided env t p hp
  have hgiven : (resolve_dependencies env (select_recipe env b)).given = s.given :=
    (resolve_dependencies_given env _).1.trans ((select_recipe_given env b).trans hopened.given)
  have hdeps : (resolve_dependencies env (select_recipe env b)).selected_recipe =
      (select_recipe env b).selected_recipe := w₂.selected_recipe (by decide)
  have hselected : p.selected_recipe = (select_recipe env b).selected_recipe := by
    rw [hkeep'.selected_recipe, hkeep.selected_recipe, hdeps]
  refine ⟨hkeep'.given.trans (hkeep.given.trans hgiven), ?_, ?_, b, hb, hselected⟩
  · rw [w₄.intent (by decide), w₃.intent (by decide), w₂.intent (by decide),
      w₁.intent (by decide), hopened.intent]
  · unfold Invokes
    rcases hname : p.selected_recipe with _ | name
    · have hkept := validate_types_without_recipe _
        (hdeps.trans (hselected.symm.trans hname)) t ht
      rw [hinv, hkept, w₂.invocation (by decide), w₁.invocation (by decide), hopened.invocation]
    · have hsel := hselected.symm.trans hname
      obtain ⟨params, hok, hset⟩ := hparams name (hdeps.trans hsel) hopen
      refine ⟨_, params, hgiven, fun hnone => ?_, hok, hinv.trans hset⟩
      rw [(resolve_dependencies_of_none env _ name hsel hnone).enrichment_context,
        select_recipe_enrichment, hbenr]

theorem proposal_phase_chooses (env : RunEnv) (s : GraphState) (hdir : s.directed_recipe = none)
    (hsel : s.selected_recipe = none) :
    returns (proposal_phase env s) fun p => p.final_status = none →
      ∃ b, asked env s = .ok b ∧ p.selected_recipe = proposal env b := by
  intro p hp hfinal
  obtain ⟨-, -, -, b, hb, hselected⟩ := proposal_phase_invokes env s p hp hfinal
  obtain ⟨hopened, hbsel, -⟩ := asked_opened env s b hb
  have hchoice := select_recipe_answer env b
    ((congrArg Given.directed_recipe hopened.given).trans hdir) (hbsel.trans hsel)
  exact ⟨b, hb, hselected.trans hchoice⟩

/-! ## The intents that a recipe is registered for -/

/-- A recipe is called only for an intent that its registration allows. -/
def RecipesFit (env : RunEnv) (origin : Option String) (start : Pos) : Prop :=
  ∀ vs node p inv, Reaches env origin start vs node p → recipe_called node p.1 = some inv →
    p.1.intent ∈ (get_recipe inv.recipe_name).allowed_intents

/-- The run gets as far as a recipe function. -/
def CallsRecipe (env : RunEnv) (origin : Option String) (start : Pos) : Prop :=
  ∃ vs node p, Reaches env origin start vs node p ∧ recipe_called node p.1 ≠ none

/-- The backend names no recipe, or one whose registration allows the
intent of the event. -/
def FittingAnswer (env : RunEnv) (s : GraphState) : Prop :=
  ∀ b, asked env s = .ok b → ∀ name, proposal env b = some name →
    (classify_intent s.event).intent ∈ (get_recipe name).allowed_intents

theorem propose_recipe_allowed (intent : Intent) (name : RecipeName)
    (h : propose_recipe intent = some name) : intent ∈ (get_recipe name).allowed_intents := by
  cases intent <;> cases h <;> decide

theorem deterministic_answer_fits {env : RunEnv} (henv : env.recipe_backend = none)
    (s : GraphState) : FittingAnswer env s := by
  intro b hb name hname
  obtain ⟨hopened, -⟩ := asked_opened env s b hb
  rw [← hopened.intent]
  refine propose_recipe_allowed b.intent name ?_
  unfold proposal at hname
  rwa [henv] at hname

section fit

variable {env : RunEnv} {origin : Option String} {s : GraphState} {ext : External}

/-- The recipe that a run calls is the one that its backend has named. -/
theorem called_is_named (hfresh : Fresh s) (hdir : s.directed_recipe = none)
    {vs : List (Visit NodeName Pos)} {node : NodeName} {p : Pos} {inv : RecipeInvocation}
    (hpath : Reaches env origin (s, ext) vs node p) (hcall : recipe_called node p.1 = some inv) :
    p.1.intent = (classify_intent s.event).intent ∧
      ∃ b, asked env s = .ok b ∧ proposal env b = some inv.recipe_name := by
  have hnode : node = .execute_recipe := by
    by_contra hne
    simp [recipe_called, hne] at hcall
  subst hnode
  obtain ⟨hp, hopen, -, -⟩ := reaches_execute_recipe hpath
  obtain ⟨-, hintent, hinvokes, -⟩ := proposal_phase_invokes env s p.1 hp hopen
  obtain ⟨b, hb, hchoice⟩ :=
    proposal_phase_chooses env s hdir hfresh.selected_recipe p.1 hp hopen
  refine ⟨hintent, b, hb, ?_⟩
  have hinv : p.1.invocation = some inv := by
    simp only [recipe_called, if_true, Option.filter_eq_some_iff] at hcall
    exact hcall.1
  rw [hchoice] at hinvokes
  unfold Invokes at hinvokes
  rcases hanswer : proposal env b with _ | name
  · simp only [hanswer] at hinvokes
    rw [hinv, hfresh.invocation] at hinvokes
    cases hinvokes
  · simp only [hanswer] at hinvokes
    obtain ⟨d, params, -, -, -, hset⟩ := hinvokes
    cases hinv.symm.trans hset
    rfl

/-- The recipes of a run fit its intent exactly when the answer of the
backend does, or the run calls no recipe at all. -/
theorem recipes_fit_iff_the_answer_does (env : RunEnv) (origin : Option String) (s : GraphState)
    (ext : External) (hfresh : Fresh s) (hdir : s.directed_recipe = none) :
    RecipesFit env origin (s, ext) ↔ (CallsRecipe env origin (s, ext) → FittingAnswer env s) := by
  constructor
  · rintro hfit ⟨vs, node, p, hpath, hcall⟩ b hb name hname
    obtain ⟨inv, hinv⟩ := Option.ne_none_iff_exists'.mp hcall
    obtain ⟨hintent, b', hb', hnamed⟩ := called_is_named hfresh hdir hpath hinv
    cases hb.symm.trans hb'
    cases hname.symm.trans hnamed
    rw [← hintent]
    exact hfit vs node p inv hpath hinv
  · intro hfits vs node p inv hpath hcall
    obtain ⟨hintent, b, hb, hnamed⟩ := called_is_named hfresh hdir hpath hcall
    have hcalls : CallsRecipe env origin (s, ext) := ⟨vs, node, p, hpath, by simp [hcall]⟩
    rw [hintent]
    exact hfits hcalls b hb inv.recipe_name hnamed

end fit

/-! ## A price correction on an order intake -/

theorem fresh_of_event (event : OrderEvent) : Fresh { event := event } := ⟨rfl, rfl, rfl, rfl⟩

/-- A backend that names one recipe for every state, with the recipes of
the registry. -/
def namingRun (name : RecipeName) : RunEnv :=
  { sampleRun 100 with
    recipe_backend := some fun _ => some name
    other_recipes := registered_recipe noDates }

theorem meets_execute_recipe {env : RunEnv} (origin : Option String) {s p : GraphState}
    (ext : External) (hlive : env.explain_mode = false) (hp : proposal_phase env s = .ok p)
    (hopen : p.final_status = none) :
    ∃ vs, Reaches env origin (s, ext) vs .execute_recipe (p, ext) := by
  have hleads : Leads env origin (s, ext) ext (proposal_phase env s) := proposal_phase_leads s
  rw [hp] at hleads
  simpa [Leads, Meets, route_after_gate, continuation, hopen, hlive] using hleads

/-- The price correction is called on an order intake, which its
registration does not allow. -/
theorem a_price_correction_runs_on_an_intake :
    ¬ RecipesFit (namingRun .PriceAdjustmentRecipe) none ({ event := sampleEvent }, {}) := by
  obtain ⟨p, hp, hopen, hintent, hcall⟩ : ∃ p,
      proposal_phase (namingRun .PriceAdjustmentRecipe) { event := sampleEvent } = .ok p ∧
        p.final_status = none ∧ p.intent = .MANUAL_ORDER_INTAKE ∧
        (recipe_called .execute_recipe p).map (·.recipe_name) = some .PriceAdjustmentRecipe := by
    decide +kernel
  obtain ⟨inv, hinv, hname⟩ := Option.map_eq_some_iff.mp hcall
  obtain ⟨vs, hpath⟩ := meets_execute_recipe none {} rfl hp hopen
  intro hfit
  have hallowed := hfit vs _ _ inv hpath hinv
  rw [hname, hintent] at hallowed
  exact absurd hallowed (by decide)

/-- The rule at the sample order, with the deterministic backend. -/
theorem the_sample_recipe_fits : RecipesFit (sampleRun 100) none ({ event := sampleEvent }, {}) :=
  (recipes_fit_iff_the_answer_does (sampleRun 100) none { event := sampleEvent } {}
    (fresh_of_event sampleEvent) rfl).mpr fun _ => deterministic_answer_fits rfl _

end asoe
