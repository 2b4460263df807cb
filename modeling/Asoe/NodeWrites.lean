-- What each node of the graph writes: the fields of the state that are its
-- own, the entry that it leaves on the trace, and the terminal status.
import Asoe.Topology

namespace asoe

open py prog flow

/-! ## The fields of each node -/

/-- `node` turns `s` into `s'` and changes none but its own fields, beside
the status, the explanation and the trace. -/
def NodeWrote (node : NodeName) (s s' : GraphState) : Prop :=
  let common (t : GraphState) : GraphState :=
    { t with
      final_status := s'.final_status
      explanation := s'.explanation
      execution_trace := s'.execution_trace }
  match node with
  | .ingest =>
    s' = common { s with
      request_trace_id := s'.request_trace_id
      update_count := s'.update_count
      batch_total_variance := s'.batch_total_variance }
  | .classify => s' = common { s with intent := s'.intent, confidence := s'.confidence }
  | .load_skill => s' = common { s with skill := s'.skill }
  | .validate_circuit_breaker => s' = common s
  | .select_recipe => s' = common { s with selected_recipe := s'.selected_recipe }
  | .resolve_dependencies => s' = common { s with enrichment_context := s'.enrichment_context }
  | .validate_types => s' = common { s with invocation := s'.invocation }
  | .shadow_audit => s' = common { s with shadow := s'.shadow }
  | .execute_recipe => s' = common { s with execution_log := s'.execution_log }
  | .apply_effects => s' = common { s with effect_results := s'.effect_results }
  | .explain_only => s' = common s
  | .build_analysis => s' = common s

section fields

variable {node : NodeName} {s s' : GraphState}

theorem NodeWrote.event (h : NodeWrote node s s') : s'.event = s.event := by
  cases node <;> exact (congrArg GraphState.event h :)

theorem NodeWrote.directed_recipe (h : NodeWrote node s s') : s'.directed_recipe = s.directed_recipe := by
  cases node <;> exact (congrArg GraphState.directed_recipe h :)

theorem NodeWrote.update_count (h : NodeWrote node s s') (hn : node ≠ .ingest) :
    s'.update_count = s.update_count := by
  cases node <;> first | exact (congrArg GraphState.update_count h :) | exact absurd rfl hn

theorem NodeWrote.batch_total_variance (h : NodeWrote node s s') (hn : node ≠ .ingest) :
    s'.batch_total_variance = s.batch_total_variance := by
  cases node <;> first | exact (congrArg GraphState.batch_total_variance h :) | exact absurd rfl hn

theorem NodeWrote.intent (h : NodeWrote node s s') (hn : node ≠ .classify) : s'.intent = s.intent := by
  cases node <;> first | exact (congrArg GraphState.intent h :) | exact absurd rfl hn

theorem NodeWrote.selected_recipe (h : NodeWrote node s s') (hn : node ≠ .select_recipe) :
    s'.selected_recipe = s.selected_recipe := by
  cases node <;> first | exact (congrArg GraphState.selected_recipe h :) | exact absurd rfl hn

theorem NodeWrote.invocation (h : NodeWrote node s s') (hn : node ≠ .validate_types) :
    s'.invocation = s.invocation := by
  cases node <;> first | exact (congrArg GraphState.invocation h :) | exact absurd rfl hn

theorem NodeWrote.shadow (h : NodeWrote node s s') (hn : node ≠ .shadow_audit) :
    s'.shadow = s.shadow := by
  cases node <;> first | exact (congrArg GraphState.shadow h :) | exact absurd rfl hn

end fields

/-! ## Each node writes its own fields -/

section nodes

variable (env : RunEnv) (origin : Option String) (s : GraphState)

theorem ingest_wrote : returns (ingest env s) (NodeWrote .ingest s) := by
  unfold ingest
  split
  · exact (returns_pure _).mpr rfl
  · exact returns_bind fun _ _ => (returns_pure _).mpr rfl

theorem classify_wrote : NodeWrote .classify s (classify env s) := by
  simp only [classify]
  split
  · rfl
  · split <;> rfl

theorem load_skill_wrote : returns (load_skill env s) (NodeWrote .load_skill s) :=
  returns_bind fun _ _ => (returns_pure _).mpr rfl

theorem validate_circuit_breaker_wrote :
    NodeWrote .validate_circuit_breaker s (validate_circuit_breaker s) := by
  simp only [validate_circuit_breaker]
  split <;> rfl

theorem select_recipe_wrote : NodeWrote .select_recipe s (select_recipe env s) := by
  simp only [select_recipe]
  split
  · rfl
  · split <;> rfl

/-- The dependencies that complete before one that halts the run put their
data into the context, one after another. -/
theorem resolve_each_wrote (deps : List GatewayDependency) (s t : GraphState)
    (ht : t = { s with enrichment_context := t.enrichment_context }) :
    NodeWrote .resolve_dependencies s (resolve_each env t deps) := by
  induction deps generalizing t with
  | nil =>
    rw [resolve_each, ht]
    rfl
  | cons dep deps ih =>
    simp only [resolve_each]
    split
    · refine ih _ ?_
      rw [ht]
    · split
      · rw [ht]
        rfl
      · refine ih _ ?_
        rw [ht]

theorem resolve_dependencies_wrote :
    NodeWrote .resolve_dependencies s (resolve_dependencies env s) := by
  simp only [resolve_dependencies]
  split
  · rfl
  · exact resolve_each_wrote env _ s s rfl

theorem validate_types_wrote : returns (validate_types s) (NodeWrote .validate_types s) := by
  unfold validate_types
  split
  · exact (returns_pure _).mpr rfl
  · split
    · exact (returns_pure _).mpr rfl
    · exact returns_bind fun _ _ => (returns_pure _).mpr rfl

theorem shadow_audit_wrote : returns (shadow_audit env s) (NodeWrote .shadow_audit s) := by
  refine returns_bind fun _ _ => returns_bind fun shadow _ => (returns_pure _).mpr ?_
  simp only [enforce]
  split <;> rfl

theorem gate_intake_wrote (t : GraphState)
    (ht : t = { s with
      execution_log := t.execution_log
      final_status := t.final_status
      explanation := t.explanation }) :
    NodeWrote .execute_recipe s (record_plain (gate_intake t) .execute_recipe) := by
  unfold gate_intake
  split <;> (rw [ht]; rfl)

theorem route_outputs_wrote (log : ExecutionLog) :
    returns (route_outputs s log) fun t =>
      NodeWrote .execute_recipe s (record_plain t .execute_recipe) := by
  unfold route_outputs
  refine returns_bind fun human _ => ?_
  cases human <;> exact (returns_pure _).mpr (gate_intake_wrote s _ rfl)

theorem execute_recipe_wrote : returns (execute_recipe env s) (NodeWrote .execute_recipe s) := by
  unfold execute_recipe
  split
  · exact (returns_pure _).mpr rfl
  · dsimp only
    split
    · exact (returns_pure _).mpr rfl
    · exact returns_bind fun t ht => (returns_pure _).mpr (route_outputs_wrote s _ t ht)

theorem apply_effect_wrote (name : RecipeName) (outputs : PyDict) (t : GraphState)
    (effect : GatewayEffect) (ext : External)
    (ht : t = { s with effect_results := t.effect_results, explanation := t.explanation }) :
    let t' := (apply_effect env origin name outputs t effect ext).2
    t' = { s with effect_results := t'.effect_results, explanation := t'.explanation } := by
  simp only [apply_effect]
  split
  · exact ht
  · split <;> (rw [ht])

theorem apply_effects_wrote (ext : External) :
    NodeWrote .apply_effects s (apply_effects env origin s ext).2 := by
  unfold apply_effects
  split
  · rename_i name log _ _
    rcases effects_at_most_one name with he | ⟨effect, he⟩
    · rw [he]
      rfl
    · rw [he]
      have ht := apply_effect_wrote env origin s name log.outputs s effect ext rfl
      dsimp only [List.foldl_cons, List.foldl_nil]
      rw [ht]
      rfl
  · rfl

theorem build_analysis_wrote : returns (build_analysis env s) (NodeWrote .build_analysis s) := by
  unfold build_analysis
  split
  · exact (returns_pure _).mpr rfl
  · refine returns_bind fun offenders _ => ?_
    rcases offenders with _ | offenders
    · refine returns_bind fun composed _ => ?_
      dsimp only
      split <;> exact (returns_pure _).mpr rfl
    · exact (returns_pure _).mpr rfl

end nodes

theorem inside_eq_ok {r : Except PyErr GraphState} {ext : External} {p : Pos}
    (h : r.map (fun s => (s, ext)) = .ok p) : r = .ok p.1 ∧ p.2 = ext := by
  cases r with
  | error e => cases h
  | ok s =>
    cases h
    exact ⟨rfl, rfl⟩

variable {origin : Option String} {node : NodeName}

/-- Every node writes its own fields, and only the effect node reaches what
lies outside. -/
theorem run_node_wrote {env : RunEnv} {p p' : Pos}
    (h : (build_graph env origin).exec node p = .ok p') :
    NodeWrote node p.1 p'.1 ∧ (node ≠ .apply_effects → p'.2 = p.2) := by
  cases node
  case classify =>
    cases h
    exact ⟨classify_wrote env p.1, fun _ => rfl⟩
  case validate_circuit_breaker =>
    cases h
    exact ⟨validate_circuit_breaker_wrote p.1, fun _ => rfl⟩
  case select_recipe =>
    cases h
    exact ⟨select_recipe_wrote env p.1, fun _ => rfl⟩
  case resolve_dependencies =>
    cases h
    exact ⟨resolve_dependencies_wrote env p.1, fun _ => rfl⟩
  case explain_only =>
    cases h
    exact ⟨rfl, fun _ => rfl⟩
  case apply_effects =>
    cases h
    exact ⟨apply_effects_wrote env origin p.1 p.2, fun hn => absurd rfl hn⟩
  -- the nodes that may raise
  all_goals
    obtain ⟨hr, hext⟩ := inside_eq_ok h
    refine ⟨?_, fun _ => hext⟩
  case ingest => exact ingest_wrote env p.1 _ hr
  case load_skill => exact load_skill_wrote env p.1 _ hr
  case validate_types => exact validate_types_wrote p.1 _ hr
  case shadow_audit => exact shadow_audit_wrote env p.1 _ hr
  case execute_recipe => exact execute_recipe_wrote env p.1 _ hr
  case build_analysis => exact build_analysis_wrote env p.1 _ hr

@[simp] theorem explain_terminal_final_status (s : GraphState) :
    (explain_terminal s).final_status = s.final_status := by
  unfold explain_terminal
  split
  · split <;> rfl
  · rfl

@[simp] theorem explain_terminal_intent (s : GraphState) :
    (explain_terminal s).intent = s.intent := by
  unfold explain_terminal
  split
  · split <;> rfl
  · rfl

@[simp] theorem explain_terminal_execution_trace (s : GraphState) :
    (explain_terminal s).execution_trace = s.execution_trace := by
  unfold explain_terminal
  split
  · split <;> rfl
  · rfl

/-! ## How each node is left -/

/-- The intent backend gives the intent of the deterministic classifier. -/
def Agrees (env : RunEnv) (s : GraphState) : Prop :=
  ∀ backend, env.intent_backend = some backend →
    (backend s).intent = (classify_intent s.event).intent

/-- The answer of the recipe backend to a state. -/
def proposal (env : RunEnv) (s : GraphState) : Option RecipeName :=
  match env.recipe_backend with
  | some backend => backend s
  | none => propose_recipe s.intent

/-- The ways out of each node that runs on `s` and leaves `s'`: the verdict
on the trace, and the terminal status that the node sets, if it sets one. -/
inductive Exit (env : RunEnv) (s s' : GraphState) :
    NodeName → Option String → Option TerminalStatus → Prop where
  | ingested (h : s.event.order_id ≠ "") : Exit env s s' .ingest none none
  | refused (h : s.event.order_id = "") : Exit env s s' .ingest none (some .FAIL_TO_HUMAN)
  | agreed (h : Agrees env s) : Exit env s s' .classify (some "ok") none
  | disagreed (h : ¬ Agrees env s) :
      Exit env s s' .classify (some "cross_check_disagreement") (some .MANUAL_REVIEW_REQUIRED)
  | loaded : Exit env s s' .load_skill none none
  | within (h : circuit_breaker s.update_count s.batch_total_variance = []) :
      Exit env s s' .validate_circuit_breaker (some "ok") none
  | breached (h : circuit_breaker s.update_count s.batch_total_variance ≠ []) :
      Exit env s s' .validate_circuit_breaker (some "breach") (some .FAIL_TO_HUMAN)
  | directed (h : s.directed_recipe ≠ none) : Exit env s s' .select_recipe (some "directed") none
  | unproposed (h : s.directed_recipe = none) (hp : proposal env s = none) :
      Exit env s s' .select_recipe (some "no_recipe") none
  | proposed (h : s.directed_recipe = none) (hp : proposal env s ≠ none) :
      Exit env s s' .select_recipe (some "ok") none
  | resolved : Exit env s s' .resolve_dependencies (some "ok") none
  | required_failed :
      Exit env s s' .resolve_dependencies (some "required_gw_fail") (some .FAIL_TO_HUMAN)
  | typed : Exit env s s' .validate_types (some "ok") none
  | untyped : Exit env s s' .validate_types (some "invocation_fail") (some .FAIL_TO_HUMAN)
  | green (h : s'.shadow.map (·.status) = some .GREEN) :
      Exit env s s' .shadow_audit (some "green") none
  | yellow : Exit env s s' .shadow_audit (some "yellow") (some .MANUAL_REVIEW_REQUIRED)
  | red : Exit env s s' .shadow_audit (some "red") (some .BLOCKED)
  | executed (st : TerminalStatus) : Exit env s s' .execute_recipe none (some st)
  | effected : Exit env s s' .apply_effects none none
  | explained : Exit env s s' .explain_only none (some .MANUAL_REVIEW_REQUIRED)
  | analysed : Exit env s s' .build_analysis none none
  | gap (h : s.final_status ≠ some .FAIL_TO_HUMAN) :
      Exit env s s' .build_analysis none (some .AUDIT_CONTEXT_MISSING)

/-- The node leaves one entry on the trace, with its name and its verdict. -/
def Recorded (node : NodeName) (verdict : Option String) (s s' : GraphState) : Prop :=
  ∃ entry : ExecutedNode, s'.execution_trace = s.execution_trace ++ [entry] ∧
    entry.node = node ∧ entry.exit_verdict = verdict

/-- What the run of a node comes to. -/
def Left (env : RunEnv) (node : NodeName) (s s' : GraphState) : Prop :=
  ∃ verdict sets, Exit env s s' node verdict sets ∧ Recorded node verdict s s' ∧
    s'.final_status = sets.or s.final_status

section exits

variable (env : RunEnv) (origin : Option String) (s : GraphState)

theorem left_of {env : RunEnv} {node : NodeName} {s t : GraphState} {verdict : Option String}
    {sets : Option TerminalStatus} {hits : List String} {errored : Bool}
    (htrace : t.execution_trace = s.execution_trace)
    (hexit : Exit env s (record_node t node verdict hits errored) node verdict sets)
    (hfinal : t.final_status = sets.or s.final_status) :
    Left env node s (record_node t node verdict hits errored) := by
  refine ⟨verdict, sets, hexit, ?_, hfinal⟩
  unfold Recorded record_node
  rw [htrace]
  exact ⟨_, rfl, rfl, rfl⟩

theorem ingest_left : returns (ingest env s) (Left env .ingest s) := by
  unfold ingest
  split
  · rename_i h
    exact (returns_pure _).mpr (left_of rfl (.refused h) rfl)
  · rename_i h
    exact returns_bind fun _ _ => (returns_pure _).mpr (left_of rfl (.ingested h) rfl)

theorem classify_left : Left env .classify s (classify env s) := by
  simp only [classify]
  split
  · rename_i hbackend
    refine left_of rfl (.agreed fun backend h => ?_) rfl
    cases hbackend.symm.trans h
  · rename_i backend hbackend
    split
    · rename_i hsame
      refine left_of rfl (.agreed fun backend' h => ?_) rfl
      cases hbackend.symm.trans h
      exact hsame
    · rename_i hother
      exact left_of rfl (.disagreed fun h => hother (h backend hbackend)) rfl

theorem load_skill_left : returns (load_skill env s) (Left env .load_skill s) :=
  returns_bind fun _ _ => (returns_pure _).mpr (left_of rfl .loaded rfl)

theorem validate_circuit_breaker_left :
    Left env .validate_circuit_breaker s (validate_circuit_breaker s) := by
  simp only [validate_circuit_breaker]
  split
  · rename_i h
    exact left_of rfl (.within (by simpa using h)) rfl
  · rename_i h
    exact left_of rfl (.breached (by simpa using h)) rfl

theorem select_recipe_left : Left env .select_recipe s (select_recipe env s) := by
  simp only [select_recipe]
  split
  · rename_i name h
    exact left_of rfl (.directed (by simp [h])) rfl
  · rename_i h
    split
    · rename_i hp
      exact left_of rfl (.unproposed h hp) rfl
    · rename_i name hp
      have hsome : proposal env s = some name := hp
      exact left_of rfl (.proposed h (by simp [hsome])) rfl

theorem resolve_each_left (deps : List GatewayDependency) (s t : GraphState)
    (htrace : t.execution_trace = s.execution_trace) (hfinal : t.final_status = s.final_status) :
    Left env .resolve_dependencies s (resolve_each env t deps) := by
  induction deps generalizing t with
  | nil => exact left_of htrace .resolved hfinal
  | cons dep deps ih =>
    simp only [resolve_each]
    split
    · exact ih _ htrace hfinal
    · split
      · exact left_of htrace .required_failed rfl
      · exact ih _ htrace hfinal

theorem resolve_dependencies_left :
    Left env .resolve_dependencies s (resolve_dependencies env s) := by
  simp only [resolve_dependencies]
  split
  · exact left_of rfl .resolved rfl
  · exact resolve_each_left env _ s s rfl rfl

theorem validate_types_left : returns (validate_types s) (Left env .validate_types s) := by
  unfold validate_types
  split
  · exact (returns_pure _).mpr (left_of rfl .typed rfl)
  · split
    · exact (returns_pure _).mpr (left_of rfl .untyped rfl)
    · exact returns_bind fun _ _ => (returns_pure _).mpr (left_of rfl .typed rfl)

theorem shadow_audit_left : returns (shadow_audit env s) (Left env .shadow_audit s) := by
  refine returns_bind fun _ _ => returns_bind fun shadow _ => (returns_pure _).mpr ?_
  simp only [enforce]
  split
  · exact left_of rfl .red rfl
  · exact left_of rfl .yellow rfl
  · rename_i h
    exact left_of rfl (.green (congrArg some h)) rfl

theorem gate_intake_final_status (t : GraphState) (st : TerminalStatus)
    (h : t.final_status = some st) : ∃ st', (gate_intake t).final_status = some st' := by
  unfold gate_intake
  split
  · exact ⟨_, rfl⟩
  · exact ⟨st, h⟩

theorem gate_intake_trace (t : GraphState) :
    (gate_intake t).execution_trace = t.execution_trace := by
  unfold gate_intake
  split <;> rfl

theorem route_outputs_left (log : ExecutionLog) :
    returns (route_outputs s log) fun t =>
      t.execution_trace = s.execution_trace ∧ ∃ st, t.final_status = some st := by
  unfold route_outputs
  refine returns_bind fun human _ => ?_
  cases human
  · exact (returns_pure _).mpr ⟨gate_intake_trace _, gate_intake_final_status _ _ rfl⟩
  · exact (returns_pure _).mpr ⟨gate_intake_trace _, gate_intake_final_status _ _ rfl⟩

theorem execute_recipe_left : returns (execute_recipe env s) (Left env .execute_recipe s) := by
  unfold execute_recipe
  split
  · exact (returns_pure _).mpr (left_of rfl (.executed .FAIL_TO_HUMAN) rfl)
  · dsimp only
    split
    · exact (returns_pure _).mpr (left_of rfl (.executed .FAIL_TO_HUMAN) rfl)
    · refine returns_bind fun t ht => (returns_pure _).mpr ?_
      obtain ⟨htrace, st, hst⟩ := route_outputs_left s _ t ht
      exact left_of htrace (.executed st) hst

theorem apply_effect_status (name : RecipeName) (outputs : PyDict) (effect : GatewayEffect)
    (ext : External) :
    let t := (apply_effect env origin name outputs s effect ext).2
    t.execution_trace = s.execution_trace ∧ t.final_status = s.final_status := by
  simp only [apply_effect]
  split
  · exact ⟨rfl, rfl⟩
  · split <;> exact ⟨rfl, rfl⟩

theorem apply_effects_left (ext : External) :
    Left env .apply_effects s (apply_effects env origin s ext).2 := by
  unfold apply_effects
  split
  · rename_i name log _ _
    rcases effects_at_most_one name with he | ⟨effect, he⟩
    · rw [he]
      exact left_of rfl .effected rfl
    · rw [he]
      obtain ⟨htrace, hfinal⟩ := apply_effect_status env origin s name log.outputs effect ext
      exact left_of htrace .effected hfinal
  · exact left_of rfl .effected rfl

theorem build_analysis_left : returns (build_analysis env s) (Left env .build_analysis s) := by
  unfold build_analysis
  split
  · exact (returns_pure _).mpr (left_of rfl .analysed rfl)
  · rename_i hopen
    have hgap : s.final_status ≠ some .FAIL_TO_HUMAN := fun h => hopen (Or.inr h)
    refine returns_bind fun offenders _ => ?_
    rcases offenders with _ | offenders
    · refine returns_bind fun composed _ => ?_
      dsimp only
      split
      · exact (returns_pure _).mpr (left_of rfl .analysed rfl)
      · exact (returns_pure _).mpr (left_of rfl (.gap hgap) rfl)
    · exact (returns_pure _).mpr (left_of rfl (.gap hgap) rfl)

end exits

/-- Every node that runs leaves through one of its exits. -/
theorem run_node_left {env : RunEnv} {p p' : Pos}
    (h : (build_graph env origin).exec node p = .ok p') : Left env node p.1 p'.1 := by
  cases node
  case classify =>
    cases h
    exact classify_left env p.1
  case validate_circuit_breaker =>
    cases h
    exact validate_circuit_breaker_left env p.1
  case select_recipe =>
    cases h
    exact select_recipe_left env p.1
  case resolve_dependencies =>
    cases h
    exact resolve_dependencies_left env p.1
  case explain_only =>
    cases h
    exact left_of rfl .explained rfl
  case apply_effects =>
    cases h
    exact apply_effects_left env origin p.1 p.2
  -- the nodes that may raise
  all_goals have hr := (inside_eq_ok h).1
  case ingest => exact ingest_left env p.1 _ hr
  case load_skill => exact load_skill_left env p.1 _ hr
  case validate_types => exact validate_types_left env p.1 _ hr
  case shadow_audit => exact shadow_audit_left env p.1 _ hr
  case execute_recipe => exact execute_recipe_left env p.1 _ hr
  case build_analysis => exact build_analysis_left env p.1 _ hr

/-! ## What a run has read and classified -/

/-- What the breaker and the Shadow read of a state is what `classify` left
after `s`. -/
structure Classified (env : RunEnv) (s t : GraphState) : Prop where
  event : t.event = s.event
  intent : t.intent = (classify env s).intent
  update_count : t.update_count = s.update_count
  batch_total_variance : t.batch_total_variance = s.batch_total_variance

theorem classify_deterministic (env : RunEnv) (s : GraphState) :
    (classify env s).intent = (classify_intent s.event).intent := by
  simp only [classify]
  split
  · rfl
  · split
    · rename_i h
      exact h
    · rfl

theorem classify_classified (env : RunEnv) (s : GraphState) :
    Classified env s (classify env s) := by
  have h := classify_wrote env s
  exact ⟨h.event, rfl, h.update_count (by decide), h.batch_total_variance (by decide)⟩

/-- The run of the graph up to a node: before `classify` the state is what
came in, and after it the audited parts no longer change. -/
structure Prepared (env : RunEnv) (start : GraphState) (node : NodeName) (t : GraphState) :
    Prop where
  at_ingest : node = .ingest → t = start
  at_classify : node = .classify → ingest env start = .ok t
  later : node ≠ .ingest → node ≠ .classify →
    ∃ s, ingest env start = .ok s ∧ Classified env s t

theorem successor_after_classify {explain : Bool} {m : NodeName} {s : GraphState}
    (h : successor explain node s = some m) : m ≠ .ingest ∧ (m = .classify ↔ node = .ingest) := by
  cases node
  case validate_circuit_breaker | select_recipe | resolve_dependencies | validate_types |
      shadow_audit =>
    obtain rfl := Option.some.inj h
    unfold route_after_gate
    split
    · decide
    · cases explain <;> decide
  case build_analysis => cases h
  all_goals (cases h; decide)

theorem reaches_prepared {env : RunEnv} {start : GraphState}
    {ext : External} {vs : List (Visit NodeName Pos)} {p : Pos}
    (h : Reaches env origin (start, ext) vs node p) : Prepared env start node p.1 := by
  refine Path.invariant (I := fun node (p : Pos) => Prepared env start node p.1) h ?_ ?_
  · refine ⟨fun _ => rfl, fun h => ?_, fun h => absurd rfl h⟩
    cases h
  intro a u u' b hu hexec hnext
  obtain ⟨hb, hclassify⟩ := successor_after_classify hnext
  refine ⟨fun h => absurd h hb, fun h => ?_, fun _ hlate => ?_⟩
  · obtain rfl := hclassify.mp h
    rw [← hu.at_ingest rfl]
    exact (inside_eq_ok hexec).1
  have hingest : a ≠ .ingest := fun h => hlate (hclassify.mpr h)
  by_cases ha : a = .classify
  · subst ha
    cases hexec
    exact ⟨u.1, hu.at_classify rfl, classify_classified env u.1⟩
  · obtain ⟨s, hs, hc⟩ := hu.later hingest ha
    have hw := (run_node_wrote hexec).1
    refine ⟨s, hs, hw.event.trans hc.event, (hw.intent ha).trans hc.intent, ?_, ?_⟩
    · exact (hw.update_count hingest).trans hc.update_count
    · exact (hw.batch_total_variance hingest).trans hc.batch_total_variance

/-- A node behind a gate runs on an open state. -/
theorem reaches_open {env : RunEnv} {start : Pos} {vs : List (Visit NodeName Pos)} {p : Pos}
    (h : Reaches env origin start vs node p)
    (hnode : node ∈ [.select_recipe, .resolve_dependencies, .validate_types, .shadow_audit,
      .execute_recipe, .explain_only]) : p.1.final_status = none := by
  have hgate : ∀ (explain : Bool) a (s : GraphState), successor explain a s = some node →
      s.final_status = none := by
    intro explain a s ha
    cases a
    case validate_circuit_breaker | select_recipe | resolve_dependencies | validate_types |
        shadow_audit =>
      refine (route_after_gate_eq ?_ (Option.some.inj ha)).1
      rintro rfl
      exact absurd hnode (by decide)
    case build_analysis => cases ha
    all_goals (cases ha; exact absurd hnode (by decide))
  refine Path.rule (P := fun _ a (p : Pos) => a = node → p.1.final_status = none) h ?_ ?_ rfl
  · rintro rfl
    exact absurd hnode (by decide)
  · rintro ws a u u' b - - hnext rfl
    exact hgate _ _ _ hnext

end asoe
