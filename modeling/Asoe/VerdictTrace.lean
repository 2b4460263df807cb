-- The trace of a run against the registered verdicts: each gate names the
-- verdict it was left by, and the registry names the node that follows it.
import Asoe.ShadowGate

namespace asoe

open py prog flow

/-! ## The registry of verdicts -/

/-- `_VERDICT_LABELS`. -/
def VERDICT_LABELS : NodeName → List (String × NodeName)
  | .validate_circuit_breaker =>
    [("terminal_breach", .build_analysis), ("continue_ok", .select_recipe)]
  | .select_recipe =>
    [("terminal_no_recipe", .build_analysis), ("continue_ok", .resolve_dependencies)]
  | .resolve_dependencies =>
    [("terminal_required_gw_fail", .build_analysis), ("continue_ok", .validate_types)]
  | .validate_types =>
    [("terminal_invocation_fail", .build_analysis), ("continue_ok", .shadow_audit)]
  | .shadow_audit =>
    [("terminal_red", .build_analysis), ("terminal_yellow", .build_analysis),
      ("continue_green", .execute_recipe)]
  | _ => []

/-- `_IMPLICIT_VERDICT_LABELS`. -/
def IMPLICIT_VERDICT_LABELS : NodeName → List (String × NodeName)
  | .classify =>
    [("implicit_terminal_cross_check_disagreement", .build_analysis),
      ("implicit_continue_ok", .load_skill)]
  | _ => []

/-- The verdict that a route key stands for: the key without its prefix. -/
def verdict_label_from_route_key (route_key : String) : String :=
  let prefixes := ["implicit_terminal_", "implicit_continue_", "terminal_", "continue_"]
  match prefixes.find? fun p => p.toList.isPrefixOf route_key.toList with
  | some p => String.ofList (route_key.toList.drop p.toList.length)
  | none => route_key

def registered_labels (node : NodeName) : List (String × NodeName) :=
  VERDICT_LABELS node ++ IMPLICIT_VERDICT_LABELS node

/-- The node that the registry puts after a verdict. -/
def downstream (node : NodeName) (verdict : String) : Option NodeName :=
  ((registered_labels node).find? fun p => verdict_label_from_route_key p.1 = verdict).map (·.2)

/-- A gate is a node with registered verdicts. -/
def IsGate (node : NodeName) : Prop := registered_labels node ≠ []

instance (node : NodeName) : Decidable (IsGate node) :=
  inferInstanceAs (Decidable (registered_labels node ≠ []))

/-- Each gate of the trace has a registered verdict, and the next entry is
of the node registered for it. -/
def FollowsTopology : List ExecutedNode → Prop
  | [] => True
  | [e] => ¬ IsGate e.node
  | e :: e' :: rest =>
    (IsGate e.node → e.exit_verdict.bind (downstream e.node) = some e'.node) ∧
      FollowsTopology (e' :: rest)

instance : DecidablePred FollowsTopology := followsTopology_decidable
where
  followsTopology_decidable : (trace : List ExecutedNode) → Decidable (FollowsTopology trace)
  | [] => isTrue trivial
  | [_] => inferInstanceAs (Decidable (¬ IsGate _))
  | _ :: e' :: rest =>
    have := followsTopology_decidable (e' :: rest)
    inferInstanceAs (Decidable (_ ∧ FollowsTopology (e' :: rest)))

/-! ## The trace of a run -/

/-- The verdict of a visited gate leads to the node that the edges lead to. -/
def Registered (v : Visit NodeName Pos) : Prop :=
  IsGate v.node → ∃ verdict, Recorded v.node (some verdict) v.before.1 v.after.1 ∧
    downstream v.node verdict = successor false v.node v.after.1

theorem Recorded.unique {node : NodeName} {verdict verdict' : Option String} {s s' : GraphState}
    (h : Recorded node verdict s s') (h' : Recorded node verdict' s s') : verdict = verdict' := by
  obtain ⟨e, he, -, rfl⟩ := h
  obtain ⟨e', he', -, rfl⟩ := h'
  have := List.append_cancel_left (he.symm.trans he')
  rw [List.singleton_inj.mp this]

/-- The nodes of a run leave one entry each, and these follow the registry
exactly when every visited gate does. -/
theorem Finishes.trace {env : RunEnv} {origin : Option String} (hlive : env.explain_mode = false)
    {node : NodeName} {p t : Pos} {vs : List (Visit NodeName Pos)}
    (h : Ends (build_graph env origin) node p vs t) :
    ∃ e es, t.1.execution_trace = p.1.execution_trace ++ e :: es ∧ e.node = node ∧
      (FollowsTopology (e :: es) ↔ ∀ v ∈ vs, Registered v) := by
  induction h with
  | @last n s s' hexec hnext =>
    obtain ⟨verdict, sets, -, ⟨e, he, hnode, -⟩, -⟩ := run_node_left hexec
    refine ⟨e, [], he, hnode, ?_⟩
    obtain rfl := before_the_end hnext
    simp [FollowsTopology, hnode, Registered, IsGate, registered_labels, VERDICT_LABELS,
      IMPLICIT_VERDICT_LABELS]
  | @visit n n' s s' t vs hexec hnext _ ih =>
    obtain ⟨e', es, htrace, hnode', hrest⟩ := ih
    obtain ⟨verdict, sets, -, hrec, -⟩ := run_node_left hexec
    have hrec' := hrec
    obtain ⟨e, he, hnode, hverdict⟩ := hrec'
    refine ⟨e, e' :: es, ?_, hnode, ?_⟩
    · rw [htrace, he, List.append_assoc]
      rfl
    have hsucc : successor false n s'.1 = some n' := by
      rw [← hlive]
      exact hnext
    simp only [FollowsTopology, hrest, List.forall_mem_cons, hnode, hnode', hverdict]
    refine and_congr_left fun _ => ?_
    unfold Registered
    rw [hsucc]
    refine imp_congr_right fun _ => ?_
    rw [Option.bind_eq_some_iff]
    refine exists_congr fun v => and_congr_left fun _ => ?_
    refine ⟨fun h => ?_, fun h => hrec.unique h⟩
    rw [← h]
    exact hrec

/-! ## The gates one by one -/

section gates

variable {env : RunEnv} {origin : Option String} {p p' : Pos}

theorem registered_iff {node : NodeName} {verdict : String}
    (hrec : Recorded node (some verdict) p.1 p'.1) (hgate : IsGate node) :
    Registered ⟨node, p, p'⟩ ↔ downstream node verdict = successor false node p'.1 := by
  constructor
  · intro h
    obtain ⟨v, hv, hdown⟩ := h hgate
    cases hrec.unique hv
    exact hdown
  · exact fun h _ => ⟨verdict, hrec, h⟩

theorem registered_of_no_gate {node : NodeName} (h : ¬ IsGate node) : Registered ⟨node, p, p'⟩ :=
  fun hgate => absurd hgate h

theorem classify_registered
    (hexec : (build_graph env origin).exec .classify p = .ok p') :
    Registered ⟨.classify, p, p'⟩ ↔ Agrees env p.1 := by
  obtain ⟨verdict, sets, hexit, hrec, -⟩ := run_node_left hexec
  cases hexit with
  | agreed h =>
    rw [registered_iff hrec (by decide)]
    have hdown : downstream .classify "ok" = some .load_skill := by decide +kernel
    exact ⟨fun _ => h, fun _ => hdown⟩
  | disagreed h =>
    rw [registered_iff hrec (by decide)]
    refine ⟨fun hdown => ?_, fun hagrees => absurd hagrees h⟩
    have hother : downstream .classify "cross_check_disagreement" = some .build_analysis := by
      decide +kernel
    cases hother.symm.trans hdown

theorem validate_circuit_breaker_registered
    (hexec : (build_graph env origin).exec .validate_circuit_breaker p = .ok p') :
    Registered ⟨.validate_circuit_breaker, p, p'⟩ ↔
      p.1.final_status = none ∨
        circuit_breaker p.1.update_count p.1.batch_total_variance ≠ [] := by
  obtain ⟨verdict, sets, hexit, hrec, hfinal⟩ := run_node_left hexec
  cases hexit with
  | within h =>
    rw [registered_iff hrec (by decide)]
    have hdown : downstream .validate_circuit_breaker "ok" = some .select_recipe := by
      decide +kernel
    have hsame : p'.1.final_status = p.1.final_status := hfinal
    simp only [hdown, successor, route_after_gate, hsame, h, ne_eq, not_true_eq_false, or_false]
    rcases p.1.final_status with _ | st
    · simp
    · simp
  | breached h =>
    rw [registered_iff hrec (by decide)]
    have hset : p'.1.final_status = some .FAIL_TO_HUMAN := hfinal
    simp only [successor, route_after_gate, hset]
    exact ⟨fun _ => Or.inr h, fun _ => by decide +kernel⟩

theorem select_recipe_registered
    (hexec : (build_graph env origin).exec .select_recipe p = .ok p')
    (hopen : p.1.final_status = none) :
    Registered ⟨.select_recipe, p, p'⟩ ↔
      p.1.directed_recipe = none ∧ proposal env p.1 ≠ none := by
  obtain ⟨verdict, sets, hexit, hrec, hfinal⟩ := run_node_left hexec
  have hnext : successor false .select_recipe p'.1 = some .resolve_dependencies := by
    have hsame : p'.1.final_status = none := by
      rw [hfinal, hopen]
      cases hexit <;> rfl
    simp only [successor, route_after_gate, hsame]
    rfl
  cases hexit with
  | directed h =>
    rw [registered_iff hrec (by decide), hnext]
    refine ⟨fun hdown => ?_, fun hboth => absurd hboth.1 h⟩
    exact absurd hdown (by decide +kernel)
  | unproposed h hp =>
    rw [registered_iff hrec (by decide), hnext]
    refine ⟨fun hdown => ?_, fun hboth => absurd hp hboth.2⟩
    exact absurd hdown (by decide +kernel)
  | proposed h hp =>
    rw [registered_iff hrec (by decide), hnext]
    exact ⟨fun _ => ⟨h, hp⟩, fun _ => by decide +kernel⟩

theorem later_gate_registered {node : NodeName}
    (hexec : (build_graph env origin).exec node p = .ok p') (hopen : p.1.final_status = none)
    (hnode : node ∈ [.resolve_dependencies, .validate_types, .shadow_audit]) :
    Registered ⟨node, p, p'⟩ := by
  obtain ⟨verdict, sets, hexit, hrec, hfinal⟩ := run_node_left hexec
  rw [hopen] at hfinal
  cases hexit
  case resolved | required_failed | typed | untyped | green | yellow | red =>
    rw [registered_iff hrec (by decide)]
    simp only [successor, route_after_gate, hfinal]
    decide +kernel
  all_goals exact absurd hnode (by decide)

theorem later_next {explain : Bool} {node m : NodeName} {s : GraphState}
    (h : successor explain node s = some m)
    (hnode : node ∉ [.ingest, .classify, .load_skill, .validate_circuit_breaker]) :
    m ∉ [.ingest, .classify, .load_skill, .validate_circuit_breaker, .select_recipe] ∧
      (m ∈ [.resolve_dependencies, .validate_types, .shadow_audit] → s.final_status = none) := by
  cases node
  case select_recipe | resolve_dependencies | validate_types | shadow_audit =>
    obtain rfl := Option.some.inj h
    unfold route_after_gate
    split
    · exact ⟨by decide, fun hm => absurd hm (by decide)⟩
    · rename_i hopen
      exact ⟨by cases explain <;> decide, fun _ => by simpa using hopen⟩
  case execute_recipe | apply_effects | explain_only =>
    cases h
    exact ⟨by decide, fun hm => absurd hm (by decide)⟩
  case build_analysis => cases h
  all_goals exact absurd (by decide) hnode

/-- What follows `select_recipe` is left as it is registered. -/
theorem later_registered {node : NodeName} {t : Pos} {vs : List (Visit NodeName Pos)}
    (h : Ends (build_graph env origin) node p vs t)
    (hnode : node ∉ [.ingest, .classify, .load_skill, .validate_circuit_breaker, .select_recipe])
    (hopen : node ∈ [.resolve_dependencies, .validate_types, .shadow_audit] →
      p.1.final_status = none) : ∀ v ∈ vs, Registered v := by
  have hone : ∀ {node : NodeName} {p p' : Pos}, (build_graph env origin).exec node p = .ok p' →
      node ∉ [.ingest, .classify, .load_skill, .validate_circuit_breaker, .select_recipe] →
      (node ∈ [.resolve_dependencies, .validate_types, .shadow_audit] →
        p.1.final_status = none) → Registered ⟨node, p, p'⟩ := by
    intro node p p' hexec hnode hopen
    by_cases hgate : node ∈ [.resolve_dependencies, .validate_types, .shadow_audit]
    · exact later_gate_registered hexec (hopen hgate) hgate
    · refine registered_of_no_gate ?_
      cases node <;> first | exact absurd hnode (by decide) | exact absurd hgate (by decide) | decide
  induction h with
  | last hexec hnext =>
    rintro v hv
    rw [List.mem_singleton.mp hv]
    exact hone hexec hnode hopen
  | visit hexec hnext _ ih =>
    rintro v hv
    rcases List.mem_cons.mp hv with rfl | hv
    · exact hone hexec hnode hopen
    · obtain ⟨hlater, hgate⟩ := later_next hnext fun hmem => hnode (List.mem_append_left [_] hmem)
      exact ih hlater hgate v hv

end gates

/-! ## Runs that follow the registry -/

/-- The classifiers agree on the event, and unless the breaker trips the
event has an order id, no recipe is directed, and one is proposed. -/
structure Regular (env : RunEnv) (s : GraphState) : Prop where
  agrees : ∀ t, ingest env s = .ok t → Agrees env t
  ordered : ∀ t, ingest env s = .ok t →
    circuit_breaker t.update_count t.batch_total_variance = [] → s.event.order_id ≠ ""
  proposes : ∀ t l, ingest env s = .ok t → load_skill env (classify env t) = .ok l →
    circuit_breaker t.update_count t.batch_total_variance = [] →
    s.directed_recipe = none ∧ proposal env (validate_circuit_breaker l) ≠ none

/-- The four nodes that every finished run has visited, and what comes after
them. -/
theorem Finishes.opening {env : RunEnv} {origin : Option String} {s : GraphState} {ext : External}
    {vs : List (Visit NodeName Pos)} {p : Pos} (h : Finishes env origin (s, ext) vs p) :
    ∃ t l rest, ingest env s = .ok t ∧ load_skill env (classify env t) = .ok l ∧
      (build_graph env origin).exec .ingest (s, ext) = .ok (t, ext) ∧
      (build_graph env origin).exec .load_skill (classify env t, ext) = .ok (l, ext) ∧
      vs = ⟨.ingest, (s, ext), (t, ext)⟩ :: ⟨.classify, (t, ext), (classify env t, ext)⟩ ::
        ⟨.load_skill, (classify env t, ext), (l, ext)⟩ ::
        ⟨.validate_circuit_breaker, (l, ext), (validate_circuit_breaker l, ext)⟩ :: rest ∧
      Ends (build_graph env origin)
        (route_after_gate (validate_circuit_breaker l) .select_recipe)
        (validate_circuit_breaker l, ext) rest p := by
  cases h with
  | last _ hnext => cases hnext
  | @visit _ _ _ p₁ _ _ h₁ n₁ r₁ =>
  cases n₁
  obtain ⟨hingest, hext₁⟩ := inside_eq_ok h₁
  obtain ⟨t, ext₁⟩ := p₁
  obtain rfl : ext₁ = ext := hext₁
  cases r₁ with
  | last _ hnext => cases hnext
  | @visit _ _ _ p₂ _ _ h₂ n₂ r₂ =>
  cases n₂
  cases h₂
  cases r₂ with
  | last _ hnext => cases hnext
  | @visit _ _ _ p₃ _ _ h₃ n₃ r₃ =>
  cases n₃
  obtain ⟨hload, hext₃⟩ := inside_eq_ok h₃
  obtain ⟨l, ext₃⟩ := p₃
  obtain rfl : ext₃ = ext₁ := hext₃
  cases r₃ with
  | last _ hnext => cases hnext
  | @visit _ _ _ p₄ _ _ h₄ n₄ r₄ =>
  cases h₄
  obtain rfl := Option.some.inj n₄
  exact ⟨t, l, _, hingest, hload, h₁, h₃, rfl, r₄⟩

section opening

variable {env : RunEnv} {origin : Option String} {s t l : GraphState} {ext : External} {p : Pos}
  {vs : List (Visit NodeName Pos)}

theorem breaker_reads_ingest (hload : load_skill env (classify env t) = .ok l) :
    l.update_count = t.update_count ∧ l.batch_total_variance = t.batch_total_variance := by
  have hl := load_skill_wrote env _ l hload
  have hc := classify_wrote env t
  constructor
  · exact (hl.update_count (by decide)).trans (hc.update_count (by decide))
  · exact (hl.batch_total_variance (by decide)).trans (hc.batch_total_variance (by decide))

theorem opening_keeps_direction (hingest : ingest env s = .ok t)
    (hload : load_skill env (classify env t) = .ok l) :
    (validate_circuit_breaker l).directed_recipe = s.directed_recipe := by
  have hi := (ingest_wrote env s t hingest).directed_recipe
  have hc := (classify_wrote env t).directed_recipe
  have hl := (load_skill_wrote env _ l hload).directed_recipe
  exact (validate_circuit_breaker_wrote l).directed_recipe.trans (hl.trans (hc.trans hi))

theorem open_before_breaker_iff (hfresh : s.final_status = none) (hingest : ingest env s = .ok t)
    (hload : load_skill env (classify env t) = .ok l) (hagrees : Agrees env t) :
    l.final_status = none ↔ s.event.order_id ≠ "" := by
  have hsame : l.final_status = t.final_status := by
    obtain ⟨v, sets, hexit, -, hfinal⟩ := load_skill_left env _ l hload
    obtain ⟨v', sets', hexit', -, hfinal'⟩ := classify_left env t
    cases hexit
    cases hexit' with
    | agreed _ => exact hfinal.trans hfinal'
    | disagreed h => exact absurd hagrees h
  obtain ⟨v, sets, hexit, -, hfinal⟩ := ingest_left env s t hingest
  rw [hsame, hfinal]
  cases hexit with
  | ingested h => simp [hfresh, h]
  | refused h => simp [h]

theorem open_behind_breaker_iff : (validate_circuit_breaker l).final_status = none ↔
    circuit_breaker l.update_count l.batch_total_variance = [] ∧ l.final_status = none := by
  unfold validate_circuit_breaker
  by_cases hwithin : circuit_breaker l.update_count l.batch_total_variance = []
  · simp [hwithin, record]
  · simp [hwithin, record]

/-- What follows the breaker is left as it is registered exactly when a recipe
is proposed, unless the run was halted there. -/
theorem rest_registered_iff
    (h : Ends (build_graph env origin) (route_after_gate s .select_recipe) (s, ext) vs p) :
    (∀ v ∈ vs, Registered v) ↔
      (s.final_status = none → s.directed_recipe = none ∧ proposal env s ≠ none) := by
  unfold route_after_gate at h
  by_cases hopen : s.final_status = none
  · rw [if_neg (by simp [hopen])] at h
    cases h with
    | last _ hnext => cases hnext
    | visit hexec hnext hrest =>
      have hedge : successor env.explain_mode .select_recipe _ = some _ := hnext
      obtain ⟨hlater, hopen'⟩ := later_next hedge (by decide)
      rw [List.forall_mem_cons, select_recipe_registered hexec hopen]
      constructor
      · rintro ⟨hproposes, -⟩ -
        exact hproposes
      · intro hproposes
        exact ⟨hproposes hopen, later_registered hrest hlater hopen'⟩
  · rw [if_pos (by simpa [Option.isSome_iff_ne_none] using hopen)] at h
    have hall := later_registered h (by decide) fun h => absurd h (by decide)
    exact ⟨fun _ h => absurd h hopen, fun _ => hall⟩

/-- Every gate of a finished live run is left as it is registered exactly
when the run is regular. -/
theorem finishes_regular (hfresh : s.final_status = none) (h : Finishes env origin (s, ext) vs p) :
    (∀ v ∈ vs, Registered v) ↔ Regular env s := by
  obtain ⟨t, l, rest, hingest, hload, h₁, h₃, rfl, hrest⟩ := h.opening
  have h₂ : (build_graph env origin).exec .classify (t, ext) = .ok (classify env t, ext) := rfl
  have h₄ : (build_graph env origin).exec .validate_circuit_breaker (l, ext) =
      .ok (validate_circuit_breaker l, ext) := rfl
  have hbefore := open_before_breaker_iff hfresh hingest hload
  obtain ⟨hcount, hvariance⟩ := breaker_reads_ingest hload
  simp only [List.forall_mem_cons]
  rw [classify_registered h₂, validate_circuit_breaker_registered h₄, rest_registered_iff hrest,
    open_behind_breaker_iff, opening_keeps_direction hingest hload, hcount, hvariance]
  constructor
  · rintro ⟨-, hagrees, -, hgate, hproposes⟩
    have hopen : circuit_breaker t.update_count t.batch_total_variance = [] →
        l.final_status = none := fun hwithin => hgate.resolve_right (not_not_intro hwithin)
    refine ⟨fun t' ht' => ?_, fun t' ht' hwithin => ?_, fun t' l' ht' hl' hwithin => ?_⟩
    · cases hingest.symm.trans ht'
      exact hagrees
    · cases hingest.symm.trans ht'
      exact (hbefore hagrees).mp (hopen hwithin)
    · cases hingest.symm.trans ht'
      cases hload.symm.trans hl'
      exact hproposes ⟨hwithin, hopen hwithin⟩
  · intro hregular
    have hagrees := hregular.agrees t hingest
    refine ⟨registered_of_no_gate (by decide), hagrees, registered_of_no_gate (by decide), ?_, ?_⟩
    · by_cases hwithin : circuit_breaker t.update_count t.batch_total_variance = []
      · exact Or.inl ((hbefore hagrees).mpr (hregular.ordered t hingest hwithin))
      · exact Or.inr hwithin
    · rintro ⟨hwithin, -⟩
      exact hregular.proposes t l hingest hload hwithin

end opening

/-- The trace of a live run that returns follows the registry exactly when
the kill switch stopped it or the run is regular. -/
theorem the_trace_follows_the_registry_iff_regular (env : RunEnv) (origin : Option String)
    (s fin : GraphState) (ext ext' : External) (hlive : env.explain_mode = false)
    (hfresh : s.final_status = none) (htrace : s.execution_trace = [])
    (hrun : run_graph env origin s ext = .ok fin ext') :
    FollowsTopology fin.execution_trace ↔ env.kill_switch = true ∨ Regular env s := by
  by_cases hkill : env.kill_switch = true
  · have hsame : fin.execution_trace = s.execution_trace := by
      unfold run_graph at hrun
      rw [if_pos hkill] at hrun
      cases hrun
      rfl
    rw [hsame, htrace]
    exact ⟨fun _ => Or.inl hkill, fun _ => trivial⟩
  · obtain ⟨vs, t, hends, rfl⟩ :=
      wp_ok (run_graph_follows_the_graph s (by simpa using hkill)) hrun
    obtain ⟨e, es, hes, -, hfollows⟩ := Finishes.trace hlive hends
    rw [explain_terminal_execution_trace, hes, htrace, List.nil_append, hfollows,
      finishes_regular hfresh hends]
    exact ⟨Or.inr, fun h => h.resolve_left hkill⟩

/-! ## Two runs -/

/-- An event of eleven lines: a mass pricing error, which has no recipe. -/
def massEvent : OrderEvent := { sampleEvent with line_count := 11 }

/-- `no_recipe` is registered as terminal, but the run goes on to its
dependencies. -/
theorem a_run_without_a_recipe_leaves_the_registry :
    wp (run_graph (sampleRun 100) none { event := massEvent })
      (fun fin _ => ¬ FollowsTopology fin.execution_trace) (fun _ _ => False) {} := by
  decide +kernel

theorem the_sample_run_is_regular : Regular (sampleRun 100) { event := sampleEvent } := by
  refine ⟨fun t _ backend h => ?_, fun _ _ _ => by decide, fun t l ht hl _ => ⟨rfl, ?_⟩⟩
  · cases h
  · have hintent : l.intent = .MANUAL_ORDER_INTAKE := by
      rw [(load_skill_wrote _ _ l hl).intent (by decide)]
      show (classify_intent t.event).intent = _
      rw [(ingest_wrote _ _ t ht).event]
      decide +kernel
    have hsame : (validate_circuit_breaker l).intent = l.intent :=
      (validate_circuit_breaker_wrote l).intent (by decide)
    show propose_recipe (validate_circuit_breaker l).intent ≠ none
    rw [hsame, hintent]
    decide

theorem the_sample_trace_follows_the_registry :
    wp (run_graph (sampleRun 100) none { event := sampleEvent })
      (fun fin _ => FollowsTopology fin.execution_trace) (fun _ _ => False) {} := by
  have hreturns : wp (run_graph (sampleRun 100) none { event := sampleEvent })
      (fun _ _ => True) (fun _ _ => False) {} := by decide +kernel
  obtain ⟨fin, ext', hrun, -⟩ := wp_returned hreturns
  exact wp_of_ok hrun ((the_trace_follows_the_registry_iff_regular (sampleRun 100) none
    { event := sampleEvent } fin {} ext' rfl rfl rfl hrun).mpr (Or.inr the_sample_run_is_regular))

end asoe
