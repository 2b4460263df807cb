-- The Shadow gate: in no run of the graph does a recipe or an effect come
-- before a GREEN audit of that run, and an explain run has neither.
import Asoe.NodeWrites
import Asoe.Transitions

namespace asoe

open py prog flow

/-! ## Recipes and effects in a run -/

/-- The recipe function that a node calls when it runs on `s`. -/
def recipe_called (node : NodeName) (s : GraphState) : Option RecipeInvocation :=
  if node = .execute_recipe then
    s.invocation.filter fun inv => missing_params (get_recipe inv.recipe_name) inv.params = []
  else none

/-- The run of a node on `p` calls an effect gateway. -/
def CallsGateway (env : RunEnv) (origin : Option String) (node : NodeName) (p : Pos) : Prop :=
  ∃ p', run_node env origin node p = .ok p' ∧ p'.2.calls ≠ p.2.calls

theorem CallsGateway.node {env : RunEnv} {origin : Option String} {node : NodeName} {p : Pos}
    (h : CallsGateway env origin node p) : node = .apply_effects := by
  obtain ⟨p', hrun, hcalls⟩ := h
  by_contra hn
  exact hcalls (congrArg External.calls ((run_node_wrote hrun).2 hn))

/-- The Shadow has audited the run, and its last word is GREEN. -/
def GreenAudit (vs : List (Visit NodeName Pos)) (s : GraphState) : Prop :=
  ∃ v ∈ vs, v.node = .shadow_audit ∧ v.after.1.shadow = s.shadow ∧
    s.shadow.map (·.status) = some .GREEN

/-! ## The edges into the recipe and into the effects -/

variable {env : RunEnv} {origin : Option String} {explain : Bool} {node : NodeName} {p : Pos}
  {s : GraphState} {ext : External}

theorem before_execute_recipe (h : successor explain node s = some .execute_recipe) :
    node = .shadow_audit ∧ s.final_status = none ∧ explain = false := by
  cases node
  case shadow_audit =>
    obtain ⟨hopen, hnext⟩ := route_after_gate_eq (by decide) (Option.some.inj h)
    refine ⟨rfl, hopen, ?_⟩
    cases explain
    · rfl
    · cases hnext
  case validate_circuit_breaker | select_recipe | resolve_dependencies | validate_types =>
    obtain ⟨-, hnext⟩ := route_after_gate_eq (by decide) (Option.some.inj h)
    cases hnext
  all_goals cases h

theorem before_apply_effects (h : successor explain node s = some .apply_effects) :
    node = .execute_recipe := by
  cases node
  case execute_recipe => rfl
  case shadow_audit =>
    obtain ⟨-, hnext⟩ := route_after_gate_eq (by decide) (Option.some.inj h)
    cases explain <;> cases hnext
  case validate_circuit_breaker | select_recipe | resolve_dependencies | validate_types =>
    obtain ⟨-, hnext⟩ := route_after_gate_eq (by decide) (Option.some.inj h)
    cases hnext
  all_goals cases h

theorem before_the_end (h : successor explain node s = none) : node = .build_analysis := by
  cases node <;> first | rfl | cases h

/-! ## The gate -/

/-- A run that is at its recipe or at its effects has passed the gate. -/
theorem reaches_passed {start : Pos} {vs : List (Visit NodeName Pos)}
    (h : Reaches env origin start vs node p)
    (hnode : node = .execute_recipe ∨ node = .apply_effects) :
    env.explain_mode = false ∧ GreenAudit vs p.1 := by
  refine Path.rule (P := fun vs node (p : Pos) => node = .execute_recipe ∨ node = .apply_effects →
    env.explain_mode = false ∧ GreenAudit vs p.1) h ?_ ?_ hnode
  · rintro (h | h) <;> cases h
  · rintro ws a u u' b ih hexec hnext (rfl | rfl)
    · obtain ⟨rfl, hopen, hlive⟩ := before_execute_recipe hnext
      refine ⟨hlive, _, List.mem_append_right _ (List.mem_singleton_self _), rfl, rfl, ?_⟩
      obtain ⟨verdict, sets, hexit, -, hfinal⟩ := run_node_left hexec
      rw [hopen] at hfinal
      cases hexit with
      | green hgreen => exact hgreen
      | yellow => cases hfinal
      | red => cases hfinal
    · cases before_apply_effects hnext
      obtain ⟨hlive, v, hv, hnode, hshadow, hgreen⟩ := ih (Or.inl rfl)
      have hkeep := (run_node_wrote hexec).1.shadow (by decide)
      refine ⟨hlive, v, List.mem_append_left _ hv, hnode, ?_, ?_⟩
      · exact hshadow.trans hkeep.symm
      · rw [hkeep]
        exact hgreen

theorem Exit.ne_complete {s' : GraphState} {verdict : Option String} {sets : Option TerminalStatus}
    (h : Exit env s s' node verdict sets) (hn : node ≠ .execute_recipe) :
    sets ≠ some .COMPLETE := by
  cases h <;> first | exact absurd rfl hn | simp

/-- An explain run calls nothing and completes nothing, at every node that
it gets to. -/
theorem explain_invariant {vs : List (Visit NodeName Pos)}
    (hexplain : env.explain_mode = true) (hfresh : s.final_status ≠ some .COMPLETE)
    (h : Reaches env origin (s, ext) vs node p) :
    p.1.final_status ≠ some .COMPLETE ∧ p.2 = ext := by
  have hquiet : ∀ ws a u, Reaches env origin (s, ext) ws a u →
      a ≠ .execute_recipe ∧ a ≠ .apply_effects := by
    intro ws a u hu
    refine ⟨fun ha => ?_, fun ha => ?_⟩
    · simp [(reaches_passed hu (Or.inl ha)).1] at hexplain
    · simp [(reaches_passed hu (Or.inr ha)).1] at hexplain
  have hboth := h.rule (P := fun ws a u => Reaches env origin (s, ext) ws a u ∧
    u.1.final_status ≠ some .COMPLETE ∧ u.2 = ext) ⟨.here _ _, hfresh, rfl⟩ ?_
  · exact hboth.2
  rintro ws a u u' b ⟨hu, hopen, hext⟩ hexec hnext
  obtain ⟨hrecipe, heffect⟩ := hquiet ws a u hu
  obtain ⟨verdict, sets, hexit, -, hfinal⟩ := run_node_left hexec
  refine ⟨hu.snoc hexec hnext, ?_, ((run_node_wrote hexec).2 heffect).trans hext⟩
  rw [hfinal]
  rcases sets with _ | st
  · exact hopen
  · exact hexit.ne_complete hrecipe

theorem explain_run (hexplain : env.explain_mode = true)
    (hfresh : s.final_status ≠ some .COMPLETE) :
    wp (run_graph env origin s)
      (fun fin ext' => fin.final_status ≠ some .COMPLETE ∧ ext' = ext) (fun _ ext' => ext' = ext)
      ext := by
  by_cases hkill : env.kill_switch = true
  · unfold run_graph
    rw [if_pos hkill, wp_pure]
    exact ⟨by simp, rfl⟩
  refine wp_mono (run_graph_follows_the_graph s (by simpa using hkill)) ?_ ?_
  · rintro fin ext' ⟨vs, t, hends, rfl⟩
    obtain ⟨ws, a, u, hpath, hexec, hend, -⟩ := hends.last_visit
    obtain rfl := before_the_end hend
    obtain ⟨hopen, hext⟩ := explain_invariant hexplain hfresh hpath
    obtain ⟨verdict, sets, hexit, -, hfinal⟩ := run_node_left hexec
    refine ⟨?_, ((run_node_wrote hexec).2 (by decide)).trans hext⟩
    rw [explain_terminal_final_status, hfinal]
    rcases sets with _ | st
    · exact hopen
    · exact hexit.ne_complete (by decide)
  · rintro e ext' ⟨vs, node, state, hpath, -⟩
    exact (explain_invariant hexplain hfresh hpath).2

/-- No recipe function is called and no effect gateway is reached before a
GREEN audit in the same run, on the live graph; the explain graph never does
either, and never completes a run. -/
theorem nothing_runs_before_a_green_audit (env : RunEnv) (origin : Option String) (s : GraphState)
    (ext : External) (hfinal : s.final_status = none) :
    (∀ vs node p, Reaches env origin (s, ext) vs node p →
      recipe_called node p.1 ≠ none ∨ CallsGateway env origin node p →
      env.explain_mode = false ∧ GreenAudit vs p.1) ∧
    (env.explain_mode = true → wp (run_graph env origin s)
      (fun fin ext' => fin.final_status ≠ some .COMPLETE ∧ ext' = ext) (fun _ ext' => ext' = ext)
      ext) := by
  refine ⟨fun vs node p hpath hruns => reaches_passed hpath ?_, fun hexplain =>
    explain_run hexplain (by simp [hfinal])⟩
  rcases hruns with hrecipe | hcalls
  · left
    by_contra hn
    exact hrecipe (if_neg hn)
  · exact Or.inr hcalls.node

/-- The rule at a run of the sample order. -/
theorem the_sample_run_waits_for_its_audit :
    (∀ vs node p, Reaches (sampleRun 100) none ({ event := sampleEvent }, {}) vs node p →
      recipe_called node p.1 ≠ none ∨ CallsGateway (sampleRun 100) none node p →
      (sampleRun 100).explain_mode = false ∧ GreenAudit vs p.1) ∧
    ((sampleRun 100).explain_mode = true → wp (run_graph (sampleRun 100) none
      { event := sampleEvent })
      (fun fin ext' => fin.final_status ≠ some .COMPLETE ∧ ext' = {}) (fun _ ext' => ext' = {})
      {}) :=
  nothing_runs_before_a_green_audit (sampleRun 100) none { event := sampleEvent } {} rfl

end asoe
