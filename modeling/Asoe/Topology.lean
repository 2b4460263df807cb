-- The compiled graph: which node follows which, in the live and in the
-- explain variant, and that `run_graph` is a run of that graph.
import Asoe.GraphRun
import Asoe.Lib.Flow

namespace asoe

open py prog flow

/-! ## Nodes and edges -/

/-- A terminal status sends the run to its analysis. -/
def route_after_gate (state : GraphState) (rest : NodeName) : NodeName :=
  if state.final_status.isSome then .build_analysis else rest

/-- The node after `node`, by the edges of `build_graph` or of
`build_explain_graph`. -/
def successor (explain : Bool) (node : NodeName) (state : GraphState) : Option NodeName :=
  match node with
  | .ingest => some .classify
  | .classify => some .load_skill
  | .load_skill => some .validate_circuit_breaker
  | .validate_circuit_breaker => some (route_after_gate state .select_recipe)
  | .select_recipe => some (route_after_gate state .resolve_dependencies)
  | .resolve_dependencies => some (route_after_gate state .validate_types)
  | .validate_types => some (route_after_gate state .shadow_audit)
  | .shadow_audit =>
    some (route_after_gate state (if explain then .explain_only else .execute_recipe))
  | .execute_recipe => some .apply_effects
  | .apply_effects => some .build_analysis
  | .explain_only => some .build_analysis
  | .build_analysis => none

theorem route_after_gate_eq {s : GraphState} {m node : NodeName} (hm : node ≠ .build_analysis)
    (h : route_after_gate s m = node) : s.final_status = none ∧ m = node := by
  unfold route_after_gate at h
  split at h
  · exact absurd h.symm hm
  · rename_i hopen
    exact ⟨by simpa using hopen, h⟩

/-- What a node runs on: the state of the run, and what lies outside. -/
abbrev Pos := GraphState × External

/-- Run one node. Only the effect node touches what lies outside. -/
def run_node (env : RunEnv) (origin : Option String) (node : NodeName) (p : Pos) :
    Except PyErr Pos :=
  let inside (r : Except PyErr GraphState) : Except PyErr Pos := r.map fun s => (s, p.2)
  match node with
  | .ingest => inside (ingest env p.1)
  | .classify => inside (.ok (classify env p.1))
  | .load_skill => inside (load_skill env p.1)
  | .validate_circuit_breaker => inside (.ok (validate_circuit_breaker p.1))
  | .select_recipe => inside (.ok (select_recipe env p.1))
  | .resolve_dependencies => inside (.ok (resolve_dependencies env p.1))
  | .validate_types => inside (validate_types p.1)
  | .shadow_audit => inside (shadow_audit env p.1)
  | .execute_recipe => inside (execute_recipe env p.1)
  | .explain_only => inside (.ok (explain_only p.1))
  | .build_analysis => inside (build_analysis env p.1)
  | .apply_effects =>
    let (ext, state) := apply_effects env origin p.1 p.2
    .ok (state, ext)

/-- The graph that a run is invoked on. -/
def build_graph (env : RunEnv) (origin : Option String) : Flow NodeName PyErr Pos where
  exec := run_node env origin
  next node p := successor env.explain_mode node p.1

/-- The run, from its entry point, is about to run `node` on `p`. -/
abbrev Reaches (env : RunEnv) (origin : Option String) (start : Pos)
    (vs : List (Visit NodeName Pos)) (node : NodeName) (p : Pos) : Prop :=
  Path (build_graph env origin) .ingest start vs node p

/-- The run, from its entry point, ends and leaves `p`. -/
abbrev Finishes (env : RunEnv) (origin : Option String) (start : Pos)
    (vs : List (Visit NodeName Pos)) (p : Pos) : Prop :=
  Ends (build_graph env origin) .ingest start vs p

/-- The run gets to a node that raises `e`. -/
def RaisesAt (env : RunEnv) (origin : Option String) (start : Pos) (e : PyErr) (ext : External) :
    Prop :=
  ∃ vs node state, Reaches env origin start vs node (state, ext) ∧
    run_node env origin node (state, ext) = .error e

/-! ## `run_graph` runs the graph -/

/-- The node after a Shadow that let the run pass. -/
def continuation (env : RunEnv) : NodeName :=
  if env.explain_mode then .explain_only else .execute_recipe

section link

variable {env : RunEnv} {origin : Option String} {start : Pos} {ext : External}

/-- The run gets to `node` with the state `u`. -/
def Meets (env : RunEnv) (origin : Option String) (start : Pos) (ext : External) (node : NodeName)
    (u : GraphState) : Prop :=
  ∃ vs, Reaches env origin start vs node (u, ext)

/-- Where a chain of nodes leads the run: past the Shadow, to the analysis
of a halted run, or to an exception. -/
def Leads (env : RunEnv) (origin : Option String) (start : Pos) (ext : External) :
    Except PyErr GraphState → Prop
  | .ok p => Meets env origin start ext (route_after_gate p (continuation env)) p
  | .error e => RaisesAt env origin start e ext

theorem Meets.next {node m : NodeName} {u u' : GraphState}
    (hu : Meets env origin start ext node u)
    (hrun : run_node env origin node (u, ext) = .ok (u', ext))
    (hnext : successor env.explain_mode node u' = some m) : Meets env origin start ext m u' := by
  obtain ⟨vs, hpath⟩ := hu
  exact ⟨_, hpath.snoc hrun hnext⟩

theorem leads_bind {node : NodeName} {u : GraphState} {x : Except PyErr GraphState}
    {rest : GraphState → Except PyErr GraphState} (hu : Meets env origin start ext node u)
    (hrun : run_node env origin node (u, ext) = x.map fun s => (s, ext))
    (hrest : ∀ u', run_node env origin node (u, ext) = .ok (u', ext) →
      Leads env origin start ext (rest u')) : Leads env origin start ext (x >>= rest) := by
  rcases x with e | u'
  · obtain ⟨vs, hpath⟩ := hu
    exact ⟨vs, node, u, hpath, hrun⟩
  · exact hrest u' hrun

theorem leads_after_gate {m : NodeName} {u : GraphState}
    {rest : GraphState → Except PyErr GraphState}
    (hu : Meets env origin start ext (route_after_gate u m) u)
    (hrest : Meets env origin start ext m u → Leads env origin start ext (rest u)) :
    Leads env origin start ext (after_gate u rest) := by
  unfold after_gate
  unfold route_after_gate at hu
  split
  · rename_i hfinal
    rw [if_pos hfinal] at hu
    simpa only [Leads, route_after_gate, if_pos hfinal] using hu
  · rename_i hfinal
    rw [if_neg hfinal] at hu
    exact hrest hu

theorem proposal_phase_leads (s : GraphState) :
    Leads env origin (s, ext) ext (proposal_phase env s) := by
  have hstart : Meets env origin (s, ext) ext .ingest s := ⟨[], .here _ _⟩
  refine leads_bind hstart rfl fun s₁ h₁ => ?_
  have hload : Meets env origin (s, ext) ext .load_skill (classify env s₁) :=
    (hstart.next h₁ rfl).next rfl rfl
  refine leads_bind hload rfl fun s₂ h₂ => ?_
  have hbreaker := hload.next h₂ rfl
  refine leads_after_gate (hbreaker.next rfl rfl) fun hselect => ?_
  refine leads_after_gate (hselect.next rfl rfl) fun hresolve => ?_
  refine leads_after_gate (hresolve.next rfl rfl) fun htypes => ?_
  refine leads_bind htypes rfl fun s₃ h₃ => leads_after_gate (htypes.next h₃ rfl) fun hshadow => ?_
  rw [← bind_pure (shadow_audit env s₃)]
  exact leads_bind hshadow rfl fun s₄ h₄ => hshadow.next h₄ rfl

theorem analysis_finishes {u : GraphState} (hu : Meets env origin start ext .build_analysis u) :
    wp (do
      let state ← ofExcept (build_analysis env u)
      return explain_terminal state)
      (fun fin ext' => ∃ vs t, Finishes env origin start vs (t, ext') ∧ fin = explain_terminal t)
      (RaisesAt env origin start) ext := by
  obtain ⟨vs, hpath⟩ := hu
  rw [wp_bind, wp_ofExcept]
  refine ⟨fun t ht => ?_, fun e he => ?_⟩
  · have hrun : run_node env origin .build_analysis (u, ext) = .ok (t, ext) := by
      simp only [run_node, ht, Except.map]
    exact ⟨_, t, hpath.ends (.last hrun rfl), rfl⟩
  · refine ⟨vs, .build_analysis, u, hpath, ?_⟩
    simp only [run_node, he, Except.map]

/-- `run_graph` is a run of the graph: it returns what the run leaves at its
end, or raises what one of the nodes raised. -/
theorem run_graph_follows_the_graph (s : GraphState) (hkill : env.kill_switch = false) :
    wp (run_graph env origin s)
      (fun fin ext' => ∃ vs t, Finishes env origin (s, ext) vs (t, ext') ∧
        fin = explain_terminal t)
      (RaisesAt env origin (s, ext)) ext := by
  unfold run_graph
  rw [if_neg (by simp [hkill]), wp_bind, wp_ofExcept]
  have hleads : Leads env origin (s, ext) ext (proposal_phase env s) := proposal_phase_leads s
  refine ⟨fun p hp => ?_, fun e he => ?_⟩
  swap
  · rwa [he] at hleads
  rw [hp] at hleads
  simp only [Leads, route_after_gate, continuation] at hleads
  by_cases hfin : p.final_status.isSome = true
  · rw [if_pos hfin] at hleads
    rw [if_pos hfin, wp_bind, wp_pure]
    exact analysis_finishes hleads
  rw [if_neg hfin] at hleads
  rw [if_neg hfin, wp_bind]
  unfold after_shadow
  by_cases hexplain : env.explain_mode = true
  · rw [if_pos hexplain] at hleads
    rw [if_pos hexplain, wp_pure]
    exact analysis_finishes (hleads.next rfl rfl)
  rw [if_neg hexplain] at hleads
  rw [if_neg hexplain, wp_bind, wp_ofExcept]
  refine ⟨fun t ht => ?_, fun e he => ?_⟩
  swap
  · obtain ⟨vs, hpath⟩ := hleads
    refine ⟨vs, .execute_recipe, p, hpath, ?_⟩
    simp only [run_node, he, Except.map]
  have hrun : run_node env origin .execute_recipe (p, ext) = .ok (t, ext) := by
    simp only [run_node, ht, Except.map]
  obtain ⟨vs, hpath⟩ := hleads.next hrun rfl
  have heffects : Meets env origin (s, ext) (apply_effects env origin t ext).1 .build_analysis
      (apply_effects env origin t ext).2 := ⟨_, hpath.snoc rfl rfl⟩
  simpa only [wp_bind, wp_get, wp_set, wp_pure] using analysis_finishes heffects

end link

end asoe
