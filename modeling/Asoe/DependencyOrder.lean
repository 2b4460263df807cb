-- What the gateway reads of a recipe leave in the state, in whatever order
-- they complete. A required read that fails halts the node: what came before
-- it is kept, and the reads that complete later are not.
import Asoe.Lib.Gathering
import Asoe.Transitions

namespace asoe

open py prog gathering

/-! ## The executor -/

/-- How the call of a gateway ends. An exception is of a class that the
executor names, or of another one. -/
inductive CallEnd where
  | returned (response : GatewayResponse)
  | timed_out
  | raised (named : Bool) (exc : PyErr)

/-- The registered gateways, and the text of the open circuit that a call
meets, if it does. -/
structure GatewayServices where
  get_gateway : String → Option (GatewayRequest → CallEnd)
  circuit_open : GatewayRequest → Option String := fun _ => none

/-- In seconds. -/
def GATEWAY_TIMEOUT_S : List (String × ℕ) :=
  [("graph", 3), ("sap", 8), ("oms", 5), ("document_extraction", 6), ("email_intake", 3)]

/-- The budget of a request that came with the default of 5000 ms. -/
def effective_timeout_ms (gateway_name : String) : ℕ :=
  match dict.get GATEWAY_TIMEOUT_S gateway_name with
  | some seconds => seconds * 1000
  | none => 5000

def GatewayExecutor.run (services : GatewayServices) (request : GatewayRequest) : GatewayResponse :=
  let answer (status : GatewayStatus) (error : String) : GatewayResponse :=
    { gateway_name := request.gateway_name, operation := request.operation, status := status
      error := some error }
  match services.get_gateway request.gateway_name with
  | none => answer .UNAVAILABLE ("Gateway not registered: " ++ request.gateway_name)
  | some execute =>
    match services.circuit_open request with
    | some exc => answer .UNAVAILABLE ("Gateway circuit breaker OPEN: " ++ exc)
    | none =>
      match execute request with
      | .returned response => response
      | .timed_out =>
        answer .TIMEOUT ("Gateway call exceeded " ++
          toString (effective_timeout_ms request.gateway_name) ++ "ms timeout")
      | .raised named exc =>
        let text := exc.kind ++ ": " ++ exc.text
        answer .FAILED (if named then text else "Unexpected " ++ text)

/-- The run reads through the executor. -/
def RunEnv.reading (env : RunEnv) (services : GatewayServices) : RunEnv :=
  { env with read_gateway := GatewayExecutor.run services }

/-! ## The reads of a state -/

def dependencies_of (state : GraphState) : List GatewayDependency :=
  match state.selected_recipe with
  | none => []
  | some name => (get_recipe name).dependencies

section reads

variable (services : GatewayServices) (state : GraphState) (dep : GatewayDependency)

def dependency_request : GatewayRequest where
  gateway_name := dep.gateway_name
  operation := dep.operation
  params := dep.params_from_state.map fun p => (p.1, p.2.read state.event)
  trace_id := state.request_trace_id

def dependency_response : GatewayResponse :=
  GatewayExecutor.run services (dependency_request state dep)

/-- What the state keeps of a read: its data, or an empty entry. -/
def evidence : PyVal :=
  .dict (if (dependency_response services state dep).status = .SUCCESS then
    (dependency_response services state dep).data else [])

/-- A required read did not return SUCCESS. -/
def HaltsOn : Prop :=
  (dependency_response services state dep).status ≠ .SUCCESS ∧ dep.required_for_audit = true

instance : Decidable (HaltsOn services state dep) :=
  inferInstanceAs (Decidable ((dependency_response services state dep).status ≠ .SUCCESS ∧ _))

def halt_explanation : String :=
  "Gateway dependency failed: " ++ dep.gateway_name ++ "/" ++ dep.operation ++ " — " ++
    (dependency_response services state dep).failure

/-- The context holds the evidence of the reads, and beside it what it held
before. -/
structure Gathered (deps : List GatewayDependency) (context : PyDict) : Prop where
  read : ∀ dep ∈ deps, dict.get context dep.result_key = some (evidence services state dep)
  other : ∀ key ∉ deps.map GatewayDependency.result_key,
    dict.get context key = dict.get state.enrichment_context key

end reads

/-- The same state, with the same entries in the context. -/
def SameState (s s' : GraphState) : Prop :=
  s' = { s with enrichment_context := s'.enrichment_context } ∧
    ∀ key, dict.get s.enrichment_context key = dict.get s'.enrichment_context key

theorem result_keys_nodup (state : GraphState) :
    ((dependencies_of state).map GatewayDependency.result_key).Nodup := by
  unfold dependencies_of
  generalize state.selected_recipe = selected
  cases selected with
  | none => exact List.nodup_nil
  | some name => cases name <;> decide

section order

variable (env : RunEnv) {services : GatewayServices} {state : GraphState}

/-- The node gathers the evidence of the reads as they complete. -/
theorem resolve_each_eq (services : GatewayServices) (state : GraphState)
    (deps : List GatewayDependency) (context : PyDict) :
    resolve_each (env.reading services) { state with enrichment_context := context } deps =
      match gather GatewayDependency.result_key (evidence services state) (HaltsOn services state)
        context deps with
      | (context, none) =>
        record { state with enrichment_context := context } .resolve_dependencies "ok"
      | (context, some dep) =>
        record { state with
          enrichment_context := context, final_status := some .FAIL_TO_HUMAN
          explanation := some (halt_explanation services state dep) }
          .resolve_dependencies "required_gw_fail" := by
  induction deps generalizing context with
  | nil => rfl
  | cons dep deps ih =>
    rw [resolve_each, gather]
    change (if (dependency_response services state dep).status = .SUCCESS then _ else _) = _
    by_cases hsuccess : (dependency_response services state dep).status = .SUCCESS
    · have hgoes : ¬ HaltsOn services state dep := fun h => h.1 hsuccess
      have hdata : evidence services state dep =
          .dict (dependency_response services state dep).data := by
        unfold evidence
        rw [if_pos hsuccess]
      rw [if_pos hsuccess, if_neg hgoes, ← ih, hdata]
      rfl
    · rw [if_neg hsuccess]
      by_cases hrequired : dep.required_for_audit = true
      · rw [if_pos hrequired, if_pos ⟨hsuccess, hrequired⟩]
        rfl
      · have hgoes : ¬ HaltsOn services state dep := fun h => hrequired h.2
        have hempty : evidence services state dep = .dict [] := by
          unfold evidence
          rw [if_neg hsuccess]
        rw [if_neg hrequired, if_neg hgoes, ← ih, hempty]

theorem resolve_dependencies_eq (services : GatewayServices) (state : GraphState) :
    resolve_dependencies (env.reading services) state =
      resolve_each (env.reading services) state (env.dependency_order (dependencies_of state)) := by
  unfold resolve_dependencies dependencies_of
  cases state.selected_recipe with
  | none =>
    dsimp only
    rw [(env.dependency_order_perm []).eq_nil]
    rfl
  | some name => rfl

theorem gathered_perm {deps deps' : List GatewayDependency} (h : deps.Perm deps')
    {context : PyDict} (hgathered : Gathered services state deps context) :
    Gathered services state deps' context where
  read dep hdep := hgathered.read dep (h.mem_iff.mpr hdep)
  other key hkey := hgathered.other key fun hmem => hkey ((h.map _).mem_iff.mp hmem)

theorem gathered_written {deps : List GatewayDependency}
    (hkeys : (deps.map GatewayDependency.result_key).Nodup) :
    Gathered services state deps
      (written GatewayDependency.result_key (evidence services state) state.enrichment_context
        deps) where
  read _ hdep := get_written_of_mem hkeys hdep
  other _ hkey := get_written_of_notMem hkey

theorem ordered_keys_nodup (state : GraphState) :
    ((env.dependency_order (dependencies_of state)).map GatewayDependency.result_key).Nodup := by
  have hperm := env.dependency_order_perm (dependencies_of state)
  exact (hperm.map _).nodup_iff.mpr (result_keys_nodup state)

theorem resolve_dependencies_of_open
    (h : ∀ dep ∈ dependencies_of state, ¬ HaltsOn services state dep) :
    resolve_dependencies (env.reading services) state =
      record { state with
        enrichment_context := written GatewayDependency.result_key (evidence services state)
          state.enrichment_context (env.dependency_order (dependencies_of state)) }
        .resolve_dependencies "ok" := by
  have hopen : ∀ dep ∈ env.dependency_order (dependencies_of state),
      ¬ HaltsOn services state dep := by
    intro dep hdep
    exact h dep ((env.dependency_order_perm _).mem_iff.mp hdep)
  have heach := resolve_each_eq env services state
    (env.dependency_order (dependencies_of state)) state.enrichment_context
  rw [gather_of_none hopen] at heach
  rw [resolve_dependencies_eq]
  exact heach

/-- A required read fails: the first of them to complete halts the node. -/
theorem resolve_dependencies_of_halt
    (h : ∃ dep ∈ dependencies_of state, HaltsOn services state dep) :
    ∃ before dep after context,
      env.dependency_order (dependencies_of state) = before ++ dep :: after ∧
      (∀ other ∈ before, ¬ HaltsOn services state other) ∧ HaltsOn services state dep ∧
      Gathered services state before context ∧
      resolve_dependencies (env.reading services) state =
        record { state with
          enrichment_context := context, final_status := some .FAIL_TO_HUMAN
          explanation := some (halt_explanation services state dep) }
          .resolve_dependencies "required_gw_fail" := by
  have hhalts : ∃ dep ∈ env.dependency_order (dependencies_of state),
      HaltsOn services state dep := by
    obtain ⟨dep, hdep, hdephalts⟩ := h
    exact ⟨dep, (env.dependency_order_perm _).mem_iff.mpr hdep, hdephalts⟩
  obtain ⟨before, dep, after, horder, hbefore, hdep, hgather⟩ :=
    gather_of_some GatewayDependency.result_key (evidence services state)
      state.enrichment_context hhalts
  have hkeys : (before.map GatewayDependency.result_key).Nodup := by
    have hordered := ordered_keys_nodup env state
    rw [horder] at hordered
    exact hordered.sublist ((List.sublist_append_left _ _).map _)
  refine ⟨before, dep, after, _, horder, hbefore, hdep, gathered_written hkeys, ?_⟩
  have heach := resolve_each_eq env services state
    (env.dependency_order (dependencies_of state)) state.enrichment_context
  rw [hgather] at heach
  rw [resolve_dependencies_eq]
  exact heach

end order

/-- The reads leave one state in every order, while no required one fails. Else
the node halts in every order, on the first of these to complete: the order
decides which one the explanation names and which evidence is kept. -/
theorem the_reads_leave_one_state_unless_a_required_one_fails (env env' : RunEnv)
    (services : GatewayServices) (state : GraphState) :
    let s := resolve_dependencies (env.reading services) state
    let s' := resolve_dependencies (env'.reading services) state
    s.final_status =
      (if ∃ dep ∈ dependencies_of state, HaltsOn services state dep then some .FAIL_TO_HUMAN
        else state.final_status) ∧
    ((∀ dep ∈ dependencies_of state, ¬ HaltsOn services state dep) →
      SameState s s' ∧ s.explanation = state.explanation ∧
        Gathered services state (dependencies_of state) s.enrichment_context) ∧
    ((∃ dep ∈ dependencies_of state, HaltsOn services state dep) →
      s' = { s with
        explanation := s'.explanation, enrichment_context := s'.enrichment_context } ∧
      ∃ before dep after, env.dependency_order (dependencies_of state) = before ++ dep :: after ∧
        (∀ other ∈ before, ¬ HaltsOn services state other) ∧ HaltsOn services state dep ∧
        s.explanation = some (halt_explanation services state dep) ∧
        Gathered services state before s.enrichment_context) := by
  dsimp only
  refine ⟨?_, ?_, ?_⟩
  · split
    · rename_i h
      obtain ⟨_, _, _, _, -, -, -, -, hs⟩ := resolve_dependencies_of_halt env h
      rw [hs]
      rfl
    · rename_i h
      have hopen : ∀ dep ∈ dependencies_of state, ¬ HaltsOn services state dep :=
        fun dep hdep hhalts => h ⟨dep, hdep, hhalts⟩
      rw [resolve_dependencies_of_open env hopen]
      rfl
  · intro h
    have hperm := env.dependency_order_perm (dependencies_of state)
    have hperm' := env'.dependency_order_perm (dependencies_of state)
    have hkeys := ordered_keys_nodup env state
    rw [resolve_dependencies_of_open env h, resolve_dependencies_of_open env' h]
    refine ⟨⟨rfl, get_written_perm hkeys (hperm.trans hperm'.symm)⟩, rfl, ?_⟩
    exact gathered_perm hperm (gathered_written hkeys)
  · intro h
    obtain ⟨before, dep, after, context, horder, hbefore, hdep, hcontext, hs⟩ :=
      resolve_dependencies_of_halt env h
    obtain ⟨_, _, _, _, -, -, -, -, hs'⟩ := resolve_dependencies_of_halt env' h
    rw [hs, hs']
    exact ⟨rfl, before, dep, after, horder, hbefore, hdep, rfl, hcontext⟩

/-! ## Two orders of one set of answers -/

/-- One answer and two failures. -/
def halfServices : GatewayServices where
  get_gateway name := some fun request =>
    if name = "sap_doc" then
      .returned { gateway_name := name, operation := request.operation, status := .SUCCESS
                  data := [("doc_number", .str "900")] }
    else .raised true ⟨"RuntimeError", "503"⟩

def reversedRun : RunEnv :=
  { sampleRun 100 with
    dependency_order := List.reverse
    dependency_order_perm := fun deps => List.reverse_perm deps }

def pricingState : GraphState :=
  { event := sampleEvent, selected_recipe := some .PriceAdjustmentRecipe }

theorem two_orders_of_the_reads_leave_two_states :
    let s := resolve_dependencies ((sampleRun 100).reading halfServices) pricingState
    let s' := resolve_dependencies (reversedRun.reading halfServices) pricingState
    s.explanation ≠ s'.explanation ∧
      dict.get s.enrichment_context "sap_doc_context" = some (.dict [("doc_number", .str "900")]) ∧
      dict.get s'.enrichment_context "sap_doc_context" = none := by
  decide +kernel

end asoe
