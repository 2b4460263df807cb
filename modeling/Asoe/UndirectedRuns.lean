-- What a run that starts from nothing but its event can call: neither the
-- ERP order nor the reply to the buyer, whatever its backends name.
import Asoe.RecipeChoice
import Asoe.SubmitOutcome

namespace asoe

open py prog

/-! ## The effects of the two operator recipes -/

def CreatesSalesOrder (req : GatewayRequest) : Prop :=
  req.gateway_name = "erp" ∧ req.operation = "create_sales_order"

/-- The notification that `ReplyDraftRecipe` sends; the other recipes notify
with a template. -/
def SendsReply (req : GatewayRequest) : Prop :=
  req.gateway_name = "buyer_notification" ∧ req.operation = "send" ∧
    req.params.map (·.1) = ["recipient", "subject", "body"]

theorem requested_effect {s : GraphState} {req : GatewayRequest} (h : requested s = some req) :
    ∃ name effect, s.selected_recipe = some name ∧ effect ∈ (get_recipe name).effects ∧
      req = effect_call s effect := by
  unfold requested at h
  rcases hsel : s.selected_recipe with _ | name
  · simp [hsel] at h
  rcases hlog : s.execution_log with _ | log
  · simp [hsel, hlog] at h
  simp only [hsel, hlog] at h
  obtain ⟨effect, heffect, hreq⟩ := Option.bind_eq_some_iff.mp h
  refine ⟨name, effect, rfl, List.mem_of_mem_head? heffect, ?_⟩
  unfold effect_request at hreq
  split at hreq
  · cases hreq
  · exact (Option.some.inj hreq).symm

theorem sends_reply_recipe {s : GraphState} {req : GatewayRequest} (h : requested s = some req)
    (hreply : SendsReply req) : s.selected_recipe = some .ReplyDraftRecipe := by
  obtain ⟨name, effect, hsel, heffect, rfl⟩ := requested_effect h
  obtain ⟨-, -, hkeys⟩ := hreply
  rw [hsel]
  cases name <;> simp [get_recipe, MANUAL_ORDER_INTAKE_SPEC] at heffect <;> subst heffect <;>
    simp [effect_call] at hkeys ⊢

/-! ## Their outcome without an extraction -/

theorem submit_of_nothing {others : RecipeName → PyDict → Except PyErr PyDict} {d : GraphState}
    (henr : d.enrichment_context = []) (hcorr : d.directed_corrections = []) {params : PyDict}
    (hparams : invocation_params d .SubmitToErpRecipe = .ok params) :
    recipe_func others .SubmitToErpRecipe params =
      .ok (rejected_submission "No line items to submit." [] 0) := by
  unfold invocation_params submit_params at hparams
  rw [henr, hcorr] at hparams
  cases hparams
  rfl

theorem reply_to_nobody {others : RecipeName → PyDict → Except PyErr PyDict} {d : GraphState}
    (henr : d.enrichment_context = []) (hcorr : d.directed_corrections = []) {params : PyDict}
    (hparams : invocation_params d .ReplyDraftRecipe = .ok params) :
    recipe_func others .ReplyDraftRecipe params =
      .ok (rejected_draft "No buyer recipient to send the draft to.") := by
  unfold invocation_params reply_params at hparams
  rw [henr, hcorr] at hparams
  cases hparams
  rfl

section run

variable {env : RunEnv} {s t : GraphState}

/-- The outcome that an executed state shows, by the recipe that it is on. -/
theorem Executes.outputs (h : Executes env s t) {name : RecipeName}
    (hname : t.selected_recipe = some name) :
    ∃ d params, d.given = s.given ∧
      ((get_recipe name).dependencies = [] → d.enrichment_context = s.enrichment_context) ∧
      invocation_params d name = .ok params ∧
      (t.outputs = [] ∨ ∃ outputs, recipe_func env.other_recipes name params = .ok outputs ∧
        dict.get t.outputs "status" = dict.get outputs "status") := by
  obtain ⟨-, -, p, hp, hopen, ht⟩ := h
  obtain ⟨-, -, hinvokes, -⟩ := proposal_phase_invokes env s p hp hopen
  have hsel := (execute_recipe_sameRun env p t ht).selected_recipe.symm.trans hname
  unfold Invokes at hinvokes
  simp only [hsel] at hinvokes
  obtain ⟨d, params, hgiven, hdeps, hok, hinv⟩ := hinvokes
  refine ⟨d, params, hgiven, hdeps, hok, ?_⟩
  rcases execute_recipe_outputs env p name params hinv t ht with ⟨hnone, -⟩ | ⟨outputs, hfunc, hout⟩
  · exact Or.inl hnone
  · exact Or.inr ⟨outputs, hfunc, hout "status" (by decide)⟩

theorem no_submit_of_nothing (h : Executes env s t) (hcorr : s.directed_corrections = [])
    (henr : s.enrichment_context = []) (hsel : t.selected_recipe = some .SubmitToErpRecipe) :
    requested t = none := by
  obtain ⟨d, params, hgiven, hdeps, hok, hout⟩ := h.outputs hsel
  rw [requested_submit hsel]
  refine if_neg fun hsuccess => ?_
  rcases hout with hnone | ⟨outputs, hfunc, hstatus⟩
  · simp [hnone, dict.get] at hsuccess
  · rw [submit_of_nothing ((hdeps rfl).trans henr)
      ((congrArg Given.directed_corrections hgiven).trans hcorr) hok] at hfunc
    cases hfunc
    rw [hsuccess] at hstatus
    simp [rejected_submission, dict.get_cons] at hstatus

theorem no_reply_to_nobody (h : Executes env s t) (hcorr : s.directed_corrections = [])
    (henr : s.enrichment_context = []) (hsel : t.selected_recipe = some .ReplyDraftRecipe) :
    requested t = none := by
  obtain ⟨d, params, hgiven, hdeps, hok, hout⟩ := h.outputs hsel
  rw [requested_reply hsel]
  refine if_neg fun hready => ?_
  rcases hout with hnone | ⟨outputs, hfunc, hstatus⟩
  · simp [hnone, dict.get] at hready
  · rw [reply_to_nobody ((hdeps rfl).trans henr)
      ((congrArg Given.directed_corrections hgiven).trans hcorr) hok] at hfunc
    cases hfunc
    rw [hready] at hstatus
    simp [rejected_draft, dict.get_cons] at hstatus

end run

/-! ## The calls of a run -/

theorem run_graph_ends (env : RunEnv) (origin : Option String) (s : GraphState) (ext : External) :
    ∃ outcome, RunEnd env origin s ext outcome (endState (run_graph env origin s ext)) := by
  refine wp_end (P := fun ext' => ∃ outcome, RunEnd env origin s ext outcome ext') ?_
  refine wp_mono (run_graph_end env origin s ext) ?_ ?_
  · intro fin ext' h
    exact ⟨.ok fin, h⟩
  · intro e ext' h
    exact ⟨.error e, h⟩

/-- A run that starts without corrections and without an enrichment creates
no sales order and sends no reply, however it ends and whatever its backends
and gateways answer. -/
theorem an_undirected_run_keeps_the_operator_effects (env : RunEnv) (origin : Option String)
    (s : GraphState) (ext : External) (hcorr : s.directed_corrections = [])
    (henr : s.enrichment_context = []) :
    ∀ c ∈ newCalls ext (endState (run_graph env origin s ext)),
      ¬ CreatesSalesOrder c.request ∧ ¬ SendsReply c.request := by
  obtain ⟨outcome, hrun⟩ := run_graph_ends env origin s ext
  rcases hrun.external with hsame | ⟨t, req, hexec, hreq, hcalled⟩
  · intro c hc
    rw [hsame] at hc
    simp [newCalls] at hc
  · intro c hc
    rw [hcalled, newCalls, effected_calls, List.drop_left, List.mem_singleton] at hc
    subst hc
    refine ⟨fun hcreates => ?_, fun hsends => ?_⟩
    · rw [no_submit_of_nothing hexec hcorr henr (requested_erp hreq hcreates.1)] at hreq
      cases hreq
    · rw [no_reply_to_nobody hexec hcorr henr (sends_reply_recipe hreq hsends)] at hreq
      cases hreq

/-- The rule at a run whose backend names the ERP recipe. -/
theorem a_named_submit_creates_no_order :
    wp (run_graph (namingRun .SubmitToErpRecipe) none { event := sampleEvent })
        (fun fin _ => fin.selected_recipe = some .SubmitToErpRecipe) (fun _ _ => False) {} ∧
      ∀ c ∈ newCalls {} (endState (run_graph (namingRun .SubmitToErpRecipe) none
        { event := sampleEvent } {})), ¬ CreatesSalesOrder c.request ∧ ¬ SendsReply c.request := by
  constructor
  · decide +kernel
  · exact an_undirected_run_keeps_the_operator_effects (namingRun .SubmitToErpRecipe) none
      { event := sampleEvent } {} rfl rfl

end asoe
