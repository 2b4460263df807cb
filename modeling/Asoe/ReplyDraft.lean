-- What a reply run composes. The mode of the run decides whether the reply
-- is only drafted or ready to be sent; recipient, subject and body are the
-- same in both modes.
import Asoe.Transitions

namespace asoe

open py prog

/-! ## The recipe -/

/-- The outputs of a compose that is not rejected. -/
def composed (template_name recipient subject body : PyVal) (applied : List PyVal)
    (mode : PyVal) : PyDict :=
  [("status", .str (if mode.eq (.str "send") then "READY_TO_SEND" else "DRAFTED")),
    ("reason", .none),
    ("draft", .dict [("template_name", template_name), ("recipient", recipient),
      ("subject", subject), ("body", body)]),
    ("edits_applied", .list applied)] ++
  if mode.eq (.str "send") then [("recipient", recipient), ("subject", subject), ("body", body)]
  else []

/-- A compose raises, is rejected, or yields a reply to a recipient; which
of the three, and which reply, does not depend on the mode. -/
theorem compose_reply_draft_cases (recipient template_name customer_name : PyVal)
    (context : PyDict) (edits : PyVal) :
    (∃ e, ∀ mode, compose_reply_draft recipient template_name customer_name context edits mode
      = .error e) ∨
    (∃ reason, ∀ mode, compose_reply_draft recipient template_name customer_name context edits mode
      = .ok (rejected_draft reason)) ∨
    (recipient.truthy = true ∧ ∃ subject body applied, ∀ mode,
      compose_reply_draft recipient template_name customer_name context edits mode
        = .ok (composed template_name recipient subject body applied mode)) := by
  unfold compose_reply_draft
  dsimp only
  by_cases hnone : (!recipient.truthy || decide (strip recipient.toStr = "")) = true
  · simp only [hnone, if_true]
    exact Or.inr (Or.inl ⟨_, fun _ => rfl⟩)
  have hto : recipient.truthy = true := by
    by_contra h
    simp [h] at hnone
  simp only [if_neg hnone]
  by_cases htemplate : template_name = .str ORDER_CLARIFICATION
  swap
  · cases template_name with
    | list | dict => exact Or.inl ⟨_, fun _ => rfl⟩
    | none | bool | int | float | str =>
      simp only [if_pos htemplate]
      exact Or.inr (Or.inl ⟨_, fun _ => rfl⟩)
  subst htemplate
  simp only [ne_eq, not_true_eq_false, if_false]
  rcases hblock : bullets (.ofOption (dict.get context "clarification_points")) with e | block
  · exact Or.inl ⟨e, fun _ => rfl⟩
  rcases hedits : method_of "get" (edits.or (.dict [])) with e | edits'
  · exact Or.inl ⟨e, fun _ => rfl⟩
  obtain ⟨text, htext⟩ : ∃ text, text = render_clarification (placeholder context "customer_po")
    (customer_name.or (.str "there")).toStr block := ⟨_, rfl⟩
  refine Or.inr (Or.inr ⟨hto, (override_field edits' "subject" (.str text.1)).1,
    (override_field edits' "body" (.str text.2)).1,
    (override_field edits' "subject" (.str text.1)).2 ++
      (override_field edits' "body" (.str text.2)).2, fun mode => ?_⟩)
  unfold composed
  rw [htext]
  by_cases hmode : mode.eq (.str "send") = true
  · simp only [hmode, if_true]
    rfl
  · simp only [hmode]
    rfl

/-! ## The parameters -/

/-- The mode of a reply, which is a draft when the operator names none. -/
def reply_mode (corrections : PyDict) : PyVal :=
  (PyVal.ofOption (dict.get corrections "mode")).or (.str "draft")

/-- Two states ask for the same reply, in any mode. -/
structure SameReply (s t : GraphState) : Prop where
  event : t.event = s.event
  enrichment_context : t.enrichment_context = s.enrichment_context
  corrections : ∀ key ≠ "mode",
    dict.get t.directed_corrections key = dict.get s.directed_corrections key

theorem reply_params_mode {s t : GraphState} (h : SameReply s t) :
    reply_params t =
      (fun ps => dict.set ps "mode" (reply_mode t.directed_corrections)) <$> reply_params s := by
  obtain ⟨hevent, henr, hkeys⟩ := h
  simp [reply_params, hevent, henr, hkeys, map_bind, dict.set, reply_mode]

theorem or_str_ne_none (v : PyVal) (s : String) : v.or (.str s) ≠ .none := by
  unfold PyVal.or
  split
  · rename_i htruthy
    intro hnone
    rw [hnone] at htruthy
    cases htruthy
  · simp

section call

variable (order_id : String) (recipient template_name customer_name : PyVal) (context : PyDict)
  (edits mode : PyVal)

/-- The parameters that the reply recipe is called with. -/
def reply_call : PyDict :=
  [("order_id", .str order_id), ("recipient", recipient), ("template_name", template_name),
    ("customer_name", customer_name), ("context", .dict context), ("edits", edits),
    ("mode", mode)]

theorem reply_call_set_mode (mode' : PyVal) :
    dict.set (reply_call order_id recipient template_name customer_name context edits mode) "mode"
      mode' = reply_call order_id recipient template_name customer_name context edits mode' := by
  simp [reply_call, dict.set]

theorem reply_call_complete (h : template_name ≠ .none) :
    missing_params (get_recipe .ReplyDraftRecipe)
      (reply_call order_id recipient template_name customer_name context edits mode) = [] := by
  simp only [missing_params, get_recipe, reply_call, List.filter_cons, List.filter_nil,
    dict.get_cons]
  cases template_name with
  | none => exact absurd rfl h
  | bool | int | float | str | list | dict => simp

theorem recipe_func_reply (others : RecipeName → PyDict → Except PyErr PyDict) :
    recipe_func others .ReplyDraftRecipe
        (reply_call order_id recipient template_name customer_name context edits mode) =
      compose_reply_draft recipient template_name customer_name context edits mode := by
  have hcontext : (PyVal.dict context).or (.dict []) = .dict context := by
    rcases context with _ | ⟨entry, rest⟩
    · rfl
    · rfl
  simp [recipe_func, reply_call, dict.get_cons, PyVal.ofOption, hcontext, method_of]
  rfl

end call

theorem reply_params_shape (s : GraphState) :
    returns (reply_params s) fun ps =>
      ∃ recipient template_name customer_name context edits mode, template_name ≠ .none ∧
        ps = reply_call s.event.order_id recipient template_name customer_name context edits
          mode := by
  unfold reply_params
  refine returns_bind fun header _ => returns_bind fun flags _ => returns_bind fun _ _ => ?_
  refine returns_bind fun email _ => returns_bind fun name _ => returns_bind fun po _ => ?_
  exact (returns_pure _).mpr ⟨_, _, _, _, _, _, or_str_ne_none _ _, rfl⟩

/-! ## The run -/

/-- A run on the reply recipe that asks for the same reply as `base`. -/
structure ReplyRun (base t : GraphState) : Prop where
  directed : t.directed_recipe = some .ReplyDraftRecipe
  same : SameReply base t

/-- What the recipe leaves of a run on it, by what it composes. -/
theorem reply_run_outputs {env : RunEnv} {base t s : GraphState} (hrun : ReplyRun base t)
    (hexec : Executes env t s) :
    ∃ ps, reply_params base = .ok ps ∧
      let params := dict.set ps "mode" (reply_mode t.directed_corrections)
      (s.outputs = [] ∧ (missing_params (get_recipe .ReplyDraftRecipe) params ≠ [] ∨
        ∃ e, recipe_func env.other_recipes .ReplyDraftRecipe params = .error e)) ∨
      ∃ outputs, recipe_func env.other_recipes .ReplyDraftRecipe params = .ok outputs ∧
        ∀ key ≠ "autonomy_vocab_version", dict.get s.outputs key = dict.get outputs key := by
  obtain ⟨-, -, p, hp, hnone, hs⟩ := hexec
  obtain ⟨-, t', params, hgiven, henr, hparams, hinv⟩ :=
    directed_proposal env t .ReplyDraftRecipe hrun.directed rfl p hp hnone
  have hsame : SameReply base t' := by
    refine ⟨?_, henr.trans hrun.same.enrichment_context, fun key hkey => ?_⟩
    · exact (congrArg Given.event hgiven).trans hrun.same.event
    · rw [show t'.directed_corrections = t.directed_corrections from
        congrArg Given.directed_corrections hgiven]
      exact hrun.same.corrections key hkey
  have hmode : t'.directed_corrections = t.directed_corrections :=
    congrArg Given.directed_corrections hgiven
  rw [invocation_params, reply_params_mode hsame, hmode] at hparams
  rcases hps : reply_params base with e | ps
  · rw [hps] at hparams
    cases hparams
  · rw [hps] at hparams
    cases hparams
    exact ⟨ps, rfl, execute_recipe_outputs env p .ReplyDraftRecipe _ hinv s hs⟩

/-- The runs for one reply send nothing, in any mode, or they all leave the
same reply, drafted or ready to be sent by their mode. -/
theorem reply_run_cases (base : GraphState) :
    (∀ env t s, ReplyRun base t → Executes env t s →
      dict.get s.outputs "status" ≠ some (.str "READY_TO_SEND")) ∨
    ∃ recipient template_name subject body applied, recipient.truthy = true ∧
      ∀ env t s, ReplyRun base t → Executes env t s →
        ∀ key ≠ "autonomy_vocab_version", dict.get s.outputs key = dict.get
          (composed template_name recipient subject body applied
            (reply_mode t.directed_corrections)) key := by
  rcases hps : reply_params base with e | ps
  · refine Or.inl fun env t s hrun hexec => ?_
    obtain ⟨ps, hok, -⟩ := reply_run_outputs hrun hexec
    cases hps.symm.trans hok
  obtain ⟨recipient, template_name, customer_name, context, edits, mode, htemplate, rfl⟩ :=
    reply_params_shape base ps hps
  -- The recipe is complete, and what it composes differs by the mode only.
  have houtputs : ∀ env t s, ReplyRun base t → Executes env t s →
      let result := compose_reply_draft recipient template_name customer_name context edits
        (reply_mode t.directed_corrections)
      (s.outputs = [] ∧ ∃ e, result = .error e) ∨ ∃ outputs, result = .ok outputs ∧
        ∀ key ≠ "autonomy_vocab_version", dict.get s.outputs key = dict.get outputs key := by
    intro env t s hrun hexec
    obtain ⟨ps', hok, hout⟩ := reply_run_outputs hrun hexec
    cases hps.symm.trans hok
    simp only [reply_call_set_mode, recipe_func_reply] at hout
    rcases hout with ⟨hnil, hmissing | herror⟩ | hout
    · exact absurd (reply_call_complete _ _ _ _ _ _ _ htemplate) hmissing
    · exact Or.inl ⟨hnil, herror⟩
    · exact Or.inr hout
  rcases compose_reply_draft_cases recipient template_name customer_name context edits with
    ⟨e, herror⟩ | ⟨reason, hrejected⟩ | ⟨hto, subject, body, applied, hcomposed⟩
  · refine Or.inl fun env t s hrun hexec => ?_
    rcases houtputs env t s hrun hexec with ⟨hnil, -⟩ | ⟨outputs, hok, -⟩
    · simp [hnil]
    · cases (herror _).symm.trans hok
  · refine Or.inl fun env t s hrun hexec => ?_
    rcases houtputs env t s hrun hexec with ⟨hnil, -⟩ | ⟨outputs, hok, hget⟩
    · simp [hnil]
    · cases (hrejected _).symm.trans hok
      rw [hget "status" (by decide)]
      simp [rejected_draft, dict.get_cons]
  · refine Or.inr ⟨recipient, template_name, subject, body, applied, hto, ?_⟩
    intro env t s hrun hexec
    rcases houtputs env t s hrun hexec with ⟨-, e, herror⟩ | ⟨outputs, hok, hget⟩
    · cases (hcomposed _).symm.trans herror
    · cases (hcomposed _).symm.trans hok
      exact hget

end asoe
