-- Which dispositions call the send gateway of the buyer. The mode of a run
-- travels in the reply object of the operator, so only an object that does
-- not name the mode itself leaves the choice to the action.
import Asoe.ReplySend
import Asoe.SubmitOutcome

namespace asoe

open py prog runs

/-! ## The calls of one disposition -/

/-- A call of `buyer_notification/send`. -/
def GatewayCall.isSend (c : GatewayCall) : Bool :=
  decide (c.request.gateway_name = "buyer_notification" ∧ c.request.operation = "send")

/-- The send calls that were made in between. -/
def sends (before after : External) : ℕ := (newCalls before after).countP (·.isSend)

theorem sends_self (ext : External) : sends ext ext = 0 := by
  simp [sends, newCalls]

theorem directedEnd_sends {env : RunEnv} {id tenant : String} {r : ChildCase} {recipe : RecipeName}
    {params : PyDict} {ext ext' : External} {outcome : Except PyErr GraphState}
    (h : DirectedEnd env id tenant r recipe params ext outcome ext') : sends ext ext' ≤ 1 := by
  rcases h.external with rfl | ⟨event, s, req, -, -, -, -, rfl⟩
  · rw [sends_self]
    exact Nat.zero_le 1
  · unfold sends newCalls
    rw [effected_calls, List.drop_left]
    exact List.countP_le_length

/-- A `DRAFT_REPLY` sends nothing. -/
def DraftsOnly (cfg : Config) (st : Step) (api : Api) : Prop :=
  ∀ id key req, st.request = .disposition id key req → req.action = "DRAFT_REPLY" →
    sends api.external (step cfg st api).external = 0

/-- A `SEND_REPLY` sends once at most, and its preview sends nothing. -/
def SendsOnce (cfg : Config) (st : Step) (api : Api) : Prop :=
  ∀ id key req, st.request = .disposition id key req → req.action = "SEND_REPLY" →
    sends api.external (step cfg st api).external ≤ 1 ∧
      ∀ r, get_record api id st.user.org = some r →
        sends api.external (endState (run_reply_draft st.env.first_run id st.user.org r
          (req.reply.getD []) api)).external = 0

/-- The reply object does not name the mode `send`. -/
def DraftFirst (st : Step) : Prop :=
  ∀ id key req, st.request = .disposition id key req →
    reply_mode (req.reply.getD []) ≠ .str "send"

/-! ## One disposition -/

section disposition

variable {cfg : Config} {st : Step} {api : Api} {id : String} {key : Option String}
  {req : DispositionRequest}

theorem preview_external {r : ChildCase} (hmode : reply_mode (req.reply.getD []) ≠ .str "send") :
    (endState (run_reply_draft st.env.first_run id st.user.org r (req.reply.getD []) api)).external
      = api.external := by
  refine wp_end (P := fun api' : Api => api'.external = api.external) ?_
  refine wp_run_directed (fun fin ext' hrun => ?_) fun e e' ext' hrun => ?_
  · exact draftEnd_external hmode hrun
  · exact draftEnd_external hmode hrun

/-- A draft or a send calls no more than the second run of the send. -/
theorem reply_step (hreq : st.request = .disposition id key req)
    (haction : req.action = "DRAFT_REPLY" ∨ req.action = "SEND_REPLY")
    (hmode : reply_mode (req.reply.getD []) ≠ .str "send") :
    (step cfg st api).external = api.external ∨ req.action = "SEND_REPLY" ∧
      ∃ r outcome, SendEnd st.env st.user id r req.reply api.external outcome
        (step cfg st api).external := by
  cases step_cases cfg st api with
  | idle hkept hext => exact Or.inl hext
  | wrote id' r w hget hanswer hwrote =>
    rw [hwrote.external]
    rw [hreq] at hanswer
    cases hanswer with
    | drafted _ _ result ext' haction' hstate hrun => exact Or.inl (draftEnd_external hmode hrun)
    | deduped _ _ preview ext' dkey haction' hstate hrun =>
      exact Or.inl (draftEnd_external hmode hrun)
    | sent _ _ preview ext' result ext'' dkey haction' hstate hrun hunseen hsend =>
      rw [draftEnd_external hmode hrun] at hsend
      exact Or.inr ⟨haction', r, _, hsend⟩
    | submit_staged _ _ _ hother | submitted _ _ _ _ _ hother =>
      rw [hother] at haction
      simp at haction
    | override_staged | disposed => exact Or.inl rfl
  | abandoned id' r hget hkept habandoned =>
    rw [hreq] at habandoned
    generalize (step cfg st api).external = ext at habandoned
    cases habandoned with
    | draft _ _ e _ haction' hrun => exact Or.inl (draftEnd_external hmode hrun)
    | preview _ _ outcome _ haction' hrun => exact Or.inl (draftEnd_external hmode hrun)
    | send _ _ preview ext' outcome _ haction' hrun hunseen hsend =>
      rw [draftEnd_external hmode hrun] at hsend
      exact Or.inr ⟨haction', r, _, hsend⟩
    | submit _ _ _ _ _ hother =>
      rw [hother] at haction
      simp at haction
  | resolved event explain outcome hother => cases hreq.symm.trans hother
  | reconciled tenant_id max_attempts hother => cases hreq.symm.trans hother

end disposition

theorem step_drafts_only (cfg : Config) {st : Step} (api : Api) (hst : DraftFirst st) :
    DraftsOnly cfg st api := by
  intro id key req hreq haction
  rcases reply_step hreq (Or.inl haction) (hst id key req hreq) with hext | ⟨hsend, -⟩
  · rw [hext]
    exact sends_self _
  · rw [haction] at hsend
    simp at hsend

theorem step_sends_once (cfg : Config) {st : Step} (api : Api) (hst : DraftFirst st) :
    SendsOnce cfg st api := by
  intro id key req hreq haction
  have hmode := hst id key req hreq
  constructor
  · rcases reply_step hreq (Or.inr haction) hmode with hext | ⟨-, r, outcome, hsend⟩
    · rw [hext, sends_self]
      exact Nat.zero_le 1
    · exact directedEnd_sends hsend
  · intro r _
    rw [preview_external hmode]
    exact sends_self _

/-! ## Every run -/

/-- From any state of the service, and whatever the gateways answer: as long
as no reply object names the mode `send`, a draft sends nothing and a send
sends once at most. -/
theorem replies_are_sent_by_send_reply_alone (cfg : Config) (api : Api) (sts : List Step)
    (hsts : AllSteps (step cfg) (fun st _ => DraftFirst st) api sts) :
    AllSteps (step cfg) (fun st api => DraftsOnly cfg st api ∧ SendsOnce cfg st api) api sts :=
  allSteps_mono (fun _ api hst => ⟨step_drafts_only cfg api hst, step_sends_once cfg api hst⟩) hsts

def draftRequest : DispositionRequest := { sendRequest with action := "DRAFT_REPLY" }

/-- The same requests, with a reply object that names the mode. -/
def inSendMode (req : DispositionRequest) : DispositionRequest :=
  { req with reply := req.reply.map fun reply => dict.set reply "mode" (.str "send") }

def replyStep (req : DispositionRequest) : Step := lowStep "analyst" (.disposition "E1" none req)

/-- A draft and a send of one reply, which is sent once. -/
theorem a_drafted_reply_is_sent_once :
    sends (run (step sampleConfig) {} [lowResolveStep]).external
        (run (step sampleConfig) {} [lowResolveStep, replyStep draftRequest,
          replyStep sendRequest]).external = 1 ∧
      AllSteps (step sampleConfig)
        (fun st api => DraftsOnly sampleConfig st api ∧ SendsOnce sampleConfig st api) {}
        [lowResolveStep, replyStep draftRequest, replyStep sendRequest] := by
  refine ⟨by decide +kernel, replies_are_sent_by_send_reply_alone sampleConfig {} _
    ⟨?_, ?_, ?_, trivial⟩⟩
  · intro id key req h
    cases h
  · intro id key req h
    cases h
    decide
  · intro id key req h
    cases h
    decide

/-- With a reply object that names the mode, a draft is sent, and a send is
sent twice. -/
theorem a_reply_in_send_mode_is_sent_by_its_draft :
    (¬ ∀ (cfg : Config) (pre : List Step) (st : Step),
      DraftsOnly cfg st (run (step cfg) {} pre)) ∧
    ¬ ∀ (cfg : Config) (pre : List Step) (st : Step),
      SendsOnce cfg st (run (step cfg) {} pre) := by
  constructor
  · intro h
    have hzero := h sampleConfig [lowResolveStep] (replyStep (inSendMode draftRequest)) "E1" none _
      rfl rfl
    revert hzero
    decide +kernel
  · intro h
    have hone := (h sampleConfig [lowResolveStep] (replyStep (inSendMode sendRequest)) "E1" none _
      rfl rfl).1
    revert hone
    decide +kernel

end asoe
