-- How often one reply is delivered to the buyer, over sends and runs of the
-- outbox worker. The ledger of the API knows the deliveries that a send made
-- itself; it does not know those that the worker makes later.
import Asoe.ErpSubmit
import Asoe.ReplyDraft

namespace asoe

open py prog once runs

/-! ## One reply of one case -/

/-- A reply as the buyer gets it: the recipient in its normal form, the
subject and the body. -/
structure Reply where
  recipient : String
  subject : PyVal
  body : PyVal
  deriving DecidableEq

/-- The parameters of a send call that carry the reply. -/
def Reply.carried (cfg : Config) (reply : Reply) (params : PyDict) : Bool :=
  match dict.get params "recipient" with
  | some (.str addressee) => decide (cfg.lower (strip addressee) = reply.recipient ∧
      dict.get params "subject" = some reply.subject ∧ dict.get params "body" = some reply.body)
  | _ => false

/-- The key of the reply in the ledger, for the record `id`. -/
def Reply.key (cfg : Config) (id : String) (reply : Reply) : Except PyErr String := do
  let subject ← text_of "join" reply.subject
  let body ← text_of "join" reply.body
  return cfg.sha256 (join "\x1f" [id, reply.recipient, subject, body])

/-- The send calls that delivered the reply, for the records of one case. -/
def deliveries (cfg : Config) (inCase : String → Bool) (reply : Reply) (ext : External) :
    List GatewayCall :=
  ext.calls.filter fun c => c.origin.any inCase ∧ c.request.gateway_name = "buyer_notification" ∧
    c.request.operation = "send" ∧ reply.carried cfg c.request.params ∧ c.response.isDelivered

/-- The same calls as a kind of write. -/
def replyTarget (cfg : Config) (inCase : String → Bool) (reply : Reply) : Target where
  wanted origin gateway operation params :=
    decide (origin.any inCase ∧ gateway = "buyer_notification" ∧ operation = "send" ∧
      reply.carried cfg params)
  done response := response.isDelivered
  done_success response h := by
    simp only [GatewayResponse.isDelivered, Bool.and_eq_true, decide_eq_true_eq] at h
    exact h.1

/-- The run that previews a reply, and the one that sends it. -/
def previewState (tenant : String) (r : ChildCase) (req : DispositionRequest) (event : OrderEvent) :
    GraphState :=
  directed_state tenant r .ReplyDraftRecipe (req.reply.getD []) event

def sendState (tenant : String) (r : ChildCase) (req : DispositionRequest) (event : OrderEvent) :
    GraphState :=
  directed_state tenant r .ReplyDraftRecipe (dict.set (req.reply.getD []) "mode" (.str "send")) event

theorem previewState_run (tenant : String) (r : ChildCase) (req : DispositionRequest)
    (event : OrderEvent) :
    ReplyRun (previewState tenant r req event) (previewState tenant r req event) :=
  ⟨rfl, rfl, rfl, fun _ _ => rfl⟩

theorem sendState_run (tenant : String) (r : ChildCase) (req : DispositionRequest)
    (event : OrderEvent) :
    ReplyRun (previewState tenant r req event) (sendState tenant r req event) :=
  ⟨rfl, rfl, rfl, fun _ hkey => dict.get_set_of_ne _ _ hkey⟩

theorem reply_mode_set (corrections : PyDict) :
    reply_mode (dict.set corrections "mode" (.str "send")) = .str "send" := by
  rw [reply_mode, dict.get_set_self]
  rfl

/-- A preview that executes, and a send after it that is ready, compose the
same draft, with the key of the reply that is sent. -/
theorem send_follows_preview (cfg : Config) (id : String) {tenant : String} {r : ChildCase}
    {req : DispositionRequest} {event : OrderEvent} {env env' : RunEnv} {s s' : GraphState}
    {reply : Reply} (hmode : reply_mode (req.reply.getD []) ≠ .str "send")
    (hpreview : Executes env (previewState tenant r req event) s)
    (hsend : Executes env' (sendState tenant r req event) s')
    (hready : dict.get s'.outputs "status" = some (.str "READY_TO_SEND"))
    (hcarried : reply.carried cfg (reply_request s').params = true) :
    ∃ draft, dict.get s.outputs "status" = some (.str "DRAFTED") ∧
      dict.get s.outputs "draft" = some (.dict draft) ∧
      dict.get s'.outputs "draft" = some (.dict draft) ∧
      (draft_get draft "recipient").truthy = true ∧
      reply_delivery_key cfg id draft = reply.key cfg id := by
  have hdraft : (reply_mode (req.reply.getD [])).eq (.str "send") = false := by
    rw [Bool.eq_false_iff]
    exact fun h => hmode (PyVal.eq_str.mp h)
  rcases reply_run_cases (previewState tenant r req event) with
    hnone | ⟨recipient, template_name, subject, body, applied, hto, hget⟩
  · exact absurd hready (hnone env' _ s' (sendState_run tenant r req event) hsend)
  have hget₁ := hget env _ s (previewState_run tenant r req event) hpreview
  have hget₂ := hget env' _ s' (sendState_run tenant r req event) hsend
  have hmode₁ : reply_mode (previewState tenant r req event).directed_corrections =
      reply_mode (req.reply.getD []) := rfl
  have hmode₂ : reply_mode (sendState tenant r req event).directed_corrections = .str "send" :=
    reply_mode_set _
  have hsending : PyVal.eq (.str "send") (.str "send") = true := PyVal.eq_str.mpr rfl
  rw [hmode₁] at hget₁
  rw [hmode₂] at hget₂
  refine ⟨_, ?_, hget₁ "draft" (by decide), hget₂ "draft" (by decide), ?_, ?_⟩
  · rw [hget₁ "status" (by decide)]
    simp [composed, dict.get_cons, hdraft]
  · simpa [draft_get, dict.get_cons, PyVal.ofOption] using hto
  · -- The call carries the reply, so the draft has its recipient, subject and body.
    have hparams : (reply_request s').params =
        [("recipient", recipient), ("subject", subject), ("body", body)] := by
      simp [reply_request, hget₂, composed, dict.get_cons, hsending, PyVal.ofOption]
    rw [hparams] at hcarried
    cases recipient with
    | str addressee =>
      simp only [Reply.carried, dict.get_cons, if_true, decide_eq_true_eq] at hcarried
      obtain ⟨hrecipient, hsubject, hbody⟩ := hcarried
      simp only [reduceIte, String.reduceEq, Option.some.injEq] at hsubject hbody
      subst hsubject hbody
      rw [Reply.key, ← hrecipient]
      simp only [reply_delivery_key, reply_delivery_raw, draft_get, dict.get_cons, PyVal.ofOption,
        text_of, reduceIte, String.reduceEq, bind_assoc, pure_bind]
      rfl
    | none | bool | int | float | list | dict => simp [Reply.carried, dict.get_cons] at hcarried

/-! ## The runs of a send -/

section ends

variable {cfg : Config} {inCase : String → Bool} {reply : Reply} {env : RunEnv}
  {id tenant : String} {r : ChildCase} {params : PyDict} {ext ext' : External}
  {outcome : Except PyErr GraphState}

/-- A run on the reply recipe leaves the deliveries of the reply alone, or
it is one attempt at it. -/
theorem replyEnd_cases
    (h : DirectedEnd env id tenant r .ReplyDraftRecipe params ext outcome ext') :
    (replyTarget cfg inCase reply).tally ext' = (replyTarget cfg inCase reply).tally ext ∨
    inCase id = true ∧ ∃ event s, r.original_event = some event ∧
      Executes env (directed_state tenant r .ReplyDraftRecipe params event) s ∧
      dict.get s.outputs "status" = some (.str "READY_TO_SEND") ∧
      reply.carried cfg (reply_request s).params = true ∧
      ext' = effected env (some id) s (reply_request s) ext := by
  rcases h.external with rfl | ⟨event, s, req, hevent, hexec, hsel, hreq, rfl⟩
  · exact Or.inl rfl
  rw [requested_reply hsel] at hreq
  by_cases hready : dict.get s.outputs "status" = some (.str "READY_TO_SEND")
  · rw [if_pos hready] at hreq
    cases hreq
    by_cases hwanted : inCase id = true ∧ reply.carried cfg (reply_request s).params = true
    · exact Or.inr ⟨hwanted.1, event, s, hevent, hexec, hready, hwanted.2, rfl⟩
    · refine Or.inl (effected_tally_other _ _ _ _ _ _ ?_)
      simpa [replyTarget, reply_request] using hwanted
  · rw [if_neg hready] at hreq
    cases hreq

theorem replyEnd_recovered
    (h : DirectedEnd env id tenant r .ReplyDraftRecipe params ext outcome ext') :
    (replyTarget cfg inCase reply).recovered ext' =
      (replyTarget cfg inCase reply).recovered ext := by
  rcases h.external with rfl | ⟨event, s, req, -, -, -, -, rfl⟩
  · rfl
  · exact effected_recovered _ _ _ _ _ _

/-- A draft calls nothing. -/
theorem draftEnd_external (hmode : reply_mode params ≠ .str "send")
    (h : DirectedEnd env id tenant r .ReplyDraftRecipe params ext outcome ext') : ext' = ext := by
  rcases h.external with rfl | ⟨event, s, req, -, hexec, hsel, hreq, -⟩
  · rfl
  rw [requested_reply hsel] at hreq
  by_cases hready : dict.get s.outputs "status" = some (.str "READY_TO_SEND")
  swap
  · rw [if_neg hready] at hreq
    cases hreq
  have hrun : ReplyRun (directed_state tenant r .ReplyDraftRecipe params event)
      (directed_state tenant r .ReplyDraftRecipe params event) := ⟨rfl, rfl, rfl, fun _ _ => rfl⟩
  rcases reply_run_cases (directed_state tenant r .ReplyDraftRecipe params event) with
    hnone | ⟨recipient, template_name, subject, body, applied, -, hget⟩
  · exact absurd hready (hnone env _ s hrun hexec)
  · have hdraft : (reply_mode params).eq (.str "send") = false := by
      rw [Bool.eq_false_iff]
      exact fun h => hmode (PyVal.eq_str.mp h)
    rw [hget env _ s hrun hexec "status" (by decide)] at hready
    simp [composed, dict.get_cons, directed_state, hdraft] at hready

theorem draftEnd_tally (hmode : reply_mode params ≠ .str "send")
    (h : DirectedEnd env id tenant r .ReplyDraftRecipe params ext outcome ext') :
    (replyTarget cfg inCase reply).tally ext' = (replyTarget cfg inCase reply).tally ext := by
  rw [draftEnd_external hmode h]

end ends

/-! ## A careful service -/

/-- The answers of the gateways carry the name and the operation of their
requests. -/
def Named (gateway : Gateways) : Prop :=
  ∀ n req, (gateway n req).gateway_name = req.gateway_name ∧
    (gateway n req).operation = req.operation

/-- The run would send the reply. -/
def Sends (cfg : Config) (reply : Reply) (env : RunEnv) (state : GraphState) : Prop :=
  ∃ s, Executes env state s ∧ dict.get s.outputs "status" = some (.str "READY_TO_SEND") ∧
    reply.carried cfg (reply_request s).params = true

/-- A send of the reply goes through one record of the case, its preview is
not stopped, and no try of the reply waits in the outbox or was brought
through from there. -/
structure SendsCarefully (cfg : Config) (inCase : String → Bool) (id : String) (reply : Reply)
    (st : Step) (api : Api) (id' : String) (r : ChildCase) (req : DispositionRequest)
    (event : OrderEvent) : Prop where
  one_record : id' = id
  previewed : ∃ s, Executes st.env.first_run (previewState st.user.org r req event) s
  settled : ∀ e ∈ api.external.outbox, (replyTarget cfg inCase reply).ofEntry e = true →
    e.isPending = false ∧ e.compensated = false

/-- The steps of the claim, sends and runs of the worker, that keep a reply
from being delivered twice: the operator's parameters do not say `send`
themselves, sends of the reply are careful, and an analysis returns. -/
structure CarefulStep (cfg : Config) (inCase : String → Bool) (id : String) (reply : Reply)
    (st : Step) (api : Api) : Prop where
  request : (∃ id' key req, st.request = .disposition id' key req ∧ req.action = "SEND_REPLY") ∨
    ∃ tenant_id max_attempts, st.request = .reconcile tenant_id max_attempts
  draft_first : ∀ id' key req, st.request = .disposition id' key req →
    reply_mode (req.reply.getD []) ≠ .str "send"
  careful : ∀ id' key req r event, st.request = .disposition id' key req → inCase id' = true →
    get_record api id' st.user.org = some r → r.original_event = some event →
    Sends cfg reply st.env.second_run (sendState st.user.org r req event) →
    SendsCarefully cfg inCase id reply st api id' r req event
  returns : ∀ s, ∃ t, build_analysis st.env.second_run s = .ok t
  named : Named st.env.second_run.gateway

/-- The ledger has an entry of the reply. -/
def InLedger (cfg : Config) (id : String) (reply : Reply) (tenant : String) (ledger : Ledger) :
    Prop :=
  ∃ key, reply.key cfg id = .ok key ∧ (dict.get ledger (tenant, key)).isSome = true

/-- What careful steps keep: a delivery of the reply that the worker did not
make is in the ledger. -/
structure ReplyInv (cfg : Config) (inCase : String → Bool) (id : String) (reply : Reply)
    (tenant : String) (api : Api) : Prop where
  keyed : Keyed api.external
  owner : ∀ r, dict.get api.records id = some r → r.tenant_id = tenant
  known : InLedger cfg id reply tenant api.delivery_dedup ∨
    ((replyTarget cfg inCase reply).tally api.external).done ≤
      (replyTarget cfg inCase reply).recovered api.external

/-! ## One step -/

section step

variable {cfg : Config} {inCase : String → Bool} {id tenant : String} {reply : Reply} {st : Step}
  {api : Api}

theorem executes_effect_results {env : RunEnv} {r : ChildCase} {recipe : RecipeName}
    {params : PyDict} {event : OrderEvent} {s : GraphState}
    (h : Executes env (directed_state tenant r recipe params event) s) : s.effect_results = [] := by
  obtain ⟨-, -, p, hp, -, hs⟩ := h
  have hp' := congrArg Given.effect_results (proposal_phase_given env _ p hp)
  exact (execute_recipe_sameRun env p s hs).effect_results.trans hp'

theorem preview_key_of {preview s : GraphState} {draft : PyDict} (hout : preview.outputs = s.outputs)
    (hstatus : dict.get s.outputs "status" = some (.str "DRAFTED"))
    (hdraft : dict.get s.outputs "draft" = some (.dict draft))
    (hto : (draft_get draft "recipient").truthy = true) :
    preview_key cfg id preview = some <$> reply_delivery_key cfg id draft := by
  have hpreview : draft_of preview = draft := by
    simp [draft_of, output_of, hout, hdraft, PyVal.ofOption]
  have hdrafted : output_of preview "status" = .str "DRAFTED" := by
    simp [output_of, hout, hstatus, PyVal.ofOption]
  unfold preview_key
  rw [if_pos ⟨hdrafted, by rw [hpreview]; exact hto⟩, hpreview]
  rfl

section send

variable {r : ChildCase} {req : DispositionRequest} {event : OrderEvent} {preview s : GraphState}
  {draft : PyDict} {dkey : String} {ext ext' : External} {outcome : Except PyErr GraphState}

/-- The preview left the draft that the send would send, so its key was looked
up. -/
theorem send_key_unseen (hrun : DraftEnd st.env st.user id r ext req.reply (.ok preview) ext')
    (hunseen : Unseen cfg st.user id api.delivery_dedup preview)
    (hevent : r.original_event = some event)
    (hexec : Executes st.env.first_run (previewState st.user.org r req event) s)
    (hdrafted : dict.get s.outputs "status" = some (.str "DRAFTED"))
    (hdraft : dict.get s.outputs "draft" = some (.dict draft))
    (hto : (draft_get draft "recipient").truthy = true)
    (hkey : reply_delivery_key cfg id draft = reply.key cfg id) :
    ∃ dkey, reply.key cfg id = .ok dkey ∧
      dict.get api.delivery_dedup (st.user.org, dkey) = none := by
  obtain ⟨event', hevent', ⟨s', hexec', hout⟩ | ⟨hno, -⟩⟩ := hrun.outputs
  · cases hevent.symm.trans hevent'
    cases hexec.unique hexec'
    obtain ⟨found, hfound, hnone⟩ := hunseen
    rw [preview_key_of hout hdrafted hdraft hto, hkey] at hfound
    rcases hk : reply.key cfg id with e | dkey
    · rw [hk] at hfound
      cases hfound
    · rw [hk] at hfound
      cases hfound
      exact ⟨dkey, rfl, hnone dkey rfl⟩
  · cases hevent.symm.trans hevent'
    exact absurd hexec (hno s)

/-- A reply that the ledger does not know, and of which no try waits in the
outbox or was brought through from there, was not tried at all. -/
theorem reply_untried (hinv : ReplyInv cfg inCase id reply tenant api)
    (hget : get_record api id st.user.org = some r) (hkey : reply.key cfg id = .ok dkey)
    (hnone : dict.get api.delivery_dedup (st.user.org, dkey) = none)
    (hsettled : ∀ e ∈ api.external.outbox, (replyTarget cfg inCase reply).ofEntry e = true →
      e.isPending = false ∧ e.compensated = false) :
    ((replyTarget cfg inCase reply).tally api.external).queued = 0 ∧
      ((replyTarget cfg inCase reply).tally api.external).done = 0 := by
  have hrecovered : (replyTarget cfg inCase reply).recovered api.external = 0 := by
    refine List.countP_eq_zero.mpr fun e he h => ?_
    simp only [Bool.and_eq_true] at h
    simp [(hsettled e he h.2).2] at h
  constructor
  · refine List.countP_eq_zero.mpr fun e he h => ?_
    simp only [Bool.and_eq_true] at h
    simp [(hsettled e he h.2).1] at h
  · rcases hinv.known with ⟨dkey', hkey', hsome⟩ | hle
    · cases hkey.symm.trans hkey'
      obtain ⟨hrec, horg⟩ := get_record_some hget
      rw [← hinv.owner r hrec, horg, hnone] at hsome
      cases hsome
    · exact Nat.le_zero.mp (hle.trans hrecovered.le)

/-- A send that is ready ends with the answer of its one call. -/
theorem ready_send_ends (hsend : SendEnd st.env st.user id r req.reply ext outcome ext')
    (hevent : r.original_event = some event)
    (hexec : Executes st.env.second_run (sendState st.user.org r req event) s)
    (hready : dict.get s.outputs "status" = some (.str "READY_TO_SEND"))
    (hreturns : ∀ s, ∃ t, build_analysis st.env.second_run s = .ok t) :
    ∃ result, outcome = .ok result ∧ result.outputs = s.outputs ∧
      result.effect_results =
        [st.env.second_run.gateway ext.calls.length (reply_request s)] := by
  cases hsend with
  | no_event _ hno => cases hevent.symm.trans hno
  | ran event' _ _ hevent' hend =>
    cases hevent.symm.trans hevent'
    cases hend with
    | halted _ hno => exact absurd hexec (hno s)
    | raised _ hno => exact absurd hexec (hno s)
    | broke s' e hexec' hraise =>
      obtain ⟨t', ht'⟩ := hreturns (apply_effects st.env.second_run (some id) s' ext).2
      cases hraise.symm.trans ht'
    | done s' fin hexec' hlog heffects =>
      cases hexec.unique hexec'
      refine ⟨fin, rfl, by simp [GraphState.outputs, hlog], ?_⟩
      have hspec := (apply_effects_spec st.env.second_run (some id) s ext).2
      rw [requested_reply (hexec.directed rfl rfl), if_pos hready] at hspec
      rw [heffects, hspec.2, executes_effect_results hexec]
      rfl

theorem delivery_is_seen {result : GraphState} {response : GatewayResponse}
    (heffects : result.effect_results = [response])
    (hname : response.gateway_name = "buyer_notification") (hop : response.operation = "send")
    (hready : dict.get result.outputs "status" = some (.str "READY_TO_SEND"))
    (hnot : reply_sent_ok result = false) : response.isDelivered = false := by
  have hstatus : output_of result "status" = .str "READY_TO_SEND" := by
    simp [output_of, hready, PyVal.ofOption]
  have hfirst : send_response_of result = some response := by
    simp [send_response_of, heffects, hname, hop]
  simpa [reply_sent_ok, hstatus, hfirst] using hnot

/-- A send run leaves the reply alone, or it is the first attempt at it. A
delivery that such an attempt makes is one that the handler sees. -/
theorem send_attempt {id' : String} {key : Option String} {ext'' : External}
    (hinv : ReplyInv cfg inCase id reply tenant api)
    (hst : CarefulStep cfg inCase id reply st api) (hreq : st.request = .disposition id' key req)
    (hget : get_record api id' st.user.org = some r)
    (hrun : DraftEnd st.env st.user id' r api.external req.reply (.ok preview) ext')
    (hunseen : Unseen cfg st.user id' api.delivery_dedup preview)
    (hsend : SendEnd st.env st.user id' r req.reply ext' outcome ext'') :
    let t := replyTarget cfg inCase reply
    t.tally ext'' = t.tally api.external ∨
    (id' = id ∧ (t.tally api.external).exposure = 0 ∧
      Attempt (t.tally api.external) (t.tally ext'') ∧
      ∃ result dkey, outcome = .ok result ∧ reply_delivery_key cfg id (draft_of result) = .ok dkey ∧
        reply.key cfg id = .ok dkey ∧
        (reply_sent_ok result = false → (t.tally ext'').done = 0)) := by
  intro t
  have hmode := hst.draft_first id' key req hreq
  have hpreview : t.tally ext' = t.tally api.external := draftEnd_tally hmode hrun
  rcases replyEnd_cases hsend with htally | ⟨hcase, event, s, hevent, hexec, hready, hcarried, hext⟩
  · exact Or.inl (htally.trans hpreview)
  obtain ⟨rfl, ⟨s₀, hs₀⟩, hsettled⟩ := hst.careful id' key req r event hreq hcase hget hevent
    ⟨s, hexec, hready, hcarried⟩
  obtain ⟨draft, hdrafted, hdraft, hdraft', hto, hkey⟩ :=
    send_follows_preview cfg id' hmode hs₀ hexec hready hcarried
  obtain ⟨dkey, hdkey, hnone⟩ := send_key_unseen hrun hunseen hevent hs₀ hdrafted hdraft hto hkey
  obtain ⟨hqueued, hdone⟩ : (t.tally api.external).queued = 0 ∧ (t.tally api.external).done = 0 :=
    reply_untried hinv hget hdkey hnone hsettled
  obtain ⟨result, rfl, hout, heffects⟩ := ready_send_ends hsend hevent hexec hready hst.returns
  obtain ⟨hname, hop⟩ := hst.named ext'.calls.length (reply_request s)
  have hdraftOf : draft_of result = draft := by
    simp [draft_of, output_of, hout, hdraft', PyVal.ofOption]
  refine Or.inr ⟨rfl, by simp [Tally.exposure, hdone, hqueued], ?_, result, dkey, rfl,
    by rw [hdraftOf, hkey, hdkey], hdkey, fun hnot => ?_⟩
  · exact hext ▸ hpreview ▸ effected_attempt t _ _ _ _ _
  · have hmissed := delivery_is_seen heffects hname hop (by rw [hout, hready]) hnot
    rw [hext, effected_done, hpreview, hdone]
    simp [t, replyTarget, hmissed]

end send

theorem CarefulStep.action (hst : CarefulStep cfg inCase id reply st api) {id' : String}
    {key : Option String} {req : DispositionRequest} (hreq : st.request = .disposition id' key req) :
    req.action = "SEND_REPLY" := by
  rcases hst.request with ⟨_, _, _, h, haction⟩ | ⟨_, _, h⟩
  · cases hreq.symm.trans h
    exact haction
  · cases hreq.symm.trans h

theorem owner_set {id' : String} {r r' : ChildCase} {records : List (String × ChildCase)}
    (howner : ∀ r, dict.get records id = some r → r.tenant_id = tenant)
    (hr : dict.get records id' = some r) (hsame : r'.tenant_id = r.tenant_id) :
    ∀ r, dict.get (dict.set records id' r') id = some r → r.tenant_id = tenant := by
  intro r'' hr''
  by_cases hid : id = id'
  · subst hid
    rw [dict.get_set_self] at hr''
    cases hr''
    exact hsame.trans (howner r hr)
  · rw [dict.get_set_of_ne _ _ hid] at hr''
    exact howner r'' hr''

theorem inLedger_set {ledger : Ledger} {tenant' dkey : String} {entry : ReplySentEntry}
    (h : InLedger cfg id reply tenant ledger) :
    InLedger cfg id reply tenant (dict.set ledger (tenant', dkey) entry) := by
  obtain ⟨key, hkey, hsome⟩ := h
  refine ⟨key, hkey, ?_⟩
  by_cases hne : (tenant, key) = (tenant', dkey)
  · rw [hne, dict.get_set_self]
    rfl
  · rwa [dict.get_set_of_ne _ _ hne]

theorem sendWrite_ledger {id' : String} {r : ChildCase} {req : DispositionRequest}
    {result : GraphState} {dkey tenant' : String} {ext : External} {ledger : Ledger} :
    (sendWrite st.env st.user id' r req result dkey ext).ledger tenant' ledger =
      if reply_sent_ok result = true then
        dict.set ledger (tenant', dkey) (reply_sent_entry st.env result dkey st.user.sub)
      else ledger := by
  by_cases hsent : reply_sent_ok result = true
  · simp [sendWrite, Write.ledger, hsent]
  · simp [sendWrite, Write.ledger, hsent]

theorem replyInv_of_same {api' : Api} (hinv : ReplyInv cfg inCase id reply tenant api)
    (hkeyed : Keyed api'.external)
    (howner : ∀ r, dict.get api'.records id = some r → r.tenant_id = tenant)
    (hledger : InLedger cfg id reply tenant api.delivery_dedup →
      InLedger cfg id reply tenant api'.delivery_dedup)
    (htally : (replyTarget cfg inCase reply).tally api'.external =
      (replyTarget cfg inCase reply).tally api.external)
    (hrecovered : (replyTarget cfg inCase reply).recovered api'.external =
      (replyTarget cfg inCase reply).recovered api.external) :
    ReplyInv cfg inCase id reply tenant api' := by
  refine ⟨hkeyed, howner, ?_⟩
  rw [htally, hrecovered]
  exact hinv.known.imp hledger fun h => h

/-- A send that the handler carried out: a delivery that it made is in the
ledger. -/
theorem sent_reply {id' : String} {r : ChildCase} {key : Option String} {req : DispositionRequest}
    {preview result : GraphState} {dkey : String} {ext' ext'' : External} {api' : Api}
    (hinv : ReplyInv cfg inCase id reply tenant api) (hst : CarefulStep cfg inCase id reply st api)
    (hkeyed : Keyed api'.external) (hreq : st.request = .disposition id' key req)
    (hget : get_record api id' st.user.org = some r)
    (hrun : DraftEnd st.env st.user id' r api.external req.reply (.ok preview) ext')
    (hunseen : Unseen cfg st.user id' api.delivery_dedup preview)
    (hsend : SendEnd st.env st.user id' r req.reply ext' (.ok result) ext'')
    (hkey : reply_delivery_key cfg id' (draft_of result) = .ok dkey)
    (hwrote : Wrote cfg st.env st.user.org id' (sendWrite st.env st.user id' r req result dkey ext'')
      api api') :
    let t := replyTarget cfg inCase reply
    ReplyInv cfg inCase id reply tenant api' ∧
      Turns (t.tally api.external) (t.tally api'.external) := by
  intro t
  obtain ⟨hrec, horg⟩ := get_record_some hget
  have howner : ∀ r, dict.get api'.records id = some r → r.tenant_id = tenant :=
    hwrote.records ▸ owner_set hinv.owner hrec rfl
  have hledger := hwrote.delivery_dedup
  rw [sendWrite_ledger] at hledger
  have hext : api'.external = ext'' := hwrote.external
  rcases send_attempt hinv hst hreq hget hrun hunseen hsend with
    hsame | ⟨rfl, hzero, hattempt, result', dkey', hok, hkey', hreply, hmissed⟩
  · refine ⟨replyInv_of_same hinv hkeyed howner (fun h => ?_) (hext ▸ hsame) ?_, ?_⟩
    · rw [hledger]
      split
      · exact inLedger_set h
      · exact h
    · rw [hext]
      exact (replyEnd_recovered hsend).trans (replyEnd_recovered hrun)
    · rw [hext]
      exact hsame ▸ .refl
  · cases hok
    cases hkey.symm.trans hkey'
    refine ⟨⟨hkeyed, howner, ?_⟩, .single (Or.inr ⟨hzero, hext ▸ hattempt⟩)⟩
    -- A delivery is noted, and without one there is nothing to know.
    by_cases hsent : reply_sent_ok result = true
    · refine Or.inl ⟨dkey, hreply, ?_⟩
      rw [hledger, if_pos hsent, ← hinv.owner r hrec, horg, dict.get_set_self]
      rfl
    · refine Or.inr ?_
      rw [hext, hmissed (by simpa using hsent)]
      exact Nat.zero_le _

/-- What was given up made no send of the reply. -/
theorem abandoned_reply {id' : String} {r : ChildCase} {ext : External}
    (hinv : ReplyInv cfg inCase id reply tenant api) (hst : CarefulStep cfg inCase id reply st api)
    (hget : get_record api id' st.user.org = some r)
    (h : Abandoned cfg st.env st.user id' r api.external api.delivery_dedup st.request ext) :
    let t := replyTarget cfg inCase reply
    t.tally ext = t.tally api.external ∧ t.recovered ext = t.recovered api.external := by
  intro t
  generalize hreq : st.request = request at h
  cases h with
  | preview key req outcome _ haction hrun =>
    exact ⟨draftEnd_tally (hst.draft_first _ _ _ hreq) hrun, replyEnd_recovered hrun⟩
  | send key req preview ext' outcome _ haction hrun hunseen hsend hbroke =>
    refine ⟨?_, (replyEnd_recovered hsend).trans (replyEnd_recovered hrun)⟩
    rcases send_attempt hinv hst hreq hget hrun hunseen hsend with
      hsame | ⟨rfl, -, -, result, dkey, hok, hkey, -⟩
    · exact hsame
    · obtain ⟨e, he⟩ := hbroke result hok
      cases hkey.symm.trans he
  | submit _ _ _ _ _ haction | draft _ _ _ _ haction =>
    rw [hst.action hreq] at haction
    simp at haction
  | cosign_submit | reanalyze =>
    rcases hst.request with ⟨_, _, _, h, -⟩ | ⟨_, _, h⟩ <;> cases hreq.symm.trans h

/-- Careful steps keep what the ledger knows, and they move the deliveries
of the reply as the abstract machine allows. -/
theorem step_reply (hinv : ReplyInv cfg inCase id reply tenant api)
    (hst : CarefulStep cfg inCase id reply st api) :
    let t := replyTarget cfg inCase reply
    ReplyInv cfg inCase id reply tenant (step cfg st api) ∧
      Turns (t.tally api.external) (t.tally (step cfg st api).external) := by
  intro t
  generalize hafter : step cfg st api = api'
  have hcase := hafter ▸ step_cases cfg st api
  have hkeyed : Keyed api'.external := hafter ▸ step_keyed hinv.keyed
  cases hcase with
  | idle hkept hext =>
    refine ⟨replyInv_of_same hinv hkeyed ?_ ?_ (by rw [hext]) (by rw [hext]), by rw [hext]⟩
    · rw [hkept.records]
      exact hinv.owner
    · rw [hkept.delivery_dedup]
      exact fun h => h
  | wrote id' r w hget hanswer hwrote =>
    generalize hreq : st.request = request at hanswer
    cases hanswer with
    | deduped key req preview ext' dkey haction hstate hrun =>
      have htally : t.tally ext' = t.tally api.external :=
        draftEnd_tally (hst.draft_first _ _ _ hreq) hrun
      refine ⟨replyInv_of_same hinv hkeyed ?_ ?_ ?_ ?_, ?_⟩
      · exact hwrote.records ▸ owner_set hinv.owner (get_record_some hget).1 rfl
      · exact hwrote.delivery_dedup ▸ fun h => h
      · exact hwrote.external ▸ htally
      · exact hwrote.external ▸ replyEnd_recovered hrun
      · rw [hwrote.external]
        exact htally ▸ .refl
    | sent key req preview ext' result ext'' dkey haction hstate hrun hunseen hsend hkey =>
      exact sent_reply hinv hst hkeyed hreq hget hrun hunseen hsend hkey hwrote
    | submit_staged _ _ _ haction | submitted _ _ _ _ _ haction | drafted _ _ _ _ haction =>
      rw [hst.action hreq] at haction
      simp at haction
    | override_staged _ _ _ _ hsend | disposed _ _ _ hsend =>
      exact absurd (hst.action hreq) hsend.1
    | cosign_submitted | cosigned | cosign_rejected | escalated | reanalyzed | challenged
    | released =>
      rcases hst.request with ⟨_, _, _, h, -⟩ | ⟨_, _, h⟩ <;> cases hreq.symm.trans h
  | abandoned id' r hget hkept habandoned =>
    obtain ⟨htally, hrecovered⟩ := abandoned_reply hinv hst hget habandoned
    refine ⟨replyInv_of_same hinv hkeyed ?_ ?_ htally hrecovered, htally ▸ .refl⟩
    · rw [hkept.records]
      exact hinv.owner
    · rw [hkept.delivery_dedup]
      exact fun h => h
  | resolved event explain outcome hreq =>
    rcases hst.request with ⟨_, _, _, h, -⟩ | ⟨_, _, h⟩ <;> cases hreq.symm.trans h
  | reconciled tenant_id max_attempts hreq hkept hext =>
    obtain ⟨hretries, -, hdone⟩ := reconcile_pending_retries t st.env.first_run.gateway
      max_attempts hinv.keyed tenant_id
    rw [← hext] at hretries hdone
    refine ⟨⟨hkeyed, hkept.records ▸ hinv.owner, ?_⟩, hretries.turns⟩
    rcases hinv.known with hknown | hle
    · exact Or.inl (hkept.delivery_dedup ▸ hknown)
    · have hle' : (t.tally api.external).done ≤ t.recovered api.external := hle
      refine Or.inr (show (t.tally api'.external).done ≤ t.recovered api'.external from ?_)
      omega

end step

/-! ## Every run -/

/-- Nothing of the reply has been delivered, and no try of it is in the
outbox. -/
structure Untried (cfg : Config) (inCase : String → Bool) (reply : Reply) (ext : External) :
    Prop where
  delivered : deliveries cfg inCase reply ext = []
  queued : ∀ e ∈ ext.outbox, (replyTarget cfg inCase reply).ofEntry e = false

theorem deliveries_length (cfg : Config) (inCase : String → Bool) (reply : Reply)
    (ext : External) :
    (deliveries cfg inCase reply ext).length =
      ((replyTarget cfg inCase reply).tally ext).done := by
  simp [deliveries, Target.tally, List.countP_eq_length_filter, Target.ofCall, replyTarget,
    Bool.and_assoc]

theorem Untried.exposure {cfg : Config} {inCase : String → Bool} {reply : Reply} {ext : External}
    (h : Untried cfg inCase reply ext) :
    ((replyTarget cfg inCase reply).tally ext).exposure = 0 := by
  have hdone : ((replyTarget cfg inCase reply).tally ext).done = 0 := by
    rw [← deliveries_length, h.delivered]
    rfl
  have hqueued : ((replyTarget cfg inCase reply).tally ext).queued = 0 := by
    refine List.countP_eq_zero.mpr fun e he => ?_
    simp [h.queued e he]
  simp [Tally.exposure, hdone, hqueued]

/-- From any state of the service in which a reply of a case is new, careful
sends and runs of the worker deliver it at most once. -/
theorem a_reply_is_delivered_at_most_once (cfg : Config) (inCase : String → Bool) (id : String)
    (reply : Reply) (pre sts : List Step)
    (hnew : Untried cfg inCase reply (run (step cfg) {} pre).external)
    (hsts : AllSteps (step cfg) (CarefulStep cfg inCase id reply) (run (step cfg) {} pre) sts) :
    (deliveries cfg inCase reply (run (step cfg) {} (pre ++ sts)).external).length ≤ 1 := by
  rw [run_append, deliveries_length]
  have hkeyed := run_keyed cfg pre
  generalize run (step cfg) {} pre = api at hnew hsts hkeyed
  let t := replyTarget cfg inCase reply
  have hzero : (t.tally api.external).exposure = 0 := hnew.exposure
  obtain ⟨tenant, howner⟩ : ∃ tenant, ∀ r, dict.get api.records id = some r →
      r.tenant_id = tenant := by
    rcases hr : dict.get api.records id with _ | r
    · exact ⟨"", fun _ h => by cases h⟩
    · exact ⟨r.tenant_id, fun _ h => by cases h; rfl⟩
  have hinv : ReplyInv cfg inCase id reply tenant api := by
    refine ⟨hkeyed, howner, Or.inr ?_⟩
    have hdone : (t.tally api.external).done = 0 := by
      simp only [Tally.exposure] at hzero
      omega
    exact hdone.le.trans (Nat.zero_le _)
  have hrun : ReplyInv cfg inCase id reply tenant (run (step cfg) api sts) ∧
      Turns (t.tally api.external) (t.tally (run (step cfg) api sts).external) := by
    refine invariant (I := fun api' : Api => ReplyInv cfg inCase id reply tenant api' ∧
      Turns (t.tally api.external) (t.tally api'.external)) (fun st api' hst hapi => ?_)
      ⟨hinv, .refl⟩ hsts
    obtain ⟨hnext, hturns⟩ := step_reply hapi.1 hst
    exact ⟨hnext, hapi.2.trans hturns⟩
  exact at_most_once hrun.2 hzero

/-- A reply with an edited subject and body. -/
def sampleReply : Reply := ⟨"buyer@example.com", .str "Your order", .str "Please confirm."⟩

def sendRequest : DispositionRequest :=
  { action := "SEND_REPLY", notes := "checked", reason_tag := "OTHER",
    reply := some [("edits", .dict [("subject", .str "Your order"),
      ("body", .str "Please confirm.")])] }

def sendStep : Step := lowStep "analyst" (.disposition "E1" none sendRequest)

/-- The same send, with a gateway that times out. -/
def timedOutSendStep : Step :=
  { sendStep with env := sampleEnv { sampleRun 100 with
      gateway := fun _ req =>
        { gateway_name := req.gateway_name, operation := req.operation, status := .TIMEOUT } } }

/-- The case of the record `E1` alone. -/
def sampleCase (id : String) : Bool := id = "E1"

theorem sendStep_careful {api : Api}
    (hpreview : ∀ r ∈ get_record api "E1" "T1", ∀ event ∈ r.original_event,
      ∃ s, Executes (sampleRun 100) (previewState "T1" r sendRequest event) s)
    (hsettled : ∀ e ∈ api.external.outbox,
      (replyTarget sampleConfig sampleCase sampleReply).ofEntry e = true →
        e.isPending = false ∧ e.compensated = false) :
    CarefulStep sampleConfig sampleCase "E1" sampleReply sendStep api where
  request := Or.inl ⟨"E1", none, sendRequest, rfl, rfl⟩
  draft_first _ _ _ hreq := by
    cases hreq
    decide
  careful _ _ _ r event hreq _ hget hevent _ := by
    cases hreq
    exact ⟨rfl, hpreview r hget event hevent, hsettled⟩
  returns := build_analysis_returns (fun _ => ⟨_, rfl⟩) fun _ => ⟨_, rfl⟩
  named _ _ := ⟨rfl, rfl⟩

/-- A reply that is sent twice by the operator reaches the buyer once. -/
theorem a_repeated_reply_is_delivered_once :
    (deliveries sampleConfig sampleCase sampleReply (run (step sampleConfig) {}
        ([lowResolveStep] ++ [sendStep, sendStep, reconcileStep])).external).length ≠ 0 ∧
      (deliveries sampleConfig sampleCase sampleReply (run (step sampleConfig) {}
        ([lowResolveStep] ++ [sendStep, sendStep, reconcileStep])).external).length ≤ 1 := by
  refine ⟨by decide +kernel, a_reply_is_delivered_at_most_once sampleConfig sampleCase "E1"
    sampleReply [lowResolveStep] [sendStep, sendStep, reconcileStep]
    ⟨by decide +kernel, by decide +kernel⟩
    ⟨sendStep_careful (by decide +kernel) (by decide +kernel),
      sendStep_careful (by decide +kernel) (by decide +kernel), ⟨?_, ?_, ?_, ?_, ?_⟩, trivial⟩⟩
  · exact Or.inr ⟨none, 5, rfl⟩
  · exact fun _ _ _ h => (by cases h)
  · exact fun _ _ _ _ _ h => (by cases h)
  · exact build_analysis_returns (fun _ => ⟨_, rfl⟩) fun _ => ⟨_, rfl⟩
  · exact fun _ _ => ⟨rfl, rfl⟩

/-- A send that times out waits in the outbox, and its ledger knows nothing
of it: the operator sends the reply again, and the worker does it once more. -/
theorem a_reply_sent_again_is_delivered_twice :
    ¬ ∀ (cfg : Config) (inCase : String → Bool) (reply : Reply) (pre sts : List Step),
      Untried cfg inCase reply (run (step cfg) {} pre).external →
      (∀ st ∈ sts, (∃ id key req, st.request = .disposition id key req ∧
          req.action = "SEND_REPLY") ∨
        ∃ tenant_id max_attempts, st.request = .reconcile tenant_id max_attempts) →
      (deliveries cfg inCase reply (run (step cfg) {} (pre ++ sts)).external).length ≤ 1 := by
  intro h
  have htwice : (deliveries sampleConfig sampleCase sampleReply (run (step sampleConfig) {}
      ([lowResolveStep] ++ [timedOutSendStep, sendStep, reconcileStep])).external).length = 2 := by
    decide +kernel
  have hle := h sampleConfig sampleCase sampleReply [lowResolveStep]
    [timedOutSendStep, sendStep, reconcileStep] ⟨by decide +kernel, by decide +kernel⟩ ?_
  · rw [htwice] at hle
    omega
  · intro st hst
    simp only [List.mem_cons, List.not_mem_nil, or_false] at hst
    rcases hst with rfl | rfl | rfl
    · exact Or.inl ⟨"E1", none, sendRequest, rfl, rfl⟩
    · exact Or.inl ⟨"E1", none, sendRequest, rfl, rfl⟩
    · exact Or.inr ⟨none, 5, rfl⟩

end asoe
