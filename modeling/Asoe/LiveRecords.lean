-- What the classifier of customer mails promises about its live model: in the
-- shadow it changes no decision, its decisions are recorded once each and
-- nothing else is, and what is not certain enough goes to triage.
import Asoe.EmailSupergroups
import Mathlib.Data.List.Forall2

open py

namespace asoe.email_intelligence

/-! ## The promises -/

def router_live (call : Call) : Bool := !is_deterministic call.router

/-- The decision that the live model made in this call. -/
def live_decision (call : Call) : Option EmailSupergroupDecision :=
  match call.router with
  | .deterministic => none
  | .live answers =>
    match answers call.event with
    | .decides decision .live_model => some decision
    | _ => none

def live_kind (call : Call) : String :=
  if shadow_active call.shadow_env then "live:shadow" else "live:gating"

def prediction_of (call : Call) (d : EmailSupergroupDecision) : CalibrationRecord :=
  ⟨d.supergroup_code, d.confidence, live_kind call, some call.event.order_id, none⟩

/-- What a shadow observation tells about the candidate. -/
def candidate_of (obs : ShadowObservation) :
    AllowedCustomerSupergroup × PyFloat × Option String :=
  (obs.candidate_supergroup, obs.candidate_confidence, obs.case_ref)

/-- Each decision of the live model is recorded, once, and no other decision is. -/
structure Accounted (s : Step) : Prop where
  predictions : s.after.buffer =
    s.before.buffer ++ (live_decision s.call).toList.map (prediction_of s.call)
  observations : s.after.observations.map candidate_of = s.before.observations.map candidate_of ++
    if shadow_active s.call.shadow_env then
      (live_decision s.call).toList.map fun d =>
        (d.supergroup_code, d.confidence, some s.call.event.order_id)
    else []

def Triaged (c : EmailSupergroupClassifier) (s : Step) : Prop :=
  ∀ d, s.outcome = .ok d → d.confidence.lt c.threshold = true → d.supergroup_code = .SG_NEEDS_TRIAGE

/-- The calls differ at most in what a live backend answers. -/
structure SameButAnswer (a b : Call) : Prop where
  event : a.event = b.event
  shadow_env : a.shadow_env = b.shadow_env
  live : router_live a = router_live b

/-- In the shadow of a live backend the two steps end alike. -/
def SameInShadow (s t : Step) : Prop :=
  router_live s.call = true → shadow_active s.call.shadow_env = true → s.outcome = t.outcome

structure LiveModelKept (c : EmailSupergroupClassifier) (calls : List Call) (r : Records) :
    Prop where
  independent : ∀ calls' r', List.Forall₂ SameButAnswer calls calls' →
    List.Forall₂ SameInShadow (run c calls r) (run c calls' r')
  accounted : ∀ s ∈ run c calls r, Accounted s
  triaged : ∀ s ∈ run c calls r, Triaged c s

/-! ## The condition -/

def usable_hint (call : Call) : Bool :=
  hashable (metadata_get call.event EMAIL_SUPERGROUP_HINT_KEY)

/-- The live model answers, and in the shadow the deterministic backend can answer too; or no
decision of the live model is there and the call ends with the exception of an unusable hint. -/
def Answered (call : Call) : Answer → Prop
  | .decides _ .live_model => shadow_active call.shadow_env = true → usable_hint call = true
  | .decides _ .own_fallback =>
    shadow_active call.shadow_env = true ∧ usable_hint call = false
  | .missing_method | .raises _ => usable_hint call = false

def LiveAnswered (call : Call) : Prop :=
  match call.router with
  | .deterministic => True
  | .live answers => Answered call (answers call.event)

/-! ## One call -/

theorem deterministic_ok {call : Call} (h : usable_hint call = true) :
    ∃ d, deterministic call.event = .ok d := by
  unfold usable_hint at h
  unfold deterministic supergroup_of_hint
  rw [if_pos h]
  cases AllowedCustomerSupergroup.all.find? fun g =>
      PyVal.str g.value = metadata_get call.event EMAIL_SUPERGROUP_HINT_KEY with
  | none => exact ⟨_, rfl⟩
  | some g => exact ⟨_, rfl⟩

theorem deterministic_error {call : Call} (h : usable_hint call = false) :
    ∃ e, deterministic call.event = .error e := by
  unfold usable_hint at h
  unfold deterministic supergroup_of_hint
  rw [if_neg (by rw [h]; exact Bool.false_ne_true)]
  exact ⟨_, rfl⟩

section calls

variable {c : EmailSupergroupClassifier} {call : Call} {r : Records}

/-- In the shadow of a live backend the deterministic backend decides. -/
theorem shadow_outcome (hc : c.injected_backend = none) (hlive : router_live call = true)
    (hshadow : shadow_active call.shadow_env = true) :
    (step c call r).outcome = apply_threshold c.threshold <$> deterministic call.event := by
  unfold step classify
  unfold router_live at hlive
  dsimp only
  rw [hc, Option.getD_none, Option.isNone_none, hlive, hshadow]
  cases hrouter : call.router with
  | deterministic =>
    rw [hrouter] at hlive
    cases hlive
  | live answers =>
    unfold safe_call
    dsimp only
    cases answers call.event with
    | missing_method =>
      cases deterministic call.event with
      | error e => rfl
      | ok d => rfl
    | raises e =>
      cases deterministic call.event with
      | error e => rfl
      | ok d => rfl
    | decides d source =>
      cases deterministic call.event with
      | error e => rfl
      | ok d => rfl

theorem triage_of_apply_threshold {threshold : PyFloat} (d : EmailSupergroupDecision)
    (h : (apply_threshold threshold d).confidence.lt threshold = true) :
    (apply_threshold threshold d).supergroup_code = .SG_NEEDS_TRIAGE := by
  unfold apply_threshold at h ⊢
  split at h
  · rename_i hlow
    rw [if_pos hlow]
  · rename_i hlow
    exact absurd h hlow

theorem triaged_step : Triaged c (step c call r) := by
  have happlied : ∀ d, (classify c call r).1 = .ok d →
      ∃ d', d = apply_threshold c.threshold d' := by
    intro d hd
    unfold classify at hd
    dsimp only at hd
    split at hd
    · cases hd
    · split at hd
      · split at hd
        · cases hd
        · exact ⟨_, (Except.ok.inj hd).symm⟩
      · exact ⟨_, (Except.ok.inj hd).symm⟩
  intro d hd hlow
  obtain ⟨d', rfl⟩ := happlied d hd
  exact triage_of_apply_threshold d' hlow

theorem accounted_of_unchanged (h : (step c call r).after = r) :
    Accounted (step c call r) ↔ live_decision call = none := by
  have hbefore : (step c call r).before = r := rfl
  have hcall : (step c call r).call = call := rfl
  constructor
  · rintro ⟨hpredictions, -⟩
    rw [h, hbefore, hcall, List.self_eq_append_right, List.map_eq_nil_iff] at hpredictions
    exact Option.toList_eq_nil_iff.mp hpredictions
  · intro hnone
    refine ⟨?_, ?_⟩
    · rw [h, hbefore, hcall, hnone]
      exact (List.append_nil _).symm
    · rw [h, hbefore, hcall, hnone]
      split
      · exact (List.append_nil _).symm
      · exact (List.append_nil _).symm

/-- The records of a step in which a decision was recorded as one of the live model. -/
theorem accounted_of_recorded {d : EmailSupergroupDecision}
    (hbuffer : (step c call r).after.buffer = r.buffer ++ [prediction_of call d])
    (hobservations : (step c call r).after.observations.map candidate_of =
      r.observations.map candidate_of ++ if shadow_active call.shadow_env then
        [(d.supergroup_code, d.confidence, some call.event.order_id)] else [])
    (hlive : live_decision call = none ∨ live_decision call = some d) :
    Accounted (step c call r) ↔ live_decision call = some d := by
  have hbefore : (step c call r).before = r := rfl
  have hcall : (step c call r).call = call := rfl
  constructor
  · rintro ⟨hpredictions, -⟩
    rcases hlive with hnone | hsome
    · rw [hbuffer, hbefore, hcall, hnone] at hpredictions
      exact absurd (List.append_cancel_left hpredictions) (List.cons_ne_nil _ _)
    · exact hsome
  · intro hsome
    refine ⟨?_, ?_⟩
    · rw [hbuffer, hbefore, hcall, hsome]
      rfl
    · rw [hobservations, hbefore, hcall, hsome]
      rfl

theorem unchanged_of_error (hc : c.injected_backend = none) {e : PyErr}
    (h : safe_call call.router call.event = .error e) : (step c call r).after = r := by
  unfold step classify
  dsimp only
  rw [hc, Option.getD_none, h]

theorem unchanged_of_deterministic (hc : c.injected_backend = none)
    (h : router_live call = false) : (step c call r).after = r := by
  unfold step classify
  unfold router_live at h
  dsimp only
  rw [hc, Option.getD_none, Option.isNone_none, h]
  split
  · rfl
  · rfl

theorem unchanged_of_unusable (hc : c.injected_backend = none)
    (hlive : router_live call = true) (hshadow : shadow_active call.shadow_env = true) {e : PyErr}
    (h : deterministic call.event = .error e) : (step c call r).after = r := by
  unfold step classify
  unfold router_live at hlive
  dsimp only
  rw [hc, Option.getD_none, Option.isNone_none, hlive, hshadow, h]
  split
  · rfl
  · rfl

theorem recorded_of_decision (hc : c.injected_backend = none) (hlive : router_live call = true)
    {d : EmailSupergroupDecision} (h : safe_call call.router call.event = .ok d)
    (hready : shadow_active call.shadow_env = true → usable_hint call = true) :
    (step c call r).after.buffer = r.buffer ++ [prediction_of call d] ∧
      (step c call r).after.observations.map candidate_of =
        r.observations.map candidate_of ++ if shadow_active call.shadow_env then
          [(d.supergroup_code, d.confidence, some call.event.order_id)] else [] := by
  unfold step classify prediction_of live_kind
  unfold router_live at hlive
  dsimp only
  rw [hc, Option.getD_none, Option.isNone_none, hlive, h]
  cases hshadow : shadow_active call.shadow_env with
  | true =>
    obtain ⟨gating, hgating⟩ := deterministic_ok (hready hshadow)
    rw [hgating]
    exact ⟨rfl, List.map_append⟩
  | false => exact ⟨rfl, (List.append_nil _).symm⟩

theorem accounted_of_no_decision (hc : c.injected_backend = none) (hlive : router_live call = true)
    (hnone : live_decision call = none) {unrecorded : Prop}
    (hunchanged : unrecorded → (step c call r).after = r)
    (hrecorded : ¬ unrecorded → ∃ d, safe_call call.router call.event = .ok d ∧
      (shadow_active call.shadow_env = true → usable_hint call = true)) :
    Accounted (step c call r) ↔ unrecorded := by
  by_cases h : unrecorded
  · rw [accounted_of_unchanged (hunchanged h)]
    exact iff_of_true hnone h
  · obtain ⟨d, hd, hready⟩ := hrecorded h
    obtain ⟨hbuffer, hobservations⟩ := recorded_of_decision (r := r) hc hlive hd hready
    rw [accounted_of_recorded hbuffer hobservations (Or.inl hnone), hnone]
    exact iff_of_false (fun heq => by cases heq) h

theorem live_of_router {answers : OrderEvent → Answer} (h : call.router = .live answers) :
    router_live call = true := by
  unfold router_live
  rw [h]
  rfl

/-- Without a decision of the backend the deterministic one is taken for it. -/
theorem accounted_of_failure (hc : c.injected_backend = none) {answers : OrderEvent → Answer}
    (hrouter : call.router = .live answers)
    (hno : ∀ d source, answers call.event ≠ .decides d source) :
    Accounted (step c call r) ↔ usable_hint call = false := by
  have hsafe : safe_call call.router call.event = deterministic call.event := by
    unfold safe_call
    rw [hrouter]
    dsimp only
    split
    · rename_i d source heq
      exact absurd heq (hno d source)
    · rfl
    · rfl
  have hnone : live_decision call = none := by
    unfold live_decision
    rw [hrouter]
    dsimp only
    split
    · rename_i d heq
      exact absurd heq (hno d _)
    · rfl
  refine accounted_of_no_decision hc (live_of_router hrouter) hnone (fun h => ?_) (fun h => ?_)
  · obtain ⟨e, he⟩ := deterministic_error h
    exact unchanged_of_error hc (hsafe.trans he)
  · have husable := Bool.eq_true_of_not_eq_false h
    obtain ⟨d, hd⟩ := deterministic_ok husable
    exact ⟨d, hsafe.trans hd, fun _ => husable⟩

/-- The records of a step are right exactly when the live model answered. -/
theorem accounted_iff (hc : c.injected_backend = none) :
    Accounted (step c call r) ↔ LiveAnswered call := by
  unfold LiveAnswered
  cases hrouter : call.router with
  | deterministic =>
    have hdead : router_live call = false := by
      unfold router_live
      rw [hrouter]
      rfl
    rw [accounted_of_unchanged (unchanged_of_deterministic hc hdead)]
    unfold live_decision
    rw [hrouter]
    exact iff_of_true rfl trivial
  | live answers =>
    have hlive := live_of_router hrouter
    dsimp only
    cases hanswer : answers call.event with
    | missing_method =>
      refine accounted_of_failure hc hrouter fun d source heq => ?_
      rw [hanswer] at heq
      cases heq
    | raises e =>
      refine accounted_of_failure hc hrouter fun d source heq => ?_
      rw [hanswer] at heq
      cases heq
    | decides d source =>
      have hsafe : safe_call call.router call.event = .ok d := by
        unfold safe_call
        rw [hrouter]
        dsimp only
        rw [hanswer]
      cases source with
      | live_model =>
        have hsome : live_decision call = some d := by
          unfold live_decision
          rw [hrouter]
          dsimp only
          rw [hanswer]
        by_cases hready : shadow_active call.shadow_env = true → usable_hint call = true
        · obtain ⟨hbuffer, hobservations⟩ := recorded_of_decision (r := r) hc hlive hsafe hready
          rw [accounted_of_recorded hbuffer hobservations (Or.inr hsome)]
          exact iff_of_true hsome hready
        · obtain ⟨hshadow, hunusable⟩ := Classical.not_imp.mp hready
          obtain ⟨e, he⟩ := deterministic_error (Bool.eq_false_of_not_eq_true hunusable)
          rw [accounted_of_unchanged (unchanged_of_unusable hc hlive hshadow he), hsome]
          exact iff_of_false (fun heq => by cases heq) hready
      | own_fallback =>
        have hnone : live_decision call = none := by
          unfold live_decision
          rw [hrouter]
          dsimp only
          rw [hanswer]
        refine accounted_of_no_decision hc hlive hnone (fun h => ?_) (fun h => ?_)
        · obtain ⟨e, he⟩ := deterministic_error h.2
          exact unchanged_of_unusable hc hlive h.1 he
        · exact ⟨d, hsafe, fun hshadow => Bool.eq_true_of_not_eq_false fun hunusable =>
            h ⟨hshadow, hunusable⟩⟩

end calls

/-! ## Runs -/

theorem mem_run {c : EmailSupergroupClassifier} {calls : List Call} {r : Records} {s : Step}
    (h : s ∈ run c calls r) : ∃ call ∈ calls, ∃ r', s = step c call r' := by
  induction calls generalizing r with
  | nil => cases h
  | cons call calls ih =>
    rcases List.mem_cons.mp h with rfl | h
    · exact ⟨call, List.mem_cons_self, r, rfl⟩
    · obtain ⟨call', hcall', hs⟩ := ih h
      exact ⟨call', List.mem_cons_of_mem call hcall', hs⟩

theorem run_of_mem {c : EmailSupergroupClassifier} {calls : List Call} {r : Records} {call : Call}
    (h : call ∈ calls) : ∃ r', step c call r' ∈ run c calls r := by
  induction calls generalizing r with
  | nil => cases h
  | cons first calls ih =>
    rcases List.mem_cons.mp h with rfl | h
    · exact ⟨r, List.mem_cons_self⟩
    · obtain ⟨r', hr'⟩ := @ih (step c first r).after h
      exact ⟨r', List.mem_cons_of_mem _ hr'⟩

theorem same_in_shadow {c : EmailSupergroupClassifier} (hc : c.injected_backend = none)
    {calls calls' : List Call} (h : List.Forall₂ SameButAnswer calls calls') (r r' : Records) :
    List.Forall₂ SameInShadow (run c calls r) (run c calls' r') := by
  induction h generalizing r r' with
  | nil => exact .nil
  | @cons call call' _ _ hsame _ ih =>
    refine .cons (fun (hlive : router_live call = true) hshadow => ?_) (ih _ _)
    have hlive' : router_live call' = true := hsame.live.symm.trans hlive
    have hshadow' : shadow_active call'.shadow_env = true := hsame.shadow_env ▸ hshadow
    have hevent := congrArg (fun event => apply_threshold c.threshold <$> deterministic event)
      hsame.event
    exact (shadow_outcome hc hlive hshadow).trans
      (hevent.trans (shadow_outcome hc hlive' hshadow').symm)

/-- The live model is kept in the shadow, and triage is kept, in every run; each of its decisions
is recorded once, and none of another, exactly when it answers in every call. -/
theorem live_records_are_right_exactly_when_the_model_answers
    (confidence_threshold : Option PyFloat) (env : Option String) (calls : List Call)
    (r : Records) :
    LiveModelKept (.init none confidence_threshold env) calls r ↔
      ∀ call ∈ calls, LiveAnswered call := by
  constructor
  · intro h call hcall
    obtain ⟨r', hr'⟩ := run_of_mem hcall
    exact (accounted_iff rfl).mp (h.accounted _ hr')
  · intro h
    refine ⟨fun calls' r' hsame => same_in_shadow rfl hsame r r', fun s hs => ?_, fun s hs => ?_⟩
    · obtain ⟨call, hcall, r', rfl⟩ := mem_run hs
      exact (accounted_iff rfl).mpr (h call hcall)
    · obtain ⟨call, -, r', rfl⟩ := mem_run hs
      exact triaged_step

def returnMail : OrderEvent where
  order_id := "1"
  po_price := .fin 0
  sap_base_price := .fin 0
  metadata := [("email_supergroup_hint", .str "SG_RETURN_RGA")]

def failingCall : Call where
  event := returnMail
  router := .live fun _ => .raises ⟨"TimeoutError", ""⟩
  shadow_env := none

/-- The decision of the deterministic backend is recorded as the live model's. -/
theorem a_failure_is_recorded_as_live :
    ((run (.init none none none) [failingCall] ⟨[], []⟩).map fun s =>
        s.after.buffer.map (·.backend_kind)) = [["live:shadow"]] ∧
      ¬ LiveModelKept (.init none none none) [failingCall] ⟨[], []⟩ := by
  refine ⟨by decide +kernel, fun h => ?_⟩
  have hanswered := (accounted_iff rfl).mp (h.accounted _ List.mem_cons_self)
  exact absurd (show usable_hint failingCall = false from hanswered) (by decide)

end asoe.email_intelligence
