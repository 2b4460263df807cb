-- The human actions of an envelope over whole runs: each step that leaves the
-- history readable keeps it so, and a readable history is told as it was.
import Asoe.HumanActions

namespace asoe

open py prog runs

/-! ## Every step -/

section steps

variable {cfg : Config} {st : Step} {api : Api}

/-- A disposition of no known action, or of an action on an order entry that
the record is not, is refused. -/
theorem wp_dispose_unaccepted {env : StepEnv} {user : AuthenticatedUser} {id : String}
    {r : ChildCase} {req : DispositionRequest} (h : ¬ AcceptedAction r req.action) (api : Api) :
    wp (dispose cfg env user id r req) (fun _ _ => False) (fun _ api' => api' = api) api := by
  have hentry : req.action ∈ ["SUBMIT_TO_ERP", "DRAFT_REPLY", "SEND_REPLY"] →
      (req.action = "NO_ACTION" ∨ req.action ∈ ALLOWED_RESOLUTION_ACTIONS) →
      r.intent ≠ some .MANUAL_ORDER_INTAKE :=
    fun _ hallowed hintent => h ⟨hallowed, fun _ => hintent⟩
  have hrefused : ∀ (f : Unit → ApiM ExceptionDetailResponse)
      (code applies no_order action : String), r.intent ≠ some .MANUAL_ORDER_INTAKE →
      wp (require_order_entry r req code applies no_order action >>= f) (fun _ _ => False)
        (fun _ api' => api' = api) api := by
    intro f code applies no_order action hintent
    unfold require_order_entry require_notes
    simp only [wp_bind, wp_require]
    exact ⟨fun _ => ⟨fun hno => absurd hno hintent, fun _ => trivial⟩, fun _ => trivial⟩
  unfold dispose
  simp only [wp_bind, wp_require, wp_ite]
  refine ⟨fun hallowed => ⟨fun haction => ?_, fun hsubmit => ⟨fun haction => ?_, fun hdraft =>
    ⟨fun haction => ?_, fun hsend => ?_⟩⟩⟩, fun _ => trivial⟩
  · exact hrefused _ _ _ _ _ (hentry (by simp [haction]) hallowed)
  · exact hrefused _ _ _ _ _ (hentry (by simp [haction]) hallowed)
  · exact hrefused _ _ _ _ _ (hentry (by simp [haction]) hallowed)
  · exact absurd ⟨hallowed, fun hmem => by simp [hsubmit, hdraft, hsend] at hmem⟩ h

theorem step_unaccepted {id : String} {key : Option String} {req : DispositionRequest}
    {r : ChildCase} (hreq : st.request = .disposition id key req)
    (hget : get_record api id st.user.org = some r) (h : ¬ AcceptedAction r req.action) :
    (step cfg st api).records = api.records ∧ (step cfg st api).audit_log = api.audit_log := by
  refine wp_end
    (P := fun api' : Api => api'.records = api.records ∧ api'.audit_log = api.audit_log) ?_
  unfold handle
  rw [hreq]
  simp only [map_eq_pure_bind, wp_bind, wp_pure]
  unfold disposition_exception require_permission
  refine wp_permitted_found (fun _ _ => ⟨rfl, rfl⟩) (fun _ _ => ⟨rfl, rfl⟩) fun _ r' hr' => ?_
  cases hget.symm.trans hr'
  refine wp_with_idempotency (fun cache => ?_) (fun _ => ⟨rfl, rfl⟩) fun _ => ⟨rfl, rfl⟩
  refine wp_mono (wp_dispose_unaccepted h _) (fun _ _ hfalse => hfalse.elim) fun _ api' hsame => ?_
  subst hsame
  exact ⟨rfl, rfl⟩

/-- A replay leaves the records alone, or writes what its run ended in. -/
theorem step_reanalyze (cfg : Config) {id reason : String} {r : ChildCase}
    (hreq : st.request = .reanalyze id reason) (hget : get_record api id st.user.org = some r) :
    (step cfg st api).records = api.records ∨ ∃ fin r', ReplayedTo st api id r r' fin ∧
      (step cfg st api).records = dict.set api.records id r' := by
  refine wp_end (P := fun api' : Api => api'.records = api.records ∨ ∃ fin r',
    ReplayedTo st api id r r' fin ∧ api'.records = dict.set api.records id r') ?_
  unfold handle
  rw [hreq]
  simp only [map_eq_pure_bind, wp_bind, wp_pure]
  unfold reanalyze_exception require_role
  refine wp_permitted_found (fun _ _ => Or.inl rfl) (fun _ _ => Or.inl rfl) fun _ r' hr' => ?_
  cases hget.symm.trans hr'
  simp only [wp_bind, wp_require]
  refine ⟨fun _ => ⟨fun _ => ?_, fun _ => Or.inl trivial⟩, fun _ => Or.inl trivial⟩
  split
  · exact Or.inl rfl
  rename_i event hevent
  simp only [wp_bind, wp_get, wp_mapError]
  have hrun : wp (resolve_state st.env id { event := event, tenant_id := some st.user.org })
      (fun fin api₁ => replay st.env st.user.org id r api = some fin ∧ api₁.records = api.records)
      (fun _ api₁ => api₁.records = api.records) api := by
    have hkeep : wp (resolve_state st.env id { event := event, tenant_id := some st.user.org })
        (fun _ api₁ => api₁.records = api.records) (fun _ api₁ => api₁.records = api.records) api :=
      wp_resolve_state (fun _ _ _ _ => rfl) fun _ _ _ _ _ => rfl
    refine wp_intro (fun fin api₁ hran => ⟨?_, ?_⟩) fun _ api₁ hran => ?_
    · unfold replay
      rw [hevent]
      dsimp only
      rw [hran]
    · have hkept := wp_ok hkeep hran
      exact hkept
    · have hkept := wp_error hkeep hran
      exact hkept
  refine wp_mono hrun (fun fin api₁ h => ?_) fun _ _ h => Or.inl h
  obtain ⟨hran, hrecords⟩ := h
  have hget₁ : get_record api₁ id st.user.org = some r := by
    unfold get_record
    rw [hrecords]
    exact hget
  unfold persist_reanalysis
  simp only [wp_bind, wp_modify]
  refine wp_update_record (r := r) hget₁ ?_
  refine wp_update_record (r := stamped st.env (reanalyzed_record st.env fin r)) ?_ ?_
  · simp [get_record, put_record, store_trace, stamped, reanalyzed_record, (get_record_some hget).2]
  rw [wp_pure, log_audit_event_eq]
  have hwrote : ∀ r₁ r₂ : ChildCase,
      dict.set (dict.set api₁.records id r₁) id r₂ = dict.set api.records id r₂ := by
    intro r₁ r₂
    rw [dict.set_set, hrecords]
  refine wp_reaggregate (fun cases => ?_) fun e => ?_
  · exact Or.inr ⟨fin, _, ⟨hran, rfl, rfl⟩, hwrote _ _⟩
  · exact Or.inr ⟨fin, _, ⟨hran, rfl, rfl⟩, hwrote _ _⟩

/-- The history of every record can be read off it, and a cosign is of a
record that exists. -/
structure AllTold (api : Api) : Prop where
  told : ∀ id r, dict.get api.records id = some r → Told api.audit_log id r
  no_record : ∀ id, dict.get api.records id = none → latest_cosign api.audit_log id = none

theorem AllTold.kept {api' : Api} (h : AllTold api) (hrecords : api'.records = api.records)
    (hlog : api'.audit_log = api.audit_log) : AllTold api' where
  told id r hget := by
    rw [hlog]
    exact h.told id r (hrecords ▸ hget)
  no_record id hget := by
    rw [hlog]
    exact h.no_record id (hrecords ▸ hget)

/-- What a request logs and writes about one record is nothing to the others. -/
theorem AllTold.wrote {id : String} {r r' : ChildCase} {e : AuditEvent} {api' : Api}
    (h : AllTold api) (hget : dict.get api.records id = some r)
    (hsubject : audit_subject e = some id) (hrecords : api'.records = dict.set api.records id r')
    (hlog : api'.audit_log = logged cfg st.env e api.audit_log)
    (htold : Told api'.audit_log id r') :
    AllTold api' := by
  have hother : ∀ id', id' ≠ id → latest_cosign api'.audit_log id' =
      latest_cosign api.audit_log id' ∧
        latest_sub_type api'.audit_log id' = latest_sub_type api.audit_log id' := by
    intro id' hne
    have hne' : audit_subject e ≠ some id' := by
      rw [hsubject]
      simpa using Ne.symm hne
    rw [hlog]
    exact ⟨latest_cosign_logged (Or.inl hne'), latest_sub_type_logged (Or.inl hne')⟩
  constructor
  · intro id' r₁ hget'
    rw [hrecords] at hget'
    by_cases hid : id' = id
    · subst hid
      rw [dict.get_set_self] at hget'
      cases hget'
      exact htold
    · rw [dict.get_set_of_ne _ _ hid] at hget'
      obtain ⟨hcosign, hsub⟩ := hother id' hid
      exact (h.told id' r₁ hget').same ⟨rfl, rfl, rfl, rfl, rfl, rfl⟩ hcosign hsub
        fun henv hres => ⟨Iff.rfl, (h.told id' r₁ hget').settled henv hres⟩
  · intro id' hget'
    rw [hrecords] at hget'
    by_cases hid : id' = id
    · subst hid
      rw [dict.get_set_self] at hget'
      cases hget'
    · rw [dict.get_set_of_ne _ _ hid] at hget'
      rw [(hother id' hid).1]
      exact h.no_record id' hget'

theorem resolution_data_of_uncosigned (state : GraphState) :
    returns (resolution_data_of state) fun data =>
      data.cosign = none ∧ data.cosign_rejection = none := by
  unfold resolution_data_of
  dsimp only
  split
  · exact (returns_pure _).mpr ⟨rfl, rfl⟩
  · exact returns_bind fun lines _ => (returns_pure _).mpr ⟨rfl, rfl⟩

theorem told_of_new {log : List AuditEvent} {id tenant_id trace_id : String} {case : OrderCase}
    {data : ResolutionData} {fin : GraphState} (hdata : resolution_data_of fin = .ok data)
    (hnone : latest_cosign log id = none) :
    Told log id (record_of st.env tenant_id trace_id case data fin) where
  no_cosign _ _ := hnone
  uncosigned _ := resolution_data_of_uncosigned fin data hdata
  settled _ h := by cases h
  resolution _ h := by cases h

theorem step_told (hst : LeavesReadable cfg st api) (h : AllTold api) :
    AllTold (step cfg st api) := by
  cases step_cases cfg st api with
  | idle hkept | reconciled _ _ _ hkept => exact h.kept hkept.records hkept.audit_log
  | abandoned _ _ _ hkept => exact h.kept hkept.records hkept.audit_log
  | resolved event explain outcome hreq hrun haudit hledger hrecords =>
    rcases hrecords with hrecords | ⟨trace_id, case, data, fin, hdata, hrecords⟩
    · exact h.kept hrecords haudit
    · have hfresh := h.no_record _ (hst.fresh event explain hreq)
      constructor
      · intro id r hget
        rw [hrecords] at hget
        rw [haudit]
        by_cases hid : id = st.env.new_id
        · subst hid
          rw [dict.get_set_self] at hget
          cases hget
          exact told_of_new hdata hfresh
        · rw [dict.get_set_of_ne _ _ hid] at hget
          exact h.told id r hget
      · intro id hget
        rw [hrecords] at hget
        rw [haudit]
        by_cases hid : id = st.env.new_id
        · rw [hid]
          exact hfresh
        · rw [dict.get_set_of_ne _ _ hid] at hget
          exact h.no_record id hget
  | wrote id r w hget hanswer hwrote =>
    have hfound := (get_record_some hget).1
    have hset : dict.get (step cfg st api).records id = some w.record := by
      rw [hwrote.records, dict.get_set_self]
    by_cases haccepted : ∀ key req, st.request = .disposition id key req →
        AcceptedAction r req.action
    · refine h.wrote hfound (answered_subject hanswer) hwrote.records hwrote.audit_log ?_
      rw [hwrote.audit_log]
      refine told_of_answered hst hget (h.told id r hfound) haccepted (fun reason hreq => ?_)
        hanswer
      rcases step_reanalyze cfg hreq hget with hrecords | ⟨fin, r', hreplayed, hrecords⟩
      · rw [hrecords, hfound, Option.some_inj] at hset
        exact Or.inl hset.symm
      · rw [hrecords, dict.get_set_self, Option.some_inj] at hset
        exact Or.inr ⟨fin, hset ▸ hreplayed⟩
    · simp only [not_forall] at haccepted
      obtain ⟨key, req, hreq, hno⟩ := haccepted
      obtain ⟨hrecords, hlog⟩ := step_unaccepted hreq hget hno
      exact h.kept hrecords hlog

end steps

/-! ## Reading the actions off the record -/

section reading

variable {r : ChildCase}

theorem or_of_str (v w : PyVal) (hv : ∃ s, v = .str s) (hw : ∃ s, w = .str s) :
    ∃ s, v.or w = .str s := by
  unfold PyVal.or
  split
  · exact hv
  · exact hw

theorem HumanActionEntry.of_ok (action : HumanAction) {actor timestamp notes reason_tag : PyVal}
    (payload : PyDict) (hactor : ∃ s, actor = .str s) (htimestamp : ∃ s, timestamp = .str s)
    (hnotes : ∃ t, optional_text_field notes = .ok t)
    (hreason : ∃ t, optional_text_field reason_tag = .ok t) :
    ∃ a, HumanActionEntry.of action actor timestamp notes reason_tag payload = .ok a ∧
      a.action = action ∧ a.payload = payload := by
  obtain ⟨actor, rfl⟩ := hactor
  obtain ⟨timestamp, rfl⟩ := htimestamp
  obtain ⟨notes', hnotes⟩ := hnotes
  obtain ⟨reason_tag', hreason⟩ := hreason
  refine ⟨⟨action, actor, timestamp, notes', reason_tag', payload⟩, ?_, rfl, rfl⟩
  unfold HumanActionEntry.of
  rw [hnotes, hreason]
  rfl

theorem reanalysis_action_ok (e : ReanalysisEntry) :
    ∃ a, reanalysis_action r e.dict = .ok a ∧ a.action = .REANALYZE := by
  have hactor := or_of_str (value_at e.dict "triggered_by") _ ⟨e.triggered_by, rfl⟩ ⟨"system", rfl⟩
  have hat : ∃ s, (value_at e.dict "at").or (.str r.updated_at) = .str s := ⟨r.updated_at, rfl⟩
  have hnotes : ∃ t, optional_text_field (value_at e.dict "reason") = .ok t := ⟨some e.reason, rfl⟩
  have htag : ∃ t, optional_text_field .none = .ok t := ⟨none, rfl⟩
  obtain ⟨a, ha, hkind, -⟩ := HumanActionEntry.of_ok .REANALYZE
    [("attempt", value_at e.dict "attempt")] hactor hat hnotes htag
  exact ⟨a, ha, hkind⟩

theorem reanalyses_ok (es : List ReanalysisEntry) :
    ∃ actions, es.mapM (fun e => reanalysis_action r e.dict) = .ok actions ∧
      ∀ a ∈ actions, a.action = .REANALYZE := by
  induction es with
  | nil => exact ⟨[], rfl, fun a ha => (by cases ha)⟩
  | cons e es ih =>
    obtain ⟨actions, hactions, hall⟩ := ih
    obtain ⟨a, ha, hkind⟩ := reanalysis_action_ok (r := r) e
    refine ⟨a :: actions, ?_, fun b hb => ?_⟩
    · rw [List.mapM_cons, ha, hactions]
      rfl
    · rcases List.mem_cons.mp hb with rfl | hb
      · exact hkind
      · exact hall b hb

/-- A parked override is shown as one that waits for its cosign. -/
theorem pending_actions_ok : ∃ actions, pending_actions r = .ok actions ∧
    ∀ a ∈ actions, a.action = .OVERRIDE ∧ (dict.get a.payload "pending_cosign").isNone = false := by
  have hinitiator : ∀ p : PendingOverride, value_at p.dict "initiator" = .str p.initiator := by
    intro p
    unfold PendingOverride.dict
    split <;> rfl
  have hinitiated : ∀ p : PendingOverride,
      value_at p.dict "initiated_at" = .str p.initiated_at := by
    intro p
    unfold PendingOverride.dict
    split <;> rfl
  unfold pending_actions
  split
  · exact ⟨[], rfl, fun a ha => (by cases ha)⟩
  · rename_i p hp
    have hactor := or_of_str (value_at p.dict "initiator") _ ⟨p.initiator, hinitiator p⟩
      ⟨"unknown", rfl⟩
    have hat := or_of_str (value_at p.dict "initiated_at") _ ⟨p.initiated_at, hinitiated p⟩
      ⟨r.updated_at, rfl⟩
    have hnotes : ∃ t, optional_text_field (value_at p.dict "notes") = .ok t := ⟨some p.notes, rfl⟩
    have htag : ∃ t, optional_text_field (value_at p.dict "reason_tag") = .ok t :=
      ⟨some p.reason_tag, rfl⟩
    obtain ⟨a, ha, hkind, hpayload⟩ := HumanActionEntry.of_ok .OVERRIDE
      [("resolved_action", value_at p.dict "action"), ("pending_cosign", .bool true),
        ("financial_impact_usd", value_at p.dict "financial_impact_usd")] hactor hat hnotes htag
    refine ⟨[a], ?_, fun b hb => ?_⟩
    · rw [ok_bind ha]
      rfl
    · rw [List.mem_singleton.mp hb, hkind, hpayload]
      exact ⟨rfl, rfl⟩

theorem resolution_actions_ok {log : List AuditEvent} {id : String}
    (htold : Told log id r) (henv : has_envelope r = true) :
    ∃ actions, resolution_actions r = .ok actions ∧ ∀ a ∈ actions, is_cosign a = false ∧
      latest_sub_type log id = some (.str a.action.value) := by
  unfold resolution_actions
  split
  · rename_i hres
    obtain ⟨s, t, hs, ht, hlatest⟩ := htold.resolution henv hres
    obtain ⟨by_whom, hby⟩ : ∃ u, ofString? r.resolved_by = .str u := by
      unfold is_resolved at hres
      rcases hresolved : r.resolved_by with _ | u
      · simp [hresolved] at hres
      · exact ⟨u, rfl⟩
    have hnotes : ∃ n, optional_text_field (ofString? r.resolution_notes) = .ok n := by
      cases r.resolution_notes with
      | none => exact ⟨none, rfl⟩
      | some n => exact ⟨some n, rfl⟩
    have hat : ∃ u, PyVal.str r.updated_at = .str u := ⟨r.updated_at, rfl⟩
    obtain ⟨a, ha, hkind, -⟩ := HumanActionEntry.of_ok (resolution_kind r.lifecycle_state
      (strip (r.resolved_action.getD "")) (strip s))
      [("resolved_action", ofString? r.resolved_action)] ⟨by_whom, hby⟩ hat hnotes ⟨t, ht⟩
    refine ⟨[a], ?_, fun b hb => ?_⟩
    · dsimp only
      rw [ok_bind hs, ok_bind ha]
      rfl
    · rw [List.mem_singleton.mp hb]
      refine ⟨?_, by rw [hkind, hlatest]⟩
      unfold is_cosign
      rw [hkind]
      unfold resolution_kind
      split
      · rfl
      · split
        · rfl
        · split <;> rfl
  · exact ⟨[], rfl, fun a ha => (by cases ha)⟩

/-- While the history can be read off a record, its human actions tell it. -/
theorem told_actions {log : List AuditEvent} {id : String} (htold : Told log id r)
    (henv : has_envelope r = true) :
    ∃ actions, build_human_actions r = .ok actions ∧ TellsHistory log id actions := by
  obtain ⟨reanalyses, hreanalyses, hre⟩ := reanalyses_ok (r := r) r.reanalysis_history
  obtain ⟨resolutions, hresolutions, hkind⟩ := resolution_actions_ok htold henv
  obtain ⟨pendings, hpendings, hpending⟩ := pending_actions_ok (r := r)
  obtain ⟨hcosign, hrejection⟩ := htold.uncosigned henv
  have hnone := htold.no_cosign hcosign hrejection
  have hcosigns : cosign_actions r = .ok [] := by
    unfold cosign_actions
    rw [hcosign]
    rfl
  refine ⟨(reanalyses ++ resolutions ++ [] ++ pendings).insertionSort HumanActionEntry.le, ?_, ?_⟩
  · unfold build_human_actions
    rw [ok_bind hreanalyses, ok_bind hresolutions, ok_bind hcosigns, ok_bind hpendings]
    rfl
  have hmem : ∀ a ∈ (reanalyses ++ resolutions ++ [] ++ pendings).insertionSort
      HumanActionEntry.le, a ∈ reanalyses ∨ a ∈ resolutions ∨ a ∈ pendings := by
    intro a ha
    simpa [or_assoc] using (List.mem_insertionSort HumanActionEntry.le).mp ha
  have huncosigned : ∀ a ∈ (reanalyses ++ resolutions ++ [] ++ pendings).insertionSort
      HumanActionEntry.le, is_cosign a = false := by
    intro a ha
    rcases hmem a ha with ha | ha | ha
    · simp [is_cosign, hre a ha]
    · exact (hkind a ha).1
    · simp [is_cosign, (hpending a ha).1]
  have hno : ∀ key, ¬ ∃ e, latest_cosign log id = some e ∧ e.policy_key = key := by
    rintro key ⟨e, he, -⟩
    rw [hnone] at he
    cases he
  refine ⟨iff_of_false ?_ (hno _), iff_of_false ?_ (hno _), fun a ha hcos => ?_,
    fun a ha hres => ?_⟩
  · rintro ⟨a, ha, haction⟩
    have h := huncosigned a ha
    simp [is_cosign, haction] at h
  · rintro ⟨a, ha, haction⟩
    have h := huncosigned a ha
    simp [is_cosign, haction] at h
  · rw [huncosigned a ha] at hcos
    cases hcos
  · rcases hmem a ha with ha | ha | ha
    · simp [is_resolution, hre a ha] at hres
    · exact (hkind a ha).2
    · simp [is_resolution, (hpending a ha).2] at hres

end reading

/-! ## Every run -/

/-- In a run whose steps all leave the history readable, the human actions of
every record with an envelope tell the history that the audit log has. -/
theorem human_actions_tell_the_history_while_it_stays_readable (cfg : Config) (sts : List Step)
    (hsts : AllSteps (step cfg) (LeavesReadable cfg) {} sts) (id : String) (r : ChildCase)
    (hget : dict.get (run (step cfg) {} sts).records id = some r) (henv : has_envelope r = true) :
    ∃ actions, build_human_actions r = .ok actions ∧
      TellsHistory (run (step cfg) {} sts).audit_log id actions := by
  have htold : AllTold (run (step cfg) {} sts) := by
    refine invariant (fun st api hst h => step_told hst h) ?_ hsts
    exact ⟨fun id r h => (by cases h), fun id _ => rfl⟩
  exact told_actions (htold.told id r hget) henv

/-! ## Runs on a duplicate -/

def duplicateOutputs (impact : ℚ) : PyDict :=
  [("status", .str "SUCCESS"), ("signal_breakdown", .dict []), ("composite_score", .float (.fin 1)),
    ("classification", .str "AUTO_BLOCK"), ("recommended_action", .str "BLOCK_AND_NOTIFY"),
    ("financial_impact_usd", .float (.fin impact))]

/-- A run in which the recipe finds a duplicate of that impact. -/
def duplicateRun (impact : ℚ) : RunEnv :=
  { sampleRun 100 with
    select_skill := fun _ => .ok "duplicate-po"
    other_recipes := fun _ _ => .ok (duplicateOutputs impact) }

def duplicateStep (impact : ℚ) (sub : String) (request : Request) : Step :=
  ⟨sampleEnv (duplicateRun impact), sampleUser sub, request⟩

def duplicateResolve (impact : ℚ) : Step :=
  duplicateStep impact "analyst"
    (.resolve { sampleEvent with event_type := "EDI_850_DUPLICATE_PO" } false)

def allowBoth : DispositionRequest :=
  { action := "ALLOW_BOTH", notes := "both are wanted", reason_tag := "INTENTIONAL_REORDER" }

/-- The duplicate is found, and the analyst wants both orders. -/
def duplicateHistory (impact : ℚ) : List Step :=
  [duplicateResolve impact, duplicateStep impact "analyst" (.disposition "E1" none allowBoth)]

/-- The steps of this history leave it readable. -/
theorem duplicateHistory_readable :
    AllSteps (step sampleConfig) (LeavesReadable sampleConfig) {} (duplicateHistory 100) := by
  refine ⟨⟨fun _ _ _ => rfl, ?_, ?_, ?_, ?_, ?_⟩, ⟨?_, fun id key req r hreq hget _ _ => ?_, ?_, ?_,
    ?_, ?_⟩, trivial⟩
  · intro id key req r hreq
    cases hreq
  · intro id key req r p hreq
    cases hreq
  · intro id key req r hreq
    cases hreq
  · intro id reason r hreq
    cases hreq
  · intro id reason r fin hreq
    cases hreq
  · intro event explain hreq
    cases hreq
  · cases hreq
    have houtputs : ((get_record (step sampleConfig (duplicateResolve 100) {}) "E1" "T1").all
        fun r => value_at r.resolution_data.outputs "recommended_action" = .str "BLOCK_AND_NOTIFY"
          ∧ value_at r.resolution_data.outputs "reason_tag" = .none) = true := by
      decide +kernel
    have hget' : get_record (step sampleConfig (duplicateResolve 100) {}) "E1" "T1" = some r := hget
    rw [hget'] at houtputs
    simp only [Option.all_some, decide_eq_true_eq] at houtputs
    refine ⟨Or.inl (by simp [sampleConfig]), ⟨"BLOCK_AND_NOTIFY", by rw [houtputs.1]; rfl, ?_⟩,
      none, by rw [houtputs.2]; rfl⟩
    intro _ hsame
    exact absurd hsame (by decide)
  · intro id key req r p hreq
    cases hreq
  · intro id key req r hreq
    cases hreq
  · intro id reason r hreq
    cases hreq
  · intro id reason r fin hreq
    cases hreq

/-- An override that takes effect at once is told as one. -/
theorem an_override_of_a_duplicate_is_told :
    ∃ r actions,
      dict.get (run (step sampleConfig) {} (duplicateHistory 100)).records "E1" = some r ∧
      build_human_actions r = .ok actions ∧
      TellsHistory (run (step sampleConfig) {} (duplicateHistory 100)).audit_log "E1" actions := by
  have hfound : (dict.get (run (step sampleConfig) {} (duplicateHistory 100)).records "E1").any
      has_envelope = true := by decide +kernel
  obtain ⟨r, hget, henv⟩ := Option.any_eq_true _ _ |>.mp hfound
  obtain ⟨actions, hactions, htells⟩ := human_actions_tell_the_history_while_it_stays_readable
    sampleConfig (duplicateHistory 100) duplicateHistory_readable "E1" r hget henv
  exact ⟨r, actions, hget, hactions, htells⟩

def cosignedDuplicate : List Step :=
  duplicateHistory 20000 ++ [duplicateStep 20000 "manager" (.cosign "E1" none ⟨true, "agreed"⟩)]

/-- A high-value override that the manager cosigns is told as rejected. -/
theorem some_human_actions_do_not_tell_the_history :
    ¬ ∀ (cfg : Config) (sts : List Step), AllSteps (step cfg) FreshId {} sts → ∀ id r,
      dict.get (run (step cfg) {} sts).records id = some r → has_envelope r = true →
        ∃ actions, build_human_actions r = .ok actions ∧
          TellsHistory (run (step cfg) {} sts).audit_log id actions := by
  intro hclaim
  have hfresh : AllSteps (step sampleConfig) FreshId {} cosignedDuplicate := by
    refine ⟨fun _ _ _ => rfl, fun _ _ h => ?_, fun _ _ h => ?_, trivial⟩
    · cases h
    · cases h
  have hfound : (dict.get (run (step sampleConfig) {} cosignedDuplicate).records "E1").any
      (fun r => has_envelope r && ((build_human_actions r).toOption.any
        fun actions => actions.all fun a => a.action ≠ .COSIGN_APPROVE)) = true := by
    decide +kernel
  have hcosign : (latest_cosign (run (step sampleConfig) {} cosignedDuplicate).audit_log "E1").any
      (fun e => e.policy_key = "EXCEPTION_OVERRIDE_COSIGNED") = true := by
    decide +kernel
  obtain ⟨r, hget, hr⟩ := Option.any_eq_true _ _ |>.mp hfound
  obtain ⟨e, he, hkey⟩ := Option.any_eq_true _ _ |>.mp hcosign
  obtain ⟨henv, hactions⟩ := Bool.and_eq_true_iff.mp hr
  obtain ⟨actions, hbuild, htells⟩ := hclaim _ _ hfresh "E1" r hget henv
  rw [hbuild] at hactions
  obtain ⟨a, ha, haction⟩ := htells.approved.mpr ⟨e, he, by simpa using hkey⟩
  have hother := List.all_eq_true.mp hactions a ha
  simp [haction] at hother

end asoe
