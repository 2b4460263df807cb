-- The override of a whole case: a first user parks the case, and a second
-- one decides. Other requests leave a parked case alone.
import Asoe.CaseWrites

namespace asoe

open py prog runs

/-! ## The endpoints -/

structure CaseCosignRequest where
  approve : Bool
  notes : String
  deriving DecidableEq

/-- A case of another tenant is not found. -/
def get_case_or_404 (case_id tenant_id : String) : ApiM OrderCase := do
  let api ← get
  match dict.get api.cases case_id with
  | some case =>
    require (case.tenant_id = tenant_id)
      (.asoe_error "NOT_FOUND" ("Case " ++ case_id ++ " not found.") 404)
    return case
  | none => throw (.asoe_error "NOT_FOUND" ("Case " ++ case_id ++ " not found.") 404)

def put_case (case_id : String) (case : OrderCase) (api : Api) : Api :=
  { api with cases := dict.set api.cases case_id case }

/-- `case_store.set_pending_override(...)`, with its `ValueError` as the
endpoint reports it. -/
def set_pending_override (case_id initiator : String) (case : OrderCase) : ApiM Unit := do
  require (case.pending_override = none)
    (.asoe_error "CONFLICT" ("Case " ++ case_id ++ " already has a pending_override; "
      ++ "second initiator must wait for cosign-resolve.") 409)
  modify (put_case case_id
    { case with pending_override := some initiator, status := .OPEN_AWAITING_HUMAN })

def require_case_cosign (enabled : Bool) : ApiM Unit :=
  require (enabled = true) (.asoe_error "NOT_FOUND"
    "Case-level cosign is not enabled in this deployment." 404)

def initiate_case_override (enabled : Bool) (user : AuthenticatedUser) (case_id : String) :
    ApiM Unit := do
  require_role user ["manager", "admin"]
  require_case_cosign enabled
  let case ← get_case_or_404 case_id user.org
  set_pending_override case_id user.sub case

/-- The decision of the second user: the override is cleared first, and the
status is set by a write of its own. -/
def decide_case_override (now_iso case_id : String) (approve : Bool) (case : OrderCase) :
    ApiM Unit := do
  let cleared := { case with pending_override := none }
  modify (put_case case_id cleared)
  if approve then update_case_status case_id cleared .RESOLVED (some now_iso)
  else update_case_status case_id cleared .OPEN_AGENT_PROCESSING case.closed_at

def cosign_case_override (enabled : Bool) (now_iso : String) (user : AuthenticatedUser)
    (case_id : String) (req : CaseCosignRequest) : ApiM Unit := do
  require_role user ["manager", "admin"]
  require_case_cosign enabled
  let case ← get_case_or_404 case_id user.org
  match case.pending_override with
  | none => throw (.asoe_error "NO_PENDING_OVERRIDE" ("Case " ++ case_id
      ++ " carries no pending_override; nothing to cosign.") 409)
  | some initiator => do
    require (initiator ≠ user.sub)
      (.asoe_error "SOD_VIOLATION" ("Segregation of duties: the user who initiated the "
        ++ "case-level override cannot cosign their own action.") 403)
    require_notes req.notes "Cosign notes are mandatory (SOX audit requirement)."
    decide_case_override now_iso case_id req.approve case

/-! ## Steps -/

/-- A request on a record or an event, or one on a whole case. -/
inductive CaseOp where
  | service (st : Step)
  | initiate (enabled : Bool) (user : AuthenticatedUser) (case_id : String)
  | cosign (enabled : Bool) (now_iso : String) (user : AuthenticatedUser) (case_id : String)
      (req : CaseCosignRequest)

def handle_case (cfg : Config) : CaseOp → ApiM Unit
  | .service st => do
    let _ ← handle cfg st
    return ()
  | .initiate enabled user case_id => initiate_case_override enabled user case_id
  | .cosign enabled now_iso user case_id req =>
    cosign_case_override enabled now_iso user case_id req

def case_step (cfg : Config) (op : CaseOp) (api : Api) : Api := endState (handle_case cfg op api)

/-! ## What they can do -/

section cosign

variable {api : Api} {user : AuthenticatedUser} {enabled : Bool} {now_iso case_id : String}
  {req : CaseCosignRequest}

theorem wp_get_case_or_404 {tenant : String} {Q : OrderCase → Api → Prop}
    {E : ApiError → Api → Prop}
    (hQ : ∀ case, dict.get api.cases case_id = some case → case.tenant_id = tenant → Q case api)
    (hE : ∀ e, (∀ case, dict.get api.cases case_id = some case → case.tenant_id ≠ tenant) → E e api) :
    wp (get_case_or_404 case_id tenant) Q E api := by
  unfold get_case_or_404
  rw [wp_bind, wp_get]
  rcases hcase : dict.get api.cases case_id with _ | case
  · refine hE _ fun case h => ?_
    cases hcase.symm.trans h
  · dsimp only
    rw [wp_bind, wp_require]
    refine ⟨fun htenant => hQ case hcase htenant, fun hother => hE _ fun case' h => ?_⟩
    cases hcase.symm.trans h
    exact hother

/-- The guards of a cosign, passed by a second user. -/
structure MayDecide (enabled : Bool) (user : AuthenticatedUser) (case_id : String)
    (req : CaseCosignRequest) (api : Api) (case : OrderCase) : Prop where
  role : ∃ role ∈ user.roles, role ∈ ["manager", "admin"]
  enabled : enabled = true
  found : dict.get api.cases case_id = some case
  tenant : case.tenant_id = user.org
  parked : ∃ initiator, case.pending_override = some initiator ∧ initiator ≠ user.sub
  notes : has_notes req.notes = true

/-- The case as a decision leaves it. -/
def decided_case (now_iso : String) (approve : Bool) (case : OrderCase) : OrderCase :=
  if approve then { case with pending_override := none, status := .RESOLVED, closed_at := some now_iso }
  else { case with pending_override := none, status := .OPEN_AGENT_PROCESSING }

/-- A cosign that answers has decided; one that fails has changed nothing,
or it has cleared the override of a case that may not be closed. -/
theorem wp_cosign_case_override :
    wp (cosign_case_override enabled now_iso user case_id req)
      (fun _ api' => ∃ case, MayDecide enabled user case_id req api case ∧
        ¬ (req.approve = true ∧ case.supergroup_code = some SG_NEEDS_TRIAGE) ∧
        api' = put_case case_id (decided_case now_iso req.approve case) api)
      (fun _ api' => (api' = api ∧ ∀ case, ¬ MayDecide enabled user case_id req api case) ∨
        ∃ case, MayDecide enabled user case_id req api case ∧ req.approve = true ∧
          case.supergroup_code = some SG_NEEDS_TRIAGE ∧
          api' = put_case case_id { case with pending_override := none } api) api := by
  unfold cosign_case_override require_role require_case_cosign require_notes
  simp only [wp_bind, wp_require]
  refine ⟨fun hrole => ⟨fun henabled => ?_, fun h => ?_⟩, fun h => ?_⟩
  rotate_left
  · exact Or.inl ⟨trivial, fun case hmay => h hmay.enabled⟩
  · exact Or.inl ⟨trivial, fun case hmay => h hmay.role⟩
  refine wp_get_case_or_404 (fun case hcase htenant => ?_) fun e hno => ?_
  swap
  · exact Or.inl ⟨rfl, fun case hmay => hno case hmay.found hmay.tenant⟩
  have hsame : ∀ case', MayDecide enabled user case_id req api case' → case' = case := by
    intro case' hmay
    cases hcase.symm.trans hmay.found
    rfl
  rcases hpending : case.pending_override with _ | initiator
  · refine Or.inl ⟨rfl, fun case' hmay => ?_⟩
    obtain ⟨initiator, hparked, -⟩ := hmay.parked
    rw [hsame case' hmay, hpending] at hparked
    cases hparked
  simp only [wp_bind, wp_require]
  refine ⟨fun hother => ⟨fun hnotes => ?_, fun h => ?_⟩, fun h => ?_⟩
  rotate_left
  · exact Or.inl ⟨trivial, fun case' hmay => h hmay.notes⟩
  · refine Or.inl ⟨trivial, fun case' hmay => ?_⟩
    obtain ⟨initiator', hparked, hother⟩ := hmay.parked
    rw [hsame case' hmay, hpending] at hparked
    cases hparked
    exact h hother
  have hmay : MayDecide enabled user case_id req api case :=
    ⟨hrole, henabled, hcase, htenant, ⟨initiator, hpending, hother⟩, hnotes⟩
  unfold decide_case_override update_case_status
  simp only [wp_bind, wp_modify, wp_ite, wp_require]
  refine ⟨fun happrove => ⟨fun hfree => ?_, fun hblocked => ?_⟩, fun hreject => ⟨fun _ => ?_, ?_⟩⟩
  · refine ⟨case, hmay, fun h => hfree ⟨trivial, h.2⟩, ?_⟩
    simp [put_case, decided_case, happrove, dict.set_set]
  · obtain ⟨-, htriage⟩ := not_not.mp hblocked
    exact Or.inr ⟨case, hmay, happrove, htriage, rfl⟩
  · refine ⟨case, hmay, fun h => hreject h.1, ?_⟩
    simp [put_case, decided_case, hreject, dict.set_set]
  · simp

end cosign

/-- The other requests leave a parked case as it is. -/
theorem service_keeps_parked {cfg : Config} {st : Step} {api : Api} {case_id : String}
    {case : OrderCase} (hintake : OpensOrFinds st.env st.user.org)
    (hcase : dict.get api.cases case_id = some case) (hparked : case.pending_override.isSome = true) :
    dict.get (step cfg st api).cases case_id = some case := by
  have hrolled : ∀ (api₁ : Api) id incoming cases', dict.get api₁.cases case_id = some case →
      Rolled cfg st.env api₁ st.user.org id incoming cases' → dict.get cases' case_id = some case := by
    intro api₁ id incoming cases' hget h
    cases h with
    | unmoved hkeeps hcases => rw [hcases, hget]
    | moved case' status hcase' hunparked hstatus hother hfree hcases =>
      have hne : case_id ≠ id := by
        rintro rfl
        cases hget.symm.trans hcase'
        simp [hunparked] at hparked
      rw [hcases, dict.get_set_of_ne _ _ hne, hget]
  cases case_step_cases cfg st api hintake with
  | quiet hrecords hopened => exact hopened.kept case_id case hcase
  | wrote id r w hdone hget hanswer hroll hstaged hrecords hcases => rw [hcases, hcase]
  | rolled id r w opened hdone hget hanswer hroll hrecords hopened hcases =>
    have hkept := hopened.kept case_id case hcase
    unfold RolledParent at hcases
    split at hcases
    · rw [hcases]
      exact hkept
    · exact hrolled _ _ _ _ hkept hcases
  | blocked id r w parent hget hanswer hroll hrecords hopened => exact hopened.kept case_id case hcase
  | ingested event explain found trace_id data fin opened hreq hrecords hopened hlookup hfound
      htenant hcases => exact hrolled _ _ _ _ (hopened.kept case_id case hcase) hcases

theorem wp_initiate_case_override {api : Api} {enabled : Bool} {user : AuthenticatedUser}
    {case_id : String} :
    wp (initiate_case_override enabled user case_id)
      (fun _ api' => ∃ case, dict.get api.cases case_id = some case ∧ case.pending_override = none ∧
        api' = put_case case_id
          { case with pending_override := some user.sub, status := .OPEN_AWAITING_HUMAN } api)
      (fun _ api' => api' = api) api := by
  unfold initiate_case_override require_role require_case_cosign
  simp only [wp_bind, wp_require]
  refine ⟨fun _ => ⟨fun _ => ?_, fun _ => trivial⟩, fun _ => trivial⟩
  refine wp_get_case_or_404 (fun case hcase _ => ?_) fun _ _ => rfl
  unfold set_pending_override
  rw [wp_bind, wp_require]
  exact ⟨fun hnone => ⟨case, hcase, hnone, rfl⟩, fun _ => rfl⟩

/-! ## What a pending override guarantees -/

/-- The call was answered. -/
def Accepted (cfg : Config) (op : CaseOp) (api : Api) : Prop :=
  ∃ api', handle_case cfg op api = .ok () api'

/-- The call decides this case. -/
def Cosigns (case_id : String) (user : AuthenticatedUser) (req : CaseCosignRequest) : CaseOp → Prop
  | .cosign _ _ user' case_id' req' => user' = user ∧ case_id' = case_id ∧ req' = req
  | _ => False

/-- What one operation may do to the override and the status of a case. -/
structure Governed (cfg : Config) (op : CaseOp) (api : Api) : Prop where
  /-- Only a second user's cosign takes a pending override away, or moves the
  status of the case. -/
  parked : ∀ case_id case initiator, dict.get api.cases case_id = some case →
    case.pending_override = some initiator →
    (∃ case', dict.get (case_step cfg op api).cases case_id = some case' ∧
      case'.pending_override = some initiator ∧ case'.status = case.status) ∨
    ∃ user req, Cosigns case_id user req op ∧ user.sub ≠ initiator ∧ Accepted cfg op api
  /-- A cosign that is answered closes the case exactly when it approves. -/
  decided : ∀ case_id user req, Cosigns case_id user req op → Accepted cfg op api →
    ∃ case', dict.get (case_step cfg op api).cases case_id = some case' ∧
      case'.pending_override = none ∧
      (case'.status = .RESOLVED ∧ case'.closed_at.isSome = true ↔ req.approve = true)
  /-- A cosign that fails changes neither. -/
  refused : ∀ case_id user req case, Cosigns case_id user req op → ¬ Accepted cfg op api →
    dict.get api.cases case_id = some case →
    ∃ case', dict.get (case_step cfg op api).cases case_id = some case' ∧
      case'.pending_override = case.pending_override ∧ case'.status = case.status

/-- A second user, past all guards, approves a case that needs triage. -/
def ApprovesTriage (op : CaseOp) (api : Api) : Prop :=
  match op with
  | .cosign enabled _ user case_id req => req.approve = true ∧
    ∃ case, MayDecide enabled user case_id req api case ∧
      case.supergroup_code = some SG_NEEDS_TRIAGE
  | _ => False

/-- The event of a service request finds a case of the tenant, or opens one. -/
def Intakes : CaseOp → Prop
  | .service st => OpensOrFinds st.env st.user.org
  | _ => True

section governed

variable {cfg : Config} {api : Api}

theorem case_step_service (st : Step) : case_step cfg (.service st) api = step cfg st api := by
  rw [case_step, handle_case, run_bind, step]
  rcases handle cfg st api with ⟨a, api'⟩ | ⟨e, api'⟩ <;> rfl

theorem governed_service {st : Step} (hintake : OpensOrFinds st.env st.user.org) :
    Governed cfg (.service st) api where
  parked case_id case initiator hcase hparked := by
    refine Or.inl ⟨case, ?_, hparked, rfl⟩
    rw [case_step_service]
    exact service_keeps_parked hintake hcase (by simp [hparked])
  decided case_id user req h := h.elim
  refused case_id user req case h := h.elim

theorem governed_initiate {enabled : Bool} {user : AuthenticatedUser} {id : String} :
    Governed cfg (.initiate enabled user id) api where
  parked case_id case initiator hcase hparked := by
    refine Or.inl ?_
    have hend : endState (initiate_case_override enabled user id api) = api ∨ ∃ case,
        dict.get api.cases id = some case ∧ case.pending_override = none ∧
        endState (initiate_case_override enabled user id api) = put_case id
          { case with pending_override := some user.sub, status := .OPEN_AWAITING_HUMAN } api := by
      refine wp_end (P := fun api' => api' = api ∨ ∃ case,
        dict.get api.cases id = some case ∧ case.pending_override = none ∧ api' = put_case id
          { case with pending_override := some user.sub, status := .OPEN_AWAITING_HUMAN } api) ?_
      exact wp_mono wp_initiate_case_override (fun _ _ h => Or.inr h) fun _ _ h => Or.inl h
    unfold case_step handle_case
    rcases hend with heq | ⟨case', hcase', hnone, heq⟩
    · rw [heq]
      exact ⟨case, hcase, hparked, rfl⟩
    · have hne : case_id ≠ id := by
        rintro rfl
        cases hcase.symm.trans hcase'
        cases hnone.symm.trans hparked
      rw [heq, put_case]
      exact ⟨case, (dict.get_set_of_ne _ _ hne).trans hcase, hparked, rfl⟩
  decided case_id user req h := h.elim
  refused case_id user req case h := h.elim

variable {enabled : Bool} {now_iso : String} {user : AuthenticatedUser} {id : String}
  {req : CaseCosignRequest}

/-- A cosign that decides. -/
theorem governed_of_accepted {api' : Api} {case : OrderCase}
    (hrun : cosign_case_override enabled now_iso user id req api = .ok () api')
    (hmay : MayDecide enabled user id req api case)
    (hend : api' = put_case id (decided_case now_iso req.approve case) api) :
    Governed cfg (.cosign enabled now_iso user id req) api := by
  have hstep : case_step cfg (.cosign enabled now_iso user id req) api = api' := by
    rw [case_step, handle_case, hrun]
    rfl
  have haccepted : Accepted cfg (.cosign enabled now_iso user id req) api := ⟨api', hrun⟩
  refine ⟨fun case_id case' initiator hcase hparked => ?_, fun case_id user' req' h _ => ?_,
    fun case_id user' req' case' h hno => absurd haccepted hno⟩
  · by_cases hid : case_id = id
    · subst hid
      cases hcase.symm.trans hmay.found
      obtain ⟨initiator', hparked', hother⟩ := hmay.parked
      cases hparked.symm.trans hparked'
      exact Or.inr ⟨user, req, ⟨rfl, rfl, rfl⟩, hother.symm, haccepted⟩
    · refine Or.inl ⟨case', ?_, hparked, rfl⟩
      rw [hstep, hend, put_case]
      exact (dict.get_set_of_ne _ _ hid).trans hcase
  · obtain ⟨rfl, rfl, rfl⟩ := h
    refine ⟨decided_case now_iso req.approve case, ?_, ?_, ?_⟩
    · rw [hstep, hend, put_case]
      exact dict.get_set_self _ _ _
    · unfold decided_case
      split <;> rfl
    · unfold decided_case
      by_cases happrove : req.approve = true <;> simp [happrove]

theorem governed_of_refused {e : ApiError}
    (hrun : cosign_case_override enabled now_iso user id req api = .error e api) :
    Governed cfg (.cosign enabled now_iso user id req) api := by
  have hstep : case_step cfg (.cosign enabled now_iso user id req) api = api := by
    rw [case_step, handle_case, hrun]
    rfl
  refine ⟨fun case_id case initiator hcase hparked => ?_, fun case_id user' req' h haccepted => ?_,
    fun case_id user' req' case h _ hcase => ?_⟩
  · rw [hstep]
    exact Or.inl ⟨case, hcase, hparked, rfl⟩
  · obtain ⟨api', hok⟩ := haccepted
    cases hrun.symm.trans hok
  · rw [hstep]
    exact ⟨case, hcase, rfl, rfl⟩

/-- What an operation does is governed, unless a case that needs triage is
approved. -/
theorem governed_iff {op : CaseOp} (hintake : Intakes op) :
    Governed cfg op api ↔ ¬ ApprovesTriage op api := by
  rcases op with st | ⟨enabled, user, id⟩ | ⟨enabled, now_iso, user, id, req⟩
  · exact ⟨fun _ h => h, fun _ => governed_service hintake⟩
  · exact ⟨fun _ h => h, fun _ => governed_initiate⟩
  rcases hrun : cosign_case_override enabled now_iso user id req api with ⟨a, api'⟩ | ⟨e, api'⟩
  · obtain ⟨case, hmay, hfree, hend⟩ := wp_ok wp_cosign_case_override hrun
    refine ⟨fun _ => ?_, fun _ => governed_of_accepted hrun hmay hend⟩
    rintro ⟨happrove, case', hmay', htriage⟩
    cases hmay.found.symm.trans hmay'.found
    exact hfree ⟨happrove, htriage⟩
  · rcases wp_error wp_cosign_case_override hrun with
      ⟨rfl, hnobody⟩ | ⟨case, hmay, happrove, htriage, hend⟩
    · refine ⟨fun _ => ?_, fun _ => governed_of_refused hrun⟩
      rintro ⟨-, case, hmay, -⟩
      exact hnobody case hmay
    · refine ⟨fun hgoverned => ?_, fun hno => absurd ⟨happrove, case, hmay, htriage⟩ hno⟩
      have hfails : ¬ Accepted cfg (.cosign enabled now_iso user id req) api := by
        rintro ⟨api'', hok⟩
        cases hrun.symm.trans hok
      obtain ⟨case', hcase', hkept, -⟩ :=
        hgoverned.refused id user req case ⟨rfl, rfl, rfl⟩ hfails hmay.found
      have hstep : case_step cfg (.cosign enabled now_iso user id req) api = api' := by
        rw [case_step, handle_case, hrun]
        rfl
      rw [hstep, hend, put_case, dict.get_set_self] at hcase'
      cases hcase'
      obtain ⟨initiator, hparked, -⟩ := hmay.parked
      cases hkept.trans hparked

end governed

/-- In a run each operation respects the pending overrides exactly when no
second user approves a case that needs triage: a pending override goes, and
its case moves, by a second user's cosign alone, which closes the case when
it approves, and changes nothing when it fails. -/
theorem overrides_are_decided_by_second_users_exactly_without_triage (cfg : Config) (api : Api)
    (ops : List CaseOp) (hintake : ∀ op ∈ ops, Intakes op) :
    AllSteps (case_step cfg) (Governed cfg) api ops ↔
      AllSteps (case_step cfg) (fun op api => ¬ ApprovesTriage op api) api ops := by
  induction ops generalizing api with
  | nil => exact Iff.rfl
  | cons op ops ih =>
    rw [allSteps_cons, allSteps_cons, governed_iff (hintake op List.mem_cons_self),
      ih _ fun op' hop' => hintake op' (List.mem_cons_of_mem op hop')]

/-- A service with one case of this supergroup, whose child awaits a human. -/
def oneCase (supergroup_code : String) : Api :=
  { cases := [("C1", ⟨"C1", "T1", .OPEN_AWAITING_HUMAN, some supergroup_code, none, none⟩)] }

/-- A first user parks the case, and a second one approves. -/
def parkThenApprove : List CaseOp :=
  [.initiate true (sampleUser "ann") "C1",
    .cosign true "2025-01-02" (sampleUser "bob") "C1" ⟨true, "agreed"⟩]

theorem parkThenApprove_intakes : ∀ op ∈ parkThenApprove, Intakes op := by
  intro op hop
  simp only [parkThenApprove, List.mem_cons, List.not_mem_nil, or_false] at hop
  rcases hop with rfl | rfl <;> trivial

/-- On a case for pricing both operations are governed. -/
theorem an_approved_pricing_case_is_governed :
    AllSteps (case_step sampleConfig) (Governed sampleConfig) (oneCase "SG_BLOCK_PRICING")
      parkThenApprove := by
  refine (overrides_are_decided_by_second_users_exactly_without_triage sampleConfig
    (oneCase "SG_BLOCK_PRICING") parkThenApprove parkThenApprove_intakes).mpr
      ⟨fun h => h, ?_, trivial⟩
  rintro ⟨-, case, hmay, htriage⟩
  have hcase : dict.get (case_step sampleConfig (.initiate true (sampleUser "ann") "C1")
      (oneCase "SG_BLOCK_PRICING")).cases "C1" = some ⟨"C1", "T1", .OPEN_AWAITING_HUMAN,
        some "SG_BLOCK_PRICING", some "ann", none⟩ := by decide +kernel
  cases hmay.found.symm.trans hcase
  revert htriage
  decide

/-- On a case that needs triage the approval fails, and the pending override
is gone. -/
theorem a_failed_approval_clears_the_pending_override :
    ¬ ∀ (cfg : Config) (api : Api) (ops : List CaseOp), (∀ op ∈ ops, Intakes op) →
      AllSteps (case_step cfg) (Governed cfg) api ops := by
  intro h
  obtain ⟨-, hcosign, -⟩ :=
    h sampleConfig (oneCase SG_NEEDS_TRIAGE) parkThenApprove parkThenApprove_intakes
  have hcase : dict.get (case_step sampleConfig (.initiate true (sampleUser "ann") "C1")
      (oneCase SG_NEEDS_TRIAGE)).cases "C1" = some ⟨"C1", "T1", .OPEN_AWAITING_HUMAN,
        some SG_NEEDS_TRIAGE, some "ann", none⟩ := by decide +kernel
  have hfails : wp (handle_case sampleConfig
        (.cosign true "2025-01-02" (sampleUser "bob") "C1" ⟨true, "agreed"⟩))
      (fun _ _ => False) (fun _ api' => dict.get api'.cases "C1" =
        some ⟨"C1", "T1", .OPEN_AWAITING_HUMAN, some SG_NEEDS_TRIAGE, none, none⟩)
      (case_step sampleConfig (.initiate true (sampleUser "ann") "C1") (oneCase SG_NEEDS_TRIAGE)) := by
    decide +kernel
  have hrefused : ¬ Accepted sampleConfig
      (.cosign true "2025-01-02" (sampleUser "bob") "C1" ⟨true, "agreed"⟩)
      (case_step sampleConfig (.initiate true (sampleUser "ann") "C1") (oneCase SG_NEEDS_TRIAGE)) := by
    rintro ⟨_, hok⟩
    exact wp_ok hfails hok
  obtain ⟨case', hcase', hkept, -⟩ := hcosign.refused "C1" (sampleUser "bob") ⟨true, "agreed"⟩ _
    ⟨rfl, rfl, rfl⟩ hrefused hcase
  have hend : dict.get (case_step sampleConfig (.cosign true "2025-01-02" (sampleUser "bob") "C1"
      ⟨true, "agreed"⟩) (case_step sampleConfig (.initiate true (sampleUser "ann") "C1")
        (oneCase SG_NEEDS_TRIAGE))).cases "C1" =
      some ⟨"C1", "T1", .OPEN_AWAITING_HUMAN, some SG_NEEDS_TRIAGE, none, none⟩ := by decide +kernel
  cases hcase'.symm.trans hend
  cases hkept

end asoe
