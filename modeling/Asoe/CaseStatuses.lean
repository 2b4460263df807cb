-- The status of a case and the states of its children. Each roll-up sets
-- the case to the highest status among them; the laws below say which
-- requests keep the two in step without one.
import Asoe.TriageBlocks
import Asoe.Parking
import Asoe.Lib.Ranked

namespace asoe

open py prog runs ranked

/-! ## The highest status -/

/-- The status that a record asks of its case. -/
def ChildCase.asks (r : ChildCase) : CaseStatus := case_status_from_lifecycle r.lifecycle_state

/-- A status of the list that no other one outranks. -/
abbrev HighestStatus (status : CaseStatus) (statuses : List CaseStatus) : Prop :=
  Highest CASE_STATUS_RANK status statuses

theorem max_status_highest {statuses : List CaseStatus} {status : CaseStatus}
    (h : max_status statuses = some status) : HighestStatus status statuses := by
  cases statuses with
  | nil => cases h
  | cons m statuses =>
    simp only [max_status, Option.some.injEq] at h
    rw [← h]
    exact foldl_highest statuses m

theorem max_status_of_mem {statuses : List CaseStatus} {s : CaseStatus} (h : s ∈ statuses) :
    ∃ status, max_status statuses = some status := by
  cases statuses with
  | nil => cases h
  | cons m statuses => exact ⟨_, rfl⟩

theorem asked_of_rank {a b : LifecycleState}
    (h : CASE_STATUS_RANK (case_status_from_lifecycle a) =
      CASE_STATUS_RANK (case_status_from_lifecycle b)) :
    case_status_from_lifecycle a = case_status_from_lifecycle b := by
  cases a <;> cases b <;> first | rfl | cases h

theorem rank_le_three (s : CaseStatus) : CASE_STATUS_RANK s ≤ 3 := by cases s <;> decide

theorem asked_ne_processing (s : LifecycleState) :
    case_status_from_lifecycle s ≠ .OPEN_AGENT_PROCESSING := by cases s <;> decide

theorem highest_awaiting {status : CaseStatus} {statuses : List CaseStatus}
    (h : HighestStatus status statuses) (hasked : ∃ s, status = case_status_from_lifecycle s)
    (hopen : .OPEN_AWAITING_HUMAN ∈ statuses) : status = .OPEN_AWAITING_HUMAN := by
  obtain ⟨s, rfl⟩ := hasked
  have hrank : CASE_STATUS_RANK (case_status_from_lifecycle s) = 3 :=
    le_antisymm (rank_le_three _) (h.2 _ hopen)
  exact asked_of_rank (b := .PENDING_REVIEW) hrank

/-! ## The children of a case -/

def children (records : List (String × ChildCase)) (case_id : String) : List ChildCase :=
  (records.map (·.2)).filter fun r => r.parent_case_id = some case_id

/-- The statuses that the children of a case ask for. -/
def childStatuses (records : List (String × ChildCase)) (case_id : String) : List CaseStatus :=
  (children records case_id).map ChildCase.asks

variable {records : List (String × ChildCase)}

variable {case_id : String} {r : ChildCase}

theorem mem_children : r ∈ children records case_id ↔
      (∃ id, (id, r) ∈ records) ∧ r.parent_case_id = some case_id := by
  simp [children]

theorem mem_childStatuses {s : CaseStatus} : s ∈ childStatuses records case_id ↔
      ∃ id r, (id, r) ∈ records ∧ r.parent_case_id = some case_id ∧ r.asks = s := by
  simp only [childStatuses, List.mem_map, mem_children]
  constructor
  · rintro ⟨r, ⟨⟨id, hmem⟩, hparent⟩, hs⟩
    exact ⟨id, r, hmem, hparent, hs⟩
  · rintro ⟨id, r, hmem, hparent, hs⟩
    exact ⟨r, ⟨⟨id, hmem⟩, hparent⟩, hs⟩

theorem children_append (pre post : List (String × ChildCase)) (case_id : String) :
    children (pre ++ post) case_id = children pre case_id ++ children post case_id := by
  simp [children]

theorem children_cons (id : String) (r : ChildCase) (records : List (String × ChildCase))
    (case_id : String) : children ((id, r) :: records) case_id =
      (if r.parent_case_id = some case_id then [r] else []) ++ children records case_id := by
  unfold children
  rw [List.map_cons, List.filter_cons]
  by_cases h : r.parent_case_id = some case_id <;> simp [h]

theorem childStatuses_set {id : String} {r' : ChildCase}
    (hget : dict.get records id = some r) (hparent : r'.parent_case_id = r.parent_case_id) :
    (∀ case_id, r.parent_case_id ≠ some case_id →
      children (dict.set records id r') case_id = children records case_id) ∧
    (r'.asks = r.asks → ∀ case_id,
      childStatuses (dict.set records id r') case_id = childStatuses records case_id) := by
  obtain ⟨pre, post, hrecords, hset⟩ := dict.split_of_get hget
  rw [hset, hrecords]
  refine ⟨fun case_id hother => ?_, fun hasks case_id => ?_⟩
  · simp only [children_append, children_cons, hparent, if_neg hother]
  · simp only [childStatuses, children_append, children_cons, hparent]
    by_cases h : r.parent_case_id = some case_id <;> simp [h, hasks]

theorem childStatuses_set_of_none {id : String}
    (hnone : dict.get records id = none) (case_id : String) :
    childStatuses (dict.set records id r) case_id = childStatuses records case_id ++
      if r.parent_case_id = some case_id then [r.asks] else [] := by
  rw [dict.set_of_none _ hnone]
  simp only [childStatuses, children_append, children_cons]
  by_cases h : r.parent_case_id = some case_id <;> simp [h, children]

theorem children_ne_nil_iff :
    children records case_id ≠ [] ↔ childStatuses records case_id ≠ [] := by
  simp [childStatuses]

/-! ## What a roll-up sees -/

section seen

variable {cfg : Config} {env : StepEnv} {api : Api} {tenant case_id : String}
  {incoming : List LifecycleState}

theorem mem_children_of_listed {r : ChildCase} (h : r ∈ list_by_case cfg api tenant case_id) :
    r ∈ children api.records case_id := by
  unfold list_by_case at h
  unfold children
  dsimp only at h
  split at h
  · simp only [List.mem_filter] at h ⊢
    exact ⟨h.1.1, h.2⟩
  · rw [List.mem_filter] at h ⊢
    have hmem := List.mem_of_mem_take h.1
    rw [List.mem_reverse, List.mem_filter] at hmem
    exact ⟨hmem.1, h.2⟩

/-- The roll-up looks at a child, or at the one that comes in, that no child
outranks. -/
def Seen (cfg : Config) (api : Api) (tenant case_id : String) (incoming : List LifecycleState) :
    Prop :=
  ∀ r ∈ children api.records case_id,
    ∃ s ∈ (list_by_case cfg api tenant case_id).map (·.lifecycle_state) ++ incoming,
      CASE_STATUS_RANK r.asks ≤ CASE_STATUS_RANK (case_status_from_lifecycle s)

theorem Seen.congr {api' : Api} (h : Seen cfg api tenant case_id incoming)
    (hrecords : api'.records = api.records) : Seen cfg api' tenant case_id incoming := by
  unfold Seen list_by_case at h ⊢
  rwa [hrecords]

theorem seen_of_memory (hstore : cfg.store = .memory)
    (htenant : ∀ r ∈ children api.records case_id, r.tenant_id = tenant) :
    Seen cfg api tenant case_id incoming := by
  intro r hr
  refine ⟨r.lifecycle_state, List.mem_append_left _ (List.mem_map.mpr ⟨r, ?_, rfl⟩), Nat.le_refl _⟩
  have ht := htenant r hr
  unfold children at hr
  unfold list_by_case
  rw [hstore]
  simp only [List.mem_filter] at hr ⊢
  exact ⟨⟨hr.1, decide_eq_true ht⟩, hr.2⟩

theorem rolled_up_status_highest (hseen : Seen cfg api tenant case_id incoming)
    (hsome : childStatuses api.records case_id ++ incoming.map case_status_from_lifecycle ≠ []) :
    ∃ status, rolled_up_status cfg api tenant case_id incoming = some status ∧
      HighestStatus status
        (childStatuses api.records case_id ++ incoming.map case_status_from_lifecycle) := by
  -- Whatever a child or the incoming record asks for is outranked by what is seen.
  have hlooked : ∀ y ∈
      childStatuses api.records case_id ++ incoming.map case_status_from_lifecycle,
      ∃ x ∈ ((list_by_case cfg api tenant case_id).map (·.lifecycle_state) ++ incoming).map
        case_status_from_lifecycle, CASE_STATUS_RANK y ≤ CASE_STATUS_RANK x := by
    intro y hy
    rcases List.mem_append.mp hy with hy | hy
    · obtain ⟨r, hr, rfl⟩ := List.mem_map.mp hy
      obtain ⟨s, hs, hle⟩ := hseen r hr
      exact ⟨_, List.mem_map_of_mem hs, hle⟩
    · obtain ⟨s, hs, rfl⟩ := List.mem_map.mp hy
      exact ⟨_, List.mem_map_of_mem (List.mem_append_right _ hs), Nat.le_refl _⟩
  obtain ⟨y, hy⟩ := List.exists_mem_of_ne_nil _ hsome
  obtain ⟨x, hx, -⟩ := hlooked y hy
  obtain ⟨status, hstatus⟩ := max_status_of_mem hx
  refine ⟨status, hstatus, (max_status_highest hstatus).mono (fun x hx => ?_) hlooked⟩
  obtain ⟨s, hs, rfl⟩ := List.mem_map.mp hx
  rcases List.mem_append.mp hs with hs | hs
  · obtain ⟨r, hr, rfl⟩ := List.mem_map.mp hs
    exact List.mem_append_left _ (List.mem_map.mpr ⟨r, mem_children_of_listed hr, rfl⟩)
  · exact List.mem_append_right _ (List.mem_map_of_mem hs)

end seen

/-! ## The rules of the cases -/

/-- The case is closed when its status is, or it was just opened. -/
def Tidy (case : OrderCase) : Prop :=
  case.status = .OPEN_AGENT_PROCESSING ∨
    (case.closed_at.isSome = true ↔ case.status ∈ TERMINAL_CASE_STATUSES)

/-- What holds of the records and the cases between two requests. -/
structure CaseRules (records : List (String × ChildCase)) (cases : List (String × OrderCase)) :
    Prop where
  linked : ∀ id r, (id, r) ∈ records → ∀ case_id, r.parent_case_id = some case_id →
    case_id ≠ "" ∧ ∃ case, dict.get cases case_id = some case ∧ case.tenant_id = r.tenant_id
  parked : ∀ case_id case, dict.get cases case_id = some case →
    case.pending_override.isSome = true → case.status = .OPEN_AWAITING_HUMAN
  tidy : ∀ case_id case, dict.get cases case_id = some case → case.pending_override = none →
    Tidy case
  highest : ∀ case_id case, dict.get cases case_id = some case → case.pending_override = none →
    children records case_id ≠ [] → HighestStatus case.status (childStatuses records case_id)

/-- The case has the highest status of its children, and it is closed
exactly when that status is a closed one. -/
structure InStep (records : List (String × ChildCase)) (case_id : String) (case : OrderCase) :
    Prop where
  status : HighestStatus case.status ((children records case_id).map ChildCase.asks)
  closed : case.closed_at.isSome = true ↔ case.status ∈ TERMINAL_CASE_STATUSES

/-- Each case that does not wait for a cosign and has a child is in step. -/
def CasesInStep (api : Api) : Prop :=
  ∀ case_id case, dict.get api.cases case_id = some case → case.pending_override = none →
    children api.records case_id ≠ [] → InStep api.records case_id case

theorem lifecycle_of_highest
    {status : CaseStatus} (h : HighestStatus status (childStatuses records case_id)) :
    ∃ s, status = case_status_from_lifecycle s := by
  obtain ⟨r, -, hr⟩ := List.mem_map.mp h.1
  exact ⟨r.lifecycle_state, hr.symm⟩

theorem CaseRules.in_step {api : Api} (h : CaseRules api.records api.cases) : CasesInStep api := by
  intro case_id case hcase hunparked hchild
  have hhighest := h.highest case_id case hcase hunparked hchild
  refine ⟨hhighest, ?_⟩
  rcases h.tidy case_id case hcase hunparked with hnew | hclosed
  · obtain ⟨s, hs⟩ := lifecycle_of_highest hhighest
    exact absurd (hs.symm.trans hnew) (asked_ne_processing s)
  · exact hclosed

section rules

variable {cfg : Config} {env : StepEnv} {tenant : String}
  {records records' : List (String × ChildCase)} {cases cases' : List (String × OrderCase)}

/-- A case that was just opened has no children. -/
theorem CaseRules.opened (h : CaseRules records cases) (hopened : CasesOpened tenant cases cases') :
    CaseRules records cases' := by
  refine ⟨fun id r hr c hc => ?_, fun c case hcase hparked => ?_, fun c case hcase hunparked => ?_,
    fun c case hcase hunparked hchild => ?_⟩
  · obtain ⟨hne, case, hcase, htenant⟩ := h.linked id r hr c hc
    exact ⟨hne, case, hopened.kept c case hcase, htenant⟩
  · rcases hopened.fresh c case hcase with hold | ⟨-, -, hnone, -⟩
    · exact h.parked c case hold hparked
    · rw [hnone] at hparked
      cases hparked
  · rcases hopened.fresh c case hcase with hold | ⟨-, hnew, -⟩
    · exact h.tidy c case hold hunparked
    · exact Or.inl hnew
  · rcases hopened.fresh c case hcase with hold | ⟨hnone, -⟩
    · exact h.highest c case hold hunparked hchild
    · obtain ⟨r, hr⟩ := List.exists_mem_of_ne_nil _ hchild
      obtain ⟨⟨id, hmem⟩, hparent⟩ := mem_children.mp hr
      obtain ⟨-, case', hcase', -⟩ := h.linked id r hmem c hparent
      cases hnone.symm.trans hcase'

/-- The cases after a roll-up. -/
theorem rolled_cases {api : Api} {case_id : String} {incoming : List LifecycleState}
    (h : Rolled cfg env api tenant case_id incoming cases') :
    (∀ c, c ≠ case_id → dict.get cases' c = dict.get api.cases c) ∧
    ∀ case, dict.get api.cases case_id = some case → ∃ case', dict.get cases' case_id = some case' ∧
      case'.tenant_id = case.tenant_id ∧ case'.pending_override = case.pending_override ∧
      (case.pending_override.isSome = true → case'.status = case.status) ∧
      (case.pending_override = none → Tidy case → ∀ status,
        rolled_up_status cfg api tenant case_id incoming = some status →
        case'.status = status ∧ Tidy case') := by
  cases h with
  | unmoved hkeeps hcases =>
    refine ⟨fun c _ => by rw [hcases], fun case hcase => ?_⟩
    refine ⟨case, by rw [hcases, hcase], rfl, rfl, fun _ => rfl,
      fun hunparked htidy status hroll => ?_⟩
    exact ⟨(hkeeps case hcase hunparked status hroll).symm, htidy⟩
  | moved case status hcase hunparked hstatus hother hfree hcases =>
    refine ⟨fun c hne => by rw [hcases, dict.get_set_of_ne _ _ hne], fun case' hcase' => ?_⟩
    cases hcase.symm.trans hcase'
    refine ⟨{ case with status := status, closed_at := closed_after env case status },
      by rw [hcases, dict.get_set_self], rfl, rfl, fun hparked => ?_, fun _ _ status' hroll => ?_⟩
    · rw [hunparked] at hparked
      cases hparked
    · cases hstatus.symm.trans hroll
      refine ⟨rfl, Or.inr ?_⟩
      show (closed_after env case status).isSome = true ↔ status ∈ TERMINAL_CASE_STATUSES
      unfold closed_after
      by_cases hterminal : status ∈ TERMINAL_CASE_STATUSES <;> simp [hterminal]

/-- A roll-up puts its case in step with the records as they are now. -/
theorem CaseRules.rolled {api : Api} {case_id : String} {incoming : List LifecycleState}
    (h : CaseRules records cases) (hcases : api.cases = cases)
    (hlinked : ∀ id r, (id, r) ∈ records' → ∀ c, r.parent_case_id = some c →
      c ≠ "" ∧ ∃ case, dict.get cases c = some case ∧ case.tenant_id = r.tenant_id)
    (hothers : ∀ c, c ≠ case_id → childStatuses records' c = childStatuses records c)
    (hstatus : ∀ case, dict.get cases case_id = some case → case.pending_override = none →
      ∃ status, rolled_up_status cfg api tenant case_id incoming = some status ∧
        HighestStatus status (childStatuses records' case_id))
    (hrolled : Rolled cfg env api tenant case_id incoming cases') : CaseRules records' cases' := by
  subst hcases
  obtain ⟨hsame, hmoved⟩ := rolled_cases hrolled
  -- The case after the roll-up comes from the one before it.
  have hback : ∀ c case', dict.get cases' c = some case' →
      ∃ case, dict.get api.cases c = some case := by
    intro c case' hcase'
    by_cases hc : c = case_id
    · subst hc
      cases hrolled with
      | unmoved hkeeps heq => exact ⟨case', heq ▸ hcase'⟩
      | moved case status hcase => exact ⟨case, hcase⟩
    · exact ⟨case', (hsame c hc).symm.trans hcase'⟩
  refine ⟨fun id r hr c hc => ?_, fun c case' hcase' hparked => ?_,
    fun c case' hcase' hunparked => ?_, fun c case' hcase' hunparked hchild => ?_⟩
  · obtain ⟨hne, case, hcase, htenant⟩ := hlinked id r hr c hc
    refine ⟨hne, ?_⟩
    by_cases hc' : c = case_id
    · subst hc'
      obtain ⟨case', hcase', htenant', -⟩ := hmoved case hcase
      exact ⟨case', hcase', htenant'.trans htenant⟩
    · exact ⟨case, (hsame c hc').trans hcase, htenant⟩
  all_goals
    obtain ⟨case, hcase⟩ := hback c case' hcase'
    by_cases hc : c = case_id
  · subst hc
    obtain ⟨case'', hcase'', -, hpending, hkept, -⟩ := hmoved case hcase
    cases hcase'.symm.trans hcase''
    rw [hpending] at hparked
    exact (hkept hparked).trans (h.parked c case hcase hparked)
  · exact h.parked c case' ((hsame c hc).symm.trans hcase') hparked
  · subst hc
    obtain ⟨case'', hcase'', -, hpending, -, hnow⟩ := hmoved case hcase
    cases hcase'.symm.trans hcase''
    rw [hpending] at hunparked
    obtain ⟨status, hroll, -⟩ := hstatus case hcase hunparked
    exact (hnow hunparked (h.tidy c case hcase hunparked) status hroll).2
  · exact h.tidy c case' ((hsame c hc).symm.trans hcase') hunparked
  · subst hc
    obtain ⟨case'', hcase'', -, hpending, -, hnow⟩ := hmoved case hcase
    cases hcase'.symm.trans hcase''
    rw [hpending] at hunparked
    obtain ⟨status, hroll, hhighest⟩ := hstatus case hcase hunparked
    rw [(hnow hunparked (h.tidy c case hcase hunparked) status hroll).1]
    exact hhighest
  · rw [hothers c hc]
    rw [children_ne_nil_iff, hothers c hc, ← children_ne_nil_iff] at hchild
    exact h.highest c case' ((hsame c hc).symm.trans hcase') hunparked hchild

end rules

/-! ## Requests without a roll-up -/

section unrolled

variable {cfg : Config} (env : StepEnv) (user : AuthenticatedUser) (id : String) (r : ChildCase)
  (ext : External)

/-- The graph run of the submit ends with the status SUCCESS. -/
def SubmitSucceeds (corrections : Option PyDict) : Prop :=
  ∃ result ext', SubmitEnd env user id r ext corrections (.ok result) ext' ∧
    output_of result "status" = .str "SUCCESS"

/-- The requests that move a record between settled and awaiting a human,
and do not roll its case up: a submit that succeeds, directly or by a cosign,
and an override that is staged on a record that was settled. -/
def MovesUnrolled : Request → Prop
  | .disposition _ _ req =>
    req.action = "SUBMIT_TO_ERP" ∧ needs_second_reviewer r = false ∧
        SubmitSucceeds env user id r ext req.corrections ∨
      (req.action ∉ ["SUBMIT_TO_ERP", "DRAFT_REPLY", "SEND_REPLY"] ∧
        sub_type_of r req.action = .OVERRIDE ∧ needs_second_reviewer r = true ∧
        r.lifecycle_state ∈ [.RESOLVED, .BLOCKED])
  | .cosign _ _ req =>
    req.approve = true ∧ ∃ pending, r.resolution_data.pending_override = some pending ∧
      pending.action = "SUBMIT_TO_ERP" ∧ SubmitSucceeds env user id r ext pending.corrections
  | _ => False

variable {env user id r ext}

theorem asks_parked {pending : PendingOverride} :
    (stamped env (parked_record pending r)).asks = .OPEN_AWAITING_HUMAN := rfl

theorem asks_submitted {result : GraphState} {submitter notes : String}
    {cosign : Option CosignMeta} {ext' : External}
    (hmoves : (submitWrite cfg env user id r result submitter notes cosign ext').record.asks ≠
      r.asks) : output_of result "status" = .str "SUCCESS" := by
  by_contra hfailed
  refine hmoves ?_
  unfold submitWrite submitted_record
  dsimp only
  rw [if_neg (by exact hfailed)]
  rfl

theorem moves_unrolled {ledger : Ledger} {req : Request} {w : Write}
    (h : Answered cfg env user id r ext ledger req w) (hroll : rolls_up r req = false)
    (hstaged : stages_override r req = true → w.record.lifecycle_state = .PENDING_COSIGN)
    (hmoves : w.record.asks ≠ r.asks) : MovesUnrolled env user id r ext req := by
  have hawaits : r.lifecycle_state ∈ HITL_DISPOSITION_STATES → r.asks = .OPEN_AWAITING_HUMAN := by
    intro h
    simp only [HITL_DISPOSITION_STATES, List.mem_cons, List.not_mem_nil, or_false] at h
    unfold ChildCase.asks
    rcases h with h | h | h <;> rw [h] <;> rfl
  cases h with
  | submit_staged key req m haction hstate => exact absurd (hawaits hstate).symm hmoves
  | submitted key req m result ext' haction hstate hm hlow hrun =>
    refine Or.inl ⟨haction, ?_, result, ext', hrun, asks_submitted hmoves⟩
    rw [needs_second_reviewer, hm]
    exact hlow
  | drafted | deduped | sent => exact absurd rfl hmoves
  | override_staged key req m haction hsend hstate hsub hm hhigh =>
    refine Or.inr ⟨by simp [haction, hsend], hsub, ?_, ?_⟩
    · rw [needs_second_reviewer, hm]
      exact hhigh
    · have hother : r.asks ≠ .OPEN_AWAITING_HUMAN := fun h => hmoves (asks_parked.trans h.symm)
      unfold ChildCase.asks at hother
      simp only [HITL_OVERRIDE_STATES, List.mem_cons, List.not_mem_nil, or_false] at hstate
      rcases hstate with h | h | h | h | h
      all_goals rw [h] at hother ⊢
      · exact absurd rfl hother
      · exact absurd rfl hother
      · decide
      · decide
      · exact absurd rfl hother
  | disposed key req haction hsend =>
    have hstages : stages_override r (.disposition id key req) = true := by
      simp only [rolls_up, stages_override] at hroll ⊢
      simp_all
    have hparked := hstaged hstages
    simp only [stamped, disposed_record, SubType.lifecycle] at hparked
    split at hparked <;> cases hparked
  | cosign_submitted key req pending result ext' happrove haction hstate hpending hother hrun =>
    exact ⟨happrove, pending, hpending, haction, result, ext', hrun, asks_submitted hmoves⟩
  | cosigned key req pending happrove haction hstate hpending =>
    simp [rolls_up, hpending, haction] at hroll
  | cosign_rejected key req pending happrove => simp [rolls_up, happrove] at hroll
  | escalated | reanalyzed | challenged | released => cases hroll

end unrolled

/-! ## Steps that keep the cases in step -/

/-- No other child of the case awaits a human. -/
def LastAwaiting (api : Api) (id case_id : String) : Prop :=
  ∀ id' r, (id', r) ∈ api.records → id' ≠ id → r.parent_case_id = some case_id →
    r.asks ≠ .OPEN_AWAITING_HUMAN

/-- A case of the id that does not wait for a cosign. -/
def Unparked (api : Api) (case_id : String) : Prop :=
  ∃ case, dict.get api.cases case_id = some case ∧ case.pending_override = none

/-- What a service request must not do for the cases to stay in step. -/
structure FollowsService (cfg : Config) (st : Step) (api : Api) : Prop where
  /-- A completed request that skips the roll-up does not take the last child
  that awaits a human away, nor does it bring the first one. -/
  unrolled : (∃ a api', handle cfg st api = .ok a api') → ∀ id r case_id,
    st.request.exception_id = some id → get_record api id st.user.org = some r →
    MovesUnrolled st.env st.user id r api.external st.request →
    r.parent_case_id = some case_id → Unparked api case_id → ¬ LastAwaiting api id case_id
  /-- No roll-up is refused. -/
  unblocked : ∀ e api', handle cfg st api = .error e api' → e.is_close_block = false
  /-- On the database, the newest records of the tenant include a child that
  no other one outranks, with the record as the request leaves it. -/
  seen : cfg.store = .database → (∃ a api', handle cfg st api = .ok a api') →
    ∀ id r w case_id, get_record api id st.user.org = some r →
    Answered cfg st.env st.user id r api.external api.delivery_dedup st.request w →
    rolls_up r st.request = true → r.parent_case_id = some case_id → Unparked api case_id →
    Seen cfg { api with records := dict.set api.records id w.record } st.user.org case_id []
  /-- The same with the record of a new event. -/
  seen_incoming : cfg.store = .database → ∀ record case_id,
    dict.get (step cfg st api).records st.env.new_id = some record →
    record.parent_case_id = some case_id → Unparked api case_id →
    Seen cfg api st.user.org case_id [record.lifecycle_state]

/-- What the decision over a parked case must find. -/
def DecidesInStep (enabled : Bool) (user : AuthenticatedUser) (case_id : String)
    (req : CaseCosignRequest) (api : Api) : Prop :=
  ∀ case, MayDecide enabled user case_id req api case →
    if req.approve = true then
      if case.supergroup_code = some SG_NEEDS_TRIAGE then
        case.closed_at = none ∧ (children api.records case_id = [] ∨
          .OPEN_AWAITING_HUMAN ∈ childStatuses api.records case_id)
      else ∀ s ∈ childStatuses api.records case_id, s = .RESOLVED
    else children api.records case_id = []

def FollowsUp (cfg : Config) (op : CaseOp) (api : Api) : Prop :=
  match op with
  | .service st => FollowsService cfg st api
  | .initiate .. => True
  | .cosign enabled _ user case_id req => DecidesInStep enabled user case_id req api

/-- The case store finds the case of an event or opens one, and new ids are
new. -/
def Materialises (op : CaseOp) (api : Api) : Prop :=
  match op with
  | .service st => OpensOrFinds st.env st.user.org ∧ FreshId st api ∧
    ∀ event cases, returns (st.env.lookup_or_create event cases) fun found => found.2.case_id ≠ ""
  | _ => True

section step

variable {cfg : Config} {api : Api}

variable {cases : List (String × OrderCase)}

variable {case_id : String}

theorem seen_of_linked {tenant : String} {case : OrderCase} {incoming : List LifecycleState}
    (hlinked : ∀ id r, (id, r) ∈ api.records → ∀ c, r.parent_case_id = some c →
      c ≠ "" ∧ ∃ case, dict.get cases c = some case ∧ case.tenant_id = r.tenant_id)
    (hcase : dict.get cases case_id = some case) (htenant : case.tenant_id = tenant)
    (hdatabase : cfg.store = .database → Seen cfg api tenant case_id incoming) :
    Seen cfg api tenant case_id incoming := by
  rcases hstore : cfg.store with _ | _
  · refine seen_of_memory hstore fun r hr => ?_
    obtain ⟨⟨id, hmem⟩, hparent⟩ := mem_children.mp hr
    obtain ⟨-, case', hcase', hsame⟩ := hlinked id r hmem case_id hparent
    cases hcase.symm.trans hcase'
    exact hsame.symm.trans htenant
  · exact hdatabase hstore

variable {records : List (String × ChildCase)}

variable {id : String} {r : ChildCase}

theorem CaseRules.linked_set {r' : ChildCase}
    (h : CaseRules records cases) (hget : dict.get records id = some r)
    (hparent : r'.parent_case_id = r.parent_case_id) (htenant : r'.tenant_id = r.tenant_id) :
    ∀ id' x, (id', x) ∈ dict.set records id r' → ∀ c, x.parent_case_id = some c →
      c ≠ "" ∧ ∃ case, dict.get cases c = some case ∧ case.tenant_id = x.tenant_id := by
  intro id' x hx c hc
  rcases dict.mem_set hx with heq | hold
  · cases heq
    rw [htenant]
    exact h.linked id r (dict.mem_of_get hget) c (hparent ▸ hc)
  · exact h.linked id' x hold c hc

/-- A write without a roll-up. -/
theorem CaseRules.wrote {r' : ChildCase} (h : CaseRules records cases)
    (hget : dict.get records id = some r) (hparent : r'.parent_case_id = r.parent_case_id)
    (htenant : r'.tenant_id = r.tenant_id)
    (hmoves : r'.asks ≠ r.asks → ∀ c case, r.parent_case_id = some c →
      dict.get cases c = some case → case.pending_override = none →
      ∃ id' x, (id', x) ∈ records ∧ id' ≠ id ∧ x.parent_case_id = some c ∧
        x.asks = .OPEN_AWAITING_HUMAN) : CaseRules (dict.set records id r') cases := by
  obtain ⟨hothers, hsame⟩ := childStatuses_set hget hparent
  refine ⟨h.linked_set hget hparent htenant, h.parked, h.tidy,
    fun c case hcase hunparked hchild => ?_⟩
  by_cases hc : r.parent_case_id = some c
  swap
  · rw [childStatuses, hothers c hc]
    exact h.highest c case hcase hunparked (hothers c hc ▸ hchild)
  have hhighest := h.highest c case hcase hunparked
    (List.ne_nil_of_mem (mem_children.mpr ⟨⟨id, dict.mem_of_get hget⟩, hc⟩))
  by_cases hasks : r'.asks = r.asks
  · rw [hsame hasks c]
    exact hhighest
  · obtain ⟨id', x, hmem, hne, hxc, hx⟩ := hmoves hasks c case hc hcase hunparked
    have hopen := highest_awaiting hhighest (lifecycle_of_highest hhighest)
      (mem_childStatuses.mpr ⟨id', x, hmem, hxc, hx⟩)
    refine ⟨?_, fun s _ => ?_⟩
    · rw [hopen]
      exact mem_childStatuses.mpr ⟨id', x, dict.mem_set_of_ne hmem hne, hxc, hx⟩
    · rw [hopen]
      exact rank_le_three s

variable {user : AuthenticatedUser}

theorem answered_id {env : StepEnv} {ext : External} {ledger : Ledger} {req : Request} {w : Write}
    (h : Answered cfg env user id r ext ledger req w) : req.exception_id = some id := by
  cases h <;> rfl

theorem completes_of_failure {st : Step} (h : failure_of (handle cfg st api) = none) :
    ∃ a api', handle cfg st api = .ok a api' := by
  rcases hend : handle cfg st api with ⟨a, api'⟩ | ⟨e, api'⟩
  · exact ⟨a, api', rfl⟩
  · rw [hend] at h
    cases h

/-- A service request that follows up keeps the rules of the cases. -/
theorem caseRules_service {st : Step} (h : CaseRules api.records api.cases)
    (hnew : Materialises (.service st) api) (hfollows : FollowsService cfg st api) :
    CaseRules (step cfg st api).records (step cfg st api).cases := by
  obtain ⟨hintake, hfresh, hids⟩ := hnew
  have hstep := case_step_cases cfg st api hintake
  generalize hend : step cfg st api = api' at hstep
  cases hstep with
  | quiet hrecords hopened =>
    rw [hrecords]
    exact h.opened hopened
  | wrote id r w hdone hget hanswer hroll hstaged hrecords hcases =>
    have hold := (get_record_some hget).1
    rw [hrecords, hcases]
    refine h.wrote hold (answered_parent hanswer) (answered_tenant hanswer)
      fun hmoves c case hc hcase hunparked => ?_
    have hlast := hfollows.unrolled (completes_of_failure hdone) id r c (answered_id hanswer) hget
      (moves_unrolled hanswer hroll hstaged hmoves) hc ⟨case, hcase, hunparked⟩
    unfold LastAwaiting at hlast
    push Not at hlast
    obtain ⟨id', x, hmem, hne, hparent, hopen⟩ := hlast
    exact ⟨id', x, hmem, hne, hparent, hopen⟩
  | rolled id r w opened hdone hget hanswer hroll hrecords hopened hcases =>
    have hold := (get_record_some hget).1
    have hrules := h.opened hopened
    have hlinked := hrules.linked_set hold (answered_parent hanswer) (answered_tenant hanswer)
    obtain ⟨hothers, -⟩ := childStatuses_set hold (answered_parent hanswer)
    rw [← hrecords] at hlinked hothers
    unfold RolledParent at hcases
    rcases hparent : r.parent_case_id with _ | c
    · -- A record without a case leaves all cases as they are.
      have hnone : r.parent = none := by simp [ChildCase.parent, hparent]
      rw [hnone] at hcases
      rw [hcases, hrecords]
      refine hrules.wrote hold (answered_parent hanswer) (answered_tenant hanswer)
        fun _ c case hc => ?_
      rw [hparent] at hc
      cases hc
    · obtain ⟨hne, case, hcase, htenant⟩ := h.linked id r (dict.mem_of_get hold) c hparent
      have hsome : r.parent = some c := by simp [ChildCase.parent, hparent, hne]
      rw [hsome] at hcases
      refine hrules.rolled rfl hlinked (fun c' hc' => ?_) (fun case' hcase' hunparked => ?_) hcases
      · rw [childStatuses, hothers c' (by simpa [hparent] using Ne.symm hc'), childStatuses]
      · cases (hopened.kept c case hcase).symm.trans hcase'
        have hseen : Seen cfg { api' with cases := opened } st.user.org c [] := by
          have htenant := htenant.trans (get_record_some hget).2
          refine seen_of_linked hlinked hcase' htenant fun hdb => ?_
          exact (hfollows.seen hdb (completes_of_failure hdone) id r w c hget hanswer hroll hparent
            ⟨case, hcase, hunparked⟩).congr hrecords
        have hchild : w.record.asks ∈ childStatuses api'.records c := by
          rw [hrecords, mem_childStatuses]
          exact ⟨id, w.record, dict.mem_of_get (dict.get_set_self _ _ _),
            (answered_parent hanswer).trans hparent, rfl⟩
        obtain ⟨status, hstatus, hhighest⟩ := rolled_up_status_highest hseen
          (List.append_ne_nil_of_left_ne_nil (List.ne_nil_of_mem hchild) _)
        exact ⟨status, hstatus, by simpa using hhighest⟩
  | blocked id r w case_id hget hanswer hroll hrecords hopened hparent hfailure hblocked =>
    rcases hrun : handle cfg st api with ⟨a, api₁⟩ | ⟨e, api₁⟩
    · rw [hrun] at hfailure
      cases hfailure
    · rw [hrun] at hfailure
      cases hfailure
      cases hfollows.unblocked _ _ hrun
  | ingested event explain case trace_id data fin opened hreq hrecords hopened hlookup hcase
      htenant hcases =>
    have hrules := h.opened hopened
    have hnone := hfresh event explain hreq
    obtain ⟨event', cases', hfound⟩ := hlookup
    have hne : case.case_id ≠ "" := hids event' cases' _ hfound
    rw [hrecords]
    refine hrules.rolled rfl (fun id x hx c hc => ?_) (fun c hc => ?_)
      (fun case' hcase' hunparked => ?_) hcases
    · rcases dict.mem_set hx with heq | hold
      · cases heq
        cases hc
        exact ⟨hne, case, hcase, htenant⟩
      · exact hrules.linked id x hold c hc
    · rw [childStatuses_set_of_none hnone, if_neg, List.append_nil]
      exact fun heq => hc (Option.some.inj heq).symm
    · cases hcase.symm.trans hcase'
      have hseen : Seen cfg { api with cases := opened } st.user.org case.case_id
          [resolve_lifecycle fin.final_status] := by
        refine seen_of_linked hrules.linked hcase htenant fun hdb => ?_
        rcases hopened.fresh _ _ hcase with hold | ⟨hunknown, -⟩
        · have hrecord : dict.get (step cfg st api).records st.env.new_id =
              some (record_of st.env st.user.org trace_id case data fin) := by
            rw [hend, hrecords]
            exact dict.get_set_self _ _ _
          exact (hfollows.seen_incoming hdb _ _ hrecord rfl ⟨case, hold, hunparked⟩).congr rfl
        · -- A case that was just opened has no children to look at.
          intro x hx
          obtain ⟨⟨id, hmem⟩, hparent⟩ := mem_children.mp hx
          obtain ⟨-, case', hcase', -⟩ := h.linked id x hmem _ hparent
          cases hunknown.symm.trans hcase'
      obtain ⟨status, hstatus, hhighest⟩ := rolled_up_status_highest hseen (by simp)
      refine ⟨status, hstatus, ?_⟩
      have hparent : (record_of st.env st.user.org trace_id case data fin).parent_case_id =
          some case.case_id := rfl
      rw [childStatuses_set_of_none hnone, if_pos hparent]
      exact hhighest

/-- Another case under the same id. -/
theorem CaseRules.put_case {case case' : OrderCase}
    (h : CaseRules records cases) (hcase : dict.get cases case_id = some case)
    (htenant : case'.tenant_id = case.tenant_id)
    (hparked : case'.pending_override.isSome = true → case'.status = .OPEN_AWAITING_HUMAN)
    (htidy : case'.pending_override = none → Tidy case')
    (hhighest : case'.pending_override = none → children records case_id ≠ [] →
      HighestStatus case'.status (childStatuses records case_id)) :
    CaseRules records (dict.set cases case_id case') := by
  have hfound : ∀ c x, dict.get (dict.set cases case_id case') c = some x →
      c = case_id ∧ x = case' ∨ dict.get cases c = some x := by
    intro c x hx
    by_cases hc : c = case_id
    · subst hc
      rw [dict.get_set_self] at hx
      exact Or.inl ⟨rfl, (Option.some.inj hx).symm⟩
    · rw [dict.get_set_of_ne _ _ hc] at hx
      exact Or.inr hx
  refine ⟨fun id r hr c hc => ?_, fun c x hx => ?_, fun c x hx => ?_, fun c x hx => ?_⟩
  · obtain ⟨hne, x, hx, hsame⟩ := h.linked id r hr c hc
    refine ⟨hne, ?_⟩
    by_cases hc' : c = case_id
    · subst hc'
      cases hcase.symm.trans hx
      exact ⟨case', dict.get_set_self _ _ _, htenant.trans hsame⟩
    · exact ⟨x, (dict.get_set_of_ne _ _ hc').trans hx, hsame⟩
  all_goals rcases hfound c x hx with ⟨rfl, rfl⟩ | hold
  · exact hparked
  · exact h.parked c x hold
  · exact htidy
  · exact h.tidy c x hold
  · exact hhighest
  · exact h.highest c x hold

theorem caseRules_initiate {enabled : Bool} (h : CaseRules api.records api.cases) :
    CaseRules (case_step cfg (.initiate enabled user case_id) api).records
      (case_step cfg (.initiate enabled user case_id) api).cases := by
  refine wp_end (P := fun api' => CaseRules api'.records api'.cases)
    (wp_mono wp_initiate_case_override ?_ ?_)
  · rintro - api' ⟨case, hcase, -, rfl⟩
    exact h.put_case hcase rfl (fun _ => rfl) (fun hnone => nomatch hnone)
      fun hnone => nomatch hnone
  · rintro - api' rfl
    exact h

theorem caseRules_cosign {enabled : Bool} {now_iso : String}
    {req : CaseCosignRequest} (h : CaseRules api.records api.cases)
    (hfollows : DecidesInStep enabled user case_id req api) :
    CaseRules (case_step cfg (.cosign enabled now_iso user case_id req) api).records
      (case_step cfg (.cosign enabled now_iso user case_id req) api).cases := by
  refine wp_end (P := fun api' => CaseRules api'.records api'.cases)
    (wp_mono wp_cosign_case_override ?_ ?_)
  · rintro - api' ⟨case, hmay, hfree, rfl⟩
    have hdecides := hfollows case hmay
    unfold decided_case
    by_cases happrove : req.approve = true
    · have htriage : case.supergroup_code ≠ some SG_NEEDS_TRIAGE := fun h => hfree ⟨happrove, h⟩
      rw [if_pos happrove, if_neg htriage] at hdecides
      rw [if_pos happrove]
      refine h.put_case hmay.found rfl (fun hparked => nomatch hparked)
        (fun _ => Or.inr (by simp [TERMINAL_CASE_STATUSES])) fun _ hchild => ?_
      obtain ⟨s, hs⟩ := List.exists_mem_of_ne_nil _ (children_ne_nil_iff.mp hchild)
      refine ⟨hdecides s hs ▸ hs, fun t ht => ?_⟩
      rw [hdecides t ht]
    · rw [if_neg happrove] at hdecides ⊢
      exact h.put_case hmay.found rfl (fun hparked => nomatch hparked) (fun _ => Or.inl rfl)
        fun _ hchild => absurd hdecides hchild
  · rintro e api' (⟨rfl, -⟩ | ⟨case, hmay, happrove, htriage, rfl⟩)
    · exact h
    have hdecides := hfollows case hmay
    rw [if_pos happrove, if_pos htriage] at hdecides
    obtain ⟨hopen, hchildren⟩ := hdecides
    -- A case that waited for the cosign awaits a human still.
    obtain ⟨initiator, hinitiator, -⟩ := hmay.parked
    have hstatus := h.parked case_id case hmay.found (by simp [hinitiator])
    refine h.put_case hmay.found rfl (fun hparked => nomatch hparked) (fun _ => Or.inr ?_)
      fun _ hchild => ?_
    · show case.closed_at.isSome = true ↔ case.status ∈ TERMINAL_CASE_STATUSES
      rw [hopen, hstatus]
      decide
    · rcases hchildren with hnone | hawaits
      · exact absurd hnone hchild
      · show HighestStatus case.status _
        rw [hstatus]
        exact ⟨hawaits, fun s _ => rank_le_three s⟩

theorem caseRules_step {op : CaseOp} (h : CaseRules api.records api.cases)
    (hnew : Materialises op api) (hfollows : FollowsUp cfg op api) :
    CaseRules (case_step cfg op api).records (case_step cfg op api).cases := by
  rcases op with st | ⟨enabled, user, case_id⟩ | ⟨enabled, now_iso, user, case_id, req⟩
  · rw [case_step_service]
    exact caseRules_service h hnew hfollows
  · exact caseRules_initiate h
  · exact caseRules_cosign h hfollows

end step

/-- In a run from the empty service every case is in step with its children
after each request, as long as no request moves its record past the roll-up,
no roll-up is refused or blind, and no cosign decides against the children. -/
theorem cases_stay_in_step_with_their_children (cfg : Config) (ops : List CaseOp)
    (hops : AllSteps (case_step cfg) (fun op api => Materialises op api ∧ FollowsUp cfg op api) {}
      ops) :
    AllSteps (case_step cfg) (fun op api => CasesInStep (case_step cfg op api)) {} ops := by
  have hempty : CaseRules ({} : Api).records ({} : Api).cases := by
    refine ⟨fun id r h => ?_, fun c case h => ?_, fun c case h => ?_, fun c case h => ?_⟩
    all_goals cases h
  have hrules := invariant_after (I := fun api : Api => CaseRules api.records api.cases)
    (fun op api hop h => caseRules_step h hop.1 hop.2) hempty hops
  exact allSteps_mono (fun _ _ h => h.in_step) hrules

/-! ## An order that is escalated, and one that is submitted -/

def intakeStep (request : Request) : CaseOp :=
  .service ⟨intakeEnv (sampleRun 100), sampleUser "analyst", request⟩

def arriveThenEscalate : List CaseOp :=
  [intakeStep (.resolve sampleEvent false), intakeStep (.escalate "E1" none ⟨"please look", none⟩)]

def arriveThenSubmit : List CaseOp :=
  [intakeStep (.resolve sampleEvent false), intakeStep (.disposition "E1" none submitRequest)]

theorem intakeEnv_ids (env : RunEnv) (event : OrderEvent) (cases : List (String × OrderCase)) :
    returns ((intakeEnv env).lookup_or_create event cases) fun found => found.2.case_id ≠ "" := by
  refine returns_mono (case_of_order_id "T1" event cases) fun found hid hempty => ?_
  have hlength := congrArg String.length (hid.symm.trans hempty)
  rw [String.length_append] at hlength
  simp at hlength

/-- The rule at an order that arrives and is escalated. -/
theorem an_escalated_order_stays_in_step :
    AllSteps (case_step sampleConfig) (fun op api => CasesInStep (case_step sampleConfig op api)) {}
      arriveThenEscalate := by
  refine cases_stay_in_step_with_their_children sampleConfig arriveThenEscalate
    ⟨⟨⟨intakeEnv_opensOrFinds _, fun _ _ _ => rfl, intakeEnv_ids _⟩, ?_⟩,
      ⟨⟨intakeEnv_opensOrFinds _, fun _ _ h => (by cases h), intakeEnv_ids _⟩, ?_⟩, trivial⟩
  · refine ⟨fun _ id r case_id hid => (by cases hid), ?_, fun hdb => (by cases hdb),
      fun hdb => (by cases hdb)⟩
    have hanswers : wp (handle sampleConfig ⟨intakeEnv (sampleRun 100), sampleUser "analyst",
        .resolve sampleEvent false⟩) (fun _ _ => True)
        (fun e _ => e.is_close_block = false) {} := by decide +kernel
    intro e api' hend
    have hother := wp_error hanswers hend
    exact hother
  · refine ⟨fun _ id r case_id _ _ hmoves => hmoves.elim, ?_, fun hdb => (by cases hdb),
      fun hdb => (by cases hdb)⟩
    have hanswers : wp (handle sampleConfig ⟨intakeEnv (sampleRun 100), sampleUser "analyst",
        .escalate "E1" none ⟨"please look", none⟩⟩) (fun _ _ => True)
        (fun e _ => e.is_close_block = false)
        (case_step sampleConfig (intakeStep (.resolve sampleEvent false)) {}) := by
      decide +kernel
    intro e api' hend
    have hother := wp_error hanswers hend
    exact hother

/-- A submitted order is resolved, and its case awaits a human still. -/
theorem a_submitted_order_leaves_its_case_behind :
    ¬ ∀ (cfg : Config) (ops : List CaseOp), AllSteps (case_step cfg) Materialises {} ops →
      AllSteps (case_step cfg) (fun op api => (∃ api', handle_case cfg op api = .ok () api') →
        CasesInStep (case_step cfg op api)) {} ops := by
  intro h
  obtain ⟨-, hsubmitted, -⟩ := h sampleConfig arriveThenSubmit
    ⟨⟨intakeEnv_opensOrFinds _, fun _ _ _ => rfl, intakeEnv_ids _⟩,
      ⟨intakeEnv_opensOrFinds _, fun _ _ h => (by cases h), intakeEnv_ids _⟩, trivial⟩
  have hdone : wp (handle_case sampleConfig (intakeStep (.disposition "E1" none submitRequest)))
      (fun _ api' => childStatuses api'.records "C-4711" = [.RESOLVED] ∧
        dict.get api'.cases "C-4711" =
          some ⟨"C-4711", "T1", .OPEN_AWAITING_HUMAN, none, none, none⟩)
      (fun _ _ => False)
      (case_step sampleConfig (intakeStep (.resolve sampleEvent false)) {}) := by decide +kernel
  rcases hend : handle_case sampleConfig (intakeStep (.disposition "E1" none submitRequest))
      (case_step sampleConfig (intakeStep (.resolve sampleEvent false)) {}) with
    ⟨⟨⟩, api'⟩ | ⟨e, api'⟩
  · obtain ⟨hasked, hcase⟩ := wp_ok hdone hend
    have hin := hsubmitted ⟨api', hend⟩
    rw [case_step, hend] at hin
    have hchild : children api'.records "C-4711" ≠ [] := by
      rw [children_ne_nil_iff, hasked]
      simp
    have hstatus := (hin "C-4711" _ hcase rfl hchild).status
    change HighestStatus _ (childStatuses api'.records "C-4711") at hstatus
    rw [hasked] at hstatus
    cases List.mem_singleton.mp hstatus.1
  · exact wp_error hdone hend

end asoe
