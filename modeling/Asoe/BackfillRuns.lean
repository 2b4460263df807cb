-- What a backfill leaves behind: the orphans whose event can be read have a
-- case of their tenant, the counts of the report add up, a second pass finds
-- nothing to do, and the records of one customer order share a case. All of
-- that needs a pass that no payload stops.
import Asoe.Backfill
import Asoe.Lib.Grouping

namespace asoe

open py prog runs keyindex grouping

/-! ## The stores before a pass -/

/-- Each case stands under its id, and each key points at a case of its own
tenant. -/
structure KeysLinked (s : BackfillState) : Prop where
  keyed : ∀ id case, dict.get s.cases id = some case → case.case_id = id
  owned : ∀ q ∈ s.correlation, ∃ case, dict.get s.cases q.2 = some case ∧ case.tenant_id = q.1.1

/-- The ids drawn for the cases that may be opened: none is in use, and none is
drawn twice. -/
structure NewIds (env : BackfillEnv) (orphans : List (String × BackfillRecord))
    (s : BackfillState) : Prop where
  unused : ∀ p ∈ orphans, dict.get s.cases (env.new_case_id p.1) = none
  fresh : (orphans.map fun p => env.new_case_id p.1).Nodup

/-- The orphans stand in the store as they were listed, and the ids of the
cases that they may open are new. -/
structure Ready (env : BackfillEnv) (orphans : List (String × BackfillRecord))
    (s : BackfillState) : Prop where
  linked : KeysLinked s
  once : Once s.records
  live : ∀ p ∈ orphans, dict.get s.records p.1 = some p.2
  distinct : (orphans.map Prod.fst).Nodup
  new_ids : NewIds env orphans s

/-! ## One record -/

/-- The keys of an event are keys of its tenant, and of the types it has. -/
theorem type_of_value_key {tenant : String} {keys : List (String × PyVal)} {ks : List ValueKey}
    (hkeys : value_keys tenant keys = some ks) {k : ValueKey} (hk : k ∈ ks) :
    k.1 = tenant ∧ k.2.1 ∈ keys.map Prod.fst := by
  induction keys generalizing ks with
  | nil =>
    cases hkeys
    cases hk
  | cons key keys ih =>
    obtain ⟨key_type, key_value⟩ := key
    rw [List.map_cons]
    rcases value_keys_cons hkeys with ⟨-, hrest⟩ | ⟨value, rest, -, -, hrest, rfl⟩
    · obtain ⟨htenant, htype⟩ := ih hrest hk
      exact ⟨htenant, List.mem_cons_of_mem _ htype⟩
    · rcases List.mem_append.mp hk with hk | hk
      · cases value with
        | none => cases hk
        | some v =>
          obtain rfl := List.mem_singleton.mp hk
          exact ⟨rfl, List.mem_cons_self⟩
      · obtain ⟨htenant, htype⟩ := ih hrest hk
        exact ⟨htenant, List.mem_cons_of_mem _ htype⟩

section link

variable {env : BackfillEnv} {p : String × BackfillRecord} {s : BackfillState} {case_id : String}

theorem update_parent_of_ne (records : List (String × BackfillRecord)) (tenant_id : String)
    {id : String} (hne : id ≠ p.1) :
    dict.get (update_parent env p.1 tenant_id case_id records) id = dict.get records id := by
  unfold update_parent
  split
  · rfl
  · split
    · rfl
    · exact dict.get_set_of_ne _ _ hne

theorem update_parent_self {records : List (String × BackfillRecord)}
    (h : dict.get records p.1 = some p.2) :
    dict.get (update_parent env p.1 p.2.tenant_id case_id records) p.1 =
      some { p.2 with parent_case_id := some case_id, updated_at := env.now_iso } := by
  unfold update_parent
  rw [h]
  dsimp only
  rw [if_neg (fun hne => hne rfl), dict.get_set_self]

theorem update_parent_once {records : List (String × BackfillRecord)} (tenant_id : String)
    (h : Once records) : Once (update_parent env p.1 tenant_id case_id records) := by
  unfold update_parent
  split
  · exact h
  · split
    · exact h
    · exact h.set _ _

variable {ks : List ValueKey} {case : OrderCase}

theorem KeysLinked.known (h : KeysLinked s) (hknown : known_case s ks = some case) :
    first s.correlation ks = some case.case_id ∧ dict.get s.cases case.case_id = some case := by
  obtain ⟨id, hfirst, hcase⟩ := Option.bind_eq_some_iff.mp hknown
  obtain rfl := h.keyed id case hcase
  exact ⟨hfirst, hcase⟩

theorem KeysLinked.known_tenant {tenant : String} {keys : List (String × PyVal)}
    (h : KeysLinked s) (hkeys : value_keys tenant keys = some ks)
    (hknown : known_case s ks = some case) : case.tenant_id = tenant := by
  obtain ⟨hfirst, hcase⟩ := h.known hknown
  obtain ⟨k, hk, hget⟩ := known_of_first hfirst
  obtain ⟨case', hcase', htenant⟩ := h.owned _ (dict.mem_of_get hget)
  cases hcase.symm.trans hcase'
  exact htenant.trans (type_of_value_key hkeys hk).1

theorem KeysLinked.first_unknown (h : KeysLinked s) (hnone : known_case s ks = none) :
    first s.correlation ks = none := by
  cases hfirst : first s.correlation ks with
  | none => rfl
  | some id =>
    obtain ⟨k, -, hget⟩ := known_of_first hfirst
    obtain ⟨case, hcase, -⟩ := h.owned _ (dict.mem_of_get hget)
    unfold known_case at hnone
    rw [hfirst, Option.bind_some] at hnone
    cases hnone.symm.trans hcase

end link

section placed

variable {env : BackfillEnv} {p : String × BackfillRecord} {s s' : BackfillState}
  {placed : Option (OrderCase × Bool)}

theorem OrphanPlaced.records_of_ne (h : OrphanPlaced env p s placed s') {id : String}
    (hne : id ≠ p.1) : dict.get s'.records id = dict.get s.records id := by
  cases h with
  | skipped _ => rfl
  | attached => exact update_parent_of_ne _ _ hne
  | opened => exact update_parent_of_ne _ _ hne

theorem OrphanPlaced.once (h : OrphanPlaced env p s placed s') (honce : Once s.records) :
    Once s'.records := by
  cases h with
  | skipped _ => exact honce
  | attached => exact update_parent_once _ honce
  | opened => exact update_parent_once _ honce

theorem OrphanPlaced.cases_kept (h : OrphanPlaced env p s placed s')
    (hunused : dict.get s.cases (env.new_case_id p.1) = none) {id : String} {case : OrderCase}
    (hcase : dict.get s.cases id = some case) : dict.get s'.cases id = some case := by
  cases h with
  | skipped _ => exact hcase
  | attached => exact hcase
  | opened =>
    have hne : id ≠ env.new_case_id p.1 := by
      rintro rfl
      cases hunused.symm.trans hcase
    exact (dict.get_set_of_ne _ _ hne).trans hcase

theorem OrphanPlaced.unused_kept (h : OrphanPlaced env p s placed s') {id : String}
    (hne : id ≠ env.new_case_id p.1) (hnone : dict.get s.cases id = none) :
    dict.get s'.cases id = none := by
  cases h with
  | skipped _ => exact hnone
  | attached => exact hnone
  | opened => exact (dict.get_set_of_ne _ _ hne).trans hnone

theorem OrphanPlaced.linked (h : OrphanPlaced env p s placed s') (hlinked : KeysLinked s)
    (hunused : dict.get s.cases (env.new_case_id p.1) = none) : KeysLinked s' := by
  have hkept := @OrphanPlaced.cases_kept env p s s' placed h hunused
  cases h with
  | skipped _ => exact hlinked
  | attached event ks case _ hkeys hknown =>
    refine ⟨hlinked.keyed, fun q hq => ?_⟩
    rcases mem_attach hq with hold | ⟨hk, hq⟩
    · exact hlinked.owned q hold
    · refine ⟨case, hq ▸ (hlinked.known hknown).2, ?_⟩
      exact (hlinked.known_tenant hkeys hknown).trans (type_of_value_key hkeys hk).1.symm
  | opened event ks _ hkeys _ =>
    refine ⟨fun id case hcase => ?_, fun q hq => ?_⟩
    · by_cases hid : id = env.new_case_id p.1
      · subst hid
        have hself : dict.get (dict.set s.cases (env.new_case_id p.1)
            (new_case (env.new_case_id p.1) p.2.tenant_id)) (env.new_case_id p.1) = some case :=
          hcase
        rw [dict.get_set_self] at hself
        cases hself
        rfl
      · have hother : dict.get (dict.set s.cases (env.new_case_id p.1)
            (new_case (env.new_case_id p.1) p.2.tenant_id)) id = some case := hcase
        rw [dict.get_set_of_ne _ _ hid] at hother
        exact hlinked.keyed id case hother
    · rcases mem_attach hq with hold | ⟨hk, hq⟩
      · obtain ⟨case, hcase, htenant⟩ := hlinked.owned q hold
        exact ⟨case, hkept hcase, htenant⟩
      · refine ⟨new_case (env.new_case_id p.1) p.2.tenant_id, ?_,
          (type_of_value_key hkeys hk).1.symm⟩
        rw [hq]
        exact dict.get_set_self _ _ _

/-- An orphan whose event can be read is linked to a case of its tenant, and
its keys point at that case. -/
theorem OrphanPlaced.parent (h : OrphanPlaced env p s placed s') (hlinked : KeysLinked s)
    (hlive : dict.get s.records p.1 = some p.2) {event : OrderEvent}
    (hevent : event_from_record env p.2 = some event) :
    ∃ case opened ks, placed = some (case, opened) ∧
      dict.get s'.records p.1 =
        some { p.2 with parent_case_id := some case.case_id, updated_at := env.now_iso } ∧
      dict.get s'.cases case.case_id = some case ∧ case.tenant_id = p.2.tenant_id ∧
      value_keys p.2.tenant_id (correlation_keys event) = some ks ∧
      (∀ k ∈ ks, dict.get s'.correlation k = some case.case_id) ∧
      (∀ k, k ∉ ks → dict.get s'.correlation k = dict.get s.correlation k) ∧
      ∀ id, first s.correlation ks = some id → case.case_id = id := by
  cases h with
  | skipped hnone => cases hnone.symm.trans hevent
  | attached event' ks case hevent' hkeys hknown =>
    cases hevent.symm.trans hevent'
    refine ⟨case, false, ks, rfl, update_parent_self hlive, (hlinked.known hknown).2,
      hlinked.known_tenant hkeys hknown, hkeys, fun k hk => get_attach_of_mem _ hk,
      fun k hk => get_attach_of_notMem _ hk, fun id hid => ?_⟩
    exact Option.some.inj ((hlinked.known hknown).1.symm.trans hid)
  | opened event' ks hevent' hkeys hnone =>
    cases hevent.symm.trans hevent'
    refine ⟨_, true, ks, rfl, update_parent_self hlive, dict.get_set_self _ _ _, rfl, hkeys,
      fun k hk => get_attach_of_mem _ hk, fun k hk => get_attach_of_notMem _ hk, fun id hid => ?_⟩
    cases (hlinked.first_unknown hnone).symm.trans hid

/-- After a record is placed the others are ready. -/
theorem Ready.next {orphans : List (String × BackfillRecord)} (h : Ready env (p :: orphans) s)
    (hplaced : OrphanPlaced env p s placed s') : Ready env orphans s' := by
  have hdistinct := List.nodup_cons.mp h.distinct
  have hfresh := List.nodup_cons.mp h.new_ids.fresh
  refine ⟨hplaced.linked h.linked (h.new_ids.unused p List.mem_cons_self), hplaced.once h.once, ?_,
    hdistinct.2, ?_, hfresh.2⟩
  · intro q hq
    have hne : q.1 ≠ p.1 := fun heq => hdistinct.1 (heq ▸ List.mem_map_of_mem hq)
    rw [hplaced.records_of_ne hne]
    exact h.live q (List.mem_cons_of_mem _ hq)
  · intro q hq
    have hne : env.new_case_id q.1 ≠ env.new_case_id p.1 := by
      intro heq
      have hmem : env.new_case_id q.1 ∈ orphans.map fun p => env.new_case_id p.1 :=
        List.mem_map_of_mem (f := fun p => env.new_case_id p.1) hq
      rw [heq] at hmem
      exact hfresh.1 hmem
    exact hplaced.unused_kept hne (h.new_ids.unused q (List.mem_cons_of_mem _ hq))

end placed

/-! ## The pass -/

/-- The store after one orphan. -/
def place (env : BackfillEnv) (p : String × BackfillRecord) (s : BackfillState) : BackfillState :=
  endState (place_record env p s)

/-- A pass that returned, orphan by orphan. -/
inductive Passed (env : BackfillEnv) : List (String × BackfillRecord) → OrphanReport →
    BackfillState → OrphanReport → BackfillState → Prop where
  | done (report : OrphanReport) (s : BackfillState) : Passed env [] report s report s
  | next {p : String × BackfillRecord} {orphans : List (String × BackfillRecord)}
      {report report' : OrphanReport} {s s₁ s' : BackfillState}
      {placed : Option (OrderCase × Bool)} (hrun : place env p s = s₁)
      (hplaced : OrphanPlaced env p s placed s₁)
      (hrest : Passed env orphans (report.counted p.1 placed) s₁ report' s') :
      Passed env (p :: orphans) report s report' s'

section passes

variable {env : BackfillEnv} {orphans : List (String × BackfillRecord)}
  {report report' : OrphanReport} {s s' : BackfillState}

/-- A pass returns when every orphan can be placed. -/
theorem backfill_records_passes (report : OrphanReport)
    (h : AllSteps (place env) (fun p s => takes env p s = true) s orphans) :
    ∃ report' s', backfill_records env orphans report s = .ok report' s' ∧
      Passed env orphans report s report' s' := by
  induction orphans generalizing report s with
  | nil => exact ⟨report, s, rfl, .done report s⟩
  | cons p orphans ih =>
    obtain ⟨placed, s₁, hrun, hplaced⟩ := place_record_placed h.1
    have hplace : place env p s = s₁ := by
      unfold place
      rw [hrun]
      rfl
    have hrest := h.2
    rw [hplace] at hrest
    obtain ⟨report', s', hrecords, hpassed⟩ := ih (report.counted p.1 placed) hrest
    refine ⟨report', s', ?_, .next hplace hplaced hpassed⟩
    unfold backfill_records
    rw [run_bind, hrun]
    exact hrecords

/-- A pass that returned was not stopped by an orphan. -/
theorem takes_of_returned (h : backfill_records env orphans report s = .ok report' s') :
    AllSteps (place env) (fun p s => takes env p s = true) s orphans := by
  induction orphans generalizing report s with
  | nil => trivial
  | cons p orphans ih =>
    unfold backfill_records at h
    rw [run_bind] at h
    by_cases htakes : takes env p s = true
    · obtain ⟨placed, s₁, hrun, -⟩ := place_record_placed htakes
      rw [hrun] at h
      refine ⟨htakes, ?_⟩
      unfold place
      rw [hrun]
      exact ih h
    · obtain ⟨e, s₁, hrun⟩ := place_record_fails htakes
      rw [hrun] at h
      cases h

theorem Passed.counts (h : Passed env orphans report s report' s')
    (hcounts : report.records_scanned = report.cases_opened +
      report.records_attached_to_existing + report.records_skipped_no_event) :
    report'.records_scanned = report'.cases_opened +
      report'.records_attached_to_existing + report'.records_skipped_no_event := by
  induction h with
  | done => exact hcounts
  | next _ hplaced _ ih =>
    apply ih
    cases hplaced with
    | skipped _ => exact congrArg (· + 1) hcounts
    | attached =>
      simp only [OrphanReport.counted, Bool.false_eq_true, if_false]
      omega
    | opened =>
      simp only [OrphanReport.counted, if_true]
      omega

/-- The cases after the pass are those before and the ones that were opened. -/
theorem Passed.cases_opened (h : Passed env orphans report s report' s')
    (hready : Ready env orphans s) :
    ∃ opened, s'.cases = s.cases ++ opened ∧
      report'.cases_opened = report.cases_opened + opened.length ∧
      ∀ q ∈ opened, q.1 ∈ orphans.map fun p => env.new_case_id p.1 := by
  induction h with
  | done report s => exact ⟨[], (List.append_nil _).symm, rfl, fun q hq => by cases hq⟩
  | @next p orphans report report' s s₁ s' placed _ hplaced _ ih =>
    obtain ⟨opened, hcases, hopened, hids⟩ := ih (hready.next hplaced)
    have hunused := hready.new_ids.unused p List.mem_cons_self
    have hlater : ∀ q ∈ opened, q.1 ∈ (p :: orphans).map fun p => env.new_case_id p.1 :=
      fun q hq => List.mem_cons_of_mem _ (hids q hq)
    cases hplaced with
    | skipped _ => exact ⟨opened, hcases, hopened, hlater⟩
    | attached => exact ⟨opened, hcases, hopened, hlater⟩
    | opened =>
      refine ⟨(env.new_case_id p.1, new_case (env.new_case_id p.1) p.2.tenant_id) :: opened, ?_, ?_,
        ?_⟩
      · rw [hcases]
        show dict.set s.cases _ _ ++ opened = _
        rw [dict.set_of_none _ hunused, List.append_assoc, List.singleton_append]
      · rw [hopened, List.length_cons]
        simp only [OrphanReport.counted, if_true]
        omega
      · intro q hq
        rcases List.mem_cons.mp hq with rfl | hq
        · exact List.mem_cons_self
        · exact hlater q hq

theorem Passed.records_kept (h : Passed env orphans report s report' s') {id : String}
    (hid : id ∉ orphans.map Prod.fst) : dict.get s'.records id = dict.get s.records id := by
  induction h with
  | done => rfl
  | next _ hplaced _ ih =>
    rw [List.map_cons, List.mem_cons, not_or] at hid
    exact (ih hid.2).trans (hplaced.records_of_ne hid.1)

theorem Passed.once (h : Passed env orphans report s report' s') (honce : Once s.records) :
    Once s'.records := by
  induction h with
  | done => exact honce
  | next _ hplaced _ ih => exact ih (hplaced.once honce)

theorem Passed.cases_kept (h : Passed env orphans report s report' s')
    (hready : Ready env orphans s) {id : String} {case : OrderCase}
    (hcase : dict.get s.cases id = some case) : dict.get s'.cases id = some case := by
  induction h with
  | done => exact hcase
  | next _ hplaced _ ih =>
    exact ih (hready.next hplaced)
      (hplaced.cases_kept (hready.new_ids.unused _ List.mem_cons_self) hcase)

theorem Passed.skipped (h : Passed env orphans report s report' s')
    (hready : Ready env orphans s) {p : String × BackfillRecord} (hp : p ∈ orphans)
    (hevent : event_from_record env p.2 = none) : dict.get s'.records p.1 = some p.2 := by
  induction h with
  | done => cases hp
  | @next q orphans report report' s s₁ s' placed _ hplaced hrest ih =>
    rcases List.mem_cons.mp hp with rfl | hp
    · rw [hrest.records_kept (List.nodup_cons.mp hready.distinct).1]
      cases hplaced with
      | skipped _ => exact hready.live p List.mem_cons_self
      | attached event _ _ hsome => cases hevent.symm.trans hsome
      | opened event _ hsome => cases hevent.symm.trans hsome
    · exact ih (hready.next hplaced) hp

theorem Passed.parent (h : Passed env orphans report s report' s')
    (hready : Ready env orphans s) {p : String × BackfillRecord} (hp : p ∈ orphans)
    {event : OrderEvent} (hevent : event_from_record env p.2 = some event) :
    ∃ case, dict.get s'.records p.1 =
        some { p.2 with parent_case_id := some case.case_id, updated_at := env.now_iso } ∧
      dict.get s'.cases case.case_id = some case ∧ case.tenant_id = p.2.tenant_id := by
  induction h with
  | done => cases hp
  | @next q orphans report report' s s₁ s' placed _ hplaced hrest ih =>
    rcases List.mem_cons.mp hp with rfl | hp
    · obtain ⟨case, opened, ks, -, hrecord, hcase, htenant, -⟩ :=
        hplaced.parent hready.linked (hready.live p List.mem_cons_self) hevent
      refine ⟨case, ?_, hrest.cases_kept (hready.next hplaced) hcase, htenant⟩
      rw [hrest.records_kept (List.nodup_cons.mp hready.distinct).1]
      exact hrecord
    · exact ih (hready.next hplaced) hp

end passes

/-! ## Records of one customer order -/

/-- The key of a customer order. -/
def orderKey (tenant_id : String) (customer_po : PyVal) : ValueKey :=
  (tenant_id, "customer_po_number", customer_po)

/-- The event of the record can be read, and carries the key. -/
def Carries (env : BackfillEnv) (k : ValueKey) (p : String × BackfillRecord) : Prop :=
  ∃ event ks, event_from_record env p.2 = some event ∧
    value_keys p.2.tenant_id (correlation_keys event) = some ks ∧ k ∈ ks

/-- The record carries the key and a sales order that belongs to another case
than the key. -/
def Conflicts (env : BackfillEnv) (k : ValueKey) (p : String × BackfillRecord)
    (s : BackfillState) : Prop :=
  ∃ event ks order id id', event_from_record env p.2 = some event ∧
    value_keys p.2.tenant_id (correlation_keys event) = some ks ∧ k ∈ ks ∧ order ∈ ks ∧
    order.2.1 = "sales_order_id" ∧ dict.get s.correlation order = some id ∧
    dict.get s.correlation k = some id' ∧ id ≠ id'

/-- Only the sales order is tried before the customer order. -/
theorem first_of_order {tenant : String} {event : OrderEvent} {ks : List ValueKey} {k : ValueKey}
    {correlation : List (ValueKey × String)} {id : String}
    (hkeys : value_keys tenant (correlation_keys event) = some ks) (hk : k ∈ ks)
    (htype : k.2.1 = "customer_po_number") (hget : dict.get correlation k = some id)
    (hagree : ∀ order ∈ ks, order.2.1 = "sales_order_id" →
      ∀ id', dict.get correlation order = some id' → id' = id) :
    first correlation ks = some id := by
  unfold correlation_keys at hkeys
  -- The key stands at the head of the keys that follow the sales order.
  have hpo : ∀ ks', value_keys tenant
      [("customer_po_number", (metadata_get event "customer_po_number").or (.str event.order_id)),
        ("edi_transaction_id", metadata_get event "edi_transaction_id"),
        ("source_email_id", metadata_get event "source_email_id")] = some ks' → k ∈ ks' →
      first correlation ks' = some id := by
    intro ks' hkeys' hk'
    have hlater : ∀ rest, value_keys tenant
        [("edi_transaction_id", metadata_get event "edi_transaction_id"),
          ("source_email_id", metadata_get event "source_email_id")] = some rest → k ∉ rest := by
      intro rest hrest hmem
      have hother := (type_of_value_key hrest hmem).2
      rw [htype] at hother
      exact absurd hother (by simp)
    rcases value_keys_cons hkeys' with ⟨-, hrest⟩ | ⟨value, rest, -, -, hrest, rfl⟩
    · exact absurd hk' (hlater ks' hrest)
    · cases value with
      | none => exact absurd hk' (hlater rest hrest)
      | some v =>
        rcases List.mem_cons.mp hk' with rfl | hk'
        · show first correlation (_ :: rest) = some id
          rw [first_cons, hget]
          rfl
        · exact absurd hk' (hlater rest hrest)
  rcases value_keys_cons hkeys with ⟨-, hrest⟩ | ⟨value, rest, -, -, hrest, rfl⟩
  · exact hpo ks hrest hk
  · cases value with
    | none => exact hpo rest hrest hk
    | some v =>
      rcases List.mem_cons.mp hk with rfl | hk
      · exact absurd htype (by simp)
      · show first correlation ((tenant, "sales_order_id", v) :: rest) = some id
        rw [first_cons]
        cases horder : dict.get correlation (tenant, "sales_order_id", v) with
        | none => exact hpo rest hrest hk
        | some id' => rw [hagree _ List.mem_cons_self rfl id' horder]; rfl

section orders

variable {env : BackfillEnv} {orphans : List (String × BackfillRecord)}
  {report report' : OrphanReport} {s s' : BackfillState}

/-- The case that a record is linked to. -/
def parent_of (s : BackfillState) (id : String) : Option String :=
  (dict.get s.records id).bind (·.parent_case_id)

/-- Without a conflict the records of a customer order are linked to one case,
the one that the order had before. -/
theorem Passed.order_case (h : Passed env orphans report s report' s')
    (hready : Ready env orphans s) {k : ValueKey} (htype : k.2.1 = "customer_po_number")
    (hagree : AllSteps (place env) (fun p s => ¬ Conflicts env k p s) s orphans) :
    ∃ id, (∀ id', dict.get s.correlation k = some id' → id = id') ∧
      ∀ p ∈ orphans, Carries env k p → parent_of s' p.1 = some id := by
  induction h with
  | done report s =>
    refine ⟨(dict.get s.correlation k).getD "", fun id' h => ?_, fun p hp => by cases hp⟩
    rw [h]
    rfl
  | @next p orphans report report' s s₁ s' placed hrun hplaced hrest ih =>
    have hlater := hagree.2
    rw [hrun] at hlater
    obtain ⟨id, hbefore, hlinked⟩ := ih (hready.next hplaced) hlater
    have hhead : parent_of s' p.1 = parent_of s₁ p.1 := by
      unfold parent_of
      rw [hrest.records_kept (List.nodup_cons.mp hready.distinct).1]
    by_cases hcarries : Carries env k p
    · obtain ⟨event, ks, hevent, hkeys, hk⟩ := hcarries
      obtain ⟨case, opened, ks', -, hrecord, -, -, hkeys', hpointed, -, hfirst⟩ :=
        hplaced.parent hready.linked (hready.live p List.mem_cons_self) hevent
      cases hkeys.symm.trans hkeys'
      have hid : id = case.case_id := hbefore _ (hpointed k hk)
      refine ⟨id, fun id' hid' => ?_, fun q hq hq' => ?_⟩
      · rw [hid]
        refine hfirst id' (first_of_order hkeys hk htype hid' ?_)
        intro order horder hsales id'' h''
        by_contra hne
        exact hagree.1 ⟨event, ks, order, id'', id', hevent, hkeys, hk, horder, hsales, h'', hid',
          hne⟩
      · rcases List.mem_cons.mp hq with rfl | hq
        · rw [hhead, hid]
          unfold parent_of
          rw [hrecord]
          rfl
        · exact hlinked q hq hq'
    · have hsame : dict.get s₁.correlation k = dict.get s.correlation k := by
        cases hevent : event_from_record env p.2 with
        | none =>
          cases hplaced with
          | skipped _ => rfl
          | attached event _ _ hsome => cases hevent.symm.trans hsome
          | opened event _ hsome => cases hevent.symm.trans hsome
        | some event =>
          obtain ⟨_, _, ks, -, -, -, -, hkeys, -, hkept, -⟩ :=
            hplaced.parent hready.linked (hready.live p List.mem_cons_self) hevent
          exact hkept k fun hk => hcarries ⟨event, ks, hevent, hkeys, hk⟩
      refine ⟨id, fun id' hid' => hbefore id' (hsame.trans hid'), fun q hq hq' => ?_⟩
      rcases List.mem_cons.mp hq with rfl | hq
      · exact absurd hq' hcarries
      · exact hlinked q hq hq'

end orders

/-! ## The backfill -/

/-- What a backfill of the tenant leaves behind. -/
structure BackfilledRight (env : BackfillEnv) (tenant : String) (s : BackfillState)
    (report : OrphanReport) (s' : BackfillState) : Prop where
  parents : ∀ p ∈ list_orphans s tenant, (event_from_record env p.2).isSome →
    ∃ case r, dict.get s'.records p.1 = some r ∧ r.parent_case_id = some case.case_id ∧
      dict.get s'.cases case.case_id = some case ∧ case.tenant_id = tenant
  counts : report.records_scanned = report.cases_opened + report.records_attached_to_existing +
    report.records_skipped_no_event
  opened : ∃ new, s'.cases = s.cases ++ new ∧ report.cases_opened = new.length ∧
    ∀ q ∈ new, dict.get s.cases q.1 = none
  again : ∀ env' : BackfillEnv, env'.model_validate = env.model_validate →
    ∃ report', backfill_orphan_cases env' tenant s' = .ok report' s' ∧
      report'.cases_opened = 0 ∧ report'.records_attached_to_existing = 0
  shared : ∀ customer_po : PyVal,
    AllSteps (place env) (fun p s => ¬ Conflicts env (orderKey tenant customer_po) p s) s
      (list_orphans s tenant) →
    ∀ p ∈ list_orphans s tenant, ∀ q ∈ list_orphans s tenant,
      Carries env (orderKey tenant customer_po) p → Carries env (orderKey tenant customer_po) q →
      parent_of s' p.1 = parent_of s' q.1

section backfill

variable {env : BackfillEnv} {tenant : String} {s s' : BackfillState} {report' : OrphanReport}

theorem mem_list_orphans {p : String × BackfillRecord} :
    p ∈ list_orphans s tenant ↔
      p ∈ s.records ∧ p.2.tenant_id = tenant ∧ p.2.parent_case_id = none := by
  unfold list_orphans
  rw [List.mem_filter, decide_eq_true_iff]

theorem backfill_records_skips {orphans : List (String × BackfillRecord)}
    (h : ∀ p ∈ orphans, event_from_record env p.2 = none) (report : OrphanReport) :
    ∃ report', backfill_records env orphans report s = .ok report' s ∧
      report'.cases_opened = report.cases_opened ∧
      report'.records_attached_to_existing = report.records_attached_to_existing := by
  induction orphans generalizing report with
  | nil => exact ⟨report, rfl, rfl, rfl⟩
  | cons p orphans ih =>
    obtain ⟨report', hrest, hopened, hattached⟩ :=
      ih (fun q hq => h q (List.mem_cons_of_mem _ hq)) (report.counted p.1 none)
    refine ⟨report', ?_, hopened, hattached⟩
    unfold backfill_records place_record
    rw [h p List.mem_cons_self]
    exact hrest

/-- After a pass the orphans that are left are those it could not read. -/
theorem Passed.orphans_left
    (h : Passed env (list_orphans s tenant) {} s report' s')
    (hready : Ready env (list_orphans s tenant) s) {p : String × BackfillRecord}
    (hp : p ∈ list_orphans s' tenant) : event_from_record env p.2 = none := by
  obtain ⟨hmem, htenant, hnone⟩ := mem_list_orphans.mp hp
  have hget : dict.get s'.records p.1 = some p.2 := (h.once hready.once).get_of_mem hmem
  by_cases hlisted : p.1 ∈ (list_orphans s tenant).map Prod.fst
  · obtain ⟨q, hq, hid⟩ := List.mem_map.mp hlisted
    rw [← hid] at hget
    cases hevent : event_from_record env q.2 with
    | none => rwa [← Option.some.inj ((h.skipped hready hq hevent).symm.trans hget)]
    | some event =>
      obtain ⟨case, hrecord, -⟩ := h.parent hready hq hevent
      rw [← Option.some.inj (hrecord.symm.trans hget)] at hnone
      cases hnone
  · rw [h.records_kept hlisted] at hget
    exact absurd (List.mem_map_of_mem (mem_list_orphans.mpr
      ⟨dict.mem_of_get hget, htenant, hnone⟩)) hlisted

theorem Passed.right (h : Passed env (list_orphans s tenant) {} s report' s')
    (hready : Ready env (list_orphans s tenant) s) : BackfilledRight env tenant s report' s' where
  parents p hp hevent := by
    obtain ⟨event, hevent⟩ := Option.isSome_iff_exists.mp hevent
    obtain ⟨case, hrecord, hcase, htenant⟩ := h.parent hready hp hevent
    exact ⟨case, _, hrecord, rfl, hcase, htenant.trans (mem_list_orphans.mp hp).2.1⟩
  counts := h.counts rfl
  opened := by
    obtain ⟨new, hcases, hopened, hids⟩ := h.cases_opened hready
    refine ⟨new, hcases, hopened.trans (Nat.zero_add _), fun q hq => ?_⟩
    obtain ⟨p, hp, hid⟩ := List.mem_map.mp (hids q hq)
    rw [← hid]
    exact hready.new_ids.unused p hp
  again env' hsame := by
    have hskipped : ∀ p ∈ list_orphans s' tenant, event_from_record env' p.2 = none := by
      intro p hp
      have hleft := h.orphans_left hready hp
      unfold event_from_record at hleft ⊢
      rw [hsame]
      exact hleft
    exact backfill_records_skips hskipped {}
  shared customer_po hagree p hp q hq hp' hq' := by
    obtain ⟨id, -, hlinked⟩ := h.order_case hready (k := orderKey tenant customer_po) rfl hagree
    rw [hlinked p hp hp', hlinked q hq hq']

end backfill

theorem ready_of_orphans {env : BackfillEnv} {tenant : String} {s : BackfillState}
    (hlinked : KeysLinked s) (honce : Once s.records)
    (hnew : NewIds env (list_orphans s tenant) s) : Ready env (list_orphans s tenant) s where
  linked := hlinked
  once := honce
  live _ hp := honce.get_of_mem (mem_list_orphans.mp hp).1
  distinct := honce.filter _
  new_ids := hnew

/-- The backfill leaves behind what it is for just when each orphan, as it is
reached, can be placed: its keys can be keys, and lead to a case or have the
types that a new case takes. -/
theorem a_backfill_is_right_iff_no_orphan_stops_it (env : BackfillEnv) (tenant : String)
    (s : BackfillState) (hlinked : KeysLinked s) (honce : Once s.records)
    (hnew : NewIds env (list_orphans s tenant) s) :
    (∃ report s', backfill_orphan_cases env tenant s = .ok report s' ∧
      BackfilledRight env tenant s report s') ↔
      AllSteps (place env) (fun p s => takes env p s = true) s (list_orphans s tenant) := by
  constructor
  · rintro ⟨report, s', hrun, -⟩
    exact takes_of_returned (show backfill_records env _ {} s = .ok report s' from hrun)
  · intro htakes
    obtain ⟨report, s', hrun, hpassed⟩ := backfill_records_passes {} htakes
    exact ⟨report, s', hrun, hpassed.right (ready_of_orphans hlinked honce hnew)⟩

/-- A backfill that reads of an event what the samples below have. -/
def backfillEnv : BackfillEnv where
  model_validate payload :=
    match dict.get payload "order_id", dict.get payload "metadata" with
    | some (.str order_id), some (.dict metadata) => .ok {
        order_id := order_id
        po_price := .fin 100
        sap_base_price := .fin 100
        metadata := metadata }
    | _, _ => .error ⟨"ValidationError", "validation errors for OrderEvent"⟩
  upper text := text
  from_iso _ := .ok 0
  utc_now := 0
  add_hours _ _ := .ok "2026-01-03T00:00:00+00:00"
  now_iso := "2026-01-02T00:00:00+00:00"
  new_case_id id := "CASE-" ++ id

def orphan (order_id : String) (metadata : PyDict) : BackfillRecord where
  tenant_id := "T1"
  original_event := some [("order_id", .str order_id), ("po_price", .float (.fin 100)),
    ("sap_base_price", .float (.fin 100)), ("metadata", .dict metadata)]
  created_at := "2026-01-01T00:00:00+00:00"
  updated_at := "2026-01-01T00:00:00+00:00"

/-- Two records of one customer order, and no case. -/
def twoOrphans : BackfillState where
  records := [("A", orphan "PO-1" []), ("B", orphan "PO-1" [("sales_order_id", .str "SO-1")])]

theorem a_backfill_of_two_orphans_is_right :
    ∃ report s', backfill_orphan_cases backfillEnv "T1" twoOrphans = .ok report s' ∧
      BackfilledRight backfillEnv "T1" twoOrphans report s' :=
  (a_backfill_is_right_iff_no_orphan_stops_it backfillEnv "T1" twoOrphans
    ⟨fun _ _ h => (by cases h), fun _ h => (by cases h)⟩ (by decide +kernel)
    ⟨fun _ _ => rfl, by decide +kernel⟩).mpr (by decide +kernel)

/-- The customer order of the first event is a number, as its producer sent it. -/
def numberedOrphans : BackfillState where
  records := [("A", orphan "ORD-1" [("customer_po_number", .int 4500012345)]),
    ("B", orphan "PO-2" [])]

/-- The number passes the validation of the event and is refused by the new
case, so the pass ends there: the next orphan, whose event can be read, has no
case. -/
theorem a_numbered_customer_order_stops_the_backfill :
    wp (backfill_orphan_cases backfillEnv "T1") (fun _ _ => False)
      (fun e s' => e.kind = "ValidationError" ∧
        (event_from_record backfillEnv (orphan "PO-2" [])).isSome = true ∧
        dict.get s'.records "B" = some (orphan "PO-2" [])) numberedOrphans := by
  decide +kernel

end asoe
