-- What the correlation keeps over the calls of a case store. A key stays with
-- its case until the case is deleted, until the key is registered for another
-- case, or until an event carries it that an earlier key binds elsewhere.
-- Both stores do on the cases and keys what the rules of this module allow.
import Asoe.CaseStores

namespace asoe

open py prog runs keyindex

/-! ## What a call may do -/

/-- The answer to an event: the case that its first known key names, or a
case that is opened. Then all its keys are pointed at the case. -/
inductive Found (event : InboundEvent) (new_case_id : String) (v : Correlations) :
    OrderCase → Bool → Correlations → Prop where
  | attached (case_id : String) (case : OrderCase)
      (hfirst : first v.correlation event.correlation_keys = some case_id)
      (hcase : dict.get v.cases case_id = some case) :
      Found event new_case_id v case false
        { v with correlation := attach v.correlation event.correlation_keys case_id }
  | opened (hfirst : first v.correlation event.correlation_keys = none)
      (hunused : dict.get v.cases new_case_id = none) :
      Found event new_case_id v (event.order_case new_case_id) true
        { cases := dict.set v.cases new_case_id (event.order_case new_case_id)
          correlation := attach v.correlation event.correlation_keys new_case_id }

/-- What a call may do to the cases and their keys. -/
inductive Correlates (v : Correlations) : CaseCall → Correlations → Prop where
  | idle (call : CaseCall) : Correlates v call v
  | found {event : InboundEvent} {new_case_id : String} {case : OrderCase} {opened : Bool}
      {v' : Correlations} (h : Found event new_case_id v case opened v') :
      Correlates v (.lookup_or_create event new_case_id) v'
  | pointed {tenant_id case_id : String} (key_type key_value : String) (case : OrderCase)
      (hcase : dict.get v.cases case_id = some case) (htenant : case.tenant_id = tenant_id) :
      Correlates v (.register_correlation tenant_id case_id key_type key_value)
        { v with correlation := dict.set v.correlation (tenant_id, key_type, key_value) case_id }
  | deleted (case_id : String) :
      Correlates v (.delete case_id)
        { cases := dict.pop v.cases case_id, correlation := detach v.correlation case_id }

/-- Each case stands under its id, and each key points at a case of its own
tenant. -/
structure Linked (v : Correlations) : Prop where
  keyed : ∀ id case, dict.get v.cases id = some case → case.case_id = id
  owned : ∀ p ∈ v.correlation, ∃ case, dict.get v.cases p.2 = some case ∧ case.tenant_id = p.1.1

/-- The key leads to the case, which is there and is one of its tenant. -/
def Resolves (v : Correlations) (key : CorrelationKey) (case_id : String) : Prop :=
  dict.get v.correlation key = some case_id ∧
    ∃ case, dict.get v.cases case_id = some case ∧ case.tenant_id = key.1

instance {v : Correlations} {key : CorrelationKey} {case_id : String} :
    Decidable (Resolves v key case_id) :=
  decidable_of_iff (dict.get v.correlation key = some case_id ∧
    (dict.get v.cases case_id).any (fun case => case.tenant_id = key.1) = true) (by
      simp [Resolves, Option.any_eq_true])

/-- The call takes the key from the case: it deletes the case, registers the
key for another one, or brings an event that carries the key and belongs to
another case. -/
def Diverts (v : Correlations) (key : CorrelationKey) (case_id : String) : CaseCall → Prop
  | .lookup_or_create event _ =>
    key ∈ event.correlation_keys ∧ first v.correlation event.correlation_keys ≠ some case_id
  | .register_correlation tenant_id other key_type key_value =>
    key = (tenant_id, key_type, key_value) ∧ other ≠ case_id
  | .delete other => other = case_id

instance {v : Correlations} {key : CorrelationKey} {case_id : String} (call : CaseCall) :
    Decidable (Diverts v key case_id call) := by
  cases call <;> unfold Diverts <;> infer_instance

/-! ## One call -/

section call

variable {v v' : Correlations} {event : InboundEvent} {new_case_id : String} {case : OrderCase}
  {opened : Bool} {call : CaseCall} {key : CorrelationKey} {case_id : String}

theorem Linked.resolves (hv : Linked v) (h : dict.get v.correlation key = some case_id) :
    Resolves v key case_id := ⟨h, hv.owned _ (dict.mem_of_get h)⟩

theorem Linked.first (hv : Linked v)
    (h : keyindex.first v.correlation event.correlation_keys = some case_id) :
    ∃ case, dict.get v.cases case_id = some case ∧ case.tenant_id = event.tenant_id := by
  obtain ⟨k, hk, hget⟩ := known_of_first h
  obtain ⟨case, hcase, htenant⟩ := (hv.resolves hget).2
  exact ⟨case, hcase, htenant.trans (tenant_of_bound hk)⟩

theorem Found.linked (h : Found event new_case_id v case opened v') (hv : Linked v) :
    Linked v' := by
  cases h with
  | attached case_id case hfirst hcase =>
    obtain ⟨case', hcase', htenant⟩ := hv.first hfirst
    refine ⟨hv.keyed, fun p hp => ?_⟩
    rcases mem_attach hp with hold | ⟨hk, hp⟩
    · exact hv.owned p hold
    · exact ⟨case', hp ▸ hcase', htenant.trans (tenant_of_bound hk).symm⟩
  | opened hfirst hunused =>
    refine ⟨fun id case hid => ?_, fun p hp => ?_⟩
    · by_cases hnew : id = new_case_id
      · subst hnew
        rw [dict.get_set_self] at hid
        cases hid
        rfl
      · rw [dict.get_set_of_ne _ _ hnew] at hid
        exact hv.keyed id case hid
    · rcases mem_attach hp with hold | ⟨hk, hp⟩
      · obtain ⟨case, hcase, htenant⟩ := hv.owned p hold
        refine ⟨case, ?_, htenant⟩
        rw [dict.get_set_of_ne _ _ (fun h => by rw [h, hunused] at hcase; cases hcase), hcase]
      · exact ⟨_, by rw [hp, dict.get_set_self], (tenant_of_bound hk).symm⟩

/-- The case that answers an event is stored, and is one of the event's
tenant; no other case is touched. -/
theorem Found.opens (h : Found event new_case_id v case opened v') (hv : Linked v) :
    CasesOpened event.tenant_id v.cases v'.cases ∧
      dict.get v'.cases case.case_id = some case ∧ case.tenant_id = event.tenant_id := by
  cases h with
  | attached case_id case hfirst hcase =>
    obtain ⟨case', hcase', htenant⟩ := hv.first hfirst
    cases hcase.symm.trans hcase'
    exact ⟨CasesOpened.refl _ _, by rw [hv.keyed _ _ hcase, hcase], htenant⟩
  | opened hfirst hunused =>
    refine ⟨⟨fun id case hid => ?_, fun id case hid => ?_⟩, dict.get_set_self _ _ _, rfl⟩
    · rw [dict.get_set_of_ne _ _ (fun h => by rw [h, hunused] at hid; cases hid), hid]
    · by_cases hnew : id = new_case_id
      · subst hnew
        rw [dict.get_set_self] at hid
        cases hid
        exact Or.inr ⟨hunused, rfl, rfl, rfl, rfl⟩
      · rw [dict.get_set_of_ne _ _ hnew] at hid
        exact Or.inl hid

theorem Found.binds (h : Found event new_case_id v case opened v') (hv : Linked v) :
    (opened = false → first v.correlation event.correlation_keys = some case.case_id) ∧
      (∀ key ∈ event.correlation_keys, dict.get v'.correlation key = some case.case_id) ∧
      ∀ key, key ∉ event.correlation_keys →
        dict.get v'.correlation key = dict.get v.correlation key := by
  cases h with
  | attached case_id case hfirst hcase =>
    rw [hv.keyed _ _ hcase]
    exact ⟨fun _ => hfirst, fun _ => get_attach_of_mem _, fun _ => get_attach_of_notMem _⟩
  | opened =>
    refine ⟨fun h => ?_, fun _ => get_attach_of_mem _, fun _ => get_attach_of_notMem _⟩
    cases h

/-- A call that does not divert a key leaves it where it is. -/
theorem Found.keeps (h : Found event new_case_id v case opened v')
    (hnot : ¬ Diverts v key case_id (.lookup_or_create event new_case_id))
    (hkey : Resolves v key case_id) : Resolves v' key case_id := by
  obtain ⟨hget, kept, hkept, htenant⟩ := hkey
  cases h with
  | attached id case hfirst hcase =>
    refine ⟨?_, kept, hkept, htenant⟩
    by_cases hk : key ∈ event.correlation_keys
    · rw [get_attach_of_mem _ hk]
      by_contra hother
      exact hnot ⟨hk, fun h => hother (hfirst.symm.trans h)⟩
    · rw [get_attach_of_notMem _ hk, hget]
  | opened hfirst hunused =>
    refine ⟨?_, kept, ?_, htenant⟩
    · rw [get_attach_of_notMem, hget]
      intro hk
      obtain ⟨id, hid⟩ := first_of_known hk hget
      cases hfirst.symm.trans hid
    · rw [dict.get_set_of_ne _ _ (fun h => by rw [h, hunused] at hkept; cases hkept), hkept]

theorem Correlates.linked (h : Correlates v call v') (hv : Linked v) : Linked v' := by
  cases h with
  | idle => exact hv
  | found h => exact h.linked hv
  | pointed key_type key_value case hcase htenant =>
    refine ⟨hv.keyed, fun p hp => ?_⟩
    rcases dict.mem_set hp with rfl | hold
    · exact ⟨case, hcase, htenant⟩
    · exact hv.owned p hold
  | deleted id =>
    refine ⟨fun id' case hid => ?_, fun p hp => ?_⟩
    · by_cases hsame : id' = id
      · rw [hsame, dict.get_pop_self] at hid
        cases hid
      · rw [dict.get_pop_of_ne _ hsame] at hid
        exact hv.keyed id' case hid
    · obtain ⟨hold, hother⟩ := mem_detach.mp hp
      obtain ⟨case, hcase, htenant⟩ := hv.owned p hold
      exact ⟨case, by rw [dict.get_pop_of_ne _ hother, hcase], htenant⟩

theorem Correlates.keeps (h : Correlates v call v') (hnot : ¬ Diverts v key case_id call)
    (hkey : Resolves v key case_id) : Resolves v' key case_id := by
  cases h with
  | idle => exact hkey
  | found h => exact h.keeps hnot hkey
  | @pointed tenant_id id key_type key_value case hcase htenant =>
    obtain ⟨hget, hkept⟩ := hkey
    refine ⟨?_, hkept⟩
    by_cases hk : key = (tenant_id, key_type, key_value)
    · rw [hk, dict.get_set_self]
      by_contra hother
      exact hnot ⟨hk, fun h => hother (congrArg some h)⟩
    · rw [dict.get_set_of_ne _ _ hk, hget]
  | deleted id =>
    obtain ⟨hget, kept, hkept, htenant⟩ := hkey
    have hother : case_id ≠ id := fun h => hnot h.symm
    exact ⟨get_detach_of_ne hother hget, kept, by rw [dict.get_pop_of_ne _ hother, hkept], htenant⟩

end call

/-! ## Over a run -/

/-- The calls of the store do what the rules allow, in the states that its
runs reach. -/
structure Simulates {σ : Type} (store : StoreModel σ) (Proper : CaseCall → σ → Prop) : Prop where
  lookup : ∀ event new_case_id s, Linked (store.view s) →
    Proper (.lookup_or_create event new_case_id) s →
    wp (store.lookup_or_create new_case_id event)
      (fun found s' => Found event new_case_id (store.view s) found.1 found.2 (store.view s'))
      (fun _ s' => Correlates (store.view s) (.lookup_or_create event new_case_id) (store.view s'))
      s
  register : ∀ tenant_id case_id key_type key_value s,
    Proper (.register_correlation tenant_id case_id key_type key_value) s →
    Correlates (store.view s) (.register_correlation tenant_id case_id key_type key_value)
      (store.view (endState (store.register_correlation tenant_id case_id key_type key_value s)))
  delete : ∀ case_id s, Linked (store.view s) →
    Correlates (store.view s) (.delete case_id) (store.view (endState (store.delete case_id s)))
  empty : store.view store.empty = {}

/-- What the correlation of a store keeps over its runs. -/
structure KeepsKeys {σ : Type} (store : StoreModel σ) (Proper : CaseCall → σ → Prop) : Prop where
  stays : ∀ calls more key case_id, AllSteps store.step Proper store.empty (calls ++ more) →
    Resolves (store.view (run store.step store.empty calls)) key case_id →
    AllSteps store.step (fun call s => ¬ Diverts (store.view s) key case_id call)
      (run store.step store.empty calls) more →
    Resolves (store.view (run store.step store.empty (calls ++ more))) key case_id
  own_tenant : ∀ calls event new_case_id case opened s',
    AllSteps store.step Proper store.empty (calls ++ [.lookup_or_create event new_case_id]) →
    store.lookup_or_create new_case_id event (run store.step store.empty calls) =
      .ok (case, opened) s' →
    case.tenant_id = event.tenant_id
  binds : ∀ calls event new_case_id case opened s',
    AllSteps store.step Proper store.empty (calls ++ [.lookup_or_create event new_case_id]) →
    store.lookup_or_create new_case_id event (run store.step store.empty calls) =
      .ok (case, opened) s' →
    (opened = false →
      first (store.view (run store.step store.empty calls)).correlation event.correlation_keys =
        some case.case_id) ∧
      (∀ key ∈ event.correlation_keys,
        dict.get (store.view s').correlation key = some case.case_id) ∧
      ∀ key, key ∉ event.correlation_keys → dict.get (store.view s').correlation key =
        dict.get (store.view (run store.step store.empty calls)).correlation key

section runs

variable {σ : Type} {store : StoreModel σ} {Proper : CaseCall → σ → Prop}

theorem Simulates.step (h : Simulates store Proper) {call : CaseCall} {s : σ}
    (hs : Linked (store.view s)) (hproper : Proper call s) :
    Correlates (store.view s) call (store.view (store.step call s)) := by
  cases call with
  | lookup_or_create event new_case_id =>
    refine wp_end (P := fun s' => Correlates _ _ (store.view s')) ?_
    refine wp_mono (h.lookup event new_case_id s hs hproper) ?_ fun _ _ h => h
    exact fun found s' h => .found h
  | register_correlation => exact h.register _ _ _ _ s hproper
  | delete => exact h.delete _ s hs

theorem Simulates.linked (h : Simulates store Proper) {calls : List CaseCall}
    (hcalls : AllSteps store.step Proper store.empty calls) :
    Linked (store.view (run store.step store.empty calls)) := by
  refine invariant (I := fun s => Linked (store.view s)) ?_ ?_ hcalls
  · intro call s hproper hs
    exact (h.step hs hproper).linked hs
  · rw [h.empty]
    exact ⟨fun _ _ h => (by cases h), fun _ h => (by cases h)⟩

theorem Simulates.keepsKeys (h : Simulates store Proper) : KeepsKeys store Proper where
  stays calls more key case_id hcalls hkey hnot := by
    obtain ⟨hbefore, hafter⟩ := allSteps_append.mp hcalls
    rw [run_append]
    have hlinked := h.linked hbefore
    have hboth := allSteps_and hafter hnot
    have hend := invariant (I := fun s => Linked (store.view s) ∧ Resolves (store.view s) key case_id)
      (fun call s hC hI => ?_) ⟨hlinked, hkey⟩ hboth
    · exact hend.2
    · have hstep := h.step hI.1 hC.1
      exact ⟨hstep.linked hI.1, hstep.keeps hC.2 hI.2⟩
  own_tenant calls event new_case_id case opened s' hcalls hlookup := by
    obtain ⟨hbefore, hproper, -⟩ := allSteps_append.mp hcalls
    have hlinked := h.linked hbefore
    exact ((wp_ok (h.lookup event new_case_id _ hlinked hproper) hlookup).opens hlinked).2.2
  binds calls event new_case_id case opened s' hcalls hlookup := by
    obtain ⟨hbefore, hproper, -⟩ := allSteps_append.mp hcalls
    have hlinked := h.linked hbefore
    exact (wp_ok (h.lookup event new_case_id _ hlinked hproper) hlookup).binds hlinked

end runs

/-! ## The two stores -/

/-- A new id is not in use, and a key is registered for a case of its own
tenant. The store on the database checks both. -/
def ProperCall : CaseCall → CaseStore → Prop
  | .lookup_or_create _ new_case_id, store => dict.get store.cases new_case_id = none
  | .register_correlation tenant_id case_id _ _, store =>
    ∀ case, dict.get store.cases case_id = some case → case.tenant_id = tenant_id
  | .delete _, _ => True

theorem inMemory_simulates : Simulates inMemory ProperCall where
  lookup event new_case_id store hlinked hproper := by
    show wp (CaseStore.lookup_or_create new_case_id event) _ _ store
    unfold CaseStore.lookup_or_create
    rw [wp_bind, wp_get, find_by_correlation_eq]
    rcases hfirst : first store.correlation (bound_keys event.tenant_id event.keys) with _ | id
    · have hopened : Found event new_case_id (inMemory.view store) (event.order_case new_case_id)
          true (store.with_case event new_case_id) := .opened hfirst hproper
      refine wp_mono wp_open ?_ ?_
      · rintro found store' ⟨rfl, hview⟩
        rw [hview]
        exact hopened
      · rintro e store' (rfl | hview)
        · exact .idle _
        · rw [hview]
          exact .found hopened
    · obtain ⟨case, hcase, htenant⟩ := hlinked.first hfirst
      have hid : case.case_id = id := hlinked.keyed id case hcase
      rw [Option.bind_some, show dict.get store.cases id = some case from hcase]
      refine wp_mono wp_attach ?_ fun _ _ h => h.elim
      rintro found store' ⟨rfl, rfl⟩
      rw [hid]
      exact .attached id case hfirst hcase
  register tenant_id case_id key_type key_value store hproper := by
    refine wp_end (P := fun store' => Correlates _ _ (inMemory.view store')) ?_
    show wp (CaseStore.register_correlation tenant_id case_id key_type key_value) _ _ store
    unfold CaseStore.register_correlation
    rw [wp_bind, wp_get, wp_bind, wp_require]
    refine ⟨fun hknown => ?_, fun _ => .idle _⟩
    rw [wp_set]
    obtain ⟨case, hcase⟩ := Option.isSome_iff_exists.mp hknown
    exact .pointed key_type key_value case hcase (hproper case hcase)
  delete case_id store _ := .deleted case_id
  empty := rfl

theorem onDatabase_simulates (db : CaseDatabase) : Simulates (onDatabase db) fun _ _ => True where
  lookup event new_case_id tables hlinked _ := by
    refine wp_transaction ?_ fun e _ => .idle _
    unfold DatabaseBackedCaseStore.lookup_or_create
    refine returns_bind fun existing hfind => ?_
    have hfirst := find_by_priority_eq hfind
    rcases existing with _ | id
    · refine returns_mono database_open_cases ?_
      rintro ⟨tables', case, opened⟩ ⟨hunused, hopened, hcases, hkeys⟩
      cases hopened
      dsimp only at hcases hkeys
      show Found _ _ _ _ _ ⟨tables'.api.cases, tables'.case_correlation_keys⟩
      rw [hcases, hkeys]
      exact .opened hfirst.symm hunused
    · refine returns_mono database_attach_cases ?_
      rintro ⟨tables', case, opened⟩ ⟨hcase, hopened, htables⟩
      cases hopened
      cases htables
      exact .attached id case hfirst.symm hcase
  register tenant_id case_id key_type key_value tables _ := by
    refine wp_end (P := fun tables' => Correlates _ _ ((onDatabase db).view tables')) ?_
    refine wp_transaction ?_ fun e _ => .idle _
    unfold DatabaseBackedCaseStore.register_correlation
    refine returns_ite (fun _ => returns_error _) fun hknown => ?_
    refine returns_bind fun text htext => (returns_pure _).mpr ?_
    cases bind_text_str htext
    rcases hcase : dict.get tables.api.cases case_id with _ | case
    · rw [hcase] at hknown
      exact absurd rfl hknown
    · rw [hcase] at hknown
      exact .pointed key_type key_value case hcase (by simpa using hknown)
  delete case_id tables hlinked := by
    refine wp_end (P := fun tables' => Correlates _ _ ((onDatabase db).view tables')) ?_
    refine wp_transaction ?_ fun e _ => .idle _
    unfold DatabaseBackedCaseStore.delete
    rcases hcase : dict.get tables.api.cases case_id with _ | case
    · exact (returns_ok _).mpr (.idle _)
    refine returns_ite (fun _ => returns_error _) fun _ => (returns_ok _).mpr ?_
    -- Only keys of the case's tenant point at it, so all of them go.
    have hkeys : (tables.case_correlation_keys.filter fun p =>
        !decide (p.2 = case_id ∧ p.1.1 = case.tenant_id)) =
        detach tables.case_correlation_keys case_id := by
      refine List.filter_congr fun p hp => ?_
      by_cases hpoints : p.2 = case_id
      · obtain ⟨case', hcase', htenant⟩ := hlinked.owned p hp
        rw [hpoints] at hcase'
        cases hcase.symm.trans hcase'
        simp [hpoints, htenant]
      · simp [hpoints]
    show Correlates _ _ ⟨_, _⟩
    rw [hkeys]
    exact .deleted case_id
  empty := rfl

/-- A database that takes every text, without other tables. -/
def plainDatabase : CaseDatabase := ⟨fun _ => none, fun _ _ => false⟩

def poEvent : InboundEvent :=
  { tenant_id := "T1", origin := "API", customer_po_number := some "PO-1" }

def soEvent : InboundEvent := { tenant_id := "T1", origin := "API", sales_order_id := some "SO-1" }

def bothEvent : InboundEvent := { soEvent with customer_po_number := some "PO-1" }

/-- Over every run of either store a key keeps its case until the case is
deleted, the key is registered for another case, or an event carries it that
an earlier key binds elsewhere; each event gets a case of its own tenant; and
the keys of the event, and no others, are then pointed at that case. -/
theorem keys_keep_their_case_until_they_are_diverted :
    KeepsKeys inMemory ProperCall ∧
      ∀ db : CaseDatabase, KeepsKeys (onDatabase db) fun _ _ => True :=
  ⟨inMemory_simulates.keepsKeys, fun db => (onDatabase_simulates db).keepsKeys⟩

theorem a_shared_key_stays_with_the_first_case :
    Resolves (inMemory.view (run inMemory.step inMemory.empty
      [.lookup_or_create poEvent "A", .lookup_or_create { poEvent with
        edi_transaction_id := some "EDI-1" } "B"]))
      ("T1", "customer_po_number", "PO-1") "A" :=
  keys_keep_their_case_until_they_are_diverted.1.stays [.lookup_or_create poEvent "A"]
    [.lookup_or_create { poEvent with edi_transaction_id := some "EDI-1" } "B"]
    ("T1", "customer_po_number", "PO-1") "A" ⟨rfl, by unfold ProperCall; decide +kernel, trivial⟩
    (by decide +kernel) ⟨by decide +kernel, trivial⟩

/-- An event with the keys of two cases moves one of them, on both stores. -/
theorem an_event_with_keys_of_two_cases_moves_one :
    (let before := run inMemory.step inMemory.empty
        [.lookup_or_create poEvent "A", .lookup_or_create soEvent "B"]
      let after := inMemory.step (.lookup_or_create bothEvent "C") before
      Resolves (inMemory.view before) ("T1", "customer_po_number", "PO-1") "A" ∧
        Resolves (inMemory.view after) ("T1", "customer_po_number", "PO-1") "B" ∧
        (dict.get (inMemory.view after).cases "A").isSome = true) ∧
      let store := onDatabase plainDatabase
      let before := run store.step store.empty
        [.lookup_or_create poEvent "A", .lookup_or_create soEvent "B"]
      let after := store.step (.lookup_or_create bothEvent "C") before
      Resolves (store.view before) ("T1", "customer_po_number", "PO-1") "A" ∧
        Resolves (store.view after) ("T1", "customer_po_number", "PO-1") "B" ∧
        (dict.get (store.view after).cases "A").isSome = true := by
  decide +kernel

end asoe
