-- Lookups that run next to each other. In memory the case is searched before
-- the lock is taken; on the database each key is a SELECT of its own, and the
-- upserts never conflict. So two events with one key may both open a case,
-- unless what a call found is still what there is when it writes.
import Asoe.CorrelationKeys
import Asoe.Lib.Interleaving

namespace asoe

open py prog runs keyindex interleaving

/-! ## One call -/

/-- How far a call of `lookup_or_create` has come: the keys that it has still
to look for, the case that it found, and how it ended. -/
inductive LookupState (β : Type) where
  | looking (keys : List (String × Option String))
  | found (existing : β)
  | done (case : OrderCase) (opened : Bool)
  | failed (e : PyErr)

/-- The case that the call has ended with, and whether it opened it. -/
def LookupState.answer {β : Type} : LookupState β → Option (OrderCase × Bool)
  | .done case opened => some (case, opened)
  | _ => none

variable {κ : Type} (events : κ → InboundEvent) (new_ids : κ → String)

/-- In memory: the search, and what is done under the lock. -/
def memory_next (i : κ) : LookupState (Option OrderCase) → CaseStore →
    LookupState (Option OrderCase) × CaseStore
  | .looking keys, store => (.found (store.find_by_correlation (events i).tenant_id keys), store)
  | .found existing, store =>
    match CaseStore.attach_or_open (new_ids i) (events i) existing store with
    | .ok found store' => (.done found.1 found.2, store')
    | .error e store' => (.failed e, store')
  | .done case opened, store => (.done case opened, store)
  | .failed e, store => (.failed e, store)

/-- On the database: a `SELECT` for each key that is set, and the writes, which
the others see when they are committed. -/
def database_next (db : CaseDatabase) (i : κ) : LookupState (Option String) → Tables →
    LookupState (Option String) × Tables
  | .looking [], tables => (.found none, tables)
  | .looking ((_, none) :: keys), tables => (.looking keys, tables)
  | .looking ((key_type, some key_value) :: keys), tables =>
    if key_value = "" then (.looking keys, tables)
    else
      match db.bind_text (.str key_value) with
      | .error e => (.failed e, tables)
      | .ok text =>
        match dict.get tables.case_correlation_keys ((events i).tenant_id, key_type, text) with
        | some case_id => (.found (some case_id), tables)
        | none => (.looking keys, tables)
  | .found existing, tables =>
    match DatabaseBackedCaseStore.attach_or_open db (new_ids i) (events i) existing tables with
    | .ok (tables', case, opened) => (.done case opened, tables')
    | .error e => (.failed e, tables)
  | .done case opened, tables => (.done case opened, tables)
  | .failed e, tables => (.failed e, tables)

/-- What a step of a call does to the keys: nothing, or it points all keys of
its event at the case that it found, or at a case that it opens. -/
inductive Looks {β : Type} (event : InboundEvent) (new_case_id : String)
    (owner : β → Option String) (v v' : Correlations) (l l' : LookupState β) : Prop where
  | quiet (hview : v' = v) (hanswer : l'.answer = l.answer)
  | attached (existing : β) (case : OrderCase) (hl : l = .found existing)
      (howner : owner existing = some case.case_id) (hcases : v'.cases = v.cases)
      (hkeys : v'.correlation = attach v.correlation event.correlation_keys case.case_id)
      (hanswer : l'.answer = some (case, false))
  | opened (existing : β) (hl : l = .found existing) (howner : owner existing = none)
      (hcases : v'.cases = dict.set v.cases new_case_id (event.order_case new_case_id))
      (hkeys : v'.correlation = attach v.correlation event.correlation_keys new_case_id)
      (hanswer : l'.answer = some (event.order_case new_case_id, true) ∨ l'.answer = none)

/-- Each case of the store stands under its id. -/
def StoredById (v : Correlations) : Prop :=
  ∀ id case, dict.get v.cases id = some case → case.case_id = id

section steps

variable {events new_ids} {i : κ}

theorem memory_next_looks {l : LookupState (Option OrderCase)} {store : CaseStore} :
    Looks (events i) (new_ids i) (Option.map OrderCase.case_id) (inMemory.view store)
      (inMemory.view (memory_next events new_ids i l store).2) l
      (memory_next events new_ids i l store).1 := by
  cases l with
  | looking keys => exact .quiet rfl rfl
  | done case opened => exact .quiet rfl rfl
  | failed e => exact .quiet rfl rfl
  | found existing =>
    rw [memory_next]
    rcases existing with _ | existing
    · rcases hrun : CaseStore.attach_or_open (new_ids i) (events i) none store with
        ⟨found, store'⟩ | ⟨e, store'⟩
      · obtain ⟨rfl, hview⟩ := wp_ok wp_open hrun
        dsimp only
        rw [hview]
        exact .opened none rfl rfl rfl rfl (Or.inl rfl)
      · have hend := wp_error wp_open hrun
        rcases hend with rfl | hview
        · exact .quiet rfl rfl
        · dsimp only
          rw [hview]
          exact .opened none rfl rfl rfl rfl (Or.inr rfl)
    · rcases hrun : CaseStore.attach_or_open (new_ids i) (events i) (some existing) store with
        ⟨found, store'⟩ | ⟨e, store'⟩
      · obtain ⟨rfl, rfl⟩ := wp_ok wp_attach hrun
        exact .attached (some existing) existing rfl rfl rfl rfl rfl
      · exact (wp_error wp_attach hrun).elim

theorem database_next_looks {db : CaseDatabase} {l : LookupState (Option String)}
    {tables : Tables} (hkeyed : StoredById ((onDatabase db).view tables)) :
    Looks (events i) (new_ids i) id ((onDatabase db).view tables)
      ((onDatabase db).view (database_next events new_ids db i l tables).2) l
      (database_next events new_ids db i l tables).1 := by
  cases l with
  | looking keys =>
    rcases keys with _ | ⟨⟨key_type, _ | key_value⟩, keys⟩
    · exact .quiet rfl rfl
    · exact .quiet rfl rfl
    · rw [database_next]
      split
      · exact .quiet rfl rfl
      · split
        · exact .quiet rfl rfl
        · split
          · exact .quiet rfl rfl
          · exact .quiet rfl rfl
  | done case opened => exact .quiet rfl rfl
  | failed e => exact .quiet rfl rfl
  | found existing =>
    rw [database_next]
    rcases hrun : DatabaseBackedCaseStore.attach_or_open db (new_ids i) (events i) existing tables
      with e | ⟨tables', case, opened⟩
    · exact .quiet rfl rfl
    · rcases existing with _ | id
      · obtain ⟨-, hopened, hcases, hkeys⟩ := database_open_cases _ hrun
        cases hopened
        exact .opened none rfl rfl hcases hkeys (Or.inl rfl)
      · obtain ⟨hcase, hopened, htables⟩ := database_attach_cases _ hrun
        cases hopened
        cases htables
        cases hkeyed id case hcase
        exact .attached _ case rfl rfl rfl rfl rfl

end steps

/-! ## Before the writes -/

section conditions

variable {β : Type} (owner : β → Option String) (v : Correlations) (event : InboundEvent)

/-- A call that is about to write has found what a lookup finds now. -/
def LookupState.FindsCurrent : LookupState β → Prop
  | .found existing => owner existing = first v.correlation event.correlation_keys
  | _ => True

instance decidableFindsCurrent : (l : LookupState β) → Decidable (l.FindsCurrent owner v event)
  | .found _ => inferInstanceAs (Decidable (_ = _))
  | .looking _ | .done _ _ | .failed _ => instDecidableTrue

/-- The known keys of a call that is about to write all name one case. -/
def LookupState.NamesOneCase : LookupState β → Prop
  | .found _ => ∀ key ∈ event.correlation_keys, dict.get v.correlation key = none ∨
      dict.get v.correlation key = first v.correlation event.correlation_keys
  | _ => True

instance decidableNamesOneCase : (l : LookupState β) → Decidable (l.NamesOneCase v event)
  | .found _ => inferInstanceAs (Decidable (∀ key ∈ event.correlation_keys, _ ∨ _))
  | .looking _ | .done _ _ | .failed _ => instDecidableTrue

end conditions

/-! ## Schedules -/

section schedules

variable {β σ : Type} (view : σ → Correlations) (owner : β → Option String)

/-- Two calls whose events share a key do not both open a case. -/
def OneOpens (c : Conf κ (LookupState β) σ) : Prop :=
  ∀ i j case_i case_j, i ≠ j → (c.locals i).answer = some (case_i, true) →
    (c.locals j).answer = some (case_j, true) →
    ∀ key ∈ (events i).correlation_keys, key ∉ (events j).correlation_keys

/-- Two calls whose events share a key end on the same case. -/
def SameCase (c : Conf κ (LookupState β) σ) : Prop :=
  ∀ i j case_i case_j opened_i opened_j, (c.locals i).answer = some (case_i, opened_i) →
    (c.locals j).answer = some (case_j, opened_j) →
    ∀ key ∈ (events i).correlation_keys, key ∈ (events j).correlation_keys →
      case_i.case_id = case_j.case_id

/-- The keys of every call that has ended are known. -/
def KeysKnown (c : Conf κ (LookupState β) σ) : Prop :=
  ∀ i answer, (c.locals i).answer = some answer → ∀ key ∈ (events i).correlation_keys,
    ∃ id, dict.get (view c.shared).correlation key = some id

/-- The keys of every call that has ended lead to its case. -/
def KeysLead (c : Conf κ (LookupState β) σ) : Prop :=
  ∀ i case opened, (c.locals i).answer = some (case, opened) →
    ∀ key ∈ (events i).correlation_keys,
      dict.get (view c.shared).correlation key = some case.case_id

variable [DecidableEq κ] {events new_ids view owner}
  {next : κ → LookupState β → σ → LookupState β × σ} {i : κ} {c : Conf κ (LookupState β) σ}

theorem answer_step {j : κ} {answer : OrderCase × Bool}
    (h : ((interleaving.step next i c).locals j).answer = some answer) :
    j = i ∧ (next i (c.locals i) c.shared).1.answer = some answer ∨
      j ≠ i ∧ (c.locals j).answer = some answer := by
  by_cases hij : j = i
  · subst hij
    rw [step_locals_self] at h
    exact Or.inl ⟨rfl, h⟩
  · rw [step_locals_of_ne next c hij] at h
    exact Or.inr ⟨hij, h⟩

theorem answer_quiet {j : κ} (h : (next i (c.locals i) c.shared).1.answer = (c.locals i).answer) :
    ((interleaving.step next i c).locals j).answer = (c.locals j).answer := by
  by_cases hij : j = i
  · subst hij
    rw [step_locals_self, h]
  · rw [step_locals_of_ne next c hij]

theorem known_attach {m : List (CorrelationKey × String)} {ks : List CorrelationKey}
    {k : CorrelationKey} {id : String} (case_id : String) (h : dict.get m k = some id) :
    ∃ id, dict.get (attach m ks case_id) k = some id := by
  by_cases hk : k ∈ ks
  · exact ⟨case_id, get_attach_of_mem case_id hk⟩
  · exact ⟨id, by rw [get_attach_of_notMem case_id hk, h]⟩

theorem unknown_of_first {m : List (CorrelationKey × String)} {ks : List CorrelationKey}
    {k : CorrelationKey} (h : first m ks = none) (hk : k ∈ ks) : dict.get m k = none := by
  rcases hget : dict.get m k with _ | id
  · rfl
  · obtain ⟨id', hfirst⟩ := first_of_known hk hget
    cases h.symm.trans hfirst

variable (hlooks : Looks (events i) (new_ids i) owner (view c.shared)
  (view (next i (c.locals i) c.shared).2) (c.locals i) (next i (c.locals i) c.shared).1)

include hlooks

theorem storedById_step (h : StoredById (view c.shared)) :
    StoredById (view (interleaving.step next i c).shared) := by
  rw [step_shared]
  cases hlooks with
  | quiet hview => rwa [hview]
  | attached existing case hl howner hcases =>
    unfold StoredById
    rwa [hcases]
  | opened existing hl howner hcases =>
    intro id case hid
    rw [hcases] at hid
    by_cases hnew : id = new_ids i
    · subst hnew
      rw [dict.get_set_self] at hid
      cases hid
      rfl
    · rw [dict.get_set_of_ne _ _ hnew] at hid
      exact h id case hid

theorem keysKnown_step (h : KeysKnown events view c) :
    KeysKnown events view (interleaving.step next i c) := by
  intro j answer hanswer key hkey
  rw [step_shared]
  have hwritten : ∀ case_id, (view (next i (c.locals i) c.shared).2).correlation =
      attach (view c.shared).correlation (events i).correlation_keys case_id →
      ∃ id, dict.get (view (next i (c.locals i) c.shared).2).correlation key = some id := by
    intro case_id hkeys
    rw [hkeys]
    rcases answer_step hanswer with ⟨rfl, -⟩ | ⟨-, hbefore⟩
    · exact ⟨case_id, get_attach_of_mem case_id hkey⟩
    · obtain ⟨id, hid⟩ := h j answer hbefore key hkey
      exact known_attach case_id hid
  cases hlooks with
  | quiet hview hquiet =>
    rw [answer_quiet hquiet] at hanswer
    rw [hview]
    exact h j answer hanswer key hkey
  | attached existing case hl howner hcases hkeys => exact hwritten _ hkeys
  | opened existing hl howner hcases hkeys => exact hwritten _ hkeys

theorem oneOpens_step (hcurrent : (c.locals i).FindsCurrent owner (view c.shared) (events i))
    (hknown : KeysKnown events view c) (h : OneOpens events c) :
    OneOpens events (interleaving.step next i c) := by
  -- A key of the call that opens a case is known to no call that has ended.
  have hopens : ∀ existing, c.locals i = .found existing → owner existing = none →
      ∀ j answer, (c.locals j).answer = some answer →
      ∀ key ∈ (events j).correlation_keys, key ∉ (events i).correlation_keys := by
    intro existing hl howner j answer hanswer key hj hi
    rw [hl] at hcurrent
    obtain ⟨id, hid⟩ := hknown j answer hanswer key hj
    cases (unknown_of_first (hcurrent.symm.trans howner) hi).symm.trans hid
  intro j k case_j case_k hjk hj hk key hkj hkk
  cases hlooks with
  | quiet hview hquiet =>
    rw [answer_quiet hquiet] at hj hk
    exact h j k case_j case_k hjk hj hk key hkj hkk
  | attached existing case hl howner hcases hkeys hanswer =>
    rcases answer_step hj with ⟨rfl, hend⟩ | ⟨-, hj'⟩
    · cases hanswer.symm.trans hend
    · rcases answer_step hk with ⟨rfl, hend⟩ | ⟨-, hk'⟩
      · cases hanswer.symm.trans hend
      · exact h j k case_j case_k hjk hj' hk' key hkj hkk
  | opened existing hl howner =>
    rcases answer_step hj with ⟨rfl, -⟩ | ⟨-, hj'⟩
    · rcases answer_step hk with ⟨rfl, -⟩ | ⟨-, hk'⟩
      · exact hjk rfl
      · exact hopens existing hl howner k _ hk' key hkk hkj
    · rcases answer_step hk with ⟨rfl, -⟩ | ⟨-, hk'⟩
      · exact hopens existing hl howner j _ hj' key hkj hkk
      · exact h j k case_j case_k hjk hj' hk' key hkj hkk

theorem keysLead_step (hcurrent : (c.locals i).FindsCurrent owner (view c.shared) (events i))
    (hone : (c.locals i).NamesOneCase (view c.shared) (events i)) (h : KeysLead events view c) :
    KeysLead events view (interleaving.step next i c) := by
  intro j case opened hanswer key hkey
  rw [step_shared]
  cases hlooks with
  | quiet hview hquiet =>
    rw [answer_quiet hquiet] at hanswer
    rw [hview]
    exact h j case opened hanswer key hkey
  | attached existing case' hl howner hcases hkeys hanswer' =>
    rw [hl] at hcurrent hone
    have hfirst : first (view c.shared).correlation (events i).correlation_keys =
        some case'.case_id := hcurrent.symm.trans howner
    rw [hkeys]
    rcases answer_step hanswer with ⟨rfl, hend⟩ | ⟨-, hbefore⟩
    · cases hanswer'.symm.trans hend
      exact get_attach_of_mem _ hkey
    · have hlead := h j case opened hbefore key hkey
      by_cases hshared : key ∈ (events i).correlation_keys
      · rw [get_attach_of_mem _ hshared]
        rcases hone key hshared with hnone | hsame
        · cases hnone.symm.trans hlead
        · exact hfirst.symm.trans (hsame.symm.trans hlead)
      · rw [get_attach_of_notMem _ hshared, hlead]
  | opened existing hl howner hcases hkeys hend =>
    rw [hl] at hcurrent
    rw [hkeys]
    rcases answer_step hanswer with ⟨rfl, hdone⟩ | ⟨-, hbefore⟩
    · rcases hend with hend | hend
      · cases hend.symm.trans hdone
        exact get_attach_of_mem _ hkey
      · cases hend.symm.trans hdone
    · have hlead := h j case opened hbefore key hkey
      rw [get_attach_of_notMem, hlead]
      intro hshared
      cases (unknown_of_first (hcurrent.symm.trans howner) hshared).symm.trans hlead

omit hlooks

/-- Over a schedule in which every call that writes has found what there is,
no two events with one key both open a case; and when no event carries the
keys of two cases, the events with one key end on the same case. -/
theorem lookups_share (hlooks : ∀ i l s, StoredById (view s) →
      Looks (events i) (new_ids i) owner (view s) (view (next i l s).2) l (next i l s).1)
    (hstored : StoredById (view c.shared)) (hstart : ∀ i, (c.locals i).answer = none)
    {schedule : List κ}
    (hcurrent : AllSteps (interleaving.step next)
      (fun i c => (c.locals i).FindsCurrent owner (view c.shared) (events i)) c schedule) :
    OneOpens events (run (interleaving.step next) c schedule) ∧
      (AllSteps (interleaving.step next)
          (fun i c => (c.locals i).NamesOneCase (view c.shared) (events i)) c schedule →
        SameCase events (run (interleaving.step next) c schedule)) := by
  have hnone : ∀ {i answer}, (c.locals i).answer ≠ some answer := by
    intro i answer h
    cases (hstart i).symm.trans h
  constructor
  · have hend := invariant (I := fun c => StoredById (view c.shared) ∧ KeysKnown events view c ∧
        OneOpens events c) (fun i c hcurrent hI => ?_)
      ⟨hstored, fun _ _ h => (hnone h).elim, fun _ _ _ _ _ h => (hnone h).elim⟩ hcurrent
    · exact hend.2.2
    · have hstep := hlooks i (c.locals i) c.shared hI.1
      exact ⟨storedById_step hstep hI.1, keysKnown_step hstep hI.2.1,
        oneOpens_step hstep hcurrent hI.2.1 hI.2.2⟩
  · intro hone
    have hend := invariant (I := fun c => StoredById (view c.shared) ∧ KeysLead events view c)
      (fun i c hboth hI => ?_) ⟨hstored, fun _ _ _ h => (hnone h).elim⟩ (allSteps_and hcurrent hone)
    · intro i j case_i case_j opened_i opened_j hi hj key hki hkj
      have hlead := (hend.2 i case_i opened_i hi key hki).symm.trans
        (hend.2 j case_j opened_j hj key hkj)
      exact Option.some.inj hlead
    · have hstep := hlooks i (c.locals i) c.shared hI.1
      exact ⟨storedById_step hstep hI.1, keysLead_step hstep hboth.1 hboth.2 hI.2⟩

end schedules

/-! ## The two stores -/

section stores

variable [DecidableEq κ]

/-- The calls before their first step, on a store. -/
def lookups_start {β σ : Type} (s : σ) : Conf κ (LookupState β) σ :=
  ⟨fun i => .looking (events i).keys, s⟩

/-- The calls on the store in memory, after this schedule. -/
abbrev memory_lookups (store : CaseStore) (schedule : List κ) :
    Conf κ (LookupState (Option OrderCase)) CaseStore :=
  run (interleaving.step (memory_next events new_ids)) (lookups_start events store) schedule

/-- The calls on the database, after this schedule. -/
abbrev database_lookups (db : CaseDatabase) (tables : Tables) (schedule : List κ) :
    Conf κ (LookupState (Option String)) Tables :=
  run (interleaving.step (database_next events new_ids db)) (lookups_start events tables) schedule

/-- Each call that is about to write has found what there is: then, on both
stores, no two events with one key both open a case, and they end on the same
case unless some event carries the keys of two cases. -/
theorem lookups_that_find_what_there_is_share_their_case
    (store : CaseStore) (schedule : List κ) (hstore : StoredById (inMemory.view store))
    (hmemory : AllSteps (interleaving.step (memory_next events new_ids))
      (fun i c => (c.locals i).FindsCurrent (Option.map OrderCase.case_id)
        (inMemory.view c.shared) (events i)) (lookups_start events store) schedule)
    (db : CaseDatabase) (tables : Tables) (schedule' : List κ)
    (htables : StoredById ((onDatabase db).view tables))
    (hdatabase : AllSteps (interleaving.step (database_next events new_ids db))
      (fun i c => (c.locals i).FindsCurrent id ((onDatabase db).view c.shared) (events i))
      (lookups_start events tables) schedule') :
    (OneOpens events (memory_lookups events new_ids store schedule) ∧
      (AllSteps (interleaving.step (memory_next events new_ids))
          (fun i c => (c.locals i).NamesOneCase (inMemory.view c.shared) (events i))
          (lookups_start events store) schedule →
        SameCase events (memory_lookups events new_ids store schedule))) ∧
    (OneOpens events (database_lookups events new_ids db tables schedule') ∧
      (AllSteps (interleaving.step (database_next events new_ids db))
          (fun i c => (c.locals i).NamesOneCase ((onDatabase db).view c.shared) (events i))
          (lookups_start events tables) schedule' →
        SameCase events (database_lookups events new_ids db tables schedule'))) :=
  ⟨lookups_share (fun _ _ _ _ => memory_next_looks) hstore (fun _ => rfl) hmemory,
    lookups_share (fun _ _ _ => database_next_looks) htables (fun _ => rfl) hdatabase⟩

end stores

/-- Two events with the purchase order PO-1. -/
def sampleEvents (i : Bool) : InboundEvent :=
  if i then { poEvent with edi_transaction_id := some "EDI-1" } else poEvent

def sampleIds (i : Bool) : String := if i then "B" else "A"

/-- The second call begins when the first one has written. -/
theorem two_lookups_after_each_other_share_their_case :
    OneOpens sampleEvents
        (memory_lookups sampleEvents sampleIds {} [false, false, true, true]) ∧
      SameCase sampleEvents (database_lookups sampleEvents sampleIds plainDatabase {}
        [false, false, false, false, false, false, true, true, true]) := by
  have hshare := lookups_that_find_what_there_is_share_their_case sampleEvents sampleIds {}
    [false, false, true, true] (fun _ _ h => by cases h) (by decide +kernel) plainDatabase {}
    [false, false, false, false, false, false, true, true, true] (fun _ _ h => by cases h)
    (by decide +kernel)
  exact ⟨hshare.1.1, hshare.2.2 (by decide +kernel)⟩

/-- Both calls search before one of them writes, and both open a case, in
memory and on the database. -/
theorem two_lookups_that_find_nothing_both_open :
    ¬ (∀ (events : Bool → InboundEvent) (ids : Bool → String) (schedule : List Bool),
        ids false ≠ ids true →
        OneOpens events (memory_lookups events ids {} schedule)) ∧
      ¬ ∀ (db : CaseDatabase) (events : Bool → InboundEvent) (ids : Bool → String)
        (schedule : List Bool), ids false ≠ ids true →
        OneOpens events (database_lookups events ids db {} schedule) := by
  constructor
  · intro h
    exact h sampleEvents sampleIds [false, true, false, true] (by decide) false true
      ((sampleEvents false).order_case "A") ((sampleEvents true).order_case "B") (by decide)
      (by decide +kernel) (by decide +kernel) ("T1", "customer_po_number", "PO-1") (by decide +kernel)
      (by decide +kernel)
  · intro h
    exact h plainDatabase sampleEvents sampleIds
      [false, false, false, false, false, true, true, true, true, true, false, true] (by decide)
      false true ((sampleEvents false).order_case "A") ((sampleEvents true).order_case "B")
      (by decide) (by decide +kernel) (by decide +kernel) ("T1", "customer_po_number", "PO-1")
      (by decide +kernel) (by decide +kernel)

end asoe
