-- The lock of a case on the database. A row of `case_locks` is the lease of
-- the worker that inserted it. An expired row gives way to the next insert,
-- but a release deletes the row of its case whoever inserted it. So leases
-- exclude each other exactly while no release comes after a takeover.
import Asoe.Lib.Interleaving
import Mathlib.Data.List.Nodup

namespace asoe

open runs interleaving

/-! ## The table -/

/-- The times of a lease, in microseconds. Their ISO texts, all in UTC, have the
same order. -/
structure Lease where
  acquired_at : ℕ
  expires_at : ℕ
  deriving DecidableEq

/-- A row of `case_locks`. `holder` is the call that inserted the row: no
column of the table says so. -/
structure LockRow (κ : Type) where
  case_id : String
  tenant_id : String
  lease : Lease
  holder : κ
  deriving DecidableEq

namespace CaseLockRepository

variable {κ : Type}

def DEFAULT_TTL_SECONDS : ℕ := 60

/-- The lease that a call takes out with this reading of the clock. -/
def lease_from (now_dt ttl_seconds : ℕ) : Lease :=
  ⟨now_dt, now_dt + ttl_seconds * 1000000⟩

/-- The transaction of `try_acquire`: the expired row of the case is swept,
and the insert fails when there is still one. -/
def try_acquire (case_id tenant_id : String) (ttl_seconds now_dt : ℕ) (holder : κ)
    (rows : List (LockRow κ)) : Bool × List (LockRow κ) :=
  let swept := rows.filter fun row =>
    ¬ (row.case_id = case_id ∧ row.tenant_id = tenant_id ∧ row.lease.expires_at < now_dt)
  if case_id ∈ swept.map LockRow.case_id then (false, rows)
  else (true, swept ++ [⟨case_id, tenant_id, lease_from now_dt ttl_seconds, holder⟩])

def release (case_id tenant_id : String) (rows : List (LockRow κ)) : List (LockRow κ) :=
  rows.filter fun row => ¬ (row.case_id = case_id ∧ row.tenant_id = tenant_id)

end CaseLockRepository

open CaseLockRepository

/-! ## The workers -/

/-- One use of the lock: the case that a worker takes. -/
structure LockCall where
  tenant_id : String
  case_id : String

/-- How far a call has come. It reads the clock before its transaction, and
its handle is marked as released before the row is deleted. -/
inductive LockState where
  | idle
  | acquiring (now_dt : ℕ)
  | held (lease : Lease)
  | releasing (lease : Lease)
  | released
  | refused
  deriving DecidableEq

/-- The lease of a call, until its release is through. -/
def LockState.lease : LockState → Option Lease
  | .held lease | .releasing lease => some lease
  | _ => none

structure LockTable (κ : Type) where
  clock : ℕ
  rows : List (LockRow κ) := []

section workers

variable {κ : Type} (calls : κ → LockCall)

/-- `DatabaseBackedCaseLockManager.try_acquire`, and `_DBLockHandle.release`. -/
def lock_next (i : κ) : LockState → LockTable κ → LockState × LockTable κ
  | .idle, table => (.acquiring table.clock, table)
  | .acquiring now_dt, table =>
    let taken := try_acquire (calls i).case_id (calls i).tenant_id DEFAULT_TTL_SECONDS now_dt i
      table.rows
    if taken.1 then
      (.held (lease_from now_dt DEFAULT_TTL_SECONDS), { table with rows := taken.2 })
    else (.refused, table)
  | .held lease, table => (.releasing lease, table)
  | .releasing _, table =>
    (.released, { table with rows := release (calls i).case_id (calls i).tenant_id table.rows })
  | l, table => (l, table)

/-- Time passes, or a call takes its next step. -/
inductive LockEvent (κ : Type) where
  | elapse (microseconds : ℕ)
  | turn (i : κ)

variable [DecidableEq κ]

def lock_step : LockEvent κ → Conf κ LockState (LockTable κ) → Conf κ LockState (LockTable κ)
  | .elapse microseconds, c =>
    { c with shared := { c.shared with clock := c.shared.clock + microseconds } }
  | .turn i, c => interleaving.step (lock_next calls) i c

/-- No call has begun, and no case is locked. -/
def unlocked (clock : ℕ) : Conf κ LockState (LockTable κ) := ⟨fun _ => .idle, { clock := clock }⟩

end workers

/-! ## What the lock is for -/

section leases

variable {κ : Type} (calls : κ → LockCall)

/-- Of two calls that hold one case, the lease of one has expired. -/
def Exclusive (c : Conf κ LockState (LockTable κ)) : Prop :=
  ∀ i j l l', i ≠ j → (calls i).case_id = (calls j).case_id →
    (c.locals i).lease = some l → (c.locals j).lease = some l' →
    ¬ (c.shared.clock ≤ l.expires_at ∧ c.shared.clock ≤ l'.expires_at)

/-- Another worker took the case over, and still has its row. -/
def TakenOver (i : κ) (c : Conf κ LockState (LockTable κ)) : Prop :=
  ∃ row ∈ c.shared.rows, row.case_id = (calls i).case_id ∧ row.tenant_id = (calls i).tenant_id ∧
    row.holder ≠ i

/-- A release comes before its lease has expired, or else before the case was
taken over. -/
def ReleasesInTime (event : LockEvent κ) (c : Conf κ LockState (LockTable κ)) : Prop :=
  ∀ i l, event = .turn i → c.locals i = .releasing l →
    c.shared.clock ≤ l.expires_at ∨ ¬ TakenOver calls i c

/-- The rows are the leases of their holders, and a lease that has not expired
has its row. -/
structure LeasesHold (c : Conf κ LockState (LockTable κ)) : Prop where
  unique : (c.shared.rows.map LockRow.case_id).Nodup
  read : ∀ i now_dt, c.locals i = .acquiring now_dt → now_dt ≤ c.shared.clock
  owned : ∀ row ∈ c.shared.rows, (c.locals row.holder).lease = some row.lease ∧
    row.case_id = (calls row.holder).case_id ∧ row.tenant_id = (calls row.holder).tenant_id
  backed : ∀ i l, (c.locals i).lease = some l → c.shared.clock ≤ l.expires_at →
    ∃ row ∈ c.shared.rows, row.holder = i

/-! ## The operations -/

variable {calls} {i j : κ} {c : Conf κ LockState (LockTable κ)} {rows : List (LockRow κ)}
  {case_id tenant_id : String} {ttl_seconds now_dt : ℕ}

theorem try_acquire_taken
    (h : (try_acquire case_id tenant_id ttl_seconds now_dt i rows).1 = true) :
    ∃ kept, kept.Sublist rows ∧ (∀ row ∈ rows, now_dt ≤ row.lease.expires_at → row ∈ kept) ∧
      case_id ∉ kept.map LockRow.case_id ∧
      (try_acquire case_id tenant_id ttl_seconds now_dt i rows).2 =
        kept ++ [⟨case_id, tenant_id, lease_from now_dt ttl_seconds, i⟩] := by
  unfold try_acquire at h ⊢
  dsimp only at h ⊢
  split at h
  · cases h
  · rename_i hfree
    rw [if_neg hfree]
    refine ⟨_, List.filter_sublist, fun row hrow hlive => ?_, hfree, rfl⟩
    refine List.mem_filter.mpr ⟨hrow, decide_eq_true fun hswept => ?_⟩
    omega

theorem mem_release {row : LockRow κ} :
    row ∈ release case_id tenant_id rows ↔
      row ∈ rows ∧ ¬ (row.case_id = case_id ∧ row.tenant_id = tenant_id) := by
  unfold release
  rw [List.mem_filter, decide_eq_true_eq]

/-! ## What a step keeps -/

theorem LeasesHold.row_unique (h : LeasesHold calls c) {row row' : LockRow κ}
    (hrow : row ∈ c.shared.rows) (hrow' : row' ∈ c.shared.rows)
    (hcase : row.case_id = row'.case_id) : row = row' :=
  List.inj_on_of_nodup_map h.unique hrow hrow' hcase

theorem LeasesHold.exclusive (h : LeasesHold calls c) : Exclusive calls c := by
  intro i j l l' hij hcase hi hj hlive
  obtain ⟨row, hrow, rfl⟩ := h.backed i l hi hlive.1
  obtain ⟨row', hrow', rfl⟩ := h.backed j l' hj hlive.2
  have hsame : row = row' := h.row_unique hrow hrow' <| by
    rw [(h.owned row hrow).2.1, (h.owned row' hrow').2.1]
    exact hcase
  exact hij (congrArg LockRow.holder hsame)

theorem LeasesHold.own_row (h : LeasesHold calls c) {l : Lease} (hl : (c.locals i).lease = some l)
    (htime : c.shared.clock ≤ l.expires_at ∨ ¬ TakenOver calls i c) {row : LockRow κ}
    (hrow : row ∈ c.shared.rows) (hcase : row.case_id = (calls i).case_id)
    (htenant : row.tenant_id = (calls i).tenant_id) : row.holder = i := by
  rcases htime with hlive | hkept
  · obtain ⟨own, hown, rfl⟩ := h.backed i l hl hlive
    exact congrArg LockRow.holder (h.row_unique hrow hown (hcase.trans (h.owned own hown).2.1.symm))
  · by_contra hother
    exact hkept ⟨row, hrow, hcase, htenant, hother⟩

theorem leasesHold_unlocked (calls : κ → LockCall) (clock : ℕ) :
    LeasesHold calls (unlocked clock) := by
  refine ⟨List.nodup_nil, fun i now_dt hi => ?_, fun row hrow => ?_, fun i l hi _ => ?_⟩
  · cases hi
  · cases hrow
  · cases hi

variable [DecidableEq κ]

theorem leasesHold_elapse (h : LeasesHold calls c) (microseconds : ℕ) :
    LeasesHold calls (lock_step calls (.elapse microseconds) c) where
  unique := h.unique
  read j now_dt hj := Nat.le_trans (h.read j now_dt hj) (Nat.le_add_right _ _)
  owned := h.owned
  backed j l hj hlive := h.backed j l hj (Nat.le_trans (Nat.le_add_right _ _) hlive)

/-- A step that keeps the lease of the call and the table. -/
theorem leasesHold_quiet (h : LeasesHold calls c) {l : LockState}
    (hnext : lock_next calls i (c.locals i) c.shared = (l, c.shared))
    (hlease : l.lease = (c.locals i).lease)
    (hread : ∀ now_dt, l = .acquiring now_dt → now_dt ≤ c.shared.clock) :
    LeasesHold calls (lock_step calls (.turn i) c) := by
  have hleases : ∀ j, ((lock_step calls (.turn i) c).locals j).lease = (c.locals j).lease := by
    intro j
    unfold lock_step
    by_cases hji : j = i
    · subst hji
      rw [step_locals_self, hnext, hlease]
    · rw [step_locals_of_ne _ _ hji]
  have hsame : (lock_step calls (.turn i) c).shared = c.shared := by
    unfold lock_step
    rw [step_shared, hnext]
  refine ⟨?_, fun j now_dt hj => ?_, fun row hrow => ?_, fun j l hj hlive => ?_⟩
  · rw [hsame]
    exact h.unique
  · rw [hsame]
    unfold lock_step at hj
    by_cases hji : j = i
    · subst hji
      rw [step_locals_self, hnext] at hj
      exact hread now_dt hj
    · rw [step_locals_of_ne _ _ hji] at hj
      exact h.read j now_dt hj
  · rw [hleases]
    rw [hsame] at hrow
    exact h.owned row hrow
  · rw [hleases] at hj
    rw [hsame] at hlive ⊢
    exact h.backed j l hj hlive

/-- A call that takes the lock. -/
theorem leasesHold_taken (h : LeasesHold calls c) {now_dt : ℕ}
    (hi : c.locals i = .acquiring now_dt)
    (htaken : (try_acquire (calls i).case_id (calls i).tenant_id DEFAULT_TTL_SECONDS now_dt i
      c.shared.rows).1 = true) : LeasesHold calls (lock_step calls (.turn i) c) := by
  obtain ⟨kept, hkept, hlive, hfree, hrows⟩ := try_acquire_taken htaken
  have hnext : lock_next calls i (c.locals i) c.shared =
      (.held (lease_from now_dt DEFAULT_TTL_SECONDS), { c.shared with
        rows := kept ++ [⟨(calls i).case_id, (calls i).tenant_id,
          lease_from now_dt DEFAULT_TTL_SECONDS, i⟩] }) := by
    rw [hi, lock_next]
    dsimp only
    rw [if_pos htaken, hrows]
  -- A row that was there before is of another call, since this one had none.
  have hothers : ∀ row ∈ c.shared.rows, row.holder ≠ i := by
    intro row hrow hsame
    have hlease := (h.owned row hrow).1
    rw [hsame, hi] at hlease
    cases hlease
  unfold lock_step
  refine ⟨?_, fun j now_dt' hj => ?_, fun row hrow => ?_, fun j l hj hclock => ?_⟩
  · rw [step_shared, hnext]
    simp only [List.map_append, List.map_cons, List.map_nil]
    refine List.Nodup.append (h.unique.sublist (hkept.map _)) (List.nodup_singleton _) ?_
    intro x hx hx'
    rw [List.mem_singleton] at hx'
    subst hx'
    exact hfree hx
  · rw [step_shared, hnext]
    by_cases hji : j = i
    · subst hji
      rw [step_locals_self, hnext] at hj
      cases hj
    · rw [step_locals_of_ne _ _ hji] at hj
      exact h.read j now_dt' hj
  · rw [step_shared, hnext] at hrow
    rcases List.mem_append.mp hrow with hrow | hrow
    · have hmem := hkept.subset hrow
      rw [step_locals_of_ne _ _ (hothers row hmem)]
      exact h.owned row hmem
    · rw [List.mem_singleton] at hrow
      subst hrow
      rw [step_locals_self, hnext]
      exact ⟨rfl, rfl, rfl⟩
  · rw [step_shared, hnext] at hclock ⊢
    by_cases hji : j = i
    · subst hji
      exact ⟨_, List.mem_append_right _ (List.mem_singleton_self _), rfl⟩
    · rw [step_locals_of_ne _ _ hji] at hj
      obtain ⟨row, hrow, hholder⟩ := h.backed j l hj hclock
      have hlease := (h.owned row hrow).1
      rw [hholder, hj] at hlease
      have hl : l = row.lease := Option.some.inj hlease
      subst hl
      have hread := h.read i now_dt hi
      exact ⟨row, List.mem_append_left _ (hlive row hrow (Nat.le_trans hread hclock)), hholder⟩

/-- A release that comes in time. -/
theorem leasesHold_released (h : LeasesHold calls c) {l : Lease}
    (hi : c.locals i = .releasing l)
    (htime : c.shared.clock ≤ l.expires_at ∨ ¬ TakenOver calls i c) :
    LeasesHold calls (lock_step calls (.turn i) c) := by
  have hnext : lock_next calls i (c.locals i) c.shared = (.released, { c.shared with
      rows := release (calls i).case_id (calls i).tenant_id c.shared.rows }) := by
    rw [hi, lock_next]
  have hl : (c.locals i).lease = some l := by
    rw [hi]
    rfl
  unfold lock_step
  refine ⟨?_, fun j now_dt hj => ?_, fun row hrow => ?_, fun j l' hj hclock => ?_⟩
  · rw [step_shared, hnext]
    exact h.unique.sublist (List.filter_sublist.map _)
  · rw [step_shared, hnext]
    by_cases hji : j = i
    · subst hji
      rw [step_locals_self, hnext] at hj
      cases hj
    · rw [step_locals_of_ne _ _ hji] at hj
      exact h.read j now_dt hj
  · rw [step_shared, hnext] at hrow
    obtain ⟨hrow, hkept⟩ := mem_release.mp hrow
    have howned := h.owned row hrow
    have hother : row.holder ≠ i := by
      intro hsame
      rw [hsame] at howned
      exact hkept howned.2
    rw [step_locals_of_ne _ _ hother]
    exact howned
  · rw [step_shared, hnext] at hclock ⊢
    by_cases hji : j = i
    · subst hji
      rw [step_locals_self, hnext] at hj
      cases hj
    · rw [step_locals_of_ne _ _ hji] at hj
      obtain ⟨row, hrow, hholder⟩ := h.backed j l' hj hclock
      refine ⟨row, mem_release.mpr ⟨hrow, fun hmine => hji ?_⟩, hholder⟩
      rw [← hholder]
      exact h.own_row hl htime hrow hmine.1 hmine.2

/-- Every step keeps the leases, when a release comes in time. -/
theorem leasesHold_step (h : LeasesHold calls c) {event : LockEvent κ}
    (htime : ReleasesInTime calls event c) : LeasesHold calls (lock_step calls event c) := by
  cases event with
  | elapse microseconds => exact leasesHold_elapse h microseconds
  | turn i =>
    rcases hi : c.locals i with _ | now_dt | l | l | _ | _
    · refine leasesHold_quiet h (by rw [hi]; rfl) (by rw [hi]; rfl) fun now_dt hnow => ?_
      cases hnow
      exact Nat.le_refl _
    · rcases htaken : (try_acquire (calls i).case_id (calls i).tenant_id DEFAULT_TTL_SECONDS now_dt
        i c.shared.rows).1 with _ | _
      · refine leasesHold_quiet h ?_ (by rw [hi]; rfl) (l := .refused) fun _ hnow => by cases hnow
        rw [hi, lock_next]
        simp only [htaken, Bool.false_eq_true, if_false]
      · exact leasesHold_taken h hi htaken
    · exact leasesHold_quiet h (by rw [hi]; rfl) (by rw [hi]; rfl) fun _ hnow => by cases hnow
    · exact leasesHold_released h hi (htime i l rfl hi)
    · exact leasesHold_quiet h (by rw [hi]; rfl) (by rw [hi]) fun _ hnow => by cases hnow
    · exact leasesHold_quiet h (by rw [hi]; rfl) (by rw [hi]) fun _ hnow => by cases hnow

/-! ## Runs -/

/-- A release frees no lease but its own. -/
def FreesOwn (calls : κ → LockCall) (event : LockEvent κ) (c : Conf κ LockState (LockTable κ)) :
    Prop :=
  ∀ i l, event = .turn i → c.locals i = .releasing l → ∀ row ∈ c.shared.rows,
    row ∉ (lock_step calls event c).shared.rows → row.holder = i

theorem frees_own_iff (h : LeasesHold calls c) {event : LockEvent κ} :
    FreesOwn calls event c ↔ ReleasesInTime calls event c := by
  have hgone : ∀ i l, c.locals i = .releasing l → ∀ row ∈ c.shared.rows,
      row ∉ (lock_step calls (.turn i) c).shared.rows ↔
        row.case_id = (calls i).case_id ∧ row.tenant_id = (calls i).tenant_id := by
    intro i l hi row hrow
    unfold lock_step
    rw [step_shared, hi, lock_next, mem_release]
    simp [hrow]
  constructor
  · intro hown i l hevent hi
    subst hevent
    by_cases htaken : TakenOver calls i c
    · obtain ⟨row, hrow, hcase, htenant, hother⟩ := htaken
      exact absurd (hown i l rfl hi row hrow ((hgone i l hi row hrow).mpr ⟨hcase, htenant⟩)) hother
    · exact Or.inr htaken
  · intro htime i l hevent hi row hrow hrow'
    subst hevent
    obtain ⟨hcase, htenant⟩ := (hgone i l hi row hrow).mp hrow'
    have hl : (c.locals i).lease = some l := by
      rw [hi]
      rfl
    exact h.own_row hl (htime i l rfl hi) hrow hcase htenant

/-- All along a run the leases exclude each other and a release frees its own
one, exactly when each release comes in time. -/
theorem leases_exclude_each_other_iff_no_release_is_late (calls : κ → LockCall) (clock : ℕ)
    (events : List (LockEvent κ)) :
    AllSteps (lock_step calls)
        (fun event c => FreesOwn calls event c ∧ Exclusive calls (lock_step calls event c))
        (unlocked clock) events ↔
      AllSteps (lock_step calls) (ReleasesInTime calls) (unlocked clock) events := by
  refine allSteps_iff (I := LeasesHold calls) (fun event c h htime => leasesHold_step h htime)
    (fun event c h => ?_) (leasesHold_unlocked calls clock)
  constructor
  · rintro ⟨hown, -⟩
    exact (frees_own_iff h).mp hown
  · intro htime
    exact ⟨(frees_own_iff h).mpr htime, (leasesHold_step h htime).exclusive⟩

end leases

/-! ## A step that outlives its lease -/

/-- Three workers take one case. -/
def sameLock (_ : Fin 3) : LockCall := ⟨"T1", "C1"⟩

/-- The first worker takes a minute and a second. By then the second one has
taken the case over, and the late release lets a third one in. -/
theorem a_late_release_lets_two_workers_in :
    ¬ ∀ (calls : Fin 3 → LockCall) (events : List (LockEvent (Fin 3))),
      Exclusive calls (run (lock_step calls) (unlocked 0) events) := by
  intro h
  refine h sameLock [.turn 0, .turn 0, .elapse 61000000, .turn 1, .turn 1, .turn 0, .turn 0,
    .turn 2, .turn 2] 1 2 (lease_from 61000000 60) (lease_from 61000000 60) (by decide) rfl ?_ ?_ ?_
  · decide +kernel
  · decide +kernel
  · decide +kernel

end asoe
