-- Calls that append to the audit log on connections of their own. Each call
-- reads the last hash, inserts its row and commits; the others do not see
-- the row before that, and nothing keeps them from reading the same hash.
import Asoe.AuditTable
import Asoe.Lib.Interleaving

namespace asoe

open py runs hashchain interleaving policy_repository

/-! ## One call -/

/-- How far a call of `create_audit_event` has come. -/
inductive AppendState where
  | start
  | read (prev_hash : String)
  | inserted (row : AuditRow)
  | done

variable {κ : Type} (calls : κ → AuditEventCall)

/-- The next step of a call: the `SELECT`, the `INSERT`, and the commit that
shows the row to the others. -/
def append_next (i : κ) : AppendState → List AuditRow → AppendState × List AuditRow
  | .start, log => (.read (policy_repository.last_event_hash log (calls i).tenant_id), log)
  | .read prev_hash, log => (.inserted (new_row (calls i).insert prev_hash), log)
  | .inserted row, log => (.done, log ++ [row])
  | .done, log => (.done, log)

def append_commits (_ : κ) : AppendState → Bool
  | .inserted _ => true
  | _ => false

/-- A row that is about to be committed names the hash that is still the last
one, and is above the rows of its tenant. -/
def AppendState.AtTip (log : List AuditRow) : AppendState → Prop
  | .inserted row =>
    row.prev_hash = policy_repository.last_event_hash log row.tenant_id ∧
      ∀ r ∈ rows_of log row.tenant_id, ¬ AuditRow.le row r
  | _ => True

instance decidableAtTip (log : List AuditRow) : (l : AppendState) → Decidable (l.AtTip log)
  | .inserted _ => inferInstanceAs (Decidable (_ ∧ _))
  | .start | .read _ | .done => instDecidableTrue

def CommitsToTip (i : κ) (c : Conf κ AppendState (List AuditRow)) : Prop :=
  (c.locals i).AtTip c.shared

/-! ## Whole calls -/

/-- The row of a call is the one for the hash that it read. -/
def RowOfCall (i : κ) : AppendState → Prop
  | .inserted row => row = new_row (calls i).insert row.prev_hash
  | _ => True

/-- A whole call. -/
def whole_append (i : κ) (log : List AuditRow) : List AuditRow :=
  insert_audit_event (calls i).insert log

/-- The row of a whole call is above those of its tenant. -/
def AppendsAbove (i : κ) (log : List AuditRow) : Prop :=
  ∀ r ∈ rows_of log (calls i).tenant_id,
    ¬ AuditRow.le (new_row (calls i).insert
      (policy_repository.last_event_hash log (calls i).tenant_id)) r

theorem append_next_row (i : κ) (l : AppendState) (log : List AuditRow) :
    RowOfCall calls i (append_next calls i l log).1 := by
  cases l with
  | start => trivial
  | read prev_hash => rfl
  | inserted row => trivial
  | done => trivial

/-- The rows of each tenant were appended to the tip, and in the order. -/
def InOneLine (log : List AuditRow) : Prop :=
  ∀ tenant_id, Written (rowScheme AuditRow.written) AuditRow.le (rows_of log tenant_id) ∧
    (rows_of log tenant_id).Pairwise fun a b => ¬ AuditRow.le b a

theorem whole_append_inOneLine {i : κ} {log : List AuditRow} (habove : AppendsAbove calls i log)
    (h : InOneLine log) : InOneLine (whole_append calls i log) := by
  intro tenant_id
  obtain ⟨hwritten, hup⟩ := h tenant_id
  rw [whole_append, rows_of_insert]
  split <;> rename_i htenant
  swap
  · exact ⟨hwritten, hup⟩
  have htenant : (calls i).tenant_id = tenant_id := htenant
  subst htenant
  refine ⟨Written.snoc _ _ hwritten (last_event_hash_tip _ _ _) rfl, ?_⟩
  refine List.pairwise_append.mpr ⟨hup, List.pairwise_singleton _ _, fun a ha b hb => ?_⟩
  rw [List.mem_singleton.mp hb]
  exact habove a ha

/-! ## Schedules -/

variable [DecidableEq κ]

/-- The log and the calls after this schedule, from an empty log. -/
abbrev appends (schedule : List κ) : Conf κ AppendState (List AuditRow) :=
  run (interleaving.step (append_next calls)) ⟨fun _ => .start, []⟩ schedule

theorem appends_serial {schedule : List κ}
    (htip : AllSteps (interleaving.step (append_next calls)) CommitsToTip
      ⟨fun _ => .start, []⟩ schedule) :
    let order := committed (append_next calls) append_commits ⟨fun _ => .start, []⟩ schedule
    (appends calls schedule).shared = run (whole_append calls) [] order ∧
      AllSteps (whole_append calls) (AppendsAbove calls) [] order := by
  refine serializable (L := RowOfCall calls) (c := ⟨fun _ => .start, []⟩)
    (fun i l log _ => append_next_row calls i l log) ?_ ?_ (fun _ => trivial) htip
  · intro i l log _ hquiet
    cases l with
    | start => rfl
    | read prev_hash => rfl
    | inserted row => cases hquiet
    | done => rfl
  · intro i c hrow hcommit htip
    rcases hl : c.locals i with _ | _ | row | _
    all_goals rw [hl] at hcommit hrow
    · cases hcommit
    · cases hcommit
    · unfold CommitsToTip at htip
      rw [hl] at htip
      obtain ⟨hprev, habove⟩ := htip
      have hrow : row = new_row (calls i).insert row.prev_hash := hrow
      have htenant : row.tenant_id = (calls i).tenant_id := by
        rw [hrow]
        rfl
      rw [htenant] at hprev habove
      rw [hprev] at hrow
      refine ⟨?_, ?_⟩
      · rw [append_next, whole_append, insert_audit_event, hrow]
        rfl
      · rw [hrow] at habove
        exact habove
    · cases hcommit

/-- When each call commits to the tip that it read, the events of a tenant
are a single chain: each one names the event before it, and no two events
name the same one. -/
theorem appends_to_the_tip_keep_a_single_chain (schedule : List κ)
    (htip : AllSteps (interleaving.step (append_next calls)) CommitsToTip
      ⟨fun _ => .start, []⟩ schedule) (tenant_id : String)
    (hfree : CollisionFree
      ((rows_of (appends calls schedule).shared tenant_id).map AuditRow.text)) :
    Chained (rowScheme AuditRow.written) "GENESIS"
        (rows_of (appends calls schedule).shared tenant_id) ∧
      ((rows_of (appends calls schedule).shared tenant_id).map AuditRow.prev_hash).Nodup := by
  obtain ⟨hshared, hsteps⟩ := appends_serial calls htip
  have hline : InOneLine (appends calls schedule).shared := by
    rw [hshared]
    refine invariant (fun i log => whole_append_inOneLine calls) ?_ hsteps
    exact fun _ => ⟨Written.nil, List.Pairwise.nil⟩
  obtain ⟨hwritten, hup⟩ := hline tenant_id
  have hchain := hwritten.chained hup
  exact ⟨hchain, hchain.prev_nodup (rows_binding hchain hfree)⟩

/-- Two events of one tenant, at different times. -/
def sampleAppends (i : Bool) : AuditEventCall :=
  ⟨"T1", "A", .none, .int 1, "ann", none,
    if i then "0b9d1c3e-2f4a-4c5d-8e6f-7a8b9c0d1e2f" else "f47ac10b-58cc-4372-a567-0e02b2c3d479",
    ⟨"2025-01-01", if i then "10:00:01+00:00" else "10:00:00+00:00"⟩⟩

/-- The second call begins when the first one has committed. -/
theorem two_appends_after_each_other_are_a_chain :
    Chained (rowScheme AuditRow.written) "GENESIS"
        (rows_of (appends sampleAppends [false, false, false, true, true, true]).shared "T1") ∧
      ((rows_of (appends sampleAppends [false, false, false, true, true, true]).shared "T1").map
        AuditRow.prev_hash).Nodup := by
  refine appends_to_the_tip_keep_a_single_chain sampleAppends _ ?_ "T1" ?_
  · unfold CommitsToTip
    decide +kernel
  · unfold CollisionFree
    decide +kernel

/-- Both calls read before one of them commits: their events name one hash. -/
theorem two_appends_that_read_the_same_tip_fork :
    ¬ ∀ (calls : Bool → AuditEventCall) (schedule : List Bool) (tenant_id : String),
      (∀ i, (calls i).tenant_id = tenant_id) → (calls false).audit_id ≠ (calls true).audit_id →
      CollisionFree ((rows_of (appends calls schedule).shared tenant_id).map AuditRow.text) →
      ((rows_of (appends calls schedule).shared tenant_id).map AuditRow.prev_hash).Nodup := by
  intro h
  have hnodup := h sampleAppends [false, true, false, false, true, true] "T1" (fun _ => rfl)
    (by decide) (by unfold CollisionFree; decide +kernel)
  revert hnodup
  decide +kernel

end asoe
