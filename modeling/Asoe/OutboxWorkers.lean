-- Workers that drain the outbox next to each other: each reads the queue once,
-- and then tries, runs and marks its entries one step at a time.
import Asoe.OutboxBackends
import Asoe.Contracts

namespace asoe

open py runs

/-! ## The workers -/

/-- The request that runs an entry's effect again. -/
def reconcile_request (entry : LedgerEntry) : GatewayRequest where
  gateway_name := entry.gateway
  operation := entry.operation
  params := entry.params
  trace_id :=
    match entry.trace_id with
    | some t => if t = "" then "outbox-reconcile" else t
    | none => "outbox-reconcile"

structure ReconcileReport where
  retried : ℕ := 0
  compensated : ℕ := 0
  escalated : ℕ := 0
  still_pending : ℕ := 0
  deriving DecidableEq

/-- What a worker does with the entry it has in hand. -/
inductive Hand where
  | empty
  | taken (entry : LedgerEntry) (attempts : ℕ)
  | ran (entry : LedgerEntry) (attempts : ℕ) (ok : Bool)
  deriving DecidableEq

def Hand.entry_id : Hand → Option String
  | empty => none
  | taken entry _ => some entry.id
  | ran entry _ _ => some entry.id

/-- One run of `reconcile_pending`, with the rest of the queue that it read. -/
structure Reconciler where
  queue : List LedgerEntry
  hand : Hand := .empty
  report : ReconcileReport := {}
  deriving DecidableEq

/-- An effect that was run again. -/
structure Execution where
  entry_id : String
  request : GatewayRequest
  ok : Bool
  deriving DecidableEq

/-- The ledger with the workers on it. Each run has a number of its own. -/
structure OutboxRun where
  entries : List LedgerEntry := []
  workers : List (ℕ × Reconciler) := []
  executions : List Execution := []
  deriving DecidableEq

/-- One step of a caller. An answer of the gateway that is not there is an
exception. -/
inductive OutboxEvent where
  | record (outcome : EffectOutcome) (id now : String)
  | start (worker : ℕ) (tenant_id : Option String)
  | take (worker : ℕ)
  | execute (worker : ℕ) (response : Option GatewayStatus)
  | mark (worker : ℕ) (now : String)

def OutboxRun.with_worker (s : OutboxRun) (worker : ℕ) (r : Reconciler) : OutboxRun :=
  { s with workers := dict.set s.workers worker r }

/-- The last step on an entry: it is compensated, escalated or left pending. -/
def close_hand (max_attempts : ℕ) (entry : LedgerEntry) (attempts : ℕ) (ok : Bool) (now : String)
    (entries : List LedgerEntry) (report : ReconcileReport) :
    List LedgerEntry × ReconcileReport :=
  if ok then
    ((in_memory_outbox.mark_compensated entry.id now entries).1,
      { report with compensated := report.compensated + 1 })
  else if attempts ≥ max_attempts then
    ((in_memory_outbox.mark_escalated entry.id entries).1,
      { report with escalated := report.escalated + 1 })
  else (entries, { report with still_pending := report.still_pending + 1 })

def outbox_step (max_attempts : ℕ) (e : OutboxEvent) (s : OutboxRun) : OutboxRun :=
  match e with
  | .record outcome id now => { s with entries := s.entries ++ [outcome.entry id now] }
  | .start worker tenant_id =>
    match dict.get s.workers worker with
    | none => s.with_worker worker { queue := in_memory_outbox.pending tenant_id s.entries }
    | some _ => s
  | .take worker =>
    match dict.get s.workers worker with
    | some ⟨entry :: queue, .empty, report⟩ =>
      let (entries, attempts) := in_memory_outbox.increment_attempts entry.id s.entries
      { s.with_worker worker
          ⟨queue, .taken entry attempts, { report with retried := report.retried + 1 }⟩ with
        entries := entries }
    | _ => s
  | .execute worker response =>
    match dict.get s.workers worker with
    | some ⟨queue, .taken entry attempts, report⟩ =>
      let ok := decide (response = some .SUCCESS)
      { s.with_worker worker ⟨queue, .ran entry attempts ok, report⟩ with
        executions := s.executions ++ [⟨entry.id, reconcile_request entry, ok⟩] }
    | _ => s
  | .mark worker now =>
    match dict.get s.workers worker with
    | some ⟨queue, .ran entry attempts ok, report⟩ =>
      let (entries, report) := close_hand max_attempts entry attempts ok now s.entries report
      { s.with_worker worker ⟨queue, .empty, report⟩ with entries := entries }
    | _ => s

/-! ## What is asked of the ledger -/

/-- How often the effect of an entry was run again. -/
def run_count (executions : List Execution) (id : String) : ℕ :=
  executions.countP fun x => x.entry_id = id

def success_count (executions : List Execution) (id : String) : ℕ :=
  executions.countP fun x => x.entry_id = id && x.ok

/-- The id of the entry that a worker has in hand. -/
def OutboxRun.in_hand (s : OutboxRun) (worker : ℕ) : Option String :=
  (dict.get s.workers worker).bind fun r => r.hand.entry_id

/-- One entry is run again successfully at most once and never more often than
is allowed, a committed one not at all, and it is not both compensated and
escalated. -/
structure EntrySafe (max_attempts : ℕ) (executions : List Execution) (e : LedgerEntry) : Prop where
  once : success_count executions e.id ≤ 1
  closed_once : ¬ (e.compensated = true ∧ e.escalated = true)
  committed : e.committed = true → run_count executions e.id = 0
  bounded : run_count executions e.id ≤ max_attempts

/-- The id of a new entry is a new one. -/
def DrawsNewId : OutboxEvent → OutboxRun → Prop
  | .record _ id _, s => id ∉ s.entries.map (·.id)
  | _, _ => True

/-- The entry that a worker with an empty hand comes to. -/
def OutboxRun.next_entry (s : OutboxRun) (worker : ℕ) : Option LedgerEntry :=
  match dict.get s.workers worker with
  | some ⟨entry :: _, .empty, _⟩ => some entry
  | _ => none

/-- A worker takes an entry that is still pending and that no worker has in
hand. -/
def TakesFree : OutboxEvent → OutboxRun → Prop
  | .take worker, s => ∀ entry ∈ s.next_entry worker,
    (∃ e ∈ s.entries, e.id = entry.id ∧ e.isPending = true) ∧
      ∀ other ∈ s.workers.map (·.1), s.in_hand other ≠ some entry.id
  | _, _ => True

instance : (e : OutboxEvent) → (s : OutboxRun) → Decidable (DrawsNewId e s)
  | .record _ id _, s => inferInstanceAs (Decidable (id ∉ s.entries.map (·.id)))
  | .start _ _, _ | .take _, _ | .execute _ _, _ | .mark _ _, _ => isTrue trivial

instance : (e : OutboxEvent) → (s : OutboxRun) → Decidable (TakesFree e s)
  | .take worker, s => inferInstanceAs (Decidable (∀ entry ∈ s.next_entry worker,
      (∃ e ∈ s.entries, e.id = entry.id ∧ e.isPending = true) ∧
        ∀ other ∈ s.workers.map (·.1), s.in_hand other ≠ some entry.id))
  | .record _ _ _, _ | .start _ _, _ | .execute _ _, _ | .mark _ _, _ => isTrue trivial

/-! ## The invariant -/

/-- An entry that no worker has in hand. -/
structure Rested (max_attempts : ℕ) (executions : List Execution) (e : LedgerEntry) : Prop where
  safe : EntrySafe max_attempts executions e
  counted : e.attempts = run_count executions e.id
  pending : e.isPending = true →
    run_count executions e.id < max_attempts ∧ success_count executions e.id = 0

/-- The entry that a worker has in hand: it is pending, and how often it was run
again is known. -/
def HandFits (max_attempts : ℕ) (executions : List Execution) (e : LedgerEntry) : Hand → Prop
  | .empty => True
  | .taken _ attempts =>
    e.isPending = true ∧ e.attempts = attempts ∧ run_count executions e.id + 1 = attempts ∧
      attempts ≤ max_attempts ∧ success_count executions e.id = 0
  | .ran _ attempts ok =>
    e.isPending = true ∧ e.attempts = attempts ∧ run_count executions e.id = attempts ∧
      attempts ≤ max_attempts ∧ success_count executions e.id = if ok then 1 else 0

structure WorkersInv (max_attempts : ℕ) (s : OutboxRun) : Prop where
  ids : (s.entries.map (·.id)).Nodup
  needs : ∀ e ∈ s.entries, e.needs_compensation = !e.committed
  known : ∀ x ∈ s.executions, x.entry_id ∈ s.entries.map (·.id)
  held : ∀ w id, s.in_hand w = some id → id ∈ s.entries.map (·.id)
  alone : ∀ w w' id, s.in_hand w = some id → s.in_hand w' = some id → w = w'
  free : ∀ e ∈ s.entries, (∀ w, s.in_hand w ≠ some e.id) → Rested max_attempts s.executions e
  fits : ∀ w r, dict.get s.workers w = some r → ∀ e ∈ s.entries,
    r.hand.entry_id = some e.id → HandFits max_attempts s.executions e r.hand

section invariant

variable {max_attempts : ℕ} {s : OutboxRun}

variable {w : ℕ}

theorem in_hand_of_get {r : Reconciler} (h : dict.get s.workers w = some r) :
    s.in_hand w = r.hand.entry_id := by
  rw [OutboxRun.in_hand, h]
  rfl

variable {id : String}

theorem get_of_in_hand (h : s.in_hand w = some id) :
    ∃ r, dict.get s.workers w = some r ∧ r.hand.entry_id = some id :=
  Option.bind_eq_some_iff.mp h

theorem in_hand_with_self (w : ℕ) (r : Reconciler) :
    (s.with_worker w r).in_hand w = r.hand.entry_id :=
  in_hand_of_get (dict.get_set_self _ _ _)

theorem in_hand_with_of_ne {w' : ℕ} (r : Reconciler) (h : w' ≠ w) :
    (s.with_worker w r).in_hand w' = s.in_hand w' := by
  unfold OutboxRun.in_hand OutboxRun.with_worker
  rw [dict.get_set_of_ne _ _ h]

variable {e e' : LedgerEntry}

theorem WorkersInv.unique (h : WorkersInv max_attempts s)
    (he : e ∈ s.entries) (he' : e' ∈ s.entries) (hid : e.id = e'.id) : e = e' :=
  List.inj_on_of_nodup_map h.ids he he' hid

/-- Every entry is safe, in hand or not. -/
theorem WorkersInv.safe (h : WorkersInv max_attempts s) (he : e ∈ s.entries) :
    EntrySafe max_attempts s.executions e := by
  by_cases hfree : ∀ w, s.in_hand w ≠ some e.id
  · exact (h.free e he hfree).safe
  · simp only [not_forall, not_not] at hfree
    obtain ⟨w, hw⟩ := hfree
    obtain ⟨r, hget, hid⟩ := get_of_in_hand hw
    have hfits := h.fits w r hget e he hid
    have hneeds := h.needs e he
    have hpending : e.isPending = true ∧ run_count s.executions e.id ≤ max_attempts ∧
        success_count s.executions e.id ≤ 1 := by
      cases hhand : r.hand with
      | empty =>
        rw [hhand] at hid
        cases hid
      | taken entry attempts =>
        rw [hhand] at hfits
        obtain ⟨hpending, -, hruns, hmost, hnone⟩ := hfits
        exact ⟨hpending, by omega, by omega⟩
      | ran entry attempts ok =>
        rw [hhand] at hfits
        obtain ⟨hpending, -, hruns, hmost, hok⟩ := hfits
        refine ⟨hpending, by omega, ?_⟩
        rw [hok]
        split <;> omega
    obtain ⟨hpending, hruns, hok⟩ := hpending
    simp only [LedgerEntry.isPending, Bool.and_eq_true, Bool.not_eq_true'] at hpending
    refine ⟨hok, fun hclosed => ?_, fun hcommitted => ?_, hruns⟩
    · rw [hclosed.1] at hpending
      exact absurd hpending.1.2 (by decide)
    · rw [hcommitted, hpending.1.1] at hneeds
      cases hneeds

/-! ## The steps -/

theorem workersInv_record (h : WorkersInv max_attempts s) (hmax : 1 ≤ max_attempts)
    (outcome : EffectOutcome) (now : String) (hfresh : id ∉ s.entries.map (·.id)) :
    WorkersInv max_attempts { s with entries := s.entries ++ [outcome.entry id now] } := by
  have hid : (outcome.entry id now).id = id := rfl
  have hruns : run_count s.executions id = 0 := by
    unfold run_count
    rw [List.countP_eq_zero]
    intro x hx hbad
    simp only [decide_eq_true_eq] at hbad
    exact hfresh (hbad ▸ h.known x hx)
  have hsuccesses : success_count s.executions id = 0 := by
    unfold success_count
    rw [List.countP_eq_zero]
    intro x hx hbad
    simp only [Bool.and_eq_true, decide_eq_true_eq] at hbad
    exact hfresh (hbad.1 ▸ h.known x hx)
  have hmem : ∀ {x : String}, x ∈ s.entries.map (·.id) →
      x ∈ (s.entries ++ [outcome.entry id now]).map (·.id) := by
    intro x hx
    rw [List.map_append]
    exact List.mem_append_left _ hx
  refine ⟨?_, fun e he => ?_, fun x hx => hmem (h.known x hx),
    fun w x hw => hmem (h.held w x hw), h.alone, fun e he hfree => ?_,
    fun w r hget e he hhand => ?_⟩
  · rw [List.map_append, List.nodup_append]
    refine ⟨h.ids, List.nodup_singleton _, fun a ha b hb => ?_⟩
    rw [List.map_singleton, List.mem_singleton, hid] at hb
    rw [hb]
    rintro rfl
    exact hfresh ha
  · rcases List.mem_append.mp he with he | he
    · exact h.needs e he
    · rw [List.mem_singleton.mp he]
      rfl
  · rcases List.mem_append.mp he with he | he
    · exact h.free e he hfree
    · rw [List.mem_singleton.mp he]
      refine ⟨⟨?_, ?_, fun _ => hruns, ?_⟩, hruns.symm, fun _ => ⟨?_, hsuccesses⟩⟩
      · exact hsuccesses.le.trans (by omega)
      · exact fun hbad => Bool.false_ne_true hbad.1
      · exact hruns.le.trans (by omega)
      · exact hruns.le.trans_lt (by omega)
  · rcases List.mem_append.mp he with he | he
    · exact h.fits w r hget e he hhand
    · rw [List.mem_singleton.mp he, hid] at hhand
      have hheld : s.in_hand w = some id := (in_hand_of_get hget).trans hhand
      exact absurd (h.held w id hheld) hfresh

variable {worker : ℕ}

/-- A worker with an empty hand changes nothing about the others. -/
theorem workersInv_start (h : WorkersInv max_attempts s)
    (hidle : dict.get s.workers worker = none) (queue : List LedgerEntry) :
    WorkersInv max_attempts (s.with_worker worker { queue }) := by
  have hnone : s.in_hand worker = none := by
    unfold OutboxRun.in_hand
    rw [hidle]
    rfl
  have hhand : ∀ w, (s.with_worker worker { queue }).in_hand w = s.in_hand w := by
    intro w
    by_cases hw : w = worker
    · rw [hw, in_hand_with_self, hnone]
      rfl
    · exact in_hand_with_of_ne _ hw
  refine ⟨h.ids, h.needs, h.known, fun w id hw => h.held w id (by rwa [← hhand]),
    fun w w' id hw hw' => h.alone w w' id (by rwa [← hhand]) (by rwa [← hhand]),
    fun e he hfree => h.free e he fun w => by rw [← hhand]; exact hfree w,
    fun w r hget e he hid => ?_⟩
  have hget' : (s.with_worker worker { queue }).in_hand w = some e.id := by
    rw [in_hand_of_get hget, hid]
  by_cases hw : w = worker
  · rw [hhand, hw, hnone] at hget'
    cases hget'
  · refine h.fits w r ?_ e he hid
    rwa [OutboxRun.with_worker, dict.get_set_of_ne _ _ hw] at hget

theorem mem_marked {f : LedgerEntry → LedgerEntry} {entries : List LedgerEntry}
    (h : e' ∈ entries.map (marked f id)) :
    ∃ e ∈ entries, (e.id = id ∧ e' = f e) ∨ (e.id ≠ id ∧ e' = e) := by
  obtain ⟨e, he, rfl⟩ := List.mem_map.mp h
  refine ⟨e, he, ?_⟩
  unfold marked
  by_cases hid : e.id = id
  · exact Or.inl ⟨hid, if_pos hid⟩
  · exact Or.inr ⟨hid, if_neg hid⟩

theorem ids_marked {f : LedgerEntry → LedgerEntry} (hf : Marks f) (id : String)
    (entries : List LedgerEntry) :
    (entries.map (marked f id)).map (·.id) = entries.map (·.id) := by
  rw [List.map_map]
  exact List.map_congr_left fun e _ => (hf.marked id).id e

theorem in_hand_with (w w' : ℕ) (r : Reconciler) :
    (s.with_worker w r).in_hand w' = if w' = w then r.hand.entry_id else s.in_hand w' := by
  by_cases hw : w' = w
  · rw [if_pos hw, hw, in_hand_with_self]
  · rw [if_neg hw, in_hand_with_of_ne r hw]

variable {entry : LedgerEntry} {queue : List LedgerEntry} {report : ReconcileReport}

/-- A free entry that is still pending is taken in hand. -/
theorem workersInv_take (h : WorkersInv max_attempts s) {e₀ : LedgerEntry}
    (hget : dict.get s.workers worker = some ⟨entry :: queue, .empty, report⟩)
    (he₀ : e₀ ∈ s.entries) (hid₀ : e₀.id = entry.id) (hpending : e₀.isPending = true)
    (hothers : ∀ w, s.in_hand w ≠ some entry.id) :
    WorkersInv max_attempts (outbox_step max_attempts (.take worker) s) := by
  have hrested : Rested max_attempts s.executions e₀ :=
    h.free e₀ he₀ fun w => by rw [hid₀]; exact hothers w
  have hfind : in_memory_outbox.find entry.id s.entries = some e₀ := by
    cases hfound : in_memory_outbox.find entry.id s.entries with
    | none =>
      have hnone := List.find?_eq_none.mp hfound e₀ he₀
      exact absurd (by simpa using hid₀) hnone
    | some e =>
      have hmem : e ∈ s.entries := List.mem_of_find?_eq_some hfound
      have hid : e.id = entry.id := by simpa using List.find?_some hfound
      rw [h.unique hmem he₀ (hid.trans hid₀.symm)]
  have hincrement : in_memory_outbox.increment_attempts entry.id s.entries =
      (s.entries.map (marked LedgerEntry.attempted entry.id), e₀.attempts + 1) := by
    rw [in_memory_outbox.increment_attempts_eq h.ids, hfind]
    rfl
  unfold outbox_step
  dsimp only
  rw [hget]
  dsimp only
  rw [hincrement]
  have hmarks : Marks LedgerEntry.attempted := marks_attempted
  have hhand : ∀ w, OutboxRun.in_hand { s.with_worker worker ⟨queue,
      .taken entry (e₀.attempts + 1), { report with retried := report.retried + 1 }⟩ with
      entries := s.entries.map (marked LedgerEntry.attempted entry.id) } w =
      if w = worker then some entry.id else s.in_hand w := fun w => in_hand_with worker w _
  refine ⟨by dsimp only; rw [ids_marked hmarks]; exact h.ids, fun e' he' => ?_, fun x hx => ?_,
    fun w id hw => ?_, fun w w' id hw hw' => ?_, fun e' he' hfree => ?_,
    fun w r hgetw e' he' hid => ?_⟩
  · obtain ⟨e, he, ⟨-, rfl⟩ | ⟨-, rfl⟩⟩ := mem_marked he'
    · exact h.needs e he
    · exact h.needs e' he
  · dsimp only
    rw [ids_marked hmarks]
    exact h.known x hx
  · dsimp only
    rw [ids_marked hmarks]
    rw [hhand] at hw
    split at hw
    · cases hw
      rw [← hid₀]
      exact List.mem_map_of_mem he₀
    · exact h.held w id hw
  · rw [hhand] at hw hw'
    split at hw <;> split at hw'
    · simp [*]
    · cases hw
      exact absurd hw' (hothers w')
    · cases hw'
      exact absurd hw (hothers w)
    · exact h.alone w w' id hw hw'
  · obtain ⟨e, he, ⟨hid, rfl⟩ | ⟨hne, rfl⟩⟩ := mem_marked he'
    · exact absurd ((hhand worker).trans ((if_pos rfl).trans (congrArg some hid.symm)))
        (hfree worker)
    · refine h.free e' he fun w hw => ?_
      by_cases heq : w = worker
      · rw [heq, in_hand_of_get hget] at hw
        cases hw
      · exact hfree w ((hhand w).trans ((if_neg heq).trans hw))
  · by_cases heq : w = worker
    · subst heq
      have hr : r = ⟨queue, .taken entry (e₀.attempts + 1),
          { report with retried := report.retried + 1 }⟩ := by
        have hself := dict.get_set_self s.workers w (⟨queue, .taken entry (e₀.attempts + 1),
          { report with retried := report.retried + 1 }⟩ : Reconciler)
        exact Option.some.inj (hgetw.symm.trans hself)
      subst hr
      obtain ⟨e, he, ⟨hide, rfl⟩ | ⟨hne, rfl⟩⟩ := mem_marked he'
      · obtain rfl : e = e₀ := h.unique he he₀ (hide.trans hid₀.symm)
        obtain ⟨hfew, hnone⟩ := hrested.pending hpending
        have hcounted := hrested.counted
        have hruns : run_count s.executions e.id + 1 = e.attempts + 1 := by omega
        exact ⟨hpending, rfl, hruns, by omega, hnone⟩
      · exact absurd (Option.some.inj hid).symm hne
    · have hgetw : dict.get s.workers w = some r := by
        rwa [OutboxRun.with_worker, dict.get_set_of_ne _ _ heq] at hgetw
      obtain ⟨e, he, ⟨hide, rfl⟩ | ⟨hne, rfl⟩⟩ := mem_marked he'
      · have hheld : s.in_hand w = some entry.id := by
          rw [in_hand_of_get hgetw, hid, ← hide]
          rfl
        exact absurd hheld (hothers w)
      · exact h.fits w r hgetw e' he hid

variable {attempts : ℕ}

theorem workersInv_execute (h : WorkersInv max_attempts s)
    (hget : dict.get s.workers worker = some ⟨queue, .taken entry attempts, report⟩)
    (response : Option GatewayStatus) :
    WorkersInv max_attempts (outbox_step max_attempts (.execute worker response) s) := by
  unfold outbox_step
  dsimp only
  rw [hget]
  dsimp only
  have hholds : s.in_hand worker = some entry.id := in_hand_of_get hget
  have hhand : ∀ w, OutboxRun.in_hand { s.with_worker worker
      ⟨queue, .ran entry attempts (decide (response = some .SUCCESS)), report⟩ with
      executions := s.executions ++
        [⟨entry.id, reconcile_request entry, decide (response = some .SUCCESS)⟩] } w =
      s.in_hand w := by
    intro w
    refine (in_hand_with worker w _).trans ?_
    split
    · rename_i hw
      rw [hw, hholds]
      rfl
    · rfl
  have hother : ∀ {id : String}, id ≠ entry.id →
      run_count (s.executions ++
          [⟨entry.id, reconcile_request entry, decide (response = some .SUCCESS)⟩]) id =
        run_count s.executions id ∧
      success_count (s.executions ++
          [⟨entry.id, reconcile_request entry, decide (response = some .SUCCESS)⟩]) id =
        success_count s.executions id := by
    intro id hid
    simp [run_count, success_count, Ne.symm hid]
  refine ⟨h.ids, h.needs, fun x hx => ?_, fun w id hw => h.held w id (by rwa [← hhand]),
    fun w w' id hw hw' => h.alone w w' id (by rwa [← hhand]) (by rwa [← hhand]),
    fun e he hfree => ?_, fun w r hgetw e he hid => ?_⟩
  · rcases List.mem_append.mp hx with hx | hx
    · exact h.known x hx
    · rw [List.mem_singleton.mp hx]
      exact h.held worker entry.id hholds
  · have hne : e.id ≠ entry.id := fun heq => hfree worker (by rw [hhand, hholds, heq])
    obtain ⟨hruns, hsuccesses⟩ := hother hne
    obtain ⟨⟨honce, hclosed, hcommitted, hbounded⟩, hcounted, hpending⟩ :=
      h.free e he fun w => by rw [← hhand]; exact hfree w
    dsimp only
    refine ⟨⟨?_, hclosed, ?_, ?_⟩, ?_, ?_⟩
    · rwa [hsuccesses]
    · rwa [hruns]
    · rwa [hruns]
    · rwa [hruns]
    · rwa [hruns, hsuccesses]
  · by_cases heq : w = worker
    · subst heq
      have hr : r = ⟨queue, .ran entry attempts (decide (response = some .SUCCESS)), report⟩ := by
        have hself := dict.get_set_self s.workers w
          (⟨queue, .ran entry attempts (decide (response = some .SUCCESS)), report⟩ : Reconciler)
        exact Option.some.inj (hgetw.symm.trans hself)
      subst hr
      have hide : entry.id = e.id := Option.some.inj hid
      obtain ⟨hpending, hattempts, hruns, hmost, hnone⟩ := h.fits w _ hget e he hid
      refine ⟨hpending, hattempts, ?_, hmost, ?_⟩
      · rw [← hruns]
        simp [run_count, hide]
      · rw [← hide] at hnone ⊢
        unfold success_count at hnone ⊢
        rw [List.countP_append, hnone]
        cases decide (response = some .SUCCESS) <;> simp
    · have hgetw : dict.get s.workers w = some r := by
        rwa [OutboxRun.with_worker, dict.get_set_of_ne _ _ heq] at hgetw
      have hne : e.id ≠ entry.id := by
        intro hide
        refine heq (h.alone w worker entry.id ?_ hholds)
        rw [in_hand_of_get hgetw, hid, hide]
      obtain ⟨hruns, hsuccesses⟩ := hother hne
      have hfits := h.fits w r hgetw e he hid
      dsimp only
      cases hhandr : r.hand with
      | empty => trivial
      | taken entry' attempts' =>
        rw [hhandr] at hfits
        unfold HandFits at hfits ⊢
        rwa [hruns, hsuccesses]
      | ran entry' attempts' ok =>
        rw [hhandr] at hfits
        unfold HandFits at hfits ⊢
        rwa [hruns, hsuccesses]

/-- An entry that was run again is at rest once its hand is closed. -/
theorem rested_of_ran {executions : List Execution}
    {ok : Bool} (hfits : HandFits max_attempts executions e (.ran entry attempts ok))
    (hneeds : e.needs_compensation = !e.committed) (hmark : e'.id = e.id ∧
      e'.attempts = e.attempts ∧ e'.committed = e.committed)
    (hone : e'.compensated = e.compensated ∨ e'.escalated = e.escalated)
    (hopen : e'.isPending = true → attempts < max_attempts ∧ ok = false) :
    Rested max_attempts executions e' := by
  obtain ⟨hpending, hattempts, hruns, hmost, hok⟩ := hfits
  simp only [LedgerEntry.isPending, Bool.and_eq_true, Bool.not_eq_true'] at hpending
  have hcommitted : e.committed = false := by simpa [hpending.1.1] using hneeds
  rw [← hmark.1] at hruns hok
  refine ⟨⟨?_, fun hclosed => ?_, fun hbad => ?_, hruns.le.trans hmost⟩, ?_, fun hp => ?_⟩
  · rw [hok]
    split <;> omega
  · rcases hone with h | h
    · exact absurd (hpending.1.2.symm.trans (h.symm.trans hclosed.1)) (by decide)
    · exact absurd (hpending.2.symm.trans (h.symm.trans hclosed.2)) (by decide)
  · exact absurd (hcommitted.symm.trans (hmark.2.2.symm.trans hbad)) (by decide)
  · exact hmark.2.1.trans (hattempts.trans hruns.symm)
  · obtain ⟨hfew, hfailed⟩ := hopen hp
    exact ⟨hruns.trans_lt hfew, by simpa [hfailed] using hok⟩

theorem close_hand_cases (max_attempts : ℕ) (h : (s.entries.map (·.id)).Nodup)
    (entry : LedgerEntry) (attempts : ℕ) (ok : Bool) (now : String) (report : ReconcileReport) :
    ∃ f report', Marks f ∧ close_hand max_attempts entry attempts ok now s.entries report =
        (s.entries.map (marked f entry.id), report') ∧
      (∀ e, (f e).needs_compensation = e.needs_compensation ∧ (f e).committed = e.committed) ∧
      ∀ e ∈ s.entries, e.id = entry.id → HandFits max_attempts s.executions e
          (.ran entry attempts ok) → e.needs_compensation = (!e.committed) →
        Rested max_attempts s.executions (f e) := by
  unfold close_hand
  cases ok with
  | true =>
    rw [if_pos rfl, in_memory_outbox.mark_compensated, in_memory_outbox.mark_eq h]
    refine ⟨_, _, marks_compensated now, rfl, fun e => ⟨rfl, rfl⟩, fun e _ _ hfits hneeds =>
      rested_of_ran hfits hneeds ⟨rfl, rfl, rfl⟩ (Or.inr rfl) fun hbad => ?_⟩
    simp [LedgerEntry.isPending, LedgerEntry.markCompensated] at hbad
  | false =>
    rw [if_neg Bool.false_ne_true]
    split
    · rw [in_memory_outbox.mark_escalated, in_memory_outbox.mark_eq h]
      refine ⟨_, _, marks_escalated, rfl, fun e => ⟨rfl, rfl⟩, fun e _ _ hfits hneeds =>
        rested_of_ran hfits hneeds ⟨rfl, rfl, rfl⟩ (Or.inl rfl) fun hbad => ?_⟩
      simp [LedgerEntry.isPending, LedgerEntry.markEscalated] at hbad
    · rename_i hfew
      have hid : s.entries.map (marked id entry.id) = s.entries := by
        refine (List.map_congr_left fun e _ => ?_).trans s.entries.map_id
        unfold marked
        split <;> rfl
      exact ⟨id, _, ⟨fun _ => rfl, fun _ => rfl, fun _ => rfl⟩, by rw [hid],
        fun e => ⟨rfl, rfl⟩, fun e _ _ hfits hneeds => rested_of_ran hfits hneeds
          ⟨rfl, rfl, rfl⟩ (Or.inl rfl) fun _ => ⟨by simpa using hfew, rfl⟩⟩

theorem workersInv_mark (h : WorkersInv max_attempts s) {ok : Bool}
    (hget : dict.get s.workers worker = some ⟨queue, .ran entry attempts ok, report⟩)
    (now : String) :
    WorkersInv max_attempts (outbox_step max_attempts (.mark worker now) s) := by
  have hholds : s.in_hand worker = some entry.id := in_hand_of_get hget
  obtain ⟨f, report', hmarks, hclose, hkept, hrests⟩ :=
    close_hand_cases max_attempts h.ids entry attempts ok now report
  unfold outbox_step
  dsimp only
  rw [hget]
  dsimp only
  rw [hclose]
  have hhand : ∀ w, OutboxRun.in_hand { s.with_worker worker ⟨queue, .empty, report'⟩ with
      entries := s.entries.map (marked f entry.id) } w =
      if w = worker then none else s.in_hand w := fun w => in_hand_with worker w _
  have hstill : ∀ {w id}, OutboxRun.in_hand { s.with_worker worker ⟨queue, .empty, report'⟩ with
      entries := s.entries.map (marked f entry.id) } w = some id →
      w ≠ worker ∧ s.in_hand w = some id := by
    intro w id hw
    rw [hhand] at hw
    split at hw
    · cases hw
    · exact ⟨‹_›, hw⟩
  refine ⟨by dsimp only; rw [ids_marked hmarks]; exact h.ids, fun e' he' => ?_, fun x hx => ?_,
    fun w id hw => ?_, fun w w' id hw hw' => h.alone w w' id (hstill hw).2 (hstill hw').2,
    fun e' he' hfree => ?_, fun w r hgetw e' he' hid => ?_⟩
  · obtain ⟨e, he, ⟨-, rfl⟩ | ⟨-, rfl⟩⟩ := mem_marked he'
    · rw [(hkept e).1, (hkept e).2]
      exact h.needs e he
    · exact h.needs e' he
  · dsimp only
    rw [ids_marked hmarks]
    exact h.known x hx
  · dsimp only
    rw [ids_marked hmarks]
    exact h.held w id (hstill hw).2
  · obtain ⟨e, he, ⟨hide, rfl⟩ | ⟨hne, rfl⟩⟩ := mem_marked he'
    · have hfits := h.fits worker _ hget e he (congrArg some hide.symm)
      exact hrests e he hide hfits (h.needs e he)
    · refine h.free e' he fun w hw => ?_
      by_cases heq : w = worker
      · rw [heq, hholds] at hw
        exact hne (Option.some.inj hw).symm
      · exact hfree w ((hhand w).trans ((if_neg heq).trans hw))
  · have hheld := (in_hand_of_get hgetw).trans hid
    obtain ⟨hne, hbefore⟩ := hstill hheld
    have hgetw : dict.get s.workers w = some r := by
      rwa [OutboxRun.with_worker, dict.get_set_of_ne _ _ hne] at hgetw
    obtain ⟨e, he, ⟨hide, rfl⟩ | ⟨-, rfl⟩⟩ := mem_marked he'
    · refine absurd (h.alone w worker entry.id ?_ hholds) hne
      rw [hbefore, hmarks.id, hide]
    · exact h.fits w r hgetw e' he hid

end invariant

/-! ## The runs -/

theorem workersInv_start_empty (max_attempts : ℕ) : WorkersInv max_attempts {} where
  ids := List.nodup_nil
  needs e he := by cases he
  known x hx := by cases hx
  held w id hw := by cases hw
  alone w w' id hw hw' := by cases hw
  free e he := by cases he
  fits w r hget := by cases hget

theorem workersInv_step {max_attempts : ℕ} (hmax : 1 ≤ max_attempts) (e : OutboxEvent)
    {s : OutboxRun} (h : WorkersInv max_attempts s) (hnew : DrawsNewId e s)
    (hfree : TakesFree e s) : WorkersInv max_attempts (outbox_step max_attempts e s) := by
  cases e with
  | record outcome id now => exact workersInv_record h hmax outcome now hnew
  | start worker tenant_id =>
    cases hget : dict.get s.workers worker with
    | none =>
      have hstep : outbox_step max_attempts (.start worker tenant_id) s =
          s.with_worker worker { queue := in_memory_outbox.pending tenant_id s.entries } := by
        simp [outbox_step, hget]
      rw [hstep]
      exact workersInv_start h hget _
    | some r => simpa [outbox_step, hget] using h
  | take worker =>
    cases hget : dict.get s.workers worker with
    | none => simpa [outbox_step, hget] using h
    | some r =>
      obtain ⟨queue, hand, report⟩ := r
      cases hand with
      | empty =>
        cases queue with
        | nil => simpa [outbox_step, hget] using h
        | cons entry queue =>
          have hnext : s.next_entry worker = some entry := by
            rw [OutboxRun.next_entry, hget]
          obtain ⟨⟨e, he, hid, hpending⟩, hothers⟩ := hfree entry hnext
          refine workersInv_take h hget he hid hpending fun w hw => ?_
          obtain ⟨r, hr, -⟩ := get_of_in_hand hw
          exact hothers w (List.mem_map_of_mem (dict.mem_of_get hr)) hw
      | taken entry attempts => simpa [outbox_step, hget] using h
      | ran entry attempts ok => simpa [outbox_step, hget] using h
  | execute worker response =>
    cases hget : dict.get s.workers worker with
    | none => simpa [outbox_step, hget] using h
    | some r =>
      obtain ⟨queue, hand, report⟩ := r
      cases hand with
      | taken entry attempts => exact workersInv_execute h hget response
      | empty => simpa [outbox_step, hget] using h
      | ran entry attempts ok => simpa [outbox_step, hget] using h
  | mark worker now =>
    cases hget : dict.get s.workers worker with
    | none => simpa [outbox_step, hget] using h
    | some r =>
      obtain ⟨queue, hand, report⟩ := r
      cases hand with
      | ran entry attempts ok => exact workersInv_mark h hget now
      | empty => simpa [outbox_step, hget] using h
      | taken entry attempts => simpa [outbox_step, hget] using h

/-- In any run from an empty outbox in which each worker takes only entries
that are still pending and in no other hand, every entry is safe. -/
theorem entries_taken_free_are_safe {max_attempts : ℕ} (hmax : 1 ≤ max_attempts)
    {events : List OutboxEvent} (hnew : AllSteps (outbox_step max_attempts) DrawsNewId {} events)
    (hfree : AllSteps (outbox_step max_attempts) TakesFree {} events) :
    ∀ e ∈ (run (outbox_step max_attempts) {} events).entries,
      EntrySafe max_attempts (run (outbox_step max_attempts) {} events).executions e := by
  have hinv : WorkersInv max_attempts (run (outbox_step max_attempts) {} events) :=
    invariant (fun e _ hstep h => workersInv_step hmax e h hstep.1 hstep.2)
      (workersInv_start_empty max_attempts) (allSteps_and hnew hfree)
  exact fun e he => hinv.safe he

def failedReply : EffectOutcome where
  tenant_id := "TEN-1"
  gateway := "buyer_notification"
  operation := "send"
  status := "FAILED"

/-- One worker tries the one entry, and the gateway answers. -/
def turn (worker : ℕ) (status : GatewayStatus) : List OutboxEvent :=
  [.take worker, .execute worker (some status), .mark worker "2026-04-01T10:00:00+00:00"]

def aloneWorkers : List OutboxEvent :=
  [.record failedReply "OBX-1" "2026-04-01T09:00:00+00:00", .start 0 none] ++ turn 0 .FAILED ++
    [.start 1 none] ++ turn 1 .SUCCESS

theorem entries_of_workers_alone_are_safe :
    EntrySafe 3 (run (outbox_step 3) {} aloneWorkers).executions
      ((run (outbox_step 3) {} aloneWorkers).entries.headD (failedReply.entry "" "")) :=
  entries_taken_free_are_safe (by decide) (by decide +kernel) (by decide +kernel) _
    (by decide +kernel)

/-- After two failed turns, two workers read the queue before either of them
takes the entry. -/
def overlappingWorkers (late : GatewayStatus) : List OutboxEvent :=
  [.record failedReply "OBX-1" "2026-04-01T09:00:00+00:00", .start 0 none] ++ turn 0 .FAILED ++
    [.start 1 none] ++ turn 1 .FAILED ++ [.start 2 none, .start 3 none] ++ turn 2 .SUCCESS ++
    turn 3 late

/-- The late worker runs the effect again although the entry has been
compensated: it escalates the entry too, past the most attempts, or it
succeeds a second time. -/
theorem overlapping_workers_run_an_entry_twice :
    (∃ e ∈ (run (outbox_step 3) {} (overlappingWorkers .FAILED)).entries,
      e.compensated = true ∧ e.escalated = true ∧
        run_count (run (outbox_step 3) {} (overlappingWorkers .FAILED)).executions e.id = 4) ∧
    ∃ e ∈ (run (outbox_step 3) {} (overlappingWorkers .SUCCESS)).entries,
      success_count (run (outbox_step 3) {} (overlappingWorkers .SUCCESS)).executions e.id = 2 := by
  decide +kernel

end asoe
