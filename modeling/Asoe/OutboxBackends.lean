-- The ledger of gateway effects behind its two backends: a list in the
-- process, and the table `effect_outbox`. The list looks an entry up by its
-- id alone, the table by its id and its tenant.
import Mathlib.Data.List.Sort
import Mathlib.Data.String.Basic
import Asoe.Lib.PyValue
import Asoe.Lib.Runs

namespace asoe

open py runs

/-! ## Entries -/

/-- What `record_effect` is told. -/
structure EffectOutcome where
  tenant_id : String
  gateway : String
  operation : String
  status : String
  recipe : Option String := none
  recipe_status : Option String := none
  trace_id : Option String := none
  error : Option String := none
  params : PyDict := []

/-- An entry of the ledger. The `params` are JSON, which the column of the
table gives back as it was. -/
structure LedgerEntry where
  id : String
  tenant_id : String
  trace_id : Option String
  recipe : Option String
  gateway : String
  operation : String
  status : String
  recipe_status : Option String
  committed : Bool
  needs_compensation : Bool
  error : Option String
  created_at : String
  params : PyDict
  attempts : ℕ := 0
  escalated : Bool := false
  compensated : Bool := false
  compensated_at : Option String := none
  deriving DecidableEq

/-- The entry of an outcome, with the id and the time that are drawn for it. -/
def EffectOutcome.entry (outcome : EffectOutcome) (id now : String) : LedgerEntry :=
  let committed := decide (outcome.status = "SUCCESS")
  { id := id, tenant_id := outcome.tenant_id, trace_id := outcome.trace_id,
    recipe := outcome.recipe, gateway := outcome.gateway, operation := outcome.operation,
    status := outcome.status, recipe_status := outcome.recipe_status, committed := committed,
    needs_compensation := !committed, error := outcome.error, params := outcome.params,
    created_at := now }

namespace LedgerEntry

def isPending (e : LedgerEntry) : Bool := e.needs_compensation && !e.compensated && !e.escalated

def attempted (e : LedgerEntry) : LedgerEntry := { e with attempts := e.attempts + 1 }

def markCompensated (now : String) (e : LedgerEntry) : LedgerEntry :=
  { e with compensated := true, compensated_at := some now }

def markEscalated (e : LedgerEntry) : LedgerEntry := { e with escalated := true }

end LedgerEntry

/-- The six operations of a backend, on the entries that it holds. A record
that the backend refuses raises. -/
structure OutboxBackend where
  record : LedgerEntry → List LedgerEntry → Option (List LedgerEntry)
  pending : Option String → List LedgerEntry → List LedgerEntry
  all : Option String → List LedgerEntry → List LedgerEntry
  increment_attempts : String → String → List LedgerEntry → List LedgerEntry × ℕ
  mark_compensated : String → String → String → List LedgerEntry → List LedgerEntry × Bool
  mark_escalated : String → String → List LedgerEntry → List LedgerEntry × Bool

/-! ## The list in the process -/

namespace in_memory_outbox

def find (entry_id : String) (entries : List LedgerEntry) : Option LedgerEntry :=
  entries.find? fun e => e.id = entry_id

/-- The entry that `find` gives is changed in place. -/
def change (f : LedgerEntry → LedgerEntry) (entry_id : String) : List LedgerEntry → List LedgerEntry
  | [] => []
  | e :: entries => if e.id = entry_id then f e :: entries else e :: change f entry_id entries

def pending (tenant_id : Option String) (entries : List LedgerEntry) : List LedgerEntry :=
  entries.filter fun e => e.isPending && tenant_id.all fun t => e.tenant_id = t

def all (tenant_id : Option String) (entries : List LedgerEntry) : List LedgerEntry :=
  entries.filter fun e => tenant_id.all fun t => e.tenant_id = t

def increment_attempts (entry_id : String) (entries : List LedgerEntry) : List LedgerEntry × ℕ :=
  match find entry_id entries with
  | none => (entries, 0)
  | some e => (change LedgerEntry.attempted entry_id entries, e.attempts + 1)

/-- Both marks: `False` when no entry has the id. -/
def mark (f : LedgerEntry → LedgerEntry) (entry_id : String) (entries : List LedgerEntry) :
    List LedgerEntry × Bool :=
  match find entry_id entries with
  | none => (entries, false)
  | some _ => (change f entry_id entries, true)

def mark_compensated (entry_id now : String) (entries : List LedgerEntry) :
    List LedgerEntry × Bool :=
  mark (LedgerEntry.markCompensated now) entry_id entries

def mark_escalated (entry_id : String) (entries : List LedgerEntry) : List LedgerEntry × Bool :=
  mark LedgerEntry.markEscalated entry_id entries

end in_memory_outbox

/-- `_InMemoryBackend`: what changes an entry does not look at its tenant. -/
def inMemoryBackend : OutboxBackend where
  record e entries := some (entries ++ [e])
  pending := in_memory_outbox.pending
  all := in_memory_outbox.all
  increment_attempts _ := in_memory_outbox.increment_attempts
  mark_compensated _ := in_memory_outbox.mark_compensated
  mark_escalated _ := in_memory_outbox.mark_escalated

/-! ## The table -/

/-- `ORDER BY created_at`; rows of one time come in any order. -/
structure ByCreation where
  sort : List LedgerEntry → List LedgerEntry
  perm : ∀ rows, (sort rows).Perm rows
  ascending : ∀ rows, (sort rows).Pairwise fun a b => a.created_at ≤ b.created_at

namespace outbox_repository

/-- `WHERE id = ? AND tenant_id = ?`. -/
def held (tenant_id entry_id : String) (row : LedgerEntry) : Bool :=
  row.id = entry_id && row.tenant_id = tenant_id

/-- An `UPDATE`, with its `rowcount`. -/
def update (f : LedgerEntry → LedgerEntry) (tenant_id entry_id : String)
    (rows : List LedgerEntry) : List LedgerEntry × ℕ :=
  (rows.map fun row => if held tenant_id entry_id row then f row else row,
    rows.countP (held tenant_id entry_id))

/-- The id is the primary key. -/
def insert (row : LedgerEntry) (rows : List LedgerEntry) : Option (List LedgerEntry) :=
  if rows.any fun r => r.id = row.id then none else some (rows ++ [row])

def list_pending (order : ByCreation) (tenant_id : String) (rows : List LedgerEntry) :
    List LedgerEntry :=
  order.sort (rows.filter fun row => row.tenant_id = tenant_id && row.isPending)

def list_all (order : ByCreation) (tenant_id : String) (rows : List LedgerEntry) :
    List LedgerEntry :=
  order.sort (rows.filter fun row => row.tenant_id = tenant_id)

/-- The count is read after the update, zero when no row is held. -/
def increment_attempts (tenant_id entry_id : String) (rows : List LedgerEntry) :
    List LedgerEntry × ℕ :=
  let rows := (update LedgerEntry.attempted tenant_id entry_id rows).1
  (rows, ((rows.find? (held tenant_id entry_id)).map LedgerEntry.attempts).getD 0)

def mark (f : LedgerEntry → LedgerEntry) (tenant_id entry_id : String) (rows : List LedgerEntry) :
    List LedgerEntry × Bool :=
  let updated := update f tenant_id entry_id rows
  (updated.1, decide (updated.2 ≠ 0))

def mark_compensated (tenant_id entry_id now : String) (rows : List LedgerEntry) :
    List LedgerEntry × Bool :=
  mark (LedgerEntry.markCompensated now) tenant_id entry_id rows

def mark_escalated (tenant_id entry_id : String) (rows : List LedgerEntry) :
    List LedgerEntry × Bool :=
  mark LedgerEntry.markEscalated tenant_id entry_id rows

end outbox_repository

/-- `_DbBackend`: a listing without a tenant is empty. -/
def dbBackend (order : ByCreation) : OutboxBackend where
  record := outbox_repository.insert
  pending tenant_id rows := (tenant_id.map fun t =>
    outbox_repository.list_pending order t rows).getD []
  all tenant_id rows := (tenant_id.map fun t => outbox_repository.list_all order t rows).getD []
  increment_attempts := outbox_repository.increment_attempts
  mark_compensated := outbox_repository.mark_compensated
  mark_escalated := outbox_repository.mark_escalated

/-! ## The operations of the outbox -/

/-- One call, with the id and the times that it draws. -/
inductive OutboxCall where
  | record_effect (outcome : EffectOutcome) (id now : String)
  | pending_compensation (tenant_id : Option String)
  | all_entries (tenant_id : Option String)
  | mark_compensated (entry_id tenant_id now : String)
  | mark_escalated (entry_id tenant_id : String)
  | increment_attempts (tenant_id entry_id : String)

inductive OutboxAnswer where
  | entry (e : LedgerEntry)
  | entries (es : List LedgerEntry)
  | attempts (n : ℕ)
  | marked (found : Bool)
  | integrity_error
  deriving DecidableEq

/-- A call of the outbox on a backend: the entries after it, and its answer. -/
def OutboxBackend.answer (backend : OutboxBackend) (call : OutboxCall)
    (entries : List LedgerEntry) : List LedgerEntry × OutboxAnswer :=
  match call with
  | .record_effect outcome id now =>
    match backend.record (outcome.entry id now) entries with
    | none => (entries, .integrity_error)
    | some entries' => (entries', .entry (outcome.entry id now))
  | .pending_compensation tenant_id => (entries, .entries (backend.pending tenant_id entries))
  | .all_entries tenant_id => (entries, .entries (backend.all tenant_id entries))
  | .mark_compensated entry_id tenant_id now =>
    (backend.mark_compensated tenant_id entry_id now entries).map id .marked
  | .mark_escalated entry_id tenant_id =>
    (backend.mark_escalated tenant_id entry_id entries).map id .marked
  | .increment_attempts tenant_id entry_id =>
    (backend.increment_attempts tenant_id entry_id entries).map id .attempts

/-- The tenant that a call names. -/
def OutboxCall.tenant : OutboxCall → Option String
  | .record_effect outcome _ _ => some outcome.tenant_id
  | .pending_compensation tenant_id => tenant_id
  | .all_entries tenant_id => tenant_id
  | .mark_compensated _ tenant_id _ => some tenant_id
  | .mark_escalated _ tenant_id => some tenant_id
  | .increment_attempts tenant_id _ => some tenant_id

/-- The two backends, side by side: what each holds. -/
structure Ledgers where
  memory : List LedgerEntry := []
  table : List LedgerEntry := []

/-- One call on each backend. -/
def Ledgers.step (order : ByCreation) (call : OutboxCall) (s : Ledgers) : Ledgers :=
  ⟨(inMemoryBackend.answer call s.memory).1, ((dbBackend order).answer call s.table).1⟩

/-! ## Calls that keep to one tenant -/

def own_entries (tenant_id : String) (entries : List LedgerEntry) : List LedgerEntry :=
  entries.filter fun e => e.tenant_id = tenant_id

def other_entries (tenant_id : String) (entries : List LedgerEntry) : List LedgerEntry :=
  entries.filter fun e => ¬ e.tenant_id = tenant_id

/-- A recording draws a new id, and a time after those of its tenant. What
changes an entry names the tenant of the entry with this id, if there is one. -/
def OutboxCall.Scoped (entries : List LedgerEntry) : OutboxCall → Prop
  | .record_effect outcome id now =>
    (∀ e ∈ entries, e.id ≠ id) ∧
      ∀ e ∈ entries, e.tenant_id = outcome.tenant_id → e.created_at < now
  | .pending_compensation _ => True
  | .all_entries _ => True
  | .mark_compensated entry_id tenant_id _ =>
    ∀ e ∈ entries, e.id = entry_id → e.tenant_id = tenant_id
  | .mark_escalated entry_id tenant_id => ∀ e ∈ entries, e.id = entry_id → e.tenant_id = tenant_id
  | .increment_attempts tenant_id entry_id =>
    ∀ e ∈ entries, e.id = entry_id → e.tenant_id = tenant_id

/-- No call of `tenant_id` reads or changes what others have: on the entries
of the tenant alone it gives the same answer and leaves the same of them. -/
structure KeepsTo (backend : OutboxBackend) (tenant_id : String) (call : OutboxCall)
    (entries : List LedgerEntry) : Prop where
  answer : (backend.answer call entries).2 = (backend.answer call (own_entries tenant_id entries)).2
  own : own_entries tenant_id (backend.answer call entries).1 =
    (backend.answer call (own_entries tenant_id entries)).1
  others : other_entries tenant_id (backend.answer call entries).1 = other_entries tenant_id entries

/-- What a listing without a tenant takes of the list. -/
def OutboxCall.listed : OutboxCall → LedgerEntry → Bool
  | .pending_compensation _, e => e.isPending
  | _, _ => true

/-- One answer from both backends, and nothing of another tenant. A listing
that names no tenant is of all of them in the process, and empty on the table. -/
def Agree (order : ByCreation) (call : OutboxCall) (s : Ledgers) : Prop :=
  let memory := (inMemoryBackend.answer call s.memory).2
  let database := ((dbBackend order).answer call s.table).2
  match call.tenant with
  | some tenant_id =>
    memory = database ∧ KeepsTo inMemoryBackend tenant_id call s.memory ∧
      KeepsTo (dbBackend order) tenant_id call s.table
  | none => memory = .entries (s.memory.filter call.listed) ∧ database = .entries []

/-- What the entries are like in a run of such calls. -/
structure Ordered (entries : List LedgerEntry) : Prop where
  ids : (entries.map LedgerEntry.id).Nodup
  times : entries.Pairwise fun a b => a.tenant_id = b.tenant_id → a.created_at < b.created_at

/-- A change of an entry that leaves what it is found and listed by. -/
structure Marks (f : LedgerEntry → LedgerEntry) : Prop where
  id : ∀ e, (f e).id = e.id
  tenant_id : ∀ e, (f e).tenant_id = e.tenant_id
  created_at : ∀ e, (f e).created_at = e.created_at

theorem marks_attempted : Marks LedgerEntry.attempted := ⟨fun _ => rfl, fun _ => rfl, fun _ => rfl⟩

theorem marks_compensated (now : String) : Marks (LedgerEntry.markCompensated now) :=
  ⟨fun _ => rfl, fun _ => rfl, fun _ => rfl⟩

theorem marks_escalated : Marks LedgerEntry.markEscalated :=
  ⟨fun _ => rfl, fun _ => rfl, fun _ => rfl⟩

/-- `f` on the entries with this id. -/
def marked (f : LedgerEntry → LedgerEntry) (entry_id : String) (e : LedgerEntry) : LedgerEntry :=
  if e.id = entry_id then f e else e

variable {f : LedgerEntry → LedgerEntry} {entries : List LedgerEntry} {tenant_id entry_id : String}

theorem Marks.marked (hf : Marks f) (entry_id : String) : Marks (marked f entry_id) := by
  refine ⟨fun e => ?_, fun e => ?_, fun e => ?_⟩
  all_goals unfold asoe.marked; split
  · exact hf.id e
  · rfl
  · exact hf.tenant_id e
  · rfl
  · exact hf.created_at e
  · rfl

namespace in_memory_outbox

theorem change_eq_map (hids : (entries.map LedgerEntry.id).Nodup) :
    change f entry_id entries = entries.map (marked f entry_id) := by
  induction entries with
  | nil => rfl
  | cons e entries ih =>
    rw [List.map_cons, List.nodup_cons] at hids
    by_cases he : e.id = entry_id
    · have hrest : entries.map (marked f entry_id) = entries := by
        refine (List.map_congr_left fun a ha => ?_).trans entries.map_id
        have hne : a.id ≠ entry_id := fun heq =>
          hids.1 (he ▸ heq ▸ List.mem_map_of_mem ha)
        simp [marked, hne]
      simp [change, marked, he, hrest]
    · simp [change, marked, he, ih hids.2]

theorem map_marked_of_find_none (h : find entry_id entries = none) :
    entries.map (marked f entry_id) = entries := by
  refine (List.map_congr_left fun a ha => ?_).trans entries.map_id
  have hne := List.find?_eq_none.mp h a ha
  simp only [decide_eq_true_eq] at hne
  simp [marked, hne]

theorem mark_eq (hids : (entries.map LedgerEntry.id).Nodup) :
    mark f entry_id entries =
      (entries.map (marked f entry_id), (find entry_id entries).isSome) := by
  unfold mark
  split
  · rename_i h
    rw [map_marked_of_find_none h, h]
    rfl
  · rename_i e h
    rw [change_eq_map hids, h]
    rfl

theorem increment_attempts_eq (hids : (entries.map LedgerEntry.id).Nodup) :
    increment_attempts entry_id entries =
      (entries.map (marked LedgerEntry.attempted entry_id),
        ((find entry_id entries).map fun e => e.attempts + 1).getD 0) := by
  unfold increment_attempts
  split
  · rename_i h
    rw [map_marked_of_find_none h, h]
    rfl
  · rename_i e h
    rw [change_eq_map hids, h]
    rfl

end in_memory_outbox

/-! ## The table gives what the list gives -/

theorem ByCreation.sort_eq (order : ByCreation) {rows : List LedgerEntry}
    (h : rows.Pairwise fun a b => a.created_at < b.created_at) : order.sort rows = rows := by
  have hnodup : (rows.map LedgerEntry.created_at).Nodup :=
    List.pairwise_map.mpr (h.imp fun {a b} hab => ne_of_lt hab)
  refine List.Perm.eq_of_pairwise (fun a b ha hb hab hba => ?_) (order.ascending rows)
    (h.imp fun {a b} hab => le_of_lt hab) (order.perm rows)
  exact List.inj_on_of_nodup_map hnodup ((order.perm rows).mem_iff.mp ha) hb (le_antisymm hab hba)

theorem Ordered.filter (h : Ordered entries) (p : LedgerEntry → Bool) :
    Ordered (entries.filter p) :=
  ⟨h.ids.sublist (List.filter_sublist.map _), h.times.filter p⟩

theorem Ordered.ascending (h : Ordered entries) (tenant_id : String) {p : LedgerEntry → Bool}
    (hp : ∀ e, p e = true → e.tenant_id = tenant_id) :
    (entries.filter p).Pairwise fun a b => a.created_at < b.created_at := by
  refine List.Pairwise.imp_of_mem (fun {a b} ha hb hlt => ?_) (h.times.filter p)
  exact hlt ((hp a (List.mem_filter.mp ha).2).trans (hp b (List.mem_filter.mp hb).2).symm)

namespace outbox_repository

theorem held_eq (h : ∀ e ∈ entries, e.id = entry_id → e.tenant_id = tenant_id) :
    ∀ e ∈ entries, held tenant_id entry_id e = decide (e.id = entry_id) := by
  intro e he
  by_cases hid : e.id = entry_id
  · simp [held, hid, h e he hid]
  · simp [held, hid]

theorem update_eq (h : ∀ e ∈ entries, e.id = entry_id → e.tenant_id = tenant_id) :
    (update f tenant_id entry_id entries).1 = entries.map (marked f entry_id) := by
  refine List.map_congr_left fun e he => ?_
  rw [held_eq h e he]
  simp [marked]

theorem mark_eq (hids : (entries.map LedgerEntry.id).Nodup)
    (h : ∀ e ∈ entries, e.id = entry_id → e.tenant_id = tenant_id) :
    mark f tenant_id entry_id entries = in_memory_outbox.mark f entry_id entries := by
  rw [in_memory_outbox.mark_eq hids]
  refine Prod.ext (update_eq h) ?_
  have hcount : (update f tenant_id entry_id entries).2 =
      entries.countP fun e => e.id = entry_id := by
    unfold update
    refine List.countP_congr fun e he => ?_
    rw [held_eq h e he]
  simp only [mark, hcount]
  rw [Bool.eq_iff_iff]
  simp [in_memory_outbox.find, List.countP_eq_zero, List.find?_isSome]

theorem increment_attempts_eq (hids : (entries.map LedgerEntry.id).Nodup)
    (h : ∀ e ∈ entries, e.id = entry_id → e.tenant_id = tenant_id) :
    increment_attempts tenant_id entry_id entries =
      in_memory_outbox.increment_attempts entry_id entries := by
  rw [in_memory_outbox.increment_attempts_eq hids]
  refine Prod.ext (update_eq h) ?_
  have hfind : (entries.find? fun e => held tenant_id entry_id (marked .attempted entry_id e)) =
      in_memory_outbox.find entry_id entries := by
    rw [in_memory_outbox.find, ← List.head?_filter, ← List.head?_filter]
    refine congrArg _ (List.filter_congr fun e he => ?_)
    simp only [held, (marks_attempted.marked entry_id).id,
      (marks_attempted.marked entry_id).tenant_id]
    exact held_eq h e he
  simp only [increment_attempts, update_eq h, List.find?_map, Function.comp_def, hfind]
  cases hfound : in_memory_outbox.find entry_id entries with
  | none => rfl
  | some e =>
    have hid : e.id = entry_id := by simpa using List.find?_some hfound
    simp [marked, hid, LedgerEntry.attempted]

end outbox_repository

/-- On the entries of such a run the two backends are one. -/
theorem db_answer_eq (order : ByCreation) {call : OutboxCall} (hentries : Ordered entries)
    (hcall : call.Scoped entries) (htenant : call.tenant = some tenant_id) :
    (dbBackend order).answer call entries = inMemoryBackend.answer call entries := by
  cases call with
  | record_effect outcome id now =>
    have hfresh : (entries.any fun r => r.id = id) = false := by simpa using hcall.1
    simp [OutboxBackend.answer, dbBackend, inMemoryBackend, outbox_repository.insert,
      EffectOutcome.entry, hfresh]
  | pending_compensation listed =>
    obtain rfl : listed = some tenant_id := htenant
    have hsorted : (entries.filter fun e => e.tenant_id = tenant_id && e.isPending).Pairwise
        fun a b => a.created_at < b.created_at :=
      hentries.ascending tenant_id (by simp +contextual)
    simp [OutboxBackend.answer, dbBackend, inMemoryBackend, outbox_repository.list_pending,
      in_memory_outbox.pending, order.sort_eq hsorted, Bool.and_comm]
  | all_entries listed =>
    obtain rfl : listed = some tenant_id := htenant
    have hsorted : (entries.filter fun e => e.tenant_id = tenant_id).Pairwise
        fun a b => a.created_at < b.created_at :=
      hentries.ascending tenant_id (by simp)
    simp [OutboxBackend.answer, dbBackend, inMemoryBackend, outbox_repository.list_all,
      in_memory_outbox.all, order.sort_eq hsorted]
  | mark_compensated entry_id tenant_id now =>
    simp only [OutboxBackend.answer, dbBackend, inMemoryBackend,
      outbox_repository.mark_compensated, in_memory_outbox.mark_compensated]
    rw [outbox_repository.mark_eq hentries.ids hcall]
  | mark_escalated entry_id tenant_id =>
    simp only [OutboxBackend.answer, dbBackend, inMemoryBackend,
      outbox_repository.mark_escalated, in_memory_outbox.mark_escalated]
    rw [outbox_repository.mark_eq hentries.ids hcall]
  | increment_attempts tenant_id entry_id =>
    simp only [OutboxBackend.answer, dbBackend, inMemoryBackend]
    rw [outbox_repository.increment_attempts_eq hentries.ids hcall]

/-! ## The list keeps to the tenant -/

theorem find_own_entries (h : ∀ e ∈ entries, e.id = entry_id → e.tenant_id = tenant_id) :
    in_memory_outbox.find entry_id (own_entries tenant_id entries) =
      in_memory_outbox.find entry_id entries := by
  simp only [in_memory_outbox.find, own_entries, ← List.head?_filter, List.filter_filter]
  refine congrArg _ (List.filter_congr fun e he => ?_)
  by_cases hid : e.id = entry_id
  · simp [hid, h e he hid]
  · simp [hid]

theorem own_entries_marked (hf : Marks f) :
    own_entries tenant_id (entries.map (marked f entry_id)) =
      (own_entries tenant_id entries).map (marked f entry_id) := by
  simp [own_entries, List.filter_map, Function.comp_def, (hf.marked entry_id).tenant_id]

theorem other_entries_marked (hf : Marks f)
    (h : ∀ e ∈ entries, e.id = entry_id → e.tenant_id = tenant_id) :
    other_entries tenant_id (entries.map (marked f entry_id)) =
      other_entries tenant_id entries := by
  simp only [other_entries, List.filter_map, Function.comp_def, (hf.marked entry_id).tenant_id]
  refine (List.map_congr_left fun e he => ?_).trans (List.map_id _)
  obtain ⟨hmem, hother⟩ := List.mem_filter.mp he
  have hne : e.id ≠ entry_id := fun hid => of_decide_eq_true hother (h e hmem hid)
  simp [marked, hne]

theorem ids_own_entries (tenant_id : String) (h : (entries.map LedgerEntry.id).Nodup) :
    ((own_entries tenant_id entries).map LedgerEntry.id).Nodup :=
  h.sublist (List.filter_sublist.map _)

theorem list_keeps_to_the_tenant {call : OutboxCall} (hentries : Ordered entries)
    (hcall : call.Scoped entries) (htenant : call.tenant = some tenant_id) :
    KeepsTo inMemoryBackend tenant_id call entries := by
  have hids := hentries.ids
  have hown := ids_own_entries tenant_id hids
  cases call with
  | record_effect outcome id now =>
    obtain rfl : outcome.tenant_id = tenant_id := Option.some.inj htenant
    refine ⟨rfl, ?_, ?_⟩
    · simp [OutboxBackend.answer, inMemoryBackend, own_entries, EffectOutcome.entry]
    · simp [OutboxBackend.answer, inMemoryBackend, other_entries, EffectOutcome.entry]
  | pending_compensation listed =>
    obtain rfl : listed = some tenant_id := htenant
    refine ⟨?_, rfl, rfl⟩
    simp [OutboxBackend.answer, inMemoryBackend, in_memory_outbox.pending, own_entries]
  | all_entries listed =>
    obtain rfl : listed = some tenant_id := htenant
    refine ⟨?_, rfl, rfl⟩
    simp [OutboxBackend.answer, inMemoryBackend, in_memory_outbox.all, own_entries]
  | mark_compensated entry_id named now =>
    obtain rfl : named = tenant_id := Option.some.inj htenant
    have hf := marks_compensated now
    simp only [OutboxCall.Scoped] at hcall
    constructor <;>
      simp [OutboxBackend.answer, inMemoryBackend, in_memory_outbox.mark_compensated,
        in_memory_outbox.mark_eq hids, in_memory_outbox.mark_eq hown, find_own_entries hcall,
        own_entries_marked hf, other_entries_marked hf hcall]
  | mark_escalated entry_id named =>
    obtain rfl : named = tenant_id := Option.some.inj htenant
    have hf := marks_escalated
    simp only [OutboxCall.Scoped] at hcall
    constructor <;>
      simp [OutboxBackend.answer, inMemoryBackend, in_memory_outbox.mark_escalated,
        in_memory_outbox.mark_eq hids, in_memory_outbox.mark_eq hown, find_own_entries hcall,
        own_entries_marked hf, other_entries_marked hf hcall]
  | increment_attempts named entry_id =>
    obtain rfl : named = tenant_id := Option.some.inj htenant
    have hf := marks_attempted
    simp only [OutboxCall.Scoped] at hcall
    constructor <;>
      simp [OutboxBackend.answer, inMemoryBackend, in_memory_outbox.increment_attempts_eq hids,
        in_memory_outbox.increment_attempts_eq hown, find_own_entries hcall, own_entries_marked hf,
        other_entries_marked hf hcall]

/-! ## Runs -/

theorem Ordered.marked (h : Ordered entries) (hf : Marks f) :
    Ordered (entries.map (marked f entry_id)) := by
  have hm := hf.marked entry_id
  refine ⟨?_, List.pairwise_map.mpr (h.times.imp fun {a b} hab => ?_)⟩
  · simpa [List.map_map, Function.comp_def, hm.id] using h.ids
  · simpa only [hm.tenant_id, hm.created_at] using hab

/-- One call of a run keeps the entries ordered. -/
theorem ordered_answer {call : OutboxCall} (h : Ordered entries) (hcall : call.Scoped entries) :
    Ordered (inMemoryBackend.answer call entries).1 := by
  cases call with
  | record_effect outcome id now =>
    obtain ⟨hfresh, hlater⟩ := hcall
    refine ⟨?_, ?_⟩
    · have hid : id ∉ entries.map LedgerEntry.id := by simpa using hfresh
      simpa [OutboxBackend.answer, inMemoryBackend, EffectOutcome.entry, List.nodup_append]
        using ⟨h.ids, hfresh⟩
    · refine List.pairwise_append.mpr ⟨h.times, List.pairwise_singleton _ _, ?_⟩
      intro a ha b hb hab
      obtain rfl := List.mem_singleton.mp hb
      exact hlater a ha hab
  | pending_compensation listed => exact h
  | all_entries listed => exact h
  | mark_compensated entry_id named now =>
    simpa [OutboxBackend.answer, inMemoryBackend, in_memory_outbox.mark_compensated,
      in_memory_outbox.mark_eq h.ids] using h.marked (marks_compensated now)
  | mark_escalated entry_id named =>
    simpa [OutboxBackend.answer, inMemoryBackend, in_memory_outbox.mark_escalated,
      in_memory_outbox.mark_eq h.ids] using h.marked marks_escalated
  | increment_attempts named entry_id =>
    simpa [OutboxBackend.answer, inMemoryBackend,
      in_memory_outbox.increment_attempts_eq h.ids] using h.marked marks_attempted

theorem scoped_own_entries (tenant_id : String) {call : OutboxCall} (h : call.Scoped entries) :
    call.Scoped (own_entries tenant_id entries) := by
  have hsub : ∀ e ∈ own_entries tenant_id entries, e ∈ entries := fun e he =>
    List.mem_of_mem_filter he
  cases call with
  | record_effect outcome id now =>
    exact ⟨fun e he => h.1 e (hsub e he), fun e he => h.2 e (hsub e he)⟩
  | pending_compensation listed => trivial
  | all_entries listed => trivial
  | mark_compensated entry_id named now => exact fun e he => h e (hsub e he)
  | mark_escalated entry_id named => exact fun e he => h e (hsub e he)
  | increment_attempts named entry_id => exact fun e he => h e (hsub e he)

theorem table_keeps_to_the_tenant (order : ByCreation) {call : OutboxCall}
    (hentries : Ordered entries) (hcall : call.Scoped entries)
    (htenant : call.tenant = some tenant_id) :
    KeepsTo (dbBackend order) tenant_id call entries := by
  have hkeeps := list_keeps_to_the_tenant hentries hcall htenant
  have hall := db_answer_eq order hentries hcall htenant
  have hown := db_answer_eq order (hentries.filter _) (scoped_own_entries tenant_id hcall) htenant
  refine ⟨?_, ?_, ?_⟩
  · rw [hall, hkeeps.answer]
    exact congrArg Prod.snd hown.symm
  · rw [hall, hkeeps.own]
    exact congrArg Prod.fst hown.symm
  · rw [hall, hkeeps.others]

/-- The two backends hold the same entries. -/
structure HoldAlike (s : Ledgers) : Prop where
  same : s.table = s.memory
  ordered : Ordered s.memory

theorem HoldAlike.agree (order : ByCreation) {call : OutboxCall} {s : Ledgers} (h : HoldAlike s)
    (hcall : call.Scoped s.memory) : Agree order call s := by
  obtain ⟨hsame, hordered⟩ := h
  unfold Agree
  split
  · rename_i tenant_id htenant
    rw [hsame, db_answer_eq order hordered hcall htenant]
    exact ⟨rfl, list_keeps_to_the_tenant hordered hcall htenant,
      table_keeps_to_the_tenant order hordered hcall htenant⟩
  · rename_i htenant
    cases call with
    | pending_compensation listed =>
      obtain rfl : listed = none := htenant
      refine ⟨?_, rfl⟩
      simp only [OutboxBackend.answer, inMemoryBackend, in_memory_outbox.pending,
        Option.all_none, Bool.and_true]
      rfl
    | all_entries listed =>
      obtain rfl : listed = none := htenant
      refine ⟨?_, rfl⟩
      simp only [OutboxBackend.answer, inMemoryBackend, in_memory_outbox.all, Option.all_none]
      rfl
    | record_effect => cases htenant
    | mark_compensated => cases htenant
    | mark_escalated => cases htenant
    | increment_attempts => cases htenant

theorem HoldAlike.step (order : ByCreation) {call : OutboxCall} {s : Ledgers} (h : HoldAlike s)
    (hcall : call.Scoped s.memory) : HoldAlike (s.step order call) := by
  refine ⟨?_, ordered_answer h.ordered hcall⟩
  cases htenant : call.tenant with
  | some tenant_id =>
    change ((dbBackend order).answer call s.table).1 = (inMemoryBackend.answer call s.memory).1
    rw [h.same, db_answer_eq order h.ordered hcall htenant]
  | none =>
    cases call with
    | pending_compensation listed => exact h.same
    | all_entries listed => exact h.same
    | record_effect => cases htenant
    | mark_compensated => cases htenant
    | mark_escalated => cases htenant
    | increment_attempts => cases htenant

/-- In a run of calls that each keep to the entries of one tenant, the two
backends answer alike, and no call reads or changes an entry of another
tenant. -/
theorem calls_that_keep_to_a_tenant_are_answered_alike (order : ByCreation)
    (calls : List OutboxCall)
    (h : AllSteps (Ledgers.step order) (fun call s => call.Scoped s.memory) {} calls) :
    AllSteps (Ledgers.step order) (Agree order) {} calls := by
  have hempty : HoldAlike {} := ⟨rfl, ⟨List.nodup_nil, List.Pairwise.nil⟩⟩
  have hbefore := invariant_before (fun call s hcall hs => HoldAlike.step order hs hcall) hempty h
  exact allSteps_mono (fun call s hs => hs.1.agree order hs.2) hbefore

/-! ## Two tenants -/

def createdFirst (a b : LedgerEntry) : Prop := a.created_at ≤ b.created_at

instance : DecidableRel createdFirst :=
  fun a b => inferInstanceAs (Decidable (a.created_at ≤ b.created_at))

instance : Std.Total createdFirst := ⟨fun a b => le_total a.created_at b.created_at⟩

instance : IsTrans LedgerEntry createdFirst :=
  ⟨fun a _ _ hab hbc => le_trans (a := a.created_at) hab hbc⟩

def creationOrder : ByCreation where
  sort rows := rows.insertionSort createdFirst
  perm rows := List.perm_insertionSort createdFirst rows
  ascending rows := List.pairwise_insertionSort createdFirst rows

instance (entries : List LedgerEntry) (call : OutboxCall) : Decidable (call.Scoped entries) :=
  match call with
  | .record_effect .. => inferInstanceAs (Decidable (_ ∧ _))
  | .pending_compensation _ => inferInstanceAs (Decidable True)
  | .all_entries _ => inferInstanceAs (Decidable True)
  | .mark_compensated .. => inferInstanceAs (Decidable (∀ e ∈ entries, _))
  | .mark_escalated .. => inferInstanceAs (Decidable (∀ e ∈ entries, _))
  | .increment_attempts .. => inferInstanceAs (Decidable (∀ e ∈ entries, _))

/-- A send that failed. -/
def failedSend (tenant_id : String) : EffectOutcome :=
  { tenant_id := tenant_id, gateway := "buyer_notification", operation := "send",
    status := "FAILED" }

/-- A failed send of each of two tenants. -/
def twoFailures : List OutboxCall :=
  [.record_effect (failedSend "T1") "e1" "10:00", .record_effect (failedSend "T2") "e2" "10:01"]

/-- The effect of one tenant is tried again and closed, that of the other
one is still listed. -/
theorem two_tenants_are_answered_alike :
    AllSteps (Ledgers.step creationOrder) (Agree creationOrder) {}
      (twoFailures ++ [.increment_attempts "T1" "e1", .mark_compensated "e1" "T1" "10:02",
        .pending_compensation (some "T1"), .pending_compensation (some "T2")]) :=
  calls_that_keep_to_a_tenant_are_answered_alike creationOrder _ (by decide +kernel)

/-- A listing without a tenant, and a mark that names another one: the list
gives and marks the entry, the table does not. -/
theorem the_table_asks_for_the_tenant_and_the_list_does_not :
    let s := run (Ledgers.step creationOrder) {} twoFailures
    let memory := inMemoryBackend.answer (.mark_compensated "e1" "T2" "10:02") s.memory
    (inMemoryBackend.answer (.pending_compensation none) s.memory).2 ≠
        ((dbBackend creationOrder).answer (.pending_compensation none) s.table).2 ∧
      memory.2 ≠
        ((dbBackend creationOrder).answer (.mark_compensated "e1" "T2" "10:02") s.table).2 ∧
      other_entries "T2" memory.1 ≠ other_entries "T2" s.memory := by
  decide +kernel

end asoe
