-- The audit log of the in-memory store: each event is sealed with a hash
-- over its content and over the hash of the tenant's event before it. Every
-- history verifies, and what verification finds out about a changed log.
import Asoe.Transitions
import Asoe.Lib.HashChain
import Asoe.Lib.PyJson
import Asoe.Lib.PyText
import Asoe.Lib.Sha256
import Mathlib.Data.List.Induction

namespace asoe

open py runs hashchain

/-! ## The hash of an event -/

/-- The text that is hashed: the hash before, and the canonical JSON of the
event. -/
def audit_text (prev_hash : String) (fields : PyDict) : List Char :=
  prev_hash.toList ++ '|' :: json.dumps true (.dict fields)

/-- `_audit_event_hash(prev_hash, fields)`. -/
def audit_event_hash (prev_hash : String) (fields : PyDict) : String :=
  sha256.hexdigest (audit_text prev_hash fields)

/-- SHA-256 tells these texts apart. -/
def CollisionFree (texts : List (List Char)) : Prop :=
  ∀ s ∈ texts, ∀ t ∈ texts, sha256.hexdigest s = sha256.hexdigest t → s = t

theorem CollisionFree.of_subset {texts texts' : List (List Char)} (h : CollisionFree texts)
    (hsub : ∀ s ∈ texts', s ∈ texts) : CollisionFree texts' :=
  fun s hs t ht => h s (hsub s hs) t (hsub t ht)

theorem hexdigest_no_bar (text : List Char) : '|' ∉ (sha256.hexdigest text).toList := by
  intro h
  rcases sha256.hexdigest_digits text _ h with hdigit | hmem
  · revert hdigit
    decide
  · revert hmem
    decide

theorem hexdigest_ne_genesis (text : List Char) : sha256.hexdigest text ≠ "GENESIS" := by
  intro h
  have hlen := sha256.hexdigest_length text
  rw [h] at hlen
  revert hlen
  decide

/-- The entries of a chain are bound by their texts: no hash holds the bar
that ends it in the text, so the text gives the hash back. -/
theorem binding_of_texts {α : Type} {S : Scheme α String} {text payload : α → List Char}
    (htext : ∀ e, text e = (S.prev e).toList ++ '|' :: payload e)
    (hdigest : ∀ e, S.digest e = sha256.hexdigest (text e)) (hgenesis : S.genesis = "GENESIS")
    {es : List α} (h : Chained S S.genesis es) (hfree : CollisionFree (es.map text)) :
    Binding S es := by
  have hbar : ∀ e ∈ es, '|' ∉ (S.prev e).toList := by
    intro e he
    rcases h.prev_cases e he with hprev | ⟨e', -, hprev⟩
    · rw [hprev, hgenesis]
      decide
    · rw [hprev, hdigest]
      exact hexdigest_no_bar _
  constructor
  · intro e he e' he' heq
    rw [hdigest, hdigest] at heq
    have htexts := hfree _ (List.mem_map_of_mem he) _ (List.mem_map_of_mem he') heq
    rw [htext, htext] at htexts
    exact String.toList_inj.mp (cut_inj (hbar e he) (hbar e' he') htexts).1
  · intro e _
    rw [hdigest, hgenesis]
    exact hexdigest_ne_genesis _

/-- The loop of `verify_audit_chain`, from the event with index `i`. -/
def verify_walk {α : Type} (S : Scheme α String) (expected_prev : String) (i : ℕ) :
    List α → Bool × Option ℕ
  | [] => (true, none)
  | e :: events =>
    if S.prev e ≠ expected_prev then (false, some i)
    else if S.hash e ≠ S.digest e then (false, some i)
    else verify_walk S (S.hash e) (i + 1) events

/-- The answer of a verification, by the first event that does not follow. -/
def verdict : Option ℕ → Bool × Option ℕ
  | none => (true, none)
  | some i => (false, some i)

theorem verify_walk_eq {α : Type} (S : Scheme α String) (x : String) (i : ℕ) (events : List α) :
    verify_walk S x i events = verdict ((firstBreak S x events).map (· + i)) := by
  induction events generalizing x i with
  | nil => rfl
  | cons e events ih =>
    unfold verify_walk
    by_cases hprev : S.prev e = x
    · by_cases hhash : S.hash e = S.digest e
      · rw [if_neg (by simp [hprev]), if_neg (by simp [hhash]), ih,
          firstBreak_follows S events hprev hhash, Option.map_map]
        congr 2
        funext n
        simp only [Function.comp_apply]
        omega
      · rw [if_neg (by simp [hprev]), if_pos hhash, firstBreak_breaks _ _ (Or.inr hhash)]
        simp [verdict]
    · rw [if_pos hprev, firstBreak_breaks _ _ (Or.inl hprev)]
      simp [verdict]

/-! ## The store -/

/-- One stored event of the log. -/
structure AuditEntry where
  id : String
  tenant_id : String
  policy_key : String
  previous_value : PyVal
  new_value : PyVal
  changed_by : String
  change_reason : Option String
  created_at : String
  prev_hash : String
  event_hash : String
  deriving DecidableEq

/-- The event without its own hash, as the store serialises it. -/
def AuditEntry.fields (e : AuditEntry) : PyDict :=
  [("id", .str e.id), ("tenant_id", .str e.tenant_id), ("policy_key", .str e.policy_key),
    ("previous_value", e.previous_value), ("new_value", e.new_value),
    ("changed_by", .str e.changed_by), ("change_reason", ofString? e.change_reason),
    ("created_at", .str e.created_at), ("prev_hash", .str e.prev_hash)]

def AuditEntry.text (e : AuditEntry) : List Char := audit_text e.prev_hash e.fields

/-- What links an event to the one before it. -/
def auditScheme : Scheme AuditEntry String where
  prev := AuditEntry.prev_hash
  hash := AuditEntry.event_hash
  digest e := audit_event_hash e.prev_hash e.fields
  genesis := "GENESIS"

/-- A call of `log_audit_event`, with the id and the time that it draws. -/
structure AuditCall where
  tenant_id : String
  policy_key : String
  previous_value : PyVal
  new_value : PyVal
  changed_by : String
  change_reason : Option String
  id : String
  created_at : String
  deriving DecidableEq

namespace exception_store

/-- The hash of the tenant's last event. -/
def last_event_hash (log : List AuditEntry) (tenant_id : String) : String :=
  match log.reverse.find? fun e => e.tenant_id = tenant_id with
  | some e => e.event_hash
  | none => "GENESIS"

/-- The event that a call appends. -/
def new_event (call : AuditCall) (log : List AuditEntry) : AuditEntry :=
  let prev_hash := last_event_hash log call.tenant_id
  let event : AuditEntry :=
    { id := call.id, tenant_id := call.tenant_id, policy_key := call.policy_key,
      previous_value := call.previous_value, new_value := call.new_value,
      changed_by := call.changed_by, change_reason := call.change_reason,
      created_at := call.created_at, prev_hash := prev_hash, event_hash := "" }
  { event with event_hash := audit_event_hash prev_hash event.fields }

def log_audit_event (call : AuditCall) (log : List AuditEntry) : List AuditEntry :=
  log ++ [new_event call log]

def get_audit_log (log : List AuditEntry) (tenant_id : String) : List AuditEntry :=
  log.filter fun e => e.tenant_id = tenant_id

def verify_audit_chain (log : List AuditEntry) (tenant_id : String) : Bool × Option ℕ :=
  verify_walk auditScheme "GENESIS" 0 (get_audit_log log tenant_id)

end exception_store

/-! ## The log as a chain -/

open exception_store

theorem verify_audit_chain_eq (log : List AuditEntry) (tenant_id : String) :
    verify_audit_chain log tenant_id =
      verdict (firstBreak auditScheme "GENESIS" (get_audit_log log tenant_id)) := by
  unfold verify_audit_chain
  rw [verify_walk_eq]
  simp

theorem last_event_hash_eq (log : List AuditEntry) (tenant_id : String) :
    last_event_hash log tenant_id = tip auditScheme "GENESIS" (get_audit_log log tenant_id) := by
  unfold last_event_hash get_audit_log
  induction log using List.reverseRecOn with
  | nil => rfl
  | append_singleton log e ih =>
    rw [List.reverse_concat, List.find?_cons, List.filter_append]
    by_cases h : e.tenant_id = tenant_id
    · simp only [h, decide_true, List.filter_cons, List.filter_nil, if_true]
      exact (tip_concat auditScheme _ _ e).symm
    · simpa [h] using ih

/-- Every tenant's part of the log is a chain. -/
def AllChained (log : List AuditEntry) : Prop :=
  ∀ tenant_id, Chained auditScheme "GENESIS" (get_audit_log log tenant_id)

theorem log_audit_event_chained (call : AuditCall) {log : List AuditEntry} (h : AllChained log) :
    AllChained (exception_store.log_audit_event call log) := by
  intro tenant_id
  have htenant : (new_event call log).tenant_id = call.tenant_id := rfl
  unfold exception_store.log_audit_event get_audit_log
  rw [List.filter_append]
  by_cases heq : call.tenant_id = tenant_id
  · rw [List.filter_cons_of_pos (by simp [htenant, heq]), List.filter_nil]
    refine (h tenant_id).concat ?_ rfl
    rw [← heq]
    exact last_event_hash_eq log call.tenant_id
  · rw [List.filter_cons_of_neg (by simp [htenant, heq]), List.filter_nil, List.append_nil]
    exact h tenant_id

/-- The log after these calls. -/
abbrev history (calls : List AuditCall) : List AuditEntry := run exception_store.log_audit_event [] calls

theorem history_chained (calls : List AuditCall) : AllChained (history calls) :=
  invariant (C := fun _ _ => True) (I := AllChained) (fun call _ _ => log_audit_event_chained call)
    (fun _ => by trivial) (allSteps_true _ _)

/-- The call that an event was made from. -/
def AuditEntry.call (e : AuditEntry) : AuditCall :=
  { tenant_id := e.tenant_id, policy_key := e.policy_key, previous_value := e.previous_value,
    new_value := e.new_value, changed_by := e.changed_by, change_reason := e.change_reason,
    id := e.id, created_at := e.created_at }

theorem history_calls (calls : List AuditCall) : (history calls).map AuditEntry.call = calls := by
  induction calls using List.reverseRecOn with
  | nil => rfl
  | append_singleton calls call ih =>
    unfold history at ih ⊢
    rw [run_append, run_cons, run_nil, exception_store.log_audit_event, List.map_append, ih]
    rfl

/-- An event of a handler, with the id and the time that the store draws. -/
def AuditEvent.call (event : AuditEvent) (id created_at : String) : AuditCall :=
  { tenant_id := event.tenant_id, policy_key := event.policy_key,
    previous_value := .dict event.previous_value, new_value := .dict event.new_value,
    changed_by := event.changed_by, change_reason := some event.change_reason,
    id := id, created_at := created_at }

/-! ## Verification -/

theorem history_verifies (calls : List AuditCall) (tenant_id : String) :
    verify_audit_chain (history calls) tenant_id = (true, none) := by
  rw [verify_audit_chain_eq, (firstBreak_eq_none auditScheme).mpr (history_chained calls tenant_id)]
  rfl

/-- No hash was computed for the new log: each of its events is one of the
old log, or its hash is not the one of its content. -/
def NotRehashed (log log' : List AuditEntry) : Prop :=
  ∀ e ∈ log', e ∈ log ∨ e.event_hash ≠ audit_event_hash e.prev_hash e.fields

theorem notRehashed_of_subset {log log' : List AuditEntry} (h : ∀ e ∈ log', e ∈ log) :
    NotRehashed log log' := fun e he => Or.inl (h e he)

/-- A history verifies. In a log that was put in its place without computing
a hash, verification finds the first difference; it finds nothing when only
the most recent events of the tenant were cut off. -/
theorem a_changed_log_breaks_where_it_differs (calls : List AuditCall) (tenant_id : String)
    (log' : List AuditEntry)
    (hfree : CollisionFree ((get_audit_log (history calls) tenant_id).map AuditEntry.text))
    (hchange : NotRehashed (history calls) log') :
    let events := get_audit_log (history calls) tenant_id
    let events' := get_audit_log log' tenant_id
    verify_audit_chain (history calls) tenant_id = (true, none) ∧
      verify_audit_chain log' tenant_id =
        if events' <+: events then (true, none)
        else (false, some (firstDifference events events')) := by
  intro events events'
  refine ⟨history_verifies calls tenant_id, ?_⟩
  have hchain : Chained auditScheme "GENESIS" events := history_chained calls tenant_id
  have hbinding : Binding auditScheme events :=
    binding_of_texts (fun _ => rfl) (fun _ => rfl) rfl hchain hfree
  have hstale : ∀ e ∈ events', e ∈ events ∨
      auditScheme.hash e ≠ auditScheme.digest e := by
    intro e he
    obtain ⟨hmem, htenant⟩ := List.mem_filter.mp he
    rcases hchange e hmem with hold | hbroken
    · exact Or.inl (List.mem_filter.mpr ⟨hold, htenant⟩)
    · exact Or.inr hbroken
  rw [verify_audit_chain_eq]
  have hbreak := firstBreak_tampered hchain hbinding hstale
  have hgenesis : auditScheme.genesis = "GENESIS" := rfl
  rw [hgenesis] at hbreak
  rw [hbreak]
  split <;> rfl

/-- The first two events of a tenant. -/
def sampleCalls : List AuditCall :=
  [⟨"T1", "A", .none, .int 1, "ann", none, "i1", "t1"⟩,
    ⟨"T1", "A", .int 1, .int 2, "bob", none, "i2", "t2"⟩]

/-- The log without its first event. -/
theorem a_log_without_its_first_event_breaks_there :
    verify_audit_chain (history sampleCalls) "T1" = (true, none) ∧
      verify_audit_chain ((history sampleCalls).drop 1) "T1" =
        if get_audit_log ((history sampleCalls).drop 1) "T1" <+:
            get_audit_log (history sampleCalls) "T1" then (true, none)
        else (false, some (firstDifference (get_audit_log (history sampleCalls) "T1")
          (get_audit_log ((history sampleCalls).drop 1) "T1"))) := by
  refine a_changed_log_breaks_where_it_differs sampleCalls "T1" _ ?_
    (notRehashed_of_subset fun e he => List.mem_of_mem_drop he)
  unfold CollisionFree
  decide +kernel

/-- Nobody notices that the most recent event is gone. -/
theorem a_cut_off_log_verifies :
    ¬ ∀ (calls : List AuditCall) (tenant_id : String) (log' : List AuditEntry),
      CollisionFree ((get_audit_log (history calls) tenant_id).map AuditEntry.text) →
      NotRehashed (history calls) log' →
      get_audit_log log' tenant_id ≠ get_audit_log (history calls) tenant_id →
      ∃ i, verify_audit_chain log' tenant_id = (false, some i) := by
  intro h
  have hfree : CollisionFree
      ((get_audit_log (history (sampleCalls.take 1)) "T1").map AuditEntry.text) := by
    intro s hs t ht _
    rw [List.mem_singleton.mp hs, List.mem_singleton.mp ht]
  have hne : get_audit_log [] "T1" ≠ get_audit_log (history (sampleCalls.take 1)) "T1" := by
    intro hnil
    cases hnil
  obtain ⟨i, hi⟩ := h (sampleCalls.take 1) "T1" [] hfree (fun _ he => by cases he) hne
  cases hi

end asoe
