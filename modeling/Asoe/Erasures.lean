-- Proof of erasure: an attachment that was stored and cannot be read any more
-- has its event in the chain of its tenant, at every moment. The sweeper adds
-- an event of its own for each item, and takes the tenant from the item.
import Asoe.Attachments
import Asoe.Lib.Runs

namespace asoe

open py prog runs journal

/-! ## Calls -/

inductive VaultCall where
  | store (draws : StoreDraws) (tenant_id name mime_type : String) (content : List ℕ)
      (case_id : Option String)
  | erase (draws : EraseDraws) (tenant_id attachment_id : String)
      (erased_by reason : Option String)
  | commit (args : CommitArgs)

def VaultCall.answer (env : VaultEnv) : VaultCall → VaultM (Option CommitResult)
  | .store draws tenant_id name mime_type content case_id => do
    let _ ← store_attachment env draws tenant_id name mime_type content case_id
    return none
  | .erase draws tenant_id attachment_id erased_by reason => do
    let _ ← erase_attachment env draws tenant_id attachment_id erased_by reason
    return none
  | .commit args => do return some (← commit_with_residency_check env args)

def vault_step (env : VaultEnv) (call : VaultCall) (ws : List VaultWrite) : List VaultWrite :=
  endState (call.answer env ws)

/-! ## What can be read -/

section reading

variable {backend : AttachmentBackend} {ws : List VaultWrite}

/-- The record that the backend has under these ids. -/
def record_at (backend : AttachmentBackend) (ws : List VaultWrite) (key : String × String) :
    Option AttachmentRecord := dict.get (vault_after backend ws).records key

def Readable (backend : AttachmentBackend) (ws : List VaultWrite) (key : String × String) : Prop :=
  (vault_after backend ws).get backend key.1 key.2 ≠ none

instance (key : String × String) : Decidable (Readable backend ws key) :=
  inferInstanceAs (Decidable (_ ≠ none))

theorem vault_after_concat (w : VaultWrite) :
    vault_after backend (ws ++ [w]) = (vault_after backend ws).apply backend w := by
  rw [vault_after, List.foldl_append]
  rfl

theorem readable_iff {key : String × String} :
    Readable backend ws key ↔ ∃ record, record_at backend ws key = some record := by
  unfold Readable Vault.get record_at
  cases dict.get (vault_after backend ws).records key <;> simp

theorem record_at_put (record : AttachmentRecord) :
    (∀ key, key ≠ (record.tenant_id, record.id) →
      record_at backend (ws ++ [.put record]) key = record_at backend ws key) ∧
    ∃ r, record_at backend (ws ++ [.put record]) (record.tenant_id, record.id) = some r ∧
      r.id = record.id ∧ r.tenant_id = record.tenant_id ∧ r.sha256 = record.sha256 := by
  unfold record_at
  rw [vault_after_concat]
  unfold Vault.apply
  by_cases hstore : backend = .object_store
  · simp only [hstore, if_true, dict.get_set_self]
    exact ⟨fun key hne => dict.get_set_of_ne _ _ hne, _, rfl, rfl, rfl, rfl⟩
  · simp only [hstore, if_false, dict.get_set_self]
    exact ⟨fun key hne => dict.get_set_of_ne _ _ hne, _, rfl, rfl, rfl, rfl⟩

theorem record_at_drop (tenant_id attachment_id : String) (key : String × String) :
    record_at backend (ws ++ [.drop_record tenant_id attachment_id]) key =
      if key = (tenant_id, attachment_id) then none else record_at backend ws key := by
  unfold record_at
  rw [vault_after_concat]
  simp only [Vault.apply]
  by_cases hkey : key = (tenant_id, attachment_id)
  · rw [if_pos hkey, hkey, dict.get_pop_self]
  · rw [if_neg hkey, dict.get_pop_of_ne _ hkey]

/-- Writes that touch no record. -/
def VaultWrite.Beside : VaultWrite → Prop
  | .put _ | .drop_record _ _ => False
  | _ => True

theorem record_at_beside {w : VaultWrite} (h : w.Beside) (key : String × String) :
    record_at backend (ws ++ [w]) key = record_at backend ws key := by
  unfold record_at
  rw [vault_after_concat]
  cases w with
  | put record => exact absurd h id
  | drop_record tenant_id attachment_id => exact absurd h id
  | event e => rfl
  | drop_blob key => rfl
  | tombstone tenant_id attachment_id t => rfl

end reading

/-! ## Proof of erasure -/

/-- The event speaks of the erasure of this attachment, in the chain of its
tenant. -/
structure ErasureProof (record : AttachmentRecord) (e : AuditEvent) : Prop where
  policy_key : e.policy_key = "ATTACHMENT_ERASED"
  tenant_id : e.tenant_id = record.tenant_id
  attachment_id : dict.get e.previous_value "attachment_id" = some (.str record.id)
  sha256 : dict.get e.previous_value "sha256" = some (.str record.sha256)

/-- What was stored and cannot be read has its proof. -/
def Proven (backend : AttachmentBackend) (ws : List VaultWrite) : Prop :=
  ∀ record, .put record ∈ ws → ¬ Readable backend ws (record.tenant_id, record.id) →
    ∃ e, .event e ∈ ws ∧ ErasureProof record e

/-- The event of the sweeper for this attachment. -/
def IsScheduled (key : String × String) : VaultWrite → Prop
  | .event e => e.policy_key = "SCHEDULED_RETENTION_DELETE" ∧ e.tenant_id = key.1 ∧
      dict.get e.new_value "attachment_id" = some (.str key.2)
  | _ => False

instance (key : String × String) : DecidablePred (IsScheduled key)
  | .event _ => inferInstanceAs (Decidable (_ ∧ _ ∧ _))
  | .put _ | .drop_record _ _ | .drop_blob _ | .tombstone _ _ _ => instDecidableFalse

def scheduled_count (ws : List VaultWrite) (key : String × String) : ℕ :=
  ws.countP fun w => IsScheduled key w

/-- What holds of the writes of any calls. -/
structure VaultKept (backend : AttachmentBackend) (ws : List VaultWrite) : Prop where
  proven : Always (Proven backend) ws
  stored : ∀ key r, record_at backend ws key = some r → ∃ record, .put record ∈ ws ∧
    key = (record.tenant_id, record.id) ∧ r.id = record.id ∧ r.tenant_id = record.tenant_id ∧
      r.sha256 = record.sha256
  once : ∀ record record', .put record ∈ ws → .put record' ∈ ws →
    (record.tenant_id, record.id) = (record'.tenant_id, record'.id) → record = record'
  scheduled : ∀ key, 0 < scheduled_count ws key → ¬ Readable backend ws key ∧
    ∃ record, .put record ∈ ws ∧ key = (record.tenant_id, record.id)

theorem vaultKept_nil (backend : AttachmentBackend) : VaultKept backend [] where
  proven := always_nil fun _ h => by cases h
  stored _ _ h := by cases h
  once _ _ h := by cases h
  scheduled _ h := by cases h

/-! ## One write -/

section write

variable {backend : AttachmentBackend} {ws : List VaultWrite}

theorem scheduled_count_concat (w : VaultWrite) (key : String × String) :
    scheduled_count (ws ++ [w]) key =
      scheduled_count ws key + if IsScheduled key w then 1 else 0 := by
  unfold scheduled_count
  rw [List.countP_append, List.countP_singleton]
  by_cases h : IsScheduled key w
  · simp [h]
  · simp [h]

theorem not_scheduled_put (key : String × String) (record : AttachmentRecord) :
    ¬ IsScheduled key (.put record) := id

/-- A record under new ids. -/
theorem VaultKept.put (h : VaultKept backend ws) {record : AttachmentRecord}
    (hnew : ∀ r, .put r ∈ ws → (r.tenant_id, r.id) ≠ (record.tenant_id, record.id)) :
    VaultKept backend (ws ++ [.put record]) := by
  obtain ⟨hother, r, hr, hid, htenant, hsha⟩ := @record_at_put backend ws record
  have hmem : ∀ r', VaultWrite.put r' ∈ ws ++ [.put record] ↔ .put r' ∈ ws ∨ r' = record := by
    intro r'
    simp
  constructor
  · refine h.proven.concat fun r' hr' hunread => ?_
    rcases (hmem r').mp hr' with hold | rfl
    · have hsame := hother _ (hnew r' hold)
      have hbefore : ¬ Readable backend ws (r'.tenant_id, r'.id) := by
        rw [readable_iff, hsame, ← readable_iff] at hunread
        exact hunread
      obtain ⟨e, he, hproof⟩ := h.proven.now r' hold hbefore
      exact ⟨e, List.mem_append_left _ he, hproof⟩
    · exact absurd (readable_iff.mpr ⟨r, hr⟩) hunread
  · intro key r' hread
    by_cases hkey : key = (record.tenant_id, record.id)
    · subst hkey
      obtain rfl := Option.some.inj (hr.symm.trans hread)
      exact ⟨record, (hmem record).mpr (.inr rfl), rfl, hid, htenant, hsha⟩
    · rw [hother key hkey] at hread
      obtain ⟨record', hput, hrest⟩ := h.stored key r' hread
      exact ⟨record', List.mem_append_left _ hput, hrest⟩
  · intro r₁ r₂ h₁ h₂ hkeys
    rcases (hmem r₁).mp h₁ with hold₁ | rfl
    · rcases (hmem r₂).mp h₂ with hold₂ | rfl
      · exact h.once r₁ r₂ hold₁ hold₂ hkeys
      · exact absurd hkeys (hnew r₁ hold₁)
    · rcases (hmem r₂).mp h₂ with hold₂ | rfl
      · exact absurd hkeys.symm (hnew r₂ hold₂)
      · rfl
  · intro key hcount
    rw [scheduled_count_concat, if_neg (not_scheduled_put key record), Nat.add_zero] at hcount
    obtain ⟨hunread, record', hput, rfl⟩ := h.scheduled key hcount
    have hne := hnew record' hput
    refine ⟨?_, record', List.mem_append_left _ hput, rfl⟩
    rw [readable_iff, hother _ hne, ← readable_iff]
    exact hunread

/-- A write that touches no record, and is no event of the sweeper for an
attachment that can be read. -/
theorem VaultKept.beside (h : VaultKept backend ws) {w : VaultWrite} (hw : w.Beside)
    (hscheduled : ∀ key, IsScheduled key w → ¬ Readable backend ws key ∧
      ∃ record, .put record ∈ ws ∧ key = (record.tenant_id, record.id)) :
    VaultKept backend (ws ++ [w]) := by
  have hread : ∀ key, record_at backend (ws ++ [w]) key = record_at backend ws key :=
    record_at_beside hw
  have hreadable : ∀ key, Readable backend (ws ++ [w]) key ↔ Readable backend ws key := by
    intro key
    rw [readable_iff, readable_iff, hread]
  have hput : ∀ record, VaultWrite.put record ∈ ws ++ [w] → .put record ∈ ws := by
    intro record hmem
    rcases List.mem_append.mp hmem with hmem | hmem
    · exact hmem
    · obtain rfl := List.mem_singleton.mp hmem
      exact absurd hw id
  constructor
  · refine h.proven.concat fun record hrecord hunread => ?_
    rw [hreadable] at hunread
    obtain ⟨e, he, hproof⟩ := h.proven.now record (hput record hrecord) hunread
    exact ⟨e, List.mem_append_left _ he, hproof⟩
  · intro key r hr
    rw [hread] at hr
    obtain ⟨record, hrecord, hrest⟩ := h.stored key r hr
    exact ⟨record, List.mem_append_left _ hrecord, hrest⟩
  · exact fun r₁ r₂ h₁ h₂ => h.once r₁ r₂ (hput r₁ h₁) (hput r₂ h₂)
  · intro key hcount
    rw [hreadable]
    rw [scheduled_count_concat] at hcount
    by_cases hkey : IsScheduled key w
    · obtain ⟨hunread, record, hrecord, rfl⟩ := hscheduled key hkey
      exact ⟨hunread, record, List.mem_append_left _ hrecord, rfl⟩
    · rw [if_neg hkey, Nat.add_zero] at hcount
      obtain ⟨hunread, record, hrecord, rfl⟩ := h.scheduled key hcount
      exact ⟨hunread, record, List.mem_append_left _ hrecord, rfl⟩

/-- A record goes whose erasure has its proof. -/
theorem VaultKept.drop (h : VaultKept backend ws) {tenant_id attachment_id : String}
    (hproof : ∀ record, .put record ∈ ws →
      (record.tenant_id, record.id) = (tenant_id, attachment_id) →
      ∃ e, .event e ∈ ws ∧ ErasureProof record e) :
    VaultKept backend (ws ++ [.drop_record tenant_id attachment_id]) := by
  have hread := @record_at_drop backend ws tenant_id attachment_id
  have hput : ∀ record, VaultWrite.put record ∈ ws ++ [.drop_record tenant_id attachment_id] →
      .put record ∈ ws := by
    intro record hmem
    simpa using hmem
  have hgone : ∀ key, ¬ Readable backend ws key →
      ¬ Readable backend (ws ++ [.drop_record tenant_id attachment_id]) key := by
    intro key hunread hafter
    obtain ⟨r, hr⟩ := readable_iff.mp hafter
    rw [hread] at hr
    split at hr
    · cases hr
    · exact hunread (readable_iff.mpr ⟨r, hr⟩)
  constructor
  · refine h.proven.concat fun record hrecord hunread => ?_
    have hrecord := hput record hrecord
    by_cases hkey : (record.tenant_id, record.id) = (tenant_id, attachment_id)
    · obtain ⟨e, he, hproof⟩ := hproof record hrecord hkey
      exact ⟨e, List.mem_append_left _ he, hproof⟩
    · rw [readable_iff, hread, if_neg hkey, ← readable_iff] at hunread
      obtain ⟨e, he, hproof⟩ := h.proven.now record hrecord hunread
      exact ⟨e, List.mem_append_left _ he, hproof⟩
  · intro key r hr
    rw [hread] at hr
    split at hr
    · cases hr
    · obtain ⟨record, hrecord, hrest⟩ := h.stored key r hr
      exact ⟨record, List.mem_append_left _ hrecord, hrest⟩
  · exact fun r₁ r₂ h₁ h₂ => h.once r₁ r₂ (hput r₁ h₁) (hput r₂ h₂)
  · intro key hcount
    have hnot : ¬ IsScheduled key (.drop_record tenant_id attachment_id) := id
    rw [scheduled_count_concat, if_neg hnot, Nat.add_zero] at hcount
    obtain ⟨hunread, record, hrecord, rfl⟩ := h.scheduled key hcount
    exact ⟨hgone _ hunread, record, List.mem_append_left _ hrecord, rfl⟩

end write

/-! ## What one erasure does -/

section erasing

variable {backend : AttachmentBackend} {ws ws' ws'' : List VaultWrite} {key : String × String}

/-- No other attachment is touched, nothing comes back, and the sweeper writes
no event. -/
structure Touches (backend : AttachmentBackend) (key : String × String)
    (ws ws' : List VaultWrite) : Prop where
  grows : ws <+: ws'
  others : ∀ key', key' ≠ key → (Readable backend ws' key' ↔ Readable backend ws key')
  back : Readable backend ws' key → Readable backend ws key
  scheduled : ∀ key', scheduled_count ws' key' = scheduled_count ws key'

theorem Touches.refl : Touches backend key ws ws where
  grows := List.prefix_refl ws
  others _ _ := Iff.rfl
  back := id
  scheduled _ := rfl

theorem Touches.trans (h : Touches backend key ws ws') (h' : Touches backend key ws' ws'') :
    Touches backend key ws ws'' where
  grows := h.grows.trans h'.grows
  others key' hne := (h'.others key' hne).trans (h.others key' hne)
  back hread := h.back (h'.back hread)
  scheduled key' := (h'.scheduled key').trans (h.scheduled key')

theorem readable_beside {w : VaultWrite} (hw : w.Beside) (key' : String × String) :
    Readable backend (ws ++ [w]) key' ↔ Readable backend ws key' := by
  rw [readable_iff, readable_iff, record_at_beside hw]

theorem Touches.beside {w : VaultWrite} (hw : w.Beside) (hnot : ∀ key', ¬ IsScheduled key' w) :
    Touches backend key ws (ws ++ [w]) where
  grows := List.prefix_append ws [w]
  others key' _ := readable_beside hw key'
  back := (readable_beside hw key).mp
  scheduled key' := by rw [scheduled_count_concat, if_neg (hnot key'), Nat.add_zero]

theorem not_readable_drop (tenant_id attachment_id : String) :
    ¬ Readable backend (ws ++ [.drop_record tenant_id attachment_id])
      (tenant_id, attachment_id) := by
  rw [readable_iff, record_at_drop, if_pos rfl]
  rintro ⟨r, hr⟩
  cases hr

theorem Touches.drop (tenant_id attachment_id : String) :
    Touches backend (tenant_id, attachment_id) ws
      (ws ++ [.drop_record tenant_id attachment_id]) where
  grows := List.prefix_append ws _
  others key' hne := by rw [readable_iff, readable_iff, record_at_drop, if_neg hne]
  back h := absurd h (not_readable_drop tenant_id attachment_id)
  scheduled key' := by
    have hnot : ¬ IsScheduled key' (.drop_record tenant_id attachment_id) := id
    rw [scheduled_count_concat, if_neg hnot, Nat.add_zero]

end erasing

section calls

variable {env : VaultEnv} {ws : List VaultWrite}

/-- The attachment can be read, and the calls before its delete go through. -/
structure ComesToDelete (env : VaultEnv) (draws : EraseDraws) (ws : List VaultWrite)
    (key : String × String) : Prop where
  readable : Readable env.backend ws key
  gets : env.backend = .memory ∨ draws.get_ok = true
  logs : env.store = .memory ∨ draws.audit_ok = true

def Deleting (env : VaultEnv) (draws : EraseDraws) : Prop :=
  env.backend = .memory ∨ draws.delete_ok = true

/-- What holds after an erasure, whether it returned or raised. -/
structure ErasureEnd (env : VaultEnv) (key : String × String) (ws ws' : List VaultWrite) :
    Prop where
  kept : VaultKept env.backend ws'
  touches : Touches env.backend key ws ws'

theorem ErasureEnd.beside {key : String × String} {ws' : List VaultWrite} {w : VaultWrite}
    (h : ErasureEnd env key ws ws') (hw : w.Beside) (hnot : ∀ key', ¬ IsScheduled key' w) :
    ErasureEnd env key ws (ws' ++ [w]) where
  kept := h.kept.beside hw fun key' hkey => absurd hkey (hnot key')
  touches := h.touches.trans (.beside hw hnot)

@[simp] theorem wp_write_vault {Q : Unit → List VaultWrite → Prop}
    {E : ApiError → List VaultWrite → Prop} (w : VaultWrite) :
    wp (write_vault w) Q E ws ↔ Q () (ws ++ [w]) := Iff.rfl

/-- The delete of a record whose erasure has its proof. -/
theorem delete_ends (h : VaultKept env.backend ws) {tenant_id attachment_id : String}
    (hproof : ∀ record, .put record ∈ ws →
      (record.tenant_id, record.id) = (tenant_id, attachment_id) →
      ∃ e, .event e ∈ ws ∧ ErasureProof record e) (draws : EraseDraws) :
    wp (backend_delete env draws.delete_ok tenant_id attachment_id)
      (fun _ ws' => ErasureEnd env (tenant_id, attachment_id) ws ws' ∧
        ¬ Readable env.backend ws' (tenant_id, attachment_id) ∧ Deleting env draws)
      (fun _ ws' => ErasureEnd env (tenant_id, attachment_id) ws ws' ∧ ¬ Deleting env draws ∧
        (env.backend ≠ .object_store → ws' = ws)) ws := by
  have hdrop : ErasureEnd env (tenant_id, attachment_id) ws
      (ws ++ [.drop_record tenant_id attachment_id]) := ⟨h.drop hproof, .drop _ _⟩
  have hgone : ¬ Readable env.backend (ws ++ [.drop_record tenant_id attachment_id])
      (tenant_id, attachment_id) := not_readable_drop _ _
  unfold backend_delete Deleting
  rcases hb : env.backend with _ | _ | _
  · rw [hb] at hgone
    simp only [wp_write_vault]
    exact ⟨hdrop, hgone, .inl trivial⟩
  · rw [hb] at hgone
    simp only [wp_bind, wp_require, wp_write_vault]
    refine ⟨fun hok => ⟨hdrop, hgone, .inr hok⟩, fun hfail => ⟨⟨h, .refl⟩, ?_, fun _ => trivial⟩⟩
    simpa using hfail
  · rw [hb] at hgone
    simp only [wp_bind, wp_require, wp_write_vault]
    have hbeside : VaultWrite.Beside (.drop_blob (blob_key tenant_id attachment_id)) := trivial
    refine ⟨fun hok => ⟨hdrop.beside hbeside fun _ => id, ?_, .inr hok⟩,
      fun hfail => ⟨hdrop, ?_, fun hne => absurd rfl hne⟩⟩
    · rw [readable_beside hbeside]
      exact hgone
    · simpa using hfail

/-- How an erasure ends: it finds nothing, it deletes, or it raises, and then
what could be read still can unless the store is an object store. -/
theorem erase_ends (h : VaultKept env.backend ws) (draws : EraseDraws)
    (tenant_id attachment_id : String) (erased_by reason : Option String) :
    wp (erase_attachment env draws tenant_id attachment_id erased_by reason)
      (fun answer ws' => ErasureEnd env (tenant_id, attachment_id) ws ws' ∧
        if answer = none then ¬ Readable env.backend ws (tenant_id, attachment_id) ∧ ws' = ws
        else ComesToDelete env draws ws (tenant_id, attachment_id) ∧ Deleting env draws ∧
          ¬ Readable env.backend ws' (tenant_id, attachment_id))
      (fun _ ws' => ErasureEnd env (tenant_id, attachment_id) ws ws' ∧
        ¬ (ComesToDelete env draws ws (tenant_id, attachment_id) ∧ Deleting env draws) ∧
        (Readable env.backend ws (tenant_id, attachment_id) →
          ¬ Readable env.backend ws' (tenant_id, attachment_id) →
          ComesToDelete env draws ws (tenant_id, attachment_id) ∧
            env.backend = .object_store)) ws := by
  unfold erase_attachment backend_get
  simp only [wp_bind, wp_require, wp_get, wp_pure]
  refine ⟨fun hgets => ?_, fun hfail => ⟨⟨h, .refl⟩, fun hr => hfail hr.1.gets,
    fun hread hnot => absurd hread hnot⟩⟩
  split
  · rename_i hnone
    exact ⟨⟨h, .refl⟩, by rw [if_pos rfl]; exact ⟨fun hread => hread hnone, rfl⟩⟩
  rename_i found hfound
  have hread : Readable env.backend ws (tenant_id, attachment_id) := by
    unfold Readable
    rw [hfound]
    exact Option.some_ne_none _
  obtain ⟨r, hr⟩ := readable_iff.mp hread
  obtain ⟨record, hput, hkey, hid, htenant, hsha⟩ := h.stored _ r hr
  obtain ⟨rfl, rfl⟩ := Prod.mk.inj hkey
  have hfound_id : found.id = record.id ∧ found.sha256 = record.sha256 := by
    have hget : (vault_after env.backend ws).get env.backend record.tenant_id record.id =
        some found := hfound
    unfold record_at at hr
    simp only [Vault.get, hr, Option.map_some, Option.some.injEq] at hget
    rw [← hget]
    split <;> exact ⟨hid, hsha⟩
  unfold log_strictly
  simp only [wp_bind, wp_require, wp_write_vault, wp_pure]
  refine ⟨fun hlogs => ?_, fun hfail => ⟨⟨h, .refl⟩, fun hr => hfail hr.1.logs,
    fun hread hnot => absurd hread hnot⟩⟩
  have hreaches : ComesToDelete env draws ws (record.tenant_id, record.id) := ⟨hread, hgets, hlogs⟩
  generalize he : attachment_erased record.tenant_id found draws.now erased_by reason = e
  have hproof : ErasureProof record e := by
    rw [← he, attachment_erased, hfound_id.1, hfound_id.2]
    exact ⟨rfl, rfl, rfl, rfl⟩
  have hbeside : VaultWrite.Beside (.event e) := trivial
  have hnot : ∀ key', ¬ IsScheduled key' (.event e) := by
    rintro key' ⟨hkey', -⟩
    rw [hproof.policy_key] at hkey'
    exact absurd hkey' (by decide)
  have hlogged : ErasureEnd env (record.tenant_id, record.id) ws (ws ++ [.event e]) :=
    ErasureEnd.beside ⟨h, .refl⟩ hbeside hnot
  have hproofs : ∀ record', VaultWrite.put record' ∈ ws ++ [.event e] →
      (record'.tenant_id, record'.id) = (record.tenant_id, record.id) →
      ∃ e', VaultWrite.event e' ∈ ws ++ [.event e] ∧ ErasureProof record' e' := by
    intro record' hput' hkey'
    have hput' : VaultWrite.put record' ∈ ws := by simpa using hput'
    obtain rfl := h.once record' record hput' hput hkey'
    exact ⟨e, by simp, hproof⟩
  refine wp_mono (delete_ends hlogged.kept hproofs draws) ?_ ?_
  · rintro _ ws' ⟨hend, hgone, hdeleting⟩
    generalize htomb : tombstone_of found draws.now
      (text_or erased_by "system:retention-sweeper") reason = t
    have hbeside' : VaultWrite.Beside (.tombstone record.tenant_id record.id t) := trivial
    have hended : ErasureEnd env (record.tenant_id, record.id) ws ws' :=
      ⟨hend.kept, hlogged.touches.trans hend.touches⟩
    refine ⟨hended.beside hbeside' fun _ => id, ?_⟩
    rw [if_neg (Option.some_ne_none t), readable_beside hbeside']
    exact ⟨hreaches, hdeleting, hgone⟩
  · rintro _ ws' ⟨hend, hdeleting, hsame⟩
    refine ⟨⟨hend.kept, hlogged.touches.trans hend.touches⟩, fun hr => hdeleting hr.2,
      fun _ hgone => ⟨hreaches, ?_⟩⟩
    by_contra hne
    rw [hsame hne, readable_beside hbeside] at hgone
    exact hgone hread

end calls

/-! ## The sweep -/

section sweep

variable {env : VaultEnv} {ws : List VaultWrite}

def SweepCandidate.key (candidate : SweepCandidate) : String × String :=
  (candidate.tenant_id, candidate.attachment_id)

def item_step (env : VaultEnv) (sweeper_identity : String) (item : SweepItem)
    (ws : List VaultWrite) : List VaultWrite :=
  endState (sweep_item env item.2 sweeper_identity item.1 ws)

/-- The item can be read before its turn, and not after. -/
def Deletes (env : VaultEnv) (sweeper_identity : String) (item : SweepItem)
    (ws : List VaultWrite) : Prop :=
  Readable env.backend ws item.1.key ∧
    ¬ Readable env.backend (item_step env sweeper_identity item ws) item.1.key

instance (sweeper_identity : String) (item : SweepItem) :
    Decidable (Deletes env sweeper_identity item ws) := inferInstanceAs (Decidable (_ ∧ _))

/-- The erasure of the item raises. -/
def Blocks (env : VaultEnv) (sweeper_identity : String) (item : SweepItem)
    (ws : List VaultWrite) : Prop :=
  wp (erase_attachment env item.2.toEraseDraws item.1.tenant_id item.1.attachment_id
    (some sweeper_identity) (some item.1.reason)) (fun _ _ => False) (fun _ _ => True) ws

instance (sweeper_identity : String) (item : SweepItem) :
    Decidable (Blocks env sweeper_identity item ws) := by
  unfold Blocks
  infer_instance

/-- The event of the sweeper can be written. -/
def Schedules (env : VaultEnv) (draws : SweepDraws) : Prop :=
  env.store = .memory ∨ draws.scheduled_ok = true

@[simp] theorem wp_attempt {α : Type} {Q : Except ApiError α → List VaultWrite → Prop}
    {E : ApiError → List VaultWrite → Prop} (x : VaultM α) :
    wp (attempt x) Q E ws ↔
      wp x (fun a ws' => Q (.ok a) ws') (fun e ws' => Q (.error e) ws') ws := by
  unfold wp attempt
  cases x ws <;> rfl

theorem scheduled_delete_iff (candidate : SweepCandidate) (sweeper_identity : String)
    (key : String × String) :
    IsScheduled key (.event (scheduled_delete candidate sweeper_identity)) ↔
      key = candidate.key := by
  obtain ⟨tenant_id, attachment_id⟩ := key
  unfold IsScheduled scheduled_delete SweepCandidate.key
  simp only [dict.get_cons, if_true, Option.some.injEq, PyVal.str.injEq, Prod.mk.injEq, true_and,
    eq_comm]

/-- What holds after one item that came to this outcome. -/
structure ItemEnd (env : VaultEnv) (key : String × String) (deleted : Prop) [Decidable deleted]
    (ws ws' : List VaultWrite) : Prop where
  kept : VaultKept env.backend ws'
  others : ∀ key', key' ≠ key → (Readable env.backend ws' key' ↔ Readable env.backend ws key')
  back : Readable env.backend ws' key → Readable env.backend ws key
  scheduled : ∀ key', scheduled_count ws' key' =
    scheduled_count ws key' + if deleted ∧ key' = key then 1 else 0

theorem ErasureEnd.item {key : String × String} {ws' : List VaultWrite} {deleted : Prop}
    [Decidable deleted] (h : ErasureEnd env key ws ws') (hnot : ¬ deleted) :
    ItemEnd env key deleted ws ws' where
  kept := h.kept
  others := h.touches.others
  back := h.touches.back
  scheduled key' := by
    have hneither : ¬ (deleted ∧ key' = key) := fun hdel => hnot hdel.1
    rw [h.touches.scheduled key', if_neg hneither, Nat.add_zero]

/-- How one item ends. It raises only where it was deleted and its event
cannot be written. -/
theorem sweep_item_ends (h : VaultKept env.backend ws) (draws : SweepDraws)
    (sweeper_identity : String) (candidate : SweepCandidate) :
    wp (sweep_item env draws sweeper_identity candidate)
      (fun outcome ws' => ItemEnd env candidate.key (outcome = .deleted) ws ws' ∧
        match outcome with
        | .deleted => ¬ Blocks env sweeper_identity (candidate, draws) ws ∧
            ComesToDelete env draws.toEraseDraws ws candidate.key ∧
            Deleting env draws.toEraseDraws ∧ Schedules env draws ∧
            ¬ Readable env.backend ws' candidate.key
        | .blocked => Blocks env sweeper_identity (candidate, draws) ws ∧
            (Readable env.backend ws candidate.key → ¬ Readable env.backend ws' candidate.key →
              ComesToDelete env draws.toEraseDraws ws candidate.key ∧
                ¬ Deleting env draws.toEraseDraws ∧ env.backend = .object_store)
        | .absent => ¬ Blocks env sweeper_identity (candidate, draws) ws ∧
            ¬ Readable env.backend ws candidate.key)
      (fun _ ws' => ItemEnd env candidate.key False ws ws' ∧
        ComesToDelete env draws.toEraseDraws ws candidate.key ∧ Deleting env draws.toEraseDraws ∧
        ¬ Schedules env draws) ws := by
  have herase := erase_ends h draws.toEraseDraws candidate.tenant_id candidate.attachment_id
    (some sweeper_identity) (some candidate.reason)
  unfold sweep_item
  rw [wp_bind, wp_attempt]
  refine wp_intro ?_ ?_
  · intro answer ws' hrun
    have hend := wp_ok herase hrun
    have hblocks : ¬ Blocks env sweeper_identity (candidate, draws) ws := by
      unfold Blocks wp
      rw [hrun]
      exact id
    cases answer with
    | none =>
      obtain ⟨hend, hanswer⟩ := hend
      rw [if_pos rfl] at hanswer
      exact ⟨hend.item (by simp), hblocks, hanswer.1⟩
    | some t =>
      obtain ⟨hend, hanswer⟩ := hend
      rw [if_neg (Option.some_ne_none t)] at hanswer
      obtain ⟨hreaches, hdeleting, hgone⟩ := hanswer
      unfold log_strictly
      simp only [wp_bind, wp_require, wp_write_vault, wp_pure]
      refine ⟨fun hlogs => ?_, fun hfail => ⟨hend.item id, hreaches, hdeleting, hfail⟩⟩
      have hbeside : VaultWrite.Beside (.event (scheduled_delete candidate sweeper_identity)) :=
        trivial
      refine ⟨⟨hend.kept.beside hbeside ?_, ?_, ?_, ?_⟩, hblocks, hreaches, hdeleting, hlogs, ?_⟩
      · intro key hkey
        rw [scheduled_delete_iff] at hkey
        subst hkey
        obtain ⟨r, hr⟩ := readable_iff.mp hreaches.readable
        obtain ⟨record, hput, hkey, -⟩ := h.stored _ r hr
        exact ⟨hgone, record, hend.touches.grows.subset hput, hkey⟩
      · intro key' hne
        rw [readable_beside hbeside]
        exact hend.touches.others key' hne
      · intro hread
        exact hreaches.readable
      · intro key'
        rw [scheduled_count_concat, hend.touches.scheduled]
        simp only [scheduled_delete_iff, true_and]
      · rw [readable_beside hbeside]
        exact hgone
  · intro e ws' hrun
    have hend := wp_error herase hrun
    obtain ⟨hend, hnot, hobject⟩ := hend
    refine ⟨hend.item (by simp), ?_, ?_⟩
    · unfold Blocks wp
      rw [hrun]
      trivial
    · intro hread hgone
      obtain ⟨hreaches, hstore⟩ := hobject hread hgone
      exact ⟨hreaches, fun hdeleting => hnot ⟨hreaches, hdeleting⟩, hstore⟩

/-- An attachment with its event of the sweeper gets no other one. -/
def Settles (ws ws' : List VaultWrite) : Prop :=
  ∀ key, 0 < scheduled_count ws key → scheduled_count ws' key = scheduled_count ws key

theorem Settles.trans {ws' ws'' : List VaultWrite} (h : Settles ws ws') (h' : Settles ws' ws'') :
    Settles ws ws'' := by
  intro key hkey
  have hfirst := h key hkey
  rw [h' key (by omega), hfirst]

theorem ItemEnd.settles {key : String × String} {ws' : List VaultWrite} {deleted : Prop}
    [Decidable deleted] (h : ItemEnd env key deleted ws ws') (hkept : VaultKept env.backend ws)
    (hread : deleted → Readable env.backend ws key) : Settles ws ws' := by
  intro key' hkey'
  rw [h.scheduled key', if_neg, Nat.add_zero]
  rintro ⟨hdeleted, rfl⟩
  exact (hkept.scheduled key' hkey').1 (hread hdeleted)

/-- What holds after any part of a sweep. -/
structure SweepEnd (env : VaultEnv) (ws ws' : List VaultWrite) : Prop where
  kept : VaultKept env.backend ws'
  settles : Settles ws ws'

theorem item_kept (h : VaultKept env.backend ws) (draws : SweepDraws) (sweeper_identity : String)
    (candidate : SweepCandidate) :
    wp (sweep_item env draws sweeper_identity candidate)
      (fun _ ws' => SweepEnd env ws ws') (fun _ ws' => SweepEnd env ws ws') ws := by
  refine wp_mono (sweep_item_ends h draws sweeper_identity candidate) ?_ ?_
  · rintro outcome ws' ⟨hend, houtcome⟩
    refine ⟨hend.kept, hend.settles h ?_⟩
    rintro rfl
    exact houtcome.2.1.readable
  · rintro _ ws' ⟨hend, -⟩
    exact ⟨hend.kept, hend.settles h False.elim⟩

theorem loop_kept (h : VaultKept env.backend ws) (sweeper_identity : String)
    (items : List SweepItem) (deleted blocked : ℕ) :
    wp (sweep_loop env sweeper_identity items deleted blocked)
      (fun _ ws' => SweepEnd env ws ws') (fun _ ws' => SweepEnd env ws ws') ws := by
  induction items generalizing ws deleted blocked with
  | nil => exact ⟨h, fun _ _ => rfl⟩
  | cons item items ih =>
    unfold sweep_loop
    rw [wp_bind]
    refine wp_mono (item_kept h item.2 sweeper_identity item.1) ?_ fun _ _ hend => hend
    intro outcome ws' hitem
    have hrest : ∀ d b, wp (sweep_loop env sweeper_identity items d b)
        (fun _ ws'' => SweepEnd env ws ws'') (fun _ ws'' => SweepEnd env ws ws'') ws' :=
      fun d b => wp_mono (ih hitem.kept d b)
        (fun _ _ hend => ⟨hend.kept, hitem.settles.trans hend.settles⟩)
        (fun _ _ hend => ⟨hend.kept, hitem.settles.trans hend.settles⟩)
    cases outcome <;> exact hrest _ _

/-- An item that the sweep gets right: where its turn leads to a delete, it is
of the tenant that was checked and its event can be written; where the delete
fails, nothing of the record is gone by then. -/
def ItemMeets (env : VaultEnv) (tenant_id : String) (item : SweepItem) (ws : List VaultWrite) :
    Prop :=
  ComesToDelete env item.2.toEraseDraws ws item.1.key →
    (Deleting env item.2.toEraseDraws → item.1.tenant_id = tenant_id ∧ Schedules env item.2) ∧
    (¬ Deleting env item.2.toEraseDraws → env.backend ≠ .object_store)

/-- What the sweep of a tenant made of the store that it found. -/
structure Swept (env : VaultEnv) (tenant_id : String) (ws₀ ws : List VaultWrite) : Prop where
  back : ∀ key, Readable env.backend ws key → Readable env.backend ws₀ key
  gone : ∀ key, Readable env.backend ws₀ key → ¬ Readable env.backend ws key →
    key.1 = tenant_id ∧ scheduled_count ws key = 1

theorem Swept.item {tenant_id : String} {ws₀ ws' : List VaultWrite} {key : String × String}
    {deleted : Prop} [Decidable deleted] (h : Swept env tenant_id ws₀ ws)
    (hkept : VaultKept env.backend ws) (hend : ItemEnd env key deleted ws ws')
    (hread : deleted → Readable env.backend ws key)
    (hgone : Readable env.backend ws key → ¬ Readable env.backend ws' key →
      deleted ∧ key.1 = tenant_id) : Swept env tenant_id ws₀ ws' := by
  constructor
  · intro key' hkey'
    by_cases hsame : key' = key
    · subst hsame
      exact h.back _ (hend.back hkey')
    · exact h.back _ ((hend.others key' hsame).mp hkey')
  · intro key' hbefore hafter
    rw [hend.scheduled key']
    by_cases hnow : Readable env.backend ws key'
    · -- It went with this item.
      have hsame : key' = key := by
        by_contra hne
        exact hafter ((hend.others key' hne).mpr hnow)
      subst hsame
      obtain ⟨hdeleted, htenant⟩ := hgone hnow hafter
      have hnone : scheduled_count ws key' = 0 := by
        by_contra hne
        exact (hkept.scheduled key' (by omega)).1 hnow
      rw [if_pos ⟨hdeleted, rfl⟩, hnone]
      exact ⟨htenant, rfl⟩
    · rw [if_neg, Nat.add_zero]
      · exact h.gone key' hbefore hnow
      · rintro ⟨hdeleted, rfl⟩
        exact hnow (hread hdeleted)

/-- An item that meets the condition comes to the outcome it should. -/
theorem sweep_item_meets (h : VaultKept env.backend ws) {tenant_id : String} {item : SweepItem}
    (sweeper_identity : String) (hmeets : ItemMeets env tenant_id item ws) :
    wp (sweep_item env item.2 sweeper_identity item.1)
      (fun outcome ws' => ws' = item_step env sweeper_identity item ws ∧
        ItemEnd env item.1.key (outcome = .deleted) ws ws' ∧
        (outcome = .deleted ↔ Deletes env sweeper_identity item ws) ∧
        (outcome = .blocked ↔ Blocks env sweeper_identity item ws) ∧
        (outcome = .deleted → item.1.tenant_id = tenant_id))
      (fun _ _ => False) ws := by
  have hitem := sweep_item_ends h item.2 sweeper_identity item.1
  refine wp_intro ?_ ?_
  · intro outcome ws' hrun
    have hend := wp_ok hitem hrun
    have hstep : item_step env sweeper_identity item ws = ws' := by
      unfold item_step
      rw [hrun]
      rfl
    unfold Deletes
    rw [hstep]
    obtain ⟨hend, houtcome⟩ := hend
    refine ⟨rfl, hend, ?_⟩
    cases outcome with
    | deleted =>
      obtain ⟨hblocks, hreaches, hdeleting, hschedules, hgone⟩ := houtcome
      simp only [true_iff, reduceCtorEq, false_iff, forall_const]
      exact ⟨⟨hreaches.readable, hgone⟩, hblocks, ((hmeets hreaches).1 hdeleting).1⟩
    | blocked =>
      obtain ⟨hblocks, hobject⟩ := houtcome
      simp only [reduceCtorEq, false_iff, true_iff, false_implies, and_true]
      refine ⟨?_, hblocks⟩
      rintro ⟨hread, hgone⟩
      obtain ⟨hreaches, hdeleting, hstore⟩ := hobject hread hgone
      exact (hmeets hreaches).2 hdeleting hstore
    | absent =>
      obtain ⟨hblocks, hread⟩ := houtcome
      simp only [reduceCtorEq, false_iff, false_implies, and_true]
      exact ⟨fun hdel => hread hdel.1, hblocks⟩
  · intro e ws' hrun
    have hend := wp_error hitem hrun
    obtain ⟨-, hreaches, hdeleting, hschedules⟩ := hend
    exact hschedules ((hmeets hreaches).1 hdeleting).2

/-- The sweep of items that all meet the condition. -/
theorem sweep_loop_meets {tenant_id : String} {ws₀ : List VaultWrite}
    (h : VaultKept env.backend ws) (hswept : Swept env tenant_id ws₀ ws)
    (sweeper_identity : String) {items : List SweepItem}
    (hmeets : AllSteps (item_step env sweeper_identity) (ItemMeets env tenant_id) ws items)
    (deleted blocked : ℕ) :
    wp (sweep_loop env sweeper_identity items deleted blocked)
      (fun counts ws' => Swept env tenant_id ws₀ ws' ∧ counts =
        (deleted + countSteps (item_step env sweeper_identity) (Deletes env sweeper_identity)
            ws items,
          blocked + countSteps (item_step env sweeper_identity) (Blocks env sweeper_identity)
            ws items))
      (fun _ _ => False) ws := by
  induction items generalizing ws deleted blocked with
  | nil => exact ⟨hswept, rfl⟩
  | cons item items ih =>
    obtain ⟨hitem, hitems⟩ := hmeets
    unfold sweep_loop
    rw [wp_bind]
    refine wp_mono (sweep_item_meets h sweeper_identity hitem) ?_ fun _ _ hfalse => hfalse
    rintro outcome ws' ⟨hws', hend, hdeletes, hblocks, htenant⟩
    have hswept' : Swept env tenant_id ws₀ ws' := by
      refine hswept.item h hend (fun hdel => (hdeletes.mp hdel).1) fun hread hgone => ?_
      have hdel : outcome = .deleted := by
        rw [hdeletes]
        refine ⟨hread, ?_⟩
        rw [← hws']
        exact hgone
      exact ⟨hdel, htenant hdel⟩
    rw [← hws'] at hitems
    have hrest := ih hend.kept hswept' hitems
    unfold countSteps
    rw [← hws']
    cases outcome with
    | deleted =>
      have hdel := hdeletes.mp rfl
      have hblock : ¬ Blocks env sweeper_identity item ws := by simpa using hblocks
      refine wp_mono (hrest (deleted + 1) blocked) (fun counts ws'' hcounts => ?_)
        fun _ _ hfalse => hfalse
      rw [if_pos hdel, if_neg hblock, ← Nat.add_assoc, Nat.zero_add]
      exact hcounts
    | blocked =>
      have hdel : ¬ Deletes env sweeper_identity item ws := by simpa using hdeletes
      have hblock := hblocks.mp rfl
      refine wp_mono (hrest deleted (blocked + 1)) (fun counts ws'' hcounts => ?_)
        fun _ _ hfalse => hfalse
      rw [if_neg hdel, if_pos hblock, Nat.zero_add, ← Nat.add_assoc]
      exact hcounts
    | absent =>
      have hdel : ¬ Deletes env sweeper_identity item ws := by simpa using hdeletes
      have hblock : ¬ Blocks env sweeper_identity item ws := by simpa using hblocks
      refine wp_mono (hrest deleted blocked) (fun counts ws'' hcounts => ?_)
        fun _ _ hfalse => hfalse
      rw [if_neg hdel, if_neg hblock, Nat.zero_add, Nat.zero_add]
      exact hcounts

end sweep

/-! ## Whole runs -/

section whole_runs

variable {env : VaultEnv} {ws : List VaultWrite}

/-- A new attachment gets an id that its tenant has not used. -/
def VaultCall.Fresh : VaultCall → List VaultWrite → Prop
  | .store draws tenant_id _ _ _ _, ws =>
    ∀ record, .put record ∈ ws → (record.tenant_id, record.id) ≠ (tenant_id, draws.id)
  | .erase _ _ _ _ _, _ | .commit _, _ => True

/-- Each item of a sweep that starts meets its condition when its turn comes. -/
def VaultCall.Meets (env : VaultEnv) : VaultCall → List VaultWrite → Prop
  | .store _ _ _ _ _ _, _ | .erase _ _ _ _ _, _ => True
  | .commit args, ws => args.target_storage_region = args.tenant_residency_region →
    is_enabled env → AllSteps (item_step env args.sweeper_identity)
      (ItemMeets env args.tenant_id) ws args.items

theorem store_kept (h : VaultKept env.backend ws) {draws : StoreDraws} {tenant_id : String}
    (hnew : ∀ record, .put record ∈ ws → (record.tenant_id, record.id) ≠ (tenant_id, draws.id))
    (name mime_type : String) (content : List ℕ) (case_id : Option String) :
    wp (store_attachment env draws tenant_id name mime_type content case_id)
      (fun _ ws' => SweepEnd env ws ws') (fun _ ws' => SweepEnd env ws ws') ws := by
  have hsame : SweepEnd env ws ws := ⟨h, fun _ _ => rfl⟩
  unfold store_attachment backend_put
  simp only [wp_bind, wp_require, wp_write_vault, wp_pure]
  refine ⟨fun _ => ⟨fun _ => ⟨h.put hnew, ?_⟩, fun _ => hsame⟩, fun _ => hsame⟩
  intro key _
  rw [scheduled_count_concat, if_neg (not_scheduled_put key _), Nat.add_zero]

theorem call_kept (h : VaultKept env.backend ws) {call : VaultCall} (hfresh : call.Fresh ws) :
    SweepEnd env ws (vault_step env call ws) := by
  refine wp_end ?_
  cases call with
  | store draws tenant_id name mime_type content case_id =>
    simp only [VaultCall.answer, wp_bind, wp_pure]
    exact store_kept h hfresh name mime_type content case_id
  | erase draws tenant_id attachment_id erased_by reason =>
    simp only [VaultCall.answer, wp_bind, wp_pure]
    refine wp_mono (erase_ends h draws tenant_id attachment_id erased_by reason) ?_ ?_
    · exact fun _ _ hend => ⟨hend.1.kept, fun key _ => hend.1.touches.scheduled key⟩
    · exact fun _ _ hend => ⟨hend.1.kept, fun key _ => hend.1.touches.scheduled key⟩
  | commit args =>
    have hsame : SweepEnd env ws ws := ⟨h, fun _ _ => rfl⟩
    simp only [VaultCall.answer, commit_with_residency_check, wp_bind, wp_require, wp_pure]
    exact ⟨fun _ => ⟨fun _ => loop_kept h _ _ _ _, fun _ => hsame⟩, fun _ => hsame⟩

theorem run_kept (h : VaultKept env.backend ws) {calls : List VaultCall}
    (hfresh : AllSteps (vault_step env) VaultCall.Fresh ws calls) :
    SweepEnd env ws (run (vault_step env) ws calls) := by
  induction calls generalizing ws with
  | nil => exact ⟨h, fun _ _ => rfl⟩
  | cons call calls ih =>
    have hcall := call_kept h hfresh.1
    have hrest := ih hcall.kept hfresh.2
    exact ⟨hrest.kept, hcall.settles.trans hrest.settles⟩

/-- Each attachment that a sweep deletes is of the tenant that was checked and
has one event of the sweeper in the end; the counts that it returns are right. -/
structure SweptRight (env : VaultEnv) (args : CommitArgs) (ws final : List VaultWrite) :
    Prop where
  deleted : ∀ key, Readable env.backend ws key →
    ¬ Readable env.backend (vault_step env (.commit args) ws) key →
    key.1 = args.tenant_id ∧ scheduled_count final key = 1
  counts : ∀ result ws', commit_with_residency_check env args ws = .ok result ws' →
    result.deleted_count = countSteps (item_step env args.sweeper_identity)
        (Deletes env args.sweeper_identity) ws args.items ∧
      result.blocked_count = countSteps (item_step env args.sweeper_identity)
        (Blocks env args.sweeper_identity) ws args.items

theorem commit_meets (h : VaultKept env.backend ws) {args : CommitArgs}
    (hmeets : VaultCall.Meets env (.commit args) ws) :
    wp (commit_with_residency_check env args)
      (fun result ws' => Swept env args.tenant_id ws ws' ∧
        result.deleted_count = countSteps (item_step env args.sweeper_identity)
          (Deletes env args.sweeper_identity) ws args.items ∧
        result.blocked_count = countSteps (item_step env args.sweeper_identity)
          (Blocks env args.sweeper_identity) ws args.items)
      (fun _ ws' => Swept env args.tenant_id ws ws') ws := by
  have hsame : Swept env args.tenant_id ws ws :=
    ⟨fun _ => id, fun _ hread hnot => absurd hread hnot⟩
  unfold commit_with_residency_check
  simp only [wp_bind, wp_require, wp_pure]
  refine ⟨fun hregion => ⟨fun henabled => ?_, fun _ => hsame⟩, fun _ => hsame⟩
  refine wp_mono (sweep_loop_meets h hsame args.sweeper_identity (hmeets hregion henabled) 0 0)
    ?_ fun _ _ hfalse => hfalse.elim
  rintro counts ws' ⟨hswept, rfl⟩
  exact ⟨hswept, Nat.zero_add _, Nat.zero_add _⟩

/-- Whatever fails, what was stored and cannot be read has its proof of erasure
at every moment; and while each item of each sweep meets its condition, the
sweeps delete only for the tenant they checked, with one event for each item,
and count right. -/
theorem erasures_are_proven_and_sweeps_are_right_while_each_item_meets_its_condition
    (env : VaultEnv) (calls : List VaultCall)
    (hfresh : AllSteps (vault_step env) VaultCall.Fresh [] calls) :
    Always (Proven env.backend) (run (vault_step env) [] calls) ∧
    (AllSteps (vault_step env) (VaultCall.Meets env) [] calls →
      ∀ before args after, calls = before ++ .commit args :: after →
        SweptRight env args (run (vault_step env) [] before) (run (vault_step env) [] calls)) := by
  refine ⟨(run_kept (vaultKept_nil env.backend) hfresh).kept.proven, ?_⟩
  rintro hmeets before args after rfl
  obtain ⟨hfresh_before, hfresh_call, hfresh_after⟩ := allSteps_append.mp hfresh
  obtain ⟨-, hmeets_call, -⟩ := allSteps_append.mp hmeets
  have hkept := (run_kept (vaultKept_nil env.backend) hfresh_before).kept
  rw [run_append, run_cons]
  generalize run (vault_step env) [] before = ws at *
  have hcommit := commit_meets hkept hmeets_call
  have hlater := run_kept (call_kept hkept hfresh_call).kept hfresh_after
  have hswept : Swept env args.tenant_id ws (vault_step env (.commit args) ws) := by
    refine wp_end ?_
    simp only [VaultCall.answer, wp_bind, wp_pure]
    exact wp_mono hcommit (fun _ _ hend => hend.1) fun _ _ hend => hend
  constructor
  · intro key hread hgone
    obtain ⟨htenant, hcount⟩ := hswept.gone key hread hgone
    refine ⟨htenant, ?_⟩
    rw [hlater.settles key (by omega), hcount]
  · intro result ws' hrun
    have hend := wp_ok hcommit hrun
    exact hend.2

end whole_runs

/-! ## Samples -/

/-- A service with the sweeper on. -/
def sweepingVault (backend : AttachmentBackend) (store : StoreKind) : VaultEnv where
  backend := backend
  store := store
  sweeper_enabled := some "true"
  lower := id

def contractStored (tenant_id : String) : VaultCall :=
  .store ⟨"A1", "2026-01-01T00:00:00Z", true⟩ tenant_id "contract.pdf" "application/pdf" [] none

/-- A sweep that is checked for `T1`, with one item. -/
def sweepOfT1 (tenant_id : String) (draws : SweepDraws) : CommitArgs where
  tenant_id := "T1"
  tenant_residency_region := "eu"
  target_storage_region := "eu"
  items := [(⟨"A1", tenant_id, "", 30, "expired"⟩, draws)]

theorem a_sweep_of_its_own_tenant_is_right :
    Always (Proven .memory) (run (vault_step (sweepingVault .memory .memory)) []
      [contractStored "T1", .commit (sweepOfT1 "T1" ⟨⟨"2026-03-01T00:00:00Z", true, true, true⟩,
        true⟩)]) ∧
    SweptRight (sweepingVault .memory .memory)
      (sweepOfT1 "T1" ⟨⟨"2026-03-01T00:00:00Z", true, true, true⟩, true⟩)
      (run (vault_step (sweepingVault .memory .memory)) [] [contractStored "T1"])
      (run (vault_step (sweepingVault .memory .memory)) []
        [contractStored "T1", .commit (sweepOfT1 "T1" ⟨⟨"2026-03-01T00:00:00Z", true, true, true⟩,
          true⟩)]) := by
  have hfresh : AllSteps (vault_step (sweepingVault .memory .memory)) VaultCall.Fresh []
      [contractStored "T1", .commit (sweepOfT1 "T1"
        ⟨⟨"2026-03-01T00:00:00Z", true, true, true⟩, true⟩)] :=
    ⟨fun _ hput => absurd hput List.not_mem_nil, trivial, trivial⟩
  obtain ⟨hproven, hswept⟩ :=
    erasures_are_proven_and_sweeps_are_right_while_each_item_meets_its_condition
      (sweepingVault .memory .memory) _ hfresh
  refine ⟨hproven, hswept ⟨trivial, fun _ _ => ⟨fun _ => ⟨?_, ?_⟩, trivial⟩, trivial⟩
    [contractStored "T1"] _ [] rfl⟩
  · exact fun _ => ⟨rfl, .inl rfl⟩
  · exact fun hnot => absurd (.inl rfl) hnot

/-- A sweep that was checked for `T1` deletes for `T2`; one whose own event
fails leaves the item without it; one whose blob delete fails has lost the
record and counts no deletion. -/
theorem some_sweeps_are_not_right :
    ¬ SweptRight (sweepingVault .memory .memory)
      (sweepOfT1 "T2" ⟨⟨"2026-03-01T00:00:00Z", true, true, true⟩, true⟩)
      (run (vault_step (sweepingVault .memory .memory)) [] [contractStored "T2"])
      (run (vault_step (sweepingVault .memory .memory)) [] [contractStored "T2",
        .commit (sweepOfT1 "T2" ⟨⟨"2026-03-01T00:00:00Z", true, true, true⟩, true⟩)]) ∧
    ¬ SweptRight (sweepingVault .memory .database)
      (sweepOfT1 "T1" ⟨⟨"2026-03-01T00:00:00Z", true, true, true⟩, false⟩)
      (run (vault_step (sweepingVault .memory .database)) [] [contractStored "T1"])
      (run (vault_step (sweepingVault .memory .database)) [] [contractStored "T1",
        .commit (sweepOfT1 "T1" ⟨⟨"2026-03-01T00:00:00Z", true, true, true⟩, false⟩)]) ∧
    ¬ SweptRight (sweepingVault .object_store .memory)
      (sweepOfT1 "T1" ⟨⟨"2026-03-01T00:00:00Z", true, true, false⟩, true⟩)
      (run (vault_step (sweepingVault .object_store .memory)) [] [contractStored "T1"])
      (run (vault_step (sweepingVault .object_store .memory)) [] [contractStored "T1",
        .commit (sweepOfT1 "T1" ⟨⟨"2026-03-01T00:00:00Z", true, true, false⟩, true⟩)]) := by
  refine ⟨fun h => ?_, fun h => ?_, fun h => ?_⟩
  · have hdeleted := h.deleted ("T2", "A1") (by decide +kernel) (by decide +kernel)
    exact absurd hdeleted.1 (by decide)
  · have hdeleted := h.deleted ("T1", "A1") (by decide +kernel) (by decide +kernel)
    exact absurd hdeleted.2 (by decide +kernel)
  · have hdeleted := h.deleted ("T1", "A1") (by decide +kernel) (by decide +kernel)
    exact absurd hdeleted.2 (by decide +kernel)

end asoe
