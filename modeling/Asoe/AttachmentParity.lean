-- The backends of the attachment store answer alike. The dict of the process
-- is the reference: the table and the object stores mirror it through every
-- run of operations that keeps the names of the attachments apart.
import Asoe.AttachmentBackends
import Mathlib.Data.String.Basic

namespace asoe

open py prog runs mirror grouping

/-! ## Names of blobs -/

/-- Where a driver puts the blob of a key, what it writes on the way there,
and the names that it can use. -/
structure BlobNames where
  path : String → String
  tmp : String → String → String
  accepts : String → Prop

def in_memory_names : BlobNames where
  path := id
  tmp key _ := key
  accepts _ := True

def FileSystem.names (fs : FileSystem) : BlobNames where
  path := fs.path
  tmp key hex := fs.path key ++ ".tmp." ++ hex
  accepts name := fs.accepts name = true

/-- The place of the blob of an attachment. -/
def BlobNames.place (names : BlobNames) (key : String × String) : String :=
  names.path (blob_key key.1 key.2)

/-- A driver that keeps its blobs under these names. -/
structure Stores (names : BlobNames) (driver : BlobStore) : Prop where
  put : ∀ {key hex : String}, names.accepts (names.path key) → names.accepts (names.tmp key hex) →
    ∀ (data : List ℕ) (blobs : Blobs), ∃ blobs',
      driver.put_blob key data hex blobs = .ok () blobs' ∧
      dict.get blobs' (names.path key) = some data ∧
      ∀ name, name ≠ names.path key → name ≠ names.tmp key hex →
        dict.get blobs' name = dict.get blobs name
  get : ∀ {key : String}, names.accepts (names.path key) → ∀ blobs : Blobs,
    driver.get_blob key blobs = .ok (dict.get blobs (names.path key)) blobs
  delete : ∀ {key : String}, names.accepts (names.path key) → ∀ blobs : Blobs,
    driver.delete_blob key blobs = .ok () (dict.pop blobs (names.path key))

theorem in_memory_stores : Stores in_memory_names in_memory_blob_store where
  put _ _ data blobs := ⟨dict.set blobs _ data, rfl, dict.get_set_self _ _ _,
    fun _ hne _ => dict.get_set_of_ne _ _ hne⟩
  get _ _ := rfl
  delete _ _ := rfl

theorem run_require {ε σ : Type} {c : Prop} [Decidable c] (h : c) (e : ε) (s : σ) :
    require c e s = .ok () s := by
  unfold require
  rw [if_pos h]
  rfl

theorem filesystem_stores (fs : FileSystem) : Stores fs.names (filesystem_blob_store fs) where
  put {key hex} hpath htmp data blobs := by
    refine ⟨dict.set (dict.pop (dict.set blobs (fs.names.tmp key hex) data)
      (fs.names.tmp key hex)) (fs.path key) data, ?_, dict.get_set_self _ _ _, ?_⟩
    · have hpath : fs.accepts (fs.path key) = true := hpath
      have htmp : fs.accepts (fs.path key ++ ".tmp." ++ hex) = true := htmp
      simp only [filesystem_blob_store, run_bind]
      rw [run_require htmp]
      simp only [run_modify]
      rw [run_require hpath]
      rfl
    · intro name hne hne'
      have hne : name ≠ fs.path key := hne
      rw [dict.get_set_of_ne _ _ hne, dict.get_pop_of_ne _ hne', dict.get_set_of_ne _ _ hne']
  get {key} hpath blobs := by
    have hpath : fs.accepts (fs.path key) = true := hpath
    simp only [filesystem_blob_store, run_bind]
    rw [run_require hpath]
    rfl
  delete {key} hpath blobs := by
    have hpath : fs.accepts (fs.path key) = true := hpath
    simp only [filesystem_blob_store, run_bind]
    rw [run_require hpath]
    rfl

/-! ## Names kept apart -/

/-- An operation that keeps the names apart, and a listing whose order its
times decide. -/
def Apart (names : BlobNames) : StoreOp → Records → Prop
  | .put record hex, records =>
    (∀ p ∈ records, p.2.id ≠ record.1.id) ∧ names.accepts (names.place record.1.key) ∧
      names.accepts (names.tmp (blob_key record.1.tenant_id record.1.id) hex) ∧
      ∀ p ∈ records, names.place p.1 ≠ names.place record.1.key ∧
        names.place p.1 ≠ names.tmp (blob_key record.1.tenant_id record.1.id) hex
  | .get _ _, _ => True
  | .list_for_case tenant_id case_id, records =>
    ((records.map Prod.snd).filter (of_case tenant_id case_id)).Pairwise
      fun a b => a.created_at ≠ b.created_at
  | .delete tenant_id attachment_id, records =>
    names.accepts (names.place (tenant_id, attachment_id)) ∧
      ∀ p ∈ records, p.1 ≠ (tenant_id, attachment_id) →
        names.place p.1 ≠ names.place (tenant_id, attachment_id)

theorem Apart.in_memory {fs : FileSystem} {op : StoreOp} {records : Records}
    (h : Apart fs.names op records) : Apart in_memory_names op records := by
  have hplace : ∀ key key', fs.names.place key ≠ fs.names.place key' →
      in_memory_names.place key ≠ in_memory_names.place key' :=
    fun key key' hne heq => hne (congrArg fs.path heq)
  cases op with
  | put record hex =>
    obtain ⟨hids, -, -, hplaces⟩ := h
    exact ⟨hids, trivial, trivial, fun p hp => ⟨hplace _ _ (hplaces p hp).1,
      hplace _ record.1.key (hplaces p hp).1⟩⟩
  | get tenant_id attachment_id => trivial
  | list_for_case tenant_id case_id => exact h
  | delete tenant_id attachment_id =>
    exact ⟨trivial, fun p hp hne => hplace _ _ (h.2 p hp hne)⟩

section parity

variable {names : BlobNames} {records : Records}

/-- The records are filed under their own keys, each at a place of its own. -/
structure Filed (names : BlobNames) (records : Records) : Prop where
  keyed : ∀ p ∈ records, p.1 = p.2.key ∧ p.2.Intact
  once : Once records
  accepted : ∀ p ∈ records, names.accepts (names.place p.1)
  apart : ∀ p ∈ records, ∀ q ∈ records, names.place p.1 = names.place q.1 → p.1 = q.1

theorem filed_nil : Filed names [] where
  keyed _ hp := absurd hp List.not_mem_nil
  once := List.nodup_nil
  accepted _ hp := absurd hp List.not_mem_nil
  apart _ hp := absurd hp List.not_mem_nil

theorem Filed.get_none (h : Filed names records) {record : AttachmentRecord}
    (hids : ∀ p ∈ records, p.2.id ≠ record.id) : dict.get records record.key = none := by
  cases hget : dict.get records record.key with
  | none => rfl
  | some r =>
    have hmem := dict.mem_of_get hget
    obtain ⟨-, hid⟩ := Prod.mk.inj (h.keyed _ hmem).1
    exact absurd hid.symm (hids _ hmem)

theorem Filed.set_eq (h : Filed names records) {record : AttachmentRecord}
    (hids : ∀ p ∈ records, p.2.id ≠ record.id) :
    dict.set records (record.tenant_id, record.id) record = records ++ [(record.key, record)] :=
  dict.set_of_none _ (h.get_none hids)

theorem Filed.step (h : Filed names records) {op : StoreOp} (hop : Apart names op records) :
    Filed names (after in_memory_backend.act op records) := by
  cases op with
  | put record hex =>
    obtain ⟨hids, haccepts, -, hplaces⟩ := hop
    have hafter : after in_memory_backend.act (.put record hex) records =
        records ++ [(record.1.key, record.1)] := h.set_eq hids
    rw [hafter]
    have hmem : ∀ p, p ∈ records ++ [(record.1.key, record.1)] ↔
        p ∈ records ∨ p = (record.1.key, record.1) := by
      intro p
      simp
    constructor
    · intro p hp
      rcases (hmem p).mp hp with hp | rfl
      · exact h.keyed p hp
      · exact ⟨rfl, record.2⟩
    · rw [← h.set_eq hids]
      exact h.once.set _ _
    · intro p hp
      rcases (hmem p).mp hp with hp | rfl
      · exact h.accepted p hp
      · exact haccepts
    · intro p hp q hq heq
      rcases (hmem p).mp hp with hp | rfl
      · rcases (hmem q).mp hq with hq | rfl
        · exact h.apart p hp q hq heq
        · exact absurd heq (hplaces p hp).1
      · rcases (hmem q).mp hq with hq | rfl
        · exact absurd heq.symm (hplaces q hq).1
        · rfl
  | get tenant_id attachment_id => exact h
  | list_for_case tenant_id case_id => exact h
  | delete tenant_id attachment_id =>
    have hsub : ∀ p ∈ dict.pop records (tenant_id, attachment_id), p ∈ records :=
      fun p hp => List.mem_of_mem_filter hp
    exact ⟨fun p hp => h.keyed p (hsub p hp), h.once.filter _,
      fun p hp => h.accepted p (hsub p hp),
      fun p hp q hq => h.apart p (hsub p hp) q (hsub q hq)⟩

/-! ## The table -/

/-- Rows of different times have one order. -/
theorem ByCreatedAt.sort_eq (order : ByCreatedAt) {rows : List AttachmentRecord}
    (h : rows.Pairwise fun a b => a.created_at ≠ b.created_at) :
    order.sort rows = rows.insertionSort fun a b => a.created_at ≤ b.created_at := by
  have hsorted : (rows.insertionSort fun a b : AttachmentRecord =>
      a.created_at ≤ b.created_at).Pairwise fun a b => a.created_at ≤ b.created_at := by
    have : Std.Total fun a b : AttachmentRecord => a.created_at ≤ b.created_at :=
      ⟨fun a b => le_total _ _⟩
    have : IsTrans AttachmentRecord fun a b => a.created_at ≤ b.created_at :=
      ⟨fun a b c => le_trans⟩
    exact List.pairwise_insertionSort _ rows
  refine List.Perm.eq_of_pairwise (fun a b ha hb hab hba => ?_) (order.ascending rows) hsorted
    ((order.perm rows).trans (List.perm_insertionSort _ rows).symm)
  have hinj : ∀ a ∈ rows, ∀ b ∈ rows, a.created_at = b.created_at → a = b := by
    have hnodup : (rows.map AttachmentRecord.created_at).Nodup := by
      rw [List.nodup_iff_pairwise_ne, List.pairwise_map]
      exact h
    exact fun a ha b hb => List.inj_on_of_nodup_map hnodup ha hb
  exact hinj a ((order.perm rows).mem_iff.mp ha) b ((List.mem_insertionSort _).mp hb)
    (le_antisymm hab hba)

theorem find_held (h : Filed names records) (tenant_id attachment_id : String) :
    (records.map Prod.snd).find? (attachment_repository.held tenant_id attachment_id) =
      dict.get records (tenant_id, attachment_id) := by
  induction records with
  | nil => rfl
  | cons p records ih =>
    obtain ⟨key, record⟩ := p
    have hrest : Filed names records := ⟨fun p hp => h.keyed p (List.mem_cons_of_mem _ hp),
      (List.nodup_cons.mp h.once).2, fun p hp => h.accepted p (List.mem_cons_of_mem _ hp),
      fun p hp q hq => h.apart p (List.mem_cons_of_mem _ hp) q (List.mem_cons_of_mem _ hq)⟩
    have hkey : key = (record.tenant_id, record.id) := (h.keyed _ List.mem_cons_self).1
    subst hkey
    rw [List.map_cons, List.find?_cons, dict.get_cons, ← ih hrest]
    unfold attachment_repository.held
    by_cases hsame : (tenant_id, attachment_id) = (record.tenant_id, record.id)
    · obtain ⟨rfl, rfl⟩ := Prod.mk.inj hsame
      simp
    · rw [if_neg hsame]
      have hnot : ¬ (record.id = attachment_id ∧ record.tenant_id = tenant_id) := by
        rintro ⟨rfl, rfl⟩
        exact hsame rfl
      have hfalse : (decide (record.id = attachment_id) && decide (record.tenant_id = tenant_id)) =
          false := by simpa using hnot
      rw [hfalse]

theorem pop_held (h : Filed names records) (tenant_id attachment_id : String) :
    (records.map Prod.snd).filter
        (fun row => !attachment_repository.held tenant_id attachment_id row) =
      (dict.pop records (tenant_id, attachment_id)).map Prod.snd := by
  unfold dict.pop
  rw [List.filter_map]
  congr 1
  refine List.filter_congr fun p hp => ?_
  have hkey := (h.keyed p hp).1
  unfold attachment_repository.held
  simp only [Function.comp, hkey, AttachmentRecord.key, Prod.mk.injEq]
  by_cases hid : p.2.id = attachment_id <;> by_cases ht : p.2.tenant_id = tenant_id <;>
    simp [hid, ht]

/-- The table mirrors the dict. -/
theorem table_mirrors (order : ByCreatedAt) {op : StoreOp} {rows : List AttachmentRecord}
    (h : Filed names records ∧ rows = records.map Prod.snd) (hop : Apart names op records) :
    Mirrors in_memory_backend.act (db_backend order).act
      (fun records rows => Filed names records ∧ rows = records.map Prod.snd) op records rows := by
  obtain ⟨hfiled, rfl⟩ := h
  have hstep := hfiled.step hop
  cases op with
  | put record hex =>
    obtain ⟨hids, -⟩ := hop
    have hnew : ∀ r ∈ records.map Prod.snd, r.id ≠ record.1.id := by
      intro r hr
      obtain ⟨p, hp, rfl⟩ := List.mem_map.mp hr
      exact hids p hp
    have hact : (db_backend order).act (.put record hex) (records.map Prod.snd) =
        (.ok .done, records.map Prod.snd ++ [record.1]) := by
      simp only [Backend.act, Backend.answer, db_backend, attachment_repository.insert, run_bind,
        run_get]
      rw [run_require hnew]
      rfl
    refine ⟨by rw [hact]; rfl, hstep, ?_⟩
    rw [hact]
    change records.map Prod.snd ++ [record.1] =
      (dict.set records (record.1.tenant_id, record.1.id) record.1).map Prod.snd
    rw [hfiled.set_eq hids, List.map_append]
    rfl
  | get tenant_id attachment_id =>
    refine ⟨?_, hstep, rfl⟩
    change Except.ok (StoreAnswer.found (List.find?
      (attachment_repository.held tenant_id attachment_id) (records.map Prod.snd))) = _
    rw [find_held hfiled]
    rfl
  | list_for_case tenant_id case_id =>
    refine ⟨?_, hstep, rfl⟩
    change Except.ok (StoreAnswer.listed ((order.sort ((records.map Prod.snd).filter
      (of_case tenant_id case_id))).map AttachmentRecord.metadata)) = _
    rw [order.sort_eq hop]
    rfl
  | delete tenant_id attachment_id =>
    exact ⟨rfl, hstep, pop_held hfiled tenant_id attachment_id⟩

/-! ## The object stores -/

/-- The index without contents. -/
def indexOf (records : Records) : Records := records.map fun p => (p.1, p.2.metadata)

theorem get_indexOf (key : String × String) :
    dict.get (indexOf records) key = (dict.get records key).map AttachmentRecord.metadata := by
  induction records with
  | nil => rfl
  | cons p records ih =>
    obtain ⟨key', record⟩ := p
    change dict.get ((key', record.metadata) :: indexOf records) key = _
    rw [dict.get_cons, dict.get_cons, ih]
    by_cases hkey : key = key'
    · rw [if_pos hkey, if_pos hkey]
      rfl
    · rw [if_neg hkey, if_neg hkey]

theorem pop_indexOf (key : String × String) :
    dict.pop (indexOf records) key = indexOf (dict.pop records key) := by
  unfold dict.pop indexOf
  rw [List.filter_map]
  rfl

theorem listing_metadata (rows : List AttachmentRecord) :
    listing (rows.map AttachmentRecord.metadata) = listing rows := by
  have hsort : (rows.map AttachmentRecord.metadata).insertionSort
      (fun a b => a.created_at ≤ b.created_at) =
        (rows.insertionSort fun a b => a.created_at ≤ b.created_at).map
          AttachmentRecord.metadata := by
    symm
    exact List.map_insertionSort _ _ _ _ fun a _ b _ => Iff.rfl
  unfold listing
  rw [hsort, List.map_map]
  rfl

theorem listing_indexOf (tenant_id case_id : String) :
    listing (((indexOf records).map Prod.snd).filter (of_case tenant_id case_id)) =
      listing ((records.map Prod.snd).filter (of_case tenant_id case_id)) := by
  have hindex : (indexOf records).map Prod.snd =
      (records.map Prod.snd).map AttachmentRecord.metadata := by
    unfold indexOf
    rw [List.map_map, List.map_map]
    rfl
  have hfilter : ((records.map Prod.snd).map AttachmentRecord.metadata).filter
      (of_case tenant_id case_id) =
        ((records.map Prod.snd).filter (of_case tenant_id case_id)).map
          AttachmentRecord.metadata := by
    rw [List.filter_map]
    rfl
  rw [hindex, hfilter, listing_metadata]

/-- The index has the records and the driver their contents. -/
structure Holds (names : BlobNames) (records : Records) (s : ObjectStore) : Prop where
  filed : Filed names records
  index : s.index = indexOf records
  blobs : ∀ p ∈ records, dict.get s.blobs (names.place p.1) = some p.2.content

theorem run_with_blobs {α : Type} {x : EStateM PyErr Blobs α} {a : α} {s : ObjectStore}
    {blobs : Blobs} (h : x s.blobs = .ok a blobs) :
    with_blobs x s = .ok a { s with blobs := blobs } := by
  unfold with_blobs
  rw [run_zoom, h]

/-- An object store mirrors the dict, whichever driver it has. -/
theorem object_store_mirrors {driver : BlobStore} (hdriver : Stores names driver) {op : StoreOp}
    {s : ObjectStore} (h : Holds names records s) (hop : Apart names op records) :
    Mirrors in_memory_backend.act (object_store_backend driver).act (Holds names) op records s := by
  have hstep := h.filed.step hop
  obtain ⟨hfiled, hindex, hblobs⟩ := h
  cases op with
  | put record hex =>
    obtain ⟨hids, haccepts, htmp, hplaces⟩ := hop
    obtain ⟨blobs', hput, hown, hothers⟩ := hdriver.put haccepts htmp record.1.content s.blobs
    have hset := hfiled.set_eq hids
    have hact : (object_store_backend driver).act (.put record hex) s = (.ok .done,
        ⟨dict.set s.index record.1.key record.1.metadata, blobs'⟩) := by
      have hrun : with_blobs (driver.put_blob (blob_key record.1.tenant_id record.1.id)
          record.1.content hex) s = .ok () { s with blobs := blobs' } := run_with_blobs hput
      simp only [Backend.act, Backend.answer, object_store_backend, run_bind, hrun]
      rfl
    refine ⟨by rw [hact]; rfl, ⟨hstep, ?_, ?_⟩⟩
    · have hnone : dict.get s.index record.1.key = none := by
        rw [hindex, get_indexOf, hfiled.get_none hids]
        rfl
      rw [hact]
      change dict.set s.index record.1.key record.1.metadata = indexOf (dict.set records _ _)
      rw [dict.set_of_none _ hnone, hset, hindex]
      unfold indexOf
      rw [List.map_append]
      rfl
    · rw [hact]
      change ∀ p ∈ dict.set records _ _, dict.get blobs' (names.place p.1) = some p.2.content
      rw [hset]
      intro p hp
      rcases List.mem_append.mp hp with hp | hp
      · rw [hothers _ (hplaces p hp).1 (hplaces p hp).2]
        exact hblobs p hp
      · obtain rfl := List.mem_singleton.mp hp
        exact hown
  | get tenant_id attachment_id =>
    have hact : (object_store_backend driver).act (.get tenant_id attachment_id) s =
        (.ok (.found (dict.get records (tenant_id, attachment_id))), s) := by
      simp only [Backend.act, Backend.answer, object_store_backend, run_bind, run_get]
      rw [hindex, get_indexOf]
      cases hget : dict.get records (tenant_id, attachment_id) with
      | none => rfl
      | some record =>
        have hmem := dict.mem_of_get hget
        have hblob := hdriver.get (hfiled.accepted _ hmem) s.blobs
        simp only [Option.map_some, run_bind]
        rw [run_with_blobs hblob]
        have hcontent : dict.get s.blobs (names.path (blob_key tenant_id attachment_id)) =
            some record.content := hblobs _ hmem
        rw [hcontent]
        rfl
    refine ⟨by rw [hact]; rfl, ?_⟩
    rw [hact]
    exact ⟨hfiled, hindex, hblobs⟩
  | list_for_case tenant_id case_id =>
    refine ⟨?_, ⟨hfiled, hindex, hblobs⟩⟩
    change Except.ok (StoreAnswer.listed (listing ((s.index.map Prod.snd).filter
      (of_case tenant_id case_id)))) = _
    rw [hindex, listing_indexOf]
    rfl
  | delete tenant_id attachment_id =>
    obtain ⟨haccepts, hplaces⟩ := hop
    have hdelete := hdriver.delete haccepts s.blobs
    have hact : (object_store_backend driver).act (.delete tenant_id attachment_id) s = (.ok .done,
        ⟨dict.pop s.index (tenant_id, attachment_id),
          dict.pop s.blobs (names.place (tenant_id, attachment_id))⟩) := by
      have hrun : with_blobs (driver.delete_blob (blob_key tenant_id attachment_id))
          { s with index := dict.pop s.index (tenant_id, attachment_id) } = .ok ()
            ⟨dict.pop s.index (tenant_id, attachment_id),
              dict.pop s.blobs (names.place (tenant_id, attachment_id))⟩ := run_with_blobs hdelete
      simp only [Backend.act, Backend.answer, object_store_backend, run_bind, run_modify, hrun]
      rfl
    refine ⟨by rw [hact]; rfl, ⟨hstep, ?_, ?_⟩⟩
    · rw [hact]
      change dict.pop s.index _ = indexOf (dict.pop records _)
      rw [hindex, pop_indexOf]
    · rw [hact]
      change ∀ p ∈ dict.pop records (tenant_id, attachment_id), dict.get (dict.pop s.blobs _) _ = _
      intro p hp
      obtain ⟨hmem, hne⟩ := List.mem_filter.mp hp
      have hne : p.1 ≠ (tenant_id, attachment_id) := by simpa using hne
      rw [dict.get_pop_of_ne _ (hplaces p hmem hne)]
      exact hblobs p hmem

end parity

/-! ## Tenants -/

section tenants

variable {names : BlobNames} {records : Records}

/-- A get shows the attachment that was asked for, whole; a listing shows those
of the tenant; nothing raises. -/
def Sound : StoreOp → Except PyErr StoreAnswer → Prop
  | _, .error _ => False
  | .get tenant_id attachment_id, .ok (.found (some record)) =>
    record.key = (tenant_id, attachment_id) ∧ record.Intact
  | .list_for_case tenant_id _, .ok (.listed rows) => ∀ record ∈ rows, record.tenant_id = tenant_id
  | _, .ok _ => True

theorem Filed.sound (h : Filed names records) (op : StoreOp) :
    Sound op (in_memory_backend.act op records).1 := by
  cases op with
  | put record hex => trivial
  | delete tenant_id attachment_id => trivial
  | get tenant_id attachment_id =>
    change Sound _ (.ok (.found (dict.get records (tenant_id, attachment_id))))
    cases hget : dict.get records (tenant_id, attachment_id) with
    | none => trivial
    | some record =>
      obtain ⟨hkey, hintact⟩ := h.keyed _ (dict.mem_of_get hget)
      exact ⟨hkey.symm, hintact⟩
  | list_for_case tenant_id case_id =>
    intro record hrecord
    obtain ⟨row, hrow, rfl⟩ := List.mem_map.mp hrecord
    have hcase := (List.mem_filter.mp ((List.mem_insertionSort _).mp hrow)).2
    unfold of_case at hcase
    simp only [Bool.and_eq_true, decide_eq_true_eq] at hcase
    exact hcase.1

/-- The operations of a tenant, and what it has stored. -/
def by_tenant (tenant_id : String) (op : StoreOp) : Bool := op.tenant_id = tenant_id

def own_records (tenant_id : String) (records : Records) : Records :=
  records.filter fun p => p.1.1 = tenant_id

theorem get_own_records {tenant_id : String} {key : String × String} (hkey : key.1 = tenant_id) :
    dict.get (own_records tenant_id records) key = dict.get records key := by
  induction records with
  | nil => rfl
  | cons p records ih =>
    obtain ⟨key', record⟩ := p
    unfold own_records at ih ⊢
    rw [List.filter_cons, dict.get_cons]
    by_cases htenant : key'.1 = tenant_id
    · rw [if_pos (by simpa using htenant), dict.get_cons, ih]
    · have hne : key ≠ key' := by
        rintro rfl
        exact htenant hkey
      rw [if_neg (by simpa using htenant), if_neg hne, ih]

theorem own_records_pop {tenant_id : String} (key : String × String) :
    own_records tenant_id (dict.pop records key) =
      dict.pop (own_records tenant_id records) key := by
  unfold own_records dict.pop
  exact List.filter_comm _ _ _

theorem own_listing (h : Filed names records) (tenant_id case_id : String) :
    ((own_records tenant_id records).map Prod.snd).filter (of_case tenant_id case_id) =
      (records.map Prod.snd).filter (of_case tenant_id case_id) := by
  unfold own_records
  rw [List.filter_map, List.filter_map, List.filter_filter]
  congr 1
  refine List.filter_congr fun p hp => ?_
  have hkey := (h.keyed p hp).1
  simp only [Function.comp, of_case, hkey, AttachmentRecord.key]
  by_cases htenant : p.2.tenant_id = tenant_id <;> simp [htenant]

/-- An operation of another tenant changes nothing that this one has stored. -/
theorem own_records_other (h : Filed names records) {tenant_id : String} {op : StoreOp}
    (hop : Apart names op records) (hother : by_tenant tenant_id op = false) :
    own_records tenant_id (in_memory_backend.act op records).2 = own_records tenant_id records := by
  have htenant : op.tenant_id ≠ tenant_id := by simpa [by_tenant] using hother
  cases op with
  | put record hex =>
    change own_records tenant_id (dict.set records _ _) = _
    rw [h.set_eq hop.1]
    unfold own_records
    rw [List.filter_append]
    have hnot : ¬ record.1.key.1 = tenant_id := htenant
    simp [hnot]
  | get tenant_id' attachment_id => rfl
  | list_for_case tenant_id' case_id => rfl
  | delete tenant_id' attachment_id =>
    change own_records tenant_id (dict.pop records _) = _
    unfold own_records dict.pop
    rw [List.filter_filter]
    refine List.filter_congr fun p hp => ?_
    by_cases hkey : p.1.1 = tenant_id
    · have hne : p.1 ≠ (tenant_id', attachment_id) := by
        intro heq
        rw [heq] at hkey
        exact htenant hkey
      simp [hkey, hne]
    · simp [hkey]

/-- An operation of the tenant sees and changes what the tenant has stored. -/
theorem own_records_own (h : Filed names records) {tenant_id : String} {op : StoreOp}
    (hop : Apart names op records) (hown : by_tenant tenant_id op = true) :
    (in_memory_backend.act op records).1 =
        (in_memory_backend.act op (own_records tenant_id records)).1 ∧
      own_records tenant_id (in_memory_backend.act op records).2 =
        (in_memory_backend.act op (own_records tenant_id records)).2 := by
  have htenant : op.tenant_id = tenant_id := by simpa [by_tenant] using hown
  cases op with
  | put record hex =>
    refine ⟨rfl, ?_⟩
    change own_records tenant_id (dict.set records _ _) = dict.set (own_records _ _) _ _
    have hkey : (record.1.tenant_id, record.1.id).1 = tenant_id := htenant
    have hnone : dict.get records (record.1.tenant_id, record.1.id) = none := h.get_none hop.1
    have hown_none : dict.get (own_records tenant_id records)
        (record.1.tenant_id, record.1.id) = none := by
      rw [get_own_records hkey, hnone]
    rw [dict.set_of_none _ hnone, dict.set_of_none _ hown_none]
    have hkey : record.1.tenant_id = tenant_id := hkey
    unfold own_records
    rw [List.filter_append]
    simp [hkey]
  | get tenant_id' attachment_id =>
    refine ⟨?_, rfl⟩
    change Except.ok (StoreAnswer.found (dict.get records _)) = .ok (.found (dict.get _ _))
    rw [get_own_records htenant]
  | list_for_case tenant_id' case_id =>
    refine ⟨?_, rfl⟩
    change Except.ok (StoreAnswer.listed (listing _)) = .ok (.listed (listing _))
    obtain rfl : tenant_id' = tenant_id := htenant
    rw [own_listing h]
  | delete tenant_id' attachment_id => exact ⟨rfl, own_records_pop _⟩

end tenants

/-! ## Whole runs -/

/-- While the names stay apart, the four stores answer every sequence of
operations alike, no answer shows an attachment of another tenant or one that
is not whole, and each tenant gets the answers that it would get alone. -/
theorem the_attachment_stores_answer_alike_while_names_stay_apart (fs : FileSystem)
    (order : ByCreatedAt) (ops : List StoreOp)
    (hops : AllSteps (after in_memory_backend.act) (Apart fs.names) [] ops) :
    answers (db_backend order).act [] ops = answers in_memory_backend.act [] ops ∧
    answers (object_store_backend in_memory_blob_store).act {} ops =
      answers in_memory_backend.act [] ops ∧
    answers (object_store_backend (filesystem_blob_store fs)).act {} ops =
      answers in_memory_backend.act [] ops ∧
    (∀ p ∈ ops.zip (answers in_memory_backend.act [] ops), Sound p.1 p.2) ∧
    ∀ tenant_id, answersTo (by_tenant tenant_id) ops (answers in_memory_backend.act [] ops) =
      answers in_memory_backend.act [] (ops.filter (by_tenant tenant_id)) := by
  have hblobs : AllSteps (after in_memory_backend.act) (Apart in_memory_names) [] ops :=
    allSteps_mono (fun _ _ => Apart.in_memory) hops
  have hempty : ∀ names, Holds names [] {} :=
    fun names => ⟨filed_nil, rfl, fun _ hp => absurd hp List.not_mem_nil⟩
  refine ⟨?_, ?_, ?_, ?_, fun tenant_id => ?_⟩
  · have hnil : Filed fs.names [] ∧ ([] : List AttachmentRecord) = ([] : Records).map Prod.snd :=
      ⟨filed_nil, rfl⟩
    exact answers_eq (fun _ _ _ hop h => table_mirrors order h hop) hnil hops
  · exact answers_eq (fun _ _ _ hop h => object_store_mirrors in_memory_stores h hop) (hempty _)
      hblobs
  · exact answers_eq (fun _ _ _ hop h => object_store_mirrors (filesystem_stores fs) h hop)
      (hempty _) hops
  · have hfiled : Filed fs.names [] := filed_nil
    refine answers_forall (fun op records hop h => ⟨h.sound op, ?_⟩) hfiled hops
    exact h.step hop
  · have hfiled : Filed fs.names [] := filed_nil
    have hkeep : ∀ op records, Apart fs.names op records → Filed fs.names records →
        Filed fs.names (in_memory_backend.act op records).2 := fun op records hop h => h.step hop
    exact answers_alone hkeep (fun op records hop h hown => own_records_own h hop hown)
      (fun op records hop h hother => own_records_other h hop hother) hfiled hops

/-! ## Samples -/

/-- Rows of one time come in the order of their insertion. -/
def insertionOrder : ByCreatedAt where
  sort rows := rows.insertionSort fun a b => a.created_at ≤ b.created_at
  perm rows := List.perm_insertionSort _ rows
  ascending rows := by
    have : Std.Total fun a b : AttachmentRecord => a.created_at ≤ b.created_at :=
      ⟨fun a b => le_total _ _⟩
    have : IsTrans AttachmentRecord fun a b => a.created_at ≤ b.created_at :=
      ⟨fun a b c => le_trans⟩
    exact List.pairwise_insertionSort _ rows

/-- Files with names of ASCII letters and digits, of any length. -/
def asciiFiles : FileSystem := ⟨Char.isAlphanum, fun _ => true⟩

def letter (tenant_id id : String) (content : List ℕ) : IntactRecord :=
  ⟨⟨id, tenant_id, "letter.txt", "text/plain", content.length, sha256.hexdigest_bytes content,
    content, "2026-01-01T00:00:00Z", some "C1"⟩, rfl, rfl⟩

theorem the_stores_answer_a_put_and_a_get_alike :
    answers (object_store_backend (filesystem_blob_store asciiFiles)).act {}
        [.put (letter "T1" "A1" [1]) "0f", .get "T1" "A1"] =
      answers in_memory_backend.act [] [.put (letter "T1" "A1" [1]) "0f", .get "T1" "A1"] :=
  (the_attachment_stores_answer_alike_while_names_stay_apart asciiFiles insertionOrder
    [.put (letter "T1" "A1" [1]) "0f", .get "T1" "A1"]
    ⟨⟨fun _ hp => absurd hp List.not_mem_nil, rfl, rfl, fun _ hp => absurd hp List.not_mem_nil⟩,
      trivial, trivial⟩).2.2.1

/-- A second put of one id raises in the table alone; two ids of one file name
share their bytes; so do two tenants in an object store, when a slash in an id
makes up for one in a tenant; and a delete takes the bytes of another. -/
theorem some_attachment_stores_answer_otherwise :
    (answers (db_backend insertionOrder).act [] [.put (letter "T1" "A1" [1]) "0f",
        .put (letter "T1" "A1" [2]) "0f"] =
      [.ok .done, .error ⟨"IntegrityError", "UNIQUE constraint failed: email_attachment.id"⟩] ∧
    answers in_memory_backend.act [] [.put (letter "T1" "A1" [1]) "0f",
        .put (letter "T1" "A1" [2]) "0f"] = [.ok .done, .ok .done]) ∧
    (answers (object_store_backend (filesystem_blob_store asciiFiles)).act {}
        [.put (letter "T1" "a b" [1]) "0f", .put (letter "T1" "a:b" [2]) "0f", .get "T1" "a b"] =
      [.ok .done, .ok .done,
        .ok (.found (some { (letter "T1" "a b" [1]).1 with content := [2] }))] ∧
    answers in_memory_backend.act []
        [.put (letter "T1" "a b" [1]) "0f", .put (letter "T1" "a:b" [2]) "0f", .get "T1" "a b"] =
      [.ok .done, .ok .done, .ok (.found (some (letter "T1" "a b" [1]).1))]) ∧
    answers (object_store_backend in_memory_blob_store).act {}
        [.put (letter "T/1" "A" [1]) "0f", .put (letter "T" "1/A" [2]) "0f", .get "T/1" "A"] =
      [.ok .done, .ok .done,
        .ok (.found (some { (letter "T/1" "A" [1]).1 with content := [2] }))] ∧
    answers (object_store_backend in_memory_blob_store).act {}
        [.put (letter "T/1" "A" [1]) "0f", .delete "T" "1/A", .get "T/1" "A"] =
      [.ok .done, .ok .done, .ok (.found (some { (letter "T/1" "A" [1]).1 with content := [] }))] :=
  ⟨⟨rfl, rfl⟩, ⟨rfl, rfl⟩, rfl, rfl⟩

end asoe
