-- The merge of the cases that share a customer order. Later cases go into
-- the earliest one: their records are put under it, and the cases are
-- deleted with their correlation keys. What else a case had is not looked at.
import Asoe.Inheritance
import Asoe.ExceptionPages
import Asoe.Lib.Grouping

namespace asoe

open py prog runs keyindex paging grouping

/-! ## The merge -/

/-- What a case was opened with, by its id; the merge assigns none of it. -/
structure OpeningFacts where
  customer_po_number : String → Option String
  opened_at : String → String

/-- What the merge fills in of a report. -/
structure BackfillReport where
  cases_merged : ℕ := 0
  record_to_case : List (String × String) := []
  deriving DecidableEq

/-- The number that a case is grouped by; an empty one is none. -/
def OpeningFacts.po (facts : OpeningFacts) (case : OrderCase) : Option String :=
  (facts.customer_po_number case.case_id).filter fun po => po ≠ ""

/-- The order of `opened_at`. -/
def OpeningFacts.no_later (facts : OpeningFacts) (a b : OrderCase) : Prop :=
  facts.opened_at a.case_id ≤ facts.opened_at b.case_id

instance (facts : OpeningFacts) : DecidableRel facts.no_later :=
  fun a b => inferInstanceAs (Decidable (facts.opened_at a.case_id ≤ facts.opened_at b.case_id))

/-- The pairs of a group: its earliest case, and each later one. -/
def OpeningFacts.pairs (facts : OpeningFacts) (cases : List OrderCase) : List (String × String) :=
  if cases.length < 2 then []
  else
    match cases.insertionSort facts.no_later with
    | [] => []
    | primary :: later => later.map fun duplicate => (primary.case_id, duplicate.case_id)

/-- The pairs that are merged, in their order. -/
def merge_candidates (facts : OpeningFacts) (cases : List OrderCase) : List (String × String) :=
  (group facts.po cases).flatMap fun by_po => facts.pairs by_po.2

/-- What the merge can do to the rows that it works on. -/
structure MergeView where
  cases : List (String × OrderCase)
  records : List (String × ChildCase)
  correlation : List (CorrelationKey × String)
  events : String → List Classification

/-- The two stores, as the merge calls them. -/
structure MergeStores (σ : Type) where
  list_by_tenant : String → σ → List OrderCase
  list_by_case : String → String → σ → List ChildCase
  update : String → String → String → EStateM PyErr σ Unit
  delete : String → EStateM PyErr σ Unit
  view : σ → MergeView

section merge

variable {σ : Type} (stores : MergeStores σ) (tenant_id : String)

/-- The children of the duplicate are put under the primary, then the
duplicate is dropped. -/
def merge_pair (primary duplicate : String) : EStateM PyErr σ (List String) := do
  let s ← get
  let children := stores.list_by_case tenant_id duplicate s
  children.forM fun child => stores.update child.id tenant_id primary
  stores.delete duplicate
  return children.map ChildCase.id

def merge_next (dry_run : Bool) (report : BackfillReport) (pair : String × String) :
    EStateM PyErr σ BackfillReport := do
  let counted := { report with cases_merged := report.cases_merged + 1 }
  if dry_run then return counted
  else
    let moved ← merge_pair stores tenant_id pair.1 pair.2
    return { counted with
      record_to_case := moved.foldl (fun m id => dict.set m id pair.1) counted.record_to_case }

def merge_orphan_cases_by_correlation (facts : OpeningFacts) (dry_run : Bool) :
    EStateM PyErr σ BackfillReport := do
  let s ← get
  (merge_candidates facts (stores.list_by_tenant tenant_id s)).foldlM
    (merge_next stores tenant_id dry_run) {}

end merge

/-! ## The two stores -/

/-- The one field that the merge assigns. -/
def under (case_id : String) : RecordFields := { parent_case_id := some (some case_id) }

def inMemoryMerge (now : String) : MergeStores MemoryStores where
  list_by_tenant tenant_id stores :=
    (stores.cases.cases.map Prod.snd).filter fun case => case.tenant_id = tenant_id
  list_by_case tenant_id case_id stores :=
    ExceptionStore.list_by_case (stores.records.map Prod.snd) tenant_id case_id
  update id tenant_id case_id := do
    let _ ← ExceptionStore.update id tenant_id now (under case_id) {}
  delete case_id := on_cases (CaseStore.delete case_id)
  view stores :=
    ⟨stores.cases.cases, stores.records, stores.cases.correlation,
      fun case_id => (dict.get stores.cases.history case_id).getD []⟩

/-- An order in which the database returns the cases of a tenant: by
`opened_at`, and as it likes where those are equal. -/
structure ByOpening (facts : OpeningFacts) where
  sort : List OrderCase → List OrderCase
  perm : ∀ cases, (sort cases).Perm cases
  ascending : ∀ cases, (sort cases).Pairwise facts.no_later

/-- What the merge meets on a database. -/
structure MergeDatabase (facts : OpeningFacts) where
  config : InheritanceConfig
  others : RowChecks
  rows : CaseDatabase
  cases_order : ByOpening facts
  records_order : ByKey ChildCase.created_at

/-- `list_by_case` on the rows of the table. -/
def on_newest_page (order : ByKey ChildCase.created_at) (rows : List ChildCase)
    (tenant_id case_id : String) : List ChildCase :=
  ((order.sort (rows.filter fun r => r.tenant_id = tenant_id)).take 500).filter fun r =>
    r.parent_case_id = some case_id

def onDatabaseMerge {facts : OpeningFacts} (db : MergeDatabase facts) (now : String) :
    MergeStores Tables where
  list_by_tenant tenant_id tables := db.cases_order.sort
    ((tables.api.cases.map Prod.snd).filter fun case => case.tenant_id = tenant_id)
  list_by_case tenant_id case_id tables :=
    on_newest_page db.records_order (tables.api.records.map Prod.snd) tenant_id case_id
  update id tenant_id case_id := do
    let _ ← transaction (DatabaseBackedStore.update (db.config.checks db.others id (under case_id))
      id tenant_id now (under case_id) {})
  delete case_id := do
    let _ ← transaction (DatabaseBackedCaseStore.delete db.rows case_id)
  view tables :=
    ⟨tables.api.cases, tables.api.records, tables.case_correlation_keys,
      events_of tables.case_classification_history⟩

/-! ## What is lost -/

/-- The two cases are of the tenant and have the same customer order. -/
def SamePo (facts : OpeningFacts) (tenant_id : String) (v : MergeView) (c c' : String) : Prop :=
  ∃ a b, dict.get v.cases c = some a ∧ dict.get v.cases c' = some b ∧
    a.tenant_id = tenant_id ∧ b.tenant_id = tenant_id ∧ (facts.po a).isSome ∧
      facts.po a = facts.po b

/-- A merge of `pairs` took `v` to `v'` and lost nothing: the case of every
record and of every key is there, a key of a merged case leads to its
primary, only cases of one customer order were merged, and no case with a
pending override or a classification is gone. -/
structure LosesNothing (facts : OpeningFacts) (tenant_id : String) (pairs : List (String × String))
    (v v' : MergeView) : Prop where
  parents : ∀ id record c, dict.get v.records id = some record → record.parent_case_id = some c →
    dict.get v.cases c ≠ none → ∃ record' c', dict.get v'.records id = some record' ∧
      record'.parent_case_id = some c' ∧ dict.get v'.cases c' ≠ none
  keys : ∀ k c, dict.get v.correlation k = some c → dict.get v.cases c ≠ none →
    ∃ c', dict.get v'.correlation k = some c' ∧ dict.get v'.cases c' ≠ none ∧
      (dict.get v'.cases c = none → (c', c) ∈ pairs)
  one_po : ∀ c, dict.get v.cases c ≠ none → dict.get v'.cases c = none →
    ∃ p, (p, c) ∈ pairs ∧ dict.get v'.cases p ≠ none ∧ SamePo facts tenant_id v p c
  one_po_records : ∀ id record record', dict.get v.records id = some record →
    dict.get v'.records id = some record' → record'.parent_case_id ≠ record.parent_case_id →
    ∃ p c, record.parent_case_id = some c ∧ record'.parent_case_id = some p ∧
      SamePo facts tenant_id v p c
  decided : ∀ c case, dict.get v.cases c = some case → dict.get v'.cases c = none →
    case.pending_override = none
  unclassified : ∀ c, dict.get v.cases c ≠ none → dict.get v'.cases c = none → v.events c = []

/-- The case has nothing but records of its tenant. -/
structure Bare (tenant_id : String) (v : MergeView) (c : String) : Prop where
  keys : ∀ k, dict.get v.correlation k ≠ some c
  decided : ∀ case, dict.get v.cases c = some case → case.pending_override = none
  unclassified : v.events c = []
  records : ∀ id record, dict.get v.records id = some record → record.parent_case_id = some c →
    record.tenant_id = tenant_id

/-- The rows are those of a store: each is under its own key, once. -/
structure Stored (v : MergeView) : Prop where
  cases_once : Once v.cases
  records_once : Once v.records
  correlation_once : Once v.correlation
  cases_keyed : ∀ c case, dict.get v.cases c = some case → case.case_id = c
  records_keyed : ∀ id record, dict.get v.records id = some record → record.id = id

/-! ## The candidates -/

section candidates

variable {facts : OpeningFacts} {cases : List OrderCase} {p d : String}

/-- The two cases of a pair: two of the group. -/
theorem mem_pairs (hids : (cases.map OrderCase.case_id).Nodup) (h : (p, d) ∈ facts.pairs cases) :
    ∃ a ∈ cases, ∃ b ∈ cases, a.case_id = p ∧ b.case_id = d ∧ p ≠ d := by
  unfold OpeningFacts.pairs at h
  split at h
  · cases h
  · have hperm := List.perm_insertionSort facts.no_later cases
    split at h
    · cases h
    · rename_i primary later hsort
      rw [hsort] at hperm
      obtain ⟨b, hb, hpair⟩ := List.mem_map.mp h
      have hnodup : ((primary :: later).map OrderCase.case_id).Nodup :=
        (hperm.map _).nodup_iff.mpr hids
      have hne : primary.case_id ≠ b.case_id := by
        intro heq
        refine (List.nodup_cons.mp hnodup).1 ?_
        rw [heq]
        exact List.mem_map_of_mem hb
      cases hpair
      exact ⟨primary, hperm.subset List.mem_cons_self, b,
        hperm.subset (List.mem_cons_of_mem _ hb), rfl, rfl, hne⟩

theorem primary_of_pairs {p' d' : String} (h : (p, d) ∈ facts.pairs cases)
    (h' : (p', d') ∈ facts.pairs cases) : p' = p := by
  unfold OpeningFacts.pairs at h h'
  split at h
  · cases h
  · rename_i hlength
    rw [if_neg hlength] at h'
    split at h
    · cases h
    · rename_i primary later hsort
      rw [hsort] at h'
      obtain ⟨b, -, hb⟩ := List.mem_map.mp h
      obtain ⟨b', -, hb'⟩ := List.mem_map.mp h'
      cases hb
      cases hb'
      rfl

theorem mem_merge_candidates (hids : (cases.map OrderCase.case_id).Nodup)
    (h : (p, d) ∈ merge_candidates facts cases) :
    ∃ po a b, (p, d) ∈ facts.pairs (cases.filter fun case => facts.po case = some po) ∧
      a ∈ cases ∧ b ∈ cases ∧ a.case_id = p ∧ b.case_id = d ∧ p ≠ d ∧
      facts.po a = some po ∧ facts.po b = some po := by
  obtain ⟨⟨po, g⟩, hg, hpair⟩ := List.mem_flatMap.mp h
  obtain rfl := mem_group hg
  have hsub : (cases.filter fun case => facts.po case = some po).Sublist cases :=
    List.filter_sublist
  obtain ⟨a, ha, b, hb, hap, hbd, hne⟩ := mem_pairs (hids.sublist (hsub.map _)) hpair
  obtain ⟨ha, hapo⟩ := List.mem_filter.mp ha
  obtain ⟨hb, hbpo⟩ := List.mem_filter.mp hb
  exact ⟨po, a, b, hpair, ha, hb, hap, hbd, hne, of_decide_eq_true hapo, of_decide_eq_true hbpo⟩

theorem primary_is_kept (hids : (cases.map OrderCase.case_id).Nodup)
    (h : (p, d) ∈ merge_candidates facts cases) {p' d' : String}
    (h' : (p', d') ∈ merge_candidates facts cases) : p ≠ d' := by
  obtain ⟨po, a, b, hpair, ha, -, rfl, -, -, hapo, -⟩ := mem_merge_candidates hids h
  obtain ⟨po', a', b', hpair', -, hb', -, rfl, hne', -, hbpo'⟩ := mem_merge_candidates hids h'
  intro heq
  have hsame : a = b' := List.inj_on_of_nodup_map hids ha hb' heq
  subst hsame
  have hpo : po' = po := Option.some.inj (hbpo'.symm.trans hapo)
  subst hpo
  exact hne' (primary_of_pairs hpair hpair')

theorem pairs_once (hids : (cases.map OrderCase.case_id).Nodup) :
    ((facts.pairs cases).map Prod.snd).Nodup := by
  unfold OpeningFacts.pairs
  split
  · exact List.nodup_nil
  · have hperm := List.perm_insertionSort facts.no_later cases
    split
    · exact List.nodup_nil
    · rename_i primary later hsort
      rw [hsort] at hperm
      have hnodup : ((primary :: later).map OrderCase.case_id).Nodup :=
        (hperm.map _).nodup_iff.mpr hids
      rw [List.map_map]
      exact (List.nodup_cons.mp hnodup).2

/-- A case is merged once. -/
theorem duplicates_once (hids : (cases.map OrderCase.case_id).Nodup) :
    ((merge_candidates facts cases).map Prod.snd).Nodup := by
  unfold merge_candidates
  rw [List.map_flatMap, List.nodup_flatMap]
  have hsub : ∀ po, (cases.filter fun case => facts.po case = some po).Sublist cases :=
    fun _ => List.filter_sublist
  constructor
  · rintro ⟨po, g⟩ hg
    obtain rfl := mem_group hg
    exact pairs_once (hids.sublist ((hsub po).map _))
  · have honce : (group facts.po cases).Pairwise fun g g' => g.1 ≠ g'.1 :=
      List.pairwise_map.mp once_group
    refine honce.imp_of_mem ?_
    rintro ⟨po, g⟩ ⟨po', g'⟩ hg hg' hne d hd hd'
    obtain rfl := mem_group hg
    obtain rfl := mem_group hg'
    obtain ⟨⟨p, d⟩, hpair, rfl⟩ := List.mem_map.mp hd
    obtain ⟨⟨p', d'⟩, hpair', hsame⟩ := List.mem_map.mp hd'
    obtain ⟨a, ha, b, hb, -, hbd, -⟩ := mem_pairs (hids.sublist ((hsub po).map _)) hpair
    obtain ⟨a', ha', b', hb', -, hbd', -⟩ := mem_pairs (hids.sublist ((hsub po').map _)) hpair'
    obtain ⟨hb, hbpo⟩ := List.mem_filter.mp hb
    obtain ⟨hb', hbpo'⟩ := List.mem_filter.mp hb'
    have heq : b = b' :=
      List.inj_on_of_nodup_map hids hb hb' (hbd.trans (hsame.symm.trans hbd'.symm))
    subst heq
    exact hne (Option.some.inj ((of_decide_eq_true hbpo).symm.trans (of_decide_eq_true hbpo')))

end candidates

/-! ## One pair -/

/-- Some records of the tenant went from the duplicate to its primary. -/
structure Repointed (tenant_id p d : String) (v v' : MergeView) : Prop where
  stored : Stored v'
  cases : v'.cases = v.cases
  correlation : v'.correlation = v.correlation
  events : v'.events = v.events
  records : ∀ id record, dict.get v.records id = some record →
    ∃ record', dict.get v'.records id = some record' ∧ record'.tenant_id = record.tenant_id ∧
      (record' = record ∨ record.tenant_id = tenant_id ∧ record.parent_case_id = some d ∧
        record'.parent_case_id = some p)
  old : ∀ id record', dict.get v'.records id = some record' →
    ∃ record, dict.get v.records id = some record

/-- All of them did, and the duplicate is gone with its keys. -/
structure Dropped (tenant_id p d : String) (v v' : MergeView) : Prop where
  stored : Stored v'
  moved : ∃ v₁, Repointed tenant_id p d v v₁ ∧ v'.records = v₁.records ∧
    v'.cases = dict.pop v₁.cases d ∧ v'.correlation = detach v₁.correlation d ∧
    v'.events = v₁.events
  left : ∀ id record, dict.get v'.records id = some record → record.tenant_id = tenant_id →
    record.parent_case_id ≠ some d

/-- What the merge asks of its stores. `Passes` says, of the rows before a
pair is merged, that nothing stands in its way. -/
structure Merges {σ : Type} (facts : OpeningFacts) (stores : MergeStores σ) (tenant_id : String)
    (Passes : σ → String → String → Prop) : Prop where
  lists : ∀ s, Stored (stores.view s) →
    ((stores.list_by_tenant tenant_id s).map OrderCase.case_id).Nodup ∧
      ∀ case ∈ stores.list_by_tenant tenant_id s, case.tenant_id = tenant_id ∧
        dict.get (stores.view s).cases case.case_id = some case
  pair : ∀ s p d, Stored (stores.view s) → SamePo facts tenant_id (stores.view s) p d → p ≠ d →
    wp (merge_pair stores tenant_id p d)
      (fun _ s' => Passes s p d ∧ Dropped tenant_id p d (stores.view s) (stores.view s'))
      (fun _ s' => ¬ Passes s p d ∧ Repointed tenant_id p d (stores.view s) (stores.view s')) s

/-! ## Any number of pairs -/

/-- What a merge has done so far, when it has dropped the cases `gone`. -/
structure Joined (tenant_id : String) (pairs : List (String × String)) (gone : List String)
    (v v' : MergeView) : Prop where
  stored : Stored v'
  cases : ∀ c, dict.get v'.cases c = if c ∈ gone then none else dict.get v.cases c
  correlation : ∀ k c, dict.get v'.correlation k = some c ↔
    dict.get v.correlation k = some c ∧ c ∉ gone
  events : v'.events = v.events
  records : ∀ id record, dict.get v.records id = some record →
    ∃ record', dict.get v'.records id = some record' ∧ record'.tenant_id = record.tenant_id ∧
      (record' = record ∨ record.tenant_id = tenant_id ∧ ∃ p d, (p, d) ∈ pairs ∧
        record.parent_case_id = some d ∧ record'.parent_case_id = some p)
  left : ∀ id record, dict.get v'.records id = some record → record.tenant_id = tenant_id →
    ∀ d ∈ gone, record.parent_case_id ≠ some d
  named : ∀ d ∈ gone, ∃ p, (p, d) ∈ pairs

section joined

variable {tenant_id p d : String} {pairs : List (String × String)} {gone : List String}
  {v₀ v v' : MergeView}

theorem Joined.refl (h : Stored v) : Joined tenant_id pairs [] v v where
  stored := h
  cases c := by simp
  correlation k c := by simp
  events := rfl
  records id record hget := ⟨record, hget, rfl, Or.inl rfl⟩
  left id record _ _ d hd := by cases hd
  named d hd := by cases hd

/-- A record that was moved is under a primary, which no pair moves on. -/
theorem Joined.repointed (hapart : ∀ p d, (p, d) ∈ pairs → ∀ p' d', (p', d') ∈ pairs → p ≠ d')
    (hpair : (p, d) ∈ pairs) (h : Joined tenant_id pairs gone v₀ v)
    (hmove : Repointed tenant_id p d v v') : Joined tenant_id pairs gone v₀ v' where
  stored := hmove.stored
  cases c := by rw [hmove.cases, h.cases]
  correlation k c := by rw [hmove.correlation, h.correlation]
  events := hmove.events.trans h.events
  records id record hget := by
    obtain ⟨r, hr, htenant, hsame | ⟨hmine, p₁, d₁, hpair₁, hold, hnew⟩⟩ := h.records id record hget
    · subst hsame
      obtain ⟨r', hr', htenant', hsame | ⟨hmine, hold, hnew⟩⟩ := hmove.records id r hr
      · exact ⟨r', hr', htenant', Or.inl hsame⟩
      · exact ⟨r', hr', htenant', Or.inr ⟨hmine, p, d, hpair, hold, hnew⟩⟩
    · obtain ⟨r', hr', htenant', hsame | ⟨-, hold', -⟩⟩ := hmove.records id r hr
      · subst hsame
        exact ⟨r', hr', htenant, Or.inr ⟨hmine, p₁, d₁, hpair₁, hold, hnew⟩⟩
      · have hsame : p₁ = d := Option.some.inj (hnew.symm.trans hold')
        exact absurd hsame (hapart _ _ hpair₁ _ _ hpair)
  left id r' hr' htenant d' hd' := by
    obtain ⟨r, hr⟩ := hmove.old id r' hr'
    obtain ⟨r'', hr'', htenant', hsame | ⟨-, -, hnew⟩⟩ := hmove.records id r hr
    · cases hr'.symm.trans hr''
      subst hsame
      exact h.left id r' hr htenant d' hd'
    · cases hr'.symm.trans hr''
      intro hparent
      obtain ⟨p₁, hpair₁⟩ := h.named d' hd'
      have hsame : p = d' := Option.some.inj (hnew.symm.trans hparent)
      exact absurd hsame (hapart _ _ hpair _ _ hpair₁)
  named := h.named

theorem Joined.dropped (hapart : ∀ p d, (p, d) ∈ pairs → ∀ p' d', (p', d') ∈ pairs → p ≠ d')
    (hpair : (p, d) ∈ pairs) (h : Joined tenant_id pairs gone v₀ v)
    (hdrop : Dropped tenant_id p d v v') : Joined tenant_id pairs (d :: gone) v₀ v' := by
  obtain ⟨v₁, hmove, hrecords, hcases, hcorrelation, hevents⟩ := hdrop.moved
  have h₁ := h.repointed hapart hpair hmove
  refine ⟨hdrop.stored, ?_, ?_, hevents.trans h₁.events, ?_, ?_, ?_⟩
  · intro c
    rw [hcases]
    by_cases hc : c = d
    · subst hc
      simp
    · rw [dict.get_pop_of_ne _ hc, h₁.cases]
      simp [hc]
  · intro k c
    rw [hcorrelation, detach, h₁.stored.correlation_once.get_filter, h₁.correlation, List.mem_cons,
      not_or]
    simp only [Bool.not_eq_true', decide_eq_false_iff_not]
    constructor
    · rintro ⟨⟨hget, hgone⟩, hne⟩
      exact ⟨hget, hne, hgone⟩
    · rintro ⟨hget, hne, hgone⟩
      exact ⟨⟨hget, hgone⟩, hne⟩
  · rw [hrecords]
    exact h₁.records
  · intro id r hr htenant d' hd'
    rcases List.mem_cons.mp hd' with rfl | hd'
    · exact hdrop.left id r hr htenant
    · rw [hrecords] at hr
      exact h₁.left id r hr htenant d' hd'
  · intro d' hd'
    rcases List.mem_cons.mp hd' with rfl | hd'
    · exact ⟨p, hpair⟩
    · exact h.named d' hd'

variable {facts : OpeningFacts}

theorem Joined.get_kept (h : Joined tenant_id pairs gone v₀ v) {c : String} (hc : c ∉ gone) :
    dict.get v.cases c = dict.get v₀.cases c := by
  rw [h.cases, if_neg hc]

theorem Joined.get_gone (h : Joined tenant_id pairs gone v₀ v) {c : String} (hc : c ∈ gone) :
    dict.get v.cases c = none := by
  rw [h.cases, if_pos hc]

theorem Joined.mem_gone (h : Joined tenant_id pairs gone v₀ v) {c : String}
    (hthere : dict.get v₀.cases c ≠ none) (hnot : dict.get v.cases c = none) : c ∈ gone := by
  by_contra hc
  rw [h.get_kept hc] at hnot
  exact hthere hnot

theorem SamePo.cases_there (h : SamePo facts tenant_id v p d) :
    dict.get v.cases p ≠ none ∧ dict.get v.cases d ≠ none := by
  obtain ⟨a, b, ha, hb, -⟩ := h
  rw [ha, hb]
  exact ⟨Option.some_ne_none a, Option.some_ne_none b⟩

theorem Joined.samePo (hapart : ∀ p d, (p, d) ∈ pairs → ∀ p' d', (p', d') ∈ pairs → p ≠ d')
    (hpair : (p, d) ∈ pairs) (h : Joined tenant_id pairs gone v₀ v) (hd : d ∉ gone)
    (hpo : SamePo facts tenant_id v₀ p d) : SamePo facts tenant_id v p d := by
  have hp : p ∉ gone := by
    intro hgone
    obtain ⟨p', hpair'⟩ := h.named p hgone
    exact hapart _ _ hpair _ _ hpair' rfl
  unfold SamePo
  rw [h.get_kept hp, h.get_kept hd]
  exact hpo

/-- A merge that lost nothing dropped cases only that had nothing to lose. -/
theorem LosesNothing.bare (hpo : ∀ p d, (p, d) ∈ pairs → SamePo facts tenant_id v₀ p d)
    (h : Joined tenant_id pairs gone v₀ v) (hkept : LosesNothing facts tenant_id pairs v₀ v)
    (hd : d ∈ gone) : Bare tenant_id v₀ d := by
  obtain ⟨p, hpair⟩ := h.named d hd
  have hthere := (hpo p d hpair).cases_there.2
  refine ⟨?_, ?_, ?_, ?_⟩
  · intro k hk
    obtain ⟨c', hc', hcase, hmerged⟩ := hkept.keys k d hk hthere
    obtain ⟨hsame, hnot⟩ := (h.correlation k c').mp hc'
    cases hk.symm.trans hsame
    exact hnot hd
  · intro case hcase
    exact hkept.decided d case hcase (h.get_gone hd)
  · exact hkept.unclassified d hthere (h.get_gone hd)
  · intro id r hr hparent
    obtain ⟨r', c', hr', hc', hcase⟩ := hkept.parents id r d hr hparent hthere
    obtain ⟨r'', hr'', -, hsame | ⟨hmine, -⟩⟩ := h.records id r hr
    · cases hr'.symm.trans hr''
      subst hsame
      cases hparent.symm.trans hc'
      exact absurd (h.get_gone hd) hcase
    · exact hmine

/-- Cases that had nothing to lose can be dropped. -/
theorem losesNothing_of_bare (hapart : ∀ p d, (p, d) ∈ pairs → ∀ p' d', (p', d') ∈ pairs → p ≠ d')
    (hpo : ∀ p d, (p, d) ∈ pairs → SamePo facts tenant_id v₀ p d)
    (h : Joined tenant_id pairs gone v₀ v) (hbare : ∀ d ∈ gone, Bare tenant_id v₀ d) :
    LosesNothing facts tenant_id pairs v₀ v := by
  have hprimary : ∀ p d, (p, d) ∈ pairs → dict.get v.cases p ≠ none := by
    intro p d hpair
    rw [h.get_kept]
    · exact (hpo p d hpair).cases_there.1
    · intro hgone
      obtain ⟨p', hpair'⟩ := h.named p hgone
      exact hapart _ _ hpair _ _ hpair' rfl
  refine ⟨?_, ?_, ?_, ?_, ?_, ?_⟩
  · intro id r c hr hparent hthere
    obtain ⟨r', hr', htenant, hsame | ⟨-, p, d, hpair, -, hnew⟩⟩ := h.records id r hr
    · subst hsame
      refine ⟨r', c, hr', hparent, ?_⟩
      intro hnot
      have hgone := h.mem_gone hthere hnot
      exact h.left id r' hr' ((hbare c hgone).records id r' hr hparent) c hgone hparent
    · exact ⟨r', p, hr', hnew, hprimary p d hpair⟩
  · intro k c hk hthere
    have hc : c ∉ gone := fun hgone => (hbare c hgone).keys k hk
    refine ⟨c, (h.correlation k c).mpr ⟨hk, hc⟩, ?_, ?_⟩
    · rwa [h.get_kept hc]
    · intro hnot
      exact absurd (h.mem_gone hthere hnot) hc
  · intro c hthere hnot
    obtain ⟨p, hpair⟩ := h.named c (h.mem_gone hthere hnot)
    exact ⟨p, hpair, hprimary p c hpair, hpo p c hpair⟩
  · intro id r r' hr hr' hne
    obtain ⟨r'', hr'', -, hsame | ⟨-, p, d, hpair, hold, hnew⟩⟩ := h.records id r hr
    · cases hr'.symm.trans hr''
      rw [hsame] at hne
      exact absurd rfl hne
    · cases hr'.symm.trans hr''
      exact ⟨p, d, hold, hnew, hpo p d hpair⟩
  · intro c case hcase hnot
    have hthere : dict.get v₀.cases c ≠ none := by
      rw [hcase]
      exact Option.some_ne_none case
    exact (hbare c (h.mem_gone hthere hnot)).decided case hcase
  · intro c hthere hnot
    exact (hbare c (h.mem_gone hthere hnot)).unclassified

end joined

/-! ## The whole merge -/

section whole

variable {σ : Type} {stores : MergeStores σ} {tenant_id : String}
  {Passes : σ → String → String → Prop} {facts : OpeningFacts} {v₀ : MergeView}

/-- The case is dropped: nothing stands in the way of its pair, nor of those
before it. -/
def Drops (stores : MergeStores σ) (tenant_id : String) (Passes : σ → String → String → Prop) :
    σ → List (String × String) → String → Prop
  | _, [], _ => False
  | s, (p, d') :: pairs, d => Passes s p d' ∧ (d = d' ∨
      Drops stores tenant_id Passes (endState (merge_pair stores tenant_id p d' s)) pairs d)

/-- The merge of the remaining pairs, from where the merge is. -/
theorem merge_rest (hmerges : Merges facts stores tenant_id Passes) {pairs : List (String × String)}
    (hapart : ∀ p d, (p, d) ∈ pairs → ∀ p' d', (p', d') ∈ pairs → p ≠ d')
    (hpo : ∀ p d, (p, d) ∈ pairs → SamePo facts tenant_id v₀ p d)
    (rest : List (String × String)) (hrest : ∀ pair ∈ rest, pair ∈ pairs)
    (honce : (rest.map Prod.snd).Nodup) (gone : List String)
    (hfresh : ∀ pair ∈ rest, pair.2 ∉ gone)
    (report : BackfillReport) (s : σ) (h : Joined tenant_id pairs gone v₀ (stores.view s)) :
    ∃ gone', Joined tenant_id pairs gone' v₀ (stores.view
        (endState (rest.foldlM (merge_next stores tenant_id false) report s))) ∧
      ∀ d, d ∈ gone' ↔ d ∈ gone ∨ Drops stores tenant_id Passes s rest d := by
  induction rest generalizing gone report s with
  | nil =>
    refine ⟨gone, h, ?_⟩
    intro d
    simp [Drops]
  | cons pair rest ih =>
    obtain ⟨p, d⟩ := pair
    have hpair : (p, d) ∈ pairs := hrest _ List.mem_cons_self
    obtain ⟨hnot, honce⟩ := List.nodup_cons.mp honce
    have hsame : SamePo facts tenant_id (stores.view s) p d :=
      h.samePo hapart hpair (hfresh _ List.mem_cons_self) (hpo p d hpair)
    have hstep := hmerges.pair s p d h.stored hsame (hapart _ _ hpair _ _ hpair)
    rw [List.foldlM_cons, run_bind]
    rcases hrun : merge_pair stores tenant_id p d s with ⟨ids, s'⟩ | ⟨e, s'⟩
    · obtain ⟨hpasses, hdropped⟩ := wp_ok hstep hrun
      have hnext : ∃ report', merge_next stores tenant_id false report (p, d) s =
          .ok report' s' := by
        unfold merge_next
        rw [if_neg (by decide), run_bind, hrun]
        exact ⟨_, rfl⟩
      obtain ⟨report', hnext⟩ := hnext
      rw [hnext]
      have hfresh' : ∀ pair ∈ rest, pair.2 ∉ d :: gone := by
        intro x hx hmem
        rcases List.mem_cons.mp hmem with heq | hmem
        · exact hnot (List.mem_map.mpr ⟨x, hx, heq⟩)
        · exact hfresh x (List.mem_cons_of_mem _ hx) hmem
      obtain ⟨gone', hjoined, hgone'⟩ := ih (fun x hx => hrest x (List.mem_cons_of_mem _ hx)) honce
        (d :: gone) hfresh' report' s' (h.dropped hapart hpair hdropped)
      refine ⟨gone', hjoined, ?_⟩
      intro c
      rw [hgone', Drops, hrun, List.mem_cons]
      simp only [endState, hpasses, true_and]
      constructor
      · rintro ((hc | hc) | hc)
        · exact Or.inr (Or.inl hc)
        · exact Or.inl hc
        · exact Or.inr (Or.inr hc)
      · rintro (hc | hc | hc)
        · exact Or.inl (Or.inr hc)
        · exact Or.inl (Or.inl hc)
        · exact Or.inr hc
    · obtain ⟨hblocked, hmove⟩ := wp_error hstep hrun
      have hnext : merge_next stores tenant_id false report (p, d) s = .error e s' := by
        unfold merge_next
        rw [if_neg (by decide), run_bind, hrun]
      rw [hnext]
      refine ⟨gone, h.repointed hapart hpair hmove, ?_⟩
      intro c
      simp [Drops, hblocked]

theorem Merges.candidates (hmerges : Merges facts stores tenant_id Passes) {s : σ}
    (hs : Stored (stores.view s)) :
    ((merge_candidates facts (stores.list_by_tenant tenant_id s)).map Prod.snd).Nodup ∧
    (∀ p d, (p, d) ∈ merge_candidates facts (stores.list_by_tenant tenant_id s) →
      SamePo facts tenant_id (stores.view s) p d) ∧
    ∀ p d, (p, d) ∈ merge_candidates facts (stores.list_by_tenant tenant_id s) →
      ∀ p' d', (p', d') ∈ merge_candidates facts (stores.list_by_tenant tenant_id s) → p ≠ d' := by
  obtain ⟨hids, hcases⟩ := hmerges.lists s hs
  refine ⟨duplicates_once hids, ?_, fun p d h p' d' h' => primary_is_kept hids h h'⟩
  intro p d h
  obtain ⟨po, a, b, -, ha, hb, rfl, rfl, -, hapo, hbpo⟩ := mem_merge_candidates hids h
  obtain ⟨hatenant, haget⟩ := hcases a ha
  obtain ⟨hbtenant, hbget⟩ := hcases b hb
  refine ⟨a, b, haget, hbget, hatenant, hbtenant, ?_, hapo.trans hbpo.symm⟩
  rw [hapo]
  rfl

/-- A merge loses nothing exactly when the cases that it drops are bare. -/
theorem Merges.loses_nothing_iff (hmerges : Merges facts stores tenant_id Passes) {s : σ}
    (hs : Stored (stores.view s)) :
    LosesNothing facts tenant_id (merge_candidates facts (stores.list_by_tenant tenant_id s))
        (stores.view s) (stores.view
          (endState (merge_orphan_cases_by_correlation stores tenant_id facts false s))) ↔
      ∀ d, Drops stores tenant_id Passes s
        (merge_candidates facts (stores.list_by_tenant tenant_id s)) d →
          Bare tenant_id (stores.view s) d := by
  obtain ⟨honce, hpo, hapart⟩ := hmerges.candidates hs
  obtain ⟨gone, hjoined, hgone⟩ := merge_rest hmerges hapart hpo _ (fun _ h => h) honce []
    (fun _ _ hnil => by cases hnil) {} s (Joined.refl hs)
  constructor
  · intro hkept d hd
    exact hkept.bare hpo hjoined ((hgone d).mpr (Or.inr hd))
  · intro hbare
    refine losesNothing_of_bare hapart hpo hjoined ?_
    intro d hd
    rcases (hgone d).mp hd with hnil | hd
    · cases hnil
    · exact hbare d hd

theorem dry_run_changes_nothing (s : σ) :
    ∃ report, merge_orphan_cases_by_correlation stores tenant_id facts true s = .ok report s := by
  have hfold : ∀ (pairs : List (String × String)) (report : BackfillReport),
      ∃ report', pairs.foldlM (merge_next stores tenant_id true) report s = .ok report' s := by
    intro pairs
    induction pairs with
    | nil =>
      intro report
      exact ⟨report, rfl⟩
    | cons pair pairs ih =>
      intro report
      exact ih { report with cases_merged := report.cases_merged + 1 }
  exact hfold _ {}

end whole

end asoe
