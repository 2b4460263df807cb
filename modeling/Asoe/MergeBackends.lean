-- The merge of cases in the two stores. In memory every duplicate goes; on
-- the database the foreign keys keep a case that a row still leads to, so
-- that a record which the listing missed or a classification stops the merge.
import Asoe.CaseMerges

namespace asoe

open py prog runs keyindex paging grouping

/-! ## The children of one pair -/

/-- The record under its new parent. -/
def repointed (now p : String) (record : ChildCase) : ChildCase := (under p).apply now record

def MergeView.put (v : MergeView) (id : String) (record : ChildCase) : MergeView :=
  { v with records := dict.set v.records id record }

section children

variable {now tenant_id p d : String} {v v₁ v₂ : MergeView}

theorem Repointed.refl (h : Stored v) : Repointed tenant_id p d v v :=
  ⟨h, rfl, rfl, rfl, fun _ record hr => ⟨record, hr, rfl, Or.inl rfl⟩,
    fun _ record hr => ⟨record, hr⟩⟩

theorem Repointed.trans (hne : p ≠ d) (h : Repointed tenant_id p d v v₁)
    (h' : Repointed tenant_id p d v₁ v₂) : Repointed tenant_id p d v v₂ where
  stored := h'.stored
  cases := h'.cases.trans h.cases
  correlation := h'.correlation.trans h.correlation
  events := h'.events.trans h.events
  records id record hr := by
    obtain ⟨r₁, hr₁, htenant, hold⟩ := h.records id record hr
    obtain ⟨r₂, hr₂, htenant', hnew⟩ := h'.records id r₁ hr₁
    refine ⟨r₂, hr₂, htenant'.trans htenant, ?_⟩
    rcases hold with rfl | ⟨hmine, hparent, hmoved⟩
    · exact hnew
    · rcases hnew with rfl | ⟨-, hparent', -⟩
      · exact Or.inr ⟨hmine, hparent, hmoved⟩
      · exact absurd (Option.some.inj (hmoved.symm.trans hparent')) hne
  old id record hr := by
    obtain ⟨r₁, hr₁⟩ := h'.old id record hr
    exact h.old id r₁ hr₁

theorem Repointed.one (now p : String) (hv : Stored v) {record : ChildCase}
    (hget : dict.get v.records record.id = some record) (hmine : record.tenant_id = tenant_id)
    (hparent : record.parent_case_id = some d) :
    Repointed tenant_id p d v (v.put record.id (repointed now p record)) where
  stored := by
    refine ⟨hv.cases_once, hv.records_once.set _ _, hv.correlation_once, hv.cases_keyed, ?_⟩
    intro id r hr
    by_cases hid : id = record.id
    · subst hid
      rw [MergeView.put, dict.get_set_self] at hr
      cases hr
      rfl
    · rw [MergeView.put, dict.get_set_of_ne _ _ hid] at hr
      exact hv.records_keyed id r hr
  cases := rfl
  correlation := rfl
  events := rfl
  records id r hr := by
    by_cases hid : id = record.id
    · subst hid
      cases hget.symm.trans hr
      exact ⟨_, dict.get_set_self _ _ _, rfl, Or.inr ⟨hmine, hparent, rfl⟩⟩
    · exact ⟨r, (dict.get_set_of_ne _ _ hid).trans hr, rfl, Or.inl rfl⟩
  old id r hr := by
    by_cases hid : id = record.id
    · exact ⟨record, by rw [hid]; exact hget⟩
    · exact ⟨r, (dict.get_set_of_ne _ _ hid).symm.trans hr⟩

end children

/-- How a store puts one record of its rows under another case. `Takes` says
that it does so, `after` is where that leads. -/
structure Repoints {σ : Type} (stores : MergeStores σ) (tenant_id now p : String)
    (Takes : σ → ChildCase → Prop) (after : σ → ChildCase → σ) : Prop where
  takes : ∀ s child, dict.get (stores.view s).records child.id = some child →
    child.tenant_id = tenant_id → Takes s child →
      stores.update child.id tenant_id p s = .ok () (after s child)
  refuses : ∀ s child, dict.get (stores.view s).records child.id = some child →
    child.tenant_id = tenant_id → ¬ Takes s child →
      ∃ e, stores.update child.id tenant_id p s = .error e s
  view_after : ∀ s child,
    stores.view (after s child) = (stores.view s).put child.id (repointed now p child)

/-- Each child is taken where it is moved. -/
def TakesAll {σ : Type} (Takes : σ → ChildCase → Prop) (after : σ → ChildCase → σ) :
    σ → List ChildCase → Prop
  | _, [] => True
  | s, child :: children => Takes s child ∧ TakesAll Takes after (after s child) children

theorem takesAll_true {σ : Type} (after : σ → ChildCase → σ) (s : σ) (children : List ChildCase) :
    TakesAll (fun _ _ => True) after s children := by
  induction children generalizing s with
  | nil => exact trivial
  | cons child children ih => exact ⟨trivial, ih (after s child)⟩

section repoints

variable {σ : Type} {stores : MergeStores σ} {now tenant_id p d : String}
  {Takes : σ → ChildCase → Prop} {after : σ → ChildCase → σ}

theorem Repoints.get_after (hrepoints : Repoints stores tenant_id now p Takes after) (s : σ)
    {child : ChildCase} {id : String} (hid : id ≠ child.id) :
    dict.get (stores.view (after s child)).records id = dict.get (stores.view s).records id := by
  rw [hrepoints.view_after, MergeView.put, dict.get_set_of_ne _ _ hid]

/-- The children of a listing, moved one after the other. -/
theorem Repoints.children (hrepoints : Repoints stores tenant_id now p Takes after) (hne : p ≠ d)
    (children : List ChildCase) (hids : (children.map ChildCase.id).Nodup) (s : σ)
    (hs : Stored (stores.view s))
    (hlisted : ∀ child ∈ children, dict.get (stores.view s).records child.id = some child ∧
      child.tenant_id = tenant_id ∧ child.parent_case_id = some d) :
    wp (children.forM fun child => stores.update child.id tenant_id p)
      (fun _ s' => TakesAll Takes after s children ∧ s' = children.foldl after s ∧
        Repointed tenant_id p d (stores.view s) (stores.view s') ∧
        ∀ child ∈ children, dict.get (stores.view s').records child.id =
          some (repointed now p child))
      (fun _ s' => ¬ TakesAll Takes after s children ∧
        Repointed tenant_id p d (stores.view s) (stores.view s')) s := by
  induction children generalizing s with
  | nil =>
    refine ⟨trivial, rfl, Repointed.refl hs, ?_⟩
    intro child hchild
    cases hchild
  | cons child children ih =>
    obtain ⟨hget, hmine, hparent⟩ := hlisted child List.mem_cons_self
    obtain ⟨hnot, hids⟩ := List.nodup_cons.mp hids
    have hother : ∀ c ∈ children, c.id ≠ child.id := by
      intro c hc hid
      exact hnot (List.mem_map.mpr ⟨c, hc, hid⟩)
    have hone := Repointed.one now p hs hget hmine hparent
    rw [← hrepoints.view_after] at hone
    change wp (stores.update child.id tenant_id p >>= fun _ =>
      children.forM fun child => stores.update child.id tenant_id p) _ _ s
    rw [wp_bind]
    by_cases htakes : Takes s child
    · refine wp_of_ok (hrepoints.takes s child hget hmine htakes) ?_
      have hrest := ih hids (after s child) hone.stored (by
        intro c hc
        rw [hrepoints.get_after s (hother c hc)]
        exact hlisted c (List.mem_cons_of_mem _ hc))
      refine wp_mono hrest ?_ ?_
      · rintro _ s' ⟨htakesAll, hs', hmoved, hlast⟩
        refine ⟨⟨htakes, htakesAll⟩, hs', hone.trans hne hmoved, ?_⟩
        intro c hc
        rcases List.mem_cons.mp hc with rfl | hc
        · -- The first child is not touched again.
          have hfirst : dict.get (stores.view (after s c)).records c.id =
              some (repointed now p c) := by
            rw [hrepoints.view_after, MergeView.put, dict.get_set_self]
          obtain ⟨r, hr, -, hsame | ⟨-, hagain, -⟩⟩ := hmoved.records c.id _ hfirst
          · rw [hr, hsame]
          · exact absurd (Option.some.inj hagain) hne
        · exact hlast c hc
      · rintro _ s' ⟨hrefused, hmoved⟩
        exact ⟨fun h => hrefused h.2, hone.trans hne hmoved⟩
    · obtain ⟨e, he⟩ := hrepoints.refuses s child hget hmine htakes
      unfold wp
      rw [he]
      exact ⟨fun h => htakes h.1, Repointed.refl hs⟩

end repoints

/-! ## What one update does -/

section updates

variable {now tenant_id p : String} {child : ChildCase}

theorem under_not_moves (p : String) (record : ChildCase) : ¬ (under p).MovesSupergroup record := by
  unfold RecordFields.MovesSupergroup under
  simp

theorem under_not_reclassifies (p : String) (record : ChildCase) :
    ¬ (under p).Reclassifies record := by
  unfold RecordFields.Reclassifies
  rintro (h | h)
  · exact under_not_moves p record h
  · simp [under] at h

theorem under_validate (store id : String) (author : Attribution) (record : ChildCase) :
    (under p).validate store id author record = .ok () := by
  unfold RecordFields.validate
  rw [if_neg (fun h => under_not_moves p record h.1),
    if_neg (fun h => under_not_reclassifies p record h.1)]

theorem under_noted (record : ChildCase) : (under p).noted_under now record = none := by
  unfold RecordFields.noted_under
  rw [if_neg (under_not_reclassifies p record)]

theorem of_tenant_listed (rows : List (String × ChildCase))
    (hget : dict.get rows child.id = some child) (hmine : child.tenant_id = tenant_id) :
    of_tenant tenant_id (dict.get rows child.id) = some child := by
  rw [hget]
  simp [of_tenant, hmine]

theorem Stored.children {v : MergeView} (h : Stored v) {child : ChildCase}
    (hmem : child ∈ v.records.map Prod.snd) : dict.get v.records child.id = some child := by
  obtain ⟨x, hx, rfl⟩ := List.mem_map.mp hmem
  have hget := h.records_once.get_of_mem hx
  rw [h.records_keyed x.1 x.2 hget]
  exact hget

theorem Stored.record_ids {v : MergeView} (h : Stored v) :
    ((v.records.map Prod.snd).map ChildCase.id).Nodup := by
  have hids : (v.records.map Prod.snd).map ChildCase.id = v.records.map Prod.fst := by
    rw [List.map_map]
    refine List.map_congr_left ?_
    intro x hx
    exact h.records_keyed x.1 x.2 (h.records_once.get_of_mem hx)
  rw [hids]
  exact h.records_once

end updates

/-- The duplicate is dropped once its records are gone. -/
theorem Repointed.drop {tenant_id p d : String} {v v₁ v' : MergeView}
    (h : Repointed tenant_id p d v v₁) (hrecords : v'.records = v₁.records)
    (hcases : v'.cases = dict.pop v₁.cases d)
    (hcorrelation : v'.correlation = detach v₁.correlation d) (hevents : v'.events = v₁.events)
    (hleft : ∀ id record, dict.get v₁.records id = some record → record.tenant_id = tenant_id →
      record.parent_case_id ≠ some d) : Dropped tenant_id p d v v' where
  stored := by
    refine ⟨?_, ?_, ?_, ?_, ?_⟩
    · rw [hcases]
      exact h.stored.cases_once.filter _
    · rw [hrecords]
      exact h.stored.records_once
    · rw [hcorrelation]
      exact h.stored.correlation_once.filter _
    · intro c case hcase
      rw [hcases, dict.pop, h.stored.cases_once.get_filter] at hcase
      exact h.stored.cases_keyed c case hcase.1
    · rw [hrecords]
      exact h.stored.records_keyed
  moved := ⟨v₁, h, hrecords, hcases, hcorrelation, hevents⟩
  left := by
    rw [hrecords]
    exact hleft

/-! ## In memory -/

/-- A dict with its rows under their own keys lists each case of a tenant
once. -/
theorem Stored.listed {v : MergeView} (h : Stored v) (tenant_id : String) :
    (((v.cases.map Prod.snd).filter fun case => case.tenant_id = tenant_id).map
        OrderCase.case_id).Nodup ∧
      ∀ case ∈ (v.cases.map Prod.snd).filter fun case => case.tenant_id = tenant_id,
        case.tenant_id = tenant_id ∧ dict.get v.cases case.case_id = some case := by
  have hkeyed : ∀ x ∈ v.cases, x.2.case_id = x.1 := by
    intro x hx
    exact h.cases_keyed x.1 x.2 (h.cases_once.get_of_mem hx)
  constructor
  · have hsub : ((v.cases.map Prod.snd).filter fun case => case.tenant_id = tenant_id).Sublist
        (v.cases.map Prod.snd) := List.filter_sublist
    refine List.Nodup.sublist (hsub.map _) ?_
    have hids : (v.cases.map Prod.snd).map OrderCase.case_id = v.cases.map Prod.fst := by
      rw [List.map_map]
      exact List.map_congr_left hkeyed
    rw [hids]
    exact h.cases_once
  · intro case hcase
    obtain ⟨hmem, htenant⟩ := List.mem_filter.mp hcase
    obtain ⟨x, hx, rfl⟩ := List.mem_map.mp hmem
    refine ⟨of_decide_eq_true htenant, ?_⟩
    rw [hkeyed x hx]
    exact h.cases_once.get_of_mem hx

section memory

variable {now tenant_id : String} {facts : OpeningFacts}

theorem memory_repoints (now tenant_id p : String) : Repoints (inMemoryMerge now) tenant_id now p
    (fun _ _ => True)
    (fun stores child => { stores with
      records := dict.set stores.records child.id (repointed now p child) }) where
  takes stores child hget hmine _ := by
    have hlisted := of_tenant_listed stores.records hget hmine
    show (do let _ ← ExceptionStore.update child.id tenant_id now (under p) {}) stores = _
    rw [run_bind]
    unfold ExceptionStore.update
    rw [run_bind, run_get]
    simp only [hlisted, under_validate, under_noted]
    rfl
  refuses stores child _ _ hnot := absurd trivial hnot
  view_after stores child := rfl

/-- In memory nothing stands in the way of a pair. -/
theorem memory_merges : Merges facts (inMemoryMerge now) tenant_id (fun _ _ _ => True) where
  lists stores hs := hs.listed tenant_id
  pair stores p d hs _ hne := by
    have hchildren := (memory_repoints now tenant_id p).children hne
      (ExceptionStore.list_by_case (stores.records.map Prod.snd) tenant_id d)
      (by
        have hsub : (ExceptionStore.list_by_case (stores.records.map Prod.snd) tenant_id d).Sublist
            (stores.records.map Prod.snd) := List.filter_sublist
        exact hs.record_ids.sublist (hsub.map _))
      stores hs (by
        intro child hchild
        obtain ⟨hmem, hchild⟩ := List.mem_filter.mp hchild
        obtain ⟨hmine, hparent⟩ := of_decide_eq_true hchild
        exact ⟨hs.children hmem, hmine, hparent⟩)
    unfold merge_pair
    rw [wp_bind, wp_get]
    dsimp only
    rw [wp_bind]
    refine wp_mono hchildren ?_ ?_
    · rintro _ stores' ⟨-, -, hmoved, hlast⟩
      refine ⟨trivial, hmoved.drop rfl rfl rfl rfl ?_⟩
      intro id record hrecord hmine
      obtain ⟨old, hold⟩ := hmoved.old id record hrecord
      obtain ⟨record', hrecord', -, hsame | ⟨-, -, hparent⟩⟩ := hmoved.records id old hold
      · cases hrecord.symm.trans hrecord'
        subst hsame
        intro hparent
        -- The listing has every child, so this one was moved.
        have hmem : record ∈
            ExceptionStore.list_by_case (stores.records.map Prod.snd) tenant_id d :=
          List.mem_filter.mpr ⟨List.mem_map.mpr ⟨(id, record), dict.mem_of_get hold, rfl⟩,
            decide_eq_true ⟨hmine, hparent⟩⟩
        have hmoved' := hlast record hmem
        rw [hs.records_keyed id record hold, hrecord] at hmoved'
        have hp : record.parent_case_id = some p :=
          congrArg ChildCase.parent_case_id (Option.some.inj hmoved')
        exact hne (Option.some.inj (hp.symm.trans hparent))
      · cases hrecord.symm.trans hrecord'
        rw [hparent]
        exact fun h => hne (Option.some.inj h)
    · rintro e stores' ⟨hrefused, -⟩
      exact absurd (takesAll_true _ _ _) hrefused

end memory

/-! ## On the database -/

/-- No foreign key leads to the case: it has no record, no classification and
no key of another tenant. -/
structure Unreferenced (rows : CaseDatabase) (tenant_id d : String) (tables : Tables) : Prop where
  correlation : ∀ x ∈ tables.case_correlation_keys, x.2 = d → x.1.1 = tenant_id
  records : ∀ x ∈ tables.api.records, x.2.parent_case_id ≠ some d
  history : ∀ row ∈ tables.case_classification_history, row.case_id ≠ d
  others : rows.referenced tables d = false

namespace MergeDatabase

variable {facts : OpeningFacts} (db : MergeDatabase facts) (now tenant_id p d : String)

/-- The constraints let the record go under its new parent. -/
def Takes (tables : Tables) (child : ChildCase) : Prop :=
  (db.config.checks db.others child.id (under p)).record_row tables (repointed now p child) = none

def after (tables : Tables) (child : ChildCase) : Tables :=
  { tables with api := { tables.api with
      records := dict.set tables.api.records child.id (repointed now p child) } }

/-- The children that the merge finds. -/
def found (tables : Tables) : List ChildCase :=
  on_newest_page db.records_order (tables.api.records.map Prod.snd) tenant_id d

/-- Nothing stands in the way of a pair: each child that is found may go, and
then nothing leads to the duplicate. -/
def Passes (tables : Tables) (p d : String) : Prop :=
  TakesAll (db.Takes now p) (after now p) tables (db.found tenant_id d tables) ∧
    Unreferenced db.rows tenant_id d ((db.found tenant_id d tables).foldl (after now p) tables)

end MergeDatabase

section database

variable {facts : OpeningFacts} {db : MergeDatabase facts} {now tenant_id p d : String}

theorem mem_newest_page {order : ByKey ChildCase.created_at} {rows : List ChildCase}
    {child : ChildCase} (h : child ∈ on_newest_page order rows tenant_id d) :
    child ∈ rows ∧ child.tenant_id = tenant_id ∧ child.parent_case_id = some d := by
  obtain ⟨hmem, hparent⟩ := List.mem_filter.mp h
  obtain ⟨hrow, hmine⟩ :=
    List.mem_filter.mp ((order.perm _).subset ((List.take_sublist 500 _).subset hmem))
  exact ⟨hrow, of_decide_eq_true hmine, of_decide_eq_true hparent⟩

theorem newest_page_once {order : ByKey ChildCase.created_at} {rows : List ChildCase}
    (h : (rows.map ChildCase.id).Nodup) :
    ((on_newest_page order rows tenant_id d).map ChildCase.id).Nodup := by
  have hsub : (rows.filter fun r => r.tenant_id = tenant_id).Sublist rows := List.filter_sublist
  have hsorted : ((order.sort (rows.filter fun r => r.tenant_id = tenant_id)).map
      ChildCase.id).Nodup :=
    ((order.perm _).map _).nodup_iff.mpr (h.sublist (hsub.map _))
  have hpage : (on_newest_page order rows tenant_id d).Sublist
      (order.sort (rows.filter fun r => r.tenant_id = tenant_id)) :=
    List.filter_sublist.trans (List.take_sublist 500 _)
  exact hsorted.sublist (hpage.map _)

theorem database_repoints (db : MergeDatabase facts) (now tenant_id p : String) :
    Repoints (onDatabaseMerge db now) tenant_id now p (db.Takes now p)
      (MergeDatabase.after now p) where
  takes tables child hget hmine htakes := by
    have hlisted := of_tenant_listed tables.api.records hget hmine
    show (do let _ ← transaction (DatabaseBackedStore.update
      (db.config.checks db.others child.id (under p)) child.id tenant_id now (under p) {})) tables =
        _
    rw [run_bind]
    unfold transaction DatabaseBackedStore.update
    rw [hlisted]
    simp only [under_validate]
    have hnone : (db.config.checks db.others child.id (under p)).record_row tables
      ((under p).apply now child) = none := htakes
    simp only [hnone, DatabaseBackedStore.audit, under_noted]
    rfl
  refuses tables child hget hmine hnot := by
    have hlisted := of_tenant_listed tables.api.records hget hmine
    obtain ⟨e, he⟩ := Option.ne_none_iff_exists'.mp hnot
    refine ⟨e, ?_⟩
    show (do let _ ← transaction (DatabaseBackedStore.update
      (db.config.checks db.others child.id (under p)) child.id tenant_id now (under p) {})) tables =
        _
    rw [run_bind]
    unfold transaction DatabaseBackedStore.update
    rw [hlisted]
    simp only [under_validate]
    have hsome : (db.config.checks db.others child.id (under p)).record_row tables
      ((under p).apply now child) = some e := he
    simp only [hsome]
    rfl
  view_after tables child := rfl

/-- The foreign keys that block the deletion of a case. -/
theorem blocked_iff {rows : CaseDatabase} {tables : Tables} :
    (((tables.case_correlation_keys.filter fun x =>
        !decide (x.2 = d ∧ x.1.1 = tenant_id)).any fun x => x.2 = d) ∨
      (tables.api.records.any fun r => r.2.parent_case_id = some d) ∨
      (tables.case_classification_history.any fun row => row.case_id = d) ∨
      rows.referenced tables d = true) ↔ ¬ Unreferenced rows tenant_id d tables := by
  simp only [List.any_eq_true, List.mem_filter, decide_eq_true_eq, Bool.not_eq_true',
    decide_eq_false_iff_not]
  constructor
  · rintro (⟨x, ⟨hx, hnot⟩, hd⟩ | ⟨x, hx, hparent⟩ | ⟨row, hrow, hd⟩ | hother) hfree
    · exact hnot ⟨hd, hfree.correlation x hx hd⟩
    · exact hfree.records x hx hparent
    · exact hfree.history row hrow hd
    · rw [hfree.others] at hother
      cases hother
  · intro hnot
    by_contra hnone
    simp only [not_or, not_exists, not_and] at hnone
    obtain ⟨hkeys, hrecords, hhistory, hothers⟩ := hnone
    refine hnot ⟨?_, hrecords, hhistory, by simpa using hothers⟩
    intro x hx hd
    by_contra hother
    exact hkeys x ⟨hx, fun _ => hother⟩ hd

/-- A case is deleted when nothing leads to it; its keys are those of its
tenant then. -/
theorem database_delete {rows : CaseDatabase} {tables : Tables} {case : OrderCase}
    (hcase : dict.get tables.api.cases d = some case) (hmine : case.tenant_id = tenant_id) :
    wp (do let _ ← transaction (DatabaseBackedCaseStore.delete rows d))
      (fun _ tables' => Unreferenced rows tenant_id d tables ∧ tables' =
        { tables with
          api := { tables.api with cases := dict.pop tables.api.cases d }
          case_correlation_keys := detach tables.case_correlation_keys d })
      (fun _ tables' => ¬ Unreferenced rows tenant_id d tables ∧ tables' = tables) tables := by
  subst hmine
  rw [wp_bind]
  by_cases hblocked : ¬ Unreferenced rows case.tenant_id d tables
  · have hdelete : DatabaseBackedCaseStore.delete rows d tables =
        .error ⟨"IntegrityError", "FOREIGN KEY constraint failed"⟩ := by
      unfold DatabaseBackedCaseStore.delete
      rw [hcase]
      exact if_pos (blocked_iff.mpr hblocked)
    unfold transaction wp
    dsimp only
    rw [hdelete]
    exact ⟨hblocked, rfl⟩
  · have hfree : Unreferenced rows case.tenant_id d tables := not_not.mp hblocked
    have hkeys : (tables.case_correlation_keys.filter fun x =>
        !decide (x.2 = d ∧ x.1.1 = case.tenant_id)) = detach tables.case_correlation_keys d := by
      refine List.filter_congr ?_
      intro x hx
      by_cases hd : x.2 = d
      · simp [hd, hfree.correlation x hx hd]
      · simp [hd]
    have hdelete : DatabaseBackedCaseStore.delete rows d tables = .ok ({ tables with
        api := { tables.api with cases := dict.pop tables.api.cases d }
        case_correlation_keys := detach tables.case_correlation_keys d }, ()) := by
      unfold DatabaseBackedCaseStore.delete
      rw [hcase, ← hkeys]
      exact if_neg fun h => hblocked (blocked_iff.mp h)
    unfold transaction wp
    dsimp only
    rw [hdelete]
    exact ⟨hfree, rfl⟩

/-- On the database a pair is merged when nothing stands in its way. -/
theorem database_merges : Merges facts (onDatabaseMerge db now) tenant_id
    (db.Passes now tenant_id) where
  lists tables hs := by
    obtain ⟨hids, hcases⟩ := hs.listed tenant_id
    have hperm := db.cases_order.perm
      ((tables.api.cases.map Prod.snd).filter fun case => case.tenant_id = tenant_id)
    refine ⟨(hperm.map _).nodup_iff.mpr hids, ?_⟩
    intro case hcase
    exact hcases case (hperm.subset hcase)
  pair tables p d hs hpo hne := by
    obtain ⟨-, case, -, hcase, -, hmine, -⟩ := hpo
    have hchildren := (database_repoints db now tenant_id p).children hne (db.found tenant_id d tables) (newest_page_once hs.record_ids) tables hs (by
        intro child hchild
        obtain ⟨hmem, hchild⟩ := mem_newest_page hchild
        exact ⟨hs.children hmem, hchild⟩)
    unfold merge_pair
    rw [wp_bind, wp_get]
    dsimp only
    rw [wp_bind]
    refine wp_mono hchildren ?_ ?_
    · rintro _ tables' ⟨htakes, hafter, hmoved, -⟩
      have hcase' : dict.get tables'.api.cases d = some case := by
        have hcases : tables'.api.cases = tables.api.cases := hmoved.cases
        rw [hcases]
        exact hcase
      rw [wp_bind]
      refine wp_mono (database_delete hcase' hmine) ?_ ?_
      · rintro _ tables'' ⟨hfree, rfl⟩
        rw [wp_pure]
        refine ⟨⟨htakes, by rw [← hafter]; exact hfree⟩, hmoved.drop rfl rfl rfl rfl ?_⟩
        intro id record hrecord _
        exact hfree.records (id, record) (dict.mem_of_get hrecord)
      · rintro e tables'' ⟨hblocked, rfl⟩
        refine ⟨?_, hmoved⟩
        intro hpasses
        have hfree := hpasses.2
        rw [← hafter] at hfree
        exact hblocked hfree
    · rintro e tables' ⟨hrefused, hmoved⟩
      exact ⟨fun hpasses => hrefused hpasses.1, hmoved⟩

end database

/-! ## The law of the merge -/

theorem mem_of_drops {σ : Type} {stores : MergeStores σ} {tenant_id d : String}
    {Passes : σ → String → String → Prop} {pairs : List (String × String)} {s : σ}
    (h : Drops stores tenant_id Passes s pairs d) : ∃ pair ∈ pairs, d = pair.2 := by
  induction pairs generalizing s with
  | nil => cases h
  | cons pair pairs ih =>
    obtain ⟨p, d'⟩ := pair
    rcases h.2 with rfl | hrest
    · exact ⟨(p, d), List.mem_cons_self, rfl⟩
    · obtain ⟨pair, hpair, hd⟩ := ih hrest
      exact ⟨pair, List.mem_cons_of_mem _ hpair, hd⟩

theorem drops_all {σ : Type} {stores : MergeStores σ} {tenant_id d : String}
    (pairs : List (String × String)) (s : σ) :
    Drops stores tenant_id (fun _ _ _ => True) s pairs d ↔ ∃ pair ∈ pairs, d = pair.2 := by
  induction pairs generalizing s with
  | nil => simp [Drops]
  | cons pair pairs ih =>
    obtain ⟨p, d'⟩ := pair
    rw [Drops, ih]
    simp

/-- A merge loses nothing exactly when each case that it drops has no key, no
pending override, no classification and no record of another tenant. In
memory it drops every duplicate, on the database those that no row blocks.
A dry run changes nothing. -/
theorem the_merge_loses_nothing_iff_the_dropped_cases_are_bare (facts : OpeningFacts)
    (tenant_id now : String) (stores : MemoryStores) (db : MergeDatabase facts) (tables : Tables)
    (hstores : Stored ((inMemoryMerge now).view stores))
    (htables : Stored ((onDatabaseMerge db now).view tables)) :
    (LosesNothing facts tenant_id
        (merge_candidates facts ((inMemoryMerge now).list_by_tenant tenant_id stores))
        ((inMemoryMerge now).view stores)
        ((inMemoryMerge now).view (endState
          (merge_orphan_cases_by_correlation (inMemoryMerge now) tenant_id facts false stores))) ↔
      ∀ pair ∈ merge_candidates facts ((inMemoryMerge now).list_by_tenant tenant_id stores),
        Bare tenant_id ((inMemoryMerge now).view stores) pair.2) ∧
    (LosesNothing facts tenant_id
        (merge_candidates facts ((onDatabaseMerge db now).list_by_tenant tenant_id tables))
        ((onDatabaseMerge db now).view tables)
        ((onDatabaseMerge db now).view (endState
          (merge_orphan_cases_by_correlation (onDatabaseMerge db now) tenant_id facts false
            tables))) ↔
      ∀ d, Drops (onDatabaseMerge db now) tenant_id (db.Passes now tenant_id) tables
          (merge_candidates facts ((onDatabaseMerge db now).list_by_tenant tenant_id tables)) d →
        Bare tenant_id ((onDatabaseMerge db now).view tables) d) ∧
    (∃ report, merge_orphan_cases_by_correlation (inMemoryMerge now) tenant_id facts true stores =
      .ok report stores) ∧
    ∃ report, merge_orphan_cases_by_correlation (onDatabaseMerge db now) tenant_id facts true
      tables = .ok report tables := by
  refine ⟨?_, database_merges.loses_nothing_iff htables, dry_run_changes_nothing stores,
    dry_run_changes_nothing tables⟩
  rw [memory_merges.loses_nothing_iff hstores]
  simp only [drops_all]
  constructor
  · intro h pair hpair
    exact h pair.2 ⟨pair, hpair, rfl⟩
  · rintro h d ⟨pair, hpair, rfl⟩
    exact h pair hpair

/-! ## Two cases of one order -/

theorem stored_of_rows {v : MergeView} (hcases : Once v.cases) (hrecords : Once v.records)
    (hcorrelation : Once v.correlation) (hkeyed : ∀ x ∈ v.cases, x.2.case_id = x.1)
    (hids : ∀ x ∈ v.records, x.2.id = x.1) : Stored v where
  cases_once := hcases
  records_once := hrecords
  correlation_once := hcorrelation
  cases_keyed c case h := hkeyed (c, case) (dict.mem_of_get h)
  records_keyed id record h := hids (id, record) (dict.mem_of_get h)

theorem bare_of_rows {tenant_id c : String} {v : MergeView} (hkeys : ∀ x ∈ v.correlation, x.2 ≠ c)
    (hcases : ∀ x ∈ v.cases, x.2.pending_override = none) (hevents : v.events c = [])
    (hrecords : ∀ x ∈ v.records, x.2.tenant_id = tenant_id) : Bare tenant_id v c where
  keys k h := hkeys (k, c) (dict.mem_of_get h) rfl
  decided case h := hcases (c, case) (dict.mem_of_get h)
  unclassified := hevents
  records id record h _ := hrecords (id, record) (dict.mem_of_get h)

/-- Both cases have the order `PO-MERGE`; `A` was opened first. -/
def mergeFacts : OpeningFacts where
  customer_po_number _ := some "PO-MERGE"
  opened_at case_id := if case_id = "A" then "2025-01-01" else "2025-01-02"

/-- Two cases that were opened by their sales orders, the second one with a
record. -/
def twoOrders : MemoryStores where
  cases := {
    cases := ["A", "B"].map fun id => (id, ⟨id, "T1", .OPEN_AGENT_PROCESSING, none, none, none⟩)
    correlation := [(("T1", "sales_order_id", "SO-A"), "A"),
      (("T1", "sales_order_id", "SO-B"), "B")] }
  records := [("E1", { childAt "E1" "2025-01-03" with parent_case_id := some "B" })]

/-- The rows of a store on a database. -/
def MemoryStores.tables (stores : MemoryStores) : Tables where
  api := { cases := stores.cases.cases, records := stores.records }
  case_correlation_keys := stores.cases.correlation

/-- The second case was opened without a key. -/
def oneOrder : MemoryStores :=
  { twoOrders with cases := { twoOrders.cases with
      correlation := [(("T1", "sales_order_id", "SO-A"), "A")] } }

instance (facts : OpeningFacts) : Std.Total facts.no_later :=
  ⟨fun a b => le_total (facts.opened_at a.case_id) (facts.opened_at b.case_id)⟩

instance (facts : OpeningFacts) : IsTrans OrderCase facts.no_later :=
  ⟨fun a _ _ hab hbc => le_trans (a := facts.opened_at a.case_id) hab hbc⟩

def openingOrder (facts : OpeningFacts) : ByOpening facts where
  sort cases := cases.insertionSort facts.no_later
  perm cases := List.perm_insertionSort facts.no_later cases
  ascending cases := List.pairwise_insertionSort facts.no_later cases

def mergeDatabase : MergeDatabase mergeFacts where
  config := strictConfig
  others := noChecks
  rows := noKeys
  cases_order := openingOrder mergeFacts
  records_order := newestStored

/-- A case that was opened without a key is merged, and nothing is lost. -/
theorem a_bare_case_is_merged :
    (LosesNothing mergeFacts "T1"
      (merge_candidates mergeFacts ((inMemoryMerge "now").list_by_tenant "T1" oneOrder))
      ((inMemoryMerge "now").view oneOrder)
      ((inMemoryMerge "now").view (endState
        (merge_orphan_cases_by_correlation (inMemoryMerge "now") "T1" mergeFacts false
          oneOrder)))) ∧
    LosesNothing mergeFacts "T1"
      (merge_candidates mergeFacts
        ((onDatabaseMerge mergeDatabase "now").list_by_tenant "T1" oneOrder.tables))
      ((onDatabaseMerge mergeDatabase "now").view oneOrder.tables)
      ((onDatabaseMerge mergeDatabase "now").view (endState
        (merge_orphan_cases_by_correlation (onDatabaseMerge mergeDatabase "now") "T1" mergeFacts
          false oneOrder.tables))) := by
  have hstores : Stored ((inMemoryMerge "now").view oneOrder) := by
    refine stored_of_rows ?_ ?_ ?_ ?_ ?_ <;> decide
  have htables : Stored ((onDatabaseMerge mergeDatabase "now").view oneOrder.tables) := by
    refine stored_of_rows ?_ ?_ ?_ ?_ ?_ <;> decide
  obtain ⟨hmemory, hdatabase, -⟩ := the_merge_loses_nothing_iff_the_dropped_cases_are_bare
    mergeFacts "T1" "now" oneOrder mergeDatabase oneOrder.tables hstores htables
  have hbare : Bare "T1" ((inMemoryMerge "now").view oneOrder) "B" := bare_of_rows (by decide)
    (by decide) rfl (by decide)
  refine ⟨hmemory.mpr ?_, hdatabase.mpr ?_⟩
  · have hpairs : ∀ pair ∈ merge_candidates mergeFacts
        ((inMemoryMerge "now").list_by_tenant "T1" oneOrder), pair.2 = "B" := by decide +kernel
    intro pair hpair
    rw [hpairs pair hpair]
    exact hbare
  · have hpairs : ∀ pair ∈ merge_candidates mergeFacts
        ((onDatabaseMerge mergeDatabase "now").list_by_tenant "T1" oneOrder.tables),
        pair.2 = "B" := by decide +kernel
    intro d hd
    obtain ⟨pair, hpair, rfl⟩ := mem_of_drops hd
    rw [hpairs pair hpair]
    exact bare_of_rows (by decide) (by decide) rfl (by decide)

/-- The merge puts the record under the first case, and the order of the
second case leads nowhere. -/
theorem a_merged_case_takes_its_keys_along :
    (¬ LosesNothing mergeFacts "T1"
      (merge_candidates mergeFacts ((inMemoryMerge "now").list_by_tenant "T1" twoOrders))
      ((inMemoryMerge "now").view twoOrders)
      ((inMemoryMerge "now").view (endState
        (merge_orphan_cases_by_correlation (inMemoryMerge "now") "T1" mergeFacts false
          twoOrders)))) ∧
    ¬ LosesNothing mergeFacts "T1"
      (merge_candidates mergeFacts
        ((onDatabaseMerge mergeDatabase "now").list_by_tenant "T1" twoOrders.tables))
      ((onDatabaseMerge mergeDatabase "now").view twoOrders.tables)
      ((onDatabaseMerge mergeDatabase "now").view (endState
        (merge_orphan_cases_by_correlation (onDatabaseMerge mergeDatabase "now") "T1" mergeFacts
          false twoOrders.tables))) := by
  constructor
  · intro h
    obtain ⟨c, hc, -⟩ := h.keys ("T1", "sales_order_id", "SO-B") "B" (by decide) (by decide)
    have hlost : dict.get ((inMemoryMerge "now").view (endState
        (merge_orphan_cases_by_correlation (inMemoryMerge "now") "T1" mergeFacts false
          twoOrders))).correlation ("T1", "sales_order_id", "SO-B") = none := by
      decide +kernel
    cases hlost.symm.trans hc
  · intro h
    obtain ⟨c, hc, -⟩ := h.keys ("T1", "sales_order_id", "SO-B") "B" (by decide) (by decide)
    have hlost : dict.get ((onDatabaseMerge mergeDatabase "now").view (endState
        (merge_orphan_cases_by_correlation (onDatabaseMerge mergeDatabase "now") "T1" mergeFacts
          false twoOrders.tables))).correlation ("T1", "sales_order_id", "SO-B") = none := by
      decide +kernel
    cases hlost.symm.trans hc

end asoe
