-- The listings of the exception table on the database. A page is the first
-- rows of a query in the order of their creation, and the query does not say
-- how rows of one moment are ordered; the children of a case are looked for
-- on one page of the tenant.
import Asoe.Records
import Asoe.Lib.Paging
import Mathlib.Data.String.Basic

namespace asoe

open py prog paging

/-! ## The queries -/

/-- The table `exceptions`. Its ids are drawn, so none is empty. -/
structure ExceptionTable where
  rows : List ChildCase
  unique : (rows.map ChildCase.id).Nodup
  named : ∀ r ∈ rows, r.id ≠ ""

/-- What a query is given for a filter that is set. -/
def given (filter : Option String) : Option String := filter.filter fun text => text ≠ ""

/-- The conditions of `list` on the tenant, the status and the intent. -/
def matching (tenant_id : String) (status intent : Option String) (r : ChildCase) : Bool :=
  r.tenant_id = tenant_id ∧ (given status).all (fun text => r.lifecycle_state.value = text) ∧
    (given intent).all fun text => r.intent.map Intent.value = some text

namespace ExceptionRepository

/-- `created_at <= (SELECT created_at FROM exceptions WHERE id = ?) AND id != ?`.
The comparison with no row is not true. -/
def past_cursor (table : ExceptionTable) (cursor : Option String) (r : ChildCase) : Bool :=
  match given cursor with
  | none => true
  | some id =>
    match table.rows.find? fun c => c.id = id with
    | none => false
    | some c => r.created_at ≤ c.created_at ∧ r.id ≠ id

/-- The query of `list`, without `ORDER BY` and `LIMIT`. -/
def selected (table : ExceptionTable) (tenant_id : String) (status intent cursor : Option String) :
    List ChildCase :=
  table.rows.filter fun r => matching tenant_id status intent r && past_cursor table cursor r

/-- `ExceptionRepository.list`; `order` is the order in which the database
returns the rows. -/
def list (order : ByKey ChildCase.created_at) (table : ExceptionTable) (tenant_id : String)
    (status intent : Option String) (limit : Nat) (cursor : Option String) :
    Page ChildCase String :=
  let rows := (order.sort (selected table tenant_id status intent cursor)).take (limit + 1)
  cut ChildCase.id limit rows

end ExceptionRepository

/-- `DatabaseBackedStore.list_by_case`. -/
def DatabaseBackedStore.list_by_case (order : ByKey ChildCase.created_at) (table : ExceptionTable)
    (tenant_id case_id : String) : List ChildCase :=
  (ExceptionRepository.list order table tenant_id none none 500 none).rows.filter fun r =>
    r.parent_case_id = some case_id

/-- `ExceptionStore.list_by_case`. -/
def ExceptionStore.list_by_case (records : List ChildCase) (tenant_id case_id : String) :
    List ChildCase :=
  records.filter fun r => r.tenant_id = tenant_id ∧ r.parent_case_id = some case_id

/-! ## The children of a case -/

section children

variable {table : ExceptionTable} {tenant_id case_id : String}

/-- The rows of a tenant. -/
def ExceptionTable.of_tenant (table : ExceptionTable) (tenant_id : String) : List ChildCase :=
  table.rows.filter fun r => r.tenant_id = tenant_id

theorem selected_all : ExceptionRepository.selected table tenant_id none none none =
    table.of_tenant tenant_id := by
  unfold ExceptionRepository.selected ExceptionTable.of_tenant
  refine List.filter_congr fun r _ => ?_
  simp [matching, given, ExceptionRepository.past_cursor]

theorem list_by_case_eq (order : ByKey ChildCase.created_at) :
    DatabaseBackedStore.list_by_case order table tenant_id case_id =
      ((order.sort (table.of_tenant tenant_id)).take 500).filter fun r =>
        r.parent_case_id = some case_id := by
  unfold DatabaseBackedStore.list_by_case ExceptionRepository.list
  rw [selected_all, cut_take]
  rfl

theorem memory_list_by_case_eq : ExceptionStore.list_by_case table.rows tenant_id case_id =
    (table.of_tenant tenant_id).filter fun r => r.parent_case_id = some case_id := by
  unfold ExceptionStore.list_by_case ExceptionTable.of_tenant
  rw [List.filter_filter]
  refine List.filter_congr fun r _ => ?_
  simp [Bool.and_comm]

/-- The database finds the children of a case that the store in memory finds,
however it orders the rows of one moment, exactly when for each of them at
most 500 records of the tenant are as new as it is. -/
theorem children_are_found_on_the_newest_page_iff (table : ExceptionTable)
    (tenant_id case_id : String) :
    (∀ order : ByKey ChildCase.created_at,
      (DatabaseBackedStore.list_by_case order table tenant_id case_id).Perm
        (ExceptionStore.list_by_case table.rows tenant_id case_id)) ↔
      ∀ r ∈ table.rows, r.tenant_id = tenant_id → r.parent_case_id = some case_id →
        Within ChildCase.created_at (table.of_tenant tenant_id) 500 r := by
  simp only [memory_list_by_case_eq, list_by_case_eq]
  rw [first_page_complete_iff]
  constructor
  · intro h r hr htenant hparent
    exact h r (List.mem_filter.mpr ⟨hr, by simpa using htenant⟩) (by simpa using hparent)
  · intro h r hr hparent
    obtain ⟨hrow, htenant⟩ := List.mem_filter.mp hr
    exact h r hrow (by simpa using htenant) (by simpa using hparent)

end children

/-- The listing of the API's model is this one, over records that were stored
in the order of their creation. -/
def newestStored : ByKey ChildCase.created_at where
  sort rows := rows.reverse.mergeSort fun a b => decide (b.created_at ≤ a.created_at)
  perm rows := (List.mergeSort_perm _ _).trans rows.reverse_perm
  descending rows := pairwise_sorted_by ChildCase.created_at rows.reverse

/-! ## Following the cursor -/

section follow

variable {table : ExceptionTable} {tenant_id : String} {status intent : Option String}

/-- The records that a listing is about. -/
def ExceptionTable.matched (table : ExceptionTable) (tenant_id : String)
    (status intent : Option String) : List ChildCase :=
  table.rows.filter (matching tenant_id status intent)

theorem ExceptionTable.id_injective {r c : ChildCase} (hr : r ∈ table.rows)
    (hc : c ∈ table.rows) : r.id = c.id ↔ r = c := by
  constructor
  · exact List.inj_on_of_nodup_map table.unique hr hc
  · rintro rfl
    rfl

theorem find_row {c : ChildCase} (hc : c ∈ table.rows) :
    table.rows.find? (fun r => r.id = c.id) = some c := by
  have hfound : (table.rows.find? fun r => r.id = c.id).isSome = true := by
    rw [List.find?_isSome]
    exact ⟨c, hc, by simp⟩
  obtain ⟨r, hr⟩ := Option.isSome_iff_exists.mp hfound
  have hid : r.id = c.id := by simpa using List.find?_some hr
  rw [hr, (table.id_injective (List.mem_of_find?_eq_some hr) hc).mp hid]

/-- The rows past the cursor are those from its row on. -/
theorem selected_past {cursor : Option ChildCase} (hcursor : ∀ c ∈ cursor, c ∈ table.rows) :
    ExceptionRepository.selected table tenant_id status intent (cursor.map ChildCase.id) =
      onward ChildCase.created_at (table.matched tenant_id status intent) cursor := by
  unfold ExceptionRepository.selected ExceptionTable.matched
  rcases cursor with _ | c
  · refine List.filter_congr fun r _ => ?_
    simp [ExceptionRepository.past_cursor, given]
  · have hc := hcursor c rfl
    have hgiven : given (some c.id) = some c.id := by
      simp [given, Option.filter, table.named c hc]
    rw [onward, List.filter_filter]
    refine List.filter_congr fun r hr => ?_
    unfold ExceptionRepository.past_cursor
    rw [Option.map_some, hgiven]
    dsimp only
    rw [find_row hc]
    dsimp only
    rw [Bool.and_comm]
    congr 1
    rw [decide_eq_decide, ne_eq, table.id_injective hr hc]

theorem nodup_matched : (table.matched tenant_id status intent).Nodup :=
  (List.Nodup.of_map _ table.unique).filter _

theorem follow_ids (order : ByKey ChildCase.created_at) (limit fuel : Nat) :
    follow (ExceptionRepository.list order table tenant_id status intent limit) fuel none =
      follow (fetchByKey ChildCase.created_at order limit
        (table.matched tenant_id status intent)) fuel none := by
  refine follow_names ChildCase.id (fun c => c ∈ table.rows) ?_ fuel none (by simp)
  intro cursor hcursor
  unfold ExceptionRepository.list fetchByKey
  rw [selected_past hcursor, cut_take]
  refine ⟨cut_names, fun c hc => ?_⟩
  have hsorted := mem_of_next_cursor hc
  have honward := (order.perm _).mem_iff.mp hsorted
  have hmatched : c ∈ table.matched tenant_id status intent := by
    rcases cursor with _ | c'
    · exact honward
    · exact List.mem_of_mem_filter honward
  exact List.mem_of_mem_filter hmatched

end follow

/-- A client that follows the cursors gets every matching record once, from
the newest to the oldest, and then an end. -/
def Complete (order : ByKey ChildCase.created_at) (table : ExceptionTable) (tenant_id : String)
    (status intent : Option String) (limit : Nat) : Prop :=
  ∃ fuel pages,
    follow (ExceptionRepository.list order table tenant_id status intent limit) fuel none =
      some pages ∧
    pages.flatten.Perm (table.matched tenant_id status intent) ∧
    Descending ChildCase.created_at pages.flatten

/-- The pages are complete, however the database orders the rows of one
moment, exactly when no page that another one follows ends in two records of
one moment. -/
theorem pages_are_complete_iff_their_ends_are_apart (order : ByKey ChildCase.created_at)
    (table : ExceptionTable) (tenant_id : String) (status intent : Option String) (limit : Nat)
    (hlimit : 1 ≤ limit) :
    Complete order table tenant_id status intent limit ↔
      Separated limit
        (keys ChildCase.created_at (table.matched tenant_id status intent)) := by
  unfold Complete
  simp only [follow_ids order limit]
  exact pages_complete_iff order hlimit nodup_matched

/-! ## Samples -/

/-- A record of the case `C1`. -/
def childAt (id created_at : String) : ChildCase :=
  { id := id, tenant_id := "T1", order_id := "4711", event_type := "PRICE_DISCREPANCY",
    trace_id := "TR1", intent := none, lifecycle_state := .PENDING_REVIEW, shadow_verdict := none,
    selected_recipe := none, final_status := none, resolution_data := {},
    parent_case_id := some "C1", created_at := created_at, updated_at := created_at }

/-- Three records of three moments. -/
def threeMoments : ExceptionTable where
  rows := [childAt "E3" "t3", childAt "E2" "t2", childAt "E1" "t1"]
  unique := by decide
  named := by decide

/-- Three records of one moment. -/
def oneMoment : ExceptionTable where
  rows := [childAt "E3" "t1", childAt "E2" "t1", childAt "E1" "t1"]
  unique := by decide
  named := by decide

theorem matched_keys {table : ExceptionTable} (h : table.matched "T1" none none = table.rows)
    (hsorted : Descending ChildCase.created_at table.rows) :
    keys ChildCase.created_at (table.matched "T1" none none) =
      table.rows.map ChildCase.created_at := by
  rw [h]
  exact (keys_eq (List.Perm.refl _) hsorted).symm

theorem pages_of_three_moments_are_complete :
    Complete newestStored threeMoments "T1" none none 2 := by
  refine (pages_are_complete_iff_their_ends_are_apart newestStored threeMoments "T1" none none 2
    (by decide)).mpr ?_
  rw [matched_keys (by decide) (by unfold Descending; decide)]
  intro m hm hshort _
  have hone : m = 1 := by
    change m * 2 < 3 at hshort
    omega
  subst hone
  decide

theorem pages_of_one_moment_repeat_a_record :
    ¬ Complete newestStored oneMoment "T1" none none 2 := by
  intro hcomplete
  obtain ⟨fuel, pages, hfollow, hall⟩ := hcomplete
  rw [follow_ids] at hfollow
  have hseparated : Separated 2 (keys ChildCase.created_at (oneMoment.matched "T1" none none)) :=
    (pages_complete_iff newestStored (by decide) nodup_matched).mp ⟨fuel, pages, hfollow, hall⟩
  rw [matched_keys (by decide) (by unfold Descending; decide)] at hseparated
  exact hseparated 1 le_rfl (by decide) le_rfl (by decide)

/-- A name of `n + 1` letters. -/
def nameOf (n : Nat) : String := String.ofList (List.replicate (n + 1) 'E')

theorem nameOf_injective : Function.Injective nameOf := by
  intro n m h
  have hlist := congrArg (fun text => text.toList.length) h
  simpa [nameOf] using hlist

/-- A record of the case `C1`, and 500 later ones of no case. -/
def busyTenant : ExceptionTable where
  rows := childAt (nameOf 0) "t1" ::
    (List.range 500).map fun n => { childAt (nameOf (n + 1)) "t2" with parent_case_id := none }
  unique := by
    rw [List.map_cons, List.map_map, List.nodup_cons]
    constructor
    · intro h
      obtain ⟨n, -, hn⟩ := List.mem_map.mp h
      exact absurd (nameOf_injective hn) (Nat.succ_ne_zero n)
    · refine List.nodup_range.map fun n m h => ?_
      exact Nat.succ.inj (nameOf_injective h)
  named := by
    have hname : ∀ n, nameOf n ≠ "" := by
      intro n h
      have hlist := congrArg (fun text => text.toList.length) h
      simp [nameOf] at hlist
    intro r hr
    rcases List.mem_cons.mp hr with rfl | hr
    · exact hname 0
    · obtain ⟨n, -, rfl⟩ := List.mem_map.mp hr
      exact hname (n + 1)

theorem an_old_child_is_off_the_newest_page :
    ¬ (∀ order : ByKey ChildCase.created_at,
      (DatabaseBackedStore.list_by_case order busyTenant "T1" "C1").Perm
        (ExceptionStore.list_by_case busyTenant.rows "T1" "C1")) := by
  intro hall
  simp only [memory_list_by_case_eq, list_by_case_eq] at hall
  have htenant : busyTenant.of_tenant "T1" = busyTenant.rows := by
    refine List.filter_eq_self.mpr fun r hr => ?_
    rcases List.mem_cons.mp hr with rfl | hr
    · rfl
    · obtain ⟨n, -, rfl⟩ := List.mem_map.mp hr
      rfl
  rw [htenant] at hall
  have hwithin := first_page_complete_iff.mp hall (childAt (nameOf 0) "t1") List.mem_cons_self
    (by decide)
  have hnewer : busyTenant.rows.filter (fun r => "t1" ≤ r.created_at) = busyTenant.rows := by
    refine List.filter_eq_self.mpr fun r hr => ?_
    rcases List.mem_cons.mp hr with rfl | hr
    · decide
    · obtain ⟨n, -, rfl⟩ := List.mem_map.mp hr
      show decide ("t1" ≤ "t2") = true
      decide
  have hlength : (busyTenant.rows.filter fun r => "t1" ≤ r.created_at).length ≤ 500 := hwithin
  rw [hnewer] at hlength
  simp [busyTenant] at hlength

end asoe
