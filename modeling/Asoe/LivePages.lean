-- The two listings that a client pages through while records and cases change.
-- The cursor is an id that is looked up in the listing of the moment; one
-- that is not there starts over from the newest row.
import Asoe.ExceptionPages
import Asoe.Lib.LivePaging
import Asoe.Lib.PyText
import Mathlib.Data.Prod.Lex

namespace asoe

open py prog runs paging

/-! ## The exceptions -/

/-- `ExceptionStore.list`. -/
def ExceptionStore.list (records : List ChildCase) (tenant_id : String)
    (status intent : Option String) (limit : Nat) (cursor : Option String) :
    Page ChildCase String :=
  let found := newest ChildCase.created_at (records.filter (matching tenant_id status intent))
  cut ChildCase.id limit (resume ChildCase.id found (given cursor))

/-- What `GET /exceptions` is asked; `in_scope` says which records the accounts
of the user let through. -/
structure ExceptionQuery where
  tenant_id : String
  status : Option String := none
  intent : Option String := none
  limit : Nat := 50
  in_scope : ChildCase → Bool := fun _ => true

/-- The ids are drawn, so none is empty. -/
def NotEmpty (id : String) : Prop := id ≠ ""

instance : DecidablePred NotEmpty := fun id => inferInstanceAs (Decidable (id ≠ ""))

/-- `ExceptionStore.update` assigns to one record. No caller assigns to its id,
its tenant or the moment of its creation. -/
def ExceptionStore.assign (id : String) (fields : ChildCase → ChildCase) : RowChange ChildCase :=
  .update fun r =>
    if r.id = id then
      { fields r with id := r.id, tenant_id := r.tenant_id, created_at := r.created_at }
    else r

theorem ExceptionStore.assign_proper (id : String) (fields : ChildCase → ChildCase)
    (records : List ChildCase) :
    (ExceptionStore.assign id fields).Proper ChildCase.id ChildCase.created_at NotEmpty records := by
  intro r _
  dsimp only
  split
  · exact ⟨rfl, rfl⟩
  · exact ⟨rfl, rfl⟩

theorem resume_given {α : Type} {name : α → String} {view : List α}
    (hnamed : ∀ r ∈ view, NotEmpty (name r)) (cursor : Option String) :
    resume name view (given cursor) = resume name view cursor := by
  rcases cursor with _ | c
  · rfl
  · by_cases hc : c = ""
    · subst hc
      have hmissing : "" ∉ view.map name := by
        intro h
        obtain ⟨r, hr, hname⟩ := List.mem_map.mp h
        exact hnamed r hr hname
      rw [resume_missing hmissing]
      rfl
    · simp [given, Option.filter, hc]

/-- `GET /exceptions`. -/
def list_exceptions : Listing (List ChildCase) (RowChange ChildCase) ExceptionQuery ChildCase
    String :=
  newestListing ChildCase.id ChildCase.created_at NotEmpty ExceptionQuery.limit
    ExceptionQuery.in_scope
    (fun query => matching query.tenant_id query.status query.intent)
    (fun query records =>
      ExceptionStore.list records query.tenant_id query.status query.intent query.limit)
    (by
      intro query records cursor hvalid
      unfold ExceptionStore.list
      dsimp only
      rw [resume_given fun r hr => hvalid.2 r (List.mem_of_mem_filter (mem_newest.mp hr))])

/-! ## The cases -/

/-- A case with the columns that its listing reads. -/
structure CaseRow extends OrderCase where
  opened_at : String
  origin : String

/-- What `GET /cases` is asked. `cutoff` is the moment that `since` names now,
`intents` asks the cache of the intents, and `q` and `in_scope` are the tests
of the text and of the accounts of the user. -/
structure CaseQuery where
  tenant_id : String
  origin : Option String := none
  supergroup_code : Option String := none
  status : Option String := none
  intents : CaseRow → Bool := fun _ => true
  cutoff : Option String := none
  q : CaseRow → Bool := fun _ => true
  in_scope : CaseRow → Bool := fun _ => true
  limit : Nat := 200

/-- `status_set`. -/
def status_set (status : String) : List String :=
  ((status.splitOn ",").map strip).filter (· ≠ "")

/-- The filters of `list_cases`. -/
def CaseQuery.keeps (query : CaseQuery) (case : CaseRow) : Bool :=
  case.tenant_id = query.tenant_id ∧
    (given query.origin).all (fun origin => case.origin = origin) ∧
    (given query.supergroup_code).all (fun code => case.supergroup_code = some code) ∧
    (given query.status).all (fun status =>
      (status_set status).isEmpty || case.status.value ∈ status_set status) ∧
    query.intents case ∧
    query.cutoff.all (fun cutoff => cutoff ≤ case.opened_at) ∧
    query.q case ∧ query.in_scope case

/-- The sort key of `list_cases`. -/
def CaseRow.stamp (case : CaseRow) : String ×ₗ String := toLex (case.opened_at, case.case_id)

/-- Where the page begins. -/
def start_after (cases : List CaseRow) : Option String → Nat
  | none => 0
  | some c =>
    match cases.findIdx? fun case => case.case_id = c with
    | some i => i + 1
    | none => 0

/-- `list_cases`, the page. -/
def list_cases_page (query : CaseQuery) (cases : List CaseRow) (cursor : Option String) :
    Page CaseRow String :=
  let cases := newest CaseRow.stamp (cases.filter query.keeps)
  let start := start_after cases (given cursor)
  let page := (cases.drop start).take query.limit
  let has_more := start + query.limit < cases.length
  ⟨page, if has_more then page.getLast?.map (·.case_id) else none, has_more⟩

theorem cut_drop {α : Type} {name : α → String} {limit start : Nat} {rows : List α} :
    cut name limit (rows.drop start) =
      ⟨(rows.drop start).take limit,
        if start + limit < rows.length then ((rows.drop start).take limit).getLast?.map name
        else none,
        decide (start + limit < rows.length)⟩ := by
  have hmore : limit < (rows.drop start).length ↔ start + limit < rows.length := by
    rw [List.length_drop]
    omega
  unfold cut
  simp only [hmore]

theorem resume_eq_drop (cases : List CaseRow) (cursor : Option String) :
    resume (fun case : CaseRow => case.case_id) cases cursor =
      cases.drop (start_after cases cursor) := by
  unfold resume start_after
  rcases cursor with _ | c
  · rfl
  · dsimp only
    split
    · rename_i i hi
      rw [hi]
    · rename_i hi
      rw [hi]
      rfl

theorem list_cases_page_eq (query : CaseQuery) (cases : List CaseRow) (cursor : Option String) :
    list_cases_page query cases cursor =
      cut (fun case => case.case_id) query.limit (resume (fun case => case.case_id)
        (newest CaseRow.stamp (cases.filter query.keeps)) (given cursor)) := by
  rw [resume_eq_drop, cut_drop]
  rfl

/-- `GET /cases`. -/
def list_cases : Listing (List CaseRow) (RowChange CaseRow) CaseQuery CaseRow String :=
  newestListing (fun case => case.case_id) CaseRow.stamp NotEmpty CaseQuery.limit
    (fun _ _ => true) CaseQuery.keeps list_cases_page
    (by
      intro query cases cursor hvalid
      rw [list_cases_page_eq, resume_given fun r hr =>
        hvalid.2 r (List.mem_of_mem_filter (mem_newest.mp hr))])

/-! ## Runs -/

/-- In a run of fetches and changes no id is given twice while the cursors are
in the listing, and an id that is in the listing at each fetch is given by the
time that there is no more. -/
def PagesWell {σ δ φ α : Type} (listing : Listing σ δ φ α String) (s : σ)
    (steps : List (LiveStep δ φ)) : Prop :=
  (AllSteps listing.step listing.AnchoredStep (s, {}) steps →
    (run listing.step (s, {}) steps).2.returned.Nodup) ∧
  ∀ id, AllSteps listing.step (listing.MatchedStep id) (s, {}) steps →
    (run listing.step (s, {}) steps).2.done = true →
    id ∈ (run listing.step (s, {}) steps).2.returned

/-- However records and cases are created and updated between the fetches,
every one that matches throughout is returned, and none is returned twice
while the row of the cursor keeps matching. -/
theorem listings_page_well_while_their_cursor_matches :
    (∀ (records : List ChildCase) (steps : List (LiveStep (RowChange ChildCase) ExceptionQuery)),
      NamedRows ChildCase.id NotEmpty records →
      AllSteps list_exceptions.step list_exceptions.ProperStep (records, {}) steps →
      PagesWell list_exceptions records steps) ∧
    ∀ (cases : List CaseRow) (steps : List (LiveStep (RowChange CaseRow) CaseQuery)),
      NamedRows (fun case : CaseRow => case.case_id) NotEmpty cases →
      AllSteps list_cases.step list_cases.ProperStep (cases, {}) steps →
      PagesWell list_cases cases steps := by
  constructor
  · intro records steps hvalid hproper
    exact ⟨run_once hvalid hproper, fun id => run_complete hvalid hproper⟩
  · intro cases steps hvalid hproper
    exact ⟨run_once hvalid hproper, fun id => run_complete hvalid hproper⟩

theorem newest_of_sorted {α κ : Type} [LinearOrder κ] {stamp : α → κ} {rows : List α}
    (h : rows.Pairwise fun a b => stamp b ≤ stamp a) : newest stamp rows = rows :=
  List.mergeSort_of_pairwise (h.imp fun h => decide_eq_true h)

/-- Records in review, two of them to a page. -/
def inReview : ExceptionQuery where
  tenant_id := "T1"
  status := some "PENDING_REVIEW"
  limit := 2

theorem fetch_stored {records : List ChildCase} {client : Client String}
    (hsorted : (records.filter (matching "T1" (some "PENDING_REVIEW") none)).Pairwise
      fun a b => b.created_at ≤ a.created_at) :
    list_exceptions.step (.fetch inReview) (records, client) =
      (records, client.fetch ChildCase.id (fun _ => true) fun cursor =>
        cut ChildCase.id 2 (resume ChildCase.id
          (records.filter (matching "T1" (some "PENDING_REVIEW") none)) (given cursor))) := by
  have hpage : ExceptionStore.list records "T1" (some "PENDING_REVIEW") none 2 = fun cursor =>
      cut ChildCase.id 2 (resume ChildCase.id
        (records.filter (matching "T1" (some "PENDING_REVIEW") none)) (given cursor)) := by
    funext cursor
    unfold ExceptionStore.list
    rw [newest_of_sorted hsorted]
  rw [← hpage]
  rfl

/-- The record `id` is resolved. -/
def resolveRecord (id : String) : LiveStep (RowChange ChildCase) ExceptionQuery :=
  .change (ExceptionStore.assign id fun r => { r with lifecycle_state := .RESOLVED })

theorem step_resolve (id : String) (records : List ChildCase) (client : Client String) :
    list_exceptions.step (resolveRecord id) (records, client) =
      ((ExceptionStore.assign id fun r => { r with lifecycle_state := .RESOLVED }).apply records,
        client) := rfl

/-- Two pages, and a record that is resolved between the fetches. -/
def twoPages (id : String) : List (LiveStep (RowChange ChildCase) ExceptionQuery) :=
  [.fetch inReview, resolveRecord id, .fetch inReview]

theorem first_page : list_exceptions.step (.fetch inReview) (threeMoments.rows, {}) =
    (threeMoments.rows, ⟨["E3", "E2"], some "E2", false⟩) := by
  rw [fetch_stored (by decide)]
  decide

/-- A record that was returned leaves the filter, and the cursor stays. -/
theorem a_page_follows_a_cursor_that_stays :
    PagesWell list_exceptions threeMoments.rows (twoPages "E3") ∧
      (run list_exceptions.step (threeMoments.rows, {}) (twoPages "E3")).2 =
        ⟨["E3", "E2", "E1"], none, true⟩ := by
  constructor
  · refine listings_page_well_while_their_cursor_matches.1 threeMoments.rows (twoPages "E3")
      (by decide) ⟨?_, ExceptionStore.assign_proper _ _ _, ?_, trivial⟩
    · show 1 ≤ 2
      decide
    · show 1 ≤ 2
      decide
  · unfold twoPages
    rw [run_cons, first_page, run_cons, step_resolve, run_cons, fetch_stored (by decide), run_nil]
    decide

/-- The record that ends the first page leaves the filter: the listing starts
over, and the record before it is returned once more. -/
theorem a_cursor_that_is_resolved_starts_over :
    ¬ (run list_exceptions.step (threeMoments.rows, {}) (twoPages "E2")).2.returned.Nodup := by
  unfold twoPages
  rw [run_cons, first_page, run_cons, step_resolve, run_cons, fetch_stored (by decide), run_nil]
  decide

end asoe
