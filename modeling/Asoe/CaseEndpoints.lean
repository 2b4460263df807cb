-- The two endpoints that show the summaries of cases. The listing takes the
-- impact out for a caller who may not act on it; the detail view leaves the
-- flag of the serialiser at its default.
import Asoe.CaseSummary
import Asoe.LivePages

namespace asoe

open py prog paging

/-! ## What the endpoints read -/

/-- A case with the columns that its endpoints read. -/
structure ListedCase extends QueuedCase where
  origin : String
  customer_po_number : Option String := none
  sales_order_id : Option String := none

def ListedCase.row (case : ListedCase) : CaseRow :=
  { case.toOrderCase with opened_at := case.opened_at, origin := case.origin }

/-- A child record with the columns that decide who sees its case. -/
structure CaseChild extends ChildRecord where
  account_id : Option String := none
  order_id : String := ""
  deriving DecidableEq

structure CaseReader extends AuthenticatedUser where
  assigned_accounts : List String := []
  retailer_id : Option String := none

/-- `case_store`, `exception_store.list_by_case` and the cache of the intents. -/
structure CaseStores where
  cases : List ListedCase
  children : String → String → List CaseChild
  cached_intents : String → String → Option (List String)
  one_each : (cases.map fun case => case.case_id).Nodup

/-- What `GET /cases` is asked. `cutoff` is the moment that `since` names now. -/
structure CasesRequest where
  origin : Option String := none
  supergroup_code : Option String := none
  status : Option String := none
  intents : Option String := none
  cutoff : Option String := none
  q : Option String := none
  limit : ℕ := 200
  cursor : Option String := none

/-! ## The filters -/

namespace CaseStores

variable (from_iso : FromIso) (stores : CaseStores) (user : CaseReader)

/-- What the cache has, or else the intents of the children. -/
def intents_for (tenant_id case_id : String) : List String :=
  (stores.cached_intents tenant_id case_id).getD
    ((stores.children tenant_id case_id).filterMap fun r => given r.intent).dedup

def matches_any (tenant_id case_id : String) (intents : List String) : Bool :=
  intents.isEmpty || intents.any (· ∈ stores.intents_for tenant_id case_id)

/-- `_matches_q`: the text is in one of the four columns. -/
def matches_q (needle : String) (case : ListedCase) : Bool :=
  [some case.case_id, case.customer_po_number, case.sales_order_id, case.customer_id].any
    fun value => (given value).any fun value =>
      PyVal.holdsText needle.toList value.toLower.toList

/-- `_scope_to_user`: a case is in scope when one of its children is. -/
def in_scope (case : ListedCase) : Bool :=
  let children := stores.children case.tenant_id case.case_id
  if user.assigned_accounts ≠ [] then
    children.any (fun r => r.account_id.any (· ∈ user.assigned_accounts)) ||
      case.customer_id.any (· ∈ user.assigned_accounts)
  else
    match if "partner" ∈ user.roles then given user.retailer_id else none with
    | some retailer_id => children.any fun r => retailer_id.toList.isPrefixOf r.order_id.toList
    | none => true

/-- The filters on the columns of the case and on its intents. -/
def query (tenant_id : String) (request : CasesRequest) : CaseQuery where
  tenant_id := tenant_id
  origin := request.origin
  supergroup_code := request.supergroup_code
  status := request.status
  intents case := (given request.intents).all fun intents =>
    stores.matches_any tenant_id case.case_id (status_set intents)
  cutoff := request.cutoff
  limit := request.limit

/-- The cases that the listing is cut from, the newest first. -/
def found (tenant_id : String) (request : CasesRequest) : List ListedCase :=
  newest (fun case => case.row.stamp) (stores.cases.filter fun case =>
    (stores.query tenant_id request).keeps case.row &&
      (given (request.q.map fun q => (strip q).toLower)).all (matches_q · case) &&
      stores.in_scope user case)

/-! ## The replies -/

/-- The dump of the case, its intents and its summary. -/
structure Item where
  case : ListedCase
  child_intents : List String
  summary : CaseSummary

structure ListResponse where
  items : List Item
  total : ℕ
  cursor : Option String
  has_more : Bool

/-- `_serialise_case`. -/
def serialise_case (case : ListedCase) (tenant_id : String) (expose_dollar_impact : Bool) :
    Except PyErr Item := do
  let records := (stores.children tenant_id case.case_id).map (·.toChildRecord)
  let summary ← compute_case_summary from_iso case.toQueuedCase records
  return { case := case
           child_intents :=
             (stores.intents_for tenant_id case.case_id).insertionSort (· ≤ ·)
           summary :=
             if expose_dollar_impact then summary else { summary with dollar_impact := none } }

def CASE_READERS : List String := ["analyst", "manager", "admin", "viewer", "partner"]

/-- `require_role` and `get_tenant_id`. -/
def tenant_of_reader : Except ApiError String :=
  if ¬ ∃ role ∈ user.roles, role ∈ CASE_READERS then
    .error (.asoe_error "FORBIDDEN"
      ("Requires one of roles: " ++ join ", " CASE_READERS ++ ".") 403)
  else if user.org = "" then
    .error (.asoe_error "MISSING_TENANT" "JWT is missing the 'org' (tenant) claim." 403)
  else .ok user.org

/-- The caller may act on an impact. -/
def expose_dollar_impact : Bool :=
  "exceptions:approve" ∈ user.permissions ∨ "exceptions:override" ∈ user.permissions

/-- `GET /cases`. -/
def list_cases (request : CasesRequest) : Except ApiError ListResponse := do
  let tenant_id ← tenant_of_reader user
  let cases := stores.found user tenant_id request
  let page := cut (fun case : ListedCase => case.case_id) request.limit
    (resume (fun case => case.case_id) cases (given request.cursor))
  let items ← (page.rows.mapM fun case =>
    stores.serialise_case from_iso case tenant_id (expose_dollar_impact user)).mapError .raised
  return { items := items, total := cases.length, cursor := page.next_cursor
           has_more := page.has_more }

/-- `GET /cases/{case_id}`. -/
def get_case (case_id : String) : Except ApiError Item := do
  let tenant_id ← tenant_of_reader user
  match stores.cases.find? fun case => case.case_id = case_id with
  | some case =>
    if case.tenant_id = tenant_id then
      -- no flag is passed, so the impact is exposed
      (stores.serialise_case from_iso case tenant_id true).mapError .raised
    else .error (.asoe_error "NOT_FOUND" ("Case " ++ case_id ++ " not found.") 404)
  | none => .error (.asoe_error "NOT_FOUND" ("Case " ++ case_id ++ " not found.") 404)

/-- The children of one case are these. -/
def with_children (case : ListedCase) (records : List CaseChild) : CaseStores :=
  { stores with
    children := fun tenant_id case_id =>
      if tenant_id = case.tenant_id ∧ case_id = case.case_id then records
      else stores.children tenant_id case_id }

end CaseStores

/-! ## What a caller is told -/

/-- The body of an error and its status. -/
structure ErrorEnvelope where
  code : String
  message : String
  status_code : ℕ
  deriving DecidableEq

/-- The handlers of `errors.py`: an exception that nothing caught tells nothing. -/
def envelope : ApiError → ErrorEnvelope
  | .asoe_error code message status_code => ⟨code, message, status_code⟩
  | .raised _ => ⟨"INTERNAL_ERROR", "An unexpected error occurred.", 500⟩

def told {α : Type} (reply : Except ApiError α) : Except ErrorEnvelope α := reply.mapError envelope

end asoe
