-- The cases on the database: how an event finds its case or opens one, what
-- that writes to the tables of the case store, and when the status of the
-- case is moved.
import Asoe.Transitions

namespace asoe

open py prog

/-! ## The tables -/

/-- Tenant, type and value of a correlation key. -/
abbrev CorrelationKey := String × String × String

structure ClassificationEvent where
  tenant_id : String
  case_id : String
  supergroup_code : String
  intent_code : Option String
  classified_by : String
  classifier_type : String
  child_case_id : Option String := none
  deriving DecidableEq

/-- The tables behind the service, with the two that only the case store
writes. -/
structure Tables where
  api : Api := {}
  case_correlation_keys : List (CorrelationKey × String) := []
  case_classification_history : List ClassificationEvent := []
  deriving DecidableEq

abbrev TablesM := EStateM ApiError Tables

/-- A part of the service that raises Python exceptions only. -/
def lift_tables {α : Type} (r : Except PyErr α) : TablesM α :=
  MonadExcept.ofExcept (r.mapError .raised)

/-- A program on the tables of the service. -/
def on_api {α : Type} (x : ApiM α) : TablesM α :=
  zoom Tables.api (fun api tables => { tables with api := api }) x

inductive DatabaseKind where
  | sqlite | postgres
  deriving DecidableEq

/-- The database that the intake of an event meets, and the parts of the
intake that the model leaves open. -/
structure Intake where
  database : DatabaseKind
  new_case_id : String
  upper : String → String
  email_supergroup : OrderEvent → Option String
  bind_text : PyVal → Except PyErr String
  insert_error : Tables → ChildCase → Option PyErr

/-! ## Intake classification -/

def MANUAL_EVENT_TYPES : List String :=
  ["MANUAL_ORDER_INTAKE", "EMAIL_ORDER_ENTRY_REQUEST", "EMAIL_ORDER"]

def derive_origin_and_channel (upper : String → String) (event : OrderEvent) : String × String :=
  match metadata_get event "origin", metadata_get event "source_channel" with
  | .str origin, .str channel => (origin, channel)
  | _, _ =>
    if upper event.event_type ∈ MANUAL_EVENT_TYPES then ("CUSTOMER", "email")
    else ("API", "edi_x12_850")

def supergroup_for_intent : Intent → String
  | .CONTRACTUAL_CORRECTION | .DUPLICATE_PO | .EDI_MISMATCH => "SG_BLOCK_ORDER_INTEGRITY"
  | .CREDIT_BLOCK => "SG_BLOCK_CREDIT"
  | .MASS_PRICING_ERROR | .PRICE_HOLD_RELEASE => "SG_BLOCK_PRICING"
  | .BACK_ORDER | .OVER_MAX | .MIN_ORDER_QTY => "SG_BLOCK_AVAILABILITY"
  | .PALLET_CONFIG | .DELIVERY_DELAY => "SG_BLOCK_LOGISTICS"
  | .MANUAL_ORDER_INTAKE => "SG_NEW_ORDER"
  | .UNKNOWN => SG_NEEDS_TRIAGE

def intent_code_for (intent : Intent) : String := "INT_" ++ intent.value

structure CaseClassification where
  supergroup_code : String
  intent_code : Option String
  classified_by : String
  classifier_type : String

/-- The supergroup that a case is opened with: for a customer's email the
one of its classifier, when it decides. -/
def classify_case (intake : Intake) (event : OrderEvent) (origin : String) (intent : Intent) :
    CaseClassification :=
  let by_rule : CaseClassification :=
    ⟨supergroup_for_intent intent, some (intent_code_for intent), "system:case_intake", "RULE"⟩
  if origin = "CUSTOMER" then
    match intake.email_supergroup event with
    | some code =>
      if code ≠ SG_NEEDS_TRIAGE then ⟨code, none, "system:email_supergroup_classifier", "MODEL"⟩
      else by_rule
    | none => by_rule
  else by_rule

/-! ## Finding or opening the case -/

/-- The keys by which the event is correlated, in the order in which they
are tried. -/
def correlation_keys (event : OrderEvent) : List (String × PyVal) :=
  [("sales_order_id", metadata_get event "sales_order_id"),
    ("customer_po_number", (metadata_get event "customer_po_number").or (.str event.order_id)),
    ("edi_transaction_id", metadata_get event "edi_transaction_id"),
    ("source_email_id", metadata_get event "source_email_id")]

/-- The first key that is set and registered wins. -/
def find_by_priority (bind_text : PyVal → Except PyErr String) (tenant_id : String)
    (correlation : List (CorrelationKey × String)) :
    List (String × PyVal) → Except PyErr (Option String)
  | [] => .ok none
  | (key_type, key_value) :: keys =>
    if !key_value.truthy then find_by_priority bind_text tenant_id correlation keys
    else do
      let text ← bind_text key_value
      match dict.get correlation (tenant_id, key_type, text) with
      | some case_id => return some case_id
      | none => find_by_priority bind_text tenant_id correlation keys

/-- Every key that is set is pointed at the case. -/
def register_keys (bind_text : PyVal → Except PyErr String) (tenant_id case_id : String) :
    List (String × PyVal) → List (CorrelationKey × String) →
    Except PyErr (List (CorrelationKey × String))
  | [], correlation => .ok correlation
  | (key_type, key_value) :: keys, correlation =>
    if !key_value.truthy then register_keys bind_text tenant_id case_id keys correlation
    else do
      let text ← bind_text key_value
      register_keys bind_text tenant_id case_id keys
        (dict.set correlation (tenant_id, key_type, text) case_id)

/-- The types that `OrderCase` declares for its origin and its keys. -/
def valid_case (origin : String) (keys : List (String × PyVal)) : Bool :=
  (origin = "CUSTOMER" || origin = "API") && keys.all fun key =>
    match key.2 with
    | .none | .str _ => true
    | _ => false

/-- `DatabaseBackedCaseStore.lookup_or_create`: one transaction, so that an
exception leaves the tables as they were. -/
def lookup_or_create (intake : Intake) (tenant_id origin : String) (keys : List (String × PyVal))
    (classification : CaseClassification) (tables : Tables) :
    Except PyErr (Tables × OrderCase × Bool) := do
  match ← find_by_priority intake.bind_text tenant_id tables.case_correlation_keys keys with
  | some existing_id =>
    let correlation ← register_keys intake.bind_text tenant_id existing_id keys
      tables.case_correlation_keys
    match dict.get tables.api.cases existing_id with
    | some case =>
      if case.tenant_id ≠ tenant_id then
        throw ⟨"TypeError", "argument after ** must be a mapping, not NoneType"⟩
      return ({ tables with case_correlation_keys := correlation }, case, false)
    | none => throw ⟨"TypeError", "argument after ** must be a mapping, not NoneType"⟩
  | none =>
    if !valid_case origin keys then
      throw ⟨"ValidationError", "validation error for OrderCase"⟩
    if (dict.get tables.api.cases intake.new_case_id).isSome then
      throw ⟨"IntegrityError", "UNIQUE constraint failed: order_case.case_id"⟩
    let case : OrderCase :=
      ⟨intake.new_case_id, tenant_id, .OPEN_AGENT_PROCESSING, some classification.supergroup_code,
        none, none⟩
    let correlation ← register_keys intake.bind_text tenant_id case.case_id keys
      tables.case_correlation_keys
    if tenant_id = "" then
      throw ⟨"ValueError", "tenant_id is required (ADR-028 Guard-rail 4)."⟩
    return ({ api := { tables.api with cases := dict.set tables.api.cases case.case_id case }
              case_correlation_keys := correlation
              case_classification_history := tables.case_classification_history ++
                [⟨tenant_id, case.case_id, classification.supergroup_code,
                  classification.intent_code, classification.classified_by,
                  classification.classifier_type, none⟩] }, case, true)

def resolve_or_open_case (intake : Intake) (tenant_id : String) (event : OrderEvent)
    (intent : Intent) (tables : Tables) : Except PyErr (Tables × OrderCase × Bool) :=
  let origin := (derive_origin_and_channel intake.upper event).1
  lookup_or_create intake tenant_id origin (correlation_keys event)
    (classify_case intake event origin intent) tables

/-- `materialise_for_event`: the case is committed, then its status is rolled
up with the event's own folded in. -/
def materialise_for_event (cfg : Config) (env : StepEnv) (intake : Intake) (tenant_id : String)
    (event : OrderEvent) (final_status : Option TerminalStatus) (intent : Intent) :
    TablesM OrderCase := do
  let tables ← get
  let (tables, case, _) ← lift_tables (resolve_or_open_case intake tenant_id event intent tables)
  set tables
  on_api (recompute_case_status cfg env tenant_id case.case_id [resolve_lifecycle final_status])
  return case

/-! ## What they can do -/

section rules

variable {α : Type} {t : Tables}

theorem wp_lift_tables {x : Except PyErr α} {Q : α → Tables → Prop}
    {E : ApiError → Tables → Prop} (hQ : ∀ a, x = .ok a → Q a t)
    (hE : ∀ e, x = .error e → E (.raised e) t) : wp (lift_tables x) Q E t := by
  unfold lift_tables
  rw [wp_ofExcept]
  rcases x with e | a
  · refine ⟨fun a h => (by cases h), fun e' h => ?_⟩
    cases h
    exact hE e rfl
  · refine ⟨fun a' h => ?_, fun e h => (by cases h)⟩
    cases h
    exact hQ a rfl

end rules

section lookup

variable {intake : Intake} {tenant origin : String} {keys : List (String × PyVal)}
  {classification : CaseClassification} {t : Tables}

/-- The row of a case that was just opened. -/
def opened_case (intake : Intake) (tenant : String) (classification : CaseClassification) :
    OrderCase :=
  ⟨intake.new_case_id, tenant, .OPEN_AGENT_PROCESSING, some classification.supergroup_code, none,
    none⟩

/-- What a lookup commits: the keys of a case that it found, or a case that
it opened. -/
inductive LookedUp (intake : Intake) (tenant : String) (keys : List (String × PyVal))
    (classification : CaseClassification) (t : Tables) : Tables × OrderCase × Bool → Prop where
  | attached (case_id : String) (case : OrderCase) (correlation : List (CorrelationKey × String))
      (hfind : find_by_priority intake.bind_text tenant t.case_correlation_keys keys =
        .ok (some case_id))
      (hcase : dict.get t.api.cases case_id = some case)
      (hregister : register_keys intake.bind_text tenant case_id keys t.case_correlation_keys =
        .ok correlation) :
      LookedUp intake tenant keys classification t
        ({ t with case_correlation_keys := correlation }, case, false)
  | opened (correlation : List (CorrelationKey × String))
      (history : List ClassificationEvent)
      (hfind : find_by_priority intake.bind_text tenant t.case_correlation_keys keys = .ok none)
      (hunused : dict.get t.api.cases intake.new_case_id = none) :
      LookedUp intake tenant keys classification t
        ({ api := { t.api with
             cases := dict.set t.api.cases intake.new_case_id
               (opened_case intake tenant classification) }
           case_correlation_keys := correlation
           case_classification_history := history },
          opened_case intake tenant classification, true)

theorem lookup_or_create_cases :
    returns (lookup_or_create intake tenant origin keys classification t)
      (LookedUp intake tenant keys classification t) := by
  unfold lookup_or_create
  refine returns_bind fun existing hfind => ?_
  rcases existing with _ | existing_id
  · refine returns_ite (fun _ => returns_error _) fun _ => ?_
    refine returns_ite (fun _ => returns_error _) fun hunused => ?_
    refine returns_bind fun correlation _ => ?_
    refine returns_ite (fun _ => returns_error _) fun _ => (returns_pure _).mpr ?_
    exact .opened correlation _ hfind (by simpa using hunused)
  · refine returns_bind fun correlation hregister => ?_
    split
    · rename_i case hcase
      refine returns_ite (fun _ => returns_error _) fun _ => (returns_pure _).mpr ?_
      exact .attached existing_id case correlation hfind hcase hregister
    · exact returns_error _

theorem LookedUp.records {found : Tables × OrderCase × Bool}
    (h : LookedUp intake tenant keys classification t found) :
    found.1.api.records = t.api.records := by
  cases h <;> rfl

end lookup

/-! ## The roll-up -/

/-- The status that the records of a case, and those that come in, roll up
to. -/
def rolled_up_status (cfg : Config) (api : Api) (tenant_id case_id : String)
    (incoming : List LifecycleState) : Option CaseStatus :=
  max_status (((list_by_case cfg api tenant_id case_id).map (·.lifecycle_state) ++ incoming).map
    case_status_from_lifecycle)

/-- The case waits for a cosign, or it has the status already that it rolls
up to. -/
def KeepsStatus (cfg : Config) (api : Api) (tenant_id case_id : String)
    (incoming : List LifecycleState) : Prop :=
  ∀ case, dict.get api.cases case_id = some case → case.pending_override = none →
    ∀ status, rolled_up_status cfg api tenant_id case_id incoming = some status →
      status = case.status

/-- The case with another status. -/
def Moves (api : Api) (case_id : String) (api' : Api) : Prop :=
  ∃ case status closed_at, dict.get api.cases case_id = some case ∧ status ≠ case.status ∧
    api' = { api with
      cases := dict.set api.cases case_id { case with status := status, closed_at := closed_at } }

theorem recompute_case_status_moves {cfg : Config} {env : StepEnv} {tenant case_id : String}
    {incoming : List LifecycleState} {api : Api} :
    wp (recompute_case_status cfg env tenant case_id incoming)
      (fun _ api' => (KeepsStatus cfg api tenant case_id incoming ∧ api' = api) ∨
        (¬ KeepsStatus cfg api tenant case_id incoming ∧ Moves api case_id api'))
      (fun _ api' => api' = api) api := by
  unfold recompute_case_status
  rw [wp_bind, wp_get]
  rcases hcase : dict.get api.cases case_id with _ | case
  · refine Or.inl ⟨fun case h => ?_, rfl⟩
    cases hcase.symm.trans h
  dsimp only
  rw [wp_ite]
  refine ⟨fun hparked => Or.inl ⟨fun case' h hnone => ?_, rfl⟩, fun hfree => ?_⟩
  · cases hcase.symm.trans h
    simp [hnone] at hparked
  rcases hroll : rolled_up_status cfg api tenant case_id incoming with _ | status
  · unfold rolled_up_status at hroll
    rw [hroll]
    refine Or.inl ⟨fun case' _ _ status h => ?_, rfl⟩
    unfold rolled_up_status at h
    cases hroll.symm.trans h
  have hroll' := hroll
  unfold rolled_up_status at hroll'
  rw [hroll']
  dsimp only
  rw [wp_ite]
  refine ⟨fun hsame => Or.inl ⟨fun case' h _ status' h' => ?_, rfl⟩, fun hother => ?_⟩
  · cases hcase.symm.trans h
    cases hroll.symm.trans h'
    exact hsame
  have hmoves : ¬ KeepsStatus cfg api tenant case_id incoming :=
    fun hkeep => hother (hkeep case hcase (by simpa using hfree) status hroll)
  have hupdate : ∀ closed_at, wp (update_case_status case_id case status closed_at)
      (fun _ api' => (KeepsStatus cfg api tenant case_id incoming ∧ api' = api) ∨
        (¬ KeepsStatus cfg api tenant case_id incoming ∧ Moves api case_id api'))
      (fun _ api' => api' = api) api := by
    intro closed_at
    unfold update_case_status
    rw [wp_bind, wp_require]
    refine ⟨fun _ => Or.inr ⟨hmoves, case, status, closed_at, hcase, hother, rfl⟩, fun _ => rfl⟩
  rw [wp_ite]
  exact ⟨fun _ => hupdate _, fun _ => hupdate _⟩

/-! ## The whole intake -/

section intake

variable {cfg : Config} {env : StepEnv} {intake : Intake} {tenant : String} {event : OrderEvent}
  {final_status : Option TerminalStatus} {intent : Intent} {t t' : Tables} {case : OrderCase}

theorem resolve_or_open_case_cases :
    returns (resolve_or_open_case intake tenant event intent t)
      (LookedUp intake tenant (correlation_keys event)
        (classify_case intake event (derive_origin_and_channel intake.upper event).1 intent) t) :=
  lookup_or_create_cases

/-- What an intake leaves in the tables: its case, and the status of that
case where it has to move. -/
inductive Materialised (cfg : Config) (intake : Intake) (tenant : String) (event : OrderEvent)
    (final_status : Option TerminalStatus) (intent : Intent) (t : Tables) :
    OrderCase → Tables → Prop where
  | kept (found : Tables × OrderCase × Bool)
      (hfound : resolve_or_open_case intake tenant event intent t = .ok found)
      (hkeeps : KeepsStatus cfg found.1.api tenant found.2.1.case_id
        [resolve_lifecycle final_status]) :
      Materialised cfg intake tenant event final_status intent t found.2.1 found.1
  | moved (found : Tables × OrderCase × Bool) (api' : Api)
      (hfound : resolve_or_open_case intake tenant event intent t = .ok found)
      (hmust : ¬ KeepsStatus cfg found.1.api tenant found.2.1.case_id
        [resolve_lifecycle final_status])
      (hmoves : Moves found.1.api found.2.1.case_id api') :
      Materialised cfg intake tenant event final_status intent t found.2.1
        { found.1 with api := api' }

theorem Moves.records {api api' : Api} {case_id : String} (h : Moves api case_id api') :
    api'.records = api.records := by
  obtain ⟨case, status, closed_at, -, -, rfl⟩ := h
  rfl

theorem Materialised.records
    (h : Materialised cfg intake tenant event final_status intent t case t') :
    t'.api.records = t.api.records := by
  cases h with
  | kept found hfound => exact (resolve_or_open_case_cases found hfound).records
  | moved found api' hfound _ hmoves =>
    exact hmoves.records.trans (resolve_or_open_case_cases found hfound).records

theorem materialise_for_event_cases :
    wp (materialise_for_event cfg env intake tenant event final_status intent)
      (Materialised cfg intake tenant event final_status intent t)
      (fun _ t' => t'.api.records = t.api.records) t := by
  unfold materialise_for_event
  rw [wp_bind, wp_get, wp_bind]
  refine wp_lift_tables (fun found hfound => ?_) fun _ _ => rfl
  obtain ⟨t₁, case, opened⟩ := found
  have hrecords := (resolve_or_open_case_cases _ hfound).records
  simp only [wp_bind, wp_set, on_api, wp_zoom, wp_pure]
  refine wp_mono recompute_case_status_moves ?_ ?_
  · rintro - api' (⟨hkeeps, rfl⟩ | ⟨hmust, hmoves⟩)
    · exact .kept _ hfound hkeeps
    · exact .moved _ api' hfound hmust hmoves
  · rintro e api' rfl
    exact hrecords

end intake

end asoe
