-- The update of a case: the test of a reclassification and the block of a
-- close run on the row that was read before. On the database that read lies
-- outside the transaction that writes, so what another call committed in
-- between counts for neither of them.
import Asoe.CaseStores
import Asoe.Lib.Interleaving

namespace asoe

open py prog runs interleaving

/-! ## The fields and their tests -/

/-- The fields that are given to `update`, each one given or not. -/
structure CaseFields where
  status : Option CaseStatus := none
  supergroup_code : Option (Option String) := none
  pending_override : Option (Option String) := none
  closed_at : Option (Option String) := none
  deriving DecidableEq

/-- Who reclassified, and as what. -/
structure Attribution where
  classified_by : Option String := none
  classifier_type : Option String := none
  deriving DecidableEq

/-- The case with the fields that are given. -/
def CaseFields.apply (fields : CaseFields) (case : OrderCase) : OrderCase :=
  { case with
    status := fields.status.getD case.status
    supergroup_code := fields.supergroup_code.getD case.supergroup_code
    pending_override := fields.pending_override.getD case.pending_override
    closed_at := fields.closed_at.getD case.closed_at }

/-- `sg_is_reclassified`. -/
def CaseFields.Reclassifies (fields : CaseFields) (case : OrderCase) : Prop :=
  fields.supergroup_code.getD case.supergroup_code ≠ case.supergroup_code

instance {fields : CaseFields} {case : OrderCase} : Decidable (fields.Reclassifies case) :=
  inferInstanceAs (Decidable (_ ≠ _))

/-- The case is resolved and in triage. -/
def OrderCase.ClosedInTriage (case : OrderCase) : Prop :=
  case.status = .RESOLVED ∧ case.supergroup_code = some SG_NEEDS_TRIAGE

instance {case : OrderCase} : Decidable case.ClosedInTriage := inferInstanceAs (Decidable (_ ∧ _))

/-- Both names of the author are given. -/
def Attribution.Named (author : Attribution) : Prop :=
  author.classified_by.getD "" ≠ "" ∧ author.classifier_type.getD "" ≠ ""

instance {author : Attribution} : Decidable author.Named := inferInstanceAs (Decidable (_ ∧ _))

/-- The tests that `update` makes on the case that it read. -/
def validate_update (case_id : String) (fields : CaseFields) (author : Attribution)
    (existing : OrderCase) : Except PyErr Unit :=
  if fields.Reclassifies existing ∧ ¬ author.Named then
    .error ⟨"ValueError", "update(case_id=" ++ case_id ++ ") changes supergroup_code but did not "
      ++ "supply classified_by + classifier_type; every reclassification must be attributable "
      ++ "(requirements §8.6)."⟩
  else if (fields.apply existing).ClosedInTriage then
    .error ⟨"NeedsTriageCloseBlocked", "Case " ++ case_id ++ " is in SG_NEEDS_TRIAGE and cannot be "
      ++ "RESOLVED without reclassification (requirements §8.2)."⟩
  else .ok ()

/-! ## On the database -/

structure UpdateCall where
  case_id : String
  fields : CaseFields
  author : Attribution := {}
  intent_code_classification : Option String := none

namespace UpdateCall

/-- The row of the history for a reclassification. -/
def event (call : UpdateCall) (tenant_id : String) : ClassificationEvent :=
  ⟨tenant_id, call.case_id, ((call.fields.supergroup_code.getD none).getD ""),
    call.intent_code_classification, call.author.classified_by.getD "",
    call.author.classifier_type.getD "", none⟩

/-- The first half of `update`: the read, and the tests on what was read. -/
def read (call : UpdateCall) (tables : Tables) : Except PyErr OrderCase := do
  match dict.get tables.api.cases call.case_id with
  | none => throw ⟨"KeyError", "Unknown case_id: " ++ call.case_id⟩
  | some existing =>
    validate_update call.case_id call.fields call.author existing
    return existing

/-- A case that was read as reclassified gets a row in the history. -/
def audit (call : UpdateCall) (existing : OrderCase) (rows : List ClassificationEvent) :
    Except PyErr (List ClassificationEvent) :=
  if call.fields.Reclassifies existing then
    create_classification (call.event existing.tenant_id) rows
  else .ok rows

/-- The second half, one transaction: it writes the given columns of the row
as it is now, and the history when the row that was read was reclassified.
`refused` is what the constraints of the database raise. -/
def write (refused : OrderCase → List ClassificationEvent → Option PyErr) (call : UpdateCall)
    (existing : OrderCase) (tables : Tables) : Except PyErr Tables := do
  let history ← call.audit existing tables.case_classification_history
  match dict.get tables.api.cases call.case_id with
  | none => throw ⟨"IntegrityError", "FOREIGN KEY constraint failed"⟩
  | some case =>
    let updated := if case.tenant_id = existing.tenant_id then call.fields.apply case else case
    match refused updated history with
    | some e => throw e
    | none =>
      return { tables with
        api := { tables.api with cases := dict.set tables.api.cases call.case_id updated }
        case_classification_history := history }

end UpdateCall

/-- How far a call of `update` has come. -/
inductive UpdateState where
  | start
  | validated (existing : OrderCase)
  | done
  | failed (e : PyErr)

variable {κ : Type} (refused : OrderCase → List ClassificationEvent → Option PyErr)
  (calls : κ → UpdateCall)

/-- The next step of a call: the read with its tests, and the transaction. -/
def update_next (i : κ) : UpdateState → Tables → UpdateState × Tables
  | .start, tables =>
    match (calls i).read tables with
    | .ok existing => (.validated existing, tables)
    | .error e => (.failed e, tables)
  | .validated existing, tables =>
    match (calls i).write refused existing tables with
    | .ok tables' => (.done, tables')
    | .error e => (.failed e, tables)
  | .done, tables => (.done, tables)
  | .failed e, tables => (.failed e, tables)

/-! ## What a step writes -/

/-- The tests of a call that is about to write say of the row of this moment
what they said of the row that it read. -/
def UpdateState.TestsHold (call : UpdateCall) (tables : Tables) : UpdateState → Prop
  | .validated existing => ∀ case ∈ dict.get tables.api.cases call.case_id,
      ¬ (call.fields.apply case).ClosedInTriage ∧
      (call.fields.Reclassifies existing ↔ call.fields.Reclassifies case)
  | _ => True

instance decidableTestsHold (call : UpdateCall) (tables : Tables) :
    (l : UpdateState) → Decidable (l.TestsHold call tables)
  | .validated existing =>
    inferInstanceAs (Decidable (∀ case ∈ dict.get tables.api.cases call.case_id,
      ¬ (call.fields.apply case).ClosedInTriage ∧
      (call.fields.Reclassifies existing ↔ call.fields.Reclassifies case)))
  | .start | .done | .failed _ => instDecidableTrue

/-- The row that a call read is one of the tenant of the row now. -/
def UpdateState.SameTenant (call : UpdateCall) (tables : Tables) : UpdateState → Prop
  | .validated existing => ∀ case ∈ dict.get tables.api.cases call.case_id,
      case.tenant_id = existing.tenant_id
  | _ => True

/-- What a step does to the tables: nothing, or it writes the row of the case,
and one row of the history when the row that was read was reclassified. -/
inductive Updated (call : UpdateCall) (l : UpdateState) (t t' : Tables) : Prop where
  | quiet (htables : t' = t)
  | written (existing case : OrderCase) (hl : l = .validated existing)
      (hcase : dict.get t.api.cases call.case_id = some case)
      (hcases : t'.api.cases = dict.set t.api.cases call.case_id (call.fields.apply case))
      (hhistory : t'.case_classification_history =
        if call.fields.Reclassifies existing then
          t.case_classification_history ++ [call.event existing.tenant_id]
        else t.case_classification_history)

theorem create_classification_appends {event : ClassificationEvent}
    {rows : List ClassificationEvent} :
    returns (create_classification event rows) fun rows' => rows' = rows ++ [event] := by
  unfold create_classification
  refine returns_ite (fun _ => returns_error _) fun _ => ?_
  refine returns_ite (fun _ => returns_error _) fun _ => ?_
  refine returns_ite (fun _ => returns_error _) fun _ => ?_
  rw [returns_pure]

section steps

variable {refused calls} {i : κ} {call : UpdateCall} {existing : OrderCase} {t : Tables}

theorem read_cases :
    returns (call.read t) fun existing => dict.get t.api.cases call.case_id = some existing := by
  unfold UpdateCall.read
  rcases hcase : dict.get t.api.cases call.case_id with _ | case
  · exact returns_error _
  · refine returns_bind fun _ _ => ?_
    rw [returns_pure]

theorem write_cases :
    returns (call.write refused existing t) fun t' => ∃ case,
      dict.get t.api.cases call.case_id = some case ∧
      t'.api.cases = dict.set t.api.cases call.case_id
        (if case.tenant_id = existing.tenant_id then call.fields.apply case else case) ∧
      t'.case_classification_history =
        if call.fields.Reclassifies existing then
          t.case_classification_history ++ [call.event existing.tenant_id]
        else t.case_classification_history := by
  unfold UpdateCall.write
  refine returns_bind fun history hhistory => ?_
  have hrows : history = if call.fields.Reclassifies existing then
      t.case_classification_history ++ [call.event existing.tenant_id]
      else t.case_classification_history := by
    unfold UpdateCall.audit at hhistory
    split at hhistory
    · rename_i hre
      rw [if_pos hre]
      exact create_classification_appends _ hhistory
    · rename_i hre
      rw [if_neg hre]
      exact (Except.ok.inj hhistory).symm
  rcases hcase : dict.get t.api.cases call.case_id with _ | case
  · exact returns_error _
  · dsimp only
    split
    · exact returns_error _
    · exact (returns_pure _).mpr ⟨case, rfl, rfl, hrows⟩

variable (refused) in
theorem update_next_written {l : UpdateState} (htenant : l.SameTenant (calls i) t) :
    Updated (calls i) l t (update_next refused calls i l t).2 := by
  cases l with
  | start =>
    rw [update_next]
    split
    · exact .quiet rfl
    · exact .quiet rfl
  | done => exact .quiet rfl
  | failed e => exact .quiet rfl
  | validated existing =>
    rw [update_next]
    rcases hwrite : (calls i).write refused existing t with e | t'
    · exact .quiet rfl
    · obtain ⟨case, hcase, hcases, hhistory⟩ := write_cases _ hwrite
      rw [if_pos (htenant case hcase)] at hcases
      exact .written existing case rfl hcase hcases hhistory

end steps

/-! ## Schedules -/

/-- No case is resolved and in triage. -/
def NoneClosedInTriage (t : Tables) : Prop :=
  ∀ id case, dict.get t.api.cases id = some case → ¬ case.ClosedInTriage

/-- The change of the supergroup of a case between two states, with its new
value. -/
def supergroup_change (case_id : String) (t t' : Tables) : List (String × String) :=
  match dict.get t.api.cases case_id, dict.get t'.api.cases case_id with
  | some case, some case' =>
    if case'.supergroup_code ≠ case.supergroup_code then
      [(case_id, case'.supergroup_code.getD "")]
    else []
  | _, _ => []

/-- The case and the new supergroup of each row of the history. -/
def history_changes (t : Tables) : List (String × String) :=
  t.case_classification_history.map fun row => (row.case_id, row.supergroup_code)

section schedules

variable [DecidableEq κ]

/-- The changes of supergroups that a schedule commits, in order. -/
def committed_changes : Conf κ UpdateState Tables → List κ → List (String × String)
  | _, [] => []
  | c, i :: schedule =>
    supergroup_change (calls i).case_id c.shared
        (interleaving.step (update_next refused calls) i c).shared ++
      committed_changes (interleaving.step (update_next refused calls) i c) schedule

/-- The calls before their first step. -/
def updates_start (t : Tables) : Conf κ UpdateState Tables := ⟨fun _ => .start, t⟩

/-- The calls and the tables after this schedule. -/
abbrev updates (t : Tables) (schedule : List κ) : Conf κ UpdateState Tables :=
  run (interleaving.step (update_next refused calls)) (updates_start t) schedule

variable {refused calls} {i : κ} {c : Conf κ UpdateState Tables}

theorem sameTenant_step (h : ∀ j, (c.locals j).SameTenant (calls j) c.shared) :
    ∀ j, ((interleaving.step (update_next refused calls) i c).locals j).SameTenant (calls j)
      (interleaving.step (update_next refused calls) i c).shared := by
  -- No step changes the tenant of a row.
  have hkept : ∀ id case, dict.get
      (interleaving.step (update_next refused calls) i c).shared.api.cases id = some case →
      ∃ case', dict.get c.shared.api.cases id = some case' ∧ case.tenant_id = case'.tenant_id := by
    intro id case hid
    rw [step_shared] at hid
    cases update_next_written refused (h i) with
    | quiet htables =>
      rw [htables] at hid
      exact ⟨case, hid, rfl⟩
    | written existing case' hl hcase hcases =>
      rw [hcases] at hid
      by_cases hsame : id = (calls i).case_id
      · subst hsame
        rw [dict.get_set_self] at hid
        cases hid
        exact ⟨case', hcase, rfl⟩
      · rw [dict.get_set_of_ne _ _ hsame] at hid
        exact ⟨case, hid, rfl⟩
  intro j
  by_cases hij : j = i
  · subst hij
    rw [step_locals_self]
    rcases hl : c.locals j with _ | existing | _ | e
    · rw [update_next]
      split
      · rename_i existing hread
        intro case hcase
        obtain ⟨case', hcase', htenant⟩ := hkept _ _ hcase
        cases (read_cases _ hread).symm.trans hcase'
        exact htenant
      · trivial
    · rw [update_next]
      split
      · trivial
      · trivial
    · trivial
    · trivial
  · rw [step_locals_of_ne _ c hij]
    have hj := h j
    rcases hl : c.locals j with _ | existing | _ | e
    · trivial
    · rw [hl] at hj
      intro case hcase
      obtain ⟨case', hcase', htenant⟩ := hkept _ _ hcase
      exact htenant.trans (hj case' hcase')
    · trivial
    · trivial

/-- When its tests hold, a step closes no case in triage, and it adds to the
history exactly the change of the supergroup that it makes. -/
theorem tested_step (htests : (c.locals i).TestsHold (calls i) c.shared)
    (htenant : (c.locals i).SameTenant (calls i) c.shared) (hnone : NoneClosedInTriage c.shared) :
    NoneClosedInTriage (interleaving.step (update_next refused calls) i c).shared ∧
      history_changes (interleaving.step (update_next refused calls) i c).shared =
        history_changes c.shared ++ supergroup_change (calls i).case_id c.shared
          (interleaving.step (update_next refused calls) i c).shared := by
  rw [step_shared]
  cases update_next_written refused htenant with
  | quiet htables =>
    rw [htables]
    refine ⟨hnone, ?_⟩
    unfold supergroup_change
    rcases dict.get c.shared.api.cases (calls i).case_id with _ | case
    · simp
    · simp
  | written existing case hl hcase hcases hhistory =>
    rw [hl] at htests
    obtain ⟨hopen, hre⟩ := htests case hcase
    refine ⟨fun id case' hid => ?_, ?_⟩
    · rw [hcases] at hid
      by_cases hsame : id = (calls i).case_id
      · subst hsame
        rw [dict.get_set_self] at hid
        cases hid
        exact hopen
      · rw [dict.get_set_of_ne _ _ hsame] at hid
        exact hnone id case' hid
    · unfold supergroup_change history_changes
      rw [hhistory, hcases, hcase, dict.get_set_self]
      dsimp only
      by_cases hchange : (calls i).fields.Reclassifies case
      · have hother : ((calls i).fields.apply case).supergroup_code ≠ case.supergroup_code := hchange
        rw [if_pos (hre.mpr hchange), if_pos hother, List.map_append]
        rcases hcode : (calls i).fields.supergroup_code with _ | code
        · rw [CaseFields.Reclassifies, hcode] at hchange
          exact absurd rfl hchange
        · simp [UpdateCall.event, CaseFields.apply, hcode]
      · have hsame : ¬ ((calls i).fields.apply case).supergroup_code ≠ case.supergroup_code :=
          hchange
        rw [if_neg (fun h => hchange (hre.mp h)), if_neg hsame, List.append_nil]

theorem updates_tested {schedule : List κ}
    (htenant : ∀ j, (c.locals j).SameTenant (calls j) c.shared)
    (hnone : NoneClosedInTriage c.shared)
    (htests : AllSteps (interleaving.step (update_next refused calls))
      (fun i c => (c.locals i).TestsHold (calls i) c.shared) c schedule) :
    NoneClosedInTriage (run (interleaving.step (update_next refused calls)) c schedule).shared ∧
      history_changes (run (interleaving.step (update_next refused calls)) c schedule).shared =
        history_changes c.shared ++ committed_changes refused calls c schedule := by
  induction schedule generalizing c with
  | nil => exact ⟨hnone, (List.append_nil _).symm⟩
  | cons i schedule ih =>
    obtain ⟨hnext, hchange⟩ := tested_step htests.1 (htenant i) hnone
    obtain ⟨hend, hchanges⟩ := ih (sameTenant_step htenant) hnext htests.2
    refine ⟨hend, ?_⟩
    rw [run_cons, hchanges, hchange, List.append_assoc]
    rfl

end schedules

/-- A case in a supergroup of its own. -/
def pricingCase : Tables :=
  { api := { cases := [("C1", ⟨"C1", "T1", .OPEN_AWAITING_HUMAN, some "SG_BLOCK_PRICING", none,
      none⟩)] } }

def asHuman : Attribution := { classified_by := some "ann", classifier_type := some "HUMAN" }

/-- One call reclassifies the case, the other one resolves it. -/
def moveAndClose (code : String) (i : Bool) : UpdateCall :=
  if i then { case_id := "C1", fields := { status := some .RESOLVED } }
  else { case_id := "C1", fields := { supergroup_code := some (some code) }, author := asHuman }

/-- Both calls reclassify the case alike. -/
def moveTwice (_ : Bool) : UpdateCall :=
  { case_id := "C1", fields := { supergroup_code := some (some "SG_BLOCK_CREDIT") }
    author := asHuman }

end asoe
