-- The summary of a case in the queue. Its colour is the worst verdict of its
-- children, but the rules that hold a colour at amber look only at the child
-- with the largest impact.
import Asoe.SummaryTemplates

namespace asoe

open py prog analysis

/-! ## The summary -/

inductive AttentionState where
  | NEEDS_HUMAN | IN_FLIGHT | DONE
  deriving DecidableEq

def attention_of : CaseStatus → AttentionState
  | .OPEN_AWAITING_HUMAN | .FAILED | .BLOCKED => .NEEDS_HUMAN
  | .OPEN_AGENT_PROCESSING | .OPEN_AWAITING_BUYER | .OPEN_AWAITING_ERP => .IN_FLIGHT
  | .RESOLVED => .DONE

structure DollarImpact where
  amount_cents : ℤ
  currency : String
  deriving DecidableEq

structure CaseSummary where
  customer_name : Option String
  top_line_sku_code : PyVal
  top_line_sku_title : Option String
  problem_one_liner : Option String
  intent : Option String
  dollar_impact : Option DollarImpact
  audit_verdict_color : Option VerdictColor
  attention_state : AttentionState

/-- The worst verdict of the children. -/
def verdict_color_rollup (records : List ChildRecord) : Option VerdictColor :=
  if records.any (·.shadow_verdict = some .RED) then some .R
  else if records.any (·.shadow_verdict = some .YELLOW) then some .A
  else if records.any (·.shadow_verdict = some .GREEN) then some .G
  else none

/-- The sort key `(amount is None, -(amount or 0.0))`. -/
def impact_key (amount : Option PyFloat) : Bool × PyFloat :=
  (amount.isNone, (amount.getD (.fin 0)).neg)

def larger_impact (a b : Bool × PyFloat) : Bool :=
  (!a.1 && b.1) || (a.1 == b.1 && a.2.lt b.2)

/-- The child with the largest impact, the first one where none has any. -/
def pick_primary_record (records : List ChildRecord) : Except PyErr (Option ChildRecord) := do
  let with_impact ← records.mapM fun r => do
    return (impact_key (← as_float (value_at r.resolution_data "financial_impact_usd")), r)
  return (sortByKey larger_impact with_impact).head?

/-- `currency` is three letters. -/
def currency_code : PyVal → Option String
  | .str currency =>
    if currency.length = 3 ∧ currency.toList.all Char.isAlpha then some currency.toUpper else none
  | _ => none

/-- The impact of the child in cents. -/
def dollar_impact_of (record : Option ChildRecord) : Except PyErr (Option DollarImpact) :=
  match record with
  | none => .ok none
  | some record => do
    let rd := record.resolution_data
    let preferred := value_at rd "financial_impact"
    let (raw_amount, currency) :=
      if preferred = .none then
        (value_at rd "financial_impact_usd", (value_at rd "currency").or (.str "USD"))
      else (preferred, value_at rd "currency")
    match ← as_float raw_amount with
    | none => return none
    | some amount =>
      if amount.eq (.fin 0) then return none
      match currency_code currency with
      | none => return none
      | some currency =>
        return some { amount_cents := ← rounded_int (amount.mul (.fin 100)), currency := currency }

def intent_of (record : Option ChildRecord) : Option String := record.bind (·.intent)

def compute_case_summary (from_iso : FromIso) (case : QueuedCase) (records : List ChildRecord) :
    Except PyErr CaseSummary := do
  let primary ← pick_primary_record records
  let rendered ← render_template from_iso primary
  let gated_color ← apply_verdict_color_gates (verdict_color_rollup records) (intent_of primary)
    primary case
  let dollar_impact ← dollar_impact_of primary
  return { customer_name := case.customer_id, top_line_sku_code := rendered.sku_code
           top_line_sku_title := rendered.sku_title
           problem_one_liner :=
             (given rendered.one_liner).or (reason_headline_fallback primary)
           intent := intent_of primary, dollar_impact := dollar_impact
           audit_verdict_color := gated_color, attention_state := attention_of case.status }

/-! ## The worst verdict -/

variable {records records' : List ChildRecord} {case : QueuedCase} {primary : Option ChildRecord}
  {raw color : Option VerdictColor}

def HasVerdict (verdict : ShadowStatus) (records : List ChildRecord) : Prop :=
  ∃ r ∈ records, r.shadow_verdict = some verdict

theorem HasVerdict.mono {verdict : ShadowStatus} (hmore : records ⊆ records')
    (h : HasVerdict verdict records) : HasVerdict verdict records' := by
  obtain ⟨r, hr, hverdict⟩ := h
  exact ⟨r, hmore hr, hverdict⟩

theorem any_iff (verdict : ShadowStatus) :
    (records.any fun r => r.shadow_verdict = some verdict) = true ↔ HasVerdict verdict records := by
  simp [HasVerdict]

theorem rollup_eq_r : verdict_color_rollup records = some .R ↔ HasVerdict .RED records := by
  rw [← any_iff]
  unfold verdict_color_rollup
  split
  · simp_all
  · split
    · simp_all
    · split <;> simp_all

theorem rollup_eq_g : verdict_color_rollup records = some .G ↔
    ¬ HasVerdict .RED records ∧ ¬ HasVerdict .YELLOW records ∧ HasVerdict .GREEN records := by
  rw [← any_iff, ← any_iff, ← any_iff]
  unfold verdict_color_rollup
  split
  · simp_all
  · split
    · simp_all
    · split <;> simp_all

theorem rollup_eq_a : verdict_color_rollup records = some .A ↔
    ¬ HasVerdict .RED records ∧ HasVerdict .YELLOW records := by
  rw [← any_iff, ← any_iff]
  unfold verdict_color_rollup
  split
  · simp_all
  · split
    · simp_all
    · split <;> simp_all

/-! ## The rules of the primary child -/

/-- The rule for its intent speaks for the child. -/
def SpeaksFor (rule : String → ChildRecord → Except PyErr Bool) (record : ChildRecord) : Prop :=
  ∃ intent, record.intent = some intent ∧ rule intent record = .ok true

/-- A rule keeps the child from showing red. -/
def NeverRed : ChildRecord → Prop := SpeaksFor should_ceiling_at_amber

/-- A rule keeps the child from showing green. -/
def NeverGreen (case : QueuedCase) : ChildRecord → Prop :=
  SpeaksFor fun intent record => should_floor_to_amber intent record case

/-- The colour that the children show, unless the rule speaks for the primary
child. -/
def held_at_amber (rule : String → ChildRecord → Except PyErr Bool) (shown : VerdictColor)
    (primary : Option ChildRecord) : Except PyErr (Option VerdictColor) :=
  match intent_of primary, primary with
  | some intent, some record => do return some (if ← rule intent record then .A else shown)
  | _, _ => .ok (some shown)

theorem held_at_amber_cases {rule : String → ChildRecord → Except PyErr Bool}
    {shown : VerdictColor} (h : held_at_amber rule shown primary = .ok color) :
    color = some shown ∧ (∀ p, primary = some p → ¬ SpeaksFor rule p) ∨
      color = some .A ∧ ∃ p, primary = some p ∧ SpeaksFor rule p := by
  rcases primary with _ | p
  · left
    simp only [held_at_amber, intent_of, Option.bind_none, Except.ok.injEq] at h
    exact ⟨h.symm, fun p hp => by cases hp⟩
  · rcases hintent : p.intent with _ | intent
    · left
      simp only [held_at_amber, intent_of, Option.bind_some, hintent, Except.ok.injEq] at h
      refine ⟨h.symm, ?_⟩
      rintro q ⟨rfl⟩ ⟨intent, hq, -⟩
      rw [hintent] at hq
      cases hq
    · simp only [held_at_amber, intent_of, Option.bind_some, hintent] at h
      rcases hrule : rule intent p with e | _ | _ <;> rw [hrule] at h <;> cases h
      · left
        refine ⟨rfl, ?_⟩
        rintro q ⟨rfl⟩ ⟨intent', hq, hholds⟩
        rw [hintent, Option.some.injEq] at hq
        rw [← hq, hrule] at hholds
        cases hholds
      · right
        exact ⟨rfl, p, rfl, intent, hintent, hrule⟩

theorem gates_of_r : apply_verdict_color_gates (some .R) (intent_of primary) primary case =
    held_at_amber should_ceiling_at_amber .R primary := by
  unfold apply_verdict_color_gates held_at_amber
  rcases primary with _ | p
  · rfl
  · rcases hintent : p.intent with _ | intent <;> simp [intent_of, hintent]

theorem gates_of_g : apply_verdict_color_gates (some .G) (intent_of primary) primary case =
    held_at_amber (fun intent record => should_floor_to_amber intent record case) .G primary := by
  unfold apply_verdict_color_gates held_at_amber
  rcases primary with _ | p
  · rfl
  · rcases hintent : p.intent with _ | intent <;> simp [intent_of, hintent]

theorem gates_of_a : apply_verdict_color_gates (some .A) (intent_of primary) primary case =
    .ok (some .A) := rfl

/-! ## The colour of a case -/

/-- What the colour says about the children, of whom this is the primary one. -/
structure ColourRight (case : QueuedCase) (records : List ChildRecord)
    (primary : Option ChildRecord) (color : Option VerdictColor) : Prop where
  of_red : HasVerdict .RED records →
    color = some .R ∧ (∀ p, primary = some p → ¬ NeverRed p) ∨
      color = some .A ∧ ∃ p, primary = some p ∧ NeverRed p
  red : color = some .R → HasVerdict .RED records
  amber : color = some .A → HasVerdict .RED records ∨ HasVerdict .YELLOW records ∨
    ∃ p, primary = some p ∧ NeverGreen case p
  green : color = some .G → ¬ HasVerdict .RED records ∧ ¬ HasVerdict .YELLOW records ∧
    ∀ p, primary = some p → ¬ NeverGreen case p

theorem colour_right
    (h : apply_verdict_color_gates (verdict_color_rollup records) (intent_of primary) primary case
      = .ok color) : ColourRight case records primary color := by
  rcases hraw : verdict_color_rollup records with _ | _ | _ | _ <;> rw [hraw] at h
  · cases h
    have hred : ¬ HasVerdict .RED records := fun hred => by
      rw [rollup_eq_r.mpr hred] at hraw
      cases hraw
    exact ⟨fun h => absurd h hred, by rintro ⟨⟩, by rintro ⟨⟩, by rintro ⟨⟩⟩
  · have hred := rollup_eq_r.mp hraw
    rw [gates_of_r] at h
    rcases held_at_amber_cases h with ⟨rfl, hnot⟩ | ⟨rfl, hheld⟩
    · exact ⟨fun _ => .inl ⟨rfl, hnot⟩, fun _ => hred, by rintro ⟨⟩, by rintro ⟨⟩⟩
    · exact ⟨fun _ => .inr ⟨rfl, hheld⟩, by rintro ⟨⟩, fun _ => .inl hred, by rintro ⟨⟩⟩
  · obtain ⟨hred, hyellow⟩ := rollup_eq_a.mp hraw
    rw [gates_of_a] at h
    cases h
    exact ⟨fun h => absurd h hred, by rintro ⟨⟩, fun _ => .inr (.inl hyellow), by rintro ⟨⟩⟩
  · obtain ⟨hred, hyellow, -⟩ := rollup_eq_g.mp hraw
    rw [gates_of_g] at h
    rcases held_at_amber_cases h with ⟨rfl, hnot⟩ | ⟨rfl, hheld⟩
    · exact ⟨fun h => absurd h hred, by rintro ⟨⟩, by rintro ⟨⟩, fun _ => ⟨hred, hyellow, hnot⟩⟩
    · exact ⟨fun h => absurd h hred, by rintro ⟨⟩, fun _ => .inr (.inr hheld), by rintro ⟨⟩⟩

theorem summary_of_primary (from_iso : FromIso) :
    returns (compute_case_summary from_iso case records) fun summary =>
      ∃ primary, pick_primary_record records = .ok primary ∧
        ColourRight case records primary summary.audit_verdict_color := by
  refine returns_bind fun primary hpick => returns_bind fun rendered _ =>
    returns_bind fun color hgates => returns_bind fun impact _ => (returns_pure _).mpr ?_
  exact ⟨primary, hpick, colour_right hgates⟩

/-- A red child shows unless the rules cover the primary child, a rule for the
primary child keeps the case from green, and another child never turns red to
green, nor lowers the colour while the primary child stays. -/
theorem only_the_primary_child_softens_the_colour {from_iso : FromIso} {summary : CaseSummary}
    (h : compute_case_summary from_iso case records = .ok summary)
    (hpick : pick_primary_record records = .ok primary) :
    (HasVerdict .RED records →
      summary.audit_verdict_color = some .R ∧ (∀ p, primary = some p → ¬ NeverRed p) ∨
        summary.audit_verdict_color = some .A ∧ ∃ p, primary = some p ∧ NeverRed p) ∧
    (∀ p, primary = some p → NeverGreen case p → summary.audit_verdict_color ≠ some .G) ∧
    ∀ records' summary', records ⊆ records' →
      compute_case_summary from_iso case records' = .ok summary' →
      (summary.audit_verdict_color = some .R → summary'.audit_verdict_color ≠ some .G) ∧
      (pick_primary_record records' = .ok primary →
        (summary.audit_verdict_color = some .R → summary'.audit_verdict_color = some .R) ∧
        (summary.audit_verdict_color = some .A → summary'.audit_verdict_color ≠ some .G)) := by
  obtain ⟨picked, hpicked, hcolor⟩ := summary_of_primary from_iso summary h
  rw [hpick] at hpicked
  cases hpicked
  refine ⟨hcolor.of_red, fun p hp hrule hg => (hcolor.green hg).2.2 p hp hrule, ?_⟩
  intro records' summary' hmore h'
  obtain ⟨picked', hpicked', hcolor'⟩ := summary_of_primary from_iso summary' h'
  refine ⟨fun hr hg => (hcolor'.green hg).1 ((hcolor.red hr).mono hmore), fun hpick' => ?_⟩
  rw [hpick'] at hpicked'
  cases hpicked'
  constructor
  · intro hr
    have hred := hcolor.red hr
    -- the colour was red, so the same child is not covered
    have hnot : ∀ p, primary = some p → ¬ NeverRed p := by
      rcases hcolor.of_red hred with ⟨-, hnot⟩ | ⟨ha, -⟩
      · exact hnot
      · rw [hr] at ha
        cases ha
    rcases hcolor'.of_red (hred.mono hmore) with ⟨hr', -⟩ | ⟨-, p, hp, hcovered⟩
    · exact hr'
    · exact absurd hcovered (hnot p hp)
  · intro ha hg
    obtain ⟨hred, hyellow, hnot⟩ := hcolor'.green hg
    rcases hcolor.amber ha with h | h | ⟨p, hp, hrule⟩
    · exact hred (h.mono hmore)
    · exact hyellow (h.mono hmore)
    · exact hnot p hp hrule

/-! ## A larger child beside -/

def sampleQueued : QueuedCase :=
  { case_id := "case-1", tenant_id := "t1", status := .OPEN_AWAITING_HUMAN, supergroup_code := none
    pending_override := none, closed_at := none, opened_at := "2026-06-01T00:00:00+00:00" }

def blockedCredit : ChildRecord :=
  { intent := some "CREDIT_BLOCK", shadow_verdict := some .RED
    resolution_data := [("financial_impact_usd", .int 100)] }

def largeDuplicate : ChildRecord :=
  { intent := some "DUPLICATE_PO", shadow_verdict := some .GREEN
    resolution_data := [("duplicate_detection", .dict [("duplicate_order",
      .dict [("total_value", .int 25000)])])] }

def routineDelay : ChildRecord :=
  { intent := some "DELIVERY_DELAY", shadow_verdict := some .GREEN
    resolution_data := [("financial_impact_usd", .int 900), ("days_late", .int 3)] }

def noInstants : FromIso := fun s => .error ⟨"ValueError", s⟩

/-- The colour of the summary. -/
def QueueShows (records : List ChildRecord) (color : VerdictColor) : Prop :=
  ∃ summary, compute_case_summary noInstants sampleQueued records = .ok summary ∧
    summary.audit_verdict_color = some color

instance (records : List ChildRecord) (color : VerdictColor) :
    Decidable (QueueShows records color) :=
  decidableReturned (compute_case_summary noInstants sampleQueued records) fun summary =>
    summary.audit_verdict_color = some color

/-- The only child is red, and shows. -/
theorem a_red_child_shows : ∃ summary,
    compute_case_summary noInstants sampleQueued [blockedCredit] = .ok summary ∧
      (summary.audit_verdict_color = some .R ∧
          (∀ p, some blockedCredit = some p → ¬ NeverRed p) ∨
        summary.audit_verdict_color = some .A ∧ ∃ p, some blockedCredit = some p ∧ NeverRed p) := by
  obtain ⟨summary, h, -⟩ := (by decide +kernel : QueueShows [blockedCredit] .R)
  refine ⟨summary, h, ?_⟩
  exact (only_the_primary_child_softens_the_colour h (by decide +kernel)).1
    ⟨blockedCredit, List.mem_singleton_self _, rfl⟩

/-- A child with a larger impact, of an intent that never shows red, hides a
child that does; one with no rule hides a child that never shows green. -/
theorem a_larger_child_hides_a_red_one_and_a_sign_off :
    QueueShows [blockedCredit] .R ∧ QueueShows [blockedCredit, routineDelay] .A ∧
      QueueShows [largeDuplicate] .A ∧ QueueShows [largeDuplicate, routineDelay] .G ∧
      ¬ NeverRed blockedCredit ∧ NeverGreen sampleQueued largeDuplicate := by
  refine ⟨by decide +kernel, by decide +kernel, by decide +kernel, by decide +kernel, ?_, ?_⟩
  · rintro ⟨intent, hintent, hrule⟩
    cases hintent
    exact absurd hrule (by decide +kernel)
  · exact ⟨"DUPLICATE_PO", rfl, by decide +kernel⟩

end asoe
