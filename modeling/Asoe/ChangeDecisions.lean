-- What an evaluated change says: one scenario is recommended, the decision
-- names it, and the cosign gate is that of the financial check. The
-- evaluation itself raises on a number that is no finite one.
import Asoe.ChangeAnalysis
import Asoe.Lib.Traverse
import Mathlib.Data.List.ReduceOption

namespace asoe

open py prog

/-! ## What the result says -/

/-- One scenario is recommended and the decision is its name; the change is
approved as requested when there is no warning; the counts are of all checks;
the cosign is asked for by the one financial check. -/
structure ChangeSound (out : ChangeAnalysis) : Prop where
  decided : ∃ s, out.scenarios.filter (·.recommended) = [s] ∧
    out.decision.recommended_action = s.name ∧ s.name ≠ "Manual review required"
  approved : (∃ s ∈ out.scenarios, s.name = "Approve as requested" ∧ s.recommended = true) ↔
    ∀ c ∈ out.evaluation.checks, c.status ≠ .WARNING
  counted : out.evaluation.counts.pass + out.evaluation.counts.conditional +
    out.evaluation.counts.warning = out.evaluation.checks.length
  cosigned : ∃ c, out.evaluation.checks.filter (fun c => c.name = "Financial") = [c] ∧
    (out.decision.requires_cosign = true ↔ c.status = .CONDITIONAL)

/-! ## What can be read -/

/-- The value is no number, or a finite one. -/
def FiniteNumber (value : PyVal) : Prop :=
  as_float value = .ok none ∨ ∃ q, as_float value = .ok (some (.fin q))

/-- Both values fit a float, and if both are numbers, both are finite. -/
structure StockReadable (s : PyDict) : Prop where
  fits : ∃ atp required, as_float (signal_value s "atp") = .ok atp ∧
    as_float (signal_value s "required") = .ok required ∧
    (atp = none ∨ required = none ∨ ∃ p q, atp = some (.fin p) ∧ required = some (.fin q))

/-- The numbers of the signals are finite, where they are read. -/
structure SignalsReadable (signals : PyDict) : Prop where
  stock : ∀ s, signal signals "inventory" = some s → StockReadable s
  stage : ∀ s, signal signals "order_status" = some s →
    FiniteNumber (signal_value s "fulfillment_stage")
  deadline : ∀ s, signal signals "sla" = some s → FiniteNumber (signal_value s "days_to_deadline")
  linked : ∀ s, signal signals "dependencies" = some s →
    FiniteNumber (signal_value s "linked_orders")

/-! ## The scenarios -/

variable (checks : List ConstraintCheck) (order_value_usd cosign_threshold_usd : PyFloat)

/-- One scenario of those that are generated is recommended. -/
theorem one_scenario_is_recommended :
    ∃ s, (generate_scenarios checks order_value_usd).filter (·.recommended) = [s] ∧
      s.name ≠ "Manual review required" := by
  unfold generate_scenarios
  dsimp only
  generalize (flagged checks "Inventory" || flagged checks "Transport" ||
    flagged checks "Warehouse") = shipsPart
  generalize flagged checks "SLA" = late
  by_cases hwarning : (tally_checks checks).warning = 0
  · refine ⟨approve_scenario true, ?_, by decide⟩
    cases shipsPart <;> cases late <;>
      simp [hwarning, approve_scenario, partial_scenario, expedite_scenario]
  · have hpos : 0 < (tally_checks checks).warning := Nat.pos_of_ne_zero hwarning
    cases shipsPart
    · refine ⟨reject_scenario true, ?_, by decide⟩
      cases late <;> simp [hwarning, hpos, approve_scenario, expedite_scenario, reject_scenario]
    · refine ⟨partial_scenario false order_value_usd, ?_, by simp [partial_scenario]⟩
      cases late <;>
        simp [hwarning, hpos, approve_scenario, partial_scenario, expedite_scenario,
          reject_scenario]

theorem warning_count_eq_zero_iff :
    (tally_checks checks).warning = 0 ↔ ∀ c ∈ checks, c.status ≠ .WARNING := by
  simp [tally_checks, List.countP_eq_zero]

/-- The change is approved as requested when there is no warning. -/
theorem approved_iff_no_warning :
    (∃ s ∈ generate_scenarios checks order_value_usd,
        s.name = "Approve as requested" ∧ s.recommended = true) ↔
      ∀ c ∈ checks, c.status ≠ .WARNING := by
  rw [← warning_count_eq_zero_iff]
  unfold generate_scenarios
  dsimp only
  constructor
  · rintro ⟨s, hs, hname, hrecommended⟩
    by_contra hwarning
    simp only [hwarning, decide_false, List.mem_append, List.mem_singleton] at hs
    rcases hs with ((rfl | hs) | hs) | hs
    · cases hrecommended
    · split at hs
      · obtain rfl := List.mem_singleton.mp hs
        simp [partial_scenario] at hname
      · cases hs
    · split at hs
      · obtain rfl := List.mem_singleton.mp hs
        simp [expedite_scenario] at hname
      · cases hs
    · split at hs
      · obtain rfl := List.mem_singleton.mp hs
        simp [reject_scenario] at hname
      · cases hs
  · intro hnone
    exact ⟨approve_scenario true, by simp [hnone], rfl, rfl⟩

theorem counts_add_up :
    (tally_checks checks).pass + (tally_checks checks).conditional +
      (tally_checks checks).warning = checks.length := by
  unfold tally_checks
  dsimp only
  induction checks with
  | nil => rfl
  | cons c checks ih =>
    simp only [List.countP_cons, List.length_cons]
    cases hstatus : c.status <;> simp <;> omega

/-! ## The checks -/

/-- An evaluator of the catalogue never gives a financial check. -/
def NotFinancial (check : Option ConstraintCheck) : Prop :=
  ∀ c, check = some c → c.name ≠ "Financial"

theorem notFinancial_none : NotFinancial none := fun _ h => by cases h

theorem notFinancial_some {c : ConstraintCheck} (h : c.name ≠ "Financial") :
    NotFinancial (some c) := fun _ hc => Option.some.inj hc ▸ h

theorem inventory_not_financial (signals : PyDict) : returns (inventory signals) NotFinancial := by
  unfold inventory
  split
  · exact (returns_pure _).mpr notFinancial_none
  · refine returns_bind fun atp _ => returns_bind fun required _ => ?_
    rcases atp with _ | atp
    · exact (returns_pure _).mpr notFinancial_none
    rcases required with _ | required
    · exact (returns_pure _).mpr notFinancial_none
    · refine returns_bind fun _ _ => returns_bind fun _ _ => ?_
      exact (returns_pure _).mpr (notFinancial_some (by simp))

theorem order_status_not_financial (signals : PyDict) :
    returns (order_status signals) NotFinancial := by
  unfold order_status
  split
  · exact (returns_pure _).mpr notFinancial_none
  · refine returns_bind fun stage _ => ?_
    rcases stage with _ | stage
    · exact (returns_pure _).mpr notFinancial_none
    · exact (returns_pure _).mpr (notFinancial_some (by simp))

theorem sla_not_financial (signals : PyDict) : returns (sla signals) NotFinancial := by
  unfold sla
  split
  · exact (returns_pure _).mpr notFinancial_none
  · exact returns_bind fun _ _ => (returns_pure _).mpr (notFinancial_some (by simp))

theorem dependencies_not_financial (signals : PyDict) :
    returns (dependencies signals) NotFinancial := by
  unfold dependencies
  split
  · exact (returns_pure _).mpr notFinancial_none
  · refine returns_bind fun linked _ => ?_
    rcases linked with _ | linked
    · exact (returns_pure _).mpr notFinancial_none
    · exact (returns_pure _).mpr (notFinancial_some (by simp))

/-- The evaluators that only ask whether a value is truthy always return. -/
def EvaluatorAnswers (evaluator : Evaluator) (signals : PyDict) : Prop :=
  ∃ check, evaluator signals = .ok check ∧ NotFinancial check

theorem production_answers (signals : PyDict) : EvaluatorAnswers production signals := by
  unfold EvaluatorAnswers production
  split
  · exact ⟨none, rfl, notFinancial_none⟩
  · split
    · exact ⟨none, rfl, notFinancial_none⟩
    · exact ⟨_, rfl, notFinancial_some (by simp)⟩

theorem transport_answers (signals : PyDict) : EvaluatorAnswers transport signals := by
  unfold EvaluatorAnswers transport
  split
  · exact ⟨none, rfl, notFinancial_none⟩
  · exact ⟨_, rfl, notFinancial_some (by simp)⟩

theorem warehouse_answers (signals : PyDict) : EvaluatorAnswers warehouse signals := by
  unfold EvaluatorAnswers warehouse
  split
  · exact ⟨none, rfl, notFinancial_none⟩
  · exact ⟨_, rfl, notFinancial_some (by simp)⟩

theorem network_answers (signals : PyDict) : EvaluatorAnswers network signals := by
  unfold EvaluatorAnswers network
  split
  · exact ⟨none, rfl, notFinancial_none⟩
  · exact ⟨_, rfl, notFinancial_some (by simp)⟩

theorem priority_answers (signals : PyDict) : EvaluatorAnswers priority signals := by
  unfold EvaluatorAnswers priority
  split
  · exact ⟨none, rfl, notFinancial_none⟩
  · exact ⟨_, rfl, notFinancial_some (by simp)⟩

/-! ## What raises -/

theorem as_int_iff {value : PyVal} : (∃ n, as_int value = .ok n) ↔ FiniteNumber value := by
  unfold as_int FiniteNumber
  cases hvalue : as_float value with
  | error e => simp [bind, Except.bind]
  | ok x =>
    rcases x with _ | _ | s | q
    · simp [bind, Except.bind, pure, Except.pure]
    · simp [bind, Except.bind, PyVal.toInt]
    · simp [bind, Except.bind, PyVal.toInt]
    · simp [bind, Except.bind, PyVal.toInt, pure, Except.pure]

theorem num_iff {x : PyFloat} : (∃ text, num x = .ok text) ↔ ∃ q, x = .fin q := by
  unfold num
  rcases x with _ | s | q
  · simp [bind, Except.bind, PyVal.toInt]
  · simp [bind, Except.bind, PyVal.toInt]
  · simp [bind, Except.bind, PyVal.toInt, pure, Except.pure]

theorem bind_as_int_iff {α : Type} {value : PyVal} {f : Option ℤ → Except PyErr α}
    (hf : ∀ n, ∃ a, f n = .ok a) : (∃ a, (as_int value >>= f) = .ok a) ↔ FiniteNumber value := by
  rw [← as_int_iff]
  constructor
  · rintro ⟨a, h⟩
    cases hn : as_int value with
    | error e =>
      rw [error_bind hn] at h
      cases h
    | ok n => exact ⟨n, rfl⟩
  · rintro ⟨n, hn⟩
    rw [ok_bind hn]
    exact hf n

theorem inventory_iff (signals : PyDict) : (∃ check, inventory signals = .ok check) ↔
    ∀ s, signal signals "inventory" = some s → StockReadable s := by
  unfold inventory
  cases hsignal : signal signals "inventory" with
  | none => simp [pure, Except.pure]
  | some s =>
    simp only [Option.some.injEq, forall_eq']
    constructor
    · rintro ⟨check, h⟩
      refine returns_bind (R := fun _ => StockReadable s) (fun atp hatp => ?_) check h
      refine returns_bind fun required hrequired => ?_
      rcases atp with _ | atp
      · exact fun _ _ => ⟨none, required, hatp, hrequired, Or.inl rfl⟩
      rcases required with _ | required
      · exact fun _ _ => ⟨some atp, none, hatp, hrequired, Or.inr (Or.inl rfl)⟩
      refine returns_bind fun t ht => returns_bind fun u hu => fun _ _ => ?_
      obtain ⟨p, rfl⟩ := num_iff.mp ⟨t, ht⟩
      obtain ⟨q, rfl⟩ := num_iff.mp ⟨u, hu⟩
      exact ⟨_, _, hatp, hrequired, Or.inr (Or.inr ⟨p, q, rfl, rfl⟩)⟩
    · rintro ⟨atp, required, hatp, hrequired, hfinite⟩
      rw [ok_bind hatp, ok_bind hrequired]
      rcases hfinite with rfl | rfl | ⟨p, q, rfl, rfl⟩
      · exact ⟨none, rfl⟩
      · cases atp <;> exact ⟨none, rfl⟩
      · obtain ⟨t, ht⟩ := num_iff.mpr ⟨p, rfl⟩
        obtain ⟨u, hu⟩ := num_iff.mpr ⟨q, rfl⟩
        dsimp only
        rw [ok_bind ht, ok_bind hu]
        exact ⟨_, rfl⟩

theorem order_status_iff (signals : PyDict) : (∃ check, order_status signals = .ok check) ↔
    ∀ s, signal signals "order_status" = some s →
      FiniteNumber (signal_value s "fulfillment_stage") := by
  unfold order_status
  cases hsignal : signal signals "order_status" with
  | none => simp [pure, Except.pure]
  | some s =>
    simp only [Option.some.injEq, forall_eq']
    exact bind_as_int_iff fun n => by cases n <;> exact ⟨_, rfl⟩

theorem sla_iff (signals : PyDict) : (∃ check, sla signals = .ok check) ↔
    ∀ s, signal signals "sla" = some s → FiniteNumber (signal_value s "days_to_deadline") := by
  unfold sla
  cases hsignal : signal signals "sla" with
  | none => simp [pure, Except.pure]
  | some s =>
    simp only [Option.some.injEq, forall_eq']
    exact bind_as_int_iff fun n => ⟨_, rfl⟩

theorem dependencies_iff (signals : PyDict) : (∃ check, dependencies signals = .ok check) ↔
    ∀ s, signal signals "dependencies" = some s →
      FiniteNumber (signal_value s "linked_orders") := by
  unfold dependencies
  cases hsignal : signal signals "dependencies" with
  | none => simp [pure, Except.pure]
  | some s =>
    simp only [Option.some.injEq, forall_eq']
    exact bind_as_int_iff fun n => by cases n <;> exact ⟨_, rfl⟩

/-! ## The catalogue -/

theorem mapM_evaluators_iff {evaluators : List Evaluator} {signals : PyDict} :
    (∃ found, evaluators.mapM (fun evaluator => evaluator signals) = .ok found) ↔
      ∀ evaluator ∈ evaluators, ∃ check, evaluator signals = .ok check := by
  constructor
  · rintro ⟨found, h⟩
    exact returned_of_mapM h
  · intro h
    induction evaluators with
    | nil => exact ⟨[], rfl⟩
    | cons evaluator evaluators ih =>
      obtain ⟨check, hcheck⟩ := h evaluator List.mem_cons_self
      obtain ⟨found, hfound⟩ := ih fun e he => h e (List.mem_cons_of_mem _ he)
      rw [List.mapM_cons, ok_bind hcheck, ok_bind hfound]
      exact ⟨_, rfl⟩

theorem evaluators_return_iff (signals : PyDict) :
    (∀ evaluator ∈ EVALUATORS_TO_SLA ++ EVALUATORS_AFTER_SLA,
      ∃ check, evaluator signals = .ok check) ↔ SignalsReadable signals := by
  have answers : ∀ {evaluator : Evaluator}, EvaluatorAnswers evaluator signals →
      ∃ check, evaluator signals = .ok check := fun ⟨check, h, _⟩ => ⟨check, h⟩
  simp only [EVALUATORS_TO_SLA, EVALUATORS_AFTER_SLA, List.cons_append, List.nil_append,
    List.forall_mem_cons, inventory_iff, order_status_iff, sla_iff, dependencies_iff,
    answers (production_answers signals), answers (transport_answers signals),
    answers (warehouse_answers signals), answers (network_answers signals),
    answers (priority_answers signals), List.not_mem_nil, false_imp_iff, implies_true, true_and,
    and_true]
  exact ⟨fun ⟨hstock, hstage, hdeadline, hlinked⟩ => ⟨hstock, hstage, hdeadline, hlinked⟩,
    fun h => ⟨h.stock, h.stage, h.deadline, h.linked⟩⟩

theorem evaluators_not_financial (signals : PyDict) :
    ∀ evaluator ∈ EVALUATORS_TO_SLA ++ EVALUATORS_AFTER_SLA,
      returns (evaluator signals) NotFinancial := by
  have answers : ∀ {evaluator : Evaluator}, EvaluatorAnswers evaluator signals →
      returns (evaluator signals) NotFinancial := by
    rintro evaluator ⟨check, h, hnot⟩
    rw [h]
    exact (returns_ok _).mpr hnot
  simp only [EVALUATORS_TO_SLA, EVALUATORS_AFTER_SLA, List.cons_append, List.nil_append,
    List.forall_mem_cons, List.not_mem_nil, false_imp_iff, implies_true, and_true]
  exact ⟨inventory_not_financial signals, answers (production_answers signals),
    answers (transport_answers signals), answers (warehouse_answers signals),
    order_status_not_financial signals, sla_not_financial signals,
    dependencies_not_financial signals, answers (network_answers signals),
    answers (priority_answers signals)⟩

/-- What a part of the catalogue finds is not financial. -/
theorem found_not_financial {evaluators : List Evaluator} {signals : PyDict}
    {found : List (Option ConstraintCheck)}
    (h : ∀ evaluator ∈ evaluators, returns (evaluator signals) NotFinancial)
    (hfound : evaluators.mapM (fun evaluator => evaluator signals) = .ok found) :
    ∀ c ∈ found.reduceOption, c.name ≠ "Financial" := by
  have hall := mapM_ok_iff.mp hfound
  clear hfound
  induction hall with
  | nil => simp
  | @cons evaluator check evaluators found hcheck _ ih =>
    rw [List.forall_mem_cons] at h
    have hnot := h.1 check hcheck
    have hrest := ih h.2
    rcases check with _ | c
    · rwa [List.reduceOption_cons_of_none]
    · rw [List.reduceOption_cons_of_some, List.forall_mem_cons]
      exact ⟨hnot c rfl, hrest⟩

/-- The catalogue returns just when its numbers are readable, with the one
financial check among the others. -/
theorem evaluate_constraints_returns (signals : PyDict) :
    returns (evaluate_constraints signals order_value_usd cosign_threshold_usd) fun checks =>
      SignalsReadable signals ∧ checks.filter (fun c => c.name = "Financial") =
        [financial order_value_usd cosign_threshold_usd] := by
  have hnot := evaluators_not_financial signals
  rw [List.forall_mem_append] at hnot
  refine returns_bind fun before hbefore => returns_bind fun after hafter => ?_
  refine (returns_pure _).mpr ⟨?_, ?_⟩
  · rw [← evaluators_return_iff, List.forall_mem_append, ← mapM_evaluators_iff,
      ← mapM_evaluators_iff]
    exact ⟨⟨before, hbefore⟩, after, hafter⟩
  · have hbefore_none := found_not_financial hnot.1 hbefore
    have hafter_none := found_not_financial hnot.2 hafter
    have hnone : ∀ checks : List ConstraintCheck, (∀ c ∈ checks, c.name ≠ "Financial") →
        checks.filter (fun c => c.name = "Financial") = [] := by
      intro checks h
      exact List.filter_eq_nil_iff.mpr fun c hc => by simpa using h c hc
    rw [List.filter_append, List.filter_append, hnone _ hbefore_none, hnone _ hafter_none]
    rfl

theorem evaluate_constraints_of_readable {signals : PyDict} (h : SignalsReadable signals) :
    ∃ checks, evaluate_constraints signals order_value_usd cosign_threshold_usd = .ok checks := by
  rw [← evaluators_return_iff, List.forall_mem_append, ← mapM_evaluators_iff,
    ← mapM_evaluators_iff] at h
  obtain ⟨⟨before, hbefore⟩, after, hafter⟩ := h
  unfold evaluate_constraints
  rw [ok_bind hbefore, ok_bind hafter]
  exact ⟨_, rfl⟩

/-! ## The evaluation -/

theorem evaluate_change_returns (change_items : List PyDict) (signals : PyDict)
    (lifecycle_index : Option ℤ) :
    returns (evaluate_change order_value_usd cosign_threshold_usd change_items signals
      lifecycle_index) fun out => SignalsReadable signals ∧ ChangeSound out := by
  refine returns_bind fun checks hchecks => (returns_pure _).mpr ?_
  obtain ⟨hreadable, hfinancial⟩ :=
    evaluate_constraints_returns order_value_usd cosign_threshold_usd signals checks hchecks
  obtain ⟨s, hs, hname⟩ := one_scenario_is_recommended checks order_value_usd
  refine ⟨hreadable, ⟨s, hs, ?_, hname⟩, approved_iff_no_warning checks order_value_usd,
    counts_add_up checks, _, hfinancial, ?_⟩
  · have hfind : (generate_scenarios checks order_value_usd).find? (·.recommended) = some s := by
      rw [← List.head?_filter, hs]
      rfl
    simp [decide_change, hfind]
  · simp [decide_change, financial]

/-- A change is evaluated as it should be just when the numbers of its signals
are finite. -/
theorem a_change_is_decided_when_its_numbers_are_finite
    (order_value_usd cosign_threshold_usd : PyFloat) (change_items : List PyDict)
    (signals : PyDict) (lifecycle_index : Option ℤ) :
    (∃ out, evaluate_change order_value_usd cosign_threshold_usd change_items signals
      lifecycle_index = .ok out ∧ ChangeSound out) ↔ SignalsReadable signals := by
  constructor
  · rintro ⟨out, hout, -⟩
    exact (evaluate_change_returns order_value_usd cosign_threshold_usd change_items signals
      lifecycle_index out hout).1
  · intro h
    obtain ⟨checks, hchecks⟩ :=
      evaluate_constraints_of_readable order_value_usd cosign_threshold_usd h
    have hout : ∃ out, evaluate_change order_value_usd cosign_threshold_usd change_items signals
        lifecycle_index = .ok out := by
      unfold evaluate_change
      rw [ok_bind hchecks]
      exact ⟨_, rfl⟩
    obtain ⟨out, hout⟩ := hout
    exact ⟨out, hout, (evaluate_change_returns order_value_usd cosign_threshold_usd change_items
      signals lifecycle_index out hout).2⟩

/-- A stage that `float` reads as a NaN is no integer. -/
def nanStage : PyDict := [("order_status", .dict [("fulfillment_stage", .str "nan")])]

theorem a_stage_that_is_no_number_raises :
    evaluate_change (.fin 5000) (.fin 10000) [] nanStage none =
        .error ⟨"ValueError", "cannot convert float NaN to integer"⟩ ∧
      ¬ ∃ out, evaluate_change (.fin 5000) (.fin 10000) [] nanStage none = .ok out ∧
        ChangeSound out := by
  have hraises : evaluate_change (.fin 5000) (.fin 10000) [] nanStage none =
      .error ⟨"ValueError", "cannot convert float NaN to integer"⟩ :=
    error_bind (by decide +kernel) _
  refine ⟨hraises, ?_⟩
  rintro ⟨out, hout, -⟩
  rw [hraises] at hout
  cases hout

end asoe
