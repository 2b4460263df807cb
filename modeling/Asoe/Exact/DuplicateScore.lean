-- The score of a duplicate order in exact decimal arithmetic: when the
-- outputs of the recipe keep the contract that the graph holds them to.
import Asoe.DuplicateContract
import Asoe.Lib.DecimalRounding
import Asoe.Lib.Traverse
import Mathlib.Algebra.BigOperators.Group.List.Basic
import Mathlib.Algebra.Order.BigOperators.Group.List

namespace asoe.exact

open py prog

/-! ## The recipe -/

def WEIGHT_SUM_TOLERANCE : ℚ := 1 / 10000

def assert_weight (key : String) (value : ℚ) : Except PyErr Unit :=
  if value < 0 ∨ 1 < value then
    weight_violation ("Weight " ++ py.reprStr key ++ "=" ++ reprFloat (.fin value)
      ++ " outside [0.0, 1.0]")
  else .ok ()

def assert_weight_contract (weights : List (String × ℚ)) : Except PyErr Unit := do
  let expected_keys := WEIGHTS.map (·.1)
  let got_keys := weights.map (·.1)
  let missing := expected_keys.filter (· ∉ got_keys)
  let extra := got_keys.filter (· ∉ expected_keys)
  if !missing.isEmpty || !extra.isEmpty then
    weight_violation ("Weight key set mismatch — missing: " ++ names_text (sorted_names missing)
      ++ ", extra: " ++ names_text (sorted_names extra))
  forM weights fun w => assert_weight w.1 w.2
  let total := (weights.map (·.2)).sum
  if WEIGHT_SUM_TOLERANCE < |total - 1| then
    weight_violation ("Weight sum " ++ reprFloat (.fin total) ++ " not within "
      ++ reprFloat (.fin WEIGHT_SUM_TOLERANCE) ++ " of 1.0")

/-- The score of a signal: a missing one counts as zero. -/
def score_of (signal_scores : List (String × ℚ)) (signal : String) : ℚ :=
  (dict.get signal_scores signal).getD 0

def signal_breakdown (weights signal_scores : List (String × ℚ)) : List (String × ℚ) :=
  weights.map fun w => (w.1, round_to 6 (w.2 * score_of signal_scores w.1))

def composite_score (weights signal_scores : List (String × ℚ)) : ℚ :=
  round_to 6 ((signal_breakdown weights signal_scores).map (·.2)).sum

/-- The class of a score: each threshold is the closed lower bound. -/
def classify_score (score auto_block review_required soft_flag : ℚ) : DuplicateClass :=
  if auto_block ≤ score then .AUTO_BLOCK
  else if review_required ≤ score then .REVIEW_REQUIRED
  else if soft_flag ≤ score then .SOFT_FLAG
  else .PASS

/-- The gateways' findings that the action depends on. -/
structure ResolutionContext where
  original_fulfilled : PyVal := .none
  has_revision_indicator : PyVal := .none
  line_items_identical : PyVal := .none

structure Thresholds where
  auto_block : ℚ := 90 / 100
  review_required : ℚ := 70 / 100
  soft_flag : ℚ := 50 / 100

def detect_duplicate_po (incoming_po_number customer_id : String)
    (signal_scores : List (String × ℚ)) (thresholds : Thresholds) (context : ResolutionContext)
    (autonomy_levels : PyDict) (weights : List (String × ℚ)) : Except PyErr PyDict := do
  assert_weight_contract weights
  let composite := composite_score weights signal_scores
  let classification := classify_score composite thresholds.auto_block thresholds.review_required
    thresholds.soft_flag
  let recommended_action := resolve_action classification context.original_fulfilled
    context.has_revision_indicator context.line_items_identical
  return [("status", .str classification.status), ("composite_score", .float (.fin composite)),
    ("classification", .str classification.value),
    ("recommended_action", .str recommended_action.value),
    ("autonomy_level", .ofOption (dict.get autonomy_levels recommended_action.value)),
    ("notification_template", duplicate_notification recommended_action),
    ("signal_breakdown", .dict ((signal_breakdown weights signal_scores).map fun p =>
      (p.1, .float (.fin p.2)))),
    ("incoming_po_number", .str incoming_po_number), ("customer_id", .str customer_id)]

/-- `execute_recipe` stamps the vocabulary of an autonomy level that is there. -/
def stamp_vocabulary (outputs : PyDict) : PyDict :=
  if (PyVal.ofOption (dict.get outputs "autonomy_level")).truthy then
    dict.set outputs "autonomy_vocab_version" (.str "v2")
  else outputs

/-! ## The composite score -/

theorem composite_score_eq (weights signal_scores : List (String × ℚ)) :
    composite_score weights signal_scores =
      (weights.map fun w => round_to 6 (w.2 * score_of signal_scores w.1)).sum := by
  have hsum := round_to_sum 6 (weights.map fun w => w.2 * score_of signal_scores w.1)
  rw [List.map_map] at hsum
  unfold composite_score signal_breakdown
  rw [List.map_map]
  exact hsum

theorem score_of_bounds {signal_scores : List (String × ℚ)}
    (h : ∀ s ∈ signal_scores, 0 ≤ s.2 ∧ s.2 ≤ 1) (signal : String) :
    0 ≤ score_of signal_scores signal ∧ score_of signal_scores signal ≤ 1 := by
  unfold score_of
  cases hfound : dict.get signal_scores signal with
  | none => simp
  | some q =>
    obtain ⟨pre, post, hsplit, -⟩ := dict.split_of_get hfound
    exact h (signal, q) (by simp [hsplit])

theorem composite_score_bounds {weights signal_scores : List (String × ℚ)}
    (hweights : ∀ w ∈ weights, 0 ≤ w.2) (hscores : ∀ s ∈ signal_scores, 0 ≤ s.2 ∧ s.2 ≤ 1) :
    0 ≤ composite_score weights signal_scores ∧
      composite_score weights signal_scores ≤ (weights.map fun w => round_to 6 w.2).sum := by
  rw [composite_score_eq]
  constructor
  · refine List.sum_nonneg fun b hb => ?_
    obtain ⟨w, hw, rfl⟩ := List.mem_map.mp hb
    exact round_to_nonneg 6 (mul_nonneg (hweights w hw) (score_of_bounds hscores w.1).1)
  · refine List.sum_le_sum fun w hw => round_to_mono 6 ?_
    exact mul_le_of_le_one_right (hweights w hw) (score_of_bounds hscores w.1).2

/-! ## The weight contract -/

theorem assert_weight_iff {key : String} {value : ℚ} :
    assert_weight key value = .ok () ↔ 0 ≤ value ∧ value ≤ 1 := by
  unfold assert_weight
  split
  · rename_i hout
    simp only [weight_violation, reduceCtorEq, false_iff]
    rintro ⟨hlow, hhigh⟩
    rcases hout with hneg | hover <;> linarith
  · rename_i hin
    rw [not_or, not_lt, not_lt] at hin
    simp [hin]

/-- An accepted map gives each of the signals, and nothing else, a weight
between zero and one. -/
theorem accepted_weights {weights : List (String × ℚ)}
    (h : assert_weight_contract weights = .ok ()) :
    (∀ key, key ∈ weights.map (·.1) ↔ key ∈ EXPECTED_SIGNAL_KEYS) ∧
      ∀ w ∈ weights, 0 ≤ w.2 ∧ w.2 ≤ 1 := by
  have hexpected : WEIGHTS.map (·.1) = EXPECTED_SIGNAL_KEYS := by decide
  unfold assert_weight_contract at h
  dsimp only at h
  rw [hexpected] at h
  split at h
  · cases h
  · rename_i hkeys
    refine ⟨same_keys (by simpa using hkeys), ?_⟩
    cases hall : forM weights (fun w => assert_weight w.1 w.2) with
    | error exc =>
      rw [hall, error_bind rfl] at h
      cases h
    | ok u => exact fun w hw => assert_weight_iff.mp (forM_ok_iff.mp hall w hw)

/-! ## The outputs -/

theorem check_classification (c : DuplicateClass) :
    check_literal ["BLOCKED", "REVIEW_REQUIRED", "SOFT_FLAG", "PASS"] "status"
        (.str c.status) = [] ∧
      check_literal ["AUTO_BLOCK", "REVIEW_REQUIRED", "SOFT_FLAG", "PASS"] "classification"
        (.str c.value) = [] := by
  cases c <;> decide

theorem check_action (action : ResolutionAction) :
    check_literal RESOLUTION_ACTION_NAMES "recommended_action" (.str action.value) = [] := by
  cases action <;> decide

theorem check_autonomy (action : ResolutionAction) :
    PyVal.ofOption (dict.get DUPLICATE_PO_AUTONOMY_LEVELS action.value) ≠ .none →
      check_literal ["L1", "L2", "L3", "L4"] "autonomy_level"
        (.ofOption (dict.get DUPLICATE_PO_AUTONOMY_LEVELS action.value)) = [] := by
  cases action <;> decide

theorem check_notification (action : ResolutionAction) :
    duplicate_notification action ≠ .none →
      check_str 0 "notification_template" (duplicate_notification action) = [] := by
  cases action <;> decide

theorem get_stamped {outputs : PyDict} {key : String} (h : key ≠ "autonomy_vocab_version") :
    dict.get (stamp_vocabulary outputs) key = dict.get outputs key := by
  unfold stamp_vocabulary
  split
  · exact dict.get_set_of_ne _ _ h
  · rfl

theorem stamped_vocabulary {outputs : PyDict}
    (hfresh : dict.get outputs "autonomy_vocab_version" = none) :
    optional (stamp_vocabulary outputs) "autonomy_vocab_version" (check_str 0) = [] := by
  unfold stamp_vocabulary
  split
  · exact optional_eq_nil (dict.get_set_self _ _ _) fun _ => by decide
  · simp [optional, hfresh]

theorem stamped_fields {outputs : PyDict} (h : ∀ p ∈ outputs, p.1 ∈ RECIPE_OUTPUT_FIELDS) :
    (stamp_vocabulary outputs).filter (·.1 ∉ RECIPE_OUTPUT_FIELDS) = [] := by
  rw [List.filter_eq_nil_iff]
  intro p hp
  have hfield : p.1 ∈ RECIPE_OUTPUT_FIELDS := by
    unfold stamp_vocabulary at hp
    split at hp
    · rcases dict.mem_set hp with rfl | hp
      · decide
      · exact h p hp
    · exact h p hp
  simpa using hfield

section outputs

variable {po customer : String} {signal_scores weights : List (String × ℚ)}
  {thresholds : Thresholds} {context : ResolutionContext} {outputs : PyDict}

theorem check_exact_unit (loc : String) {q : ℚ} :
    check_unit_float loc (.float (.fin q)) = [] ↔ 0 ≤ q ∧ q ≤ 1 := by
  rw [check_unit_float_eq_nil]
  simp only [PyFloat.le, PyFloat.lt, PyFloat.eq, Bool.or_eq_true, decide_eq_true_eq,
    PyFloat.fin.injEq]
  constructor
  · rintro ⟨hlow, hhigh⟩
    exact ⟨hlow.elim le_of_lt le_of_eq, hhigh.elim le_of_lt le_of_eq⟩
  · rintro ⟨hlow, hhigh⟩
    exact ⟨hlow.lt_or_eq, hhigh.lt_or_eq⟩

/-- The fields of the outputs are checked one by one; only the score can be
out of range. -/
theorem output_fields_of_score {classification : DuplicateClass} {action : ResolutionAction}
    {score : ℚ} {breakdown : List (String × ℚ)} (hpo : po ≠ "")
    (houtputs : outputs = [("status", .str classification.status),
      ("composite_score", .float (.fin score)), ("classification", .str classification.value),
      ("recommended_action", .str action.value),
      ("autonomy_level", .ofOption (dict.get DUPLICATE_PO_AUTONOMY_LEVELS action.value)),
      ("notification_template", duplicate_notification action),
      ("signal_breakdown", .dict (breakdown.map fun p => (p.1, .float (.fin p.2)))),
      ("incoming_po_number", .str po), ("customer_id", .str customer)]) :
    recipe_output_fields (stamp_vocabulary outputs) =
        check_unit_float "composite_score" (.float (.fin score)) ∧
      dict.get (stamp_vocabulary outputs) "signal_breakdown" =
        some (.dict (breakdown.map fun p => (p.1, .float (.fin p.2)))) := by
  have hget : ∀ key v, key ≠ "autonomy_vocab_version" → dict.get outputs key = some v →
      dict.get (stamp_vocabulary outputs) key = some v :=
    fun key v hne hv => (get_stamped hne).trans hv
  have hbreakdown : dict.get (stamp_vocabulary outputs) "signal_breakdown" =
      some (.dict (breakdown.map fun p => (p.1, .float (.fin p.2)))) :=
    hget _ _ (by decide) (by rw [houtputs]; rfl)
  have hautonomy : optional (stamp_vocabulary outputs) "autonomy_level"
      (check_literal ["L1", "L2", "L3", "L4"]) = [] :=
    optional_eq_nil (hget _ _ (by decide) (by rw [houtputs]; rfl)) (check_autonomy action)
  have hnotification : optional (stamp_vocabulary outputs) "notification_template"
      (check_str 0) = [] :=
    optional_eq_nil (hget _ _ (by decide) (by rw [houtputs]; rfl)) (check_notification action)
  have hvocabulary : optional (stamp_vocabulary outputs) "autonomy_vocab_version"
      (check_str 0) = [] :=
    stamped_vocabulary (by rw [houtputs]; rfl)
  have hextra : (stamp_vocabulary outputs).filter (·.1 ∉ RECIPE_OUTPUT_FIELDS) = [] := by
    refine stamped_fields ?_
    rw [houtputs]
    simp [RECIPE_OUTPUT_FIELDS]
  have hfloats : check_floats "signal_breakdown"
      (.dict (breakdown.map fun p => (p.1, .float (.fin p.2)))) = [] := by
    have hmap : breakdown.map (fun p => (p.1, PyVal.float (.fin p.2))) =
        (breakdown.map fun p => (p.1, PyFloat.fin p.2)).map fun p => (p.1, .float p.2) := by
      simp
    rw [hmap]
    exact check_floats_of_floats
  have hlength : check_str 1 "incoming_po_number" (.str po) = [] := by
    refine check_str_eq_nil.mpr ⟨po, rfl, ?_⟩
    exact Nat.pos_of_ne_zero (by simpa using hpo)
  refine ⟨?_, hbreakdown⟩
  unfold recipe_output_fields
  rw [required_eq_nil (hget "status" (.str classification.status) (by decide)
      (by rw [houtputs]; rfl)),
    required_eq_nil (hget "composite_score" (.float (.fin score)) (by decide)
      (by rw [houtputs]; rfl)),
    required_eq_nil (hget "classification" (.str classification.value) (by decide)
      (by rw [houtputs]; rfl)),
    required_eq_nil (hget "recommended_action" (.str action.value) (by decide)
      (by rw [houtputs]; rfl)),
    required_eq_nil hbreakdown,
    required_eq_nil (hget "incoming_po_number" (.str po) (by decide) (by rw [houtputs]; rfl)),
    required_eq_nil (hget "customer_id" (.str customer) (by decide) (by rw [houtputs]; rfl)),
    hautonomy, hnotification, hvocabulary, hextra, hfloats, hlength,
    (check_classification classification).1, (check_classification classification).2,
    check_action]
  simp [check_str]

/-- The contract of the outputs comes down to the range of the score. -/
theorem outputs_valid_iff
    (hkeys : ∀ key, key ∈ weights.map (·.1) ↔ key ∈ EXPECTED_SIGNAL_KEYS) (hpo : po ≠ "")
    (h : detect_duplicate_po po customer signal_scores thresholds context
      DUPLICATE_PO_AUTONOMY_LEVELS weights = .ok outputs) :
    validate_duplicate_po_recipe_output (stamp_vocabulary outputs) = [] ↔
      0 ≤ composite_score weights signal_scores ∧ composite_score weights signal_scores ≤ 1 := by
  unfold detect_duplicate_po at h
  cases hcontract : assert_weight_contract weights with
  | error exc =>
    rw [hcontract, error_bind rfl] at h
    cases h
  | ok u =>
    rw [hcontract, ok_bind rfl] at h
    obtain ⟨hfields, hbreakdown⟩ := output_fields_of_score hpo (Except.ok.inj h).symm
    have hsignals : signal_keys_of (.ofOption (dict.get (stamp_vocabulary outputs)
        "signal_breakdown")) = weights.map (·.1) := by
      rw [hbreakdown]
      simp [PyVal.ofOption, signal_keys_of, signal_breakdown]
    rw [← check_exact_unit "composite_score", ← hfields]
    unfold validate_duplicate_po_recipe_output
    cases hall : recipe_output_fields (stamp_vocabulary outputs) with
    | cons o os => simp
    | nil =>
      have hunknown : unknown_keys (weights.map (·.1)) = [] :=
        unknown_keys_eq_nil.mpr fun key hkey => (hkeys key).mp hkey
      have hmissing : sorted_names
          (EXPECTED_SIGNAL_KEYS.filter (· ∉ weights.map (·.1))) = [] := by
        rw [sorted_names_eq_nil, List.filter_eq_nil_iff]
        intro key hkey
        simpa using (hkeys key).mpr hkey
      dsimp only
      rw [hsignals, hunknown, hmissing]
      simp

end outputs

/-! ## The two contracts -/

/-- The scores of the metadata, each read as a float. -/
def ReadsScores (metadata : PyDict) (signal_scores : List (String × ℚ)) : Prop :=
  ∃ d, dict.get metadata "signal_scores" = some (.dict d) ∧
    List.Forall₂ (fun p s => p.1 = s.1 ∧ p.2.toFloat = .ok (.fin s.2)) d signal_scores

/-- Whatever an accepted event says, the outputs of the recipe are accepted. -/
def OutputsAccepted (weights : List (String × ℚ)) : Prop :=
  ∀ metadata signal_scores po customer thresholds context,
    ReadsScores metadata signal_scores →
    validate_duplicate_po_event_metadata metadata = [] → po ≠ "" →
    ∃ outputs, detect_duplicate_po po customer signal_scores thresholds context
        DUPLICATE_PO_AUTONOMY_LEVELS weights = .ok outputs ∧
      validate_duplicate_po_recipe_output (stamp_vocabulary outputs) = []

theorem check_score_eq_nil {p : String × PyVal} {q : ℚ} (hread : p.2.toFloat = .ok (.fin q))
    (h : check_score p = []) : 0 ≤ q ∧ q ≤ 1 := by
  unfold check_score at h
  rw [hread] at h
  simpa [PyFloat.lt] using h

/-- Accepted metadata hold scores between zero and one. -/
theorem scores_of_accepted {metadata : PyDict} {signal_scores : List (String × ℚ)}
    (hread : ReadsScores metadata signal_scores)
    (h : validate_duplicate_po_event_metadata metadata = []) :
    ∀ s ∈ signal_scores, 0 ≤ s.2 ∧ s.2 ≤ 1 := by
  obtain ⟨d, hget, hall⟩ := hread
  have hchecked : d.flatMap check_score = [] := by
    unfold validate_duplicate_po_event_metadata at h
    split at h
    · rw [hget] at h
      exact (List.append_eq_nil_iff.mp h).2
    · rename_i hne
      exact absurd h hne
  clear h hget
  induction hall with
  | nil => simp
  | cons hp _ ih =>
    rw [List.flatMap_cons, List.append_eq_nil_iff] at hchecked
    intro s hs
    rcases List.mem_cons.mp hs with rfl | hs
    · exact check_score_eq_nil hp.2 hchecked.1
    · exact ih hchecked.2 s hs

/-- The event in which every signal matches fully. -/
def fullMatch : PyDict :=
  [("signal_scores", .dict (EXPECTED_SIGNAL_KEYS.map fun key => (key, .float (.fin 1)))),
    ("matched_po_id", .str "PO-1")]

def fullScores : List (String × ℚ) := EXPECTED_SIGNAL_KEYS.map fun key => (key, 1)

theorem fullMatch_accepted :
    ReadsScores fullMatch fullScores ∧ validate_duplicate_po_event_metadata fullMatch = [] := by
  refine ⟨⟨_, rfl, ?_⟩, by decide +kernel⟩
  unfold fullScores
  rw [List.forall₂_map_left_iff, List.forall₂_map_right_iff, List.forall₂_same]
  exact fun _ _ => ⟨rfl, rfl⟩

theorem score_of_fullScores {key : String} (h : key ∈ EXPECTED_SIGNAL_KEYS) :
    score_of fullScores key = 1 := by
  revert h key
  decide +kernel

theorem detects {weights : List (String × ℚ)} (h : assert_weight_contract weights = .ok ())
    (po customer : String) (signal_scores : List (String × ℚ)) (thresholds : Thresholds)
    (context : ResolutionContext) :
    ∃ outputs, detect_duplicate_po po customer signal_scores thresholds context
      DUPLICATE_PO_AUTONOMY_LEVELS weights = .ok outputs := by
  unfold detect_duplicate_po
  rw [ok_bind h]
  exact ⟨_, rfl⟩

/-- For an accepted weight map, the outputs on accepted events are accepted
just when the weights, rounded as the breakdown rounds them, add up to at
most one. -/
theorem outputs_accepted_iff {weights : List (String × ℚ)}
    (hweights : assert_weight_contract weights = .ok ()) :
    OutputsAccepted weights ↔ (weights.map fun w => round_to 6 w.2).sum ≤ 1 := by
  obtain ⟨hkeys, hbounds⟩ := accepted_weights hweights
  constructor
  · intro haccepted
    obtain ⟨hread, hvalid⟩ := fullMatch_accepted
    obtain ⟨outputs, hrun, hnothing⟩ :=
      haccepted fullMatch fullScores "PO-2" "" {} {} hread hvalid (by decide)
    have hscore := ((outputs_valid_iff hkeys (by decide) hrun).mp hnothing).2
    have hfull : (weights.map fun w => round_to 6 w.2) =
        weights.map fun w => round_to 6 (w.2 * score_of fullScores w.1) := by
      refine List.map_congr_left fun w hw => ?_
      rw [score_of_fullScores ((hkeys w.1).mp (List.mem_map_of_mem hw)), mul_one]
    rwa [composite_score_eq, ← hfull] at hscore
  · intro hsum metadata signal_scores po customer thresholds context hread hvalid hpo
    obtain ⟨outputs, hrun⟩ := detects hweights po customer signal_scores thresholds context
    obtain ⟨hlow, hhigh⟩ := composite_score_bounds (fun w hw => (hbounds w hw).1)
      (scores_of_accepted hread hvalid)
    exact ⟨outputs, hrun, (outputs_valid_iff hkeys hpo hrun).mpr ⟨hlow, hhigh.trans hsum⟩⟩

/-- The weights of the platform, with another weight of the order number. -/
def weightsWith (po_number : ℚ) : List (String × ℚ) :=
  [("po_number", po_number), ("customer_id", 15 / 100), ("line_items", 20 / 100),
    ("amount", 10 / 100), ("timestamp", 10 / 100), ("ship_to", 5 / 100), ("channel", 5 / 100),
    ("delivery_date", 5 / 100)]

theorem outputs_accepted_platform :
    assert_weight_contract (weightsWith (30 / 100)) = .ok () ∧
      OutputsAccepted (weightsWith (30 / 100)) := by
  have hweights : assert_weight_contract (weightsWith (30 / 100)) = .ok () := by decide +kernel
  exact ⟨hweights, (outputs_accepted_iff hweights).mpr (by decide +kernel)⟩

/-- A weight map within the tolerance of the sum scores a full match above
one, and the outputs are refused for it. -/
theorem a_full_match_is_refused :
    assert_weight_contract (weightsWith (3001 / 10000)) = .ok () ∧
    validate_duplicate_po_event_metadata fullMatch = [] ∧
    ReadsScores fullMatch fullScores ∧
    ∃ outputs, detect_duplicate_po "PO-2" "" fullScores {} {} DUPLICATE_PO_AUTONOMY_LEVELS
        (weightsWith (3001 / 10000)) = .ok outputs ∧
      validate_duplicate_po_recipe_output (stamp_vocabulary outputs) =
        [("composite_score", "Input should be less than or equal to 1")] := by
  refine ⟨by decide +kernel, by decide +kernel, fullMatch_accepted.1, ?_⟩
  decide +kernel

end asoe.exact
