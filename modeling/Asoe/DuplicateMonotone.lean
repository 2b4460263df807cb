-- The score of a duplicate order in the order of its signals: a better match
-- of every signal never scores less, on weights that are numbers.
import Asoe.DuplicateContract
import Asoe.Lib.FloatRounding
import Asoe.Lib.Traverse
import Mathlib.Algebra.Order.BigOperators.Group.List

namespace asoe

open py prog

/-! ## Weights that are accepted -/

/-- A weight that the contract accepts: a number between zero and one, or the
NaN that no comparison turns down. -/
def AcceptedWeight (x : PyFloat) : Prop := x = .nan ∨ ∃ q, x = .fin q ∧ 0 ≤ q ∧ q ≤ 1

theorem float_of_unit_int {n : ℤ} (hlow : 0 ≤ n) (hhigh : n ≤ 1) :
    floatOfNumber (.inl n) = .ok (.fin n) := by
  obtain rfl | rfl : n = 0 ∨ n = 1 := by omega
  · decide +kernel
  · decide +kernel

theorem assert_weight_accepted (key : String) (value : PyVal) :
    returns (assert_weight key value) fun x =>
      AcceptedWeight x ∧ (x = .nan ↔ value = .float .nan) := by
  unfold assert_weight
  cases hnumber : value.number? with
  | none => exact returns_error _
  | some n =>
    refine returns_ite (fun _ => returns_error _) fun hin => ?_
    cases n with
    | inl n =>
      obtain ⟨hlow, hhigh⟩ : 0 ≤ n ∧ (n : ℚ) ≤ 1 := by
        simpa [ltNumber] using hin
      have hhigh : n ≤ 1 := by exact_mod_cast hhigh
      rw [float_of_unit_int hlow hhigh]
      refine (returns_ok _).mpr ⟨Or.inr ⟨n, rfl, ?_, ?_⟩, ?_⟩
      · exact_mod_cast hlow
      · exact_mod_cast hhigh
      · refine iff_of_false (by simp) ?_
        rintro rfl
        simp [PyVal.number?] at hnumber
    | inr x =>
      have hvalue : value = .float x := by
        cases value <;> simp_all [PyVal.number?]
      refine (returns_ok _).mpr ⟨?_, by simp [hvalue]⟩
      cases x with
      | nan => exact Or.inl rfl
      | inf s => cases s <;> simp [ltNumber, PyFloat.lt] at hin
      | fin q =>
        obtain ⟨hlow, hhigh⟩ : 0 ≤ q ∧ q ≤ 1 := by
          simpa [ltNumber, PyFloat.lt] using hin
        exact Or.inr ⟨q, rfl, hlow, hhigh⟩

theorem checked_weights {weights : PyDict} {checked : List (String × PyFloat)}
    (h : weights.mapM (fun p => do return (p.1, ← assert_weight p.1 p.2)) = .ok checked) :
    checked.map (·.1) = weights.map (·.1) ∧ (∀ w ∈ checked, AcceptedWeight w.2) ∧
      ((∃ w ∈ checked, w.2 = .nan) ↔ ∃ p ∈ weights, p.2 = .float .nan) := by
  have hall := mapM_ok_iff.mp h
  clear h
  induction hall with
  | nil => simp
  | @cons p w weights checked hp _ ih =>
    obtain ⟨hkeys, haccepted, hnan⟩ := ih
    cases hx : assert_weight p.1 p.2 with
    | error exc =>
      rw [hx] at hp
      cases hp
    | ok x =>
      obtain ⟨hxaccepted, hxnan⟩ := assert_weight_accepted p.1 p.2 x hx
      rw [hx] at hp
      cases hp
      refine ⟨by simp [hkeys], ?_, ?_⟩
      · intro w hw
        rcases List.mem_cons.mp hw with rfl | hw
        · exact hxaccepted
        · exact haccepted w hw
      · simp only [List.mem_cons, exists_eq_or_imp, hxnan, hnan]

variable {checked : List (String × PyFloat)}

theorem weight_contract_accepted {weights : PyDict}
    (h : assert_weight_contract weights = .ok checked) :
    (∀ key, key ∈ weights.map (·.1) ↔ key ∈ EXPECTED_SIGNAL_KEYS) ∧
      weights.mapM (fun p => do return (p.1, ← assert_weight p.1 p.2)) = .ok checked := by
  have hexpected : WEIGHTS.map (·.1) = EXPECTED_SIGNAL_KEYS := by decide
  unfold assert_weight_contract at h
  dsimp only at h
  rw [hexpected] at h
  split at h
  · cases h
  · rename_i hkeys
    refine ⟨same_keys (by simpa using hkeys), ?_⟩
    cases hall : weights.mapM (fun p => do return (p.1, ← assert_weight p.1 p.2)) with
    | error exc =>
      rw [hall, error_bind rfl] at h
      cases h
    | ok rest =>
      rw [hall, ok_bind rfl] at h
      split at h
      · cases h
      · cases h
        rfl

/-! ## The contribution of a signal -/

/-- `float(signal_scores.get(signal, 0.0))`. -/
def read_score (scores : PyDict) (signal : String) : Except PyErr PyFloat :=
  ((dict.get scores signal).getD (.float (.fin 0))).toFloat

/-- The millionths that a signal contributes. -/
def contribution (weight score : ℚ) : ℤ :=
  PyFloat.roundHalfEven (PyFloat.nearest (weight * score) * 10 ^ 6)

theorem contribution_bounds {w a : ℚ} (hw : 0 ≤ w ∧ w ≤ 1) (ha : 0 ≤ a ∧ a ≤ 1) :
    0 ≤ contribution w a ∧ contribution w a ≤ 10 ^ 6 := by
  have hlow : 0 ≤ w * a := mul_nonneg hw.1 ha.1
  have hhigh : w * a ≤ 1 := mul_le_one₀ hw.2 ha.1 ha.2
  obtain ⟨v, hv, hvlow, hvhigh, -⟩ := PyFloat.ofRat_unit hlow hhigh
  rw [PyFloat.ofRat_of_unit hlow hhigh] at hv
  cases hv
  unfold contribution
  constructor
  · exact PyFloat.roundHalfEven_nonneg (by positivity)
  · have hround := PyFloat.roundHalfEven_mono
      (show PyFloat.nearest (w * a) * 10 ^ 6 ≤ ((10 ^ 6 : ℤ) : ℚ) by push_cast; linarith)
    rwa [PyFloat.roundHalfEven_int] at hround

theorem contribution_mono {w a b : ℚ} (hw : 0 ≤ w) (ha : 0 ≤ a) (hab : a ≤ b) :
    contribution w a ≤ contribution w b := by
  have hproduct := PyFloat.nearest_mono (mul_nonneg hw ha) (mul_le_mul_of_nonneg_left hab hw)
  unfold contribution
  exact PyFloat.roundHalfEven_mono (by linarith)

theorem mul_roundTo {w a : ℚ} (hw : 0 ≤ w ∧ w ≤ 1) (ha : 0 ≤ a ∧ a ≤ 1) :
    ((PyFloat.fin w).mul (.fin a)).roundTo 6 = .ofRat (contribution w a / 10 ^ 6) := by
  have hproduct : (PyFloat.fin w).mul (.fin a) = .fin (PyFloat.nearest (w * a)) :=
    PyFloat.ofRat_of_unit (mul_nonneg hw.1 ha.1) (mul_le_one₀ hw.2 ha.1 ha.2)
  rw [hproduct]
  rfl

/-! ## The composite score -/

variable {value : String → ℚ}

theorem signal_breakdown_eq {scores : PyDict}
    (h : ∀ w ∈ checked, read_score scores w.1 = .ok (.fin (value w.1))) :
    signal_breakdown checked (.dict scores) =
      .ok (checked.map fun w => (w.1, (w.2.mul (.fin (value w.1))).roundTo 6)) := by
  unfold signal_breakdown
  refine mapM_ok_iff.mpr ?_
  rw [List.forall₂_map_right_iff, List.forall₂_same]
  intro w hw
  have hread : ((dict.get scores w.1).getD (.float (.fin 0))).toFloat = .ok (.fin (value w.1)) :=
    h w hw
  rw [ok_bind (show method_of "get" (.dict scores) = .ok scores from rfl), ok_bind hread]
  rfl

theorem exact_weights {checked : List (String × PyFloat)}
    (haccepted : ∀ w ∈ checked, AcceptedWeight w.2) (hnumbers : ¬ ∃ w ∈ checked, w.2 = .nan) :
    ∃ exact : List (String × ℚ), checked = exact.map (fun w => (w.1, .fin w.2)) ∧
      ∀ w ∈ exact, 0 ≤ w.2 ∧ w.2 ≤ 1 := by
  induction checked with
  | nil => exact ⟨[], rfl, by simp⟩
  | cons w checked ih =>
    obtain ⟨exact, hexact, hbounds⟩ := ih (fun v hv => haccepted v (by simp [hv]))
      (fun ⟨v, hv, hnan⟩ => hnumbers ⟨v, by simp [hv], hnan⟩)
    rcases haccepted w (by simp) with hnan | ⟨q, hq, hlow, hhigh⟩
    · exact absurd ⟨w, by simp, hnan⟩ hnumbers
    · refine ⟨(w.1, q) :: exact, by rw [List.map_cons, ← hexact, ← hq], ?_⟩
      intro v hv
      rcases List.mem_cons.mp hv with rfl | hv
      · exact ⟨hlow, hhigh⟩
      · exact hbounds v hv

theorem composite_of_exact {exact : List (String × ℚ)}
    (hlength : exact.length ≤ 1000) (hweights : ∀ w ∈ exact, 0 ≤ w.2 ∧ w.2 ≤ 1)
    (hvalue : ∀ w ∈ exact, 0 ≤ value w.1 ∧ value w.1 ≤ 1) :
    (PyFloat.sum (exact.map fun w =>
        ((PyFloat.fin w.2).mul (.fin (value w.1))).roundTo 6)).roundTo 6 =
      .ofRat (((exact.map fun w => contribution w.2 (value w.1)).sum : ℤ) / 10 ^ 6) := by
  have hmap : (exact.map fun w => ((PyFloat.fin w.2).mul (.fin (value w.1))).roundTo 6) =
      (exact.map fun w => contribution w.2 (value w.1)).map
        fun n : ℤ => PyFloat.ofRat (n / 10 ^ 6) := by
    rw [List.map_map]
    exact List.map_congr_left fun w hw => mul_roundTo (hweights w hw) (hvalue w hw)
  rw [hmap, PyFloat.roundTo_sum (by simpa using hlength)]
  intro n hn
  obtain ⟨w, hw, rfl⟩ := List.mem_map.mp hn
  exact contribution_bounds (hweights w hw) (hvalue w hw)

/-- The composite score of the recipe on scores that can be read. -/
def composite_of (checked : List (String × PyFloat)) (value : String → ℚ) : PyFloat :=
  (PyFloat.sum (checked.map fun w => (w.2.mul (.fin (value w.1))).roundTo 6)).roundTo 6

theorem composite_mono {value' : String → ℚ}
    (hlength : checked.length ≤ 1000) (haccepted : ∀ w ∈ checked, AcceptedWeight w.2)
    (hnumbers : ¬ ∃ w ∈ checked, w.2 = .nan)
    (hvalue : ∀ w ∈ checked, 0 ≤ value w.1 ∧ value w.1 ≤ value' w.1 ∧ value' w.1 ≤ 1) :
    (composite_of checked value).le (composite_of checked value') = true := by
  obtain ⟨exact, rfl, hweights⟩ := exact_weights haccepted hnumbers
  have hvalue : ∀ w ∈ exact, 0 ≤ value w.1 ∧ value w.1 ≤ value' w.1 ∧ value' w.1 ≤ 1 :=
    fun w hw => hvalue (w.1, .fin w.2) (List.mem_map_of_mem hw)
  have hlength : exact.length ≤ 1000 := by simpa using hlength
  unfold composite_of
  rw [List.map_map, List.map_map]
  have hlow := composite_of_exact hlength hweights fun w hw =>
    ⟨(hvalue w hw).1, (hvalue w hw).2.1.trans (hvalue w hw).2.2⟩
  have hhigh := composite_of_exact hlength hweights fun w hw =>
    ⟨(hvalue w hw).1.trans (hvalue w hw).2.1, (hvalue w hw).2.2⟩
  have hsums : (exact.map fun w => contribution w.2 (value w.1)).sum ≤
      (exact.map fun w => contribution w.2 (value' w.1)).sum :=
    List.sum_le_sum fun w hw =>
      contribution_mono (hweights w hw).1 (hvalue w hw).1 (hvalue w hw).2.1
  have hpos : 0 ≤ (exact.map fun w => contribution w.2 (value w.1)).sum := by
    refine List.sum_nonneg fun n hn => ?_
    obtain ⟨w, hw, rfl⟩ := List.mem_map.mp hn
    exact (contribution_bounds (hweights w hw)
      ⟨(hvalue w hw).1, (hvalue w hw).2.1.trans (hvalue w hw).2.2⟩).1
  have hpos' : (0 : ℚ) ≤ ((exact.map fun w => contribution w.2 (value w.1)).sum : ℤ) := by
    exact_mod_cast hpos
  have hsums' : (((exact.map fun w => contribution w.2 (value w.1)).sum : ℤ) : ℚ) ≤
      ((exact.map fun w => contribution w.2 (value' w.1)).sum : ℤ) := by
    exact_mod_cast hsums
  change PyFloat.le (PyFloat.roundTo 6 (PyFloat.sum (exact.map fun w =>
      ((PyFloat.fin w.2).mul (.fin (value w.1))).roundTo 6)))
    (PyFloat.roundTo 6 (PyFloat.sum (exact.map fun w =>
      ((PyFloat.fin w.2).mul (.fin (value' w.1))).roundTo 6))) = true
  rw [hlow, hhigh]
  exact PyFloat.ofRat_mono (by positivity) (by gcongr)

theorem composite_nan (h : ∃ w ∈ checked, w.2 = .nan) : composite_of checked value = .nan := by
  obtain ⟨w, hw, hnan⟩ := h
  have hmem : PyFloat.nan ∈ checked.map fun w => (w.2.mul (.fin (value w.1))).roundTo 6 := by
    refine List.mem_map.mpr ⟨w, hw, ?_⟩
    rw [hnan]
    rfl
  unfold composite_of
  rw [PyFloat.sum_nan hmem]
  rfl

/-! ## The recipe -/

/-- The classes from the weakest to the strongest. -/
def DuplicateClass.rank : DuplicateClass → ℕ
  | PASS => 0
  | SOFT_FLAG => 1
  | REVIEW_REQUIRED => 2
  | AUTO_BLOCK => 3

/-- What a call of the recipe is given beside the scores and the weights. -/
structure DuplicateCall where
  incoming_po_number : PyVal
  customer_id : PyVal
  auto_block : PyFloat
  review_required : PyFloat
  soft_flag : PyFloat
  original_fulfilled : PyVal := .none
  has_revision_indicator : PyVal := .none
  line_items_identical : PyVal := .none
  autonomy_levels : PyDict := []

def DuplicateCall.run (call : DuplicateCall) (signal_scores weights : PyDict) :
    Except PyErr PyDict :=
  detect_duplicate_po call.incoming_po_number call.customer_id (.dict signal_scores)
    (.float call.auto_block) (.float call.review_required) (.float call.soft_flag)
    call.original_fulfilled call.has_revision_indicator call.line_items_identical
    (.dict call.autonomy_levels) (.dict weights)

/-- The class of a score that is a float, by thresholds that are. -/
def DuplicateCall.class_of (call : DuplicateCall) (score : PyFloat) : DuplicateClass :=
  if call.auto_block.le score then .AUTO_BLOCK
  else if call.review_required.le score then .REVIEW_REQUIRED
  else if call.soft_flag.le score then .SOFT_FLAG
  else .PASS

theorem classify_score_eq (call : DuplicateCall) (score : PyFloat) :
    classify_score score (.float call.auto_block) (.float call.review_required)
      (.float call.soft_flag) = .ok (call.class_of score) := by
  unfold classify_score DuplicateCall.class_of
  dsimp only
  rw [compare_float, compare_float, compare_float, ok_bind rfl]
  cases hblock : call.auto_block.le score with
  | true => simp [PyVal.CmpOp.holds, hblock, pure, Except.pure]
  | false =>
    cases hreview : call.review_required.le score with
    | true =>
      simp [PyVal.CmpOp.holds, hblock, hreview, pure, Except.pure, bind, Except.bind]
    | false =>
      cases hsoft : call.soft_flag.le score <;>
        simp [PyVal.CmpOp.holds, hblock, hreview, hsoft, pure, Except.pure, bind, Except.bind]

theorem class_of_mono (call : DuplicateCall) {x y : PyFloat} (h : x.le y = true) :
    (call.class_of x).rank ≤ (call.class_of y).rank := by
  have hblock := fun hx : call.auto_block.le x = true => PyFloat.le_trans hx h
  have hreview := fun hx : call.review_required.le x = true => PyFloat.le_trans hx h
  have hsoft := fun hx : call.soft_flag.le x = true => PyFloat.le_trans hx h
  unfold DuplicateCall.class_of
  split_ifs <;> simp_all [DuplicateClass.rank]

theorem autonomy_of_dict (levels : PyDict) (action : String) :
    ∃ level, autonomy_of (.dict levels) action = .ok level := by
  unfold autonomy_of
  split <;> exact ⟨_, rfl⟩

theorem run_of_scores (call : DuplicateCall) (value : String → ℚ) {weights : PyDict}
    {signal_scores : PyDict}
    (hweights : assert_weight_contract weights = .ok checked)
    (hread : ∀ w ∈ checked, read_score signal_scores w.1 = .ok (.fin (value w.1))) :
    ∃ outputs, call.run signal_scores weights = .ok outputs ∧
      dict.get outputs "composite_score" = some (.float (composite_of checked value)) ∧
      dict.get outputs "classification" =
        some (.str (call.class_of (composite_of checked value)).value) := by
  have hgiven : weights_or_default (.dict weights) = .ok weights := rfl
  unfold DuplicateCall.run detect_duplicate_po
  rw [ok_bind hgiven, ok_bind hweights, ok_bind (signal_breakdown_eq hread)]
  have hcomposite : PyFloat.roundTo 6 (PyFloat.sum ((checked.map fun w =>
      (w.1, (w.2.mul (.fin (value w.1))).roundTo 6)).map (·.2))) = composite_of checked value := by
    rw [List.map_map]
    rfl
  rw [hcomposite]
  obtain ⟨level, hlevel⟩ := autonomy_of_dict call.autonomy_levels
    (resolve_action (call.class_of (composite_of checked value)) call.original_fulfilled
      call.has_revision_indicator call.line_items_identical).value
  rw [ok_bind (classify_score_eq call (composite_of checked value)), ok_bind hlevel]
  exact ⟨_, rfl, rfl, rfl⟩

/-! ## The order of the scores -/

/-- Each signal has a score between zero and one in both maps, and the second
one is not below the first. -/
def ScoresBelow (s s' : PyDict) : Prop :=
  ∀ signal ∈ EXPECTED_SIGNAL_KEYS, ∃ a b : ℚ, read_score s signal = .ok (.fin a) ∧
    read_score s' signal = .ok (.fin b) ∧ 0 ≤ a ∧ a ≤ b ∧ b ≤ 1

/-- A better match of every signal neither scores less nor falls to a weaker
class. -/
def KeepsOrder (weights : PyDict) : Prop :=
  ∀ (call : DuplicateCall) (s s' : PyDict), call.soft_flag.le call.review_required = true →
    call.review_required.le call.auto_block = true → ScoresBelow s s' →
    ∃ outputs outputs' x x' c c', call.run s weights = .ok outputs ∧
      call.run s' weights = .ok outputs' ∧
      dict.get outputs "composite_score" = some (.float x) ∧
      dict.get outputs' "composite_score" = some (.float x') ∧ x.le x' = true ∧
      dict.get outputs "classification" = some (.str (DuplicateClass.value c)) ∧
      dict.get outputs' "classification" = some (.str (DuplicateClass.value c')) ∧
      c.rank ≤ c'.rank

/-- A missing signal is the same as one that scores zero. -/
def MissingIsZero (weights : PyDict) : Prop :=
  ∀ (call : DuplicateCall) (s : PyDict) (signal : String), dict.get s signal = none →
    call.run (dict.set s signal (.float (.fin 0))) weights = call.run s weights

theorem signal_breakdown_missing (checked : List (String × PyFloat)) {s : PyDict}
    {signal : String} (h : dict.get s signal = none) :
    signal_breakdown checked (.dict (dict.set s signal (.float (.fin 0)))) =
      signal_breakdown checked (.dict s) := by
  have hread : ∀ key, (dict.get (dict.set s signal (PyVal.float (.fin 0))) key).getD
      (.float (.fin 0)) = (dict.get s key).getD (.float (.fin 0)) := by
    intro key
    by_cases hkey : key = signal
    · rw [hkey, dict.get_set_self, h]
      rfl
    · rw [dict.get_set_of_ne _ _ hkey]
  unfold signal_breakdown
  refine congrArg (fun f => checked.mapM f) (funext fun w => ?_)
  rw [ok_bind (show method_of "get" (.dict s) = .ok s from rfl),
    ok_bind (show method_of "get" (.dict (dict.set s signal (.float (.fin 0)))) = .ok _ from rfl),
    hread]

theorem missing_is_zero (weights : PyDict) : MissingIsZero weights := by
  intro call s signal h
  unfold DuplicateCall.run detect_duplicate_po
  simp only [signal_breakdown_missing _ h]

/-- The value that a score is read as. -/
def value_of (scores : PyDict) (signal : String) : ℚ :=
  match read_score scores signal with
  | .ok (.fin q) => q
  | _ => 0

theorem value_of_read {scores : PyDict} {signal : String} {q : ℚ}
    (h : read_score scores signal = .ok (.fin q)) : value_of scores signal = q := by
  simp [value_of, h]

/-- For an accepted weight map, the score and the class follow the order of
the signals just when no weight is a NaN; a missing signal always counts as
zero. -/
theorem score_keeps_order_iff {weights : PyDict} (hdict : (weights.map (·.1)).Nodup)
    (haccepted : ∃ checked, assert_weight_contract weights = .ok checked) :
    KeepsOrder weights ∧ MissingIsZero weights ↔ ∀ p ∈ weights, p.2 ≠ .float .nan := by
  obtain ⟨checked, hweights⟩ := haccepted
  obtain ⟨hkeys, hmap⟩ := weight_contract_accepted hweights
  obtain ⟨hsame, hunit, hnan⟩ := checked_weights hmap
  have hsignal : ∀ w ∈ checked, w.1 ∈ EXPECTED_SIGNAL_KEYS := by
    intro w hw
    rw [← hkeys, ← hsame]
    exact List.mem_map_of_mem hw
  have hlength : checked.length ≤ 1000 := by
    have hsub : (weights.map (·.1)).Subperm EXPECTED_SIGNAL_KEYS :=
      hdict.subperm fun key hkey => (hkeys key).mp hkey
    have hfew := hsub.length_le
    rw [← hsame, List.length_map] at hfew
    exact hfew.trans (by decide)
  constructor
  · rintro ⟨hkept, -⟩ p hp hbad
    have hbroken : ∃ w ∈ checked, w.2 = .nan := hnan.mpr ⟨p, hp, hbad⟩
    have hzero : ∀ signal, read_score [] signal = .ok (.fin 0) := fun _ => rfl
    have hbelow : ScoresBelow [] [] := fun signal _ =>
      ⟨0, 0, hzero signal, hzero signal, le_rfl, le_rfl, by norm_num⟩
    let call : DuplicateCall := ⟨.none, .none, .fin 0, .fin 0, .fin 0, .none, .none, .none, []⟩
    obtain ⟨outputs, outputs', x, x', c, c', hrun, hrun', hx, hx', hle, -⟩ :=
      hkept call [] [] (by decide) (by decide) hbelow
    obtain ⟨same, hsame_run, hscore, -⟩ :=
      run_of_scores call (fun _ => 0) hweights fun w _ => hzero w.1
    rw [composite_nan hbroken] at hscore
    rw [hsame_run] at hrun
    cases hrun
    rw [hscore] at hx
    cases hx
    cases hle
  · intro hnumbers
    refine ⟨?_, missing_is_zero weights⟩
    intro call s s' _ _ hbelow
    have hnone : ¬ ∃ w ∈ checked, w.2 = .nan := by
      rw [hnan]
      rintro ⟨p, hp, hbad⟩
      exact hnumbers p hp hbad
    have hread : ∀ w ∈ checked, read_score s w.1 = .ok (.fin (value_of s w.1)) ∧
        read_score s' w.1 = .ok (.fin (value_of s' w.1)) ∧ 0 ≤ value_of s w.1 ∧
        value_of s w.1 ≤ value_of s' w.1 ∧ value_of s' w.1 ≤ 1 := by
      intro w hw
      obtain ⟨a, b, ha, hb, hlow, hab, hhigh⟩ := hbelow w.1 (hsignal w hw)
      rw [value_of_read ha, value_of_read hb]
      exact ⟨ha, hb, hlow, hab, hhigh⟩
    obtain ⟨outputs, hrun, hscore, hclass⟩ :=
      run_of_scores call (value_of s) hweights fun w hw => (hread w hw).1
    obtain ⟨outputs', hrun', hscore', hclass'⟩ :=
      run_of_scores call (value_of s') hweights fun w hw => (hread w hw).2.1
    have hmono := composite_mono hlength hunit hnone fun w hw => (hread w hw).2.2
    exact ⟨outputs, outputs', _, _, _, _, hrun, hrun', hscore, hscore', hmono, hclass, hclass',
      class_of_mono call hmono⟩

theorem score_keeps_order_platform : KeepsOrder WEIGHTS ∧ MissingIsZero WEIGHTS :=
  (score_keeps_order_iff (by decide)
    ⟨(assert_weight_contract WEIGHTS).toOption.getD [], by decide +kernel⟩).mpr (by decide +kernel)

/-- The platform weights with a customer weight that is no number. -/
def nanWeights : PyDict := dict.set WEIGHTS "customer_id" (.float .nan)

def nanCall : DuplicateCall where
  incoming_po_number := .str "PO-1"
  customer_id := .str "C-1"
  auto_block := .fin (90 / 100)
  review_required := .fin (70 / 100)
  soft_flag := .fin (50 / 100)

/-- The contract accepts a weight that is no number, and the score is then
no number either: it is not even at most itself. -/
theorem a_nan_weight_orders_nothing :
    (assert_weight_contract nanWeights).isOk = true ∧
      (∃ outputs, nanCall.run [] nanWeights = .ok outputs ∧
        dict.get outputs "composite_score" = some (.float .nan)) ∧
      ¬ KeepsOrder nanWeights := by
  refine ⟨by decide +kernel, ?_, fun hkept => ?_⟩
  · decide +kernel
  · obtain ⟨outputs, outputs', x, x', c, c', hrun, -, hx, -, hle, -⟩ :=
      hkept nanCall [] [] (by decide +kernel) (by decide +kernel)
        fun _ _ => ⟨0, 0, rfl, rfl, le_rfl, le_rfl, by norm_num⟩
    have hscore : ∃ outputs, nanCall.run [] nanWeights = .ok outputs ∧
        dict.get outputs "composite_score" = some (.float .nan) := by decide +kernel
    obtain ⟨same, hsame, hnan⟩ := hscore
    rw [hsame] at hrun
    cases hrun
    rw [hnan] at hx
    cases hx
    cases hle

end asoe
