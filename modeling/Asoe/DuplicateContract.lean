-- The contracts of a duplicate order: which metadata an event may carry, and
-- which outputs its recipe may return. A check answers with the offending
-- keys and the reason for each of them; nothing is wrong when there are none.
import Asoe.MatchRecipes

namespace asoe

open py

/-- A key and what is wrong with it. -/
abbrev Offender := String × String

/-! ## Checking one value -/

/-- The names of a literal type, as the error text lists them. -/
def literal_names : List String → String
  | [] => ""
  | [a] => py.reprStr a
  | [a, b] => py.reprStr a ++ " or " ++ py.reprStr b
  | a :: names => py.reprStr a ++ ", " ++ literal_names names

def check_literal (names : List String) (loc : String) (v : PyVal) : List Offender :=
  match v with
  | .str s => if s ∈ names then [] else [(loc, "Input should be " ++ literal_names names)]
  | _ => [(loc, "Input should be " ++ literal_names names)]

def check_str (min_length : ℕ) (loc : String) (v : PyVal) : List Offender :=
  match v with
  | .str s =>
    if s.length < min_length then
      [(loc, "String should have at least " ++ toString min_length ++ " character"
        ++ (if min_length = 1 then "" else "s"))]
    else []
  | _ => [(loc, "Input should be a valid string")]

/-- A number, or a text that is one. -/
def check_float (loc : String) (v : PyVal) : List Offender :=
  match v.toFloat with
  | .ok _ => []
  | .error _ => [(loc, "Input should be a valid number")]

/-- A float between zero and one. -/
def check_unit_float (loc : String) (v : PyVal) : List Offender :=
  match v.toFloat with
  | .ok x =>
    if !(PyFloat.fin 0).le x then [(loc, "Input should be greater than or equal to 0")]
    else if !x.le (.fin 1) then [(loc, "Input should be less than or equal to 1")]
    else []
  | .error _ => [(loc, "Input should be a valid number")]

def check_floats (loc : String) (v : PyVal) : List Offender :=
  match v with
  | .dict d => d.flatMap fun p => check_float (loc ++ "." ++ p.1) p.2
  | _ => [(loc, "Input should be a valid dictionary")]

def required (d : PyDict) (key : String) (check : String → PyVal → List Offender) :
    List Offender :=
  match dict.get d key with
  | some v => check key v
  | none => [(key, "Field required")]

def optional (d : PyDict) (key : String) (check : String → PyVal → List Offender) :
    List Offender :=
  match dict.get d key with
  | none | some .none => []
  | some v => check key v

/-! ## The metadata of the event -/

def EXPECTED_SIGNAL_KEYS : List String :=
  ["po_number", "customer_id", "line_items", "amount", "timestamp", "ship_to", "channel",
    "delivery_date"]

def signal_keys_of (v : PyVal) : List String :=
  match v with
  | .dict d => d.map (·.1)
  | _ => []

def unknown_keys (keys : List String) : List String :=
  sorted_names (keys.filter (· ∉ EXPECTED_SIGNAL_KEYS))

def names_text (names : List String) : String := (PyVal.list (names.map .str)).repr

/-- The value is compared as the float that was read. -/
def check_score (p : String × PyVal) : List Offender :=
  match p.2.toFloat with
  | .ok x =>
    if x.lt (.fin 0) || (PyFloat.fin 1).lt x then
      [("signal_scores." ++ p.1, "value " ++ reprFloat x ++ " outside [0.0, 1.0]")]
    else []
  | .error _ => []

def event_metadata_fields (metadata : PyDict) : List Offender :=
  required metadata "signal_scores" check_floats ++
    required metadata "matched_po_id" (check_str 1) ++
    optional metadata "tenant_id" (check_str 0) ++
    optional metadata "customer_tier" (check_literal ["strategic", "standard", "smb"]) ++
    optional metadata "channel" (check_str 0) ++
    optional metadata "behavior_tag" (check_literal ["blanket_po", "drop_ship", "high_frequency"])

def validate_duplicate_po_event_metadata (metadata : PyDict) : List Offender :=
  match event_metadata_fields metadata with
  | [] =>
    let scores := PyVal.ofOption (dict.get metadata "signal_scores")
    let extra := unknown_keys (signal_keys_of scores)
    (if extra.isEmpty then [] else [("signal_scores", "unknown signal keys: " ++ names_text extra)])
      ++ (match scores with
        | .dict d => d.flatMap check_score
        | _ => [])
  | offenders => offenders

/-! ## The outputs of the recipe -/

def RESOLUTION_ACTION_NAMES : List String :=
  ["BLOCK_AND_NOTIFY", "MERGE", "SUPERSEDE", "ALLOW_BOTH", "ESCALATE",
    "REQUEST_BUYER_CONFIRMATION", "ONE_CLICK_APPROVE", "STANDARD_REVIEW", "LOW_CONFIDENCE_FLAG",
    "AUTO_CORRECT", "REQUEST_CLARIFICATION", "REJECT", "SUBMIT_TO_ERP", "DRAFT_REPLY",
    "SEND_REPLY"]

def RECIPE_OUTPUT_FIELDS : List String :=
  ["status", "composite_score", "classification", "recommended_action", "autonomy_level",
    "autonomy_vocab_version", "notification_template", "signal_breakdown", "incoming_po_number",
    "customer_id"]

def recipe_output_fields (outputs : PyDict) : List Offender :=
  required outputs "status" (check_literal ["BLOCKED", "REVIEW_REQUIRED", "SOFT_FLAG", "PASS"]) ++
    required outputs "composite_score" check_unit_float ++
    required outputs "classification"
      (check_literal ["AUTO_BLOCK", "REVIEW_REQUIRED", "SOFT_FLAG", "PASS"]) ++
    required outputs "recommended_action" (check_literal RESOLUTION_ACTION_NAMES) ++
    optional outputs "autonomy_level" (check_literal ["L1", "L2", "L3", "L4"]) ++
    optional outputs "autonomy_vocab_version" (check_str 0) ++
    optional outputs "notification_template" (check_str 0) ++
    required outputs "signal_breakdown" check_floats ++
    required outputs "incoming_po_number" (check_str 1) ++
    required outputs "customer_id" (check_str 0) ++
    (outputs.filter (·.1 ∉ RECIPE_OUTPUT_FIELDS)).map fun p =>
      (p.1, "Extra inputs are not permitted")

def validate_duplicate_po_recipe_output (outputs : PyDict) : List Offender :=
  match recipe_output_fields outputs with
  | [] =>
    let keys := signal_keys_of (.ofOption (dict.get outputs "signal_breakdown"))
    let extra := unknown_keys keys
    let missing := sorted_names (EXPECTED_SIGNAL_KEYS.filter (· ∉ keys))
    (if extra.isEmpty then [] else
        [("signal_breakdown", "unknown signal keys: " ++ names_text extra)])
      ++ (if missing.isEmpty then [] else
        [("signal_breakdown", "missing signal keys: " ++ names_text missing)])
  | offenders => offenders

/-! ## When nothing is wrong -/

theorem check_str_eq_nil {min_length : ℕ} {loc : String} {v : PyVal} :
    check_str min_length loc v = [] ↔ ∃ s, v = .str s ∧ min_length ≤ s.length := by
  cases v with
  | str s => simp [check_str]
  | _ => simp [check_str]

theorem check_unit_float_eq_nil {loc : String} {x : PyFloat} :
    check_unit_float loc (.float x) = [] ↔
      (PyFloat.fin 0).le x = true ∧ x.le (.fin 1) = true := by
  have hread : (PyVal.float x).toFloat = .ok x := rfl
  unfold check_unit_float
  rw [hread]
  cases hlow : (PyFloat.fin 0).le x <;> cases hhigh : x.le (.fin 1) <;> simp [hlow, hhigh]

theorem check_floats_of_floats {loc : String} {d : List (String × PyFloat)} :
    check_floats loc (.dict (d.map fun p => (p.1, .float p.2))) = [] := by
  have hfloat : ∀ (loc : String) (x : PyFloat), check_float loc (.float x) = [] := fun _ _ => rfl
  simp only [check_floats, List.flatMap_map, hfloat]
  simp

theorem required_eq_nil {d : PyDict} {key : String} {check : String → PyVal → List Offender}
    {v : PyVal} (h : dict.get d key = some v) : required d key check = check key v := by
  simp [required, h]

theorem optional_eq_nil {d : PyDict} {key : String} {check : String → PyVal → List Offender}
    {v : PyVal} (h : dict.get d key = some v) (hcheck : v ≠ .none → check key v = []) :
    optional d key check = [] := by
  unfold optional
  rw [h]
  cases v with
  | none => rfl
  | _ => exact hcheck (by simp)

theorem sorted_names_eq_nil {names : List String} : sorted_names names = [] ↔ names = [] := by
  rw [← List.length_eq_zero_iff, ← List.length_eq_zero_iff, sorted_names,
    List.length_insertionSort]

theorem unknown_keys_eq_nil {keys : List String} :
    unknown_keys keys = [] ↔ ∀ key ∈ keys, key ∈ EXPECTED_SIGNAL_KEYS := by
  simp [unknown_keys, sorted_names_eq_nil]

/-- No key is missing and none is extra: the keys are those of the signals. -/
theorem same_keys {keys : List String}
    (h : EXPECTED_SIGNAL_KEYS.filter (· ∉ keys) = [] ∧
      keys.filter (· ∉ EXPECTED_SIGNAL_KEYS) = []) :
    ∀ key, key ∈ keys ↔ key ∈ EXPECTED_SIGNAL_KEYS := by
  intro key
  constructor
  · intro hkey
    by_contra hnew
    have hmem : key ∈ keys.filter (· ∉ EXPECTED_SIGNAL_KEYS) :=
      List.mem_filter.mpr ⟨hkey, by simpa using hnew⟩
    rw [h.2] at hmem
    cases hmem
  · intro hkey
    by_contra hnew
    have hmem : key ∈ EXPECTED_SIGNAL_KEYS.filter (· ∉ keys) :=
      List.mem_filter.mpr ⟨hkey, by simpa using hnew⟩
    rw [h.1] at hmem
    cases hmem

end asoe
