-- The gateway of the tenant config: five layers of weights laid over each
-- other, and the platform's own when the result breaks the contract.
import Asoe.DuplicateMonotone
import Asoe.Lib.Layers

namespace asoe

open py prog grouping layers

/-! ## The layers -/

/-- The layers, from the platform to the deepest. -/
inductive LayerName where
  | platform | tenant | tier | customer | channel
  deriving DecidableEq

def LayerName.value : LayerName → String
  | platform => "platform"
  | tenant => "tenant"
  | tier => "tier"
  | customer => "customer"
  | channel => "channel"

/-- One row of the trace. -/
structure Contribution where
  signal : String
  value : PyVal
  source_layer : LayerName
  deriving DecidableEq

def Contribution.entry (row : Contribution) : PyVal :=
  .dict [("signal", .str row.signal), ("value", row.value),
    ("source_layer", .str row.source_layer.value)]

/-- `d[key]`. -/
def key_of {α : Type} (d : List (String × α)) (key : String) : Except PyErr α :=
  match dict.get d key with
  | some v => .ok v
  | none => .error ⟨"KeyError", py.reprStr key⟩

/-- The override maps below the platform. -/
structure LayeredOverrides where
  tenant : PyDict := []
  tier : PyDict := []
  customer : PyDict := []
  channel : PyDict := []
  deriving DecidableEq

/-- The layers in the order in which they are laid over each other. -/
def layer_stack (platform_weights : PyDict) (overrides : LayeredOverrides) :
    List (LayerName × PyDict) :=
  [(.platform, platform_weights), (.tenant, overrides.tenant), (.tier, overrides.tier),
    (.customer, overrides.customer), (.channel, overrides.channel)]

/-- `resolve_weights`. -/
def resolve_weights (platform_weights : PyDict) (overrides : LayeredOverrides) :
    Except PyErr (PyDict × List Contribution) := do
  let o := overlay (layer_stack platform_weights overrides)
  let contribution_trace ← (sorted_names (o.merged.map (·.1))).mapM fun key => do
    return ⟨key, ← key_of o.merged key, ← key_of o.source key⟩
  return (o.merged, contribution_trace)

/-! ## The gateway -/

/-- An entry of `customer_behavior_overrides`. -/
structure BehaviorEntry where
  score_weights_override : PyDict := []
  once : Once score_weights_override := by decide

/-- What the gateway reads of the `duplicate_detection` block. -/
structure DuplicateDefaults where
  score_weights : PyDict
  once : Once score_weights
  customer_behavior_overrides : List (String × BehaviorEntry) := []

def LayeredOverrides.Dicts (overrides : LayeredOverrides) : Prop :=
  Once overrides.tenant ∧ Once overrides.tier ∧ Once overrides.customer ∧ Once overrides.channel

/-- The arguments are the tenant, the tier, the customer and the channel. -/
structure LayerRepository where
  resolve_layered_overrides : PyVal → PyVal → PyVal → PyVal → LayeredOverrides
  dicts : ∀ tenant_id customer_tier customer_id channel,
    (resolve_layered_overrides tenant_id customer_tier customer_id channel).Dicts

structure TenantConfigGateway where
  defaults : DuplicateDefaults
  repository : Option LayerRepository := none

def param (params : PyDict) (name : String) : PyVal := PyVal.ofOption (dict.get params name)

/-- `_customer_overrides_from_behavior`. -/
def TenantConfigGateway.customer_overrides_from_behavior (gateway : TenantConfigGateway)
    (behavior_tag : PyVal) : Except PyErr PyDict := do
  if !behavior_tag.truthy then return []
  match ← behavior_tag.lookupIn gateway.defaults.customer_behavior_overrides with
  | none => return []
  | some entry =>
    entry.score_weights_override.mapM fun p => do return (p.1, .float (← p.2.toFloat))

/-- The rows of the database, when there is one and a tenant is given. -/
def TenantConfigGateway.db_layers (gateway : TenantConfigGateway) (params : PyDict) :
    Option LayeredOverrides :=
  match gateway.repository with
  | some repository =>
    if (param params "tenant_id").truthy then
      some (repository.resolve_layered_overrides (param params "tenant_id")
        (param params "customer_tier") (param params "customer_id") (param params "channel"))
    else none
  | none => none

/-- The overrides of a request: the tag of a behaviour stands in for a customer
without a row. -/
def TenantConfigGateway.overrides (gateway : TenantConfigGateway) (params : PyDict) :
    Except PyErr LayeredOverrides := do
  match gateway.db_layers params with
  | some db_layers =>
    if db_layers.customer.isEmpty then
      let customer ← gateway.customer_overrides_from_behavior (param params "behavior_tag")
      return { db_layers with customer }
    else return db_layers
  | none =>
    let customer ← gateway.customer_overrides_from_behavior (param params "behavior_tag")
    return { customer }

def config_scope (params : PyDict) : PyVal :=
  .dict [("tenant_id", param params "tenant_id"), ("customer_id", param params "customer_id"),
    ("customer_tier", param params "customer_tier"), ("channel", param params "channel"),
    ("behavior_tag", param params "behavior_tag")]

/-- What a resolution hands out. -/
structure ResolvedConfig where
  weights : PyDict
  contribution_trace : List Contribution
  validation_status : String
  violation_reason : PyVal
  rejected_layered_config : PyVal
  scope : PyVal

def ResolvedConfig.data (resolved : ResolvedConfig) : PyDict :=
  [("weights", .dict resolved.weights),
    ("contribution_trace", .list (resolved.contribution_trace.map Contribution.entry)),
    ("validation_status", .str resolved.validation_status),
    ("violation_reason", resolved.violation_reason),
    ("rejected_layered_config", resolved.rejected_layered_config), ("scope", resolved.scope)]

/-- The resolution of `execute`: a merged map that breaks the contract is put
aside for the platform's. -/
def TenantConfigGateway.resolve (gateway : TenantConfigGateway) (params : PyDict) :
    Except PyErr ResolvedConfig := do
  let platform_weights := gateway.defaults.score_weights
  let overrides ← gateway.overrides params
  let (merged, trace) ← resolve_weights platform_weights overrides
  match assert_weight_contract merged with
  | .ok _ => return ⟨merged, trace, "ok", .none, .none, config_scope params⟩
  | .error exc =>
    if exc.kind = "WeightContractViolation" then
      let platform_only_trace ←
        (sorted_names (platform_weights.map (·.1))).mapM fun key => do
          return ⟨key, ← key_of platform_weights key, .platform⟩
      return ⟨platform_weights, platform_only_trace, "fallback_to_platform", .str exc.text,
        .dict merged, config_scope params⟩
    else throw exc

def TenantConfigGateway.execute (gateway : TenantConfigGateway) (request : GatewayRequest) :
    Except PyErr GatewayResponse := do
  let resolved ← gateway.resolve request.params
  return ⟨"tenant_config", request.operation, .SUCCESS, resolved.data, none⟩

/-! ## The contract of the weights -/

/-- A real number between zero and one. -/
def UnitNumber (v : PyVal) : Prop :=
  match v.number? with
  | some (.inl n) => 0 ≤ n ∧ n ≤ 1
  | some (.inr (.fin q)) => 0 ≤ q ∧ q ≤ 1
  | _ => False

instance : DecidablePred UnitNumber := fun v =>
  match h : v.number? with
  | some (.inl n) => decidable_of_iff (0 ≤ n ∧ n ≤ 1) (by simp [UnitNumber, h])
  | some (.inr (.fin q)) => decidable_of_iff (0 ≤ q ∧ q ≤ 1) (by simp [UnitNumber, h])
  | some (.inr (.inf _)) => isFalse (by simp [UnitNumber, h])
  | some (.inr .nan) => isFalse (by simp [UnitNumber, h])
  | none => isFalse (by simp [UnitNumber, h])

/-- `float(v)` of a number. -/
def float_of (v : PyVal) : PyFloat := v.toFloat.toOption.getD .nan

def weight_total (weights : PyDict) : PyFloat := PyFloat.sum (weights.map fun p => float_of p.2)

/-- The contract as it is documented: the keys of the platform, real numbers
between zero and one, and a sum that is near one. -/
structure SatisfiesContract (weights : PyDict) : Prop where
  keys : ∀ key, key ∈ weights.map (·.1) ↔ key ∈ EXPECTED_SIGNAL_KEYS
  unit : ∀ p ∈ weights, UnitNumber p.2
  sum : ((weight_total weights).sub (.fin 1)).abs.le WEIGHT_SUM_TOLERANCE = true

/-- What the check lets through. -/
structure PassesCheck (weights : PyDict) : Prop where
  keys : ∀ key, key ∈ weights.map (·.1) ↔ key ∈ EXPECTED_SIGNAL_KEYS
  unit : ∀ p ∈ weights, UnitNumber p.2 ∨ p.2 = .float .nan
  sum : WEIGHT_SUM_TOLERANCE.lt ((weight_total weights).sub (.fin 1)).abs = false

theorem float_of_float (x : PyFloat) : float_of (.float x) = x := rfl

theorem toFloat_of_number {v : PyVal} {n : ℤ ⊕ PyFloat} {x : PyFloat} (h : v.number? = some n)
    (hx : floatOfNumber n = .ok x) : float_of v = x := by
  have hnumber : v.numberAsFloat? = .ok (some x) := by
    unfold PyVal.numberAsFloat?
    rw [h]
    cases n with
    | inl n =>
      unfold floatOfNumber at hx
      dsimp only at hx ⊢
      cases hfloat : PyFloat.ofInt? n with
      | none =>
        rw [hfloat] at hx
        cases hx
      | some y =>
        rw [hfloat] at hx
        cases hx
        rfl
    | inr y =>
      cases hx
      rfl
  have hfloat : v.toFloat = .ok x := by
    unfold PyVal.toFloat
    split
    · cases h
    · rw [hnumber]
  rw [float_of, hfloat]
  rfl

theorem unitNumber_float {v : PyVal} (h : UnitNumber v) :
    ∃ q : ℚ, float_of v = .fin q ∧ 0 ≤ q ∧ q ≤ 1 := by
  unfold UnitNumber at h
  split at h
  · rename_i n hn
    refine ⟨n, toFloat_of_number hn (float_of_unit_int h.1 h.2), ?_, ?_⟩
    · exact_mod_cast h.1
    · exact_mod_cast h.2
  · rename_i q hq
    exact ⟨q, toFloat_of_number hq rfl, h⟩
  · exact h.elim

theorem assert_weight_iff (key : String) (v : PyVal) :
    if UnitNumber v ∨ v = .float .nan then assert_weight key v = .ok (float_of v)
    else ∃ text, assert_weight key v = .error ⟨"WeightContractViolation", text⟩ := by
  unfold assert_weight
  cases hnumber : v.number? with
  | none =>
    rw [if_neg]
    · exact ⟨_, rfl⟩
    · rintro (h | rfl)
      · simp [UnitNumber, hnumber] at h
      · simp [PyVal.number?] at hnumber
  | some n =>
    cases n with
    | inl n =>
      have hnan : v ≠ .float .nan := by
        rintro rfl
        simp [PyVal.number?] at hnumber
      by_cases hunit : UnitNumber v
      · rw [if_pos (Or.inl hunit)]
        have hbounds : 0 ≤ n ∧ n ≤ 1 := by simpa [UnitNumber, hnumber] using hunit
        have hin : ltNumber (.inl n) (.inr (.fin 0)) = false ∧
            ltNumber (.inr (.fin 1)) (.inl n) = false := by
          simp only [ltNumber, decide_eq_false_iff_not, not_lt]
          exact ⟨by exact_mod_cast hbounds.1, by exact_mod_cast hbounds.2⟩
        have hfloat := float_of_unit_int hbounds.1 hbounds.2
        simp only [hin.1, hin.2, Bool.or_self, Bool.false_eq_true, if_false]
        rw [toFloat_of_number hnumber hfloat, hfloat]
      · rw [if_neg (by simp [hunit, hnan])]
        have hout : (ltNumber (.inl n) (.inr (.fin 0)) || ltNumber (.inr (.fin 1)) (.inl n)) =
            true := by
          simp only [UnitNumber, hnumber, not_and_or, not_le] at hunit
          simp only [ltNumber, Bool.or_eq_true, decide_eq_true_eq]
          rcases hunit with hlow | hhigh
          · exact Or.inl (by exact_mod_cast hlow)
          · exact Or.inr (by exact_mod_cast hhigh)
        simp only [hout, if_true]
        exact ⟨_, rfl⟩
    | inr x =>
      obtain rfl : v = .float x := by
        cases v <;> simp_all [PyVal.number?]
      cases x with
      | nan =>
        rw [if_pos (Or.inr rfl)]
        rfl
      | inf s =>
        rw [if_neg (by simp [UnitNumber, PyVal.number?])]
        cases s <;> exact ⟨_, rfl⟩
      | fin q =>
        by_cases hunit : 0 ≤ q ∧ q ≤ 1
        · have hvalue : UnitNumber (.float (.fin q)) := hunit
          rw [if_pos (Or.inl hvalue)]
          simp only [ltNumber, PyFloat.lt, not_lt.mpr hunit.1, not_lt.mpr hunit.2, decide_false,
            Bool.or_self, Bool.false_eq_true, if_false]
          rfl
        · rw [if_neg (by simpa [UnitNumber, PyVal.number?] using hunit)]
          have hout : (ltNumber (.inr (.fin q)) (.inr (.fin 0)) ||
              ltNumber (.inr (.fin 1)) (.inr (.fin q))) = true := by
            simp only [not_and_or, not_le] at hunit
            simpa [ltNumber, PyFloat.lt] using hunit
          simp only [hout, if_true]
          exact ⟨_, rfl⟩

variable {weights : PyDict}

theorem checks_weights (h : ∀ p ∈ weights, UnitNumber p.2 ∨ p.2 = .float .nan) :
    weights.mapM (fun p => do return (p.1, ← assert_weight p.1 p.2)) =
      .ok (weights.map fun p => (p.1, float_of p.2)) := by
  refine mapM_ok_iff.mpr ?_
  rw [List.forall₂_map_right_iff, List.forall₂_same]
  intro p hp
  have hweight := assert_weight_iff p.1 p.2
  rw [if_pos (h p hp)] at hweight
  rw [ok_bind hweight]
  rfl

theorem checks_violation (weights : PyDict) (exc : PyErr)
    (h : weights.mapM (fun p => do return (p.1, ← assert_weight p.1 p.2)) = .error exc) :
    exc.kind = "WeightContractViolation" := by
  refine mapM_error (Q := fun exc => exc.kind = "WeightContractViolation") (fun p _ exc h => ?_)
    exc h
  have hweight := assert_weight_iff p.1 p.2
  split at hweight
  · rw [ok_bind hweight] at h
    cases h
  · obtain ⟨text, htext⟩ := hweight
    rw [error_bind htext] at h
    cases h
    rfl

theorem weight_of_check {checked : List (String × PyFloat)}
    (h : weights.mapM (fun p => do return (p.1, ← assert_weight p.1 p.2)) = .ok checked) :
    ∀ p ∈ weights, UnitNumber p.2 ∨ p.2 = .float .nan := by
  intro p hp
  obtain ⟨w, hw⟩ := returned_of_mapM h p hp
  by_contra hbad
  have hweight := assert_weight_iff p.1 p.2
  rw [if_neg hbad] at hweight
  obtain ⟨text, htext⟩ := hweight
  rw [error_bind htext] at hw
  cases hw

/-- A weight map passes the check, or a violation is raised. -/
theorem contract_cases (weights : PyDict) :
    (PassesCheck weights ∧ ∃ checked, assert_weight_contract weights = .ok checked) ∨
      ¬ PassesCheck weights ∧
        ∃ text, assert_weight_contract weights = .error ⟨"WeightContractViolation", text⟩ := by
  have hexpected : WEIGHTS.map (·.1) = EXPECTED_SIGNAL_KEYS := by decide
  have htotal : ∀ weights : PyDict, PyFloat.sum ((weights.map fun p => (p.1, float_of p.2)).map
      (·.2)) = weight_total weights := by
    intro weights
    rw [List.map_map]
    rfl
  unfold assert_weight_contract
  dsimp only
  rw [hexpected]
  split
  · rename_i hbad
    refine Or.inr ⟨fun h => ?_, _, rfl⟩
    simp only [Bool.or_eq_true, Bool.not_eq_true', List.isEmpty_eq_false_iff, ne_eq,
      List.filter_eq_nil_iff] at hbad
    rcases hbad with hmissing | hextra
    · exact hmissing fun key hkey => by simpa using (h.keys key).mpr hkey
    · exact hextra fun key hkey => by simpa using (h.keys key).mp hkey
  · rename_i hkeys
    have hkeys : ∀ key, key ∈ weights.map (·.1) ↔ key ∈ EXPECTED_SIGNAL_KEYS :=
      same_keys (by simpa only [Bool.or_eq_true, Bool.not_eq_true', List.isEmpty_eq_false_iff,
        not_or, not_not, ne_eq] using hkeys)
    cases hchecked : weights.mapM (fun p => do return (p.1, ← assert_weight p.1 p.2)) with
    | error exc =>
      obtain ⟨kind, text⟩ := exc
      obtain rfl : kind = "WeightContractViolation" := checks_violation weights _ hchecked
      refine Or.inr ⟨fun h => ?_, text, error_bind rfl _⟩
      rw [checks_weights h.unit] at hchecked
      cases hchecked
    | ok checked =>
      have hunit := weight_of_check hchecked
      rw [checks_weights hunit] at hchecked
      cases hchecked
      rw [ok_bind rfl, htotal]
      split
      · rename_i hsum
        refine Or.inr ⟨fun h => ?_, _, rfl⟩
        rw [h.sum] at hsum
        cases hsum
      · rename_i hsum
        exact Or.inl ⟨⟨hkeys, hunit, by simpa using hsum⟩, _, rfl⟩

/-! ## Where the check and the contract differ -/

/-- A NaN among weights that pass otherwise. -/
structure HidesNan (weights : PyDict) : Prop where
  keys : ∀ key, key ∈ weights.map (·.1) ↔ key ∈ EXPECTED_SIGNAL_KEYS
  unit : ∀ p ∈ weights, UnitNumber p.2 ∨ p.2 = .float .nan
  nan : ∃ p ∈ weights, p.2 = .float .nan

theorem few_keys (honce : Once weights)
    (hkeys : ∀ key, key ∈ weights.map (·.1) ↔ key ∈ EXPECTED_SIGNAL_KEYS) :
    weights.length ≤ 1000 := by
  have hsub : (weights.map (·.1)).Subperm EXPECTED_SIGNAL_KEYS :=
    honce.subperm fun key hkey => (hkeys key).mp hkey
  have hfew := hsub.length_le
  rw [List.length_map] at hfew
  exact hfew.trans (by decide)

theorem weight_total_nan (h : ∃ p ∈ weights, p.2 = .float .nan) : weight_total weights = .nan := by
  obtain ⟨p, hp, hnan⟩ := h
  refine PyFloat.sum_nan (List.mem_map.mpr ⟨p, hp, ?_⟩)
  rw [hnan, float_of_float]

/-- The distance of the total from one is a number. -/
theorem total_distance (hlength : weights.length ≤ 1000) (hunit : ∀ p ∈ weights, UnitNumber p.2) :
    ∃ d, ((weight_total weights).sub (.fin 1)).abs = .fin d := by
  have hexact : ∃ exact : List ℚ, weights.map (fun p => float_of p.2) = exact.map PyFloat.fin ∧
      ∀ q ∈ exact, 0 ≤ q ∧ q ≤ 1 := by
    clear hlength
    induction weights with
    | nil => exact ⟨[], rfl, by simp⟩
    | cons p weights ih =>
      obtain ⟨exact, hmap, hbounds⟩ := ih fun q hq => hunit q (by simp [hq])
      obtain ⟨q, hq, hlow, hhigh⟩ := unitNumber_float (hunit p (by simp))
      refine ⟨q :: exact, by rw [List.map_cons, hmap, hq, List.map_cons], ?_⟩
      intro r hr
      rcases List.mem_cons.mp hr with rfl | hr
      · exact ⟨hlow, hhigh⟩
      · exact hbounds r hr
  obtain ⟨exact, hmap, hbounds⟩ := hexact
  have hcount : exact.length ≤ 1000 := by
    have hsame := congrArg List.length hmap
    simp only [List.length_map] at hsame
    omega
  obtain ⟨v, hv, hnear⟩ := PyFloat.sum_near hcount hbounds
  have hsum : 0 ≤ exact.sum ∧ exact.sum ≤ 1000 := by
    refine ⟨List.sum_nonneg fun q hq => (hbounds q hq).1, ?_⟩
    have hmost := List.sum_le_card_nsmul exact 1 fun q hq => (hbounds q hq).2
    have hcount : (exact.length : ℚ) ≤ 1000 := by exact_mod_cast hcount
    simp only [nsmul_eq_mul, mul_one] at hmost
    linarith
  have herror : (5 * exact.length + 1) * PyFloat.sumError ≤ 1 := by
    have hcount : (exact.length : ℚ) ≤ 1000 := by exact_mod_cast hcount
    have hsmall := PyFloat.sumError_le
    have hpos := PyFloat.sumError_pos
    nlinarith
  have hmoderate : |v + -1| ≤ 8192 := by
    rw [abs_le] at hnear ⊢
    constructor <;> linarith [hnear.1, hnear.2, hsum.1, hsum.2]
  obtain ⟨d, hd, -⟩ := PyFloat.add_near hmoderate
  refine ⟨|d|, ?_⟩
  have htotal : weight_total weights = .fin v := by
    rw [weight_total, hmap, hv]
  have hsub : (PyFloat.fin v).sub (.fin 1) = .fin d := hd
  rw [htotal, hsub]
  rfl

/-- The check lets a map through that keeps the contract, and one that hides a
NaN. -/
theorem passesCheck_iff (honce : Once weights) :
    PassesCheck weights ↔ SatisfiesContract weights ∨ HidesNan weights := by
  have htolerance : WEIGHT_SUM_TOLERANCE = .fin (PyFloat.nearest (1 / 10000)) :=
    PyFloat.ofRat_of_unit (by norm_num) (by norm_num)
  have hdistance : ∀ {d : ℚ}, WEIGHT_SUM_TOLERANCE.lt (.fin d) = false ↔
      (PyFloat.fin d).le WEIGHT_SUM_TOLERANCE = true := by
    intro d
    rw [htolerance, PyFloat.le_fin]
    simp [PyFloat.lt]
  constructor
  · intro h
    by_cases hnan : ∃ p ∈ weights, p.2 = .float .nan
    · exact Or.inr ⟨h.keys, h.unit, hnan⟩
    · have hunit : ∀ p ∈ weights, UnitNumber p.2 := fun p hp =>
        (h.unit p hp).resolve_right fun hbad => hnan ⟨p, hp, hbad⟩
      obtain ⟨d, hd⟩ := total_distance (few_keys honce h.keys) hunit
      have hsum := h.sum
      refine Or.inl ⟨h.keys, hunit, ?_⟩
      rw [hd] at hsum ⊢
      exact hdistance.mp hsum
  · rintro (h | h)
    · obtain ⟨d, hd⟩ := total_distance (few_keys honce h.keys) h.unit
      have hsum := h.sum
      refine ⟨h.keys, fun p hp => Or.inl (h.unit p hp), ?_⟩
      rw [hd] at hsum ⊢
      exact hdistance.mpr hsum
    · refine ⟨h.keys, h.unit, ?_⟩
      rw [weight_total_nan h.nan, htolerance]
      rfl

/-! ## What a resolution reads -/

/-- Each weight is the one of the deepest layer that defines its signal, and
the trace names that layer, once for each signal. -/
structure ReadsDeepest (ls : List (LayerName × PyDict)) (weights : PyDict) (trace : List Contribution) :
    Prop where
  weights : ∀ key, dict.get weights key = (deepest ls key).map (·.2)
  once : (trace.map (·.signal)).Nodup
  trace : ∀ row, row ∈ trace ↔ deepest ls row.signal = some (row.source_layer, row.value)

theorem trace_of (ls : List (LayerName × PyDict)) {keys : List String}
    (row_of : String → Except PyErr Contribution) (hkeys : keys.Nodup)
    (hmem : ∀ key, key ∈ keys ↔ ∃ p, deepest ls key = some p)
    (hrow : ∀ key name v, deepest ls key = some (name, v) → row_of key = .ok ⟨key, v, name⟩) :
    ∃ rows, keys.mapM row_of = .ok rows ∧ (rows.map (·.signal)).Nodup ∧
      ∀ row, row ∈ rows ↔ deepest ls row.signal = some (row.source_layer, row.value) := by
  let row_at : String → Contribution := fun key =>
    match deepest ls key with
    | some (name, v) => ⟨key, v, name⟩
    | none => ⟨key, .none, .platform⟩
  have hat : ∀ {key name v}, deepest ls key = some (name, v) → row_at key = ⟨key, v, name⟩ := by
    intro key name v h
    simp only [row_at, h]
  have hsignal : ∀ key, (row_at key).signal = key := by
    intro key
    simp only [row_at]
    split <;> rfl
  refine ⟨keys.map row_at, ?_, ?_, ?_⟩
  · refine mapM_ok_iff.mpr ?_
    rw [List.forall₂_map_right_iff, List.forall₂_same]
    intro key hkey
    obtain ⟨⟨name, v⟩, hdeep⟩ := (hmem key).mp hkey
    rw [hat hdeep]
    exact hrow key name v hdeep
  · rw [List.map_map]
    have hid : (fun row : Contribution => row.signal) ∘ row_at = id := funext hsignal
    rwa [hid, List.map_id]
  · intro row
    rw [List.mem_map]
    constructor
    · rintro ⟨key, hkey, rfl⟩
      obtain ⟨⟨name, v⟩, hdeep⟩ := (hmem key).mp hkey
      rw [hat hdeep]
      exact hdeep
    · intro hdeep
      exact ⟨row.signal, (hmem row.signal).mpr ⟨_, hdeep⟩, hat hdeep⟩

theorem sorted_keys (h : Once weights) : (sorted_names (weights.map (·.1))).Nodup ∧
      ∀ key, key ∈ sorted_names (weights.map (·.1)) ↔ ∃ v, dict.get weights key = some v := by
  refine ⟨((List.perm_insertionSort _ _).nodup_iff).mpr h, fun key => ?_⟩
  rw [sorted_names, List.mem_insertionSort, List.mem_map]
  constructor
  · rintro ⟨p, hp, rfl⟩
    exact ⟨p.2, h.get_of_mem hp⟩
  · rintro ⟨v, hv⟩
    exact ⟨(key, v), dict.mem_of_get hv, rfl⟩

theorem key_of_some {α : Type} {d : List (String × α)} {key : String} {v : α}
    (h : dict.get d key = some v) : key_of d key = .ok v := by
  rw [key_of, h]

theorem once_stack {platform_weights : PyDict} {overrides : LayeredOverrides}
    (hplatform : Once platform_weights) (hdicts : overrides.Dicts) :
    ∀ l ∈ layer_stack platform_weights overrides, Once l.2 := by
  obtain ⟨htenant, htier, hcustomer, hchannel⟩ := hdicts
  simp [layer_stack, *]

/-- The merged map and its trace read from the deepest layer. -/
theorem resolve_weights_reads {platform_weights : PyDict} {overrides : LayeredOverrides}
    (hplatform : Once platform_weights) (hdicts : overrides.Dicts) :
    ∃ trace, resolve_weights platform_weights overrides =
        .ok ((overlay (layer_stack platform_weights overrides)).merged, trace) ∧
      ReadsDeepest (layer_stack platform_weights overrides)
        (overlay (layer_stack platform_weights overrides)).merged trace := by
  have honce := once_stack hplatform hdicts
  have hget := get_overlay honce
  obtain ⟨hnodup, hmem⟩ := sorted_keys (once_overlay (layer_stack platform_weights overrides))
  obtain ⟨trace, htrace, hsignals, hrows⟩ := trace_of (layer_stack platform_weights overrides)
    (fun key => do
      return ⟨key, ← key_of (overlay (layer_stack platform_weights overrides)).merged key,
        ← key_of (overlay (layer_stack platform_weights overrides)).source key⟩) hnodup
    (fun key => by
      rw [hmem, (hget key).1]
      cases deepest (layer_stack platform_weights overrides) key <;> simp)
    (fun key name v hdeep => by
      have hvalue := (hget key).1
      have hsource := (hget key).2
      rw [hdeep] at hvalue hsource
      rw [ok_bind (key_of_some hvalue), ok_bind (key_of_some hsource)]
      rfl)
  exact ⟨trace, by rw [resolve_weights, ok_bind htrace]; rfl,
    ⟨fun key => (hget key).1, hsignals, hrows⟩⟩

/-- The platform alone reads as its one layer. -/
theorem platform_reads {platform_weights : PyDict} (hplatform : Once platform_weights) :
    ∃ trace, (sorted_names (platform_weights.map (·.1))).mapM (fun key => do
        return (⟨key, ← key_of platform_weights key, .platform⟩ : Contribution)) = .ok trace ∧
      ReadsDeepest [(.platform, platform_weights)] platform_weights trace := by
  have hdeep : ∀ key, deepest [(LayerName.platform, platform_weights)] key =
      (dict.get platform_weights key).map fun v => (.platform, v) := fun _ => rfl
  obtain ⟨hnodup, hmem⟩ := sorted_keys hplatform
  obtain ⟨trace, htrace, hsignals, hrows⟩ := trace_of [(.platform, platform_weights)]
    (fun key => do
      return ⟨key, ← key_of platform_weights key, .platform⟩) hnodup
    (fun key => by
      rw [hmem, hdeep]
      simp [Option.map_eq_some_iff])
    (fun key name v hkey => by
      rw [hdeep, Option.map_eq_some_iff] at hkey
      obtain ⟨w, hw, heq⟩ := hkey
      cases heq
      rw [ok_bind (key_of_some hw)]
      rfl)
  refine ⟨trace, htrace, ⟨fun key => ?_, hsignals, hrows⟩⟩
  rw [hdeep]
  cases dict.get platform_weights key <;> rfl

/-! ## The overrides of a request -/

/-- The weights that the tag of a behaviour stands for. -/
def TenantConfigGateway.behavior_map (gateway : TenantConfigGateway) : PyVal → PyDict
  | .str "" => []
  | .str tag =>
    match dict.get gateway.defaults.customer_behavior_overrides tag with
    | some entry => entry.score_weights_override
    | none => []
  | _ => []

/-- A behaviour stands in for the customer when there is no row. -/
def TenantConfigGateway.UsesBehavior (gateway : TenantConfigGateway) (params : PyDict) : Prop :=
  ∀ layers, gateway.db_layers params = some layers → layers.customer = []

/-- A behaviour that is used can be looked up, and its weights convert. -/
def TenantConfigGateway.BehaviorReadable (gateway : TenantConfigGateway) (params : PyDict) :
    Prop :=
  gateway.UsesBehavior params →
    ((param params "behavior_tag").truthy = true →
      ∃ v, PyVal.hashed (param params "behavior_tag") = .ok v) ∧
    ∀ p ∈ gateway.behavior_map (param params "behavior_tag"), ∃ x, p.2.toFloat = .ok x

/-- The overrides that a request is about. -/
def TenantConfigGateway.given (gateway : TenantConfigGateway) (params : PyDict) :
    LayeredOverrides :=
  let behavior := (gateway.behavior_map (param params "behavior_tag")).map
    fun p => (p.1, .float (float_of p.2))
  match gateway.db_layers params with
  | some layers =>
    if layers.customer.isEmpty then { layers with customer := behavior } else layers
  | none => { customer := behavior }

theorem float_of_ok {v : PyVal} {x : PyFloat} (h : v.toFloat = .ok x) : float_of v = x := by
  rw [float_of, h]
  rfl

theorem behavior_map_falsy (gateway : TenantConfigGateway) {tag : PyVal}
    (h : tag.truthy = false) : gateway.behavior_map tag = [] := by
  unfold TenantConfigGateway.behavior_map
  split
  · rfl
  · rename_i s hs
    simp only [PyVal.truthy, bne_eq_false_iff_eq] at h
    exact (hs h).elim
  · rfl

/-- A tag is looked up when it is there, and its weights are converted. -/
theorem customer_overrides_eq (gateway : TenantConfigGateway) {tag : PyVal}
    (h : tag.truthy = true) :
    gateway.customer_overrides_from_behavior tag = (do
      let _ ← PyVal.hashed tag
      (gateway.behavior_map tag).mapM fun p => do return (p.1, .float (← p.2.toFloat))) := by
  unfold TenantConfigGateway.customer_overrides_from_behavior PyVal.lookupIn
  rw [h]
  cases tag with
  | str s =>
    have hs : s ≠ "" := by
      rintro rfl
      cases h
    have hmap : gateway.behavior_map (.str s) =
        match dict.get gateway.defaults.customer_behavior_overrides s with
        | some entry => entry.score_weights_override
        | none => [] := by
      unfold TenantConfigGateway.behavior_map
      split
      · rename_i heq
        cases heq
        exact absurd rfl hs
      · rename_i heq
        cases heq
        rfl
      · rename_i heq
        exact absurd rfl (heq s)
    rw [hmap]
    cases hget : dict.get gateway.defaults.customer_behavior_overrides s with
    | none => simp [PyVal.hashed, hget, bind, Except.bind, pure, Except.pure]
    | some entry => simp [PyVal.hashed, hget, bind, Except.bind, pure, Except.pure]
  | none => rfl
  | bool b => rfl
  | int n => rfl
  | float x => rfl
  | list vs => rfl
  | dict d => rfl

theorem customer_overrides_readable (gateway : TenantConfigGateway) {tag : PyVal}
    {customer : PyDict} (h : gateway.customer_overrides_from_behavior tag = .ok customer) :
    (tag.truthy = true → ∃ v, PyVal.hashed tag = .ok v) ∧
      ∀ p ∈ gateway.behavior_map tag, ∃ x, p.2.toFloat = .ok x := by
  cases htruthy : tag.truthy with
  | false =>
    rw [behavior_map_falsy gateway htruthy]
    exact ⟨fun hbad => (Bool.false_ne_true hbad).elim, fun p hp => absurd hp List.not_mem_nil⟩
  | true =>
    rw [customer_overrides_eq gateway htruthy] at h
    cases hhash : PyVal.hashed tag with
    | error exc =>
      rw [error_bind hhash] at h
      cases h
    | ok v =>
      rw [ok_bind hhash] at h
      refine ⟨fun _ => ⟨v, rfl⟩, fun p hp => ?_⟩
      obtain ⟨y, hy⟩ := returned_of_mapM h p hp
      cases hx : p.2.toFloat with
      | error exc =>
        rw [error_bind hx] at hy
        cases hy
      | ok x => exact ⟨x, rfl⟩

theorem customer_overrides_given (gateway : TenantConfigGateway) {tag : PyVal}
    (hhash : tag.truthy = true → ∃ v, PyVal.hashed tag = .ok v)
    (hfloat : ∀ p ∈ gateway.behavior_map tag, ∃ x, p.2.toFloat = .ok x) :
    gateway.customer_overrides_from_behavior tag =
      .ok ((gateway.behavior_map tag).map fun p => (p.1, .float (float_of p.2))) := by
  cases htruthy : tag.truthy with
  | false =>
    rw [behavior_map_falsy gateway htruthy]
    unfold TenantConfigGateway.customer_overrides_from_behavior
    rw [htruthy]
    rfl
  | true =>
    obtain ⟨v, hv⟩ := hhash htruthy
    rw [customer_overrides_eq gateway htruthy, ok_bind hv]
    refine mapM_ok_iff.mpr ?_
    rw [List.forall₂_map_right_iff, List.forall₂_same]
    intro p hp
    obtain ⟨x, hx⟩ := hfloat p hp
    rw [ok_bind hx, float_of_ok hx]
    rfl

theorem once_behavior (gateway : TenantConfigGateway) (tag : PyVal) :
    Once ((gateway.behavior_map tag).map fun p => (p.1, PyVal.float (float_of p.2))) := by
  have honce : Once (gateway.behavior_map tag) := by
    unfold TenantConfigGateway.behavior_map
    split
    · exact List.nodup_nil
    · split
      · rename_i entry _
        exact entry.once
      · exact List.nodup_nil
    · exact List.nodup_nil
  unfold Once at *
  rwa [List.map_map]

variable {gateway : TenantConfigGateway}

theorem db_layers_dicts {params : PyDict}
    {layers : LayeredOverrides} (h : gateway.db_layers params = some layers) : layers.Dicts := by
  unfold TenantConfigGateway.db_layers at h
  split at h
  · split at h
    · cases h
      exact LayerRepository.dicts _ _ _ _ _
    · cases h
  · cases h

theorem given_dicts (gateway : TenantConfigGateway) (params : PyDict) :
    (gateway.given params).Dicts := by
  have hbehavior := once_behavior gateway (param params "behavior_tag")
  unfold TenantConfigGateway.given
  dsimp only
  split
  · rename_i layers hlayers
    have hdicts := db_layers_dicts hlayers
    split
    · exact ⟨hdicts.1, hdicts.2.1, hbehavior, hdicts.2.2.2⟩
    · exact hdicts
  · exact ⟨List.nodup_nil, List.nodup_nil, hbehavior, List.nodup_nil⟩

theorem overrides_of_readable {gateway : TenantConfigGateway} {params : PyDict}
    (h : gateway.BehaviorReadable params) :
    gateway.overrides params = .ok (gateway.given params) := by
  unfold TenantConfigGateway.overrides TenantConfigGateway.given
  dsimp only
  cases hlayers : gateway.db_layers params with
  | none =>
    obtain ⟨hhash, hfloat⟩ := h fun layers hsome => by simp [hlayers] at hsome
    rw [ok_bind (customer_overrides_given gateway hhash hfloat)]
    rfl
  | some layers =>
    cases hempty : layers.customer.isEmpty with
    | false => simp [hempty, pure, Except.pure]
    | true =>
      obtain ⟨hhash, hfloat⟩ := h fun layers' hsome => by
        rw [hlayers] at hsome
        cases hsome
        exact List.isEmpty_iff.mp hempty
      simp only [hempty, if_true]
      rw [ok_bind (customer_overrides_given gateway hhash hfloat)]
      rfl

theorem readable_of_overrides {gateway : TenantConfigGateway} {params : PyDict}
    {overrides : LayeredOverrides} (h : gateway.overrides params = .ok overrides) :
    gateway.BehaviorReadable params := by
  intro huses
  unfold TenantConfigGateway.overrides at h
  cases hcustomer : gateway.customer_overrides_from_behavior (param params "behavior_tag") with
  | ok customer => exact customer_overrides_readable gateway hcustomer
  | error exc =>
    cases hlayers : gateway.db_layers params with
    | none =>
      rw [hlayers] at h
      dsimp only at h
      rw [error_bind hcustomer] at h
      cases h
    | some layers =>
      have hempty : layers.customer = [] := huses layers hlayers
      rw [hlayers] at h
      dsimp only at h
      rw [hempty, List.isEmpty_nil, if_pos rfl, error_bind hcustomer] at h
      cases h

/-! ## The gateway keeps the contract -/

/-- A NaN is the deepest value of a signal, and no other value breaks the
contract. -/
structure NanReaches (ls : List (LayerName × PyDict)) : Prop where
  known : ∀ key p, deepest ls key = some p → key ∈ EXPECTED_SIGNAL_KEYS
  unit : ∀ key name v, deepest ls key = some (name, v) → UnitNumber v ∨ v = .float .nan
  nan : ∃ key name, deepest ls key = some (name, .float .nan)

/-- The layers that a request is resolved from. -/
def TenantConfigGateway.stack (gateway : TenantConfigGateway) (params : PyDict) :
    List (LayerName × PyDict) :=
  layer_stack gateway.defaults.score_weights (gateway.given params)

/-- The response of the gateway keeps the contract: its weights satisfy it, and
they read from the deepest layers, or from the platform alone. -/
def HonoursContract (gateway : TenantConfigGateway) (request : GatewayRequest) : Prop :=
  ∃ response weights trace, gateway.execute request = .ok response ∧
    dict.get response.data "weights" = some (.dict weights) ∧
    dict.get response.data "contribution_trace" =
      some (.list (trace.map Contribution.entry)) ∧
    SatisfiesContract weights ∧
    (dict.get response.data "validation_status" = some (.str "ok") ∧
        ReadsDeepest (gateway.stack request.params) weights trace ∨
      dict.get response.data "validation_status" = some (.str "fallback_to_platform") ∧
        weights = gateway.defaults.score_weights ∧
        ReadsDeepest [(.platform, gateway.defaults.score_weights)] weights trace)

theorem once_of_stack (gateway : TenantConfigGateway) (params : PyDict) :
    ∀ l ∈ gateway.stack params, Once l.2 :=
  once_stack gateway.defaults.once (given_dicts gateway params)

theorem platform_reaches {gateway : TenantConfigGateway} (params : PyDict) {key : String}
    (hplatform : SatisfiesContract gateway.defaults.score_weights)
    (h : key ∈ EXPECTED_SIGNAL_KEYS) : ∃ p, deepest (gateway.stack params) key = some p := by
  obtain ⟨v, hv⟩ := ((sorted_keys gateway.defaults.once).2 key).mp
    ((List.mem_insertionSort _).mpr ((hplatform.keys key).mpr h))
  unfold TenantConfigGateway.stack layer_stack
  rw [deepest, hv]
  cases deepest _ key with
  | none => exact ⟨_, rfl⟩
  | some p => exact ⟨p, rfl⟩

theorem hidesNan_iff (params : PyDict)
    (hplatform : SatisfiesContract gateway.defaults.score_weights) :
    HidesNan (overlay (gateway.stack params)).merged ↔ NanReaches (gateway.stack params) := by
  have hmem : ∀ {key v}, (key, v) ∈ (overlay (gateway.stack params)).merged ↔
      ∃ name, deepest (gateway.stack params) key = some (name, v) :=
    mem_overlay (once_of_stack gateway params)
  constructor
  · intro h
    refine ⟨?_, ?_, ?_⟩
    · rintro key ⟨name, v⟩ hdeep
      exact (h.keys key).mp (List.mem_map_of_mem (hmem.mpr ⟨name, hdeep⟩))
    · intro key name v hdeep
      exact h.unit (key, v) (hmem.mpr ⟨name, hdeep⟩)
    · obtain ⟨⟨key, v⟩, hp, rfl⟩ := h.nan
      obtain ⟨name, hdeep⟩ := hmem.mp hp
      exact ⟨key, name, hdeep⟩
  · intro h
    refine ⟨fun key => ⟨?_, ?_⟩, ?_, ?_⟩
    · intro hkey
      obtain ⟨⟨key, v⟩, hp, rfl⟩ := List.mem_map.mp hkey
      obtain ⟨name, hdeep⟩ := hmem.mp hp
      exact h.known key _ hdeep
    · intro hkey
      obtain ⟨⟨name, v⟩, hdeep⟩ := platform_reaches params hplatform hkey
      exact List.mem_map_of_mem (hmem.mpr ⟨name, hdeep⟩)
    · rintro ⟨key, v⟩ hp
      obtain ⟨name, hdeep⟩ := hmem.mp hp
      exact h.unit key name v hdeep
    · obtain ⟨key, name, hdeep⟩ := h.nan
      exact ⟨(key, .float .nan), hmem.mpr ⟨name, hdeep⟩, rfl⟩

/-- A merged map that passes the check is handed out, another one gives way to
the platform's. -/
theorem resolve_cases {params : PyDict} (hreadable : gateway.BehaviorReadable params) :
    let merged := (overlay (gateway.stack params)).merged
    (PassesCheck merged ∧ ∃ trace, ReadsDeepest (gateway.stack params) merged trace ∧
        gateway.resolve params =
          .ok ⟨merged, trace, "ok", .none, .none, config_scope params⟩) ∨
      ¬ PassesCheck merged ∧ ∃ trace text,
        ReadsDeepest [(.platform, gateway.defaults.score_weights)] gateway.defaults.score_weights trace ∧
        gateway.resolve params = .ok ⟨gateway.defaults.score_weights, trace,
          "fallback_to_platform", .str text, .dict merged, config_scope params⟩ := by
  intro merged
  obtain ⟨trace, hmerged, hreads⟩ :=
    resolve_weights_reads gateway.defaults.once (given_dicts gateway params)
  unfold TenantConfigGateway.resolve
  dsimp only
  rw [ok_bind (overrides_of_readable hreadable), ok_bind hmerged]
  dsimp only
  rcases contract_cases merged with ⟨hpasses, checked, hchecked⟩ | ⟨hfails, text, hviolation⟩
  · have hcontract : assert_weight_contract (overlay (layer_stack
        gateway.defaults.score_weights (gateway.given params))).merged = .ok checked := hchecked
    rw [hcontract]
    exact Or.inl ⟨hpasses, trace, hreads, rfl⟩
  · have hcontract : assert_weight_contract (overlay (layer_stack
        gateway.defaults.score_weights (gateway.given params))).merged =
        .error ⟨"WeightContractViolation", text⟩ := hviolation
    obtain ⟨platform_trace, htrace, hplatform⟩ := platform_reads gateway.defaults.once
    rw [hcontract]
    dsimp only
    rw [if_pos rfl, ok_bind htrace]
    exact Or.inr ⟨hfails, platform_trace, text, hplatform, rfl⟩

theorem nan_breaks_contract {request : GatewayRequest}
    (hreadable : gateway.BehaviorReadable request.params)
    (hhides : HidesNan (overlay (gateway.stack request.params)).merged) :
    ¬ HonoursContract gateway request := by
  rintro ⟨response, weights, trace, hexecute, hweights, -, hcontract, -⟩
  have hpasses := (passesCheck_iff (once_overlay (gateway.stack request.params))).mpr
    (Or.inr hhides)
  obtain ⟨-, merged_trace, -, hresolve⟩ | ⟨hfails, -⟩ := resolve_cases hreadable
  · rw [TenantConfigGateway.execute, ok_bind hresolve] at hexecute
    cases hexecute
    cases hweights
    obtain ⟨p, hp, hbad⟩ := hhides.nan
    have hunit := hcontract.unit p hp
    rw [hbad] at hunit
    exact hunit
  · exact hfails hpasses

/-- Over a platform that satisfies the contract, the gateway keeps it just when
the behaviour of the request can be read and no NaN reaches the merged map
past the check. -/
theorem resolved_weights_keep_contract_iff {gateway : TenantConfigGateway}
    {request : GatewayRequest} (hplatform : SatisfiesContract gateway.defaults.score_weights) :
    HonoursContract gateway request ↔
      gateway.BehaviorReadable request.params ∧ ¬ NanReaches (gateway.stack request.params) := by
  constructor
  · intro hkeeps
    have hreadable : gateway.BehaviorReadable request.params := by
      obtain ⟨response, -, -, hexecute, -⟩ := hkeeps
      cases hoverrides : gateway.overrides request.params with
      | ok overrides => exact readable_of_overrides hoverrides
      | error exc =>
        have hresolve : gateway.resolve request.params = .error exc := error_bind hoverrides _
        rw [TenantConfigGateway.execute, error_bind hresolve] at hexecute
        cases hexecute
    exact ⟨hreadable, fun hnan =>
      nan_breaks_contract hreadable ((hidesNan_iff request.params hplatform).mpr hnan) hkeeps⟩
  · rintro ⟨hreadable, hnan⟩
    obtain ⟨hpasses, trace, hreads, hresolve⟩ | ⟨-, trace, text, hreads, hresolve⟩ :=
      resolve_cases hreadable
    · have hcontract :=
        ((passesCheck_iff (once_overlay (gateway.stack request.params))).mp hpasses).resolve_right
          fun hhides => hnan ((hidesNan_iff request.params hplatform).mp hhides)
      exact ⟨_, _, trace, ok_bind hresolve _, rfl, rfl, hcontract, Or.inl ⟨rfl, hreads⟩⟩
    · exact ⟨_, _, trace, ok_bind hresolve _, rfl, rfl, hplatform, Or.inr ⟨rfl, rfl, hreads⟩⟩

def blanketOrder : BehaviorEntry where
  score_weights_override :=
    [("po_number", .float (.ofRat (1 / 10))), ("line_items", .float (.ofRat (35 / 100))),
      ("channel", .float (.ofRat (1 / 10)))]

def platformDefaults : DuplicateDefaults where
  score_weights := WEIGHTS
  once := by decide
  customer_behavior_overrides := [("blanket_po", blanketOrder)]

def blanketRequest : GatewayRequest :=
  ⟨"tenant_config", "resolve", [("behavior_tag", .str "blanket_po")], "trace-1"⟩

theorem platform_contract : SatisfiesContract WEIGHTS where
  keys key := by rw [show WEIGHTS.map (·.1) = EXPECTED_SIGNAL_KEYS by decide]
  unit := by decide +kernel
  sum := by decide +kernel

theorem blanket_order_keeps_contract : HonoursContract ⟨platformDefaults, none⟩ blanketRequest := by
  refine (resolved_weights_keep_contract_iff platform_contract).mpr ⟨fun _ => ⟨?_, ?_⟩, ?_⟩
  · exact fun _ => ⟨_, rfl⟩
  · intro p hp
    have hfloat : ∀ p ∈ blanketOrder.score_weights_override, p.2.toFloat.isOk = true := by
      decide +kernel
    have hok := hfloat p hp
    cases hx : p.2.toFloat with
    | ok x => exact ⟨x, rfl⟩
    | error exc =>
      rw [hx] at hok
      cases hok
  · rintro ⟨-, -, key, name, hdeep⟩
    have hnumbers : ∀ p ∈ (overlay (TenantConfigGateway.stack ⟨platformDefaults, none⟩
        blanketRequest.params)).merged, p.2 ≠ .float .nan := by decide +kernel
    exact hnumbers _ ((mem_overlay (once_of_stack _ _)).mpr ⟨name, hdeep⟩) rfl

/-- A tenant row with a weight that is no number. -/
def nanRows : LayerRepository where
  resolve_layered_overrides _ _ _ _ := { tenant := [("customer_id", .float .nan)] }
  dicts _ _ _ _ := by
    unfold LayeredOverrides.Dicts
    decide

def nanGateway : TenantConfigGateway := ⟨platformDefaults, some nanRows⟩

def nanRequest : GatewayRequest :=
  ⟨"tenant_config", "resolve", [("tenant_id", .str "TEN-1")], "trace-1"⟩

/-- A NaN in the row of a tenant is handed out as a weight. -/
theorem a_nan_row_breaks_contract :
    SatisfiesContract nanGateway.defaults.score_weights ∧
      ¬ HonoursContract nanGateway nanRequest := by
  refine ⟨platform_contract, nan_breaks_contract (fun _ => ⟨?_, ?_⟩) ⟨?_, ?_, ?_⟩⟩
  · exact fun _ => ⟨_, rfl⟩
  · exact fun p hp => absurd hp List.not_mem_nil
  · intro key
    rw [show (overlay (nanGateway.stack nanRequest.params)).merged.map (·.1) =
      EXPECTED_SIGNAL_KEYS by decide +kernel]
  · decide +kernel
  · decide +kernel

end asoe
