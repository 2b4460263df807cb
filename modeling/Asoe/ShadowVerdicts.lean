-- The second opinion of the LLM Shadow: the gate in front of it, the cache of
-- its verdicts that all tenants share, and the counters beside them. What the
-- cache serves is what the provider said of the same question, not long ago.
import Asoe.AuditChain
import Asoe.Lib.FloatRounding
import Asoe.Lib.Grouping

namespace asoe

open py runs grouping

/-! ## The question -/

structure ShadowLLMBundle where
  bundle_version : String
  concerns_vocabulary : List String
  invocation_financial_floor_usd : PyFloat := .fin 500
  cache_ttl_seconds : ℤ := 86400
  wall_clock_timeout_ms : ℤ := 2000
  model_id_alias : String := "shadow-llm-default"

structure ShadowLLMRequest where
  intent : String
  recipe_name : String
  recipe_params : PyDict
  proposed_action : String
  deterministic_status : String
  deterministic_reasons : List String
  deterministic_policy_hits : List String
  case_context_summary : Option String
  customer_profile : PyDict

/-- `ShadowLLMVerdict` with what is told about the call that made it. -/
structure ServedVerdict extends ShadowLLMVerdict where
  confidence : PyFloat
  bundle_version : String := ""
  model_id : String := ""
  request_id : Option String := none
  cache_hit : Bool := false
  latency_ms : ℤ := 0
  cost_usd_estimate : PyFloat := .fin 0
  deriving DecidableEq

/-- How a call of the provider fails: `TimeoutError`, `ValueError`, or any
other exception. -/
inductive ProviderFailure where
  | timeout | validation | unavailable
  deriving DecidableEq

/-- A reading of the clock: seconds since the epoch, as a float. -/
structure EpochReading where
  seconds : ℚ
  nonneg : 0 ≤ seconds
  exact : PyFloat.ofRat seconds = .fin seconds

/-- One call of `evaluate`, with the provider and the readings of the clock
that it meets. -/
structure Evaluation where
  tenant_id : String
  request : ShadowLLMRequest
  status : ShadowStatus
  financial_impact_usd : PyFloat := .fin 0
  bundle : ShadowLLMBundle
  /-- The id that the provider names itself by, if it does. -/
  provider_model_id : Option String
  provider : ShadowLLMRequest → ShadowLLMBundle → ℤ → Except ProviderFailure ServedVerdict
  get_now : EpochReading
  put_now : EpochReading
  elapsed_ms : ℤ

namespace Evaluation

/-- `getattr(self.provider, "model_id", self.bundle.model_id_alias)`. -/
def model_id (c : Evaluation) : String := c.provider_model_id.getD c.bundle.model_id_alias

/-- The dictionary that the key of the cache is made from. -/
def key_fields (c : Evaluation) : PyDict :=
  [("tenant", .str c.tenant_id), ("bundle", .str c.bundle.bundle_version),
    ("model", .str c.model_id), ("intent", .str c.request.intent),
    ("recipe", .str c.request.recipe_name), ("params", .dict c.request.recipe_params),
    ("action", .str c.request.proposed_action),
    ("det_status", .str c.request.deterministic_status),
    ("det_reasons", .list (c.request.deterministic_reasons.map .str)),
    ("det_hits", .list (c.request.deterministic_policy_hits.map .str)),
    ("case", .str (c.request.case_context_summary.getD "")),
    ("customer", .dict c.request.customer_profile)]

def key_text (c : Evaluation) : List Char := json.dumps true (.dict c.key_fields)

/-- `ShadowLLMCache.make_key`. -/
def make_key (c : Evaluation) : String := sha256.hexdigest c.key_text

/-- What the provider answers to this call. -/
def answer (c : Evaluation) : Except ProviderFailure ServedVerdict :=
  c.provider c.request c.bundle c.bundle.wall_clock_timeout_ms

end Evaluation

/-! ## The cache -/

/-- `_CacheEntry`. -/
structure VerdictEntry where
  verdict : ServedVerdict
  expires_at : PyFloat
  deriving DecidableEq

/-- `ShadowLLMCache.get`: an entry that has expired is dropped, and what is
served is stamped as a hit. -/
def cache_get (cache : List (String × VerdictEntry)) (key : String) (now : EpochReading) :
    Option ServedVerdict × List (String × VerdictEntry) :=
  match dict.get cache key with
  | none => (none, cache)
  | some entry =>
    if entry.expires_at.le (.fin now.seconds) then (none, dict.pop cache key)
    else
      (some { entry.verdict with
        cache_hit := true, latency_ms := 0, cost_usd_estimate := .fin 0 }, cache)

/-- The moment an entry that is stored now expires. -/
def expiry (now : EpochReading) (ttl_seconds : ℤ) : PyFloat :=
  (PyFloat.fin now.seconds).add (.fin ttl_seconds)

/-- `ShadowLLMCache.put`. -/
def cache_put (cache : List (String × VerdictEntry)) (key : String) (verdict : ServedVerdict)
    (ttl_seconds : ℤ) (now : EpochReading) : List (String × VerdictEntry) :=
  dict.set cache key
    { verdict := { verdict with cache_hit := false }, expires_at := expiry now ttl_seconds }

/-! ## The gate and the counters -/

inductive InvocationTrigger where
  | financial_impact | deterministic_yellow
  deriving DecidableEq

inductive SkipReason where
  | deterministic_red_short_circuit | below_invocation_floor | provider_timeout
  | provider_unavailable | provider_validation_error
  deriving DecidableEq

/-- `should_invoke`: what triggers the call, or why it is skipped. -/
def should_invoke (bundle : ShadowLLMBundle) (status : ShadowStatus)
    (financial_impact_usd : PyFloat) : Except SkipReason InvocationTrigger :=
  if status = .RED then .error .deterministic_red_short_circuit
  else if status = .YELLOW then .ok .deterministic_yellow
  else if bundle.invocation_financial_floor_usd.le financial_impact_usd then .ok .financial_impact
  else .error .below_invocation_floor

structure ShadowLLMMetrics where
  invocations_total : ℕ := 0
  invocations_by_trigger : List (InvocationTrigger × ℕ) := []
  cache_hits_total : ℕ := 0
  verdicts_by_action : List (String × ℕ) := []
  timeouts_total : ℕ := 0
  unavailable_total : ℕ := 0
  validation_errors_total : ℕ := 0
  latency_ms_sum : ℤ := 0
  latency_ms_count : ℕ := 0
  cost_usd_total : PyFloat := .fin 0
  skipped_red_total : ℕ := 0
  skipped_below_floor_total : ℕ := 0
  deriving DecidableEq

/-- `d[k] = d.get(k, 0) + 1`. -/
def tally {κ : Type} [DecidableEq κ] (d : List (κ × ℕ)) (k : κ) : List (κ × ℕ) :=
  dict.set d k ((dict.get d k).getD 0 + 1)

namespace ShadowLLMMetrics

def skipped (m : ShadowLLMMetrics) (reason : SkipReason) : ShadowLLMMetrics :=
  if reason = .deterministic_red_short_circuit then
    { m with skipped_red_total := m.skipped_red_total + 1 }
  else { m with skipped_below_floor_total := m.skipped_below_floor_total + 1 }

def failed (m : ShadowLLMMetrics) : ProviderFailure → ShadowLLMMetrics
  | .timeout => { m with timeouts_total := m.timeouts_total + 1 }
  | .validation => { m with validation_errors_total := m.validation_errors_total + 1 }
  | .unavailable => { m with unavailable_total := m.unavailable_total + 1 }

/-- The three counters of a verdict, from the cache or from the provider. -/
def invoked (m : ShadowLLMMetrics) (token : InvocationTrigger) (action : String) :
    ShadowLLMMetrics :=
  { m with
    invocations_total := m.invocations_total + 1
    invocations_by_trigger := tally m.invocations_by_trigger token
    verdicts_by_action := tally m.verdicts_by_action action }

end ShadowLLMMetrics

/-! ## The call -/

structure ShadowLLMOutcome where
  verdict : Option ServedVerdict
  skip_reason : Option SkipReason := none
  invocation_trigger : Option InvocationTrigger := none
  cache_hit : Bool := false
  deriving DecidableEq

def ProviderFailure.skip_reason : ProviderFailure → SkipReason
  | timeout => .provider_timeout
  | validation => .provider_validation_error
  | unavailable => .provider_unavailable

/-- The concerns of a verdict that are in the vocabulary. No vocabulary names
them all. -/
def cleaned (bundle : ShadowLLMBundle) (concerns : List String) : List String :=
  if bundle.concerns_vocabulary.isEmpty then concerns
  else concerns.filter (· ∈ bundle.concerns_vocabulary)

/-- The verdict of the provider as it is handed out and stored. -/
def Evaluation.recorded (c : Evaluation) (verdict : ServedVerdict) : ServedVerdict :=
  { verdict with
    latency_ms := c.elapsed_ms
    bundle_version :=
      if verdict.bundle_version = "" then c.bundle.bundle_version else verdict.bundle_version
    cache_hit := false
    policy_concerns := cleaned c.bundle verdict.policy_concerns }

/-- The process: the cache, the counters, and the calls that reached a
provider. -/
structure ShadowLLMState where
  cache : List (String × VerdictEntry) := []
  metrics : ShadowLLMMetrics := {}
  provider_calls : List Evaluation := []

/-- What a verdict of the provider leaves behind. -/
def observed (c : Evaluation) (token : InvocationTrigger) (verdict : ServedVerdict)
    (s : ShadowLLMState) : ShadowLLMState :=
  let stored := c.recorded verdict
  let m := s.metrics
  let m := if stored.policy_concerns = verdict.policy_concerns then m
    else { m with validation_errors_total := m.validation_errors_total + 1 }
  let m := m.invoked token stored.action
  { s with
    metrics :=
      { m with
        latency_ms_sum := m.latency_ms_sum + c.elapsed_ms
        latency_ms_count := m.latency_ms_count + 1
        cost_usd_total := m.cost_usd_total.add stored.cost_usd_estimate }
    cache := cache_put s.cache c.make_key stored c.bundle.cache_ttl_seconds c.put_now }

/-- `ShadowLLM.evaluate`: the gate, then the cache, then the provider. -/
def evaluate (c : Evaluation) (s : ShadowLLMState) : ShadowLLMOutcome × ShadowLLMState :=
  match should_invoke c.bundle c.status c.financial_impact_usd with
  | .error reason =>
    ({ verdict := none, skip_reason := some reason },
      { s with metrics := s.metrics.skipped reason })
  | .ok token =>
    match cache_get s.cache c.make_key c.get_now with
    | (some verdict, cache) =>
      let m := s.metrics.invoked token verdict.action
      ({ verdict := some verdict, invocation_trigger := some token, cache_hit := true },
        { s with
          cache := cache
          metrics := { m with cache_hits_total := m.cache_hits_total + 1 } })
    | (none, cache) =>
      let s := { s with cache := cache, provider_calls := s.provider_calls ++ [c] }
      match c.answer with
      | .error failure =>
        ({ verdict := none, skip_reason := some failure.skip_reason },
          { s with metrics := s.metrics.failed failure })
      | .ok verdict =>
        ({ verdict := some (c.recorded verdict), invocation_trigger := some token },
          observed c token verdict s)

def evaluate_step (c : Evaluation) (s : ShadowLLMState) : ShadowLLMState := (evaluate c s).2

/-! ## The key tells the question -/

/-- A request as the key of the cache reads it: the order of a mapping does
not count, and no case context is an empty one. -/
structure CanonicalRequest where
  intent : String
  recipe_name : String
  recipe_params : List Char
  proposed_action : String
  deterministic_status : String
  deterministic_reasons : List String
  deterministic_policy_hits : List String
  case_context_summary : String
  customer_profile : List Char
  deriving DecidableEq

def ShadowLLMRequest.canonical (r : ShadowLLMRequest) : CanonicalRequest where
  intent := r.intent
  recipe_name := r.recipe_name
  recipe_params := json.dumps true (.dict r.recipe_params)
  proposed_action := r.proposed_action
  deterministic_status := r.deterministic_status
  deterministic_reasons := r.deterministic_reasons
  deterministic_policy_hits := r.deterministic_policy_hits
  case_context_summary := r.case_context_summary.getD ""
  customer_profile := json.dumps true (.dict r.customer_profile)

/-- The two calls ask the same question: one tenant, one bundle version, one
model and one request. -/
def SameQuestion (c c' : Evaluation) : Prop :=
  c.tenant_id = c'.tenant_id ∧ c.bundle.bundle_version = c'.bundle.bundle_version ∧
    c.model_id = c'.model_id ∧ c.request.canonical = c'.request.canonical

/-- A list of strings can be told from its text. -/
theorem strings_inj {xs ys : List String}
    (h : json.dumps true (.list (xs.map .str)) = json.dumps true (.list (ys.map .str))) :
    xs = ys := by
  have htexts : ∀ xs : List String,
      json.dumpsList true (xs.map .str) = xs.map json.quoted := by
    intro xs
    induction xs with
    | nil => rfl
    | cons x xs ih => simp only [List.map_cons, json.dumpsList, json.dumps, ih]
  have hclosed : ∀ xs : List String, ∀ t ∈ xs.map json.quoted, json.Closed t ∧ t ≠ [] := by
    intro xs t ht
    obtain ⟨s, -, rfl⟩ := List.mem_map.mp ht
    exact ⟨json.closed_quoted s, by simp [json.quoted]⟩
  have hends : json.Ends [']'] := ⟨_, _, rfl, Or.inl rfl⟩
  simp only [json.dumps, htexts, List.cons_append, List.cons.injEq, true_and] at h
  have hmap := (json.commas_inj (hclosed xs) (hclosed ys) hends hends h).1
  exact List.map_injective_iff.mpr (fun _ _ => json.quoted_inj) hmap

theorem get_dumpsDict (sort_keys : Bool) (d : PyDict) (k : String) :
    dict.get (json.dumpsDict sort_keys d) k = (dict.get d k).map (json.dumps sort_keys) := by
  induction d with
  | nil => rfl
  | cons p d ih =>
    obtain ⟨k', v⟩ := p
    rw [json.dumpsDict, dict.get_cons, dict.get_cons, ih]
    split <;> rfl

theorem field_text {d d' : PyDict}
    (h : json.dumps true (.dict d) = json.dumps true (.dict d')) {k : String} {v v' : PyVal}
    (honce : Once (json.dumpsDict true d')) (hv : dict.get d k = some v)
    (hv' : dict.get d' k = some v') : json.dumps true v = json.dumps true v' := by
  have hmem : (k, json.dumps true v) ∈ json.dumpsDict true d :=
    dict.mem_of_get (by rw [get_dumpsDict, hv]; rfl)
  have hget := honce.get_of_mem (json.mem_of_dumps_dict h hmem)
  rw [get_dumpsDict, hv'] at hget
  exact (Option.some.inj hget).symm

theorem once_key_fields (c : Evaluation) : Once (json.dumpsDict true c.key_fields) := by
  change List.Nodup ["tenant", "bundle", "model", "intent", "recipe", "params", "action",
    "det_status", "det_reasons", "det_hits", "case", "customer"]
  decide

theorem sameQuestion_of_key_text {c c' : Evaluation} (h : c.key_text = c'.key_text) :
    SameQuestion c c' := by
  have hfield : ∀ k {v v'}, dict.get c.key_fields k = some v → dict.get c'.key_fields k = some v' →
      json.dumps true v = json.dumps true v' := fun k _ _ => field_text h (once_key_fields c')
  have hstring : ∀ {s t : String}, json.dumps true (.str s) = json.dumps true (.str t) → s = t := by
    intro s t heq
    simp only [json.dumps] at heq
    exact json.quoted_inj heq
  refine ⟨hstring (hfield "tenant" rfl rfl), hstring (hfield "bundle" rfl rfl),
    hstring (hfield "model" rfl rfl), ?_⟩
  unfold ShadowLLMRequest.canonical
  rw [hstring (hfield "intent" rfl rfl), hstring (hfield "recipe" rfl rfl),
    hfield "params" rfl rfl, hstring (hfield "action" rfl rfl),
    hstring (hfield "det_status" rfl rfl), strings_inj (hfield "det_reasons" rfl rfl),
    strings_inj (hfield "det_hits" rfl rfl), hstring (hfield "case" rfl rfl),
    hfield "customer" rfl rfl]

/-! ## The cache over time -/

theorem cache_get_hit {cache cache' : List (String × VerdictEntry)} {key : String}
    {now : EpochReading} {verdict : ServedVerdict}
    (h : cache_get cache key now = (some verdict, cache')) :
    ∃ entry, (key, entry) ∈ cache ∧ entry.expires_at.le (.fin now.seconds) = false ∧
      verdict = { entry.verdict with
        cache_hit := true, latency_ms := 0, cost_usd_estimate := .fin 0 } := by
  unfold cache_get at h
  split at h
  · cases h
  · rename_i entry hentry
    split at h
    · cases h
    · rename_i hlive
      cases h
      exact ⟨entry, dict.mem_of_get hentry, by simpa using hlive, rfl⟩

theorem cache_get_sub (cache : List (String × VerdictEntry)) (key : String) (now : EpochReading) :
    ∀ x ∈ (cache_get cache key now).2, x ∈ cache := by
  intro x hx
  unfold cache_get at hx
  split at hx
  · exact hx
  · split at hx
    · exact List.mem_of_mem_filter hx
    · exact hx

theorem live_before_ttl {stored now : EpochReading} {ttl_seconds : ℤ}
    (h : (expiry stored ttl_seconds).le (.fin now.seconds) = false) :
    now.seconds < stored.seconds + ttl_seconds := by
  by_contra hlate
  have hlate : stored.seconds + ttl_seconds ≤ now.seconds := not_lt.mp hlate
  have hexpired : (expiry stored ttl_seconds).le (.fin now.seconds) = true := by
    change (PyFloat.ofRat (stored.seconds + ttl_seconds)).le (.fin now.seconds) = true
    rcases le_total 0 (stored.seconds + ttl_seconds) with hpos | hneg
    · rw [← now.exact]
      exact PyFloat.ofRat_mono hpos hlate
    · exact PyFloat.le_trans (PyFloat.ofRat_nonpos hneg) (PyFloat.le_fin.mpr now.nonneg)
  rw [hexpired] at h
  cases h

/-! ## The counters -/

theorem sum_tally {κ : Type} [DecidableEq κ] (d : List (κ × ℕ)) (k : κ) :
    ((tally d k).map Prod.snd).sum = (d.map Prod.snd).sum + 1 := by
  unfold tally
  induction d with
  | nil => rfl
  | cons p d ih =>
    obtain ⟨k', n⟩ := p
    rw [dict.get_cons, dict.set]
    by_cases hk : k' = k
    · subst hk
      simp only [if_true, Option.getD_some, List.map_cons, List.sum_cons]
      omega
    · rw [if_neg hk, if_neg (Ne.symm hk)]
      simp only [List.map_cons, List.sum_cons, ih]
      omega

/-- Each invocation counts once by its trigger and once by its verdict. -/
def Balanced (m : ShadowLLMMetrics) : Prop :=
  m.invocations_total = (m.verdicts_by_action.map Prod.snd).sum ∧
    m.invocations_total = (m.invocations_by_trigger.map Prod.snd).sum

theorem Balanced.invoked {m : ShadowLLMMetrics} (h : Balanced m) (token : InvocationTrigger)
    (action : String) : Balanced (m.invoked token action) := by
  unfold Balanced ShadowLLMMetrics.invoked
  dsimp only
  rw [sum_tally, sum_tally, ← h.1, ← h.2]
  exact ⟨rfl, rfl⟩

variable {s : ShadowLLMState}

theorem Balanced.observed (h : Balanced s.metrics) (c : Evaluation)
    (token : InvocationTrigger) (verdict : ServedVerdict) :
    Balanced (observed c token verdict s).metrics := by
  unfold asoe.observed
  dsimp only
  split
  · exact h.invoked token _
  · exact Balanced.invoked (m := { s.metrics with
      validation_errors_total := s.metrics.validation_errors_total + 1 }) h token _

/-! ## What the calls keep -/

/-- The entry is the verdict that one of the calls was given by its provider. -/
def AnsweredEntry (calls : List Evaluation) (x : String × VerdictEntry) : Prop :=
  ∃ p ∈ calls, ∃ given, p.answer = .ok given ∧ x.1 = p.make_key ∧
    x.2.verdict = p.recorded given ∧
    x.2.expires_at = expiry p.put_now p.bundle.cache_ttl_seconds

/-- What holds after any of the calls. -/
structure ShadowInv (calls : List Evaluation) (s : ShadowLLMState) : Prop where
  known : ∀ p ∈ s.provider_calls, p ∈ calls
  never_red : ∀ p ∈ s.provider_calls, p.status ≠ .RED
  recorded : ∀ x ∈ s.cache, AnsweredEntry s.provider_calls x
  balanced : Balanced s.metrics

variable {calls : List Evaluation}

theorem AnsweredEntry.mono {calls' : List Evaluation} {x : String × VerdictEntry}
    (h : AnsweredEntry calls x) (hsub : ∀ p ∈ calls, p ∈ calls') : AnsweredEntry calls' x := by
  obtain ⟨p, hp, hrest⟩ := h
  exact ⟨p, hsub p hp, hrest⟩

theorem not_red_of_invoked {bundle : ShadowLLMBundle} {status : ShadowStatus} {impact : PyFloat}
    {token : InvocationTrigger} (h : should_invoke bundle status impact = .ok token) :
    status ≠ .RED := by
  rintro rfl
  cases h

theorem ShadowInv.called (h : ShadowInv calls s)
    {c : Evaluation} (hc : c ∈ calls) (hred : c.status ≠ .RED)
    {cache : List (String × VerdictEntry)} (hsub : ∀ x ∈ cache, x ∈ s.cache) :
    ShadowInv calls { s with cache := cache, provider_calls := s.provider_calls ++ [c] } := by
  have hcalls : ∀ {P : Evaluation → Prop}, (∀ p ∈ s.provider_calls, P p) → P c →
      ∀ p ∈ s.provider_calls ++ [c], P p := by
    intro P hold hnew p hp
    rcases List.mem_append.mp hp with hp | hp
    · exact hold p hp
    · rw [List.mem_singleton.mp hp]
      exact hnew
  refine ⟨hcalls h.known hc, hcalls h.never_red hred, fun x hx => ?_, h.balanced⟩
  exact (h.recorded x (hsub x hx)).mono fun p hp => List.mem_append_left _ hp

theorem ShadowInv.step (h : ShadowInv calls s)
    {c : Evaluation} (hc : c ∈ calls) : ShadowInv calls (evaluate_step c s) := by
  unfold evaluate_step evaluate
  split
  · rename_i reason hskip
    refine ⟨h.known, h.never_red, h.recorded, ?_⟩
    unfold ShadowLLMMetrics.skipped
    dsimp only
    split <;> exact h.balanced
  · rename_i token htoken
    have hred := not_red_of_invoked htoken
    have hsub := cache_get_sub s.cache c.make_key c.get_now
    split
    · rename_i verdict cache hget
      rw [hget] at hsub
      refine ⟨h.known, h.never_red, fun x hx => h.recorded x (hsub x hx), ?_⟩
      exact h.balanced.invoked token verdict.action
    · rename_i cache hget
      rw [hget] at hsub
      have hcalled := h.called hc hred hsub
      dsimp only
      split
      · rename_i failure hanswer
        refine ⟨hcalled.known, hcalled.never_red, hcalled.recorded, ?_⟩
        cases failure <;> exact h.balanced
      · rename_i verdict hanswer
        refine ⟨hcalled.known, hcalled.never_red, fun x hx => ?_,
          hcalled.balanced.observed c token verdict⟩
        rcases dict.mem_set hx with rfl | hold
        · exact ⟨c, List.mem_append_right _ List.mem_cons_self, verdict, hanswer, rfl, rfl, rfl⟩
        · exact hcalled.recorded x hold

/-! ## What the cache serves -/

/-- A verdict that the cache serves is what a provider gave to the same
question, less than the time to live ago. -/
def ServedFresh (c : Evaluation) (s : ShadowLLMState) : Prop :=
  ∀ verdict, (evaluate c s).1.verdict = some verdict → (evaluate c s).1.cache_hit = true →
    ∃ p ∈ s.provider_calls, ∃ given, p.answer = .ok given ∧ SameQuestion p c ∧
      c.get_now.seconds < p.put_now.seconds + p.bundle.cache_ttl_seconds ∧
      verdict = { p.recorded given with
        cache_hit := true, latency_ms := 0, cost_usd_estimate := .fin 0 }

/-- A call that its provider fails leaves no entry behind. -/
def FailureUncached (c : Evaluation) (s : ShadowLLMState) : Prop :=
  ∀ failure, c.answer = .error failure → ∀ x ∈ (evaluate_step c s).cache, x ∈ s.cache

theorem ShadowInv.servedFresh
    (h : ShadowInv calls s) (hfree : CollisionFree (calls.map Evaluation.key_text))
    {c : Evaluation} (hc : c ∈ calls) : ServedFresh c s := by
  intro verdict hverdict hhit
  unfold evaluate at hverdict hhit
  split at hverdict
  · cases hverdict
  · rename_i token htoken
    simp only [htoken] at hhit
    split at hverdict
    · rename_i served cache hget
      cases hverdict
      obtain ⟨entry, hmem, hlive, rfl⟩ := cache_get_hit hget
      obtain ⟨p, hp, given, hanswer, hkey, hrecorded, hexpires⟩ := h.recorded _ hmem
      have htext : p.key_text = c.key_text :=
        hfree _ (List.mem_map_of_mem (h.known p hp)) _ (List.mem_map_of_mem hc) hkey.symm
      rw [hexpires] at hlive
      exact ⟨p, hp, given, hanswer, sameQuestion_of_key_text htext, live_before_ttl hlive,
        by rw [hrecorded]⟩
    · rename_i cache hget
      simp only [hget] at hhit
      split at hhit <;> cases hhit

theorem failureUncached (c : Evaluation) (s : ShadowLLMState) : FailureUncached c s := by
  intro failure hfailure x hx
  have hsub := cache_get_sub s.cache c.make_key c.get_now
  unfold evaluate_step evaluate at hx
  split at hx
  · exact hx
  · split at hx
    · rename_i hget
      rw [hget] at hsub
      exact hsub x hx
    · rename_i hget
      rw [hget] at hsub
      simp only [hfailure] at hx
      exact hsub x hx

/-- In every run of calls the provider is never asked about a red decision, the
cache serves fresh answers to the same question and stores no failure, and the
counters add up. -/
theorem second_opinions_are_fresh_and_counted (calls : List Evaluation)
    (hfree : CollisionFree (calls.map Evaluation.key_text)) :
    AllSteps evaluate_step (fun c s => ServedFresh c s ∧ FailureUncached c s) {} calls ∧
      (∀ p ∈ (run evaluate_step {} calls).provider_calls, p.status ≠ .RED) ∧
      (∀ x ∈ (run evaluate_step {} calls).cache,
        AnsweredEntry (run evaluate_step {} calls).provider_calls x) ∧
      Balanced (run evaluate_step {} calls).metrics := by
  have hstart : ShadowInv calls {} :=
    ⟨by simp, by simp, by simp, rfl, rfl⟩
  have hmem : AllSteps evaluate_step (fun c _ => c ∈ calls) {} calls :=
    allSteps_of_forall (fun _ hc => hc) _
  have hkeep : ∀ c s, c ∈ calls → ShadowInv calls s → ShadowInv calls (evaluate_step c s) :=
    fun c s hc h => h.step hc
  have hend := invariant hkeep hstart hmem
  refine ⟨?_, hend.never_red, hend.recorded, hend.balanced⟩
  refine allSteps_mono ?_ (invariant_before hkeep hstart hmem)
  rintro c s ⟨h, hc⟩
  exact ⟨h.servedFresh hfree hc, failureUncached c s⟩

/-! ## One question asked twice -/

/-- A yellow decision without a case context, and a provider that agrees. -/
def absentCase : Evaluation where
  tenant_id := "t1"
  request :=
    { intent := "PRICE_HOLD", recipe_name := "price_hold"
      recipe_params := [("order_id", .str "PO-1")]
      proposed_action := "", deterministic_status := "YELLOW"
      deterministic_reasons := ["margin below floor"], deterministic_policy_hits := []
      case_context_summary := none, customer_profile := [("tenant_id", .str "t1")] }
  status := .YELLOW
  bundle := { bundle_version := "1.0.0", concerns_vocabulary := ["pricing_anomaly"] }
  provider_model_id := some "stub-llm-shadow-v1"
  provider := fun _ bundle _ => .ok
    { action := "AGREE", reason := "Concur with deterministic YELLOW", policy_concerns := []
      confidence := .ofRat (7 / 10), bundle_version := bundle.bundle_version
      model_id := "stub-llm-shadow-v1" }
  get_now := ⟨0, le_rfl, by decide +kernel⟩
  put_now := ⟨2, by norm_num, by decide +kernel⟩
  elapsed_ms := 2000

/-- The same decision a minute later, with an empty case context. -/
def emptyCase : Evaluation :=
  { absentCase with
    request := { absentCase.request with case_context_summary := some "" }
    get_now := ⟨60, by norm_num, by decide +kernel⟩ }

theorem emptyCase_key_text : emptyCase.key_text = absentCase.key_text := rfl

theorem sample_collisionFree : CollisionFree ([absentCase, emptyCase].map Evaluation.key_text) := by
  intro s hs t ht _
  simp only [List.map_cons, List.map_nil, emptyCase_key_text, List.mem_cons, List.not_mem_nil,
    or_false, or_self] at hs ht
  rw [hs, ht]

theorem a_second_opinion_is_served_again :
    ServedFresh emptyCase (evaluate_step absentCase {}) ∧
      Balanced (evaluate_step emptyCase (evaluate_step absentCase {})).metrics := by
  obtain ⟨⟨-, ⟨hfresh, -⟩, -⟩, -, -, hbalanced⟩ :=
    second_opinions_are_fresh_and_counted [absentCase, emptyCase] sample_collisionFree
  rw [run_cons, run_cons, run_nil] at hbalanced
  exact ⟨hfresh, hbalanced⟩

theorem emptyCase_hit : (evaluate emptyCase (evaluate_step absentCase {})).1.cache_hit = true := by
  have hkey : emptyCase.make_key = absentCase.make_key := by
    unfold Evaluation.make_key
    rw [emptyCase_key_text]
  have hcache : (evaluate_step absentCase {}).cache =
      cache_put [] absentCase.make_key (absentCase.recorded _) 86400 absentCase.put_now := rfl
  have hlive : (expiry absentCase.put_now 86400).le (.fin emptyCase.get_now.seconds) = false := by
    decide +kernel
  have hgate : should_invoke emptyCase.bundle emptyCase.status emptyCase.financial_impact_usd =
      .ok .deterministic_yellow := rfl
  unfold evaluate cache_get
  rw [hgate, hkey, hcache]
  simp [cache_put, hlive]

/-- The verdict on a request without a case context is served to one with an
empty context. -/
theorem an_empty_case_is_served_the_verdict_of_an_absent_one :
    CollisionFree ([absentCase, emptyCase].map Evaluation.key_text) ∧
      (evaluate emptyCase (evaluate_step absentCase {})).1.cache_hit = true ∧
      ∀ p ∈ (evaluate_step absentCase {}).provider_calls, p.request ≠ emptyCase.request := by
  refine ⟨sample_collisionFree, emptyCase_hit, fun p hp heq => ?_⟩
  have hcalls : (evaluate_step absentCase {}).provider_calls = [absentCase] := rfl
  rw [hcalls] at hp
  rw [List.mem_singleton.mp hp] at heq
  have hcase := congrArg ShadowLLMRequest.case_context_summary heq
  cases hcase

end asoe
