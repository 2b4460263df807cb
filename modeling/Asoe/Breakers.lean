-- The circuit breaker of the LLM tier and of the gateways, shared by callers
-- that each record the call they were granted: who resolves a probe.
import Asoe.Lib.FloatOrder
import Asoe.Lib.Runs
import Mathlib.Data.List.Sort

namespace asoe

open py runs

/-! ## The breaker -/

inductive BreakerState where
  | CLOSED | OPEN | HALF_OPEN
  deriving DecidableEq

structure CallRecord where
  timestamp : PyFloat
  duration_s : PyFloat
  error : Bool
  deriving DecidableEq

def WINDOW_SECONDS : PyFloat := .fin 60

def MIN_SAMPLES : ℕ := 5

structure LLMCircuitBreaker where
  error_rate_threshold : PyFloat := .ofRat (25 / 100)
  p95_latency_threshold_s : PyFloat := .fin 15
  cooldown_s : ℤ := 300
  records : List CallRecord := []
  state : BreakerState := .CLOSED
  opened_at : Option PyFloat := none
  last_trip_reason : Option String := none
  probe_in_flight : Bool := false
  deriving DecidableEq

namespace LLMCircuitBreaker

/-- `_evict_old_locked`. -/
def evict_old (cb : LLMCircuitBreaker) (now : PyFloat) : LLMCircuitBreaker :=
  { cb with records := cb.records.dropWhile fun r => r.timestamp.lt (now.sub WINDOW_SECONDS) }

/-- `max(0, int(round(0.95 * (n - 1))))`. -/
def p95_index (n : ℕ) : ℕ :=
  match (PyFloat.ofRat (95 / 100)).mul (.fin (n - 1)) with
  | .fin q => (PyFloat.roundHalfEven q).toNat
  | _ => 0

/-- `_stats_locked`: the error rate and the p95 of the latencies. -/
def stats (cb : LLMCircuitBreaker) : PyFloat × PyFloat :=
  if cb.records.isEmpty then (.fin 0, .fin 0)
  else
    let n := cb.records.length
    let errors := (cb.records.filter (·.error)).length
    let latencies := (cb.records.map (·.duration_s)).insertionSort fun a b => b.lt a = false
    (.ofRat (errors / n), latencies.getD (p95_index n) (.fin 0))

/-- `_maybe_trip_locked`. -/
def maybe_trip (cb : LLMCircuitBreaker) (now : PyFloat) : LLMCircuitBreaker :=
  if cb.state ≠ .CLOSED then cb
  else if cb.records.length < MIN_SAMPLES then cb
  else
    let (err_rate, p95) := cb.stats
    if cb.error_rate_threshold.le err_rate then
      { cb with
        state := .OPEN, opened_at := some now
        last_trip_reason := some ("error_rate " ++ percent 2 err_rate ++ " >= "
          ++ percent 2 cb.error_rate_threshold) }
    else if cb.p95_latency_threshold_s.le p95 then
      { cb with
        state := .OPEN, opened_at := some now
        last_trip_reason := some ("p95_latency " ++ fixed 2 p95 ++ "s >= "
          ++ fixed 2 cb.p95_latency_threshold_s ++ "s") }
    else cb

/-- `_maybe_transition_locked`: an open breaker is half open after its
cooldown. -/
def maybe_transition (cb : LLMCircuitBreaker) (now : PyFloat) : LLMCircuitBreaker :=
  match cb.state, cb.opened_at with
  | .OPEN, some opened_at =>
    if (PyFloat.fin cb.cooldown_s).le (now.sub opened_at) then { cb with state := .HALF_OPEN }
    else cb
  | _, _ => cb

/-- `CircuitOpen`, with the reason of the last trip. -/
def circuit_open (cb : LLMCircuitBreaker) : PyErr :=
  ⟨"CircuitOpen", "LLM circuit breaker is OPEN; reason="
    ++ (match cb.last_trip_reason with
      | some reason => py.reprStr reason
      | none => "None")⟩

/-- `acquire`: a call is granted, or `CircuitOpen` is raised. -/
def acquire (cb : LLMCircuitBreaker) (now : PyFloat) : Option PyErr × LLMCircuitBreaker :=
  let cb := cb.maybe_transition now
  if cb.state = .CLOSED then (none, cb)
  else if cb.state = .HALF_OPEN ∧ cb.probe_in_flight = false then
    (none, { cb with probe_in_flight := true })
  else (some cb.circuit_open, cb)

/-- The readings of the clock in one record: the record's own, that of the
eviction, and that of an opening. -/
structure Readings where
  stamp : PyFloat
  evict : PyFloat
  opened : PyFloat
  deriving DecidableEq

def add_record (cb : LLMCircuitBreaker) (latency_s : PyFloat) (error : Bool) (clock : Readings) :
    LLMCircuitBreaker :=
  evict_old { cb with records := cb.records ++ [⟨clock.stamp, latency_s, error⟩] } clock.evict

def record_success (cb : LLMCircuitBreaker) (latency_s : PyFloat) (clock : Readings) :
    LLMCircuitBreaker :=
  let cb := cb.add_record latency_s false clock
  if cb.state = .HALF_OPEN ∧ cb.probe_in_flight = true then
    { cb with state := .CLOSED, opened_at := none, probe_in_flight := false }
  else if cb.state = .CLOSED then cb.maybe_trip clock.opened
  else cb

def record_failure (cb : LLMCircuitBreaker) (latency_s : PyFloat) (clock : Readings) :
    LLMCircuitBreaker :=
  let cb := cb.add_record latency_s true clock
  if cb.state = .HALF_OPEN ∧ cb.probe_in_flight = true then
    { cb with
      state := .OPEN, opened_at := some clock.opened, probe_in_flight := false
      last_trip_reason := some "probe_failed" }
  else cb.maybe_trip clock.opened

/-- One record of a call that was granted. -/
def recorded (cb : LLMCircuitBreaker) (error : Bool) (latency_s : PyFloat) (clock : Readings) :
    LLMCircuitBreaker :=
  if error then cb.record_failure latency_s clock else cb.record_success latency_s clock

end LLMCircuitBreaker

/-! ## Callers -/

/-- What the callers do, one method of the breaker at a time. -/
inductive BreakerEvent where
  | acquire (now : PyFloat)
  | record (call : ℕ) (error : Bool) (latency_s : PyFloat) (clock : LLMCircuitBreaker.Readings)
  deriving DecidableEq

/-- The breaker with its callers. Calls are numbered as they are granted. -/
structure BreakerRun where
  breaker : LLMCircuitBreaker := {}
  granted : ℕ := 0
  /-- The granted calls without a record. -/
  unresolved : List ℕ := []
  /-- The calls that were granted as probes, the latest first. -/
  probes : List ℕ := []
  /-- How many calls had been granted when the breaker last opened. -/
  granted_at_open : ℕ := 0
  deriving DecidableEq

/-- The count is kept when the breaker opens. -/
def BreakerRun.with_breaker (s : BreakerRun) (cb : LLMCircuitBreaker) : BreakerRun :=
  { s with
    breaker := cb
    granted_at_open :=
      if cb.state = .OPEN ∧ s.breaker.state ≠ .OPEN then s.granted else s.granted_at_open }

/-- One method of the breaker. A caller records the call it was granted, once;
nobody else records. -/
def breaker_step (e : BreakerEvent) (s : BreakerRun) : BreakerRun :=
  match e with
  | .acquire now =>
    match s.breaker.acquire now with
    | (none, cb) =>
      { s.with_breaker cb with
        granted := s.granted + 1
        unresolved := s.granted :: s.unresolved
        probes := if cb.state = .HALF_OPEN then s.granted :: s.probes else s.probes }
    | (some _, cb) => s.with_breaker cb
  | .record call error latency_s clock =>
    if call ∈ s.unresolved then
      let cb := s.breaker.recorded error latency_s clock
      { s.with_breaker cb with unresolved := s.unresolved.filter (· ≠ call) }
    else s

/-! ## What one method does to the state -/

namespace LLMCircuitBreaker

theorem maybe_trip_state (cb : LLMCircuitBreaker) (now : PyFloat) :
    (cb.maybe_trip now).probe_in_flight = cb.probe_in_flight ∧
      ((cb.maybe_trip now).state = cb.state ∨
        cb.state = .CLOSED ∧ (cb.maybe_trip now).state = .OPEN) := by
  unfold maybe_trip
  dsimp only
  split
  · exact ⟨rfl, Or.inl rfl⟩
  · rename_i hclosed
    have hclosed : cb.state = .CLOSED := not_not.mp hclosed
    split_ifs
    · exact ⟨rfl, Or.inl rfl⟩
    · exact ⟨rfl, Or.inr ⟨hclosed, rfl⟩⟩
    · exact ⟨rfl, Or.inr ⟨hclosed, rfl⟩⟩
    · exact ⟨rfl, Or.inl rfl⟩

/-- A grant is one of a closed breaker, or the one probe of a breaker that has
cooled down; else nothing changes. -/
theorem acquire_cases {cb : LLMCircuitBreaker} (now : PyFloat)
    (hprobe : cb.probe_in_flight = true ↔ cb.state = .HALF_OPEN) :
    (cb.state = .CLOSED ∧ cb.acquire now = (none, cb)) ∨
      (cb.state = .OPEN ∧
        cb.acquire now = (none, { cb with state := .HALF_OPEN, probe_in_flight := true })) ∨
      cb.state ≠ .CLOSED ∧ cb.acquire now = (some cb.circuit_open, cb) := by
  have hflight : cb.state ≠ .HALF_OPEN → cb.probe_in_flight = false := fun h => by
    simpa using mt hprobe.mp h
  unfold acquire maybe_transition
  cases hstate : cb.state with
  | CLOSED => exact Or.inl ⟨rfl, by simp [hstate]⟩
  | OPEN =>
    have hflight := hflight (by simp [hstate])
    cases hopened : cb.opened_at with
    | none => exact Or.inr (Or.inr ⟨by simp, by simp [hstate]⟩)
    | some opened_at =>
      by_cases hcooled : (PyFloat.fin cb.cooldown_s).le (now.sub opened_at) = true
      · exact Or.inr (Or.inl ⟨rfl, by simp [hcooled, hflight]⟩)
      · exact Or.inr (Or.inr ⟨by simp, by simp [hcooled, hstate]⟩)
  | HALF_OPEN =>
    have hflight := hprobe.mpr hstate
    exact Or.inr (Or.inr ⟨by simp, by simp [hstate, hflight]⟩)

/-- A record leaves the half-open state, and no record reaches it. -/
theorem recorded_state {cb : LLMCircuitBreaker} (error : Bool) (latency_s : PyFloat)
    (clock : Readings) (hprobe : cb.probe_in_flight = true ↔ cb.state = .HALF_OPEN) :
    (cb.recorded error latency_s clock).state ≠ .HALF_OPEN ∧
      (cb.recorded error latency_s clock).probe_in_flight = false ∧
      (cb.state = .OPEN → (cb.recorded error latency_s clock).state = .OPEN) := by
  have hadd : ∀ error, (cb.add_record latency_s error clock).state = cb.state ∧
      (cb.add_record latency_s error clock).probe_in_flight = cb.probe_in_flight :=
    fun _ => ⟨rfl, rfl⟩
  unfold recorded record_failure record_success
  dsimp only
  cases hstate : cb.state with
  | HALF_OPEN =>
    have hflight := hprobe.mpr hstate
    cases error <;> simp [hadd, hstate, hflight]
  | OPEN =>
    have hflight : cb.probe_in_flight = false := by simpa [hstate] using hprobe
    cases error with
    | false => simp [hadd, hstate, hflight]
    | true =>
      obtain ⟨htrip, hsame | ⟨hclosed, -⟩⟩ :=
        maybe_trip_state (cb.add_record latency_s true clock) clock.opened
      · simp [hadd, hstate, hflight, htrip, hsame]
      · rw [(hadd true).1, hstate] at hclosed
        cases hclosed
  | CLOSED =>
    have hflight : cb.probe_in_flight = false := by simpa [hstate] using hprobe
    obtain ⟨htrip, htripped⟩ :=
      maybe_trip_state (cb.add_record latency_s error clock) clock.opened
    cases error with
    | false =>
      rcases htripped with hsame | ⟨-, hopen⟩
      · simp [hadd, hstate, hflight, htrip, hsame]
      · simp [hadd, hstate, hflight, htrip, hopen]
    | true =>
      rcases htripped with hsame | ⟨-, hopen⟩
      · simp [hadd, hstate, hflight, htrip, hsame]
      · simp [hadd, hstate, hflight, htrip, hopen]

end LLMCircuitBreaker

/-! ## Probes -/

/-- After the step at most one granted call is an unresolved probe while the
breaker is half open, and it is only left by the record of the call that was
granted the probe. -/
def ProbeResolves (e : BreakerEvent) (s : BreakerRun) : Prop :=
  ((breaker_step e s).breaker.state = .HALF_OPEN →
    ∀ a ∈ (breaker_step e s).unresolved, ∀ b ∈ (breaker_step e s).unresolved,
      a ∈ (breaker_step e s).probes → b ∈ (breaker_step e s).probes → a = b) ∧
  (s.breaker.state = .HALF_OPEN → (breaker_step e s).breaker.state ≠ .HALF_OPEN →
    ∃ call error latency_s clock, e = .record call error latency_s clock ∧
      call ∈ s.unresolved ∧ s.probes.head? = some call)

/-- A call that was granted before the breaker opened makes no record while it
is half open. -/
def OnTime (e : BreakerEvent) (s : BreakerRun) : Prop :=
  ∀ call error latency_s clock, e = .record call error latency_s clock → call ∈ s.unresolved →
    s.breaker.state = .HALF_OPEN → s.granted_at_open ≤ call

/-- What holds of the callers as long as no late call records in the half-open
state. -/
structure BreakerInv (s : BreakerRun) : Prop where
  flight : s.breaker.probe_in_flight = true ↔ s.breaker.state = .HALF_OPEN
  opened : s.breaker.state = .OPEN → s.granted = s.granted_at_open
  half : s.breaker.state = .HALF_OPEN →
    s.granted = s.granted_at_open + 1 ∧ s.probes.head? = some s.granted_at_open
  known : ∀ call ∈ s.unresolved, call < s.granted
  probes : ∀ call ∈ s.probes, call < s.granted
  resolved : ∀ call ∈ s.unresolved, call ∈ s.probes →
    s.breaker.state = .HALF_OPEN ∧ call = s.granted_at_open

theorem step_refused {s : BreakerRun} {now : PyFloat} {exc : PyErr}
    (h : s.breaker.acquire now = (some exc, s.breaker)) : breaker_step (.acquire now) s = s := by
  unfold breaker_step
  dsimp only
  rw [h]
  unfold BreakerRun.with_breaker
  dsimp only
  rw [if_neg fun hopen => hopen.2 hopen.1]

theorem step_closed {s : BreakerRun} {now : PyFloat} (hstate : s.breaker.state = .CLOSED)
    (h : s.breaker.acquire now = (none, s.breaker)) :
    breaker_step (.acquire now) s =
      { s with granted := s.granted + 1, unresolved := s.granted :: s.unresolved } := by
  unfold breaker_step
  dsimp only
  rw [h]
  simp [BreakerRun.with_breaker, hstate]

theorem step_probe {s : BreakerRun} {now : PyFloat}
    (h : s.breaker.acquire now =
      (none, { s.breaker with state := .HALF_OPEN, probe_in_flight := true })) :
    breaker_step (.acquire now) s =
      { s with
        breaker := { s.breaker with state := .HALF_OPEN, probe_in_flight := true }
        granted := s.granted + 1
        unresolved := s.granted :: s.unresolved
        probes := s.granted :: s.probes } := by
  unfold breaker_step
  dsimp only
  rw [h]
  simp [BreakerRun.with_breaker]

theorem probe_of_onTime {s : BreakerRun} (h : BreakerInv s) {call : ℕ}
    (hcall : call ∈ s.unresolved) (hstate : s.breaker.state = .HALF_OPEN)
    (htime : s.granted_at_open ≤ call) : call = s.granted_at_open := by
  have hknown := h.known call hcall
  have hgranted := (h.half hstate).1
  omega

theorem breakerInv_step (e : BreakerEvent) {s : BreakerRun} (h : BreakerInv s)
    (htime : OnTime e s) : BreakerInv (breaker_step e s) := by
  cases e with
  | acquire now =>
    rcases LLMCircuitBreaker.acquire_cases now h.flight with
      ⟨hstate, hacquire⟩ | ⟨hstate, hacquire⟩ | ⟨-, hacquire⟩
    · rw [step_closed hstate hacquire]
      refine ⟨h.flight, fun hopen => ?_, fun hhalf => ?_, fun call hcall => ?_,
        fun call hcall => ?_, fun call hcall hprobe => ?_⟩
      · exact absurd (hstate.symm.trans hopen) (by decide)
      · exact absurd (hstate.symm.trans hhalf) (by decide)
      · rcases List.mem_cons.mp hcall with rfl | hcall
        · exact Nat.lt_succ_self _
        · exact Nat.lt_succ_of_lt (h.known call hcall)
      · exact Nat.lt_succ_of_lt (h.probes call hcall)
      · rcases List.mem_cons.mp hcall with rfl | hcall
        · exact absurd (h.probes _ hprobe) (lt_irrefl _)
        · exact h.resolved call hcall hprobe
    · have hgranted := h.opened hstate
      rw [step_probe hacquire]
      refine ⟨by simp, fun hopen => ?_, fun _ => ⟨?_, ?_⟩, fun call hcall => ?_,
        fun call hcall => ?_, fun call hcall hprobe => ?_⟩
      · cases hopen
      · rw [hgranted]
      · rw [List.head?_cons, hgranted]
      · rcases List.mem_cons.mp hcall with rfl | hcall
        · exact Nat.lt_succ_self _
        · exact Nat.lt_succ_of_lt (h.known call hcall)
      · rcases List.mem_cons.mp hcall with rfl | hcall
        · exact Nat.lt_succ_self _
        · exact Nat.lt_succ_of_lt (h.probes call hcall)
      · refine ⟨rfl, ?_⟩
        rcases List.mem_cons.mp hcall with rfl | hcall
        · exact hgranted
        · rcases List.mem_cons.mp hprobe with rfl | hprobe
          · exact absurd (h.known _ hcall) (lt_irrefl _)
          · exact absurd (hstate.symm.trans (h.resolved call hcall hprobe).1) (by decide)
    · rw [step_refused hacquire]
      exact h
  | record call error latency_s clock =>
    unfold breaker_step
    dsimp only
    split
    · rename_i hcall
      obtain ⟨hleft, hflight, hstays⟩ :=
        LLMCircuitBreaker.recorded_state error latency_s clock h.flight
      unfold BreakerRun.with_breaker
      refine ⟨?_, fun hopen => ?_, fun hhalf => absurd hhalf hleft, fun other hother => ?_,
        h.probes, fun other hother hprobe => ?_⟩
      · simp [hflight, hleft]
      · dsimp only at hopen ⊢
        split
        · rfl
        · rename_i hnot
          refine h.opened ?_
          by_contra hstate
          exact hnot ⟨hopen, hstate⟩
      · exact h.known other (List.mem_of_mem_filter hother)
      · obtain ⟨hmem, hother⟩ := List.mem_filter.mp hother
        obtain ⟨hstate, rfl⟩ := h.resolved other hmem hprobe
        have hprobe := probe_of_onTime h hcall hstate
          (htime call error latency_s clock rfl hcall hstate)
        rw [hprobe] at hother
        simp at hother
    · exact h

theorem probeResolves_iff (e : BreakerEvent) {s : BreakerRun} (h : BreakerInv s) :
    ProbeResolves e s ↔ OnTime e s := by
  constructor
  · rintro ⟨-, hleaves⟩ call error latency_s clock rfl hcall hstate
    have hleft : (breaker_step (.record call error latency_s clock) s).breaker.state ≠
        .HALF_OPEN := by
      unfold breaker_step
      dsimp only
      rw [if_pos hcall]
      exact (LLMCircuitBreaker.recorded_state error latency_s clock h.flight).1
    obtain ⟨call', error', latency', clock', heq, -, hprobe⟩ := hleaves hstate hleft
    cases heq
    rw [(h.half hstate).2] at hprobe
    cases hprobe
    exact le_rfl
  · intro htime
    have hnext := breakerInv_step e h htime
    refine ⟨fun _ a ha b hb haprobe hbprobe => ?_, fun hstate hleft => ?_⟩
    · rw [(hnext.resolved a ha haprobe).2, (hnext.resolved b hb hbprobe).2]
    · cases e with
      | acquire now =>
        rcases LLMCircuitBreaker.acquire_cases now h.flight with
          ⟨hclosed, -⟩ | ⟨hopen, -⟩ | ⟨-, hacquire⟩
        · exact absurd (hclosed.symm.trans hstate) (by decide)
        · exact absurd (hopen.symm.trans hstate) (by decide)
        · rw [step_refused hacquire] at hleft
          exact absurd hstate hleft
      | record call error latency_s clock =>
        by_cases hcall : call ∈ s.unresolved
        · refine ⟨call, error, latency_s, clock, rfl, hcall, ?_⟩
          rw [probe_of_onTime h hcall hstate (htime call error latency_s clock rfl hcall hstate)]
          exact (h.half hstate).2
        · unfold breaker_step at hleft
          dsimp only at hleft
          rw [if_neg hcall] at hleft
          exact absurd hstate hleft

/-- A new breaker, with any thresholds, and no callers. -/
def BreakerRun.start (error_rate_threshold p95_latency_threshold_s : PyFloat) (cooldown_s : ℤ) :
    BreakerRun :=
  { breaker := { error_rate_threshold, p95_latency_threshold_s, cooldown_s } }

theorem breakerInv_start (error_rate_threshold p95_latency_threshold_s : PyFloat)
    (cooldown_s : ℤ) :
    BreakerInv (.start error_rate_threshold p95_latency_threshold_s cooldown_s) where
  flight := by simp [BreakerRun.start]
  opened h := by cases h
  half h := by cases h
  known := by simp [BreakerRun.start]
  probes := by simp [BreakerRun.start]
  resolved := by simp [BreakerRun.start]

/-- In any run of the callers, each probe is resolved by the caller that was
granted it just when no late call records in the half-open state. -/
theorem probes_resolve_iff_on_time (error_rate_threshold p95_latency_threshold_s : PyFloat)
    (cooldown_s : ℤ) (events : List BreakerEvent) :
    AllSteps breaker_step ProbeResolves
        (.start error_rate_threshold p95_latency_threshold_s cooldown_s) events ↔
      AllSteps breaker_step OnTime
        (.start error_rate_threshold p95_latency_threshold_s cooldown_s) events :=
  allSteps_iff (fun e _ h htime => breakerInv_step e h htime) (fun e _ h => probeResolves_iff e h)
    (breakerInv_start error_rate_threshold p95_latency_threshold_s cooldown_s)

def atSecond (t : ℚ) : LLMCircuitBreaker.Readings := ⟨.fin t, .fin t, .fin t⟩

/-- A slow call is granted first; five calls fail and open the breaker, and
after the cooldown a seventh one is its probe. -/
def slowCallRun : List BreakerEvent :=
  [.acquire (.fin 0), .acquire (.fin 1), .record 1 true (.fin 1) (atSecond 2),
    .acquire (.fin 2), .record 2 true (.fin 1) (atSecond 3),
    .acquire (.fin 3), .record 3 true (.fin 1) (atSecond 4),
    .acquire (.fin 4), .record 4 true (.fin 1) (atSecond 5),
    .acquire (.fin 5), .record 5 true (.fin 1) (atSecond 6), .acquire (.fin 400)]

def slowCallStart : BreakerRun := .start (.ofRat (25 / 100)) (.fin 15) 300

/-- The record of the slow call closes the breaker while the probe is still out. -/
theorem a_late_call_closes_the_breaker :
    ¬ AllSteps breaker_step ProbeResolves slowCallStart
      (slowCallRun ++ [.record 0 false (.fin 401) (atSecond 401)]) := by
  rw [allSteps_append]
  rintro ⟨-, ⟨-, hleaves⟩, -⟩
  have hhalf : (run breaker_step slowCallStart slowCallRun).breaker.state = .HALF_OPEN := by
    decide +kernel
  have hclosed : (breaker_step (.record 0 false (.fin 401) (atSecond 401))
      (run breaker_step slowCallStart slowCallRun)).breaker.state ≠ .HALF_OPEN := by
    decide +kernel
  have hprobe : (run breaker_step slowCallStart slowCallRun).probes.head? = some 6 := by
    decide +kernel
  obtain ⟨call, error, latency_s, clock, heq, -, hhead⟩ := hleaves hhalf hclosed
  cases heq
  rw [hprobe] at hhead
  cases hhead

end asoe
