-- The compaction of a case's events: when it is due, and the summary that it
-- makes of them, one line for an event until the size cap is reached.
import Asoe.Records
import Asoe.Lib.PyText
import Asoe.Lib.Sha256

namespace asoe

open py

/-! ## Times -/

/-- What `datetime.fromisoformat` reads, in microseconds, with or without an
offset. -/
structure Datetime where
  microseconds : ℤ
  aware : Bool
  deriving DecidableEq

/-- `datetime.now(timezone.utc)`, with its text. -/
structure Instant where
  microseconds : ℤ
  isoformat : String
  deriving DecidableEq

/-- The files under `knowledge/compaction` and the parser of ISO texts. -/
structure CompactionEnv where
  load_template : String → Option (List String)
  fromisoformat : String → Option Datetime

/-! ## The trigger -/

def COMPACTION_TRIGGER_TOKEN_BUDGET : ℕ := 8000
def COMPACTION_TRIGGER_EVENT_COUNT : ℕ := 25
def COMPACTION_TRIGGER_AGE_DAYS : ℕ := 7
def COMPACTION_TARGET_TOKENS : ℕ := 2000

structure CompactionTrigger where
  should : Bool
  reason : Option String := none
  metric_token_estimate : ℕ := 0
  metric_event_count : ℕ := 0
  metric_age_days : PyFloat := .fin 0
  deriving DecidableEq

namespace CompactionTrigger

/-- `_parse_iso(case.opened_at) or now`, taken from `now`, in days. -/
def age_days (env : CompactionEnv) (opened_at : String) (now : Instant) : Except PyErr PyFloat :=
  match if opened_at = "" then none else env.fromisoformat opened_at with
  | none => .ok (.fin 0)
  | some opened =>
    if !opened.aware then
      .error ⟨"TypeError", "can't subtract offset-naive and offset-aware datetimes"⟩
    else
      let seconds := PyFloat.ofRat ((now.microseconds - opened.microseconds : ℤ) / 1000000)
      .ok (PyFloat.max (.fin 0) ((seconds.div? (.fin 86400)).getD .nan))

/-- The first trigger that fires gives the reason. -/
def evaluate (env : CompactionEnv) (opened_at : String) (event_count : ℕ) (now : Instant)
    (token_estimate : Option ℕ) : Except PyErr CompactionTrigger := do
  let age_days ← age_days env opened_at now
  let tokens := token_estimate.getD (event_count * 200)
  let fires (reason : Option String) : CompactionTrigger :=
    ⟨reason.isSome, reason, tokens, event_count, age_days⟩
  if COMPACTION_TRIGGER_TOKEN_BUDGET ≤ tokens then
    return fires (some ("token_budget (estimate=" ++ toString tokens ++ " >= "
      ++ toString COMPACTION_TRIGGER_TOKEN_BUDGET ++ ")"))
  if COMPACTION_TRIGGER_EVENT_COUNT ≤ event_count then
    return fires (some ("event_count (" ++ toString event_count ++ " >= "
      ++ toString COMPACTION_TRIGGER_EVENT_COUNT ++ ")"))
  if PyFloat.le (.fin COMPACTION_TRIGGER_AGE_DAYS) age_days then
    return fires (some ("age_days (" ++ py.fixed 1 age_days ++ " >= "
      ++ toString COMPACTION_TRIGGER_AGE_DAYS ++ ")"))
  return fires none

end CompactionTrigger

/-! ## The summary -/

def DEFAULT_AUDIT_KEYS : List String :=
  ["outcome", "status", "classification", "recommended_action", "shadow_verdict", "intent",
    "tool_name", "case_status_after", "reason_code", "autonomy_level", "amount_usd", "po_number"]

def audit_keys_for (env : CompactionEnv) (event_type : String) : List String :=
  (env.load_template event_type).getD DEFAULT_AUDIT_KEYS

/-- `event.get(key)`. -/
def event_get (event : PyDict) (key : String) : PyVal := .ofOption (dict.get event key)

/-- One line for an event: its type, its time and its audit keys. -/
def summarise_event_line (env : CompactionEnv) (event : PyDict) : String :=
  let et := (((event_get event "event_type").or (event_get event "title")).or (.str "event")).toStr
  let ts := (((event_get event "timestamp").or (event_get event "occurred_at")).or (.str "")).toStr
  let pairs := (audit_keys_for env et).filterMap fun key =>
    match dict.get event key with
    | none | some .none => none
    | some v => if v = .str "" then none else some (key ++ "=" ++ v.toStr)
  let body := if pairs.isEmpty then "—" else join ", " pairs
  "[" ++ et ++ "@" ++ ts ++ "] " ++ body

/-- What stands for the lines beyond the cap. -/
def truncated (kept total : ℕ) : String :=
  "[compaction-truncated@" ++ toString kept ++ "/" ++ toString total ++ " events; "
    ++ "verbatim retained in episodic memory]"

/-- The loop of `compact_events`, with the lines and the characters so far. -/
def compact_loop (char_cap total : ℕ) : List String → ℕ → List String → List String
  | out, _, [] => out
  | out, used, line :: lines =>
    if char_cap < used + line.length + 1 then out ++ [truncated out.length total]
    else compact_loop char_cap total (out ++ [line]) (used + line.length + 1) lines

def compact_events (env : CompactionEnv) (events : List PyDict) : String :=
  let lines := events.map (summarise_event_line env)
  join "\n" (compact_loop (COMPACTION_TARGET_TOKENS * 4) lines.length [] 0 lines)

structure CompactionResult where
  compaction_id : String
  case_id : String
  events_summarised : ℕ
  summary_text : String
  triggered_at : String
  trigger_reason : String
  template_set_version : String := "1.0.0"
  deriving DecidableEq

/-- `_compaction_id`: the first sixteen digits of the digest. -/
def compaction_id (case_id triggered_at : String) : String :=
  String.ofList ((sha256.hexdigest (case_id ++ "@" ++ triggered_at).toList).toList.take 16)

def run_compaction (env : CompactionEnv) (case_id opened_at : String) (events : List PyDict)
    (now : Instant) (token_estimate : Option ℕ) : Except PyErr (Option CompactionResult) := do
  let trigger ← CompactionTrigger.evaluate env opened_at events.length now token_estimate
  if !trigger.should then return none
  return some
    { compaction_id := compaction_id case_id now.isoformat
      case_id := case_id
      events_summarised := events.length
      summary_text := compact_events env events
      triggered_at := now.isoformat
      trigger_reason := trigger.reason.getD "" }

end asoe
