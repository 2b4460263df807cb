-- The similar past cases of a record (api/precedents_composer.py): a cosine
-- ranking over vectors that are kept on the record objects, and without an
-- embedder the records of the same intent. The warning in the log is left out.
import Asoe.SummaryTemplates
import Asoe.Lib.PyArith

open py

namespace asoe.precedents

/-! ## Vectors -/

abbrev Vec := List PyFloat

/-- The bits of the integer root below `2 ^ i`. -/
def isqrt (n : ℕ) : ℕ → ℕ → ℕ
  | 0, r => r
  | i + 1, r => isqrt n i (if (r + 2 ^ i) * (r + 2 ^ i) ≤ n then r + 2 ^ i else r)

/-- `math.sqrt`, the root of a finite number rounded to the nearest float. Below the last place of
every float the root is cut to an integer, and a half stands for what is cut off. -/
def sqrt : PyFloat → Except PyErr PyFloat
  | .nan => .ok .nan
  | .inf false => .ok (.inf false)
  | .inf true => .error ⟨"ValueError", "math domain error"⟩
  | .fin q =>
    if q < 0 then .error ⟨"ValueError", "math domain error"⟩
    else
      let scaled : ℚ := q * (4 ^ 600 : ℕ)
      let root := isqrt scaled.floor.toNat 1200 0
      let cut : ℚ := if (root * root : ℕ) = scaled then 0 else 1 / 2
      .ok (PyFloat.ofRat ((root + cut) / (2 ^ 600 : ℕ)))

example : sqrt (.fin 2) = .ok (.fin (6369051672525773 / 4503599627370496)) := by decide +kernel

def cosine (a b : Vec) : Except PyErr PyFloat := do
  let dot := PyFloat.sum ((a.zip b).map fun (x, y) => x.mul y)
  let na ← sqrt (PyFloat.sum (a.map fun x => x.mul x))
  let nb ← sqrt (PyFloat.sum (b.map fun x => x.mul x))
  if na.eq (.fin 0) || nb.eq (.fin 0) then return .fin 0
  match dot.div? (na.mul nb) with
  | some x => return x
  | none => throw ⟨"ZeroDivisionError", "float division by zero"⟩

structure Embedder where
  model : Option String
  /-- `embed([text])[0]`. -/
  embed : String → Except PyErr Vec

/-! ## Records -/

/-- A record object with the fields that the composer reads; `frozen` ones take no vector. -/
structure Record where
  id : String
  frozen : Bool
  parent_case_id : Option String
  account_id : Option String
  account_name : Option String
  event_type : Option String
  updated_at : Option String
  resolved_action : Option String
  final_status : Option String
  resolution_notes : Option String
  projected : ChildRecord
  context_embedding : Option Vec

/-- The record objects by their addresses. -/
abbrev Heap := ℕ → Record

/-- What the functions read beside the records: dates, and instants of ISO texts. -/
structure Calendar where
  from_iso : FromIso
  timestamp : String → Except PyErr ℚ

/-- `a or b`. -/
def or_else (a b : Option String) : Option String := (given a).or b

/-- `if value: parts.append(f"{name}={value}")`. -/
def part (name : String) (value : Option String) : List String :=
  ((given value).map fun v => name ++ "=" ++ v).toList

def render_precedent_query (cal : Calendar) (record : Record) : Option String :=
  let one_liner := (render_template cal.from_iso (some record.projected)).toOption.bind (·.one_liner)
  let parts := part "intent" record.projected.intent
    ++ part "customer" (or_else record.account_name record.account_id)
    ++ part "event" record.event_type ++ part "situation" one_liner
    ++ part "resolution" record.resolution_notes
  if parts = [] then none else some (join " | " parts)

def resolved_at (record : Record) : String := record.updated_at.getD ""

inductive MatchBasis where
  | semantic | correlate
  deriving DecidableEq

structure PrecedentCase where
  record_id : String
  case_id : Option String
  customer_name : Option String
  intent : Option String
  resolved_at : Option String
  outcome : Option String
  outcome_summary : Option String
  similarity : Option PyFloat
  match_basis : MatchBasis
  embedding_model : Option String

structure PrecedentsAnalysis where
  items : List PrecedentCase
  query_basis : String
  generated_at : String

def to_precedent (record : Record) (match_basis : MatchBasis) (similarity : Option PyFloat)
    (embedding_model : Option String) : PrecedentCase where
  record_id := record.id
  case_id := record.parent_case_id
  customer_name := record.account_name
  intent := record.projected.intent
  resolved_at := given (some (resolved_at record))
  outcome := or_else record.resolved_action record.final_status
  outcome_summary := record.resolution_notes
  similarity := similarity
  match_basis := match_basis
  embedding_model := embedding_model

/-! ## The memo -/

def set_embedding (heap : Heap) (ref : ℕ) (vector : Vec) : Heap := fun r =>
  if r = ref ∧ (heap r).frozen = false then { heap r with context_embedding := some vector }
  else heap r

/-- The vector of a record, kept on the object; an empty vector counts as none. -/
def embedding_of (cal : Calendar) (embedder : Embedder) (heap : Heap) (ref : ℕ) :
    Except PyErr (Option Vec) × Heap :=
  match (heap ref).context_embedding.filter fun v => v ≠ [] with
  | some cached => (.ok (some cached), heap)
  | none =>
    match render_precedent_query cal (heap ref) with
    | none => (.ok none, heap)
    | some doc =>
      match embedder.embed doc with
      | .ok vector => (.ok (some vector), set_embedding heap ref vector)
      | .error e => (.error e, heap)

/-! ## The semantic ranking -/

def EMBED_CANDIDATE_CAP : ℕ := 50

/-- `xs[:limit]`. -/
def upto {α : Type} (limit : ℤ) (xs : List α) : List α :=
  if 0 ≤ limit then xs.take limit.toNat else xs.take (xs.length - limit.natAbs)

/-- `_inverted`: a text that is no date stands behind every instant. -/
def inverted (cal : Calendar) (ts : String) : Except PyErr PyFloat :=
  match cal.timestamp ts with
  | .ok q => .ok (.fin (-q))
  | .error e => if e.kind = "ValueError" ∨ e.kind = "TypeError" then .ok (.inf false) else .error e

structure Scored where
  sim : PyFloat
  resolved_at : String
  id : String
  cand : ℕ

/-- The candidates that have a vector, with their similarity. -/
def score (cal : Calendar) (embedder : Embedder) (query_vec : Vec) :
    List ℕ → Heap → Except PyErr (List Scored) × Heap
  | [], heap => (.ok [], heap)
  | ref :: refs, heap =>
    match embedding_of cal embedder heap ref with
    | (.error e, heap) => (.error e, heap)
    | (.ok none, heap) => score cal embedder query_vec refs heap
    | (.ok (some vec), heap) =>
      match cosine query_vec vec with
      | .error e => (.error e, heap)
      | .ok sim =>
        let (rest, heap') := score cal embedder query_vec refs heap
        (rest.map fun rest => ⟨sim, resolved_at (heap ref), (heap ref).id, ref⟩ :: rest, heap')

structure Key where
  similarity : PyFloat
  recency : PyFloat
  id : String

/-- The order of tuples. -/
def Key.before (k l : Key) : Bool :=
  k.similarity.lt l.similarity || (k.similarity.eq l.similarity &&
    (k.recency.lt l.recency || (k.recency.eq l.recency && decide (k.id < l.id))))

def key_of (cal : Calendar) (s : Scored) : Except PyErr Key := do
  return ⟨(s.sim.roundTo 6).neg, ← inverted cal s.resolved_at, s.id⟩

def rank (cal : Calendar) (scored : List Scored) : Except PyErr (List Scored) := do
  let keys ← scored.mapM (key_of cal)
  return sortByKey Key.before (keys.zip scored)

def semantic_row (heap : Heap) (embedder : Embedder) (s : Scored) : PrecedentCase :=
  to_precedent (heap s.cand) .semantic (some (s.sim.roundTo 4)) embedder.model

/-- The newest candidates. -/
def ranked_pool (heap : Heap) (pool : List ℕ) : List ℕ :=
  (sortByKey (fun k l => decide (l < k)) (pool.map fun ref => (resolved_at (heap ref), ref))).take
    EMBED_CANDIDATE_CAP

def semantic_match (cal : Calendar) (heap : Heap) (query_doc : String) (pool : List ℕ)
    (embedder : Embedder) (limit : ℤ) : List PrecedentCase × Heap :=
  match embedder.embed query_doc with
  | .error _ => ([], heap)
  | .ok query_vec =>
    let (scored, heap) := score cal embedder query_vec (ranked_pool heap pool) heap
    match scored >>= rank cal with
    | .error _ => ([], heap)
    | .ok ranked => ((upto limit ranked).map (semantic_row heap embedder), heap)

/-! ## The records of one intent -/

/-- The order of pairs `(_inverted(...), id)`. -/
def sort_by_recency (cal : Calendar) (heap : Heap) (refs : List ℕ) : Except PyErr (List ℕ) := do
  let keys ← refs.mapM fun ref => do
    return Key.mk (.fin 0) (← inverted cal (resolved_at (heap ref))) (heap ref).id
  return sortByKey Key.before (keys.zip refs)

def correlate_match (cal : Calendar) (heap : Heap) (record : ℕ) (pool : List ℕ) (limit : ℤ) :
    Except PyErr (List PrecedentCase) := do
  match given (heap record).projected.intent with
  | none => return []
  | some intent =>
    let account := (heap record).account_id
    let same_intent := pool.filter fun c => (heap c).projected.intent = some intent
    let tier_one := same_intent.filter fun c =>
      (given account).isSome && (heap c).account_id = account
    let tier_two := same_intent.filter fun c => c ∉ tier_one
    let ordered := (← sort_by_recency cal heap tier_one) ++ (← sort_by_recency cal heap tier_two)
    return (upto limit ordered).map fun c => to_precedent (heap c) .correlate none none

/-! ## The composer -/

/-- What the composer makes of the rows of the semantic ranking, if there are any. -/
def compose_with (cal : Calendar) (heap : Heap) (record : ℕ) (query_doc : String) (pool : List ℕ)
    (limit : ℤ) (now : String) (semantic : List PrecedentCase) :
    Except PyErr (Option PrecedentsAnalysis) := do
  let items ← if semantic = [] then correlate_match cal heap record pool limit else pure semantic
  if items = [] then return none else return some ⟨items, query_doc, now⟩

def compose_precedents (cal : Calendar) (heap : Heap) (record : ℕ) (candidates : List ℕ)
    (embedder : Option Embedder) (limit : ℤ) (now : String) :
    Except PyErr (Option PrecedentsAnalysis) × Heap :=
  match render_precedent_query cal (heap record) with
  | none => (.ok none, heap)
  | some query_doc =>
    let pool := candidates.filter fun c => (heap c).id ≠ (heap record).id
    if pool = [] then (.ok none, heap)
    else
      match embedder with
      | none => (compose_with cal heap record query_doc pool limit now [], heap)
      | some embedder =>
        let (items, heap) := semantic_match cal heap query_doc pool embedder limit
        (compose_with cal heap record query_doc pool limit now items, heap)

end asoe.precedents
