-- The spatial anchors of a document (gateways/document_extraction.py): for each
-- field a box is selected among the candidates of a recording, its geometry is
-- kept when the text under the box holds the text of the field, and what was
-- made is kept by content address.
import Asoe.Breakers
import Asoe.EvidenceAnchors
import Asoe.Lib.Memo
import Asoe.Lib.Traverse
import Asoe.QuantityRecipes
import Asoe.AnalysisAdapters

open py prog

namespace asoe.extraction

/-! ## Backends -/

/-- The output of the recognition: its candidates and the selected fields. -/
abbrev Recording := PyDict

/-- What proposes a recording; `model_id` may be missing. -/
structure Backend where
  model_id : Option String
  propose : (source_sha256 : String) → (hint : PyDict) → Except PyErr Recording

def CASE_HINT_KEYS : List String := ["case", "recording_case", "order_id"]

/-- `_resolve_case`. -/
def resolve_case (hint : PyDict) : Except PyErr String :=
  match (CASE_HINT_KEYS.map (value_at hint)).find? PyVal.truthy with
  | some value => .ok value.toStr
  | none =>
    .error ⟨"KeyError", "RecordedDocumentExtractionBackend: request carries no case hint "
      ++ "(looked for ('case', 'recording_case', 'order_id'))"⟩

/-- `RecordedDocumentExtractionBackend`, over the recordings in a directory. -/
def recorded_backend (dir : String) (by_case : List (String × Recording)) : Backend where
  model_id := some "recorded-doctr-v0"
  propose := fun _ hint => do
    let case ← resolve_case hint
    match dict.get by_case case with
    | some rec => return rec
    | none =>
      throw ⟨"KeyError", "No recorded document-extraction output for case " ++ py.reprStr case
        ++ " under " ++ dir ++ " (have: "
        ++ (PyVal.list ((by_case.map Prod.fst).mergeSort.map .str)).repr ++ ")"⟩

/-- `LiveDocumentIntelligenceBackend`, of a deployed model. -/
def live_backend (model_id : String) : Backend where
  model_id := some model_id
  propose := fun _ _ =>
    .error ⟨"NotImplementedError", "LiveDocumentIntelligenceBackend.propose: live HTTP transport "
      ++ "runs only against the nightly -m live mark; the red-green "
      ++ "path uses RecordedDocumentExtractionBackend."⟩

/-! ## Boxes -/

/-- `d[key]`. -/
def item (d : PyDict) (key : String) : Except PyErr PyVal :=
  match dict.get d key with
  | some v => .ok v
  | none => .error ⟨"KeyError", py.reprStr key⟩

/-- The id must be that of a candidate. -/
def select_candidate_box (chosen_id : PyVal) : List PyVal → Except PyErr PyDict
  | [] => .error ⟨"ValueError", "chosen_id " ++ chosen_id.repr ++ " is not in the candidate set"⟩
  | c :: candidates => do
    let d ← method_of "get" c
    if (value_at d "candidate_id").eq chosen_id then return d
    else select_candidate_box chosen_id candidates

/-- `int(box["page"])`. -/
def page_of (box : PyDict) : Except PyErr ℤ := do (← item box "page").toInt

/-- `[float(x) for x in box["bbox"]]`. -/
def bbox_of (box : PyDict) : Except PyErr (List PyFloat) := do
  (← iterate (← item box "bbox")).mapM PyVal.toFloat

/-- A text anchor in place of a spatial one. -/
def degraded (anchor : EvidenceAnchor) : EvidenceAnchor :=
  { anchor with
    anchor_source := .text_derived
    page := none
    bbox := none
    confidence := none
    rendition_hash := none
    carries_no_geometry := no_geometry }

section gateway

variable (u : Unicode)

/-- Is the normalised text, if there is any, part of the text under the box? -/
def matches_box (text : String) (rendered_text_under_box : PyVal) : Bool :=
  let needle := normalize u (.str text)
  needle ≠ "" && PyVal.holdsText needle.toList (normalize u rendered_text_under_box).toList

def verify_anchor_geometry (anchor : EvidenceAnchor) (rendered_text_under_box : PyVal) :
    EvidenceAnchor :=
  if anchor.anchor_source ≠ .spatial_extracted then anchor
  else if matches_box u anchor.text rendered_text_under_box then anchor
  else degraded anchor

/-! ## One call -/

/-- A call, with the readings of the clock that the breaker takes. -/
structure Call where
  attachment_id : String
  source_sha256 : String
  hint : PyDict
  rendition_hash : Option String := none
  now : PyFloat
  clock : LLMCircuitBreaker.Readings

def build_spatial_anchor (call : Call) (candidates : List PyVal) (chosen_id : PyVal)
    (rendered_text_under_box : PyVal) (text : String) (match_key : MatchKey)
    (supports_ref label : String) (confidence : PyVal) : Except PyErr EvidenceAnchor := do
  let box ← select_candidate_box chosen_id candidates
  let page ← page_of box
  let bbox ← bbox_of box
  let confidence ← analysis.opt_number confidence
  let anchor : EvidenceAnchor :=
    { attachment_id := call.attachment_id
      anchor_source := .spatial_extracted
      text := text
      match_key := match_key
      supports_kind := .extracted_field
      supports_ref := supports_ref
      label := label
      source_sha256 := call.source_sha256
      page := some page
      bbox := some bbox
      confidence := confidence
      rendition_hash := call.rendition_hash
      carries_no_geometry := by rintro ⟨⟩ }
  return verify_anchor_geometry u anchor rendered_text_under_box

/-- `str(field.get(key, ""))`. -/
def field_text (field : PyVal) (key : String) : Except PyErr String := do
  return (← get_default field key (.str "")).toStr

/-- The anchor of one field. -/
def build_field (call : Call) (candidates : List PyVal) (field : PyVal) (mk : MatchKey) :
    Except PyErr EvidenceAnchor := do
  let chosen_id ← get_attr field "chosen_id"
  let box ← select_candidate_box chosen_id candidates
  build_spatial_anchor u call candidates chosen_id (value_at box "text")
    (← field_text field "text") mk (← field_text field "supports_ref") (← field_text field "label")
    (← get_attr field "confidence")

def candidates_of (recording : Recording) : Except PyErr (List PyVal) :=
  iterate ((value_at recording "candidates").or (.list []))

/-- The anchors of a recording, before they are kept. -/
def build_anchors (call : Call) (recording : Recording) : Except PyErr (List EvidenceAnchor) := do
  let fields ← iterate ((value_at recording "fields").or (.list []))
  let match_keys := gateway_match_keys u (← fields.mapM fun field => field_text field "text")
  if fields.isEmpty then return []
  else
    let candidates ← candidates_of recording
    (fields.zip match_keys).mapM fun p => build_field u call candidates p.1 p.2

/-! ## The gateway -/

/-- The content address: the bytes, the model and the rendition. -/
abbrev CacheKey := String × String × Option String

structure Gateway where
  cache : List (CacheKey × List EvidenceAnchor) := []
  breaker : LLMCircuitBreaker

variable (backend : Backend)

/-- `_model_id`. -/
def model_id (recording : Recording) : String :=
  ((value_at recording "model_id").or (.str (backend.model_id.getD "unknown"))).toStr

def cache_key (call : Call) (recording : Recording) : CacheKey :=
  (call.source_sha256, model_id backend recording, call.rendition_hash)

/-- What is in the cache is copied, and else the anchors are built and kept. -/
def replay_or_build (cache : List (CacheKey × List EvidenceAnchor)) (call : Call)
    (recording : Recording) :
    Except PyErr (List EvidenceAnchor) × List (CacheKey × List EvidenceAnchor) :=
  match dict.get cache (cache_key backend call recording) with
  | some cached => (.ok cached, cache)
  | none =>
    match build_anchors u call recording with
    | .ok anchors => (.ok anchors, dict.set cache (cache_key backend call recording) anchors)
    | .error e => (.error e, cache)

def extract_anchors (gw : Gateway) (call : Call) : Except PyErr (List EvidenceAnchor) × Gateway :=
  match gw.breaker.acquire call.now with
  | (some _, breaker) => (.ok [], { gw with breaker })
  | (none, breaker) =>
    match backend.propose call.source_sha256 call.hint with
    | .error e =>
      if e.kind = "KeyError" then
        (.error e, { gw with breaker := breaker.record_success (.fin 0) call.clock })
      else (.ok [], { gw with breaker := breaker.record_failure (.fin 0) call.clock })
    | .ok recording =>
      let (answer, cache) := replay_or_build u backend gw.cache call recording
      (answer, { cache, breaker := breaker.record_success (.fin 0) call.clock })

end gateway

end asoe.extraction
