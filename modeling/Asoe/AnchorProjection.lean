-- The highlight anchors of a record (api/analysis_adapters.py): one for each
-- extracted entity with a text to locate, which is the spatial anchor of its
-- field where there is one for exactly these bytes.
import Asoe.EvidenceAnchors
import Asoe.AnalysisAdapters
import Asoe.Lib.Grouping

open py prog

namespace asoe.anchors

/-! ## Validation of a spatial anchor -/

def invalid {α : Type} (message : String) : Except PyErr α := .error ⟨"ValidationError", message⟩

/-- A required text of a model. -/
def text_field (d : PyDict) (key : String) : Except PyErr String :=
  match dict.get d key with
  | some (.str s) => .ok s
  | some _ => invalid "Input should be a valid string"
  | none => invalid "Field required"

/-- An integer of a model: a number or a text without a fraction. -/
def int_value (v : PyVal) : Except PyErr ℤ :=
  match v.toInt with
  | .ok n =>
    match v with
    | .float x => if x.eq (.fin n) then .ok n else invalid "Input should be a valid integer"
    | _ => .ok n
  | .error _ => invalid "Input should be a valid integer"

def opt_int : PyVal → Except PyErr (Option ℤ)
  | .none => .ok none
  | v => do return some (← int_value v)

/-- A number of a model. -/
def float_value (v : PyVal) : Except PyErr PyFloat := do
  match ← analysis.opt_number v with
  | some x => return x
  | none => invalid "Input should be a valid number"

def opt_floats : PyVal → Except PyErr (Option (List PyFloat))
  | .none => .ok none
  | .list xs => do return some (← xs.mapM float_value)
  | _ => invalid "Input should be a valid list"

def source_field (d : PyDict) : Except PyErr EvidenceAnchorSource :=
  match dict.get d "anchor_source" with
  | some (.str "text_derived") => .ok .text_derived
  | some (.str "spatial_extracted") => .ok .spatial_extracted
  | _ => invalid "Input should be 'text_derived' or 'spatial_extracted'"

def kind_field (d : PyDict) : Except PyErr EvidenceSupportsKind :=
  match dict.get d "supports_kind" with
  | some (.str "extracted_field") => .ok .extracted_field
  | some (.str "constraint") => .ok .constraint
  | some (.str "decision") => .ok .decision
  | _ => invalid "Input should be 'extracted_field', 'constraint' or 'decision'"

/-- `extra="forbid"`. -/
def no_extra (d : PyDict) (fields : List String) : Except PyErr Unit :=
  if ∀ p ∈ d, p.1 ∈ fields then .ok () else invalid "Extra inputs are not permitted"

def match_key_field (d : PyDict) : Except PyErr MatchKey :=
  match dict.get d "match_key" with
  | some (.dict k) => do
    no_extra k ["normalized_text", "occurrence_index"]
    let normalized_text ← text_field k "normalized_text"
    let occurrence_index ← int_value ((dict.get k "occurrence_index").getD (.int 0))
    return { normalized_text, occurrence_index }
  | _ => invalid "Input should be a valid dictionary or instance of MatchKey"

def ANCHOR_FIELDS : List String :=
  ["attachment_id", "anchor_source", "text", "match_key", "supports_kind", "supports_ref", "label",
    "source_sha256", "page", "bbox", "confidence", "rendition_hash"]

/-- `EvidenceAnchor.model_validate(item)`. -/
def model_validate (item : PyDict) : Except PyErr EvidenceAnchor := do
  no_extra item ANCHOR_FIELDS
  let attachment_id ← text_field item "attachment_id"
  let anchor_source ← source_field item
  let text ← text_field item "text"
  let match_key ← match_key_field item
  let supports_kind ← kind_field item
  let supports_ref ← text_field item "supports_ref"
  let label ← text_field item "label"
  let source_sha256 ← text_field item "source_sha256"
  let page ← opt_int (value_at item "page")
  let bbox ← opt_floats (value_at item "bbox")
  let confidence ← analysis.opt_number (value_at item "confidence")
  let rendition_hash ← analysis.opt_text (value_at item "rendition_hash")
  if h : anchor_source = .text_derived →
      page = none ∧ bbox = none ∧ confidence = none ∧ rendition_hash = none then
    return { attachment_id, anchor_source, text, match_key, supports_kind, supports_ref, label,
             source_sha256, page, bbox, confidence, rendition_hash, carries_no_geometry := h }
  else
    invalid ("Value error, text_derived anchors carry no geometry (ADR-043 §2.2); "
      ++ "spatial coordinates require anchor_source='spatial_extracted' and the ADR-045 verifier.")

/-! ## Entities -/

def ANCHOR_LABELS : List (String × String) :=
  [("customer_po", "PO number"), ("po", "PO number"), ("po_number", "PO number"),
    ("order_ref", "Order number"), ("order_id", "Order number"), ("customer", "Customer"),
    ("ship_to", "Ship-to"), ("requested_date", "Requested date"), ("date", "Date"),
    ("material", "Material"), ("qty", "Quantity"), ("quantity", "Quantity"),
    ("invoice_ref", "Invoice"), ("invoice", "Invoice number"), ("issue", "Reported issue"),
    ("sender", "Sender"), ("topic", "Topic")]

/-- `a or b`. -/
def or_text (a b : String) : String := if a = "" then b else a

def anchor_label (u : Unicode) (key kind : String) : String :=
  match (dict.get ANCHOR_LABELS key).or (dict.get ANCHOR_LABELS kind) with
  | some label => label
  | none =>
    let spaced := (or_text (or_text key kind) "evidence").toList.map fun c =>
      if c = '_' then ' ' else c
    match stripChars spaced with
    | [] => "Evidence"
    | c :: cs => u.upper (String.ofList [c]) ++ String.ofList cs

/-- An extracted entity with a text to locate. -/
structure Entity where
  text : String
  key : String
  kind : String
  ref : String

/-- A text that is not blank. -/
def locatable_text : PyVal → Option String
  | .str s => if strip s = "" then none else some s
  | _ => none

/-- The span of an entity, or else its value, must be a text. -/
def prepare (ent : PyVal) : Option Entity :=
  match ent with
  | .dict d =>
    ((locatable_text (value_at d "source_span")).or (locatable_text (value_at d "value"))).map
      fun text =>
        let key := ((value_at d "key").or (.str "")).toStr
        let kind := ((value_at d "kind").or (.str "")).toStr
        { text, key, kind
          ref := if key = "" then "entities." ++ or_text kind "value" else "order_entry." ++ key }
  | _ => none

/-- The list under a key, if it is one. -/
def list_at (d : PyDict) (key : String) : Option (List PyVal) :=
  match value_at d key with
  | .list xs => some xs
  | _ => none

def locatable_entities (enrichment : PyDict) : List Entity :=
  ((list_at enrichment "extracted_entities").getD []).filterMap prepare

/-- A manifest entry of stored bytes. -/
def stored_entry : PyVal → Option PyDict
  | .dict d =>
    if (value_at d "sha256").truthy ∧ (value_at d "attachment_id").truthy then some d else none
  | _ => none

/-- The first attachment whose bytes are held. -/
def stored_attachment (enrichment : PyDict) : Option PyDict :=
  (dict_at enrichment "email_source_context").bind fun src =>
    ((list_at src "attachment_manifest").getD []).findSome? stored_entry

/-! ## Projection -/

/-- The spatial anchor that an item gives for these bytes. -/
def verified (attachment_id sha256 : String) (item : PyVal) : Option EvidenceAnchor :=
  match item with
  | .dict d =>
    if (value_at d "anchor_source").eq (.str "spatial_extracted") = false ∨
        value_at d "bbox" = .none ∨ (value_at d "attachment_id").eq (.str attachment_id) = false ∨
        (value_at d "source_sha256").eq (.str sha256) = false then none
    else (model_validate d).toOption
  | _ => none

/-- The spatial anchors of these bytes by the fields that they support: the
last one of a field stays. -/
def verified_spatial_anchors (enrichment : PyDict) (attachment_id sha256 : String) :
    List (String × EvidenceAnchor) :=
  (((list_at enrichment "spatial_anchors").getD []).filterMap (verified attachment_id sha256)).foldl
    (fun out a => dict.set out a.supports_ref a) []

section build

variable (u : Unicode)

def text_anchor (attachment_id sha256 : String) (ent : Entity) (mk : MatchKey) :
    EvidenceAnchor where
  attachment_id := attachment_id
  anchor_source := .text_derived
  text := ent.text
  match_key := mk
  supports_kind := .extracted_field
  supports_ref := ent.ref
  label := anchor_label u ent.key ent.kind
  source_sha256 := sha256
  carries_no_geometry := no_geometry

/-- `str(stored.get(key))`. -/
def stored_text (stored : PyDict) (key : String) : String := (value_at stored key).toStr

def build_evidence_anchors (record : ChildRecord) : List EvidenceAnchor :=
  let enrichment := record.enrichment_context.getD []
  match stored_attachment enrichment with
  | none => []
  | some stored =>
    let prepared := locatable_entities enrichment
    let keys := compute_match_keys u (prepared.map Entity.text)
    let sha := stored_text stored "sha256"
    let att_id := stored_text stored "attachment_id"
    let spatial_by_ref := verified_spatial_anchors enrichment att_id sha
    (prepared.zip keys).map fun p =>
      match dict.get spatial_by_ref p.1.ref with
      | some spatial => spatial
      | none => text_anchor u att_id sha p.1 p.2

end build

end asoe.anchors
