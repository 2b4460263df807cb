-- The anchors of one gateway over a sequence of calls
-- (gateways/document_extraction.py): a call is answered with what the first
-- call of its content address made, and every geometry is that of a candidate.
import Asoe.DocumentExtraction
import Asoe.Lib.Runs

open py prog

namespace asoe.extraction

/-! ## The parts of a text -/

theorem holdsText_iff (part cs : List Char) : PyVal.holdsText part cs = true ↔ part <:+: cs := by
  induction cs with
  | nil => simp [PyVal.holdsText, List.infix_nil]
  | cons c cs ih =>
    rw [PyVal.holdsText, Bool.or_eq_true, ih, List.isPrefixOf_iff_prefix, List.infix_cons_iff]

theorem matches_box_iff (u : Unicode) (text : String) (rendered : PyVal) :
    matches_box u text rendered = true ↔ normalize u (.str text) ≠ "" ∧
      (normalize u (.str text)).toList <:+: (normalize u rendered).toList := by
  simp [matches_box, holdsText_iff]

/-! ## One anchor -/

/-- The anchor has the page and the box of a candidate of the recording, whose
normalised text holds that of the anchor. -/
def ShowsCandidate (u : Unicode) (recording : Recording) (a : EvidenceAnchor) : Prop :=
  ∃ candidates box page bbox, candidates_of recording = .ok candidates ∧
    PyVal.dict box ∈ candidates ∧ page_of box = .ok page ∧ bbox_of box = .ok bbox ∧
    a.page = some page ∧ a.bbox = some bbox ∧
    (normalize u (.str a.text)).toList <:+: (normalize u (value_at box "text")).toList

/-- What a call makes of a recording. -/
structure MadeFor (u : Unicode) (call : Call) (recording : Recording) (a : EvidenceAnchor) :
    Prop where
  attachment : a.attachment_id = call.attachment_id
  bytes : a.source_sha256 = call.source_sha256
  geometry : a.anchor_source = .spatial_extracted →
    a.rendition_hash = call.rendition_hash ∧ ShowsCandidate u recording a
  no_geometry : a.anchor_source ≠ .spatial_extracted →
    a.page = none ∧ a.bbox = none ∧ a.confidence = none ∧ a.rendition_hash = none

theorem selected_mem (chosen_id : PyVal) (candidates : List PyVal) :
    returns (select_candidate_box chosen_id candidates) fun box => .dict box ∈ candidates := by
  induction candidates with
  | nil => exact returns_error _
  | cons c candidates ih =>
    refine returns_bind fun d hd => ?_
    have hc : c = .dict d := by
      cases c with
      | dict d' => rw [← Except.ok.inj hd]
      | _ => cases hd
    dsimp only
    split
    · exact (returns_pure _).mpr (hc ▸ List.mem_cons_self)
    · exact returns_mono ih fun box hbox => List.mem_cons_of_mem _ hbox

section gateway

variable {u : Unicode} {backend : Backend}

theorem build_field_made (call : Call) {recording : Recording} {candidates : List PyVal}
    (hcandidates : candidates_of recording = .ok candidates) (field : PyVal) (mk : MatchKey) :
    returns (build_field u call candidates field mk) (MadeFor u call recording) := by
  refine returns_bind fun chosen_id _ => returns_bind fun box hbox => returns_bind fun text _ =>
    returns_bind fun supports_ref _ => returns_bind fun label _ => returns_bind fun confidence _ =>
    ?_
  dsimp only
  unfold build_spatial_anchor
  rw [ok_bind hbox]
  refine returns_bind fun page hpage => returns_bind fun bbox hbbox =>
    returns_bind fun confidence _ => (returns_pure _).mpr ?_
  have hmem := selected_mem chosen_id candidates box hbox
  unfold verify_anchor_geometry
  dsimp only
  rw [if_neg (not_not.mpr rfl)]
  split
  · rename_i hmatch
    refine ⟨rfl, rfl, fun _ => ⟨rfl, ?_⟩, fun h => absurd rfl h⟩
    exact ⟨candidates, box, page, bbox, hcandidates, hmem, hpage, hbbox, rfl, rfl,
      ((matches_box_iff _ _ _).mp hmatch).2⟩
  · refine ⟨rfl, rfl, ?_, fun _ => ⟨rfl, rfl, rfl, rfl⟩⟩
    rintro ⟨⟩

theorem build_anchors_made (call : Call) (recording : Recording) :
    returns (build_anchors u call recording) fun anchors =>
      ∀ a ∈ anchors, MadeFor u call recording a := by
  refine returns_bind fun fields _ => returns_bind fun texts _ => ?_
  split
  · exact (returns_pure _).mpr fun a ha => absurd ha List.not_mem_nil
  · refine returns_bind fun candidates hcandidates => ?_
    intro anchors hanchors a ha
    obtain ⟨p, -, hp⟩ := source_of_mapM hanchors a ha
    exact build_field_made call hcandidates p.1 p.2 a hp

theorem build_anchors_congr {call call' : Call} (recording : Recording)
    (hattachment : call.attachment_id = call'.attachment_id)
    (hbytes : call.source_sha256 = call'.source_sha256)
    (hrendition : call.rendition_hash = call'.rendition_hash) :
    build_anchors u call recording = build_anchors u call' recording := by
  obtain ⟨attachment_id, source_sha256, hint, rendition_hash, now, clock⟩ := call
  obtain ⟨attachment_id', source_sha256', hint', rendition_hash', now', clock'⟩ := call'
  dsimp only at hattachment hbytes hrendition
  subst hattachment hbytes hrendition
  rfl

/-! ## A sequence of calls -/

variable (u backend)

/-- The breaker after a call. -/
def breaker_after (breaker : LLMCircuitBreaker) (call : Call) : LLMCircuitBreaker :=
  match breaker.acquire call.now with
  | (some _, breaker) => breaker
  | (none, breaker) =>
    match backend.propose call.source_sha256 call.hint with
    | .error e =>
      if e.kind = "KeyError" then breaker.record_success (.fin 0) call.clock
      else breaker.record_failure (.fin 0) call.clock
    | .ok _ => breaker.record_success (.fin 0) call.clock

/-- The recording that is proposed for a call, when the breaker grants it. -/
def proposed (breaker : LLMCircuitBreaker) (call : Call) : Option Recording :=
  if (breaker.acquire call.now).1.isNone then
    (backend.propose call.source_sha256 call.hint).toOption
  else none

/-- The answer to a call without a recording. -/
def refusal (breaker : LLMCircuitBreaker) (call : Call) : Except PyErr (List EvidenceAnchor) :=
  if (breaker.acquire call.now).1.isNone then
    match backend.propose call.source_sha256 call.hint with
    | .error e => if e.kind = "KeyError" then .error e else .ok []
    | .ok _ => .ok []
  else .ok []

/-- The calls that were granted, with their recordings. -/
def granted (breaker : LLMCircuitBreaker) : List Call → List (Call × Recording)
  | [] => []
  | call :: calls =>
    ((proposed backend breaker call).map fun r => (call, r)).toList ++
      granted (breaker_after backend breaker call) calls

def address (p : Call × Recording) : CacheKey := cache_key backend p.1 p.2

def made (p : Call × Recording) : Except PyErr (List EvidenceAnchor) := build_anchors u p.1 p.2

/-- The answer to a call. -/
def answer (gw : Gateway) (call : Call) : Except PyErr (List EvidenceAnchor) :=
  (extract_anchors u backend gw call).1

/-- The gateway after some calls. -/
def after (gw : Gateway) (calls : List Call) : Gateway :=
  runs.run (fun call gw => (extract_anchors u backend gw call).2) gw calls

variable {u backend}

theorem replay_or_build_eq (cache : List (CacheKey × List EvidenceAnchor)) (call : Call)
    (recording : Recording) : replay_or_build u backend cache call recording =
      memo.ask (address backend) (made u) cache (call, recording) := by
  unfold replay_or_build memo.ask address made
  dsimp only
  cases dict.get cache (cache_key backend call recording) with
  | some cached => rfl
  | none =>
    cases build_anchors u call recording with
    | ok anchors => rfl
    | error e => rfl

theorem extract_anchors_proposed {gw : Gateway} {call : Call} {recording : Recording}
    (h : proposed backend gw.breaker call = some recording) :
    extract_anchors u backend gw call =
      ((memo.ask (address backend) (made u) gw.cache (call, recording)).1,
        ⟨(memo.ask (address backend) (made u) gw.cache (call, recording)).2,
          breaker_after backend gw.breaker call⟩) := by
  unfold proposed at h
  unfold extract_anchors breaker_after
  rcases hacquire : gw.breaker.acquire call.now with ⟨refused, breaker⟩
  rw [hacquire] at h
  cases refused with
  | some e => cases h
  | none =>
    cases hpropose : backend.propose call.source_sha256 call.hint with
    | error e =>
      rw [hpropose] at h
      cases h
    | ok r =>
      rw [hpropose] at h
      cases h
      dsimp only
      rw [replay_or_build_eq]

theorem extract_anchors_refused {gw : Gateway} {call : Call}
    (h : proposed backend gw.breaker call = none) :
    extract_anchors u backend gw call =
      (refusal backend gw.breaker call,
        { gw with breaker := breaker_after backend gw.breaker call }) := by
  unfold proposed at h
  unfold extract_anchors breaker_after refusal
  rcases hacquire : gw.breaker.acquire call.now with ⟨refused, breaker⟩
  rw [hacquire] at h
  cases refused with
  | some e => rfl
  | none =>
    cases hpropose : backend.propose call.source_sha256 call.hint with
    | error e =>
      dsimp only
      split
      · rfl
      · rfl
    | ok r =>
      rw [hpropose] at h
      cases h

theorem after_eq (gw : Gateway) (calls : List Call) : after u backend gw calls =
    ⟨memo.after (address backend) (made u) gw.cache (granted backend gw.breaker calls),
      calls.foldl (breaker_after backend) gw.breaker⟩ := by
  induction calls generalizing gw with
  | nil => rfl
  | cons call calls ih =>
    have hstep : after u backend gw (call :: calls) =
        after u backend (extract_anchors u backend gw call).2 calls := rfl
    rw [hstep, ih, granted, List.foldl_cons]
    cases hproposed : proposed backend gw.breaker call with
    | none =>
      rw [extract_anchors_refused hproposed]
      rfl
    | some recording =>
      rw [extract_anchors_proposed hproposed]
      rfl

theorem answer_fresh {breaker : LLMCircuitBreaker} {call : Call} {recording : Recording}
    (h : proposed backend breaker call = some recording) :
    answer u backend { breaker := breaker } call = made u (call, recording) := by
  rw [answer, extract_anchors_proposed h]
  exact memo.ask_after (address backend) (made u) [] (call, recording)

theorem answer_after {breaker : LLMCircuitBreaker} {calls : List Call} {call : Call}
    {recording : Recording}
    (h : proposed backend (after u backend { breaker := breaker } calls).breaker call =
      some recording) :
    answer u backend (after u backend { breaker := breaker } calls) call =
      made u (memo.source (address backend) (made u) (granted backend breaker calls)
        (call, recording)) := by
  rw [answer, extract_anchors_proposed h, after_eq]
  exact memo.ask_after (address backend) (made u) _ (call, recording)

theorem made_congr {p q : Call × Recording} (hattachment : p.1.attachment_id = q.1.attachment_id)
    (haddress : address backend p = address backend q) (hrecording : p.2 = q.2) :
    made u p = made u q := by
  obtain ⟨hbytes, hrest⟩ := Prod.mk.inj haddress
  obtain ⟨-, hrendition⟩ := Prod.mk.inj hrest
  unfold made
  rw [hrecording]
  exact build_anchors_congr q.2 hattachment hbytes hrendition

/-! ## Replays -/

/-- An anchor without the attachment that it is bound to. -/
def unattached (a : EvidenceAnchor) : EvidenceAnchor := { a with attachment_id := "" }

/-- Among the calls of the content address, each has this attachment. -/
def SameAttachment (backend : Backend) (past : List (Call × Recording)) (p : Call × Recording) :
    Prop :=
  ∀ q ∈ past, address backend q = address backend p → q.1.attachment_id = p.1.attachment_id

/-- The answer to a call with a recording, after the granted calls `past`: it
is that of the first call of its content address which did not fail. -/
structure Replays (u : Unicode) (backend : Backend) (past : List (Call × Recording))
    (p src : Call × Recording) (answer : Except PyErr (List EvidenceAnchor)) : Prop where
  source : src = memo.source (address backend) (made u) past p
  granted : src = p ∨ src ∈ past
  same_address : address backend src = address backend p
  anchors : answer.map (List.map unattached) = (made u src).map (List.map unattached)
  exact : SameAttachment backend past p →
    (∀ q ∈ past, address backend q = address backend p → q.2 = p.2) → answer = made u p
  bound : ∀ anchors, answer = .ok anchors → ∀ a ∈ anchors,
    a.source_sha256 = p.1.source_sha256 ∧
    (SameAttachment backend past p → a.attachment_id = p.1.attachment_id) ∧
    (a.anchor_source = .spatial_extracted →
      a.rendition_hash = p.1.rendition_hash ∧ ShowsCandidate u src.2 a) ∧
    (a.anchor_source ≠ .spatial_extracted →
      a.page = none ∧ a.bbox = none ∧ a.confidence = none ∧ a.rendition_hash = none)

theorem replays_of_source (past : List (Call × Recording)) (p : Call × Recording) :
    Replays u backend past p (memo.source (address backend) (made u) past p)
      (made u (memo.source (address backend) (made u) past p)) := by
  have hcases := memo.source_cases (address backend) (made u) past p
  have haddress := memo.key_source (address backend) (made u) past p
  generalize hsrc : memo.source (address backend) (made u) past p = src at hcases haddress ⊢
  have hattached : SameAttachment backend past p → src.1.attachment_id = p.1.attachment_id := by
    intro hsame
    rcases hcases with rfl | ⟨hmem, -⟩
    · rfl
    · exact hsame src hmem haddress
  obtain ⟨hbytes, hrest⟩ := Prod.mk.inj haddress
  obtain ⟨-, hrendition⟩ := Prod.mk.inj hrest
  refine ⟨hsrc.symm, hcases.imp_right And.left, haddress, rfl, ?_, ?_⟩
  · intro hsame hrecordings
    have hrecording : src.2 = p.2 := by
      rcases hcases with rfl | ⟨hmem, -⟩
      · rfl
      · exact hrecordings src hmem haddress
    exact made_congr (hattached hsame) haddress hrecording
  · intro anchors hanchors a ha
    have hmade := build_anchors_made src.1 src.2 anchors hanchors a ha
    refine ⟨hmade.bytes.trans hbytes, fun hsame => hmade.attachment.trans (hattached hsame),
      fun hspatial => ?_, hmade.no_geometry⟩
    obtain ⟨hhash, hshows⟩ := hmade.geometry hspatial
    exact ⟨hhash.trans hrendition, hshows⟩

/-- For every sequence of calls: a call without a recording is answered as a
fresh gateway does, and any other one as the first call of its content address
which did not fail is answered by a fresh gateway, whatever its own hint. -/
theorem each_call_replays_the_first_of_its_content_address (u : Unicode) (backend : Backend)
    (breaker : LLMCircuitBreaker) (calls : List Call) (call : Call) :
    let gw := after u backend { breaker := breaker } calls
    (proposed backend gw.breaker call = none →
      answer u backend gw call = answer u backend { breaker := gw.breaker } call) ∧
    ∀ recording, proposed backend gw.breaker call = some recording →
      answer u backend { breaker := gw.breaker } call = made u (call, recording) ∧
      ∃ src, Replays u backend (granted backend breaker calls) (call, recording) src
        (answer u backend gw call) := by
  intro gw
  constructor
  · intro hnone
    have hfresh : extract_anchors u backend { breaker := gw.breaker } call = _ :=
      extract_anchors_refused hnone
    rw [answer, answer, extract_anchors_refused hnone, hfresh]
  · intro recording hsome
    refine ⟨answer_fresh hsome, memo.source (address backend) (made u)
      (granted backend breaker calls) (call, recording), ?_⟩
    have hanswer : answer u backend gw call = _ := answer_after hsome
    rw [hanswer]
    exact replays_of_source _ _

end gateway

/-- A recording of one field over one candidate. -/
def recordingOf (text : String) (page : ℤ) : Recording :=
  [("model_id", .str "recorded-doctr-v0"),
    ("candidates", .list [.dict [("candidate_id", .int 1), ("page", .int page),
      ("bbox", .list [.int 0, .int 0, .int 1, .int 1]), ("text", .str text)]]),
    ("fields", .list [.dict [("supports_ref", .str "order_entry.customer_po"), ("text", .str text),
      ("label", .str "PO number"), ("chosen_id", .int 1)]])]

def twoCases : Backend :=
  recorded_backend "recordings" [("a", recordingOf "po 1" 1), ("b", recordingOf "po 2" 2)]

def callOf (case : String) : Call where
  attachment_id := "att-1"
  source_sha256 := "f1"
  hint := [("case", .str case)]
  now := .fin 0
  clock := ⟨.fin 0, .fin 0, .fin 0⟩

/-- The texts and pages of an answer. -/
def shownIn (x : Except PyErr (List EvidenceAnchor)) : List (String × Option ℤ) :=
  (x.toOption.getD []).map fun a => (a.text, a.page)

/-- After a call for one case, a call for another case of the same bytes is
answered with the anchors of the first. -/
theorem another_hint_is_answered_from_the_cache :
    shownIn (answer .unchanged twoCases (after .unchanged twoCases { breaker := {} } [callOf "a"])
      (callOf "b")) = [("po 1", some 1)] ∧
    shownIn (answer .unchanged twoCases { breaker := {} } (callOf "b")) = [("po 2", some 2)] := by
  decide +kernel

end asoe.extraction
