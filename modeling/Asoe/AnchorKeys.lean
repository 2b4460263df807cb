-- The match keys of the anchors of a record (api/analysis_adapters.py,
-- gateways/document_extraction.py): every anchor is bound to the stored bytes
-- and to its field; the keys are distinct just when the keys of the spatial
-- anchors in use stay apart.
import Asoe.AnchorProjection
import Asoe.Lib.Prog

open py prog

namespace asoe.anchors

/-! ## What is validated -/

theorem text_field_eq {d : PyDict} {key s : String} (h : text_field d key = .ok s) :
    value_at d key = .str s := by
  unfold text_field at h
  rw [value_at]
  split at h
  · rename_i s' hget
    rw [hget, ← Except.ok.inj h]
    rfl
  · cases h
  · cases h

theorem model_validate_texts (item : PyDict) : returns (model_validate item) fun a =>
    value_at item "attachment_id" = .str a.attachment_id ∧
      value_at item "source_sha256" = .str a.source_sha256 ∧
      source_field item = .ok a.anchor_source := by
  unfold model_validate
  refine returns_bind fun _ _ => returns_bind fun attachment_id hatt =>
    returns_bind fun anchor_source hsource => returns_bind fun _ _ => returns_bind fun _ _ =>
    returns_bind fun _ _ => returns_bind fun _ _ => returns_bind fun _ _ =>
    returns_bind fun sha hsha => returns_bind fun _ _ => returns_bind fun _ _ =>
    returns_bind fun _ _ => returns_bind fun _ _ => ?_
  dsimp only
  split
  · exact (returns_pure _).mpr ⟨text_field_eq hatt, text_field_eq hsha, hsource⟩
  · exact returns_error _

/-- An anchor over these bytes. -/
structure Bound (attachment_id sha256 : String) (a : EvidenceAnchor) : Prop where
  attachment : a.attachment_id = attachment_id
  bytes : a.source_sha256 = sha256

/-- A spatial anchor over these bytes. -/
structure SpatialBound (attachment_id sha256 : String) (a : EvidenceAnchor) : Prop where
  bound : Bound attachment_id sha256 a
  spatial : a.anchor_source = .spatial_extracted

theorem verified_bound {attachment_id sha256 : String} {item : PyVal} {a : EvidenceAnchor}
    (h : verified attachment_id sha256 item = some a) : SpatialBound attachment_id sha256 a := by
  unfold verified at h
  split at h
  · rename_i d
    split at h
    · cases h
    · rename_i hchecks
      rw [not_or, not_or, not_or, Bool.not_eq_false, Bool.not_eq_false, Bool.not_eq_false,
        PyVal.eq_str, PyVal.eq_str, PyVal.eq_str] at hchecks
      obtain ⟨hsource, -, hatt, hsha⟩ := hchecks
      cases hvalid : model_validate d with
      | error e =>
        rw [hvalid] at h
        cases h
      | ok b =>
        rw [hvalid] at h
        cases h
        obtain ⟨hatt', hsha', hsource'⟩ := model_validate_texts d a hvalid
        rw [hatt] at hatt'
        rw [hsha] at hsha'
        rw [source_field, PyVal.ofOption_eq_str.mp hsource] at hsource'
        exact ⟨⟨(PyVal.str.inj hatt').symm, (PyVal.str.inj hsha').symm⟩,
          (Except.ok.inj hsource').symm⟩
  · cases h

theorem get_by_ref {xs : List EvidenceAnchor} {out : List (String × EvidenceAnchor)}
    {P : EvidenceAnchor → Prop} (hxs : ∀ a ∈ xs, P a)
    (hout : ∀ ref a, dict.get out ref = some a → a.supports_ref = ref ∧ P a) :
    ∀ ref a, dict.get (xs.foldl (fun out a => dict.set out a.supports_ref a) out) ref = some a →
      a.supports_ref = ref ∧ P a := by
  induction xs generalizing out with
  | nil => exact hout
  | cons x xs ih =>
    refine ih (fun a ha => hxs a (List.mem_cons_of_mem _ ha)) fun ref a hget => ?_
    by_cases href : ref = x.supports_ref
    · subst href
      rw [dict.get_set_self] at hget
      rw [← Option.some.inj hget]
      exact ⟨rfl, hxs x List.mem_cons_self⟩
    · rw [dict.get_set_of_ne _ _ href] at hget
      exact hout ref a hget

theorem spatial_bound {enrichment : PyDict} {attachment_id sha256 ref : String}
    {a : EvidenceAnchor}
    (h : dict.get (verified_spatial_anchors enrichment attachment_id sha256) ref = some a) :
    a.supports_ref = ref ∧ SpatialBound attachment_id sha256 a := by
  refine get_by_ref ?_ ?_ ref a h
  · intro b hb
    obtain ⟨item, -, hitem⟩ := List.mem_filterMap.mp hb
    exact verified_bound hitem
  · intro ref b hb
    cases hb

/-! ## One anchor for each entity -/

section record

variable (u : Unicode) (spatial : List (String × EvidenceAnchor)) (attachment_id sha256 : String)

/-- The anchor of an entity with its key. -/
def anchor_of (p : Entity × MatchKey) : EvidenceAnchor :=
  (dict.get spatial p.1.ref).getD (text_anchor u attachment_id sha256 p.1 p.2)

/-- The entities with their keys: each normalised text with the number of
earlier entities of the same normalised text. -/
def keyed (ents : List Entity) : List (Entity × MatchKey) :=
  ents.zip (occurrences [] (ents.map fun ent => normalize_match_text u (.str ent.text)))

/-- The keys of the spatial anchors in use. -/
def spatial_keys (ents : List Entity) : List MatchKey :=
  ents.filterMap fun ent => (dict.get spatial ent.ref).map EvidenceAnchor.match_key

/-- The keys of the entities without a spatial anchor. -/
def text_keys (ents : List Entity) : List MatchKey :=
  ((keyed u ents).filter fun p => (dict.get spatial p.1.ref).isNone).map Prod.snd

theorem length_keys (ents : List Entity) : ents.length =
    (occurrences [] (ents.map fun ent => normalize_match_text u (.str ent.text))).length := by
  rw [← numbered_eq, length_numbered, List.length_map]

theorem keyed_fst (ents : List Entity) : (keyed u ents).map Prod.fst = ents :=
  List.map_fst_zip (length_keys u ents).le

theorem keyed_snd_nodup (ents : List Entity) : ((keyed u ents).map Prod.snd).Nodup := by
  rw [keyed, List.map_snd_zip (length_keys u ents).ge, ← numbered_eq]
  exact numbered_nodup _

/-- The keys of the anchors are those of the spatial anchors in use and those
of the other entities. -/
theorem anchor_keys_perm (ents : List Entity) :
    (((keyed u ents).map (anchor_of u spatial attachment_id sha256)).map
      EvidenceAnchor.match_key).Perm
      (spatial_keys spatial ents ++ text_keys u spatial ents) := by
  have hsplit := (List.filter_append_perm
    (fun p : Entity × MatchKey => (dict.get spatial p.1.ref).isSome) (keyed u ents)).symm.map
      fun p => (anchor_of u spatial attachment_id sha256 p).match_key
  rw [List.map_append] at hsplit
  rw [List.map_map]
  refine hsplit.trans (List.Perm.of_eq ?_)
  congr 1
  · conv_rhs => rw [spatial_keys, ← keyed_fst u ents, List.filterMap_map]
    induction keyed u ents with
    | nil => rfl
    | cons p ps ih =>
      cases hget : dict.get spatial p.1.ref with
      | none => simpa [hget] using ih
      | some a => simpa [hget, anchor_of] using ih
  · rw [text_keys]
    induction keyed u ents with
    | nil => rfl
    | cons p ps ih =>
      cases hget : dict.get spatial p.1.ref with
      | none => simpa [hget, anchor_of, text_anchor] using ih
      | some a => simpa [hget] using ih

theorem anchor_keys_nodup_iff (ents : List Entity) :
    (((keyed u ents).map (anchor_of u spatial attachment_id sha256)).map
      EvidenceAnchor.match_key).Nodup ↔
      (spatial_keys spatial ents).Nodup ∧
        ∀ k ∈ spatial_keys spatial ents, k ∉ text_keys u spatial ents := by
  have htext : (text_keys u spatial ents).Nodup :=
    (keyed_snd_nodup u ents).sublist (List.filter_sublist.map Prod.snd)
  rw [(anchor_keys_perm u spatial attachment_id sha256 ents).nodup_iff, List.nodup_append']
  rw [and_iff_right htext]
  rfl

end record

/-! ## The record -/

/-- The anchor of an entity: it is bound to the stored bytes and supports the
field of the entity, whose text it has when it is derived from text. -/
structure AnchorFor (attachment_id sha256 : String) (ent : Entity) (a : EvidenceAnchor) :
    Prop where
  bound : Bound attachment_id sha256 a
  field : a.supports_ref = ent.ref
  text : a.anchor_source = .text_derived → a.text = ent.text

/-- One anchor for each locatable entity in order, each for the stored bytes. -/
def OneForEach (stored enrichment : PyDict) (anchors : List EvidenceAnchor) : Prop :=
  List.Forall₂ (AnchorFor (stored_text stored "attachment_id") (stored_text stored "sha256"))
    (locatable_entities enrichment) anchors

/-- The spatial anchors of a record by their fields. -/
def spatial_of (stored enrichment : PyDict) : List (String × EvidenceAnchor) :=
  verified_spatial_anchors enrichment (stored_text stored "attachment_id")
    (stored_text stored "sha256")

/-- The spatial anchors in use have different keys, and none of them has the
key of an entity without a spatial anchor. -/
structure KeysApart (u : Unicode) (stored enrichment : PyDict) : Prop where
  spatial : (spatial_keys (spatial_of stored enrichment) (locatable_entities enrichment)).Nodup
  text : ∀ k ∈ spatial_keys (spatial_of stored enrichment) (locatable_entities enrichment),
    k ∉ text_keys u (spatial_of stored enrichment) (locatable_entities enrichment)

theorem build_eq (u : Unicode) {record : ChildRecord} {stored : PyDict}
    (h : stored_attachment (record.enrichment_context.getD []) = some stored) :
    build_evidence_anchors u record =
      (keyed u (locatable_entities (record.enrichment_context.getD []))).map
        (anchor_of u (spatial_of stored (record.enrichment_context.getD []))
          (stored_text stored "attachment_id") (stored_text stored "sha256")) := by
  unfold build_evidence_anchors
  dsimp only
  rw [h]
  dsimp only
  rw [keyed, compute_match_keys, numbered_eq, List.map_map]
  refine List.map_congr_left fun p _ => ?_
  unfold anchor_of spatial_of
  cases dict.get (verified_spatial_anchors (record.enrichment_context.getD [])
    (stored_text stored "attachment_id") (stored_text stored "sha256")) p.1.ref with
  | some a => rfl
  | none => rfl

theorem anchor_of_for (u : Unicode) (stored enrichment : PyDict) (p : Entity × MatchKey) :
    AnchorFor (stored_text stored "attachment_id") (stored_text stored "sha256") p.1
      (anchor_of u (spatial_of stored enrichment) (stored_text stored "attachment_id")
        (stored_text stored "sha256") p) := by
  unfold anchor_of
  cases hget : dict.get (spatial_of stored enrichment) p.1.ref with
  | none => exact ⟨⟨rfl, rfl⟩, rfl, fun _ => rfl⟩
  | some a =>
    obtain ⟨hfield, hbound, hspatial⟩ := spatial_bound hget
    refine ⟨hbound, hfield, fun htext => ?_⟩
    rw [Option.getD_some, hspatial] at htext
    cases htext

theorem one_for_each (u : Unicode) {record : ChildRecord} {stored : PyDict}
    (h : stored_attachment (record.enrichment_context.getD []) = some stored) :
    OneForEach stored (record.enrichment_context.getD []) (build_evidence_anchors u record) := by
  unfold OneForEach
  rw [build_eq u h, List.forall₂_map_right_iff]
  conv => lhs; rw [← keyed_fst u (locatable_entities (record.enrichment_context.getD []))]
  rw [List.forall₂_map_left_iff, List.forall₂_same]
  exact fun p _ => anchor_of_for u stored _ p

theorem gateway_match_keys_eq_iff (u : Unicode) (texts : List String) :
    gateway_match_keys u texts = compute_match_keys u texts ↔
      ∀ t ∈ texts, u.casefold (collapse (without_soft_hyphens (u.nfkc t))) =
        u.casefold (collapse t) := by
  rw [gateway_match_keys, compute_match_keys, numbered_inj, List.map_inj_left]
  rfl

/-- The anchors are always bound; their keys are distinct and the gateway
computes the keys of the adapter just when the spatial keys stay apart, and each
text is unchanged by NFKC and by dropping its soft hyphens but for case and
white space. -/
theorem anchors_are_bound_and_keyed_apart_iff (u : Unicode) (record : ChildRecord)
    (stored : PyDict) (texts : List String)
    (h : stored_attachment (record.enrichment_context.getD []) = some stored) :
    (OneForEach stored (record.enrichment_context.getD []) (build_evidence_anchors u record) ∧
      ((build_evidence_anchors u record).map EvidenceAnchor.match_key).Nodup ∧
      gateway_match_keys u texts = compute_match_keys u texts) ↔
    KeysApart u stored (record.enrichment_context.getD []) ∧
      ∀ t ∈ texts, u.casefold (collapse (without_soft_hyphens (u.nfkc t))) =
        u.casefold (collapse t) := by
  rw [and_iff_right (one_for_each u h), gateway_match_keys_eq_iff, build_eq u h,
    anchor_keys_nodup_iff]
  refine and_congr_left fun _ => ?_
  constructor
  · rintro ⟨hspatial, htext⟩
    exact ⟨hspatial, htext⟩
  · rintro ⟨hspatial, htext⟩
    exact ⟨hspatial, htext⟩

/-- The manifest entry of the stored bytes. -/
def storedEntry : PyDict := [("sha256", .str "f1"), ("attachment_id", .str "att-1")]

/-- An entity of a quantity. -/
def quantityOf (value : String) : PyVal := .dict [("key", .str "qty"), ("value", .str value)]

/-- A verified box over the text of the quantity. -/
def quantityBox : PyVal :=
  .dict [("attachment_id", .str "att-1"), ("anchor_source", .str "spatial_extracted"),
    ("text", .str "600"), ("match_key", .dict [("normalized_text", .str "600")]),
    ("supports_kind", .str "extracted_field"), ("supports_ref", .str "order_entry.qty"),
    ("label", .str "Quantity"), ("source_sha256", .str "f1"), ("page", .int 1),
    ("bbox", .list [.int 0, .int 0, .int 1, .int 1])]

/-- A record of these entities, with the box. -/
def recordOf (entities : List PyVal) : ChildRecord where
  intent := none
  shadow_verdict := none
  enrichment_context := some
    [("email_source_context", .dict [("attachment_manifest", .list [.dict storedEntry])]),
      ("extracted_entities", .list entities), ("spatial_anchors", .list [quantityBox])]

theorem the_anchor_of_one_quantity_is_found :
    (OneForEach storedEntry ((recordOf [quantityOf "600"]).enrichment_context.getD [])
        (build_evidence_anchors .unchanged (recordOf [quantityOf "600"])) ∧
      ((build_evidence_anchors .unchanged (recordOf [quantityOf "600"])).map
        EvidenceAnchor.match_key).Nodup ∧
      gateway_match_keys .unchanged ["600", "600"] = compute_match_keys .unchanged ["600", "600"]) ↔
    KeysApart .unchanged storedEntry ((recordOf [quantityOf "600"]).enrichment_context.getD []) ∧
      ∀ t ∈ ["600", "600"],
        Unicode.unchanged.casefold (collapse (without_soft_hyphens (Unicode.unchanged.nfkc t))) =
          Unicode.unchanged.casefold (collapse t) :=
  anchors_are_bound_and_keyed_apart_iff .unchanged (recordOf [quantityOf "600"]) storedEntry
    ["600", "600"] (by decide +kernel)

/-- Two quantities share the spatial anchor of their field and with it one key,
and a text with a soft hyphen has two different keys. -/
theorem two_quantities_share_a_key :
    ¬ ((build_evidence_anchors .unchanged (recordOf [quantityOf "600", quantityOf "48"])).map
        EvidenceAnchor.match_key).Nodup ∧
      gateway_match_keys .unchanged ["po\u00ad1"] ≠
        compute_match_keys .unchanged ["po\u00ad1"] := by
  decide +kernel

end asoe.anchors
