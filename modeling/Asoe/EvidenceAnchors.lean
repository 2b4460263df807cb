-- The highlight anchors of an attachment (api/schemas.py), and the keys by
-- which a viewer finds their texts: the adapter and the gateway of the document
-- extraction count the same way, each after a normalisation of its own.
import Asoe.Recipes

open py

namespace asoe

/-! ## Anchors -/

structure MatchKey where
  normalized_text : String
  occurrence_index : ℤ := 0
  deriving DecidableEq

inductive EvidenceAnchorSource where
  | text_derived | spatial_extracted
  deriving DecidableEq

inductive EvidenceSupportsKind where
  | extracted_field | constraint | decision
  deriving DecidableEq

/-- A text-derived anchor has no geometry. -/
structure EvidenceAnchor where
  attachment_id : String
  anchor_source : EvidenceAnchorSource
  text : String
  match_key : MatchKey
  supports_kind : EvidenceSupportsKind
  supports_ref : String
  label : String
  source_sha256 : String
  page : Option ℤ := none
  bbox : Option (List PyFloat) := none
  confidence : Option PyFloat := none
  rendition_hash : Option String := none
  carries_no_geometry : anchor_source = .text_derived →
    page = none ∧ bbox = none ∧ confidence = none ∧ rendition_hash = none
  deriving DecidableEq

theorem no_geometry {source : EvidenceAnchorSource} : source = .text_derived →
    (none : Option ℤ) = none ∧ (none : Option (List PyFloat)) = none ∧
      (none : Option PyFloat) = none ∧ (none : Option String) = none :=
  fun _ => ⟨rfl, rfl, rfl, rfl⟩

/-! ## Normalised texts -/

/-- The tables of Unicode: `unicodedata.normalize("NFKC", s)`, `s.casefold()`
and `s.upper()`. -/
structure Unicode where
  nfkc : String → String
  casefold : String → String
  upper : String → String

/-- `s.split()`. -/
def words (s : String) : List String :=
  ((s.toList.splitOnP isSpace).filter fun w => w ≠ []).map String.ofList

/-- `" ".join(s.split())`. -/
def collapse (s : String) : String := join " " (words s)

/-- The tables on texts that they leave as they are. -/
def Unicode.unchanged : Unicode where
  nfkc := id
  casefold := id
  upper := id

def without_soft_hyphens (s : String) : String :=
  String.ofList (s.toList.filter fun c => c.toNat ≠ 0xAD)

section normalize

variable (u : Unicode)

/-- `_normalize_match_text` of the adapters. -/
def normalize_match_text (s : PyVal) : String := u.casefold (collapse s.toStr)

/-- `_normalize` of the gateway. -/
def normalize : PyVal → String
  | .none => ""
  | s => u.casefold (collapse (without_soft_hyphens (u.nfkc s.toStr)))

/-! ## Match keys -/

/-- One turn of the count: how often each text has been seen, and the keys. -/
def next_key (acc : List (String × ℕ) × List MatchKey) (norm : String) :
    List (String × ℕ) × List MatchKey :=
  let idx := (dict.get acc.1 norm).getD 0
  (dict.set acc.1 norm (idx + 1), acc.2 ++ [⟨norm, idx⟩])

/-- The keys of texts that are normalised. -/
def numbered (norms : List String) : List MatchKey := (norms.foldl next_key ([], [])).2

/-- `compute_match_keys` of the adapters. -/
def compute_match_keys (values : List String) : List MatchKey :=
  numbered (values.map fun v => normalize_match_text u (.str v))

/-- `_compute_match_keys` of the gateway. -/
def gateway_match_keys (values : List String) : List MatchKey :=
  numbered (values.map fun v => normalize u (.str v))

end normalize

theorem foldl_next_key_texts (acc : List (String × ℕ) × List MatchKey) (norms : List String) :
    ((norms.foldl next_key acc).2).map MatchKey.normalized_text =
      acc.2.map MatchKey.normalized_text ++ norms := by
  induction norms generalizing acc with
  | nil => simp
  | cons norm norms ih =>
    rw [List.foldl_cons, ih]
    simp [next_key]

theorem numbered_texts (norms : List String) :
    (numbered norms).map MatchKey.normalized_text = norms := by
  rw [numbered, foldl_next_key_texts]
  rfl

theorem length_numbered (norms : List String) : (numbered norms).length = norms.length := by
  rw [← List.length_map MatchKey.normalized_text, numbered_texts]

theorem numbered_inj {norms norms' : List String} :
    numbered norms = numbered norms' ↔ norms = norms' := by
  constructor
  · intro h
    rw [← numbered_texts norms, h, numbered_texts]
  · rintro rfl
    rfl

/-- Each key was counted, and no key is there twice. -/
structure Counted (acc : List (String × ℕ) × List MatchKey) : Prop where
  below : ∀ k ∈ acc.2, k.occurrence_index < (dict.get acc.1 k.normalized_text).getD 0
  nodup : acc.2.Nodup

theorem Counted.next {acc : List (String × ℕ) × List MatchKey} (h : Counted acc) (norm : String) :
    Counted (next_key acc norm) := by
  constructor
  · intro k hk
    simp only [next_key, List.mem_append, List.mem_singleton] at hk ⊢
    rcases hk with hk | rfl
    · have hbelow := h.below k hk
      by_cases hsame : k.normalized_text = norm
      · rw [hsame, dict.get_set_self]
        rw [hsame] at hbelow
        simp only [Option.getD_some]
        omega
      · rw [dict.get_set_of_ne _ _ hsame]
        exact hbelow
    · rw [dict.get_set_self]
      simp only [Option.getD_some]
      omega
  · refine List.nodup_append.mpr ⟨h.nodup, List.nodup_singleton _, ?_⟩
    rintro k hk k' hk' rfl
    rw [List.mem_singleton] at hk'
    have hbelow := h.below k hk
    rw [hk'] at hbelow
    exact lt_irrefl _ hbelow

theorem numbered_nodup (norms : List String) : (numbered norms).Nodup := by
  have hrun : ∀ acc, Counted acc → Counted (norms.foldl next_key acc) := by
    induction norms with
    | nil => exact fun acc h => h
    | cons norm norms ih => exact fun acc h => ih _ (h.next norm)
  exact (hrun ([], []) ⟨fun k hk => absurd hk List.not_mem_nil, List.nodup_nil⟩).nodup

/-- Each text with the number of equal texts before it. -/
def occurrences (before : List String) : List String → List MatchKey
  | [] => []
  | norm :: norms => ⟨norm, before.count norm⟩ :: occurrences (before ++ [norm]) norms

theorem foldl_next_key {seen : List (String × ℕ)} {before : List String}
    (h : ∀ n, (dict.get seen n).getD 0 = before.count n) (keys : List MatchKey)
    (norms : List String) :
    (norms.foldl next_key (seen, keys)).2 = keys ++ occurrences before norms := by
  induction norms generalizing seen before keys with
  | nil => simp [occurrences]
  | cons norm norms ih =>
    have hnext : ∀ n, (dict.get (dict.set seen norm (before.count norm + 1)) n).getD 0 =
        (before ++ [norm]).count n := by
      intro n
      by_cases hn : n = norm
      · subst hn
        rw [dict.get_set_self, List.count_append, List.count_singleton_self]
        rfl
      · rw [dict.get_set_of_ne _ _ hn, h, List.count_append, List.count_singleton]
        simp [Ne.symm hn]
    rw [List.foldl_cons, next_key]
    dsimp only
    rw [h, ih hnext, occurrences, List.append_assoc]
    rfl

theorem numbered_eq (norms : List String) : numbered norms = occurrences [] norms := by
  have hnew : ∀ n, (dict.get ([] : List (String × ℕ)) n).getD 0 = [].count n := fun _ => rfl
  rw [numbered, foldl_next_key hnew, List.nil_append]

end asoe
