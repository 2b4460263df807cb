-- What a prompt shows of the text that comes from outside: the metadata of
-- an event and the text of an email, scrubbed, capped and put between
-- delimiters (llm/sanitizer.py).
import Asoe.Lib.Grouping
import Asoe.Lib.PyText
import Mathlib.Data.Bool.AllAny
import Mathlib.Data.List.Sort

open py grouping

namespace asoe.sanitizer

/-! ## Values -/

/-- A key of a nested mapping: a string, or another value with its texts. -/
inductive Key where
  | str (s : String)
  | other (str repr : String)
  deriving DecidableEq

/-- A value of `Dict[str, Any]`. What is no scalar, list, tuple or mapping
stands by the text of its `repr`. -/
inductive Value where
  | none
  | bool (b : Bool)
  | int (n : ℤ)
  | float (x : PyFloat)
  | str (s : String)
  | list (xs : List Value)
  | tuple (xs : List Value)
  | mapping (d : List (Key × Value))
  | other (repr : String)

/-- `str(k)`. -/
def Key.toStr : Key → String
  | .str s => s
  | .other s _ => s

abbrev Metadata := List (String × Value)

/-! ## Caps -/

def DEFAULT_ALLOWED_KEYS : List String :=
  ["signal_scores", "matched_po_id", "matched_po_details", "mismatch_sub_type", "expected_value",
    "received_value", "tolerance_pct", "hold_status", "ordered_qty", "available_qty",
    "total_ordered", "max_qty", "moq_qty", "pallet_lines", "days_late"]

def MAX_STRING_LENGTH : ℕ := 256
def MAX_LIST_LENGTH : ℕ := 64
def MAX_DICT_KEYS : ℕ := 32
def MAX_KEY_LENGTH : ℕ := 64
def MAX_DEPTH : ℕ := 4
def MAX_EMAIL_TEXT_LENGTH : ℕ := 100000

def TRUNCATION_MARKER : List Char := "…[truncated]".toList
def REPLACEMENT_CHAR : Char := '\uFFFD'
def DEPTH_CAP : String := "[depth-cap]"

/-! ## Scrubbing -/

/-- `cs[:n]`: a negative bound counts from the end. -/
def upTo (n : ℤ) (cs : List Char) : List Char :=
  cs.take (if 0 ≤ n then n else cs.length + n).toNat

def scrub_char (c : Char) : Char :=
  if c.toNat < 0x20 ∧ c ∉ ['\t', '\n', '\r'] then REPLACEMENT_CHAR
  else if c.toNat = 0x7F then REPLACEMENT_CHAR
  else c

def scrub_string (value : String) (max_length : ℤ) : String :=
  let cleaned := value.toList.map scrub_char
  if (cleaned.length : ℤ) > max_length then
    String.ofList (upTo (max_length - TRUNCATION_MARKER.length) cleaned ++ TRUNCATION_MARKER)
  else String.ofList cleaned

mutual

def coerce_value (depth : ℕ) (value : Value) : Value :=
  if depth > MAX_DEPTH then .str DEPTH_CAP
  else match value with
    | .none => .none
    | .bool b => .bool b
    | .int n => .int n
    | .float x => .float x
    | .str s => .str (scrub_string s MAX_STRING_LENGTH)
    | .list xs => .list (coerce_items (depth + 1) MAX_LIST_LENGTH xs)
    | .tuple xs => .list (coerce_items (depth + 1) MAX_LIST_LENGTH xs)
    | .mapping d => .mapping (coerce_entries (depth + 1) 0 [] d)
    | .other repr => .str (scrub_string repr MAX_STRING_LENGTH)

/-- The first `left` items. -/
def coerce_items (depth left : ℕ) : List Value → List Value
  | [] => []
  | v :: xs =>
    match left with
    | 0 => []
    | left + 1 => coerce_value depth v :: coerce_items depth left xs

/-- The entries from the one with index `i`. -/
def coerce_entries (depth i : ℕ) (out : List (Key × Value)) :
    List (Key × Value) → List (Key × Value)
  | [] => out
  | (k, v) :: d =>
    if i ≥ MAX_DICT_KEYS then out
    else
      let key := Key.str (scrub_string k.toStr MAX_KEY_LENGTH)
      coerce_entries depth (i + 1) (dict.set out key (coerce_value depth v)) d

end

def sanitize_metadata_for_llm (metadata : Option Metadata) (allowed_keys : Option (List String)) :
    Metadata :=
  let allowlist := allowed_keys.getD DEFAULT_ALLOWED_KEYS
  (metadata.getD []).foldl (fun clean (key, value) =>
    if key ∉ allowlist then clean else dict.set clean key (coerce_value 0 value)) []

/-! ## The caps of a view -/

/-- A C0 control character other than tab, newline and CR, or DEL. -/
def IsControl (c : Char) : Prop := (c.toNat < 0x20 ∧ c ∉ ['\t', '\n', '\r']) ∨ c.toNat = 0x7F

/-- A text that fits the cap and has no control character. -/
def Clean (cap : ℕ) (s : String) : Prop := s.toList.length ≤ cap ∧ ∀ c ∈ s.toList, ¬ IsControl c

mutual

/-- A value that stands `depth` containers deep within the caps. -/
def Within (depth : ℕ) (value : Value) : Prop :=
  if depth > MAX_DEPTH then value = .str DEPTH_CAP
  else match value with
    | .none => True
    | .bool _ => True
    | .int _ => True
    | .float _ => True
    | .str s => Clean MAX_STRING_LENGTH s
    | .list xs => xs.length ≤ MAX_LIST_LENGTH ∧ ItemsWithin (depth + 1) xs
    | .mapping d =>
      d.length ≤ MAX_DICT_KEYS ∧ Once d ∧ EntriesWithin (depth + 1) d
    | .tuple _ => False
    | .other _ => False

def ItemsWithin (depth : ℕ) : List Value → Prop
  | [] => True
  | v :: xs => Within depth v ∧ ItemsWithin depth xs

def EntriesWithin (depth : ℕ) : List (Key × Value) → Prop
  | [] => True
  | (k, v) :: d =>
    (∃ s, k = .str s ∧ Clean MAX_KEY_LENGTH s) ∧ Within depth v ∧ EntriesWithin depth d

end

/-! ## Texts -/

theorem length_marker : TRUNCATION_MARKER.length = 12 := by decide

theorem not_isControl_marker : ∀ c ∈ TRUNCATION_MARKER, ¬ IsControl c := by
  unfold IsControl
  exact List.all_iff_forall_prop.mp (by decide)

theorem not_isControl_scrub_char (c : Char) : ¬ IsControl (scrub_char c) := by
  have hreplaced : ¬ IsControl REPLACEMENT_CHAR := by
    unfold IsControl
    decide
  unfold scrub_char
  split
  · exact hreplaced
  · rename_i hlow
    split
    · exact hreplaced
    · rename_i hdel
      rintro (h | h)
      · exact hlow h
      · exact hdel h

theorem scrub_char_of_not_control {c : Char} (h : ¬ IsControl c) : scrub_char c = c := by
  unfold IsControl at h
  rw [not_or] at h
  rw [scrub_char, if_neg h.1, if_neg h.2]

/-- What the cap of a text leaves room for is cleaned, and the marker fits in. -/
theorem scrub_string_clean (value : String) {cap : ℕ} (hcap : 12 ≤ cap) :
    Clean cap (scrub_string value cap) := by
  have hmap : ∀ c ∈ value.toList.map scrub_char, ¬ IsControl c := by
    intro c hc
    obtain ⟨a, -, rfl⟩ := List.mem_map.mp hc
    exact not_isControl_scrub_char a
  unfold scrub_string Clean
  dsimp only
  split
  · rename_i hlong
    rw [String.toList_ofList]
    constructor
    · rw [List.length_append, length_marker, upTo, List.length_take]
      split
      · omega
      · omega
    · intro c hc
      rcases List.mem_append.mp hc with h | h
      · exact hmap c (List.mem_of_mem_take h)
      · exact not_isControl_marker c h
  · rename_i hshort
    rw [String.toList_ofList]
    exact ⟨by omega, hmap⟩

theorem scrub_string_of_clean {s : String} {cap : ℕ} (h : Clean cap s) :
    scrub_string s cap = s := by
  have hmap : s.toList.map scrub_char = s.toList := by
    have hsame : ∀ c ∈ s.toList, scrub_char c = id c :=
      fun c hc => scrub_char_of_not_control (h.2 c hc)
    rw [List.map_congr_left hsame, List.map_id]
  have hshort : ¬ (s.toList.length : ℤ) > cap := by
    have := h.1
    omega
  unfold scrub_string
  dsimp only
  rw [hmap, if_neg hshort, String.ofList_toList]

/-! ## Values within the caps -/

theorem entriesWithin_iff {depth : ℕ} {d : List (Key × Value)} :
    EntriesWithin depth d ↔
      ∀ p ∈ d, (∃ s, p.1 = .str s ∧ Clean MAX_KEY_LENGTH s) ∧ Within depth p.2 := by
  induction d with
  | nil => simp [EntriesWithin]
  | cons p d ih =>
    obtain ⟨k, v⟩ := p
    simp [EntriesWithin, ih, and_assoc]

theorem within_capped {depth : ℕ} (h : depth > MAX_DEPTH) : Within depth (.str DEPTH_CAP) := by
  rw [Within, if_pos h]

theorem coerce_items_length (depth left : ℕ) (xs : List Value) :
    (coerce_items depth left xs).length ≤ left := by
  induction xs generalizing left with
  | nil => simp [coerce_items]
  | cons v xs ih =>
    cases left with
    | zero => simp [coerce_items]
    | succ left => simpa [coerce_items] using ih left

/-! ## A view is within the caps -/

mutual

theorem within_coerce_value (depth : ℕ) : (v : Value) → Within depth (coerce_value depth v) := by
  intro v
  by_cases hdeep : depth > MAX_DEPTH
  · rw [coerce_value.eq_def, if_pos hdeep]
    exact within_capped hdeep
  · have htext : ∀ s, Clean MAX_STRING_LENGTH (scrub_string s MAX_STRING_LENGTH) :=
      fun s => scrub_string_clean s (by decide)
    rw [coerce_value.eq_def, if_neg hdeep, Within.eq_def, if_neg hdeep]
    cases v with
    | none => trivial
    | bool b => trivial
    | int n => trivial
    | float x => trivial
    | str s => exact htext s
    | list xs => exact ⟨coerce_items_length _ _ xs, itemsWithin_coerce (depth + 1) _ xs⟩
    | tuple xs => exact ⟨coerce_items_length _ _ xs, itemsWithin_coerce (depth + 1) _ xs⟩
    | mapping d =>
      exact entriesWithin_coerce (depth + 1) 0 [] d (by decide) (by simp) List.nodup_nil trivial
    | other repr => exact htext repr

theorem itemsWithin_coerce (depth left : ℕ) :
    (xs : List Value) → ItemsWithin depth (coerce_items depth left xs)
  | [] => by simp [coerce_items, ItemsWithin]
  | v :: xs => by
    cases left with
    | zero => simp [coerce_items, ItemsWithin]
    | succ left => exact ⟨within_coerce_value depth v, itemsWithin_coerce depth left xs⟩

/-- Each entry that is stored keeps the caps of the entries before it. -/
theorem entriesWithin_coerce (depth i : ℕ) (out : List (Key × Value)) :
    (d : List (Key × Value)) → i ≤ MAX_DICT_KEYS → out.length ≤ i → Once out →
      EntriesWithin depth out →
      (coerce_entries depth i out d).length ≤ MAX_DICT_KEYS ∧ Once (coerce_entries depth i out d) ∧
        EntriesWithin depth (coerce_entries depth i out d)
  | [], hi, hlen, honce, hout => ⟨by simpa [coerce_entries] using hlen.trans hi, honce, hout⟩
  | (k, v) :: d, hi, hlen, honce, hout => by
    rw [coerce_entries]
    split
    · exact ⟨hlen.trans hi, honce, hout⟩
    · rename_i hroom
      have hadded := length_set_le out (Key.str (scrub_string k.toStr MAX_KEY_LENGTH))
        (coerce_value depth v)
      apply entriesWithin_coerce depth (i + 1) _ d (by omega) (by omega) (honce.set _ _)
      rw [entriesWithin_iff] at hout ⊢
      intro p hp
      rcases dict.mem_set hp with rfl | hold
      · exact ⟨⟨_, rfl, scrub_string_clean _ (by decide)⟩, within_coerce_value depth v⟩
      · exact hout p hold

end

/-! ## What is within the caps is left as it is -/

mutual

theorem coerce_value_of_within (depth : ℕ) :
    (v : Value) → Within depth v → coerce_value depth v = v := by
  intro v h
  rw [Within.eq_def] at h
  rw [coerce_value.eq_def]
  split at h
  · rename_i hdeep
    rw [if_pos hdeep, h]
  · rename_i hdeep
    rw [if_neg hdeep]
    cases v with
    | none => rfl
    | bool b => rfl
    | int n => rfl
    | float x => rfl
    | str s => exact congrArg Value.str (scrub_string_of_clean h)
    | list xs => exact congrArg Value.list (coerce_items_of_within (depth + 1) _ xs h.1 h.2)
    | tuple xs => exact h.elim
    | mapping d =>
      exact congrArg Value.mapping
        (coerce_entries_of_within (depth + 1) 0 [] d (by simpa using h.1) h.2.1 h.2.2)
    | other repr => exact h.elim

theorem coerce_items_of_within (depth left : ℕ) :
    (xs : List Value) → xs.length ≤ left → ItemsWithin depth xs → coerce_items depth left xs = xs
  | [], _, _ => by simp [coerce_items]
  | v :: xs, hlen, h => by
    cases left with
    | zero => simp at hlen
    | succ left =>
      rw [coerce_items, coerce_value_of_within depth v h.1,
        coerce_items_of_within depth left xs (by simpa using hlen) h.2]

theorem coerce_entries_of_within (depth i : ℕ) (out : List (Key × Value)) :
    (d : List (Key × Value)) → i + d.length ≤ MAX_DICT_KEYS → Once (out ++ d) →
      EntriesWithin depth d → coerce_entries depth i out d = out ++ d
  | [], _, _, _ => by simp [coerce_entries]
  | (k, v) :: d, hlen, honce, h => by
    obtain ⟨⟨s, hkey, hclean⟩, hv, hd⟩ := h
    subst hkey
    rw [List.length_cons] at hlen
    have hfresh : Key.str s ∉ out.map Prod.fst := by
      intro hmem
      rw [Once, List.map_append, List.nodup_append] at honce
      exact honce.2.2 _ hmem _ (by simp) rfl
    have hset : dict.set out (Key.str s) v = out ++ [(Key.str s, v)] := set_of_not_mem_keys hfresh
    have happend : (out ++ [(Key.str s, v)]) ++ d = out ++ (Key.str s, v) :: d := by simp
    rw [coerce_entries, if_neg (by omega)]
    dsimp only [Key.toStr]
    rw [scrub_string_of_clean hclean, coerce_value_of_within depth v hv, hset,
      coerce_entries_of_within depth (i + 1) _ d (by omega) (by rw [happend]; exact honce) hd,
      happend]

end

/-! ## The view of the metadata -/

/-- The step of `sanitize_metadata_for_llm` at one entry. -/
def keep_allowed (allowlist : List String) (clean : Metadata) : String × Value → Metadata :=
  fun (key, value) =>
    if key ∉ allowlist then clean else dict.set clean key (coerce_value 0 value)

theorem keep_allowed_of_mem {allowlist : List String} {key : String} (h : key ∈ allowlist)
    (clean : Metadata) (value : Value) :
    keep_allowed allowlist clean (key, value) = dict.set clean key (coerce_value 0 value) := by
  rw [keep_allowed, if_neg (not_not.mpr h)]

/-- An entry of the view is an allowlisted entry of the metadata, coerced. -/
theorem mem_kept {allowlist : List String} {metadata clean : Metadata} {p : String × Value}
    (h : p ∈ metadata.foldl (keep_allowed allowlist) clean) :
    p ∈ clean ∨ p.1 ∈ allowlist ∧ ∃ value, (p.1, value) ∈ metadata ∧
      p.2 = coerce_value 0 value := by
  induction metadata generalizing clean with
  | nil => exact Or.inl h
  | cons q metadata ih =>
    obtain ⟨key, value⟩ := q
    rw [List.foldl_cons] at h
    rcases ih h with hbefore | ⟨hallowed, value', hmem, hvalue⟩
    · by_cases hkey : key ∈ allowlist
      · rw [keep_allowed_of_mem hkey] at hbefore
        rcases dict.mem_set hbefore with rfl | hold
        · exact Or.inr ⟨hkey, value, List.mem_cons_self, rfl⟩
        · exact Or.inl hold
      · rw [keep_allowed, if_pos hkey] at hbefore
        exact Or.inl hbefore
    · exact Or.inr ⟨hallowed, value', List.mem_cons_of_mem _ hmem, hvalue⟩

theorem once_kept {allowlist : List String} (metadata : Metadata) {clean : Metadata}
    (h : Once clean) : Once (metadata.foldl (keep_allowed allowlist) clean) := by
  induction metadata generalizing clean with
  | nil => exact h
  | cons q metadata ih =>
    obtain ⟨key, value⟩ := q
    rw [List.foldl_cons]
    apply ih
    unfold keep_allowed
    dsimp only
    split
    · exact h
    · exact h.set _ _

theorem kept_of_within {allowlist : List String} (view : Metadata) {clean : Metadata}
    (honce : Once (clean ++ view)) (hview : ∀ p ∈ view, p.1 ∈ allowlist ∧ Within 0 p.2) :
    view.foldl (keep_allowed allowlist) clean = clean ++ view := by
  induction view generalizing clean with
  | nil => simp
  | cons q view ih =>
    obtain ⟨key, value⟩ := q
    have hq := hview _ List.mem_cons_self
    have hfresh : key ∉ clean.map Prod.fst := by
      intro hmem
      rw [Once, List.map_append, List.nodup_append] at honce
      exact honce.2.2 _ hmem _ (by simp) rfl
    have happend : (clean ++ [(key, value)]) ++ view = clean ++ (key, value) :: view := by simp
    rw [List.foldl_cons, keep_allowed_of_mem hq.1, coerce_value_of_within 0 value hq.2,
      set_of_not_mem_keys hfresh, ih (by rw [happend]; exact honce)
        fun p hp => hview p (List.mem_cons_of_mem _ hp), happend]

theorem sanitize_metadata_for_llm_eq (metadata : Option Metadata)
    (allowed_keys : Option (List String)) :
    sanitize_metadata_for_llm metadata allowed_keys =
      (metadata.getD []).foldl (keep_allowed (allowed_keys.getD DEFAULT_ALLOWED_KEYS)) [] := rfl

/-- Whatever the metadata, its view holds allowlisted entries within the
caps, and is its own view. -/
theorem sanitize_metadata_for_llm_is_within_the_caps_and_settled (metadata : Option Metadata)
    (allowed_keys : Option (List String)) :
    (∀ p ∈ sanitize_metadata_for_llm metadata allowed_keys,
      p.1 ∈ allowed_keys.getD DEFAULT_ALLOWED_KEYS ∧
      (∃ value, (p.1, value) ∈ metadata.getD [] ∧ p.2 = coerce_value 0 value) ∧ Within 0 p.2) ∧
    sanitize_metadata_for_llm (some (sanitize_metadata_for_llm metadata allowed_keys))
      allowed_keys = sanitize_metadata_for_llm metadata allowed_keys := by
  have hview : ∀ p ∈ sanitize_metadata_for_llm metadata allowed_keys,
      p.1 ∈ allowed_keys.getD DEFAULT_ALLOWED_KEYS ∧
      (∃ value, (p.1, value) ∈ metadata.getD [] ∧ p.2 = coerce_value 0 value) ∧
        Within 0 p.2 := by
    intro p hp
    rw [sanitize_metadata_for_llm_eq] at hp
    rcases mem_kept hp with hnil | ⟨hallowed, value, hmem, hvalue⟩
    · cases hnil
    · exact ⟨hallowed, ⟨value, hmem, hvalue⟩, by rw [hvalue]; exact within_coerce_value 0 value⟩
  refine ⟨hview, ?_⟩
  have honce : Once (sanitize_metadata_for_llm metadata allowed_keys) :=
    once_kept _ List.nodup_nil
  rw [sanitize_metadata_for_llm_eq (some _)]
  exact kept_of_within _ (by simpa using honce) fun p hp => ⟨(hview p hp).1, (hview p hp).2.2⟩

end asoe.sanitizer
