-- The raw text of a purchase order read back by the rules of X12
-- (gateways/edi850.py). Nothing is escaped, so the segments come back just
-- when no text of the order holds a delimiter.
import Asoe.Edi850Views
import Asoe.Lib.Delimited
import Asoe.Lib.PyJsonRead

open py prog

namespace asoe.edi850

/-! ## Reading X12 -/

/-- A segment ends at `~` and its elements are separated by `*`. -/
def read_x12 (raw : String) : List (List String) :=
  (delimited.read '*' '~' '\n' raw.toList).map fun r => r.map String.ofList

/-- A text without the delimiters. -/
def Plain (s : String) : Prop := ∀ c ∈ s.toList, c ≠ '*' ∧ c ≠ '~'

instance (s : String) : Decidable (Plain s) := List.decidableBAll _ _

/-- The texts of an order that come from outside and are transmitted. -/
def free_texts (o : Order) : List String :=
  [o.po_number, o.currency, o.po_date, o.buyer_name, o.seller_name] ++
    [o.buyer_id, o.seller_id, o.ship_to_name, o.requested_date].filterMap id ++
    (o.line_items.getD []).flatMap fun raw =>
      ["line_num", "uom", "material", "description"].filterMap (given_text raw)

theorem plain_iff (s : String) : Plain s ↔ '*' ∉ s.toList ∧ '~' ∉ s.toList := by
  constructor
  · intro h
    exact ⟨fun hs => (h _ hs).1 rfl, fun ht => (h _ ht).2 rfl⟩
  · rintro ⟨hs, ht⟩ c hc
    constructor
    · rintro rfl
      exact hs hc
    · rintro rfl
      exact ht hc

/-- The fields of a segment. -/
def fieldsOf (s : Seg) : List (List Char) := (s.1 :: s.2).map String.toList

theorem render_raw (s : Seg) :
    (render s).raw.toList = delimited.record '*' '~' (fieldsOf s) := by
  have hsep : ELEMENT_SEP.toList = ['*'] := by decide
  have hterm : SEGMENT_TERM.toList = ['~'] := by decide
  rw [render]
  unfold py.join delimited.record delimited.fields
  rw [String.toList_append, String.toList_intercalate, hsep, hterm]
  rfl

theorem raw_x12_eq (segs : List Seg) : (join "\n" ((segs.map render).map Segment.raw)).toList =
    delimited.write '*' '~' '\n' (segs.map fieldsOf) := by
  have hbreak : "\n".toList = ['\n'] := by decide
  unfold py.join delimited.write
  rw [String.toList_intercalate, hbreak, List.map_map, List.map_map, List.map_map]
  exact congrArg _ (List.map_congr_left fun s _ => render_raw s)

/-- Texts are read as characters and written as strings. -/
theorem records_eq_iff {rs : List (List (List Char))} {X : List (List String)} :
    rs.map (fun r => r.map String.ofList) = X ↔ rs = X.map fun fs => fs.map String.toList := by
  have hchars : ∀ r : List (List Char), (r.map String.ofList).map String.toList = r := by
    intro r
    rw [List.map_map]
    exact (List.map_congr_left fun cs _ => String.toList_ofList).trans (List.map_id r)
  have htexts : ∀ fs : List String, (fs.map String.toList).map String.ofList = fs := by
    intro fs
    rw [List.map_map]
    exact (List.map_congr_left fun f _ => String.ofList_toList).trans (List.map_id fs)
  constructor
  · rintro rfl
    rw [List.map_map]
    exact (List.map_id rs).symm.trans (List.map_congr_left fun r _ => (hchars r).symm)
  · rintro rfl
    rw [List.map_map]
    exact (List.map_congr_left fun fs _ => htexts fs).trans (List.map_id X)

/-- The ids of segments. -/
def SEGMENT_IDS : List String :=
  ["ISA", "GS", "ST", "BEG", "CUR", "REF", "DTM", "N1", "PO1", "PID", "CTT", "SE", "GE", "IEA"]

theorem ids_plain : ∀ id ∈ SEGMENT_IDS, Plain id ∧ id.toList.head? ≠ none ∧
    id.toList.head? ≠ some '\n' := by decide

/-- Segments with known ids are read back when their elements are plain. -/
theorem read_x12_iff {segs : List Seg} (hids : ∀ s ∈ segs, s.1 ∈ SEGMENT_IDS) :
    read_x12 (join "\n" ((segs.map render).map Segment.raw)) = segs.map (fun s => s.1 :: s.2) ↔
      ∀ s ∈ segs, ∀ e ∈ s.2, Plain e := by
  have hhead : ∀ r ∈ segs.map fieldsOf, (delimited.fields '*' r).head? ≠ some '\n' := by
    intro r hr
    obtain ⟨s, hs, rfl⟩ := List.mem_map.mp hr
    obtain ⟨-, hne, hbreak⟩ := ids_plain s.1 (hids s hs)
    rw [fieldsOf, List.map_cons, delimited.fields, delimited.intercalate_eq]
    cases hid : s.1.toList with
    | nil =>
      rw [hid] at hne
      exact absurd rfl hne
    | cons c cs =>
      rw [hid] at hbreak
      exact hbreak
  have hne : ∀ r ∈ segs.map fieldsOf, r ≠ [] := by
    intro r hr
    obtain ⟨s, -, rfl⟩ := List.mem_map.mp hr
    exact List.cons_ne_nil _ _
  have hread : read_x12 (join "\n" ((segs.map render).map Segment.raw)) =
      segs.map (fun s => s.1 :: s.2) ↔
      delimited.read '*' '~' '\n' (delimited.write '*' '~' '\n' (segs.map fieldsOf)) =
        segs.map fieldsOf := by
    rw [read_x12, raw_x12_eq, records_eq_iff, List.map_map]
    rfl
  rw [hread, delimited.read_write_iff (by decide) (by decide) hne hhead]
  constructor
  · intro h s hs e he
    rw [plain_iff]
    exact h _ (List.mem_map_of_mem hs) _ (List.mem_map_of_mem (List.mem_cons_of_mem _ he))
  · intro h r hr f hf
    obtain ⟨s, hs, rfl⟩ := List.mem_map.mp hr
    obtain ⟨e, he, rfl⟩ := List.mem_map.mp hf
    rw [← plain_iff]
    rcases List.mem_cons.mp he with rfl | he
    · exact (ids_plain s.1 (hids s hs)).1
    · exact h s hs e he

/-! ## Plain texts -/

theorem Plain.ofList {cs : List Char} (h : ∀ c ∈ cs, c ≠ '*' ∧ c ≠ '~') :
    Plain (String.ofList cs) := by
  unfold Plain
  rw [String.toList_ofList]
  exact h

theorem plain_of_isDigit {c : Char} (h : c.isDigit = true) : c ≠ '*' ∧ c ≠ '~' := by
  constructor <;> rintro rfl <;> revert h <;> decide

theorem toDigits_plain (n : ℕ) : ∀ c ∈ Nat.toDigits 10 n, c ≠ '*' ∧ c ≠ '~' :=
  fun _ hc => plain_of_isDigit (Nat.isDigit_of_mem_toDigits (by omega) (by omega) hc)

theorem zeros_plain (n : ℕ) : ∀ c ∈ zeros n, c ≠ '*' ∧ c ≠ '~' := by
  intro c hc
  rw [List.eq_of_mem_replicate hc]
  decide

theorem control_plain (seed : String) (width : ℕ) : Plain (control seed width) := by
  refine Plain.ofList fun c hc => ?_
  rcases List.mem_append.mp hc with hc | hc
  · exact zeros_plain _ c hc
  · exact toDigits_plain _ c hc

theorem toString_int_plain (n : ℤ) : Plain (toString n) := by
  unfold Plain
  rw [json.toList_toString_int]
  split
  · intro c hc
    rcases List.mem_cons.mp hc with rfl | hc
    · decide
    · exact toDigits_plain _ c hc
  · exact toDigits_plain _

theorem toString_nat_plain (n : ℕ) : Plain (toString n) := toString_int_plain n

theorem fixed_plain (digits : ℕ) (q : ℚ) : Plain (fixed digits (.fin q)) := by
  refine Plain.ofList fun c hc => ?_
  generalize hpadded : zeros (digits + 1 - (Nat.toDigits 10
    (PyFloat.roundHalfEven (|q| * 10 ^ digits)).toNat).length) ++ Nat.toDigits 10
      (PyFloat.roundHalfEven (|q| * 10 ^ digits)).toNat = padded at hc
  have hdigits : ∀ c ∈ padded, c ≠ '*' ∧ c ≠ '~' := by
    intro c hc
    rw [← hpadded] at hc
    rcases List.mem_append.mp hc with hc | hc
    · exact zeros_plain _ c hc
    · exact toDigits_plain _ c hc
  rcases List.mem_append.mp hc with hc | hc
  · rcases List.mem_append.mp hc with hc | hc
    · split at hc
      · rw [List.mem_singleton.mp hc]
        decide
      · cases hc
    · exact hdigits c (List.mem_of_mem_take hc)
  · split at hc
    · cases hc
    · rcases List.mem_cons.mp hc with rfl | hc
      · decide
      · exact hdigits c (List.mem_of_mem_drop hc)

theorem mem_of_mem_rstrip {c x : Char} {cs : List Char} (h : x ∈ rstrip c cs) : x ∈ cs := by
  rw [rstrip, List.mem_reverse] at h
  exact List.mem_reverse.mp ((List.dropWhile_sublist _).subset h)

theorem num_plain {value : PyFloat} {text : String} (h : num value = .ok text) : Plain text := by
  unfold num at h
  cases value with
  | nan => cases h
  | inf s => cases h
  | fin q =>
    have hint : (PyVal.float (.fin q)).toInt = .ok (if q < 0 then q.ceil else q.floor) := rfl
    rw [ok_bind hint] at h
    generalize (if q < 0 then q.ceil else q.floor) = n at h
    split at h
    · rw [← Except.ok.inj h]
      exact toString_int_plain n
    · rw [← Except.ok.inj h]
      refine Plain.ofList fun c hc => ?_
      exact fixed_plain 6 q c (mem_of_mem_rstrip (mem_of_mem_rstrip hc))

/-! ## The elements of a document -/

/-- All elements of the segments. -/
def AllPlain (segs : List Seg) : Prop := ∀ s ∈ segs, ∀ e ∈ s.2, Plain e

theorem allPlain_append (segs segs' : List Seg) :
    AllPlain (segs ++ segs') ↔ AllPlain segs ∧ AllPlain segs' := List.forall_mem_append

theorem ymd_plain_iff (iso : String) : Plain (ymd iso) ↔ Plain iso := by
  unfold Plain ymd
  rw [String.toList_ofList]
  constructor
  · intro h c hc
    by_cases hdash : c = '-'
    · rw [hdash]
      decide
    · exact h c (List.mem_filter.mpr ⟨hc, decide_eq_true hdash⟩)
  · intro h c hc
    exact h c (List.mem_filter.mp hc).1

/-- Upper case makes no delimiter of another letter. -/
def KeepsDelimiters (upper : String → String) : Prop :=
  ∀ s, Plain s → Plain (upper s)

theorem first_plain {n : ℕ} {s : String} (h : Plain s) : Plain (first n s) :=
  Plain.ofList fun c hc => h c (List.mem_of_mem_take hc)

theorem strip_plain {s : String} (h : Plain s) : Plain (strip s) := by
  refine Plain.ofList fun c hc => h c ?_
  unfold stripChars at hc
  have hfront := (List.dropWhile_sublist _).subset (List.mem_reverse.mp hc)
  exact (List.dropWhile_sublist _).subset (List.mem_reverse.mp hfront)

theorem pad_plain {s : String} (h : Plain s) (width : ℕ) : Plain (pad s width) := by
  refine Plain.ofList fun c hc => ?_
  rcases List.mem_append.mp hc with hc | hc
  · exact h c (List.mem_of_mem_take hc)
  · rw [List.eq_of_mem_replicate hc]
    decide

theorem or_text_plain {a : Option String} {b : String} (ha : ∀ s ∈ a, Plain s) (hb : Plain b) :
    Plain (or_text a b) := by
  unfold or_text
  split
  · split
    · exact hb
    · exact ha _ rfl
  · exact hb

theorem gs_ctrl_plain (o : Order) : Plain (gs_ctrl o) := by
  unfold gs_ctrl without_zeros
  refine or_text_plain ?_ (by decide)
  intro s hs
  rw [Option.mem_some_iff] at hs
  rw [← hs]
  exact Plain.ofList fun c hc => control_plain _ 9 c ((List.dropWhile_sublist _).subset hc)

/-! ## From the texts to the elements -/

section elements

variable {upper : String → String} {o : Order}

/-- The texts of an order are plain. -/
def TextsPlain (o : Order) : Prop := ∀ t ∈ free_texts o, Plain t

theorem TextsPlain.required (h : TextsPlain o) : Plain o.po_number ∧ Plain o.currency ∧
    Plain o.po_date ∧ Plain o.buyer_name ∧ Plain o.seller_name := by
  unfold TextsPlain free_texts at h
  exact ⟨h _ (by simp), h _ (by simp), h _ (by simp), h _ (by simp), h _ (by simp)⟩

theorem TextsPlain.optional (h : TextsPlain o) {a : Option String}
    (ha : a ∈ [o.buyer_id, o.seller_id, o.ship_to_name, o.requested_date]) :
    ∀ s ∈ a, Plain s := by
  intro s hs
  refine h s ?_
  unfold free_texts
  rw [List.mem_append, List.mem_append, List.mem_filterMap]
  exact Or.inl (Or.inr ⟨a, ha, hs⟩)

theorem TextsPlain.line (h : TextsPlain o) {raw : PyDict} (hraw : raw ∈ o.line_items.getD [])
    {key : String} (hkey : key ∈ ["line_num", "uom", "material", "description"]) :
    ∀ s ∈ given_text raw key, Plain s := by
  intro s hs
  refine h s ?_
  unfold free_texts
  rw [List.mem_append, List.mem_flatMap]
  exact Or.inr ⟨raw, hraw, List.mem_filterMap.mpr ⟨key, hkey, hs⟩⟩

theorem given_plain {a : Option String} (h : ∀ s ∈ a, Plain s) : ∀ s ∈ given a, Plain s :=
  fun s hs => h s (Option.mem_filter_iff.mp hs).1

theorem getD_plain {a : Option String} {b : String} (ha : ∀ s ∈ a, Plain s) (hb : Plain b) :
    Plain (a.getD b) := by
  cases a with
  | none => exact hb
  | some s => exact ha s rfl

theorem sender_plain (hupper : KeepsDelimiters upper) (h : TextsPlain o) :
    Plain (sender upper o) := by
  refine first_plain (hupper _ ?_)
  refine or_text_plain (h.optional (by simp)) (or_text_plain ?_ (by decide))
  rintro s ⟨⟩
  exact h.required.2.2.2.1

theorem receiver_plain (hupper : KeepsDelimiters upper) (h : TextsPlain o) :
    Plain (receiver upper o) := by
  refine first_plain (hupper _ ?_)
  refine or_text_plain (h.optional (by simp)) (or_text_plain ?_ (by decide))
  rintro s ⟨⟩
  exact h.required.2.2.2.2

theorem opening_plain (hupper : KeepsDelimiters upper) (h : TextsPlain o) :
    AllPlain (opening_segments upper o) := by
  obtain ⟨hnumber, hcurrency, hdate, -, -⟩ := h.required
  have hblank : Plain (pad "" 10) := pad_plain (by decide) 10
  have hymd := (ymd_plain_iff o.po_date).mpr hdate
  have hyymmdd : Plain (yymmdd o.po_date) :=
    Plain.ofList fun c hc => hymd c (List.mem_of_mem_drop hc)
  have hsender := sender_plain hupper h
  have hreceiver := receiver_plain hupper h
  have hconst : ∀ t ∈ ["00", "ZZ", isa_time, "U", X12_VERSION, "0", "P", ">", "PO", "X",
      GS_VERSION, "850", "SA", "", "BY", "004"], Plain t := by decide
  unfold AllPlain opening_segments
  simp only [List.mem_cons, List.not_mem_nil, or_false, forall_eq_or_imp, forall_eq]
  refine ⟨⟨?_, hblank, ?_, hblank, ?_, pad_plain hsender 15, ?_, pad_plain hreceiver 15, hyymmdd,
    ?_, ?_, ?_, control_plain _ 9, ?_, ?_, ?_⟩, ⟨?_, strip_plain hsender, strip_plain hreceiver,
    hymd, ?_, gs_ctrl_plain o, ?_, ?_⟩, ⟨?_, control_plain _ 4⟩, ⟨?_, ?_, hnumber, ?_, hymd⟩,
    ⟨?_, hcurrency⟩, ⟨?_, hnumber⟩, ⟨?_, hymd⟩⟩
  all_goals exact hconst _ (by simp)

theorem requested_plain (h : TextsPlain o) : AllPlain (requested_segments o) := by
  have hdate := given_plain (h.optional (a := o.requested_date) (by simp))
  unfold requested_segments
  cases hgiven : given o.requested_date with
  | none => exact fun s hs => absurd hs List.not_mem_nil
  | some date =>
    have hymd := (ymd_plain_iff date).mpr (hdate date hgiven)
    have hcode : Plain "002" := by decide
    simp [AllPlain, hymd, hcode]

theorem party_plain {code name : String} {id_value : Option String} (hcode : Plain code)
    (hname : Plain name) (hid : ∀ s ∈ id_value, Plain s) :
    ∀ e ∈ (party_segment (party code name id_value)).2, Plain e := by
  have h92 : Plain "92" := by decide
  unfold party_segment party
  cases hgiven : given id_value with
  | none => simp [hcode, hname]
  | some value =>
    have hvalue := given_plain hid value hgiven
    simp [hcode, hname, hvalue, or_text, h92]

theorem parties_plain (h : TextsPlain o) : AllPlain ((parties_of o).map party_segment) := by
  obtain ⟨-, -, -, hbuyer, hseller⟩ := h.required
  have hship := given_plain (h.optional (a := o.ship_to_name) (by simp))
  intro s hs
  obtain ⟨p, hp, rfl⟩ := List.mem_map.mp hs
  unfold parties_of at hp
  rcases List.mem_append.mp hp with hp | hp
  · rcases List.mem_pair.mp hp with rfl | rfl
    · exact party_plain (by decide) hbuyer (h.optional (by simp))
    · exact party_plain (by decide) hseller (h.optional (by simp))
  · cases hgiven : given o.ship_to_name with
    | none =>
      rw [hgiven] at hp
      cases hp
    | some name =>
      rw [hgiven] at hp
      rw [List.mem_singleton.mp hp]
      exact party_plain (by decide) (hship name hgiven) (by rintro s ⟨⟩)

/-- The texts of a line that are plain make its elements plain. -/
theorem line_plain {raw : PyDict} {i : ℕ} {l : LineItem} (hl : IsLine raw i l)
    (h : ∀ key ∈ ["line_num", "uom", "material", "description"],
      ∀ s ∈ given_text raw key, Plain s) :
    AllPlain (line_segments l) := by
  have hnum : Plain l.line_num := by
    rw [hl.line_num]
    exact getD_plain (h _ (by simp)) (toString_nat_plain _)
  have huom : Plain l.uom := by
    rw [hl.uom]
    exact getD_plain (h _ (by simp)) (by decide)
  have hquantity : Plain (num_text l.quantity) := by
    obtain ⟨text, htext⟩ := hl.quantity_text
    rw [num_text_of_ok htext]
    exact num_plain htext
  have hprice : ∀ e ∈ price_elements l.unit_price, Plain e := by
    cases hunit : l.unit_price with
    | none =>
      have hempty : Plain "" := by decide
      simp [price_elements, hempty]
    | some price =>
      obtain ⟨text, htext⟩ := hl.price_text price hunit
      have hcode : Plain "PE" := by decide
      simp [price_elements, num_text_of_ok htext, num_plain htext, hcode]
  have hproduct : ∀ e ∈ product_elements l.product_id, Plain e := by
    rw [hl.product_id]
    cases hgiven : given_text raw "material" with
    | none => simp [product_elements]
    | some material =>
      have hmaterial := h "material" (by simp) material hgiven
      have hcode : Plain "VP" := by decide
      simp [product_elements, hmaterial, hcode]
  have hdescription : AllPlain (description_segment l.description) := by
    rw [hl.description]
    cases hgiven : given_text raw "description" with
    | none => exact fun s hs => absurd hs List.not_mem_nil
    | some text =>
      have htext := h "description" (by simp) text hgiven
      have hcodes : Plain "F" ∧ Plain "" := by decide
      simp [AllPlain, description_segment, htext, hcodes]
  intro s hs
  rcases List.mem_cons.mp hs with rfl | hs
  · intro e he
    rcases List.mem_append.mp he with he | he
    · rcases List.mem_append.mp he with he | he
      · simp only [List.mem_cons, List.not_mem_nil, or_false] at he
        rcases he with rfl | rfl | rfl
        · exact hnum
        · exact hquantity
        · exact huom
      · exact hprice e he
    · exact hproduct e he
  · exact hdescription s hs

/-- The elements of a line that are plain come from plain texts. -/
theorem line_texts_plain {raw : PyDict} {i : ℕ} {l : LineItem} (hl : IsLine raw i l)
    (h : AllPlain (line_segments l)) :
    ∀ key ∈ ["line_num", "uom", "material", "description"], ∀ s ∈ given_text raw key, Plain s := by
  have hpo1 := h _ List.mem_cons_self
  simp only [List.mem_cons, List.not_mem_nil, or_false, forall_eq_or_imp, forall_eq]
  refine ⟨?_, ?_, ?_, ?_⟩
  · intro s hs
    have hnum : l.line_num = s := by rw [hl.line_num, hs, Option.getD_some]
    rw [← hnum]
    exact hpo1 _ (by simp [po1_elements])
  · intro s hs
    have huom : l.uom = s := by rw [hl.uom, hs, Option.getD_some]
    rw [← huom]
    exact hpo1 _ (by simp [po1_elements])
  · intro s hs
    have hproduct : l.product_id = some s := by rw [hl.product_id, hs]
    exact hpo1 _ (by simp [po1_elements, hproduct, product_elements])
  · intro s hs
    have hdescription : l.description = some s := by rw [hl.description, hs]
    refine h ("PID", ["F", "", "", "", s]) ?_ s (by simp)
    simp [line_segments, hdescription, description_segment]

theorem closing_plain {items : List LineItem} {value : PyFloat} {total : String}
    (htotal : num value = .ok total) (count : ℕ) :
    AllPlain (closing_segments o items total count) := by
  have hconst : Plain "1" := by decide
  unfold AllPlain closing_segments
  simp only [List.mem_cons, List.not_mem_nil, or_false, forall_eq_or_imp, forall_eq]
  exact ⟨⟨toString_nat_plain _, num_plain htotal⟩, ⟨toString_nat_plain _, control_plain _ 4⟩,
    ⟨hconst, gs_ctrl_plain o⟩, hconst, control_plain _ 9⟩

theorem given_eq_none {s : String} (h : given (some s) = none) : s = "" := by
  by_contra hne
  simp [given, hne] at h

theorem party_texts_plain {code name : String} {id_value : Option String}
    (h : ∀ e ∈ (party_segment (party code name id_value)).2, Plain e) :
    Plain name ∧ ∀ s ∈ id_value, Plain s := by
  unfold party_segment party at h
  refine ⟨h name (by simp), fun s hs => ?_⟩
  rw [Option.mem_def] at hs
  subst hs
  cases hgiven : given (some s) with
  | none =>
    rw [given_eq_none hgiven]
    decide
  | some value =>
    have hsame : value = s := (Option.mem_some_iff.mp (Option.mem_filter_iff.mp hgiven).1).symm
    subst hsame
    exact h value (by simp [hgiven])

theorem texts_plain_of_parties (h : AllPlain ((parties_of o).map party_segment)) :
    Plain o.buyer_name ∧ Plain o.seller_name ∧
      ∀ a ∈ [o.buyer_id, o.seller_id, o.ship_to_name], ∀ s ∈ a, Plain s := by
  have hbuyer := party_texts_plain (h _ (List.mem_map_of_mem
    (show party "BY" o.buyer_name o.buyer_id ∈ parties_of o by simp [parties_of])))
  have hseller := party_texts_plain (h _ (List.mem_map_of_mem
    (show party "SE" o.seller_name o.seller_id ∈ parties_of o by simp [parties_of])))
  refine ⟨hbuyer.1, hseller.1, ?_⟩
  simp only [List.mem_cons, List.not_mem_nil, or_false, forall_eq_or_imp, forall_eq]
  refine ⟨hbuyer.2, hseller.2, fun s hs => ?_⟩
  cases hgiven : given o.ship_to_name with
  | none =>
    rw [Option.mem_def.mp hs] at hgiven
    rw [given_eq_none hgiven]
    decide
  | some name =>
    have hsame : name = s := Option.mem_unique (Option.mem_filter_iff.mp hgiven).1 hs
    subst hsame
    have hparty : party "ST" name none ∈ parties_of o := by
      unfold parties_of
      rw [hgiven]
      exact List.mem_append_right _ List.mem_cons_self
    exact (party_texts_plain (h _ (List.mem_map_of_mem hparty))).1

theorem date_plain_of_requested (h : AllPlain (requested_segments o)) :
    ∀ s ∈ o.requested_date, Plain s := by
  intro s hs
  unfold requested_segments at h
  cases hgiven : given o.requested_date with
  | none =>
    rw [Option.mem_def.mp hs] at hgiven
    rw [given_eq_none hgiven]
    decide
  | some date =>
    have hsame : date = s := Option.mem_unique (Option.mem_filter_iff.mp hgiven).1 hs
    subst hsame
    rw [hgiven] at h
    exact (ymd_plain_iff date).mp (h _ List.mem_cons_self _ (by simp))

/-- The elements of a document are plain just when the texts of the order are. -/
theorem allPlain_iff (hupper : KeepsDelimiters upper) {items : List LineItem} {total : String}
    (hitems : AreLines 0 (o.line_items.getD []) items) {value : PyFloat}
    (htotal : num value = .ok total) :
    AllPlain (all_segments upper o items total) ↔ TextsPlain o := by
  rw [all_segments_eq, allPlain_append, before, head_segments, allPlain_append, allPlain_append,
    allPlain_append]
  constructor
  · rintro ⟨⟨⟨⟨hopening, hrequested⟩, hparties⟩, hlines⟩, -⟩
    obtain ⟨hbuyer, hseller, hids⟩ := texts_plain_of_parties hparties
    have hnumber : Plain o.po_number :=
      hopening ("REF", ["PO", o.po_number]) (by simp [opening_segments]) _ (by simp)
    have hcurrency : Plain o.currency :=
      hopening ("CUR", ["BY", o.currency]) (by simp [opening_segments]) _ (by simp)
    have hdate : Plain (ymd o.po_date) :=
      hopening ("DTM", ["004", ymd o.po_date]) (by simp [opening_segments]) _ (by simp)
    intro t ht
    unfold free_texts at ht
    rcases List.mem_append.mp ht with ht | ht
    · rcases List.mem_append.mp ht with ht | ht
      · simp only [List.mem_cons, List.not_mem_nil, or_false] at ht
        rcases ht with rfl | rfl | rfl | rfl | rfl
        · exact hnumber
        · exact hcurrency
        · exact (ymd_plain_iff _).mp hdate
        · exact hbuyer
        · exact hseller
      · obtain ⟨a, ha, hta⟩ := List.mem_filterMap.mp ht
        have hcases : a ∈ [o.buyer_id, o.seller_id, o.ship_to_name] ∨ a = o.requested_date := by
          simpa [or_assoc] using ha
        rcases hcases with hmem | rfl
        · exact hids a hmem t hta
        · exact date_plain_of_requested hrequested t hta
    · obtain ⟨raw, hraw, ht⟩ := List.mem_flatMap.mp ht
      obtain ⟨key, hkey, ht⟩ := List.mem_filterMap.mp ht
      obtain ⟨l, hl, i, hline⟩ := hitems.mem.2 raw hraw
      exact line_texts_plain hline (fun s hs => hlines s (List.mem_flatMap.mpr ⟨l, hl, hs⟩))
        key hkey t ht
  · intro h
    refine ⟨⟨⟨⟨opening_plain hupper h, requested_plain h⟩, parties_plain h⟩, ?_⟩,
      closing_plain htotal _⟩
    intro s hs
    obtain ⟨l, hl, hs⟩ := List.mem_flatMap.mp hs
    obtain ⟨raw, hraw, i, hline⟩ := hitems.mem.1 l hl
    exact line_plain hline (fun key hkey => h.line hraw hkey) s hs

end elements

/-! ## Any order -/

theorem ids_known (upper : String → String) (o : Order) (items : List LineItem) (total : String) :
    ∀ s ∈ all_segments upper o items total, s.1 ∈ SEGMENT_IDS := by
  have hopening : ∀ s ∈ opening_segments upper o, s.1 ∈ SEGMENT_IDS := by
    simp [opening_segments, SEGMENT_IDS]
  have hrequested : ∀ s ∈ requested_segments o, s.1 ∈ SEGMENT_IDS := by
    unfold requested_segments
    cases given o.requested_date with
    | none => simp
    | some date => simp [SEGMENT_IDS]
  have hline : ∀ l : LineItem, ∀ s ∈ line_segments l, s.1 ∈ SEGMENT_IDS := by
    intro l
    cases hdescription : l.description with
    | none => simp [line_segments, description_segment, hdescription, SEGMENT_IDS]
    | some d => simp [line_segments, description_segment, hdescription, SEGMENT_IDS]
  have hclosing : ∀ s ∈ closing_segments o items total (before upper o items).length,
      s.1 ∈ SEGMENT_IDS := by
    simp [closing_segments, SEGMENT_IDS]
  intro s hs
  rw [all_segments_eq, before, head_segments] at hs
  rcases List.mem_append.mp hs with hs | hs
  · rcases List.mem_append.mp hs with hs | hs
    · rcases List.mem_append.mp hs with hs | hs
      · rcases List.mem_append.mp hs with hs | hs
        · exact hopening s hs
        · exact hrequested s hs
      · obtain ⟨p, -, rfl⟩ := List.mem_map.mp hs
        simp [party_segment, SEGMENT_IDS]
    · obtain ⟨l, -, hs⟩ := List.mem_flatMap.mp hs
      exact hline l s hs
  · exact hclosing s hs

/-- The raw text is read back as the Segment Map, and the views agree with
it, just when no text of the order holds a delimiter. -/
theorem raw_x12_reads_back_iff_no_text_has_a_delimiter (upper : String → String)
    (hupper : KeepsDelimiters upper) (o : Order) (doc : Document)
    (h : build_edi_850 upper o = .ok doc) :
    (read_x12 doc.raw_x12 = doc.segments.map (fun s => s.seg_id :: s.elements) ∧
      Consistent doc) ↔ ∀ t ∈ free_texts o, '*' ∉ t.toList ∧ '~' ∉ t.toList := by
  obtain ⟨items, total, hitems, htotal, rfl⟩ := build_ok upper o doc h
  have hsegments : (documentOf upper o items total).segments.map
      (fun s => s.seg_id :: s.elements) =
        (all_segments upper o items total).map fun s => s.1 :: s.2 := by
    rw [segments_documentOf, List.map_map]
    rfl
  rw [and_iff_left (documentOf_consistent upper o items total hitems), hsegments,
    raw_x12_documentOf, read_x12_iff (ids_known upper o items total)]
  refine (allPlain_iff hupper hitems htotal).trans ?_
  simp only [TextsPlain, plain_iff]

def sampleOrder : Order where
  order_id := "ORD-1"
  po_number := "4711"
  po_date := "2025-03-17"
  buyer_name := "WALMART"
  seller_name := "ACME"
  requested_date := some "2025-03-24"
  line_items := some [[("material", .str "BEV-1"), ("quantity", .int 12)]]

theorem a_plain_order_reads_back : ∃ doc, build_edi_850 id sampleOrder = .ok doc ∧
    ((read_x12 doc.raw_x12 = doc.segments.map (fun s => s.seg_id :: s.elements) ∧
      Consistent doc) ↔ ∀ t ∈ free_texts sampleOrder, '*' ∉ t.toList ∧ '~' ∉ t.toList) := by
  cases h : build_edi_850 id sampleOrder with
  | ok doc =>
    exact ⟨doc, rfl,
      raw_x12_reads_back_iff_no_text_has_a_delimiter id (fun _ h => h) sampleOrder doc h⟩
  | error e =>
    have hok : (build_edi_850 id sampleOrder).isOk = true := by decide +kernel
    rw [h] at hok
    cases hok

/-- A description with delimiters is transmitted as segments and elements
that the Segment Map does not have. -/
theorem a_starred_description_is_not_read_back :
    ∃ doc, build_edi_850 id { sampleOrder with
        line_items := some [[("description", .str "COLA 12*355ML~"), ("quantity", .int 12)]] } =
          .ok doc ∧
      read_x12 doc.raw_x12 ≠ doc.segments.map fun s => s.seg_id :: s.elements := by
  decide +kernel

end asoe.edi850
