-- The views of a purchase order beside its segments (gateways/edi850.py): the
-- loop over the line items writes for each of them a decoded line and the
-- segments that stand for it, and the counts of the trailers are right.
import Asoe.Edi850
import Asoe.Lib.Prog
import Mathlib.Data.List.Forall2

open py prog

namespace asoe.edi850

/-! ## One line -/

/-- The text of a number that `num` takes. -/
def num_text (value : PyFloat) : String := (num value).toOption.getD ""

theorem num_text_of_ok {value : PyFloat} {text : String} (h : num value = .ok text) :
    num_text value = text := by
  rw [num_text, h]
  rfl

def price_elements : Option PyFloat → List String
  | some price => [num_text price, "PE"]
  | none => ["", ""]

def product_elements : Option String → List String
  | some material => ["VP", material]
  | none => []

def description_segment : Option String → List Seg
  | some description => [("PID", ["F", "", "", "", description])]
  | none => []

/-- The elements of the PO1 segment of a line. -/
def po1_elements (l : LineItem) : List String :=
  [l.line_num, num_text l.quantity, l.uom] ++ price_elements l.unit_price ++
    product_elements l.product_id

/-- The segments that stand for a decoded line. -/
def line_segments (l : LineItem) : List Seg :=
  ("PO1", po1_elements l) :: description_segment l.description

/-- The total amount after a line: a line without a price leaves it. -/
def next_amount (total : Option PyFloat) (l : LineItem) : Option PyFloat :=
  match l.extended_amount with
  | some extended => some (((or_zero total).add extended).roundTo 2)
  | none => total

/-- The decoded line number `i` of what was given for it. -/
structure IsLine (raw : PyDict) (i : ℕ) (l : LineItem) : Prop where
  line_num : l.line_num = (given_text raw "line_num").getD (toString (i + 1))
  uom : l.uom = (given_text raw "uom").getD "EA"
  product_id : l.product_id = given_text raw "material"
  description : l.description = given_text raw "description"
  qualifier : l.product_qualifier = l.product_id.map fun _ => "VP"
  quantity : ∃ x, as_float (.ofOption (dict.get raw "quantity")) = .ok x ∧ l.quantity = or_zero x
  unit_price : as_float (.ofOption (dict.get raw "unit_price")) = .ok l.unit_price
  quantity_text : ∃ text, num l.quantity = .ok text
  price_text : ∀ price, l.unit_price = some price → ∃ text, num price = .ok text
  extended : l.extended_amount = l.unit_price.map fun price => (l.quantity.mul price).roundTo 2

/-- What one turn of the loop adds for a line. -/
def Lines.add (st : Lines) (l : LineItem) : Lines where
  segs := st.segs ++ line_segments l
  out_lines := st.out_lines ++ [l]
  total_qty := st.total_qty.add l.quantity
  total_amount := next_amount st.total_amount l

/-- The line that is decoded from what was given and its two numbers. -/
def decoded (raw : PyDict) (i : ℕ) (quantity : PyFloat) (price : Option PyFloat) : LineItem where
  line_num := (given_text raw "line_num").getD (toString (i + 1))
  quantity := quantity
  uom := (given_text raw "uom").getD "EA"
  unit_price := price
  product_qualifier := (given_text raw "material").map fun _ => "VP"
  product_id := given_text raw "material"
  description := given_text raw "description"
  extended_amount := price.map fun price => (quantity.mul price).roundTo 2

theorem add_line_ok (st : Lines) (raw : PyDict) : returns (add_line st raw) fun st' =>
    ∃ l, IsLine raw st.out_lines.length l ∧ st' = st.add l := by
  unfold add_line
  refine returns_bind fun x hx => returns_bind fun price hprice => returns_bind fun qt hqt => ?_
  dsimp only
  cases price with
  | none =>
    refine returns_bind ((returns_pure _).mpr ((returns_pure _).mpr ?_))
    refine ⟨decoded raw st.out_lines.length (or_zero x) none, ?_, ?_⟩
    · exact ⟨rfl, rfl, rfl, rfl, rfl, ⟨x, hx, rfl⟩, hprice, ⟨qt, hqt⟩, by rintro p ⟨⟩, rfl⟩
    · rw [Lines.add, line_segments, po1_elements, decoded, num_text_of_ok hqt]
      rfl
  | some price =>
    refine returns_bind fun pt hpt => returns_bind ((returns_pure _).mpr ((returns_pure _).mpr ?_))
    refine ⟨decoded raw st.out_lines.length (or_zero x) (some price), ?_, ?_⟩
    · refine ⟨rfl, rfl, rfl, rfl, rfl, ⟨x, hx, rfl⟩, hprice, ⟨qt, hqt⟩, ?_, rfl⟩
      rintro p ⟨⟩
      exact ⟨pt, hpt⟩
    · rw [Lines.add, line_segments, po1_elements, decoded, num_text_of_ok hqt, price_elements,
        num_text_of_ok hpt]
      rfl

/-- What was given has one decoded line. -/
theorem IsLine.unique {raw : PyDict} {i : ℕ} {l l' : LineItem} (h : IsLine raw i l)
    (h' : IsLine raw i l') : l = l' := by
  have hquantity : l.quantity = l'.quantity := by
    obtain ⟨x, hx, hl⟩ := h.quantity
    obtain ⟨x', hx', hl'⟩ := h'.quantity
    rw [hx] at hx'
    cases hx'
    rw [hl, hl']
  have hprice : l.unit_price = l'.unit_price :=
    Except.ok.inj (h.unit_price.symm.trans h'.unit_price)
  have hproduct := h.product_id.trans h'.product_id.symm
  have hqualifier : l.product_qualifier = l'.product_qualifier := by
    rw [h.qualifier, h'.qualifier, hproduct]
  have hextended : l.extended_amount = l'.extended_amount := by
    rw [h.extended, h'.extended, hprice, hquantity]
  have hnum := h.line_num.trans h'.line_num.symm
  have huom := h.uom.trans h'.uom.symm
  have hdescription := h.description.trans h'.description.symm
  cases l
  cases l'
  simp only [LineItem.mk.injEq]
  exact ⟨hnum, hquantity, huom, hprice, hqualifier, hproduct, hdescription, hextended⟩

/-- A line that is well formed is added. -/
theorem add_line_of_line {st : Lines} {raw : PyDict} {l : LineItem}
    (h : IsLine raw st.out_lines.length l) : add_line st raw = .ok (st.add l) := by
  obtain ⟨x, hx, hqty⟩ := h.quantity
  obtain ⟨qt, hqt⟩ := h.quantity_text
  rw [hqty] at hqt
  obtain ⟨st', hok⟩ : ∃ st', add_line st raw = .ok st' := by
    unfold add_line
    rw [ok_bind hx, ok_bind h.unit_price, ok_bind hqt]
    dsimp only
    cases hprice : l.unit_price with
    | none => exact ⟨_, rfl⟩
    | some price =>
      obtain ⟨pt, hpt⟩ := h.price_text price hprice
      dsimp only
      rw [ok_bind hpt]
      exact ⟨_, rfl⟩
  obtain ⟨l', hl', rfl⟩ := add_line_ok st raw st' hok
  rw [hok, h.unique hl']

/-! ## The loop -/

/-- The lines decoded from a list, numbered from `i`. -/
def AreLines (i : ℕ) (raws : List PyDict) (items : List LineItem) : Prop :=
  List.Forall₂ (fun p l => IsLine p.1 p.2 l) (raws.zipIdx i) items

/-- Each line was given, and each that was given has its line. -/
theorem AreLines.mem {i : ℕ} {raws : List PyDict} {items : List LineItem}
    (h : AreLines i raws items) : (∀ l ∈ items, ∃ raw ∈ raws, ∃ j, IsLine raw j l) ∧
      ∀ raw ∈ raws, ∃ l ∈ items, ∃ j, IsLine raw j l := by
  induction raws generalizing i items with
  | nil =>
    cases h
    simp
  | cons raw raws ih =>
    cases h with
    | @cons _ l _ items hl hitems =>
      obtain ⟨hgiven, hline⟩ := ih hitems
      constructor
      · intro l' hl'
        rcases List.mem_cons.mp hl' with rfl | hmem
        · exact ⟨raw, List.mem_cons_self, i, hl⟩
        · obtain ⟨raw', hraw', hj⟩ := hgiven l' hmem
          exact ⟨raw', List.mem_cons_of_mem _ hraw', hj⟩
      · intro raw' hraw'
        rcases List.mem_cons.mp hraw' with rfl | hmem
        · exact ⟨l, List.mem_cons_self, i, hl⟩
        · obtain ⟨l', hl', hj⟩ := hline raw' hmem
          exact ⟨l', List.mem_cons_of_mem _ hl', hj⟩

theorem add_lines_ok (raws : List PyDict) (st : Lines) :
    returns (raws.foldlM add_line st) fun st' =>
      ∃ items, AreLines st.out_lines.length raws items ∧ st' = items.foldl Lines.add st := by
  induction raws generalizing st with
  | nil => exact (returns_pure _).mpr ⟨[], List.Forall₂.nil, rfl⟩
  | cons raw raws ih =>
    rw [List.foldlM_cons]
    refine returns_bind (returns_mono (add_line_ok st raw) ?_)
    rintro st' ⟨l, hl, rfl⟩
    refine returns_mono (ih _) ?_
    rintro st' ⟨items, hitems, rfl⟩
    have hnext : (st.add l).out_lines.length = st.out_lines.length + 1 := by simp [Lines.add]
    rw [hnext] at hitems
    exact ⟨l :: items, List.Forall₂.cons hl hitems, rfl⟩

theorem add_lines_of_lines {raws : List PyDict} {items : List LineItem} {st : Lines}
    (h : AreLines st.out_lines.length raws items) :
    raws.foldlM add_line st = .ok (items.foldl Lines.add st) := by
  induction raws generalizing st items with
  | nil =>
    cases h
    rfl
  | cons raw raws ih =>
    cases h with
    | @cons _ l _ items hl hitems =>
      have hnext : (st.add l).out_lines.length = st.out_lines.length + 1 := by simp [Lines.add]
      rw [List.foldlM_cons, ok_bind (add_line_of_line hl)]
      exact ih (by rw [hnext]; exact hitems)

theorem foldl_add (items : List LineItem) (st : Lines) : items.foldl Lines.add st =
    { segs := st.segs ++ items.flatMap line_segments
      out_lines := st.out_lines ++ items
      total_qty := (items.map LineItem.quantity).foldl PyFloat.add st.total_qty
      total_amount := items.foldl next_amount st.total_amount } := by
  induction items generalizing st with
  | nil => simp
  | cons l items ih =>
    rw [List.foldl_cons, ih]
    simp [Lines.add]

/-! ## The document -/

/-- The state of the loop before the lines. -/
def noLines (upper : String → String) (o : Order) : Lines where
  segs := head_segments upper o
  out_lines := []
  total_qty := .fin 0
  total_amount := none

/-- The state of the loop after the lines. -/
def linesOf (upper : String → String) (o : Order) (items : List LineItem) : Lines where
  segs := head_segments upper o ++ items.flatMap line_segments
  out_lines := items
  total_qty := (items.map LineItem.quantity).foldl PyFloat.add (.fin 0)
  total_amount := items.foldl next_amount none

theorem linesOf_eq (upper : String → String) (o : Order) (items : List LineItem) :
    items.foldl Lines.add (noLines upper o) = linesOf upper o items := by
  rw [foldl_add]
  rfl

/-- The segments of a document with these lines. -/
def all_segments (upper : String → String) (o : Order) (items : List LineItem) (total : String) :
    List Seg :=
  add_trailers o (head_segments upper o ++ items.flatMap line_segments ++
    [("CTT", [toString items.length, total])])

/-- The document of these lines. -/
def documentOf (upper : String → String) (o : Order) (items : List LineItem) (total : String) :
    Document :=
  project upper o (linesOf upper o items) (all_segments upper o items total)

theorem build_ok (upper : String → String) (o : Order) :
    returns (build_edi_850 upper o) fun doc => ∃ items total,
      AreLines 0 (o.line_items.getD []) items ∧
      num (linesOf upper o items).total_qty = .ok total ∧
      doc = documentOf upper o items total := by
  refine returns_bind (returns_mono (add_lines_ok _ (noLines upper o)) ?_)
  rintro lines ⟨items, hitems, rfl⟩
  rw [linesOf_eq]
  refine returns_bind fun total htotal => ?_
  exact (returns_pure _).mpr ⟨items, total, hitems, htotal, rfl⟩

theorem build_of_lines {upper : String → String} {o : Order} {items : List LineItem}
    {total : String} (hitems : AreLines 0 (o.line_items.getD []) items)
    (htotal : num (linesOf upper o items).total_qty = .ok total) :
    build_edi_850 upper o = .ok (documentOf upper o items total) := by
  have hlines : (o.line_items.getD []).foldlM add_line (noLines upper o) =
      .ok (linesOf upper o items) := by
    have hstart : AreLines (noLines upper o).out_lines.length (o.line_items.getD []) items := hitems
    rw [add_lines_of_lines hstart, linesOf_eq]
  refine (ok_bind hlines _).trans ?_
  rw [ok_bind htotal]
  rfl

/-! ## The views agree with the segments -/

/-- Element `n` of the first segment with this id, as in `BEG03`. -/
def element (doc : Document) (seg_id : String) (n : ℕ) : Option String :=
  (doc.segments.find? fun s => s.seg_id = seg_id).bind fun s => s.elements[n - 1]?

/-- The elements of all segments with this id. -/
def elementsOf (doc : Document) (seg_id : String) : List (List String) :=
  (doc.segments.filter fun s => s.seg_id = seg_id).map Segment.elements

/-- The number of segments from the first `a` to the first `b` inclusive. -/
def inclusive (doc : Document) (a b : String) : ℕ :=
  let ids := doc.segments.map Segment.seg_id
  ids.idxOf b + 1 - ids.idxOf a

/-- The trailers count and repeat what they should, and each decoded value is
its element. -/
structure Consistent (doc : Document) : Prop where
  se01 : element doc "SE" 1 = some (toString (inclusive doc "ST" "SE"))
  se02 : element doc "SE" 2 = some doc.envelope.transaction_set_control_number
  st02 : element doc "ST" 2 = some doc.envelope.transaction_set_control_number
  ge02 : element doc "GE" 2 = some doc.envelope.group_control_number
  gs06 : element doc "GS" 6 = some doc.envelope.group_control_number
  iea02 : element doc "IEA" 2 = some doc.envelope.interchange_control_number
  isa13 : element doc "ISA" 13 = some doc.envelope.interchange_control_number
  senders : element doc "GS" 2 = some doc.envelope.sender_id ∧
    element doc "GS" 3 = some doc.envelope.receiver_id
  ctt01 : element doc "CTT" 1 = some (toString (elementsOf doc "PO1").length)
  lines_total : element doc "CTT" 1 = some (toString doc.totals.total_line_items)
  beg : elementsOf doc "BEG" = [[doc.header.purpose_code, doc.header.po_type, doc.header.po_number,
    "", ymd doc.header.po_date]]
  ref : elementsOf doc "REF" = [["PO", doc.header.po_number]]
  cur : elementsOf doc "CUR" = [["BY", doc.header.currency]]
  dtm : elementsOf doc "DTM" = ["004", ymd doc.header.po_date] ::
    ((given doc.header.requested_delivery_date).map fun date => ["002", ymd date]).toList
  parties : elementsOf doc "N1" = doc.parties.map fun p => (party_segment p).2
  lines : elementsOf doc "PO1" = doc.line_items.map po1_elements
  qualifiers : ∀ l ∈ doc.line_items, l.product_qualifier = l.product_id.map fun _ => "VP"
  descriptions : elementsOf doc "PID" =
    doc.line_items.flatMap fun l => (description_segment l.description).map Prod.snd

/-! ## Segments by their ids -/

/-- The elements of the segments with this id. -/
def named (segs : List Seg) (seg_id : String) : List (List String) :=
  (segs.filter fun s => s.1 = seg_id).map Prod.snd

theorem named_append (segs segs' : List Seg) (seg_id : String) :
    named (segs ++ segs') seg_id = named segs seg_id ++ named segs' seg_id := by
  simp [named]

theorem named_of_same {segs : List Seg} {k : String} (h : ∀ s ∈ segs, s.1 = k) (seg_id : String) :
    named segs seg_id = if k = seg_id then segs.map Prod.snd else [] := by
  unfold named
  split
  · rename_i heq
    rw [List.filter_eq_self.mpr fun s hs => by simpa [← heq] using h s hs]
  · rename_i hne
    rw [List.filter_eq_nil_iff.mpr fun s hs => by simpa [h s hs] using hne]
    rfl

section project

variable (upper : String → String) (o : Order) (items : List LineItem) (total : String)

theorem segments_documentOf : (documentOf upper o items total).segments =
    (all_segments upper o items total).map render := by
  simp only [documentOf, project]

theorem raw_x12_documentOf : (documentOf upper o items total).raw_x12 =
    join "\n" (((all_segments upper o items total).map render).map Segment.raw) := by
  simp only [documentOf, project]

theorem elementsOf_documentOf (seg_id : String) :
    elementsOf (documentOf upper o items total) seg_id =
      named (all_segments upper o items total) seg_id := by
  simp only [elementsOf, documentOf, project, named, List.filter_map, List.map_map]
  rfl

theorem element_eq (doc : Document) (seg_id : String) (n : ℕ) :
    element doc seg_id n = (elementsOf doc seg_id).head?.bind fun es => es[n - 1]? := by
  rw [element, elementsOf, List.head?_map, List.head?_filter]
  cases doc.segments.find? fun s => s.seg_id = seg_id with
  | none => rfl
  | some s => rfl

omit upper o items total in
theorem named_line (l : LineItem) (seg_id : String) : named (line_segments l) seg_id =
    if seg_id = "PO1" then [po1_elements l]
    else if seg_id = "PID" then (description_segment l.description).map Prod.snd
    else [] := by
  have hdescription : ∀ s ∈ description_segment l.description, s.1 = "PID" := by
    cases l.description with
    | none => simp [description_segment]
    | some d => simp [description_segment]
  have hcut : line_segments l =
      [("PO1", po1_elements l)] ++ description_segment l.description := rfl
  rw [hcut, named_append, named_of_same hdescription]
  by_cases hpo1 : seg_id = "PO1"
  · subst hpo1
    simp [named]
  · by_cases hpid : seg_id = "PID"
    · subst hpid
      simp [named]
    · simp [named, hpo1, hpid, Ne.symm hpo1, Ne.symm hpid]

omit upper o total in
theorem named_lines (seg_id : String) : named (items.flatMap line_segments) seg_id =
    if seg_id = "PO1" then items.map po1_elements
    else if seg_id = "PID" then
      items.flatMap fun l => (description_segment l.description).map Prod.snd
    else [] := by
  induction items with
  | nil => simp [named]
  | cons l items ih =>
    rw [List.flatMap_cons, named_append, ih, named_line]
    split
    · rfl
    · split
      · rfl
      · rfl

omit upper items total in
theorem named_parties (seg_id : String) : named ((parties_of o).map party_segment) seg_id =
    if "N1" = seg_id then (parties_of o).map fun p => (party_segment p).2 else [] := by
  rw [named_of_same (k := "N1"), List.map_map]
  · rfl
  · intro s hs
    obtain ⟨p, -, rfl⟩ := List.mem_map.mp hs
    rfl

omit upper items total in
theorem named_requested (seg_id : String) : named (requested_segments o) seg_id =
    if "DTM" = seg_id then ((given o.requested_date).map fun date => ["002", ymd date]).toList
    else [] := by
  unfold requested_segments
  cases given o.requested_date with
  | none => simp [named]
  | some date => rw [named_of_same (k := "DTM") (by simp)]; rfl

/-- The segments up to the last line. -/
def before : List Seg := head_segments upper o ++ items.flatMap line_segments

omit upper in
def closing_segments (count : ℕ) : List Seg :=
  [("CTT", [toString items.length, total]), ("SE", [toString count, st_ctrl o]),
    ("GE", ["1", gs_ctrl o]), ("IEA", ["1", isa_ctrl o])]

theorem all_segments_eq : all_segments upper o items total =
    before upper o items ++ closing_segments o items total (before upper o items).length := by
  have hindex : index_of (before upper o items ++ [("CTT", [toString items.length, total])]) "ST" =
      2 := by
    simp [before, head_segments, opening_segments, index_of, List.findIdx?_cons]
  have hlength : 7 ≤ (before upper o items).length := by
    simp [before, head_segments, opening_segments]
  have hall : all_segments upper o items total =
      add_trailers o (before upper o items ++ [("CTT", [toString items.length, total])]) := rfl
  have hcount : (before upper o items).length + 1 - 2 + 1 = (before upper o items).length := by
    omega
  rw [hall, add_trailers, hindex, List.length_append, List.length_singleton, hcount,
    List.append_assoc]
  rfl

theorem named_all (seg_id : String) : named (all_segments upper o items total) seg_id =
    named (opening_segments upper o) seg_id ++ named (requested_segments o) seg_id ++
      named ((parties_of o).map party_segment) seg_id ++
      named (items.flatMap line_segments) seg_id ++
      named (closing_segments o items total (before upper o items).length) seg_id := by
  rw [all_segments_eq, named_append, before, named_append, head_segments, named_append,
    named_append]

theorem inclusive_documentOf :
    inclusive (documentOf upper o items total) "ST" "SE" = (before upper o items).length := by
  have hids : (documentOf upper o items total).segments.map Segment.seg_id =
      (before upper o items).map Prod.fst ++ ["CTT", "SE", "GE", "IEA"] := by
    have hsegments : (documentOf upper o items total).segments.map Segment.seg_id =
        (all_segments upper o items total).map Prod.fst := by
      simp only [documentOf, project, List.map_map]
      rfl
    rw [hsegments, all_segments_eq, List.map_append]
    rfl
  have hse : "SE" ∉ (before upper o items).map Prod.fst := by
    intro h
    obtain ⟨s, hs, hid⟩ := List.mem_map.mp h
    have hnamed : s.2 ∈ named (before upper o items) "SE" :=
      List.mem_map_of_mem (List.mem_filter.mpr ⟨hs, decide_eq_true hid⟩)
    rw [before, named_append, head_segments, named_append, named_append, named_requested,
      named_parties, named_lines] at hnamed
    simp [named, opening_segments] at hnamed
  have hst : ((before upper o items).map Prod.fst ++
      ["CTT", "SE", "GE", "IEA"]).idxOf "ST" = 2 := by
    simp [before, head_segments, opening_segments]
  unfold inclusive
  dsimp only
  rw [hids, hst, List.idxOf_append_of_notMem hse, List.length_map]
  rfl

/-- The views of a document agree with its segments. -/
theorem documentOf_consistent (hitems : AreLines 0 (o.line_items.getD []) items) :
    Consistent (documentOf upper o items total) := by
  have hnamed : ∀ seg_id, elementsOf (documentOf upper o items total) seg_id =
      named (opening_segments upper o) seg_id ++
        (if "DTM" = seg_id then ((given o.requested_date).map fun date => ["002", ymd date]).toList
          else []) ++
        (if "N1" = seg_id then (parties_of o).map fun p => (party_segment p).2 else []) ++
        (if seg_id = "PO1" then items.map po1_elements
          else if seg_id = "PID" then
            items.flatMap fun l => (description_segment l.description).map Prod.snd
          else []) ++
        named (closing_segments o items total (before upper o items).length) seg_id := by
    intro seg_id
    rw [elementsOf_documentOf, named_all, named_requested, named_parties, named_lines]
  have hpo1 : elementsOf (documentOf upper o items total) "PO1" = items.map po1_elements := by
    rw [hnamed]
    simp [named, opening_segments, closing_segments]
  have hclosing : ∀ seg_id ∈ ["ISA", "GS", "ST", "BEG", "CUR", "REF", "CTT", "SE", "GE", "IEA"],
      elementsOf (documentOf upper o items total) seg_id =
        named (opening_segments upper o ++
          closing_segments o items total (before upper o items).length) seg_id := by
    intro seg_id hid
    have hdtm : "DTM" ≠ seg_id := by rintro rfl; simp at hid
    have hn1 : "N1" ≠ seg_id := by rintro rfl; simp at hid
    have hpo1 : seg_id ≠ "PO1" := by rintro rfl; simp at hid
    have hpid : seg_id ≠ "PID" := by rintro rfl; simp at hid
    rw [hnamed, if_neg hdtm, if_neg hn1, if_neg hpo1, if_neg hpid, named_append]
    simp
  have helement : ∀ seg_id ∈ ["ISA", "GS", "ST", "BEG", "CUR", "REF", "CTT", "SE", "GE", "IEA"],
      ∀ n, element (documentOf upper o items total) seg_id n =
        (named (opening_segments upper o ++ closing_segments o items total
          (before upper o items).length) seg_id).head?.bind fun es => es[n - 1]? := by
    intro seg_id hid n
    rw [element_eq, hclosing seg_id hid]
  have hdtm : elementsOf (documentOf upper o items total) "DTM" = ["004", ymd o.po_date] ::
      ((given o.requested_date).map fun date => ["002", ymd date]).toList := by
    rw [hnamed]
    simp [named, opening_segments, closing_segments]
  have hparties : elementsOf (documentOf upper o items total) "N1" =
      (parties_of o).map fun p => (party_segment p).2 := by
    rw [hnamed]
    simp [named, opening_segments, closing_segments]
  have hpid : elementsOf (documentOf upper o items total) "PID" =
      items.flatMap fun l => (description_segment l.description).map Prod.snd := by
    rw [hnamed]
    simp [named, opening_segments, closing_segments]
  have hqualifiers : ∀ l ∈ items, l.product_qualifier = l.product_id.map fun _ => "VP" := by
    intro l hl
    obtain ⟨raw, -, i, hline⟩ := hitems.mem.1 l hl
    exact hline.qualifier
  constructor
  case se01 =>
    rw [helement _ (by simp), inclusive_documentOf]
    simp [named, opening_segments, closing_segments]
  case se02 | st02 | ge02 | gs06 | iea02 | isa13 =>
    rw [helement _ (by simp)]
    simp [named, opening_segments, closing_segments, documentOf, project]
  case senders =>
    rw [helement _ (by simp), helement _ (by simp)]
    simp [named, opening_segments, closing_segments, documentOf, project]
  case ctt01 =>
    rw [helement _ (by simp), hpo1, List.length_map]
    simp [named, opening_segments, closing_segments]
  case lines_total =>
    rw [helement _ (by simp)]
    simp [named, opening_segments, closing_segments, documentOf, project, linesOf]
  case beg | ref | cur =>
    rw [hclosing _ (by simp)]
    simp [named, opening_segments, closing_segments, documentOf, project]
  case dtm => exact hdtm
  case parties => exact hparties
  case lines => exact hpo1
  case qualifiers => exact hqualifiers
  case descriptions => exact hpid

end project

end asoe.edi850
