-- The numbers of a purchase order (gateways/edi850.py): finite quantities and
-- prices are written to six decimal places, the decoded view keeps them as
-- floats, and the amounts are rounded to cents.
import Asoe.Edi850Views
import Asoe.Lib.Cents
import Asoe.Lib.DecimalText
import Asoe.Lib.FloatSums

open py prog

namespace asoe.edi850

/-! ## Numbers in elements -/

/-- The number that a numeric element stands for. -/
def x12_number (text : String) : Option ℚ := decimal_text.literal? text.toList

/-- The element stands for a finite value, to six decimal places. -/
def Denotes (text : String) (value : PyFloat) : Prop :=
  ∃ q, value = .fin q ∧ x12_number text = some (round_to 6 q)

theorem rstrip_eq (c : Char) (cs : List Char) : rstrip c cs = decimal_text.dropEnd c cs := rfl

theorem toInt_fin (q : ℚ) : ∃ n, (PyVal.float (.fin q)).toInt = .ok n := by
  unfold PyVal.toInt
  exact ⟨_, rfl⟩

theorem literal?_fixed (q : ℚ) :
    decimal_text.literal? (rstrip '.' (rstrip '0' (fixed 6 (.fin q)).toList)) =
      some (round_to 6 q) := by
  obtain ⟨whole, frac, hplaces, hfixed⟩ := decimal_text.fixed_eq 6 (by decide) q
  have hread := decimal_text.literal?_trimmed hplaces (decide (q < 0))
  simp only [decide_eq_true_eq] at hread
  rw [rstrip_eq, rstrip_eq, hfixed, hread, decimal_text.round_to_signed]

/-- A finite number is written, to six decimal places. -/
theorem num_fin (q : ℚ) :
    ∃ text, num (.fin q) = .ok text ∧ x12_number text = some (round_to 6 q) := by
  obtain ⟨n, hn⟩ := toInt_fin q
  by_cases heq : (PyFloat.fin q).eq (.fin n) = true
  · refine ⟨toString n, ?_, ?_⟩
    · unfold num
      rw [ok_bind hn]
      simp only [heq, if_true]
      rfl
    · have hq : q = n := by simpa [PyFloat.eq] using heq
      rw [x12_number, decimal_text.literal?_int, hq, round_to_int]
  · refine ⟨String.ofList (rstrip '.' (rstrip '0' (fixed 6 (.fin q)).toList)), ?_, ?_⟩
    · unfold num
      rw [ok_bind hn]
      simp only [heq]
      rfl
    · rw [x12_number, String.toList_ofList, literal?_fixed]

theorem num_text_denotes {value : PyFloat} (h : ∃ q, value = .fin q) :
    Denotes (num_text value) value := by
  obtain ⟨q, rfl⟩ := h
  obtain ⟨text, htext, hnumber⟩ := num_fin q
  exact ⟨q, rfl, by rw [num_text_of_ok htext, hnumber]⟩

/-! ## The numbers of an order -/

/-- What `float` makes of a value of a line, if it is there and is taken. -/
def given_number (raw : PyDict) (key : String) : Option PyFloat :=
  (as_float (.ofOption (dict.get raw key))).toOption.join

/-- The value is missing, or `float` makes a finite number of it. -/
def Admitted (raw : PyDict) (key : String) : Prop :=
  ∃ x, as_float (.ofOption (dict.get raw key)) = .ok x ∧ ∀ v ∈ x, ∃ q, v = .fin q

def given_quantity (raw : PyDict) : PyFloat := or_zero (given_number raw "quantity")

/-- The amounts that are there, added with each partial sum rounded to cents. -/
def rounded_sum (xs : List PyFloat) : Option PyFloat :=
  if xs = [] then none else some (cents.running (.fin 0) xs)

/-- The decoded numbers of a line. -/
def ReadsNumbers (raw : PyDict) (l : LineItem) : Prop :=
  l.quantity = given_quantity raw ∧ l.unit_price = given_number raw "unit_price" ∧
    l.extended_amount = l.unit_price.map fun price => (l.quantity.mul price).roundTo 2

/-- PO102 and PO104 of a line: without a price PO104 is empty. -/
def WritesNumbers (l : LineItem) (po1 : List String) : Prop :=
  (∃ text, po1[1]? = some text ∧ Denotes text l.quantity) ∧
    ∃ text, po1[3]? = some text ∧
      (∀ price, l.unit_price = some price → Denotes text price) ∧
      (l.unit_price = none → text = "")

/-- The numeric elements and the decoded numbers of a document. -/
structure NumbersAgree (o : Order) (doc : Document) : Prop where
  reads : List.Forall₂ ReadsNumbers (o.line_items.getD []) doc.line_items
  writes : List.Forall₂ WritesNumbers doc.line_items (elementsOf doc "PO1")
  ctt02 : ∃ text, element doc "CTT" 2 = some text ∧
    Denotes text (float_sums.total (doc.line_items.map LineItem.quantity))
  total_quantity : doc.totals.total_quantity =
    (float_sums.total (doc.line_items.map LineItem.quantity)).roundTo 3
  total_amount : doc.totals.total_amount =
    rounded_sum (doc.line_items.filterMap LineItem.extended_amount)
  no_amount : doc.totals.total_amount = none ↔
    ∀ raw ∈ o.line_items.getD [], given_number raw "unit_price" = none
  exact_amount : ∀ cs : List ℤ,
    doc.line_items.filterMap LineItem.extended_amount = cs.map cents.amount → cs ≠ [] →
    (cs.map fun c => |c|).sum ≤ cents.limit →
    doc.totals.total_amount = some (cents.amount cs.sum)

theorem given_number_eq {raw : PyDict} {key : String} {x : Option PyFloat}
    (h : as_float (.ofOption (dict.get raw key)) = .ok x) : given_number raw key = x := by
  rw [given_number, h]
  rfl

theorem finite_or_zero {x : Option PyFloat} (h : ∀ v ∈ x, ∃ q, v = .fin q) :
    ∃ q, or_zero x = .fin q := by
  cases x with
  | none => exact ⟨0, rfl⟩
  | some v => exact h v rfl

theorem isLine_of_admitted {raw : PyDict} (hquantity : Admitted raw "quantity")
    (hprice : Admitted raw "unit_price") (i : ℕ) : ∃ l, IsLine raw i l := by
  obtain ⟨x, hx, hxfin⟩ := hquantity
  obtain ⟨price, hp, hpfin⟩ := hprice
  obtain ⟨q, hq⟩ := finite_or_zero hxfin
  obtain ⟨text, htext, -⟩ := num_fin q
  refine ⟨decoded raw i (or_zero x) price, rfl, rfl, rfl, rfl, rfl, ⟨x, hx, rfl⟩, hp, ⟨text, ?_⟩,
    ?_, rfl⟩
  · rw [decoded, hq]
    exact htext
  · rintro p rfl
    obtain ⟨r, rfl⟩ := hpfin p rfl
    obtain ⟨text, htext, -⟩ := num_fin r
    exact ⟨text, htext⟩

theorem areLines_of_admitted {raws : List PyDict}
    (h : ∀ raw ∈ raws, Admitted raw "quantity" ∧ Admitted raw "unit_price") (i : ℕ) :
    ∃ items, AreLines i raws items := by
  induction raws generalizing i with
  | nil => exact ⟨[], List.Forall₂.nil⟩
  | cons raw raws ih =>
    obtain ⟨hquantity, hprice⟩ := h raw List.mem_cons_self
    obtain ⟨l, hl⟩ := isLine_of_admitted hquantity hprice i
    obtain ⟨items, hitems⟩ := ih (fun r hr => h r (List.mem_cons_of_mem _ hr)) (i + 1)
    exact ⟨l :: items, List.Forall₂.cons hl hitems⟩

theorem IsLine.reads {raw : PyDict} {i : ℕ} {l : LineItem} (h : IsLine raw i l) :
    ReadsNumbers raw l := by
  obtain ⟨x, hx, hquantity⟩ := h.quantity
  refine ⟨?_, ?_, h.extended⟩
  · rw [hquantity, given_quantity, given_number_eq hx]
  · rw [given_number_eq h.unit_price]

theorem IsLine.finite {raw : PyDict} {i : ℕ} {l : LineItem} (h : IsLine raw i l)
    (hquantity : Admitted raw "quantity") (hprice : Admitted raw "unit_price") :
    (∃ q, l.quantity = .fin q) ∧ ∀ price, l.unit_price = some price → ∃ q, price = .fin q := by
  obtain ⟨x, hx, hfin⟩ := hquantity
  obtain ⟨p, hp, hpfin⟩ := hprice
  obtain ⟨hq, hunit, -⟩ := h.reads
  rw [given_quantity, given_number_eq hx] at hq
  rw [given_number_eq hp] at hunit
  constructor
  · rw [hq]
    exact finite_or_zero hfin
  · intro price hl
    exact hpfin price (hunit.symm.trans hl)

theorem writes_of_finite {l : LineItem} (hquantity : ∃ q, l.quantity = .fin q)
    (hprice : ∀ price, l.unit_price = some price → ∃ q, price = .fin q) :
    WritesNumbers l (po1_elements l) := by
  refine ⟨⟨num_text l.quantity, rfl, num_text_denotes hquantity⟩, ?_⟩
  unfold po1_elements price_elements
  cases hunit : l.unit_price with
  | none =>
    refine ⟨"", rfl, ?_, fun _ => rfl⟩
    rintro price ⟨⟩
  | some price =>
    refine ⟨num_text price, rfl, ?_, ?_⟩
    · rintro p ⟨⟩
      exact num_text_denotes (hprice price hunit)
    · rintro ⟨⟩

/-! ## The total amount -/

/-- The loop adds up the amounts that are there. -/
theorem foldl_next_amount (items : List LineItem) (total : Option PyFloat) :
    items.foldl next_amount total =
      let amounts := items.filterMap LineItem.extended_amount
      if amounts = [] then total else some (cents.running (or_zero total) amounts) := by
  induction items generalizing total with
  | nil => simp
  | cons l items ih =>
    rw [List.foldl_cons, ih]
    dsimp only
    cases hl : l.extended_amount with
    | none => simp [next_amount, hl]
    | some extended =>
      rw [List.filterMap_cons_some hl, if_neg (List.cons_ne_nil _ _)]
      simp only [next_amount, hl, cents.running, List.foldl_cons]
      split
      · rename_i hempty
        rw [hempty]
        rfl
      · rfl

theorem rounded_sum_eq_none {xs : List PyFloat} : rounded_sum xs = none ↔ xs = [] := by
  simp [rounded_sum]

theorem rounded_sum_cents {cs : List ℤ} (hne : cs ≠ [])
    (h : (cs.map fun c => |c|).sum ≤ cents.limit) :
    rounded_sum (cs.map cents.amount) = some (cents.amount cs.sum) := by
  have hsum : cents.running (cents.amount 0) (cs.map cents.amount) = cents.amount (0 + cs.sum) :=
    cents.running_cents (by simpa using h)
  rw [cents.amount_zero, zero_add] at hsum
  rw [rounded_sum, if_neg (by simpa using hne), hsum]

/-! ## The document -/

theorem ctt_elements (upper : String → String) (o : Order) (items : List LineItem)
    (total : String) : elementsOf (documentOf upper o items total) "CTT" =
      [[toString items.length, total]] := by
  rw [elementsOf_documentOf, named_all, named_requested, named_parties, named_lines]
  simp [named, opening_segments, closing_segments]

theorem AreLines.reads {i : ℕ} {raws : List PyDict} {items : List LineItem}
    (h : AreLines i raws items) : List.Forall₂ ReadsNumbers raws items := by
  induction raws generalizing i items with
  | nil =>
    cases h
    exact List.Forall₂.nil
  | cons raw raws ih =>
    cases h with
    | cons hl hitems => exact List.Forall₂.cons hl.reads (ih hitems)

theorem quantities_of_reads {raws : List PyDict} {items : List LineItem}
    (h : List.Forall₂ ReadsNumbers raws items) :
    items.map LineItem.quantity = raws.map given_quantity := by
  induction h with
  | nil => rfl
  | cons hl _ ih => rw [List.map_cons, List.map_cons, ih, hl.1]

theorem amounts_eq_nil_of_reads {raws : List PyDict} {items : List LineItem}
    (h : List.Forall₂ ReadsNumbers raws items) :
    items.filterMap LineItem.extended_amount = [] ↔
      ∀ raw ∈ raws, given_number raw "unit_price" = none := by
  induction h with
  | nil => simp
  | @cons raw l raws items hl _ ih =>
    have hline : l.extended_amount = none ↔ given_number raw "unit_price" = none := by
      rw [hl.2.2, hl.2.1, Option.map_eq_none_iff]
    rw [List.forall_mem_cons, ← ih, ← hline, List.filterMap_eq_nil_iff, List.filterMap_eq_nil_iff,
      List.forall_mem_cons]

/-- With finite quantities and prices the document is built. Its numeric
elements denote the decoded quantities, the prices and the sum of the
quantities to six decimal places; the totals are rounded to three places and
to cents. -/
theorem finite_numbers_are_written_to_six_places (upper : String → String) (o : Order)
    (hlines : ∀ raw ∈ o.line_items.getD [], Admitted raw "quantity" ∧ Admitted raw "unit_price")
    (hsum : ∃ q, float_sums.total ((o.line_items.getD []).map given_quantity) = .fin q) :
    ∃ doc, build_edi_850 upper o = .ok doc ∧ NumbersAgree o doc := by
  obtain ⟨items, hitems⟩ := areLines_of_admitted hlines 0
  have hreads := hitems.reads
  obtain ⟨q, hq⟩ := hsum
  rw [← quantities_of_reads hreads] at hq
  obtain ⟨total, htotal, hnumber⟩ := num_fin q
  have hnum : num (linesOf upper o items).total_qty = .ok total := by
    have hqty : (linesOf upper o items).total_qty =
        float_sums.total (items.map LineItem.quantity) := rfl
    rw [hqty, hq, htotal]
  have hconsistent := documentOf_consistent upper o items total hitems
  have hamount : (documentOf upper o items total).totals.total_amount =
      rounded_sum (items.filterMap LineItem.extended_amount) := by
    have hfold : (documentOf upper o items total).totals.total_amount =
        items.foldl next_amount none := by simp only [documentOf, project, linesOf]
    rw [hfold, foldl_next_amount]
    rfl
  refine ⟨documentOf upper o items total, build_of_lines hitems hnum, hreads, ?_, ?_, ?_, hamount,
    ?_, ?_⟩
  · have hlines' : (documentOf upper o items total).line_items = items := by
      simp only [documentOf, project, linesOf]
    rw [hconsistent.lines, hlines', List.forall₂_map_right_iff, List.forall₂_same]
    intro l hl
    obtain ⟨raw, hraw, i, hline⟩ := hitems.mem.1 l hl
    obtain ⟨hquantity, hprice⟩ := hline.finite (hlines raw hraw).1 (hlines raw hraw).2
    exact writes_of_finite hquantity hprice
  · refine ⟨total, ?_, q, ?_, hnumber⟩
    · rw [element_eq, ctt_elements]
      rfl
    · simpa only [documentOf, project, linesOf] using hq
  · simp only [documentOf, project, linesOf, float_sums.total]
  · rw [hamount, rounded_sum_eq_none, amounts_eq_nil_of_reads hreads]
  · intro cs hcs hne hlimit
    have hcs' : items.filterMap LineItem.extended_amount = cs.map cents.amount := by
      simpa only [documentOf, project, linesOf] using hcs
    rw [hamount, hcs', rounded_sum_cents hne hlimit]

/-- An order of these lines. -/
def orderOf (items : List PyDict) : Order where
  order_id := "ORD-1"
  po_number := "4711"
  po_date := "2025-03-17"
  buyer_name := "WALMART"
  seller_name := "ACME"
  line_items := some items

/-- Two lines, of which one has no price. -/
def pricedLines : List PyDict :=
  [[("quantity", .str "2.5"), ("unit_price", .int 3)], [("quantity", .int 4)]]

theorem the_numbers_of_a_priced_order_agree :
    ∃ doc, build_edi_850 id (orderOf pricedLines) = .ok doc ∧
      NumbersAgree (orderOf pricedLines) doc := by
  refine finite_numbers_are_written_to_six_places id (orderOf pricedLines) ?_ ⟨13 / 2, ?_⟩
  · intro raw hraw
    have hraw' : raw ∈ pricedLines := hraw
    simp only [pricedLines, List.mem_cons, List.not_mem_nil, or_false] at hraw'
    rcases hraw' with rfl | rfl
    · exact ⟨⟨some (.fin (5 / 2)), by decide +kernel, by simp⟩,
        ⟨some (.fin 3), by decide +kernel, by simp⟩⟩
    · exact ⟨⟨some (.fin 4), by decide +kernel, by simp⟩, ⟨none, by decide +kernel, by simp⟩⟩
  · decide +kernel

/-- The price of one unit. -/
def oneAt (price : PyFloat) : PyDict := [("quantity", .int 1), ("unit_price", .float price)]

/-- A tiny quantity is written as zero, the total that is decoded has fewer
places than CTT02, the amounts are not summed exactly, and an infinite quantity
is refused. -/
theorem numbers_are_written_differently :
    (∃ doc, build_edi_850 id (orderOf [[("quantity", .float (.ofRat (4 / 10000000)))]]) = .ok doc ∧
      doc.line_items.map LineItem.quantity = [.ofRat (4 / 10000000)] ∧
      PyFloat.ofRat (4 / 10000000) ≠ .fin 0 ∧
      (element doc "PO1" 2).bind x12_number = some 0) ∧
    (∃ doc, build_edi_850 id (orderOf [[("quantity", .float (.ofRat (4 / 10000)))]]) = .ok doc ∧
      doc.totals.total_quantity = .fin 0 ∧
      (element doc "CTT" 2).bind x12_number = some (4 / 10000)) ∧
    (∃ doc, build_edi_850 id (orderOf [oneAt (.fin (10 ^ 16)), oneAt (.fin 1), oneAt (.fin 1)]) =
        .ok doc ∧
      doc.line_items.filterMap LineItem.extended_amount = [.fin (10 ^ 16), .fin 1, .fin 1] ∧
      doc.totals.total_amount = some (.fin (10 ^ 16))) ∧
    (build_edi_850 id (orderOf [[("quantity", .float (.inf false))]])).isOk = false := by
  decide +kernel

end asoe.edi850
