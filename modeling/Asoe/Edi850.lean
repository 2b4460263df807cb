-- The purchase order that is shown as an X12 document (gateways/edi850.py):
-- the segments in the order of transmission, and beside them the decoded
-- views and the raw text.
import Asoe.Lib.Base64
import Asoe.Lib.Crc32
import Asoe.Lib.PyArith

open py

namespace asoe.edi850

/-! ## Constants -/

def ELEMENT_SEP : String := "*"
def SEGMENT_TERM : String := "~"
def X12_VERSION : String := "005010"
def GS_VERSION : String := "005010"

def SEGMENT_GROUP : List (String × String) :=
  [("ISA", "envelope"), ("GS", "envelope"), ("ST", "envelope"), ("BEG", "header"),
    ("CUR", "header"), ("REF", "header"), ("DTM", "dates"), ("N1", "party"), ("N3", "party"),
    ("N4", "party"), ("PO1", "line"), ("PID", "line"), ("CTT", "trailer"), ("SE", "trailer"),
    ("GE", "trailer"), ("IEA", "trailer")]

def SEGMENT_MEANING : List (String × String) :=
  [("ISA", "Interchange Control Header"), ("GS", "Functional Group Header"),
    ("ST", "Transaction Set Header"), ("BEG", "Beginning Segment for Purchase Order"),
    ("CUR", "Currency"), ("REF", "Reference Identification"), ("DTM", "Date/Time Reference"),
    ("N1", "Party Identification"), ("N3", "Party Location (Address)"),
    ("N4", "Geographic Location"), ("PO1", "Baseline Item Data"),
    ("PID", "Product/Item Description"), ("CTT", "Transaction Totals"),
    ("SE", "Transaction Set Trailer"), ("GE", "Functional Group Trailer"),
    ("IEA", "Interchange Control Trailer")]

def PARTY_ROLE : List (String × String) :=
  [("BY", "Buying Party (Purchaser)"), ("SE", "Selling Party"), ("ST", "Ship To")]

/-! ## The order and the document -/

/-- The arguments of `build_edi_850`. -/
structure Order where
  order_id : String
  po_number : String
  po_date : String
  buyer_name : String
  seller_name : String
  buyer_id : Option String := none
  seller_id : Option String := none
  ship_to_name : Option String := none
  currency : String := "USD"
  requested_date : Option String := none
  line_items : Option (List PyDict) := none

/-- A segment before it is rendered: its id and its elements. -/
abbrev Seg := String × List String

structure Segment where
  seg_id : String
  elements : List String
  raw : String
  meaning : String
  group : String

structure Party where
  entity_code : String
  role : String
  name : String
  id_qualifier : Option String
  id_value : Option String
  address : Option String
  city_state_zip : Option String

structure LineItem where
  line_num : String
  quantity : PyFloat
  uom : String
  unit_price : Option PyFloat
  product_qualifier : Option String
  product_id : Option String
  description : Option String
  extended_amount : Option PyFloat

structure Envelope where
  sender_id : String
  receiver_id : String
  interchange_control_number : String
  group_control_number : String
  transaction_set_control_number : String
  usage_indicator : String
  x12_version : String

structure Header where
  purpose_code : String
  po_type : String
  po_number : String
  po_date : String
  currency : String
  requested_delivery_date : Option String

structure Totals where
  total_line_items : ℕ
  total_quantity : PyFloat
  total_amount : Option PyFloat

structure Document where
  standard : String
  transaction_set : String
  envelope : Envelope
  header : Header
  parties : List Party
  line_items : List LineItem
  totals : Totals
  segments : List Segment
  raw_x12 : String

/-! ## Helpers -/

/-- `a or b` of texts. -/
def or_text (a : Option String) (b : String) : String :=
  match a with
  | some s => if s = "" then b else s
  | none => b

/-- `s[:n]`. -/
def first (n : ℕ) (s : String) : String := String.ofList (s.toList.take n)

def control (seed : String) (width : ℕ) : String :=
  let digits := Nat.toDigits 10 (crc32.checksum (base64.utf8 seed.toList) % 10 ^ width)
  String.ofList (zeros (width - digits.length) ++ digits)

/-- `s.lstrip("0") or "1"`. -/
def without_zeros (s : String) : String :=
  or_text (some (String.ofList (s.toList.dropWhile (· = '0')))) "1"

def ymd (iso : String) : String := String.ofList (iso.toList.filter fun c => c ≠ '-')

def yymmdd (iso : String) : String := String.ofList ((ymd iso).toList.drop 2)

def pad (value : String) (width : ℕ) : String :=
  let cs := value.toList.take width
  String.ofList (cs ++ List.replicate (width - cs.length) ' ')

/-- `s.rstrip(c)`. -/
def rstrip (c : Char) (cs : List Char) : List Char := (cs.reverse.dropWhile (· = c)).reverse

/-- `_num(value)`: a value that is no integer has six places, less the zeros
at the end. What `int` raises on no number is raised. -/
def num (value : PyFloat) : Except PyErr String := do
  let n ← (PyVal.float value).toInt
  if value.eq (.fin n) then return toString n
  else return String.ofList (rstrip '.' (rstrip '0' (fixed 6 value).toList))

/-- A value that `float` does not take counts as missing; an integer that is
too large for a float is raised. -/
def as_float (value : PyVal) : Except PyErr (Option PyFloat) :=
  match value with
  | .none => .ok none
  | value =>
    match value.toFloat with
    | .ok x => .ok (some x)
    | .error e => if e.kind = "TypeError" ∨ e.kind = "ValueError" then .ok none else .error e

def render (seg : Seg) : Segment where
  seg_id := seg.1
  elements := seg.2
  raw := join ELEMENT_SEP (seg.1 :: seg.2) ++ SEGMENT_TERM
  meaning := (dict.get SEGMENT_MEANING seg.1).getD seg.1
  group := (dict.get SEGMENT_GROUP seg.1).getD "header"

/-- A text that counts as true. -/
def given (s : Option String) : Option String := s.filter fun s => s ≠ ""

def party (entity_code name : String) (id_value : Option String) : Party where
  entity_code := entity_code
  role := (dict.get PARTY_ROLE entity_code).getD entity_code
  name := name
  id_qualifier := (given id_value).map fun _ => "92"
  id_value := id_value
  address := none
  city_state_zip := none

def party_segment (p : Party) : Seg :=
  ("N1", [p.entity_code, p.name] ++
    match given p.id_value with
    | some id_value => [or_text p.id_qualifier "92", id_value]
    | none => [])

/-! ## Line items -/

/-- What the loop over the line items carries. -/
structure Lines where
  segs : List Seg
  out_lines : List LineItem
  total_qty : PyFloat
  total_amount : Option PyFloat

/-- `raw.get(key)` as a text, if it counts as true. -/
def given_text (raw : PyDict) (key : String) : Option String :=
  let value := PyVal.ofOption (dict.get raw key)
  if value.truthy then some value.toStr else none

/-- `x or 0.0`. -/
def or_zero (x : Option PyFloat) : PyFloat := x.getD (.fin 0)

def add_line (st : Lines) (raw : PyDict) : Except PyErr Lines := do
  let line_num := (given_text raw "line_num").getD (toString (st.out_lines.length + 1))
  let qty := or_zero (← as_float (.ofOption (dict.get raw "quantity")))
  let uom := (given_text raw "uom").getD "EA"
  let price ← as_float (.ofOption (dict.get raw "unit_price"))
  let material := given_text raw "material"
  let description := given_text raw "description"
  let extended := price.map fun price => (qty.mul price).roundTo 2
  let quantity_element ← num qty
  let price_elements ← match price with
    | some price => do pure [← num price, "PE"]
    | none => pure ["", ""]
  let product_elements := match material with
    | some material => ["VP", material]
    | none => []
  let pid : List Seg := match description with
    | some description => [("PID", ["F", "", "", "", description])]
    | none => []
  return {
    segs := st.segs ++
      ("PO1", [line_num, quantity_element, uom] ++ price_elements ++ product_elements) :: pid
    out_lines := st.out_lines ++ [{
      line_num, quantity := qty, uom, unit_price := price,
      product_qualifier := material.map fun _ => "VP", product_id := material, description,
      extended_amount := extended }]
    total_qty := st.total_qty.add qty
    total_amount := match extended with
      | some extended => some (((or_zero st.total_amount).add extended).roundTo 2)
      | none => st.total_amount }

/-! ## Control numbers and names -/

def isa_ctrl (o : Order) : String := control (o.order_id ++ "|isa") 9

def gs_ctrl (o : Order) : String := without_zeros (control (o.order_id ++ "|gs") 9)

def st_ctrl (o : Order) : String := control (o.order_id ++ "|st") 4

def isa_time : String := "0000"

def parties_of (o : Order) : List Party :=
  [party "BY" o.buyer_name o.buyer_id, party "SE" o.seller_name o.seller_id] ++
    match given o.ship_to_name with
    | some ship_to_name => [party "ST" ship_to_name none]
    | none => []

def requested_segments (o : Order) : List Seg :=
  match given o.requested_date with
  | some requested_date => [("DTM", ["002", ymd requested_date])]
  | none => []

section build

/-! ## The document -/

variable (upper : String → String)

/-- `upper` is `str.upper`. -/
def sender (o : Order) : String :=
  first 15 (upper (or_text o.buyer_id (or_text (some o.buyer_name) "BUYER")))

def receiver (o : Order) : String :=
  first 15 (upper (or_text o.seller_id (or_text (some o.seller_name) "SELLER")))

/-- The segments that every document begins with. -/
def opening_segments (o : Order) : List Seg :=
  [("ISA", ["00", pad "" 10, "00", pad "" 10, "ZZ", pad (sender upper o) 15, "ZZ",
      pad (receiver upper o) 15, yymmdd o.po_date, isa_time, "U", X12_VERSION, isa_ctrl o, "0", "P",
      ">"]),
    ("GS", ["PO", strip (sender upper o), strip (receiver upper o), ymd o.po_date, isa_time,
      gs_ctrl o, "X", GS_VERSION]),
    ("ST", ["850", st_ctrl o]),
    ("BEG", ["00", "SA", o.po_number, "", ymd o.po_date]),
    ("CUR", ["BY", o.currency]),
    ("REF", ["PO", o.po_number]),
    ("DTM", ["004", ymd o.po_date])]

/-- The segments before the line items. -/
def head_segments (o : Order) : List Seg :=
  opening_segments upper o ++ requested_segments o ++ (parties_of o).map party_segment

/-- `_index_of(segs, seg_id)`. -/
def index_of (segs : List Seg) (seg_id : String) : ℕ :=
  (segs.findIdx? fun seg => seg.1 = seg_id).getD 0

/-- The segments after the totals; the count goes from ST to SE. -/
def add_trailers (o : Order) (segs : List Seg) : List Seg :=
  let se_count := segs.length - index_of segs "ST" + 1
  segs ++ [("SE", [toString se_count, st_ctrl o]), ("GE", ["1", gs_ctrl o]),
    ("IEA", ["1", isa_ctrl o])]

/-- The structured views and the raw text. -/
def project (o : Order) (lines : Lines) (segs : List Seg) : Document where
  standard := "ANSI X12 5010"
  transaction_set := "850"
  envelope := {
    sender_id := strip (sender upper o)
    receiver_id := strip (receiver upper o)
    interchange_control_number := isa_ctrl o
    group_control_number := gs_ctrl o
    transaction_set_control_number := st_ctrl o
    usage_indicator := "P"
    x12_version := X12_VERSION }
  header := {
    purpose_code := "00"
    po_type := "SA"
    po_number := o.po_number
    po_date := o.po_date
    currency := o.currency
    requested_delivery_date := o.requested_date }
  parties := parties_of o
  line_items := lines.out_lines
  totals := {
    total_line_items := lines.out_lines.length
    total_quantity := lines.total_qty.roundTo 3
    total_amount := lines.total_amount }
  segments := segs.map render
  raw_x12 := join "\n" ((segs.map render).map Segment.raw)

def build_edi_850 (o : Order) : Except PyErr Document := do
  let lines ← (o.line_items.getD []).foldlM add_line
    { segs := head_segments upper o, out_lines := [], total_qty := .fin 0, total_amount := none }
  let segs := lines.segs ++ [("CTT", [toString lines.out_lines.length, ← num lines.total_qty])]
  return project upper o lines (add_trailers o segs)

end build

end asoe.edi850
