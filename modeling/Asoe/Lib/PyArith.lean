-- Arithmetic on Python values whose types are not known: the operators, the
-- comparisons, the containers and the format specs, with the exception that
-- each of them raises on operands that it does not take.
import Asoe.Lib.PyText
import Mathlib.Data.List.Sort

namespace py

/-- The name of a value's type, as error texts print it. -/
def type_name : PyVal → String
  | .none => "NoneType"
  | .bool _ => "bool"
  | .int _ => "int"
  | .float _ => "float"
  | .str _ => "str"
  | .list _ => "list"
  | .dict _ => "dict"

/-! ## Numbers -/

/-- `float(n)` of a number. -/
def floatOfNumber : ℤ ⊕ PyFloat → Except PyErr PyFloat
  | .inl n =>
    match PyFloat.ofInt? n with
    | some x => .ok x
    | none => .error ⟨"OverflowError", "int too large to convert to float"⟩
  | .inr x => .ok x

/-- An integer and a float are compared by their exact values. -/
def ltNumber : ℤ ⊕ PyFloat → ℤ ⊕ PyFloat → Bool
  | .inl a, .inl b => a < b
  | .inl a, .inr (.fin q) => (a : ℚ) < q
  | .inl _, .inr (.inf neg) => !neg
  | .inr (.fin q), .inl b => q < b
  | .inr (.inf neg), .inl _ => neg
  | .inr x, .inr y => x.lt y
  | _, _ => false

def leNumber (a b : ℤ ⊕ PyFloat) : Bool := ltNumber a b || PyVal.eqNumber a b

/-- Two integers give an integer; with a float among them, both are floats. -/
def arithNumber (onInts : ℤ → ℤ → ℤ) (onFloats : PyFloat → PyFloat → PyFloat) :
    ℤ ⊕ PyFloat → ℤ ⊕ PyFloat → Except PyErr PyVal
  | .inl a, .inl b => .ok (.int (onInts a b))
  | a, b => do return .float (onFloats (← floatOfNumber a) (← floatOfNumber b))

/-- `a / b`. -/
def divNumber : ℤ ⊕ PyFloat → ℤ ⊕ PyFloat → Except PyErr PyVal
  | .inl a, .inl b =>
    if b = 0 then .error ⟨"ZeroDivisionError", "division by zero"⟩
    else match PyFloat.ofRat (a / b) with
      | .fin q => .ok (.float (.fin q))
      | _ => .error ⟨"OverflowError", "integer division result too large for a float"⟩
  | a, b => do
    match (← floatOfNumber a).div? (← floatOfNumber b) with
    | some x => return .float x
    | none => throw ⟨"ZeroDivisionError", "float division by zero"⟩

/-- The float `x // y`, by the steps of CPython's `float_floor_div`: the
remainder is exact, and the quotient is corrected by its sign. -/
def PyFloat.floorDiv? (x y : PyFloat) : Option PyFloat :=
  match x, y with
  | _, .nan => some .nan
  | .fin a, .fin b =>
    if b = 0 then none
    else
      let truncated : ℤ := if a / b < 0 then (a / b).ceil else (a / b).floor
      let rem := a - b * truncated
      let quot := (PyFloat.ofRat (a - rem)).div? y |>.getD .nan
      let quot := if rem ≠ 0 ∧ (b < 0) ≠ (rem < 0) then quot.sub (.fin 1) else quot
      match quot with
      | .fin q => some (.fin (if 1 / 2 < q - q.floor then q.floor + 1 else q.floor))
      | other => some other
  | .fin a, .inf neg => some (.fin (if a ≠ 0 ∧ neg ≠ decide (a < 0) then -1 else 0))
  | _, .fin b => if b = 0 then none else some .nan
  | _, _ => some .nan

/-! ## Operators -/

namespace PyVal

/-- What an operator raises on operands that it does not take. -/
def unsupported {α : Type} (op : String) (v w : PyVal) : Except PyErr α :=
  .error ⟨"TypeError", "unsupported operand type(s) for " ++ op ++ ": '" ++ type_name v
    ++ "' and '" ++ type_name w ++ "'"⟩

/-- An operator that takes numbers only. -/
def onNumbers {α : Type} (op : String) (f : ℤ ⊕ PyFloat → ℤ ⊕ PyFloat → Except PyErr α)
    (v w : PyVal) : Except PyErr α :=
  match v.number?, w.number? with
  | some a, some b => f a b
  | _, _ => unsupported op v w

/-- `v - w`. -/
def sub : PyVal → PyVal → Except PyErr PyVal := onNumbers "-" (arithNumber (· - ·) PyFloat.sub)

/-- `v / w`. -/
def div : PyVal → PyVal → Except PyErr PyVal := onNumbers "/" divNumber

/-- `v + w`. -/
def add (v w : PyVal) : Except PyErr PyVal :=
  match v, w with
  | .str a, .str b => .ok (.str (a ++ b))
  | .list xs, .list ys => .ok (.list (xs ++ ys))
  | _, _ => onNumbers "+" (arithNumber (· + ·) PyFloat.add) v w

/-- A sequence that is multiplied: by an integer it is repeated. -/
def repeated (again : ℕ → PyVal) (by_ : PyVal) : Except PyErr PyVal :=
  match by_.number? with
  | some (.inl n) => .ok (again n.toNat)
  | _ => .error ⟨"TypeError", "can't multiply sequence by non-int of type '" ++ type_name by_ ++ "'"⟩

/-- `v * w`. -/
def mul (v w : PyVal) : Except PyErr PyVal :=
  match v, w with
  | .str s, w => repeated (fun n => .str (String.join (List.replicate n s))) w
  | .list xs, w => repeated (fun n => .list (List.replicate n xs).flatten) w
  | v, .str s => repeated (fun n => .str (String.join (List.replicate n s))) v
  | v, .list xs => repeated (fun n => .list (List.replicate n xs).flatten) v
  | v, w => onNumbers "*" (arithNumber (· * ·) PyFloat.mul) v w

/-- `abs(v)`. -/
def abs (v : PyVal) : Except PyErr PyVal :=
  match v.number? with
  | some (.inl n) => .ok (.int |n|)
  | some (.inr x) => .ok (.float x.abs)
  | Option.none => .error ⟨"TypeError", "bad operand type for abs(): '" ++ type_name v ++ "'"⟩

/-- `round(v, digits)`. -/
def round (digits : ℕ) (v : PyVal) : Except PyErr PyVal :=
  match v.number? with
  | some (.inl n) => .ok (.int n)
  | some (.inr x) => .ok (.float (x.roundTo digits))
  | Option.none =>
    .error ⟨"TypeError", "type " ++ type_name v ++ " doesn't define __round__ method"⟩

/-! ## Comparisons -/

inductive CmpOp where
  | lt | le | gt | ge

def CmpOp.symbol : CmpOp → String
  | lt => "<"
  | le => "<="
  | gt => ">"
  | ge => ">="

def CmpOp.holds {α : Type} (below atMost : α → α → Bool) : CmpOp → α → α → Bool
  | lt, a, b => below a b
  | le, a, b => atMost a b
  | gt, a, b => below b a
  | ge, a, b => atMost b a

mutual

/-- `v < w`, `v <= w`, `v > w` or `v >= w`. -/
def compare (op : CmpOp) : PyVal → PyVal → Except PyErr Bool
  | .str a, .str b => .ok (op.holds (fun a b : String => a < b) (fun a b => !(b < a)) a b)
  | .list xs, .list ys => compareList op xs ys
  | v, w =>
    match v.number?, w.number? with
    | some a, some b => .ok (op.holds ltNumber leNumber a b)
    | _, _ => .error ⟨"TypeError", "'" ++ op.symbol ++ "' not supported between instances of '"
        ++ type_name v ++ "' and '" ++ type_name w ++ "'"⟩

/-- Lists are compared at their first difference. -/
def compareList (op : CmpOp) : List PyVal → List PyVal → Except PyErr Bool
  | [], [] => .ok (op.holds (fun _ _ => false) (fun _ _ => true) () ())
  | [], _ :: _ => .ok (op.holds (fun a b : ℕ => a < b) (fun a b => a ≤ b) 0 1)
  | _ :: _, [] => .ok (op.holds (fun a b : ℕ => a < b) (fun a b => a ≤ b) 1 0)
  | v :: xs, w :: ys => if v.eq w then compareList op xs ys else compare op v w

end

/-- `max(0.0, v)`. -/
def maxZero (v : PyVal) : Except PyErr PyVal := do
  return if ← compare .gt v (.float (.fin 0)) then v else .float (.fin 0)

/-- Python's `sum` of floats: the sum of nothing is the integer zero. -/
def sumFloats (xs : List PyFloat) : PyVal := if xs.isEmpty then .int 0 else .float (PyFloat.sum xs)

/-! ## Containers -/

/-- The value as a key: a list or a dictionary cannot be one. -/
def hashed (v : PyVal) : Except PyErr PyVal :=
  match v with
  | .list _ | .dict _ => .error ⟨"TypeError", "unhashable type: '" ++ type_name v ++ "'"⟩
  | v => .ok v

/-- `table.get(v)` for a table whose keys are strings. -/
def lookupIn {α : Type} (table : List (String × α)) (v : PyVal) : Except PyErr (Option α) := do
  match ← hashed v with
  | .str s => return py.dict.get table s
  | _ => return Option.none

/-- `v in names` for a set of strings. -/
def memberOf (names : List String) (v : PyVal) : Except PyErr Bool := do
  match ← hashed v with
  | .str s => return s ∈ names
  | _ => return false

/-- Does the text hold the part? -/
def holdsText (part : List Char) : List Char → Bool
  | [] => part.isEmpty
  | c :: cs => part.isPrefixOf (c :: cs) || holdsText part cs

/-- `v in w`. -/
def isIn (v : PyVal) : PyVal → Except PyErr Bool
  | .list xs => .ok (xs.any v.eq)
  | .dict d => do
    match ← hashed v with
    | .str s => return (py.dict.get d s).isSome
    | _ => return false
  | .str s =>
    match v with
    | .str part => .ok (holdsText part.toList s.toList)
    | v => .error ⟨"TypeError", "'in <string>' requires string as left operand, not "
        ++ type_name v⟩
  | w => .error ⟨"TypeError", "argument of type '" ++ type_name w ++ "' is not iterable"⟩

/-- `v[key]`. -/
def item (v : PyVal) (key : String) : Except PyErr PyVal :=
  match v with
  | .dict d =>
    match py.dict.get d key with
    | some x => .ok x
    | Option.none => .error ⟨"KeyError", reprStr key⟩
  | .list _ => .error ⟨"TypeError", "list indices must be integers or slices, not str"⟩
  | .str _ => .error ⟨"TypeError", "string indices must be integers, not 'str'"⟩
  | v => .error ⟨"TypeError", "'" ++ type_name v ++ "' object is not subscriptable"⟩

/-! ## Format specs -/

/-- A format spec that reads a number as a float. -/
def format (spec : PyFloat → String) (v : PyVal) : Except PyErr String :=
  match v.number? with
  | some x => (floatOfNumber x).map spec
  | Option.none => .error ⟨"ValueError", "Unknown format code for object of type '"
      ++ type_name v ++ "'"⟩

end PyVal

/-- A comma after every three digits, the last digit first. -/
def groupThousands : List Char → List Char
  | a :: b :: c :: d :: rest => a :: b :: c :: ',' :: groupThousands (d :: rest)
  | cs => cs

/-- The format `,.0f`. -/
def grouped (x : PyFloat) : String :=
  match (fixed 0 x).toList with
  | '-' :: cs => String.ofList ('-' :: (groupThousands cs.reverse).reverse)
  | cs => String.ofList (groupThousands cs.reverse).reverse

example : grouped (PyFloat.ofRat 1234567) = "1,234,567" := by decide +kernel

/-! ## Calls -/

/-- The names of missing arguments, as the error text lists them. -/
def nameList : List String → String
  | [] => ""
  | [a] => reprStr a
  | [a, b] => reprStr a ++ " and " ++ reprStr b
  | names => join ", " (names.dropLast.map reprStr) ++ ", and " ++ reprStr (names.getLastD "")

/-- `f(**params)` for a function of these parameters: each keyword must be
one of them, and those without a default must be there. -/
def bindArguments (function : String) (required optional : List String) (params : PyDict) :
    Except PyErr Unit :=
  match params.find? fun p => p.1 ∉ required ++ optional with
  | some (key, _) =>
    .error ⟨"TypeError", function ++ "() got an unexpected keyword argument " ++ reprStr key⟩
  | none =>
    match required.filter fun key => (dict.get params key).isNone with
    | [] => .ok ()
    | missing =>
      .error ⟨"TypeError", function ++ "() missing " ++ toString missing.length
        ++ " required positional argument" ++ (if missing.length = 1 then "" else "s") ++ ": "
        ++ nameList missing⟩

/-! ## Sorting -/

/-- `xs.sort(key=...)` with the keys at hand: stable, `before k l` says that
the key `k` is smaller. -/
def sortByKey {κ α : Type} (before : κ → κ → Bool) (xs : List (κ × α)) : List α :=
  (xs.insertionSort fun a b => before b.1 a.1 = false).map (·.2)

example : sortByKey (fun a b : ℕ => a < b) [(2, 'a'), (1, 'b'), (2, 'c'), (1, 'd')] =
    ['b', 'd', 'a', 'c'] := by decide

theorem sortByKey_eq {κ α : Type} (before : κ → κ → Bool) (key : α → κ) (xs : List α) :
    sortByKey before (xs.map fun x => (key x, x)) =
      xs.insertionSort fun a b => before (key b) (key a) = false := by
  unfold sortByKey
  rw [← List.map_insertionSort (fun a b => before (key b) (key a) = false)
    (fun a b : κ × α => before b.1 a.1 = false) (fun x => (key x, x)) xs (by simp), List.map_map]
  exact List.map_id _

end py
