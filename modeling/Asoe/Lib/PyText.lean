-- Text of Python values: `str`, `repr`, the fixed formats, and the
-- conversions `float` and `int` that read text back.
import Asoe.Lib.PyValue

namespace py

/-! ## Strings -/

/-- The characters that `str.strip` and `float` skip at both ends. -/
def isSpace (c : Char) : Bool :=
  let n := c.toNat
  (9 ≤ n && n ≤ 13) || (28 ≤ n && n ≤ 32) || n = 0x85 || n = 0xA0 || n = 0x1680 ||
    (0x2000 ≤ n && n ≤ 0x200A) || n = 0x2028 || n = 0x2029 || n = 0x202F || n = 0x205F ||
    n = 0x3000

def stripChars (cs : List Char) : List Char :=
  ((cs.dropWhile isSpace).reverse.dropWhile isSpace).reverse

/-- `s.strip()`. -/
def strip (s : String) : String := String.ofList (stripChars s.toList)

/-- `sep.join(parts)`. -/
def join (sep : String) (parts : List String) : String := sep.intercalate parts

/-! ## Numbers as text -/

def zeros (n : ℕ) : List Char := List.replicate n '0'

/-- The significant digits of `q > 0`, `n` of them, and the power of ten of
the first one. -/
def significant (q : ℚ) (n : ℕ) : ℕ × ℤ :=
  let e := Int.log 10 q
  let m := (PyFloat.roundHalfEven (q / (10 : ℚ) ^ (e - n + 1))).toNat
  if m = 10 ^ n then (10 ^ (n - 1), e + 1) else (m, e)

/-- The fewest digits that read back as `q`. -/
def shortest (q : ℚ) : List Char × ℤ :=
  let reads (n : ℕ) : Bool :=
    let (m, e) := significant q n
    PyFloat.ofRat (m * (10 : ℚ) ^ (e - n + 1)) = .fin q
  let n := ((List.range 17).map (· + 1)).find? reads |>.getD 17
  let (m, e) := significant q n
  (Nat.toDigits 10 m, e)

/-- `repr` of a float that is above zero. -/
def reprPos (q : ℚ) : List Char :=
  let (ds, e) := shortest q
  if -4 ≤ e ∧ e < 16 then
    if 0 ≤ e then
      let whole := ds.take (e.toNat + 1) ++ zeros (e.toNat + 1 - ds.length)
      let frac := ds.drop (e.toNat + 1)
      whole ++ '.' :: (if frac.isEmpty then ['0'] else frac)
    else '0' :: '.' :: zeros ((-e).toNat - 1) ++ ds
  else
    let tail := ds.drop 1
    let digits := Nat.toDigits 10 e.natAbs
    ds.take 1 ++ (if tail.isEmpty then [] else '.' :: tail) ++ 'e' ::
      (if e < 0 then '-' else '+') :: zeros (2 - digits.length) ++ digits

def reprFloat : PyFloat → String
  | .nan => "nan"
  | .inf s => if s then "-inf" else "inf"
  | .fin q =>
    if q = 0 then "0.0"
    else String.ofList (if q < 0 then '-' :: reprPos (-q) else reprPos q)

/-- The format `.{digits}f`. -/
def fixed (digits : ℕ) : PyFloat → String
  | .nan => "nan"
  | .inf s => if s then "-inf" else "inf"
  | .fin q =>
    let m := (PyFloat.roundHalfEven (|q| * 10 ^ digits)).toNat
    let ds := Nat.toDigits 10 m
    let padded := zeros (digits + 1 - ds.length) ++ ds
    let whole := padded.take (padded.length - digits)
    let frac := padded.drop (padded.length - digits)
    String.ofList ((if q < 0 then ['-'] else []) ++ whole ++
      (if digits = 0 then [] else '.' :: frac))

/-- The format `.{digits}%`. -/
def percent (digits : ℕ) (x : PyFloat) : String :=
  fixed digits (x.mul (.fin 100)) ++ "%"

/-! ## `repr` and `str` -/

def hexByte (n : ℕ) : List Char :=
  let ds := Nat.toDigits 16 n
  zeros (2 - ds.length) ++ ds

def escapeChar (quote c : Char) : List Char :=
  if c = '\\' then ['\\', '\\']
  else if c = quote then ['\\', quote]
  else if c = '\n' then ['\\', 'n']
  else if c = '\r' then ['\\', 'r']
  else if c = '\t' then ['\\', 't']
  else if c.toNat < 32 || c.toNat = 127 then '\\' :: 'x' :: hexByte c.toNat
  else [c]

/-- `repr` of a string: single quotes, unless only double quotes avoid an
escape. -/
def reprStr (s : String) : String :=
  let cs := s.toList
  let quote := if cs.contains '\'' && !cs.contains '"' then '"' else '\''
  String.ofList (quote :: cs.flatMap (escapeChar quote) ++ [quote])

namespace PyVal

mutual

def repr : PyVal → String
  | .none => "None"
  | .bool b => if b then "True" else "False"
  | .int n => toString n
  | .float x => reprFloat x
  | .str s => reprStr s
  | .list xs => "[" ++ join ", " (reprList xs) ++ "]"
  | .dict d => "\x7b" ++ join ", " (reprDict d) ++ "\x7d"

def reprList : List PyVal → List String
  | [] => []
  | v :: xs => repr v :: reprList xs

def reprDict : List (String × PyVal) → List String
  | [] => []
  | (k, v) :: d => (reprStr k ++ ": " ++ repr v) :: reprDict d

end

/-- `str(v)`. -/
def toStr : PyVal → String
  | .str s => s
  | v => v.repr

end PyVal

/-! ## Reading numbers -/

/-- A run of digits, single underscores between them. -/
def digitRun : List Char → Option (List Char × List Char)
  | [] => none
  | [c] => if c.isDigit then some ([c], []) else none
  | c :: d :: cs =>
    if !c.isDigit then none
    else if d = '_' then (digitRun cs).map fun (ds, rest) => (c :: ds, rest)
    else match digitRun (d :: cs) with
      | some (ds, rest) => some (c :: ds, rest)
      | none => some ([c], d :: cs)

def natOfDigits (ds : List Char) : ℕ := ds.foldl (fun n c => 10 * n + (c.toNat - 48)) 0

def signOf : List Char → Bool × List Char
  | '-' :: cs => (true, cs)
  | '+' :: cs => (false, cs)
  | cs => (false, cs)

/-- The exponent part of a decimal literal; what is left must be empty. -/
def exponentPart : List Char → Option ℤ
  | [] => some 0
  | c :: cs =>
    if c = 'e' ∨ c = 'E' then
      let (neg, cs) := signOf cs
      match digitRun cs with
      | some (ds, []) => some (if neg then -(natOfDigits ds : ℤ) else natOfDigits ds)
      | _ => none
    else none

/-- A decimal literal without a sign. -/
def decimal? (cs : List Char) : Option ℚ :=
  let (whole, rest) := (digitRun cs).getD ([], cs)
  let (frac, rest) :=
    match rest with
    | '.' :: cs' => (digitRun cs').getD ([], cs')
    | _ => ([], rest)
  if whole.isEmpty && frac.isEmpty then none
  else (exponentPart rest).map fun e =>
    (natOfDigits (whole ++ frac) : ℚ) * (10 : ℚ) ^ (e - (frac.length : ℤ))

/-- `float(s)` of a string; `none` is Python's `ValueError`. -/
def floatOfText? (s : String) : Option PyFloat :=
  let (neg, cs) := signOf (stripChars s.toList)
  let word := String.ofList (cs.map Char.toLower)
  if word = "inf" ∨ word = "infinity" then some (.inf neg)
  else if word = "nan" then some .nan
  else (decimal? cs).map fun q => PyFloat.ofRat (if neg then -q else q)

/-- `int(s)` of a string; `none` is Python's `ValueError`. -/
def intOfText? (s : String) : Option ℤ :=
  let (neg, cs) := signOf (stripChars s.toList)
  match digitRun cs with
  | some (ds, []) => some (if neg then -(natOfDigits ds : ℤ) else natOfDigits ds)
  | _ => none

namespace PyVal

/-- `float(v)`. -/
def toFloat (v : PyVal) : Except PyErr PyFloat :=
  match v with
  | .str s =>
    match floatOfText? s with
    | some x => .ok x
    | Option.none => .error ⟨"ValueError", "could not convert string to float: " ++ reprStr s⟩
  | v =>
    match v.numberAsFloat? with
    | .ok (some x) => .ok x
    | .ok Option.none => .error ⟨"TypeError", "float() argument must be a string or a real number"⟩
    | .error e => .error e

/-- `int(v)`: a float loses its fraction. -/
def toInt (v : PyVal) : Except PyErr ℤ :=
  match v with
  | .bool b => .ok (if b then 1 else 0)
  | .int n => .ok n
  | .float (.fin q) => .ok (if q < 0 then q.ceil else q.floor)
  | .float .nan => .error ⟨"ValueError", "cannot convert float NaN to integer"⟩
  | .float (.inf _) => .error ⟨"OverflowError", "cannot convert float infinity to integer"⟩
  | .str s =>
    match intOfText? s with
    | some n => .ok n
    | Option.none =>
      .error ⟨"ValueError", "invalid literal for int() with base 10: " ++ reprStr s⟩
  | _ => .error ⟨"TypeError", "int() argument must be a string or a real number"⟩

end PyVal

theorem cut_inj {α : Type} {c : α} {x y z w : List α} (hx : c ∉ x) (hy : c ∉ y)
    (h : x ++ c :: z = y ++ c :: w) : x = y ∧ z = w := by
  induction x generalizing y with
  | nil =>
    rcases y with _ | ⟨b, y⟩
    · exact ⟨rfl, (List.cons.inj h).2⟩
    · rw [(List.cons.inj h).1] at hy
      exact absurd List.mem_cons_self hy
  | cons a x ih =>
    rw [List.mem_cons, not_or] at hx
    rcases y with _ | ⟨b, y⟩
    · exact absurd (List.cons.inj h).1.symm hx.1
    · rw [List.mem_cons, not_or] at hy
      obtain ⟨rfl, htail⟩ := List.cons.inj h
      obtain ⟨rfl, rfl⟩ := ih hx.2 hy.2 htail
      exact ⟨rfl, rfl⟩

/-! ## Texts that end in a number -/

theorem colon_not_mem_toString (n : ℕ) : ':' ∉ (toString n).toList := by
  intro h
  have hdigit := Nat.isDigit_of_mem_toDigits (b := 10) (by omega) (by omega)
    (by simpa [toString, Nat.repr] using h)
  revert hdigit
  decide

theorem toString_inj {n m : ℕ} (h : toString n = toString m) : n = m := by
  have hdigits : Nat.toDigits 10 n = Nat.toDigits 10 m := by
    simpa [toString, Nat.repr] using congrArg String.toList h
  rw [← Nat.ofDigitChars_toDigits (b := 10) (by omega) (by omega) (n := n), hdigits,
    Nat.ofDigitChars_toDigits (by omega) (by omega)]

theorem labelled_inj {a b : String} {n m : ℕ} :
    a ++ ":" ++ toString n = b ++ ":" ++ toString m ↔ a = b ∧ n = m := by
  constructor
  · intro h
    have hchars := congrArg (fun s : String => s.toList.reverse) h
    have hcolon : (":" : String).toList = [':'] := rfl
    simp only [String.toList_append, List.reverse_append, hcolon, List.reverse_singleton,
      List.singleton_append] at hchars
    obtain ⟨hdigits, htext⟩ := cut_inj
      (fun hmem => colon_not_mem_toString n (List.mem_reverse.mp hmem))
      (fun hmem => colon_not_mem_toString m (List.mem_reverse.mp hmem)) hchars
    exact ⟨String.toList_injective (List.reverse_injective htext),
      toString_inj (String.toList_injective (List.reverse_injective hdigits))⟩
  · rintro ⟨rfl, rfl⟩
    rfl

example : reprFloat (PyFloat.ofRat (1 / 10)) = "0.1" := by decide +kernel

example : (PyVal.str " 12.50 ").toFloat = .ok (.fin (25 / 2)) := by decide +kernel

/-! ## Texts that are not empty -/

theorem reprPos_ne_nil (q : ℚ) : reprPos q ≠ [] := by
  unfold reprPos
  split
  split
  · split
    · simp
    · simp
  · simp

theorem reprFloat_ne_empty (x : PyFloat) : reprFloat x ≠ "" := by
  cases x with
  | nan => simp [reprFloat]
  | inf s => cases s <;> simp [reprFloat]
  | fin q =>
    unfold reprFloat
    dsimp only
    split
    · decide
    · intro h
      have hnil := congrArg String.toList h
      rw [String.toList_ofList] at hnil
      split at hnil
      · cases hnil
      · exact reprPos_ne_nil q hnil

theorem toString_int_ne_empty (n : ℤ) : toString n ≠ "" := by
  cases n with
  | ofNat n =>
    change Nat.repr n ≠ ""
    intro h
    have hlen := congrArg String.length h
    simp at hlen
  | negSucc n =>
    change "-" ++ _ ≠ ""
    simp

theorem PyVal.toStr_ne_empty {v : PyVal} (h : v.truthy = true) : v.toStr ≠ "" := by
  cases v with
  | none => cases h
  | bool b => cases b <;> decide
  | int n => exact toString_int_ne_empty n
  | float x => exact reprFloat_ne_empty x
  | str s => simpa [truthy, toStr] using h
  | list xs => simp [toStr, repr]
  | dict d => simp [toStr, repr]

end py
