-- The floats of Python. A finite float is the rational number it stands
-- for, and each operation rounds its exact result to the nearest binary64
-- number, ties to even. The sign of a zero is not kept.
import Mathlib.Data.Rat.Floor

namespace py

inductive PyFloat where
  | nan
  | inf (neg : Bool)
  | fin (q : ℚ)
  deriving DecidableEq

namespace PyFloat

/-! ## Rounding -/

/-- The nearest integer, and of two that are equally near the even one. -/
def roundHalfEven (q : ℚ) : ℤ :=
  let r := q - q.floor
  if r < 1 / 2 then q.floor
  else if 1 / 2 < r then q.floor + 1
  else if q.floor % 2 = 0 then q.floor else q.floor + 1

/-- Two to the power `k`, as a rational number. -/
def pow2 (k : ℤ) : ℚ :=
  match k with
  | .ofNat n => ((2 ^ n : ℕ) : ℚ)
  | .negSucc n => mkRat 1 (2 ^ (n + 1))

/-- The exponent `e` with `2 ^ e ≤ |q| < 2 ^ (e + 1)`, for `q ≠ 0`. -/
def exponentOf (q : ℚ) : ℤ :=
  let k : ℤ := (q.num.natAbs.log2 : ℤ) - (q.den.log2 : ℤ)
  if pow2 k ≤ |q| then k else k - 1

/-- The binary64 number nearest to `q`. A result past the largest finite
number is an infinity. -/
def ofRat (q : ℚ) : PyFloat :=
  if q = 0 then fin 0
  else
    let ulp := pow2 (max (exponentOf q - 52) (-1074))
    let v := roundHalfEven (q / ulp) * ulp
    if pow2 1024 ≤ |v| then inf (v < 0) else fin v

/-- `float(n)` of an integer: `none` is Python's `OverflowError`. -/
def ofInt? (n : ℤ) : Option PyFloat :=
  match ofRat n with
  | fin q => some (fin q)
  | _ => none

/-! ## Arithmetic -/

def neg : PyFloat → PyFloat
  | nan => nan
  | inf s => inf !s
  | fin q => fin (-q)

def abs : PyFloat → PyFloat
  | nan => nan
  | inf _ => inf false
  | fin q => fin |q|

def add : PyFloat → PyFloat → PyFloat
  | nan, _ | _, nan => nan
  | inf s, inf t => if s = t then inf s else nan
  | inf s, fin _ => inf s
  | fin _, inf t => inf t
  | fin a, fin b => ofRat (a + b)

def sub (x y : PyFloat) : PyFloat := add x (neg y)

def mul : PyFloat → PyFloat → PyFloat
  | nan, _ | _, nan => nan
  | inf s, inf t => inf (s != t)
  | inf s, fin b => if b = 0 then nan else inf (s != decide (b < 0))
  | fin a, inf t => if a = 0 then nan else inf (t != decide (a < 0))
  | fin a, fin b => ofRat (a * b)

/-- Division; `none` is Python's `ZeroDivisionError`. -/
def div? : PyFloat → PyFloat → Option PyFloat
  | x, fin b =>
    if b = 0 then none
    else match x with
      | nan => some nan
      | inf s => some (inf (s != decide (b < 0)))
      | fin a => some (ofRat (a / b))
  | nan, _ | _, nan => some nan
  | inf _, inf _ => some nan
  | fin _, inf _ => some (fin 0)

/-! ## Comparison -/

/-- `x < y` of Python: false as soon as one side is a NaN. -/
def lt : PyFloat → PyFloat → Bool
  | nan, _ | _, nan => false
  | inf s, inf t => s && !t
  | inf s, fin _ => s
  | fin _, inf t => !t
  | fin a, fin b => a < b

/-- `x == y` of Python: a NaN differs from everything. -/
def eq : PyFloat → PyFloat → Bool
  | nan, _ | _, nan => false
  | x, y => x = y

def le (x y : PyFloat) : Bool := lt x y || eq x y

/-- Python's `max(x, y)`: the first of two that do not compare. -/
def max (x y : PyFloat) : PyFloat := if lt x y then y else x

/-! ## Rounded decimals -/

/-- Python's `round(x, digits)`: the exact value rounded half to even at
that decimal place, then read back as a float. -/
def roundTo (digits : ℕ) : PyFloat → PyFloat
  | fin q => ofRat (roundHalfEven (q * 10 ^ digits) / 10 ^ digits)
  | x => x

/-- Python's `sum` of floats, with the running compensation of Neumaier
that CPython uses since 3.12. -/
def sumLoop (s c : PyFloat) : List PyFloat → PyFloat
  | [] =>
    match c with
    | fin q => if q = 0 then s else add s c
    | _ => s
  | x :: xs =>
    let t := add s x
    let c' := if le (abs x) (abs s) then add c (add (sub s t) x) else add c (add (sub x t) s)
    sumLoop t c' xs

def sum (xs : List PyFloat) : PyFloat := sumLoop (fin 0) (fin 0) xs

example : sum [ofRat (1 / 10), ofRat (2 / 10), ofRat (3 / 10)] = ofRat (6 / 10) := by decide +kernel

end PyFloat

end py
