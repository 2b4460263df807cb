-- The redaction of a document before it leaves for Azure Document
-- Intelligence (gateways/azure_di_egress_redaction.py): the matches of five
-- patterns are masked one pattern after the other.
import Asoe.Lib.Lookahead
import Asoe.Lib.Masking

open regex masking

namespace asoe.redaction

/-! ## Characters -/

/-- The tables of Unicode behind `\d`, `int(c)` and `\w`. -/
structure Chars where
  digit : Char → Option ℕ
  word : Char → Bool
  digit_word : ∀ c, (digit c).isSome → word c = true
  ascii_digit : ∀ c, c.toNat < 128 → digit c = if c.isDigit then some (c.toNat - 48) else none
  ascii_word : ∀ c, c.toNat < 128 → word c = (c.isAlphanum || c == '_')

/-- The tables for texts in ASCII. -/
def Chars.ascii : Chars where
  digit c := if c.isDigit then some (c.toNat - 48) else none
  word c := c.isAlphanum || c == '_'
  digit_word c h := by
    unfold Char.isAlphanum
    split at h
    · rename_i hc
      rw [hc, Bool.or_true, Bool.true_or]
    · cases h
  ascii_digit _ _ := rfl
  ascii_word _ _ := rfl

/-- `[A-Z]`. -/
def upper (c : Char) : Bool := 'A' ≤ c && c ≤ 'Z'

/-- `[A-Z0-9]`. -/
def upper_or_digit (c : Char) : Bool := upper c || '0' ≤ c && c ≤ '9'

section patterns

variable (c : Chars)

def Chars.isDigit (d : Char) : Bool := (c.digit d).isSome

/-! ## The patterns -/

/-- `\d`. -/
def Chars.one_digit : Regex Char := .one c.isDigit

/-- `\d{n}`. -/
def Chars.digits (n : ℕ) : Regex Char := .times n (some n) c.one_digit

def literal (d : Char) : Regex Char := .one (· == d)

/-- `\b\d{3}-\d{2}-\d{4}\b`. -/
def Chars.SSN_RE : Regex Char :=
  .bounded (.seq (c.digits 3)
    (.seq (literal '-') (.seq (c.digits 2) (.seq (literal '-') (c.digits 4)))))

/-- `\b(?:\d{4}[- ]){3}\d{4}\b`. -/
def Chars.CC_GROUPED_RE : Regex Char :=
  .bounded (.seq (.times 3 (some 3) (.seq (c.digits 4) (.one fun d => d == '-' || d == ' ')))
    (c.digits 4))

/-- `\b\d{13,19}\b`. -/
def Chars.CC_CONTIGUOUS_RE : Regex Char := .bounded (.times 13 (some 19) c.one_digit)

/-- `\b[A-Z]{2}\d{2}[A-Z0-9]{10,30}\b`. -/
def Chars.IBAN_RE : Regex Char :=
  .bounded (.seq (.times 2 (some 2) (.one upper))
    (.seq (c.digits 2) (.times 10 (some 30) (.one upper_or_digit))))

/-- `,\d{3}`. -/
def Chars.thousands : Regex Char := .seq (literal ',') (c.digits 3)

/-- `\.\d{1,2}`. -/
def Chars.decimals : Regex Char := .seq (literal '.') (.times 1 (some 2) c.one_digit)

/-- `\$\d{1,3}(?:,\d{3})*(?:\.\d{1,2})?`. -/
def Chars.DOLLARS_RE : Regex Char :=
  .seq (literal '$') (.seq (.times 1 (some 3) c.one_digit)
    (.seq (.times 0 none c.thousands) (.times 0 (some 1) c.decimals)))

/-! ## The checksum of a card -/

/-- The sum of the loop over the digits from the place `i` on. -/
def luhn_sum (parity : ℕ) : ℕ → List ℕ → ℕ
  | _, [] => 0
  | i, n :: d =>
    (if i % 2 = parity then (if n * 2 > 9 then n * 2 - 9 else n * 2) else n) +
      luhn_sum parity (i + 1) d

/-- Whether the digits pass the checksum; `int(c)` does not fail, since they were matched. -/
def Chars.looks_like_credit_card (digits : List Char) : Bool :=
  match digits.mapM c.digit with
  | none => false
  | some d =>
    if d.length < 13 || d.length > 19 then false else luhn_sum (d.length % 2) 0 d % 10 == 0

/-! ## The passes -/

/-- What is masked. -/
inductive Kind where
  | ssn
  | amount
  | cc_grouped
  | cc_contiguous
  | iban
  deriving DecidableEq

def Kind.mask : Kind → List Char
  | ssn => "<redacted-ssn>".toList
  | amount => "<redacted-amount>".toList
  | cc_grouped | cc_contiguous => "<redacted-cc>".toList
  | iban => "<redacted-iban>".toList

def Chars.pattern : Kind → Regex Char
  | .ssn => c.SSN_RE
  | .amount => c.DOLLARS_RE
  | .cc_grouped => c.CC_GROUPED_RE
  | .cc_contiguous => c.CC_CONTIGUOUS_RE
  | .iban => c.IBAN_RE

/-- Every match is masked, but a run of digits only when it passes the checksum. -/
def Chars.accepts : Kind → List Char → Bool
  | .cc_contiguous, m => c.looks_like_credit_card m
  | _, _ => true

def Chars.find (k : Kind) : Finder Char := (c.pattern k).find c.word

/-- `pattern.sub(...)`. -/
def Chars.sub_all (k : Kind) (text : List Char) : List Char :=
  sub (c.find k) (replacement Kind.mask (c.accepts k) k) 0 none text

/-- The body with what was matched masked. -/
def Chars.redact_for_azure_di (body : String) : String :=
  if body = "" then body
  else
    let out := c.sub_all .ssn body.toList
    let out := c.sub_all .amount out
    let out := c.sub_all .cc_grouped out
    let out := c.sub_all .cc_contiguous out
    let out := c.sub_all .iban out
    String.ofList out

/-! ## What the redaction is for -/

/-- A pass over the pieces of a text. -/
def Chars.mask_all (k : Kind) (s : List (Seg Char Kind)) : List (Seg Char Kind) :=
  pass Kind.mask (c.find k) (c.accepts k) k 0 none s

/-- What became of every character of a body. -/
def Chars.pieces (body : String) : List (Seg Char Kind) :=
  c.mask_all .iban (c.mask_all .cc_contiguous (c.mask_all .cc_grouped
    (c.mask_all .amount (c.mask_all .ssn (body.toList.map .keep)))))

/-- A pattern has no accepted match in the text. -/
def Chars.Without (k : Kind) (text : String) : Prop :=
  ∀ pre t, text.toList = pre ++ t →
    ∀ m, c.find k (last none pre) t = some m → c.accepts k m = false

/-- Nothing is left to redact, and what is not masked is unchanged. -/
structure Chars.Redacts (body : String) : Prop where
  without : ∀ k, c.Without k (c.redact_for_azure_di body)
  no_digit_of_an_amount : ∀ a m d b,
    c.pieces body = a ++ .hit .amount m :: .keep d :: b → c.isDigit d = false
  idempotent : c.redact_for_azure_di (c.redact_for_azure_di body) = c.redact_for_azure_di body
  given_eq : masking.given (c.pieces body) = body.toList
  shown_eq : shown Kind.mask (c.pieces body) = (c.redact_for_azure_di body).toList
  matched : ∀ k m, .hit k m ∈ c.pieces body →
    c.accepts k m = true ∧ ∃ prev u, (c.pattern k).Matches c.word prev m u

/-- An amount that goes on after its match: the pattern ends it before a digit. -/
structure Chars.CutShort (body : String) (pre m : List Char) (d : Char) (rest : List Char) :
    Prop where
  place : body.toList = pre ++ (m ++ d :: rest)
  found : c.find .amount (last none pre) (m ++ d :: rest) = some m
  goes_on : c.isDigit d = true

/-- What follows is masked with the amount: a social security number begins in it, or a card
begins after it. -/
def Chars.Covered (pre m : List Char) (d : Char) (rest : List Char) : Prop :=
  (∃ u v, m = u ++ v ∧ (c.find .ssn (last none (pre ++ u)) (v ++ d :: rest)).isSome) ∨
    ∃ k ∈ [Kind.cc_grouped, .cc_contiguous], ∃ w,
      c.find k none (d :: rest) = some w ∧ c.accepts k w = true

/-- No amount is cut short, except where the rest is masked as well. -/
def Chars.AmountsEnd (body : String) : Prop :=
  ∀ pre m d rest, c.CutShort body pre m d rest → c.Covered pre m d rest

end patterns

end asoe.redaction
