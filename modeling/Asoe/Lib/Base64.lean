-- Bytes as texts: UTF-8, and base64 with the alphabet of URLs, written
-- without padding and read as Python's `urlsafe_b64decode` reads it, which
-- passes over what is not of the alphabet.
import Mathlib.Tactic.Common
import Mathlib.Tactic.IntervalCases

namespace base64

/-! ## UTF-8 -/

/-- `text.encode()`. -/
def utf8 (text : List Char) : List ℕ := (text.flatMap String.utf8EncodeChar).map (·.toNat)

def isContinuation (b : ℕ) : Bool := 0x80 ≤ b ∧ b < 0xc0

/-- The text of bytes, `none` where they are no UTF-8. -/
def utf8? : List ℕ → Option (List Char)
  | [] => some []
  | a :: bs =>
    if a < 0x80 then (utf8? bs).map fun cs => Char.ofNat a :: cs
    else
      match bs with
      | b :: bs =>
        if 0xc2 ≤ a ∧ a < 0xe0 ∧ isContinuation b then
          (utf8? bs).map fun cs => Char.ofNat (a % 32 * 64 + b % 64) :: cs
        else
          match bs with
          | c :: bs =>
            let n := (a % 16 * 64 + b % 64) * 64 + c % 64
            if 0xe0 ≤ a ∧ a < 0xf0 ∧ isContinuation b ∧ isContinuation c ∧ 0x800 ≤ n ∧
                ¬ (0xd800 ≤ n ∧ n < 0xe000) then
              (utf8? bs).map fun cs => Char.ofNat n :: cs
            else
              match bs with
              | d :: bs =>
                let n := ((a % 8 * 64 + b % 64) * 64 + c % 64) * 64 + d % 64
                if 0xf0 ≤ a ∧ a < 0xf5 ∧ isContinuation b ∧ isContinuation c ∧ isContinuation d ∧
                    0x10000 ≤ n ∧ n < 0x110000 then
                  (utf8? bs).map fun cs => Char.ofNat n :: cs
                else none
              | [] => none
          | [] => none
      | [] => none

/-! ## Base64 -/

/-- The character of six bits. -/
def digit (n : ℕ) : Char :=
  if n < 26 then Char.ofNat (65 + n)
  else if n < 52 then Char.ofNat (97 + (n - 26))
  else if n < 62 then Char.ofNat (48 + (n - 52))
  else if n = 62 then '-'
  else '_'

/-- Three bytes make four characters; what is left makes two or three. -/
def encode : List ℕ → List Char
  | a :: b :: c :: bs =>
    digit (a / 4) :: digit (a % 4 * 16 + b / 16) :: digit (b % 16 * 4 + c / 64) ::
      digit (c % 64) :: encode bs
  | [a, b] => [digit (a / 4), digit (a % 4 * 16 + b / 16), digit (b % 16 * 4)]
  | [a] => [digit (a / 4), digit (a % 4 * 16)]
  | [] => []

/-- The six bits of a character, of either alphabet. -/
def sextet? (c : Char) : Option ℕ :=
  if 65 ≤ c.toNat ∧ c.toNat ≤ 90 then some (c.toNat - 65)
  else if 97 ≤ c.toNat ∧ c.toNat ≤ 122 then some (c.toNat - 71)
  else if 48 ≤ c.toNat ∧ c.toNat ≤ 57 then some (c.toNat + 4)
  else if c = '+' ∨ c = '-' then some 62
  else if c = '/' ∨ c = '_' then some 63
  else none

/-- The loop of `a2b_base64`: the place in a group of four, the bits that
are left over from it, and the number of `=` seen in it. -/
def read : ℕ → ℕ → ℕ → List Char → Option (List ℕ)
  | place, _, _, [] => if place = 0 then some [] else none
  | place, bits, pads, c :: cs =>
    if c = '=' then
      if 2 ≤ place then
        if 4 ≤ place + (pads + 1) then some [] else read place bits (pads + 1) cs
      else read place bits pads cs
    else
      match sextet? c with
      | none => read place bits pads cs
      | some n =>
        if place = 0 then read 1 n 0 cs
        else if place = 1 then (read 2 (n % 16) 0 cs).map fun bs => (bits * 4 + n / 16) :: bs
        else if place = 2 then (read 3 (n % 4) 0 cs).map fun bs => (bits * 16 + n / 4) :: bs
        else (read 0 0 0 cs).map fun bs => (bits * 64 + n) :: bs

/-- `urlsafe_b64decode(s)`; a text that is not ASCII is refused. -/
def decode (s : List Char) : Option (List ℕ) :=
  if s.all fun c => c.toNat < 128 then read 0 0 0 s else none

/-! ## What was written is read back -/

theorem sextet?_digit {n : ℕ} (h : n < 64) : sextet? (digit n) = some n := by
  interval_cases n <;> rfl

theorem digit_ne {n : ℕ} (h : n < 64) : digit n ≠ '=' ∧ digit n ≠ '.' ∧ (digit n).toNat < 128 := by
  interval_cases n <;> decide

theorem read_digit {n : ℕ} (h : n < 64) (place bits pads : ℕ) (cs : List Char) :
    read place bits pads (digit n :: cs) =
      if place = 0 then read 1 n 0 cs
      else if place = 1 then (read 2 (n % 16) 0 cs).map fun bs => (bits * 4 + n / 16) :: bs
      else if place = 2 then (read 3 (n % 4) 0 cs).map fun bs => (bits * 16 + n / 4) :: bs
      else (read 0 0 0 cs).map fun bs => (bits * 64 + n) :: bs := by
  rw [read, if_neg (digit_ne h).1, sextet?_digit h]

/-- The padding that `_b64url_decode` adds. -/
def padding (s : List Char) : List Char :=
  if s.length % 4 = 0 then [] else List.replicate (4 - s.length % 4) '='

theorem read_encode (bs : List ℕ) (h : ∀ b ∈ bs, b < 256) (pads : ℕ) :
    read 0 0 pads (encode bs ++ padding (encode bs)) = some bs := by
  induction bs using encode.induct generalizing pads with
  | case1 a b c bs ih =>
    have ha := h a (by simp)
    have hb := h b (by simp)
    have hc := h c (by simp)
    have hrest := ih (fun d hd => h d (by simp [hd])) 0
    have hlen : (encode (a :: b :: c :: bs)).length % 4 = (encode bs).length % 4 := by
      simp only [encode, List.length_cons]
      omega
    have hpad : padding (encode (a :: b :: c :: bs)) = padding (encode bs) := by
      simp only [padding, hlen]
    rw [hpad, encode]
    simp only [List.cons_append]
    rw [read_digit (by omega), if_pos rfl, read_digit (by omega), if_neg (by omega), if_pos rfl,
      read_digit (by omega), if_neg (by omega), if_neg (by omega), if_pos rfl,
      read_digit (by omega), if_neg (by omega), if_neg (by omega), if_neg (by omega), hrest]
    simp only [Option.map_some, Option.some.injEq, List.cons.injEq, and_true]
    omega
  | case2 a b =>
    have ha := h a (by simp)
    have hb := h b (by simp)
    rw [show padding (encode [a, b]) = ['='] from rfl, encode]
    simp only [List.cons_append, List.nil_append]
    rw [read_digit (by omega), if_pos rfl, read_digit (by omega), if_neg (by omega), if_pos rfl,
      read_digit (by omega), if_neg (by omega), if_neg (by omega), if_pos rfl]
    simp [read]
    omega
  | case3 a =>
    have ha := h a (by simp)
    rw [show padding (encode [a]) = ['=', '='] from rfl, encode]
    simp only [List.cons_append, List.nil_append]
    rw [read_digit (by omega), if_pos rfl, read_digit (by omega), if_neg (by omega), if_pos rfl]
    simp [read]
    omega
  | case4 => rfl

/-- The characters of an encoding. -/
theorem mem_encode {bs : List ℕ} (h : ∀ b ∈ bs, b < 256) :
    ∀ c ∈ encode bs, ∃ n < 64, c = digit n := by
  induction bs using encode.induct with
  | case1 a b c bs ih =>
    have ha := h a (by simp)
    have hb := h b (by simp)
    have hc := h c (by simp)
    intro d hd
    simp only [encode, List.mem_cons] at hd
    rcases hd with rfl | rfl | rfl | rfl | hd
    · exact ⟨_, by omega, rfl⟩
    · exact ⟨_, by omega, rfl⟩
    · exact ⟨_, by omega, rfl⟩
    · exact ⟨_, by omega, rfl⟩
    · exact ih (fun e he => h e (by simp [he])) d hd
  | case2 a b =>
    have ha := h a (by simp)
    have hb := h b (by simp)
    intro d hd
    simp only [encode, List.mem_cons, List.not_mem_nil, or_false] at hd
    rcases hd with rfl | rfl | rfl
    · exact ⟨_, by omega, rfl⟩
    · exact ⟨_, by omega, rfl⟩
    · exact ⟨_, by omega, rfl⟩
  | case3 a =>
    have ha := h a (by simp)
    intro d hd
    simp only [encode, List.mem_cons, List.not_mem_nil, or_false] at hd
    rcases hd with rfl | rfl
    · exact ⟨_, by omega, rfl⟩
    · exact ⟨_, by omega, rfl⟩
  | case4 => simp [encode]

theorem dot_not_mem_encode {bs : List ℕ} (h : ∀ b ∈ bs, b < 256) : '.' ∉ encode bs := by
  intro hdot
  obtain ⟨n, hn, hc⟩ := mem_encode h '.' hdot
  exact (digit_ne hn).2.1 hc.symm

theorem decode_encode {bs : List ℕ} (h : ∀ b ∈ bs, b < 256) :
    decode (encode bs ++ padding (encode bs)) = some bs := by
  have hascii : (encode bs ++ padding (encode bs)).all (fun c => c.toNat < 128) = true := by
    simp only [List.all_append, Bool.and_eq_true, List.all_eq_true, decide_eq_true_eq]
    refine ⟨fun c hc => ?_, fun c hc => ?_⟩
    · obtain ⟨n, hn, rfl⟩ := mem_encode h c hc
      exact (digit_ne hn).2.2
    · unfold padding at hc
      split at hc
      · cases hc
      · rw [List.eq_of_mem_replicate hc]
        decide
  rw [decode, if_pos hascii, read_encode bs h]

theorem utf8_ascii {text : List Char} (h : ∀ c ∈ text, c.toNat < 128) :
    utf8 text = text.map Char.toNat := by
  induction text with
  | nil => rfl
  | cons c text ih =>
    have hc := h c (by simp)
    have hrest := ih fun d hd => h d (by simp [hd])
    have hchar : String.utf8EncodeChar c = [UInt8.ofNat c.toNat] := by
      have hval : c.toNat ≤ 127 := by omega
      simp [String.utf8EncodeChar, hval]
    unfold utf8 at hrest ⊢
    rw [List.flatMap_cons, hchar, List.map_append, hrest]
    simp [Nat.mod_eq_of_lt (show c.toNat < 256 by omega)]

theorem utf8?_ascii {text : List Char} (h : ∀ c ∈ text, c.toNat < 128) :
    utf8? (utf8 text) = some text := by
  rw [utf8_ascii h]
  induction text with
  | nil => rfl
  | cons c text ih =>
    have hc := h c (by simp)
    rw [List.map_cons]
    unfold utf8?
    rw [if_pos (by omega), ih fun d hd => h d (by simp [hd]), Option.map_some, Char.ofNat_toNat]

theorem utf8_lt (text : List Char) : ∀ b ∈ utf8 text, b < 256 := by
  intro b hb
  obtain ⟨u, -, rfl⟩ := List.mem_map.mp hb
  exact u.toNat_lt

end base64
