-- The JSON text of a value, as `json.dumps` writes it: ASCII only, a space
-- after each comma and colon, and the keys in order when that is asked for.
-- Its strings are read as `json.loads` reads them, but half of a pair of
-- surrogates is no character here and is refused.
import Asoe.Lib.PyText
import Mathlib.Data.List.Sort
import Mathlib.Data.String.Basic
import Mathlib.Tactic.IntervalCases

namespace py.json

/-! ## Strings -/

def hex4 (n : ℕ) : List Char := (List.range 4).map fun i => Nat.digitChar (n / 16 ^ (3 - i) % 16)

/-- One character of a string. A character past the basic plane is written
as a pair of surrogates. -/
def escape (c : Char) : List Char :=
  if c = '"' then ['\\', '"']
  else if c = '\\' then ['\\', '\\']
  else if c = '\n' then ['\\', 'n']
  else if c = '\r' then ['\\', 'r']
  else if c = '\t' then ['\\', 't']
  else if c.toNat = 12 then ['\\', 'f']
  else if c.toNat = 8 then ['\\', 'b']
  else if 32 ≤ c.toNat ∧ c.toNat ≤ 126 then [c]
  else if c.toNat < 0x10000 then '\\' :: 'u' :: hex4 c.toNat
  else
    let n := c.toNat - 0x10000
    '\\' :: 'u' :: hex4 (0xd800 + n / 1024) ++ '\\' :: 'u' :: hex4 (0xdc00 + n % 1024)

def quoted (s : String) : List Char := '"' :: s.toList.flatMap escape ++ ['"']

/-! ## Values -/

def number : PyFloat → List Char
  | .nan => "NaN".toList
  | .inf s => if s then "-Infinity".toList else "Infinity".toList
  | x => (reprFloat x).toList

/-- The texts one after the other, with a comma and a space between them. -/
def commas : List (List Char) → List Char
  | [] => []
  | [t] => t
  | t :: ts => t ++ ',' :: ' ' :: commas ts

def member (p : String × List Char) : List Char := quoted p.1 ++ ':' :: ' ' :: p.2

/-- The members of an object in the order of their keys. -/
def sorted (members : List (String × List Char)) : List (String × List Char) :=
  members.insertionSort fun p q => p.1 ≤ q.1

def members (sort_keys : Bool) (members : List (String × List Char)) :
    List (String × List Char) := if sort_keys then sorted members else members

section dumps

variable (sort_keys : Bool)

mutual

/-- `json.dumps(v, sort_keys=sort_keys)`. -/
def dumps : PyVal → List Char
  | .none => "null".toList
  | .bool b => if b then "true".toList else "false".toList
  | .int n => (toString n).toList
  | .float x => number x
  | .str s => quoted s
  | .list xs => '[' :: commas (dumpsList xs) ++ [']']
  | .dict d => '\x7b' :: commas ((members sort_keys (dumpsDict d)).map member) ++ ['\x7d']

def dumpsList : List PyVal → List (List Char)
  | [] => []
  | v :: xs => dumps v :: dumpsList xs

def dumpsDict : List (String × PyVal) → List (String × List Char)
  | [] => []
  | (k, v) :: d => (k, dumps v) :: dumpsDict d

end

end dumps

theorem mem_members {sort_keys : Bool} {ms : List (String × List Char)} {p : String × List Char} :
    p ∈ members sort_keys ms ↔ p ∈ ms := by
  cases sort_keys with
  | false => rfl
  | true => exact List.mem_insertionSort _

/-! ## Reading a string -/

def hexDigit? (c : Char) : Option ℕ :=
  if 48 ≤ c.toNat ∧ c.toNat ≤ 57 then some (c.toNat - 48)
  else if 97 ≤ c.toNat ∧ c.toNat ≤ 102 then some (c.toNat - 87)
  else if 65 ≤ c.toNat ∧ c.toNat ≤ 70 then some (c.toNat - 55)
  else none

/-- The number of four hexadecimal digits, and the text after them. -/
def hex? : List Char → Option (ℕ × List Char)
  | a :: b :: c :: d :: cs =>
    match hexDigit? a, hexDigit? b, hexDigit? c, hexDigit? d with
    | some w, some x, some y, some z => some (((w * 16 + x) * 16 + y) * 16 + z, cs)
    | _, _, _, _ => none
  | _ => none

/-- The character after `\u`. -/
def unicode? (cs : List Char) : Option (Char × List Char) :=
  match hex? cs with
  | none => none
  | some (n, rest) =>
    if 0xd800 ≤ n ∧ n < 0xdc00 then
      match rest with
      | '\\' :: 'u' :: rest =>
        match hex? rest with
        | none => none
        | some (low, rest) =>
          if 0xdc00 ≤ low ∧ low < 0xe000 then
            some (Char.ofNat (0x10000 + (n - 0xd800) * 1024 + (low - 0xdc00)), rest)
          else none
      | _ => none
    else if 0xdc00 ≤ n ∧ n < 0xe000 then none
    else some (Char.ofNat n, rest)

def escaped? (c : Char) : Option Char :=
  if c = '"' ∨ c = '\\' ∨ c = '/' then some c
  else if c = 'n' then some '\n'
  else if c = 'r' then some '\r'
  else if c = 't' then some '\t'
  else if c = 'f' then some (Char.ofNat 12)
  else if c = 'b' then some (Char.ofNat 8)
  else none

/-- One character of a string. Control characters must be escaped. -/
def char? : List Char → Option (Char × List Char)
  | '\\' :: 'u' :: cs => unicode? cs
  | '\\' :: c :: cs => (escaped? c).map fun c => (c, cs)
  | c :: cs => if 32 ≤ c.toNat then some (c, cs) else none
  | [] => none

/-- The characters up to the closing quote. -/
def string? : ℕ → List Char → Option (List Char × List Char)
  | 0, _ => none
  | n + 1, cs =>
    if cs.head? = some '"' then some ([], cs.tail)
    else
      match char? cs with
      | none => none
      | some (c, cs) => (string? n cs).map fun p => (c :: p.1, p.2)

/-! ## The characters of a string can be read back -/

theorem hex4_eq (n : ℕ) : hex4 n = [Nat.digitChar (n / 4096 % 16), Nat.digitChar (n / 256 % 16),
    Nat.digitChar (n / 16 % 16), Nat.digitChar (n % 16)] := by
  simp [hex4, List.range_succ]

theorem hexDigit?_digitChar {d : ℕ} (h : d < 16) : hexDigit? (Nat.digitChar d) = some d := by
  interval_cases d <;> rfl

theorem hex?_hex4 {n : ℕ} (h : n < 0x10000) (r : List Char) : hex? (hex4 n ++ r) = some (n, r) := by
  rw [hex4_eq]
  simp only [List.cons_append, List.nil_append, hex?]
  rw [hexDigit?_digitChar (Nat.mod_lt _ (by omega)), hexDigit?_digitChar (Nat.mod_lt _ (by omega)),
    hexDigit?_digitChar (Nat.mod_lt _ (by omega)), hexDigit?_digitChar (Nat.mod_lt _ (by omega))]
  simp only [Option.some.injEq, Prod.mk.injEq, and_true]
  omega

theorem char?_plain {c : Char} (r : List Char) (hslash : c ≠ '\\') (h : 32 ≤ c.toNat) :
    char? (c :: r) = some (c, r) := by
  unfold char?
  split
  all_goals simp_all

theorem unicode?_basic {n : ℕ} (h : n < 0x10000) (hvalid : n < 0xd800 ∨ 0xdfff < n)
    (r : List Char) : unicode? (hex4 n ++ r) = some (Char.ofNat n, r) := by
  have hlow : ¬ (0xd800 ≤ n ∧ n < 0xdc00) := by omega
  have hhigh : ¬ (0xdc00 ≤ n ∧ n < 0xe000) := by omega
  simp only [unicode?, hex?_hex4 h, hlow, hhigh, if_false]

theorem unicode?_pair {n m : ℕ} (hn : n < 1024) (hm : m < 1024) (r : List Char) :
    unicode? (hex4 (0xd800 + n) ++ '\\' :: 'u' :: (hex4 (0xdc00 + m) ++ r)) =
      some (Char.ofNat (0x10000 + n * 1024 + m), r) := by
  have hfirst : 0xd800 ≤ 0xd800 + n ∧ 0xd800 + n < 0xdc00 := by omega
  have hsecond : 0xdc00 ≤ 0xdc00 + m ∧ 0xdc00 + m < 0xe000 := by omega
  have hread := hex?_hex4 (n := 0xd800 + n) (by omega)
  have hread' := hex?_hex4 (n := 0xdc00 + m) (by omega)
  simp only [unicode?, hread, hread', hfirst, hsecond, and_self, if_true, Nat.add_sub_cancel_left]

/-- What `escape` wrote is one character again. -/
theorem char?_escape (c : Char) (r : List Char) : char? (escape c ++ r) = some (c, r) := by
  have hvalid : c.toNat < 0xd800 ∨ 0xdfff < c.toNat ∧ c.toNat < 0x110000 := c.valid
  unfold escape
  by_cases hquote : c = '"'
  · subst hquote
    rfl
  by_cases hslash : c = '\\'
  · subst hslash
    rfl
  by_cases hn : c = '\n'
  · subst hn
    rfl
  by_cases hr : c = '\r'
  · subst hr
    rfl
  by_cases ht : c = '\t'
  · subst ht
    rfl
  rw [if_neg hquote, if_neg hslash, if_neg hn, if_neg hr, if_neg ht]
  by_cases hf : c.toNat = 12
  · rw [if_pos hf, ← Char.ofNat_toNat c, hf]
    rfl
  by_cases hb : c.toNat = 8
  · rw [if_neg hf, if_pos hb, ← Char.ofNat_toNat c, hb]
    rfl
  rw [if_neg hf, if_neg hb]
  by_cases hplain : 32 ≤ c.toNat ∧ c.toNat ≤ 126
  · rw [if_pos hplain]
    exact char?_plain r hslash hplain.1
  rw [if_neg hplain]
  by_cases hbasic : c.toNat < 0x10000
  · rw [if_pos hbasic]
    simp only [List.cons_append, char?]
    rw [unicode?_basic hbasic (by omega), Char.ofNat_toNat]
  · rw [if_neg hbasic]
    -- The second surrogate follows the first one.
    simp only [List.cons_append, List.append_assoc, char?]
    rw [unicode?_pair (by omega) (Nat.mod_lt _ (by omega)),
      show 0x10000 + (c.toNat - 0x10000) / 1024 * 1024 + (c.toNat - 0x10000) % 1024 = c.toNat by
        omega, Char.ofNat_toNat]

theorem head_escape (c : Char) : ∃ d cs, escape c = d :: cs ∧ d ≠ '"' := by
  unfold escape
  split_ifs with hquote
  all_goals first
    | exact ⟨_, _, rfl, by decide⟩
    | exact ⟨_, _, rfl, hquote⟩

theorem string?_escaped {s : List Char} {n : ℕ} (h : s.length < n) (r : List Char) :
    string? n (s.flatMap escape ++ '"' :: r) = some (s, r) := by
  induction s generalizing n with
  | nil =>
    obtain ⟨m, rfl⟩ := Nat.exists_eq_add_of_lt h
    simp [string?]
  | cons c s ih =>
    obtain ⟨m, rfl⟩ : ∃ m, n = m + 1 := ⟨n - 1, by simp at h; omega⟩
    obtain ⟨d, cs, hd, hne⟩ := head_escape c
    have hhead : (escape c ++ (s.flatMap escape ++ '"' :: r)).head? ≠ some '"' := by
      simpa [hd] using hne
    rw [List.flatMap_cons, List.append_assoc, string?, if_neg hhead, char?_escape]
    simp [ih (n := m) (by simp at h; omega)]

theorem length_le_flatMap_escape (s : List Char) : s.length ≤ (s.flatMap escape).length := by
  induction s with
  | nil => simp
  | cons c s ih =>
    obtain ⟨d, cs, hd, -⟩ := head_escape c
    simp only [List.flatMap_cons, List.length_append, List.length_cons, hd]
    omega

theorem string?_quoted (s : String) (r : List Char) :
    string? ((s.toList.flatMap escape ++ '"' :: r).length + 1)
      (s.toList.flatMap escape ++ '"' :: r) = some (s.toList, r) := by
  refine string?_escaped ?_ r
  have hlen := length_le_flatMap_escape s.toList
  rw [List.length_append]
  omega

theorem quoted_append_inj {s t : String} {r r' : List Char}
    (h : quoted s ++ r = quoted t ++ r') : s = t ∧ r = r' := by
  simp only [quoted, List.cons_append, List.append_assoc, List.nil_append, List.cons.injEq,
    true_and] at h
  have hread := string?_quoted s r
  rw [h, string?_quoted] at hread
  simp only [Option.some.injEq, Prod.mk.injEq] at hread
  exact ⟨(String.toList_inj.mp hread.1).symm, hread.2.symm⟩

theorem quoted_inj {s t : String} (h : quoted s = quoted t) : s = t :=
  (quoted_append_inj (congrArg (· ++ []) h)).1

/-! ## The end of a value can be found -/

/-- Outside of a string, in one, and after a backslash in one. -/
inductive Mode where
  | out | str | esc

/-- What is left of a text from the first comma or bracket that belongs to
none of the `d` brackets that are open. -/
def after : ℕ → Mode → List Char → List Char
  | _, _, [] => []
  | d, .esc, _ :: cs => after d .str cs
  | d, .str, c :: cs =>
    if c = '\\' then after d .esc cs else if c = '"' then after d .out cs else after d .str cs
  | d, .out, c :: cs =>
    if c = '"' then after d .str cs
    else if c = '[' ∨ c = '\x7b' then after (d + 1) .out cs
    else if d = 0 ∧ (c = ',' ∨ c = ']' ∨ c = '\x7d') then c :: cs
    else if c = ']' ∨ c = '\x7d' then after (d - 1) .out cs
    else after d .out cs

/-- A text that opens no bracket for good, and closes none that it did not
open. -/
def Closed (t : List Char) : Prop := ∀ d r, after d .out (t ++ r) = after d .out r

/-- The same between brackets, where a comma ends nothing. -/
def Inner (t : List Char) : Prop := ∀ d r, after (d + 1) .out (t ++ r) = after (d + 1) .out r

/-- A character that means nothing to the structure. -/
def Plain (c : Char) : Prop := c ∉ ['"', '[', ']', '\x7b', '\x7d', ',']

theorem Closed.inner {t : List Char} (h : Closed t) : Inner t := fun d => h (d + 1)

theorem closed_nil : Closed [] := fun _ _ => rfl

theorem inner_nil : Inner [] := closed_nil.inner

theorem closed_append {s t : List Char} (hs : Closed s) (ht : Closed t) : Closed (s ++ t) := by
  intro d r
  rw [List.append_assoc, hs, ht]

theorem inner_append {s t : List Char} (hs : Inner s) (ht : Inner t) : Inner (s ++ t) := by
  intro d r
  rw [List.append_assoc, hs, ht]

theorem closed_of_plain {t : List Char} (h : ∀ c ∈ t, Plain c) : Closed t := by
  induction t with
  | nil => exact closed_nil
  | cons c t ih =>
    intro d r
    have hc := h c List.mem_cons_self
    simp only [Plain, List.mem_cons, List.not_mem_nil, or_false, not_or] at hc
    rw [List.cons_append, after]
    simp only [hc, if_false, or_self, and_false]
    exact ih (fun c' hc' => h c' (List.mem_cons_of_mem c hc')) d r

theorem inner_comma : Inner [','] := by
  intro d r
  rw [List.cons_append, List.nil_append, after]
  simp

theorem closed_brackets {t : List Char} (h : Inner t) :
    Closed ('[' :: t ++ [']']) ∧ Closed ('\x7b' :: t ++ ['\x7d']) := by
  constructor
  · intro d r
    simp only [List.cons_append, List.append_assoc, List.nil_append]
    rw [after]
    simp only [Char.reduceEq, if_false, true_or, if_true]
    rw [h, after]
    simp
  · intro d r
    simp only [List.cons_append, List.append_assoc, List.nil_append]
    rw [after]
    simp only [Char.reduceEq, if_false, or_true, if_true]
    rw [h, after]
    simp

/-! ## The text of a value is closed -/

theorem plain_of_isDigit {c : Char} (h : c.isDigit = true) : Plain c := by
  intro hmem
  simp only [List.mem_cons, List.not_mem_nil, or_false] at hmem
  rcases hmem with rfl | rfl | rfl | rfl | rfl | rfl <;> revert h <;> decide

theorem plain_digits (n : ℕ) : ∀ c ∈ Nat.toDigits 10 n, Plain c :=
  fun _ hc => plain_of_isDigit (Nat.isDigit_of_mem_toDigits (by omega) (by omega) hc)

theorem after_escape (d : ℕ) (c : Char) (r : List Char) :
    after d .str (escape c ++ r) = after d .str r := by
  -- In a string only the quote and the backslash count, and both are escaped.
  have hskip : ∀ c' r, c' ≠ '\\' → c' ≠ '"' → after d .str (c' :: r) = after d .str r := by
    intro c' r hslash hquote
    rw [after, if_neg hslash, if_neg hquote]
  have hpair : ∀ c' r, after d .str ('\\' :: c' :: r) = after d .str r := by
    intro c' r
    rw [after, if_pos rfl, after]
  have hhex : ∀ n r, after d .str (hex4 n ++ r) = after d .str r := by
    intro n r
    have hdigit : ∀ m, Nat.digitChar (m % 16) ≠ '\\' ∧ Nat.digitChar (m % 16) ≠ '"' := by
      intro m
      have hlt : m % 16 < 16 := Nat.mod_lt _ (by omega)
      generalize m % 16 = k at hlt
      interval_cases k <;> decide
    rw [hex4_eq]
    simp only [List.cons_append, List.nil_append]
    rw [hskip _ _ (hdigit _).1 (hdigit _).2, hskip _ _ (hdigit _).1 (hdigit _).2,
      hskip _ _ (hdigit _).1 (hdigit _).2, hskip _ _ (hdigit _).1 (hdigit _).2]
  unfold escape
  split_ifs with hquote hslash
  all_goals simp only [List.cons_append, List.nil_append, List.append_assoc, hpair, hhex]
  exact hskip c r hslash hquote

theorem closed_quoted (s : String) : Closed (quoted s) := by
  have hchars : ∀ (cs : List Char) d r,
      after d .str (cs.flatMap escape ++ r) = after d .str r := by
    intro cs d r
    induction cs with
    | nil => rfl
    | cons c cs ih => rw [List.flatMap_cons, List.append_assoc, after_escape, ih]
  intro d r
  rw [quoted, List.cons_append, List.cons_append, after, if_pos rfl, List.append_assoc, hchars,
    List.cons_append, after]
  simp

theorem closed_member {p : String × List Char} (h : Closed p.2) : Closed (member p) := by
  have hsep : Closed [':', ' '] := by
    refine closed_of_plain fun c hc => ?_
    simp only [List.mem_cons, List.not_mem_nil, or_false] at hc
    rcases hc with rfl | rfl <;> simp [Plain]
  have heq : member p = quoted p.1 ++ ([':', ' '] ++ p.2) := rfl
  rw [heq]
  exact closed_append (closed_quoted p.1) (closed_append hsep h)

theorem inner_commas {ts : List (List Char)} (h : ∀ t ∈ ts, Closed t) : Inner (commas ts) := by
  have hspace : Inner [' '] := (closed_of_plain (by simp [Plain])).inner
  induction ts with
  | nil => exact inner_nil
  | cons t ts ih =>
    have ht := (h t List.mem_cons_self).inner
    rcases ts with _ | ⟨t', ts⟩
    · exact ht
    · have hrest := ih fun s hs => h s (List.mem_cons_of_mem t hs)
      have heq : commas (t :: t' :: ts) = t ++ ([','] ++ ([' '] ++ commas (t' :: ts))) := rfl
      rw [heq]
      exact inner_append ht (inner_append inner_comma (inner_append hspace hrest))

theorem plain_zeros (n : ℕ) : ∀ c ∈ zeros n, Plain c := by
  intro c hc
  rw [List.eq_of_mem_replicate hc]
  simp [Plain]

theorem plain_shortest (q : ℚ) : ∀ c ∈ (shortest q).1, Plain c := by
  unfold shortest
  exact plain_digits _

theorem plain_reprPos (q : ℚ) : ∀ c ∈ reprPos q, Plain c := by
  have hds := plain_shortest q
  unfold reprPos
  generalize shortest q = p at hds
  obtain ⟨ds, e⟩ := p
  have htake : ∀ n, ∀ c ∈ ds.take n, Plain c := fun n c hc => hds c (List.mem_of_mem_take hc)
  have hdrop : ∀ n, ∀ c ∈ ds.drop n, Plain c := fun n c hc => hds c (List.mem_of_mem_drop hc)
  have hdot : Plain '.' ∧ Plain '0' ∧ Plain 'e' ∧ Plain '-' ∧ Plain '+' := by simp [Plain]
  intro c hc
  dsimp only at hc
  split_ifs at hc
  all_goals
    simp only [List.mem_append, List.mem_cons, List.not_mem_nil, or_false] at hc
    grind [plain_zeros, plain_digits]

theorem closed_number (x : PyFloat) : Closed (number x) := by
  refine closed_of_plain ?_
  cases x with
  | nan => simp [number, Plain]
  | inf s => cases s <;> simp [number, Plain]
  | fin q =>
    unfold number reprFloat
    dsimp only
    split_ifs with hzero hneg
    · simp [Plain]
    · intro c hc
      rcases List.mem_cons.mp (by simpa using hc) with rfl | hc
      · simp [Plain]
      · exact plain_reprPos _ c hc
    · intro c hc
      exact plain_reprPos q c (by simpa using hc)

theorem closed_int (n : ℤ) : Closed (toString n).toList := by
  refine closed_of_plain ?_
  rcases n with n | n
  · intro c hc
    exact plain_digits n c (by simpa [toString, Int.repr] using hc)
  · intro c hc
    rcases List.mem_cons.mp (by simpa [toString, Int.repr] using hc) with rfl | hc
    · simp [Plain]
    · exact plain_digits _ c hc

section dumps

variable (sort_keys : Bool)

mutual

theorem closed_dumps : (v : PyVal) → Closed (dumps sort_keys v)
  | .none => closed_of_plain (by simp [dumps, Plain])
  | .bool b => by cases b <;> exact closed_of_plain (by simp [dumps, Plain])
  | .int n => closed_int n
  | .float x => closed_number x
  | .str s => closed_quoted s
  | .list xs => (closed_brackets (inner_commas (closed_dumpsList xs))).1
  | .dict d => by
    refine (closed_brackets (inner_commas fun t ht => ?_)).2
    obtain ⟨p, hp, rfl⟩ := List.mem_map.mp ht
    exact closed_member (closed_dumpsDict d p (mem_members.mp hp))

theorem closed_dumpsList : (xs : List PyVal) → ∀ t ∈ dumpsList sort_keys xs, Closed t
  | [], _, ht => by cases ht
  | v :: xs, t, ht => by
    rcases List.mem_cons.mp ht with rfl | ht
    · exact closed_dumps v
    · exact closed_dumpsList xs t ht

theorem closed_dumpsDict : (d : List (String × PyVal)) → ∀ p ∈ dumpsDict sort_keys d, Closed p.2
  | [], _, hp => by cases hp
  | (k, v) :: d, p, hp => by
    rcases List.mem_cons.mp hp with rfl | hp
    · exact closed_dumps v
    · exact closed_dumpsDict d p hp

end

end dumps

/-! ## The members of an object can be told from its text -/

/-- A text that begins where a value ends. -/
def Delim (r : List Char) : Prop := ∃ c cs, r = c :: cs ∧ (c = ',' ∨ c = ']' ∨ c = '\x7d')

theorem after_delim {r : List Char} (h : Delim r) : after 0 .out r = r := by
  obtain ⟨c, cs, rfl, rfl | rfl | rfl⟩ := h <;> simp [after]

theorem closed_append_inj {s t r r' : List Char} (hs : Closed s) (ht : Closed t) (hr : Delim r)
    (hr' : Delim r') (h : s ++ r = t ++ r') : s = t ∧ r = r' := by
  have hrest : r = r' := by
    have hafter := congrArg (after 0 .out) h
    rwa [hs, ht, after_delim hr, after_delim hr'] at hafter
  subst hrest
  exact ⟨List.append_cancel_right h, rfl⟩

/-- A text that begins with a closing bracket. -/
def Ends (r : List Char) : Prop := ∃ c cs, r = c :: cs ∧ (c = ']' ∨ c = '\x7d')

theorem Ends.delim {r : List Char} : Ends r → Delim r := by
  rintro ⟨c, cs, hr, hc⟩
  exact ⟨c, cs, hr, Or.inr hc⟩

theorem commas_inj {xs ys : List (List Char)} {r r' : List Char}
    (hxs : ∀ t ∈ xs, Closed t ∧ t ≠ []) (hys : ∀ t ∈ ys, Closed t ∧ t ≠ []) (hr : Ends r)
    (hr' : Ends r') (h : commas xs ++ r = commas ys ++ r') : xs = ys ∧ r = r' := by
  -- What follows the first text: the rest of the list, or what ends it.
  have hsplit : ∀ t ts r, ∃ rest, commas (t :: ts) ++ r = t ++ rest ∧
      (ts = [] ∧ rest = r ∨ ts ≠ [] ∧ rest = ',' :: ' ' :: (commas ts ++ r)) := by
    intro t ts r
    rcases ts with _ | ⟨t', ts⟩
    · exact ⟨r, rfl, Or.inl ⟨rfl, rfl⟩⟩
    · exact ⟨_, by simp [commas], Or.inr ⟨by simp, rfl⟩⟩
  have hdelim : ∀ {ts : List (List Char)} {r rest : List Char}, Ends r →
      (ts = [] ∧ rest = r ∨ ts ≠ [] ∧ rest = ',' :: ' ' :: (commas ts ++ r)) → Delim rest := by
    rintro ts r rest hr (⟨-, rfl⟩ | ⟨-, rfl⟩)
    · exact hr.delim
    · exact ⟨',', _, rfl, Or.inl rfl⟩
  have hempty : ∀ {t : List Char} {ts : List (List Char)} {r r' : List Char}, Closed t → t ≠ [] →
      Ends r → Ends r' → r ≠ commas (t :: ts) ++ r' := by
    intro t ts r r' ht hne hr hr' heq
    obtain ⟨rest, hrest, hcases⟩ := hsplit t ts r'
    rw [hrest] at heq
    exact hne (closed_append_inj closed_nil ht hr.delim (hdelim hr' hcases) heq).1.symm
  induction xs generalizing ys with
  | nil =>
    rcases ys with _ | ⟨t, ys⟩
    · exact ⟨rfl, h⟩
    · obtain ⟨ht, hne⟩ := hys t List.mem_cons_self
      exact absurd h (hempty ht hne hr hr')
  | cons s xs ih =>
    obtain ⟨hs, hne⟩ := hxs s List.mem_cons_self
    rcases ys with _ | ⟨t, ys⟩
    · exact absurd h.symm (hempty hs hne hr' hr)
    obtain ⟨rest, hrest, hcases⟩ := hsplit s xs r
    obtain ⟨rest', hrest', hcases'⟩ := hsplit t ys r'
    rw [hrest, hrest'] at h
    obtain ⟨rfl, rfl⟩ := closed_append_inj hs (hys t List.mem_cons_self).1 (hdelim hr hcases)
      (hdelim hr' hcases') h
    have hxs' : ∀ t ∈ xs, Closed t ∧ t ≠ [] := fun t ht => hxs t (List.mem_cons_of_mem s ht)
    have hys' : ∀ t ∈ ys, Closed t ∧ t ≠ [] := fun t ht => hys t (List.mem_cons_of_mem s ht)
    obtain ⟨c, cs, rfl, hc⟩ := hr
    obtain ⟨c', cs', rfl, hc'⟩ := hr'
    rcases hcases with ⟨rfl, rfl⟩ | ⟨-, rfl⟩
    · rcases hcases' with ⟨rfl, hr⟩ | ⟨-, hcomma⟩
      · exact ⟨rfl, hr⟩
      · rcases hc with rfl | rfl <;> simp at hcomma
    · rcases hcases' with ⟨rfl, hcomma⟩ | ⟨-, heq⟩
      · rcases hc' with rfl | rfl <;> simp at hcomma
      · simp only [List.cons.injEq, true_and] at heq
        obtain ⟨rfl, hr⟩ := ih hxs' hys' heq
        exact ⟨rfl, hr⟩

theorem member_inj {p q : String × List Char} (h : member p = member q) : p = q := by
  obtain ⟨hkey, hrest⟩ := quoted_append_inj h
  simp only [List.cons.injEq, true_and] at hrest
  exact Prod.ext hkey hrest

theorem dumps_dict_inj {sort_keys : Bool} {d d' : List (String × PyVal)}
    (h : dumps sort_keys (.dict d) = dumps sort_keys (.dict d')) :
    members sort_keys (dumpsDict sort_keys d) = members sort_keys (dumpsDict sort_keys d') := by
  have hmembers : ∀ d : List (String × PyVal),
      ∀ t ∈ (members sort_keys (dumpsDict sort_keys d)).map member, Closed t ∧ t ≠ [] := by
    intro d t ht
    obtain ⟨p, hp, rfl⟩ := List.mem_map.mp ht
    refine ⟨closed_member (closed_dumpsDict sort_keys d p (mem_members.mp hp)), ?_⟩
    simp [member, quoted]
  simp only [dumps, List.cons_append, List.cons.injEq, true_and] at h
  have hends : Ends ['\x7d'] := ⟨_, _, rfl, Or.inr rfl⟩
  have hmap := (commas_inj (hmembers d) (hmembers d') hends hends h).1
  exact List.map_injective_iff.mpr (fun _ _ => member_inj) hmap

theorem mem_of_dumps_dict {sort_keys : Bool} {d d' : List (String × PyVal)}
    (h : dumps sort_keys (.dict d) = dumps sort_keys (.dict d')) {p : String × List Char}
    (hp : p ∈ dumpsDict sort_keys d) : p ∈ dumpsDict sort_keys d' := by
  have hmem : p ∈ members sort_keys (dumpsDict sort_keys d) := mem_members.mpr hp
  rw [dumps_dict_inj h] at hmem
  exact mem_members.mp hmem

end py.json
