-- What each pass of the redaction finds and keeps
-- (gateways/azure_di_egress_redaction.py). Four patterns match between two
-- word boundaries; the pattern of an amount does not, so only a masked amount
-- makes a boundary that was not there before.
import Asoe.EgressRedaction
import Mathlib.Data.Bool.AllAny

open regex masking

namespace asoe.redaction

variable {c : Chars} {k : Kind} {prev : Option Char} {t m u : List Char}

/-! ## Characters -/

namespace Chars

variable {d : Char}

theorem isDigit_ascii (hd : d.toNat < 128) : c.isDigit d = d.isDigit := by
  rw [isDigit, c.ascii_digit d hd]
  split
  · rename_i h
    rw [h]
    rfl
  · rename_i h
    rw [Bool.not_eq_true] at h
    rw [h]
    rfl

theorem isDigit_word (h : c.isDigit d = true) : c.word d = true := c.digit_word d h

theorem word_upper_or_digit (h : upper_or_digit d = true) : c.word d = true := by
  have hd : d.toNat < 128 ∧ d.isAlphanum = true := by
    unfold upper_or_digit upper at h
    simp only [Bool.or_eq_true, Bool.and_eq_true, decide_eq_true_eq, Char.le_def] at h
    unfold Char.isAlphanum Char.isAlpha Char.isUpper Char.isDigit Char.toNat
    simp only [Bool.or_eq_true, Bool.and_eq_true, decide_eq_true_eq, UInt32.le_iff_toNat_le] at h ⊢
    have h0 : '0'.val.toNat = 48 := rfl
    have h9 : '9'.val.toNat = 57 := rfl
    have hA : 'A'.val.toNat = 65 := rfl
    have hZ : 'Z'.val.toNat = 90 := rfl
    rw [h0, h9, hA, hZ] at h
    rcases h with h | h
    · exact ⟨by omega, Or.inl (Or.inl h)⟩
    · exact ⟨by omega, Or.inr h⟩
  rw [c.ascii_word d hd.1, hd.2, Bool.true_or]

/-! ## The patterns -/

/-- The four patterns between two boundaries. -/
theorem wordlike_of_ne_amount (c : Chars) (hk : k ≠ .amount) :
    ∃ r : Regex Char, c.pattern k = r.bounded ∧ r.Wordlike c.word := by
  have hdigit : ∀ d, c.isDigit d = true → c.word d = true := fun _ => isDigit_word
  have hupper : ∀ d, upper d = true → c.word d = true := fun d hd =>
    word_upper_or_digit (by rw [upper_or_digit, hd, Bool.true_or])
  have hboth : ∀ d, upper_or_digit d = true → c.word d = true := fun _ => word_upper_or_digit
  cases k with
  | amount => exact absurd rfl hk
  | ssn =>
    refine ⟨_, rfl, ?_, rfl, ?_, ?_⟩
    · simp [Regex.Local, digits, literal, one_digit]
    · simpa [Regex.Begins, Regex.nullable, digits, literal, one_digit] using hdigit
    · simpa [Regex.Ends, Regex.nullable, digits, literal, one_digit] using hdigit
  | cc_grouped =>
    refine ⟨_, rfl, ?_, rfl, ?_, ?_⟩
    · simp [Regex.Local, digits, one_digit]
    · simpa [Regex.Begins, Regex.nullable, digits, one_digit] using hdigit
    · simpa [Regex.Ends, Regex.nullable, digits, one_digit] using hdigit
  | cc_contiguous =>
    refine ⟨_, rfl, ?_, rfl, ?_, ?_⟩
    · simp [Regex.Local, one_digit]
    · simpa [Regex.Begins, one_digit] using hdigit
    · simpa [Regex.Ends, one_digit] using hdigit
  | iban =>
    refine ⟨_, rfl, ?_, rfl, ?_, ?_⟩
    · simp [Regex.Local, digits, one_digit]
    · simpa [Regex.Begins, Regex.nullable, digits, one_digit] using hupper
    · simpa [Regex.Ends, Regex.nullable, digits, one_digit] using hboth

theorem matches_iff (hk : k ≠ .amount) : (c.pattern k).Matches c.word prev m u ↔
    (c.pattern k).Matches c.word none m [] ∧ NoWord c.word prev ∧ NoWord c.word u.head? := by
  obtain ⟨r, hr, hword⟩ := c.wordlike_of_ne_amount hk
  rw [hr, hword.bounded_matches_iff, hword.bounded_matches_iff]
  constructor
  · rintro ⟨hm, hleft, hright⟩
    exact ⟨⟨hm, rfl, rfl⟩, hleft, hright⟩
  · rintro ⟨⟨hm, -, -⟩, hleft, hright⟩
    exact ⟨hm, hleft, hright⟩

theorem ends_of_matches (hk : k ≠ .amount) (h : (c.pattern k).Matches c.word prev m u) :
    ¬ NoWord c.word m.head? ∧ ¬ NoWord c.word m.getLast? := by
  obtain ⟨r, hr, hword⟩ := c.wordlike_of_ne_amount hk
  rw [hr, hword.bounded_matches_iff] at h
  unfold NoWord
  rw [hword.head h.1, hword.last h.1]
  exact ⟨Bool.noConfusion, Bool.noConfusion⟩

/-- A character at which a match can begin. -/
def Opens (c : Chars) (d : Char) : Prop := c.isDigit d = true ∨ d = '$' ∨ upper d = true

theorem begins_pattern (c : Chars) (k : Kind) : (c.pattern k).Begins c.Opens := by
  have hdigit : ∀ d, c.isDigit d = true → c.Opens d := fun _ => Or.inl
  have hdollar : ∀ d, (d == '$') = true → c.Opens d := fun _ hd =>
    Or.inr (Or.inl (beq_iff_eq.mp hd))
  have hupper : ∀ d, upper d = true → c.Opens d := fun _ hd => Or.inr (Or.inr hd)
  cases k with
  | ssn =>
    simpa [pattern, SSN_RE, Regex.bounded, Regex.Begins, Regex.nullable, digits, literal, one_digit]
      using hdigit
  | amount =>
    simpa [pattern, DOLLARS_RE, Regex.Begins, Regex.nullable, literal] using hdollar _ rfl
  | cc_grouped =>
    simpa [pattern, CC_GROUPED_RE, Regex.bounded, Regex.Begins, Regex.nullable, digits, one_digit]
      using hdigit
  | cc_contiguous =>
    simpa [pattern, CC_CONTIGUOUS_RE, Regex.bounded, Regex.Begins, Regex.nullable, one_digit]
      using hdigit
  | iban =>
    simpa [pattern, IBAN_RE, Regex.bounded, Regex.Begins, Regex.nullable, digits, one_digit]
      using hupper

theorem reads_pattern (c : Chars) (k : Kind) : (c.pattern k).nullable = false := by
  cases k <;> rfl

/-- A character that is in no match. -/
def Outside (c : Chars) (d : Char) : Prop :=
  c.isDigit d = false ∧ upper_or_digit d = false ∧ d ≠ '-' ∧ d ≠ ' '

theorem over_pattern (hk : k ≠ .amount) {o : Char} (ho : c.Outside o) :
    (c.pattern k).Over (· ≠ o) := by
  obtain ⟨hdigit, hboth, hdash, hblank⟩ := ho
  have hd : ∀ d, c.isDigit d = true → d ≠ o := by
    rintro d h rfl
    rw [h] at hdigit
    cases hdigit
  have hb : ∀ d, upper_or_digit d = true → d ≠ o := by
    rintro d h rfl
    rw [h] at hboth
    cases hboth
  have hu : ∀ d, upper d = true → d ≠ o := fun d h => hb d (by rw [upper_or_digit, h, Bool.true_or])
  cases k with
  | amount => exact absurd rfl hk
  | ssn =>
    simpa [pattern, SSN_RE, Regex.bounded, Regex.Over, digits, literal, one_digit]
      using ⟨hd, Ne.symm hdash, hd, Ne.symm hdash, hd⟩
  | cc_grouped =>
    simpa [pattern, CC_GROUPED_RE, Regex.bounded, Regex.Over, digits, one_digit]
      using ⟨⟨hd, Ne.symm hdash, Ne.symm hblank⟩, hd⟩
  | cc_contiguous =>
    simpa [pattern, CC_CONTIGUOUS_RE, Regex.bounded, Regex.Over, one_digit] using hd
  | iban =>
    simpa [pattern, IBAN_RE, Regex.bounded, Regex.Over, digits, one_digit] using ⟨hu, hd, hb⟩

/-! ## Masks -/

theorem mask_opens (j : Kind) : ∃ w, j.mask = '<' :: w := by
  cases j <;> exact ⟨_, rfl⟩

/-- The characters of the masks. -/
def maskLetters : List Char := "<redacted-smountcib>".toList

theorem mem_maskLetters (j : Kind) : ∀ d ∈ j.mask, d ∈ maskLetters := by
  cases j <;> exact List.all_iff_forall_prop.mp (by decide)

theorem not_opens_of_mask (hd : d ∈ maskLetters) : ¬ c.Opens d := by
  have hascii : ∀ d ∈ maskLetters, d.toNat < 128 ∧ d.isDigit = false ∧ d ≠ '$' ∧ upper d = false :=
    List.all_iff_forall_prop.mp (by decide)
  obtain ⟨hsmall, hdigit, hdollar, hupper⟩ := hascii d hd
  rintro (h | h | h)
  · rw [isDigit_ascii hsmall, hdigit] at h
    cases h
  · exact hdollar h
  · rw [hupper] at h
    cases h

theorem outside_ascii (hsmall : d.toNat < 128) (hdigit : d.isDigit = false)
    (hboth : upper_or_digit d = false) (hdash : d ≠ '-') (hblank : d ≠ ' ') : c.Outside d :=
  ⟨by rw [isDigit_ascii hsmall, hdigit], hboth, hdash, hblank⟩

theorem outside_mask (c : Chars) : c.Outside '<' :=
  outside_ascii (by decide) (by decide) (by decide) (by decide) (by decide)

theorem outside_dollar (c : Chars) : c.Outside '$' :=
  outside_ascii (by decide) (by decide) (by decide) (by decide) (by decide)

/-! ## What is found -/

theorem find_some (h : c.find k prev t = some m) :
    ∃ u, t = m ++ u ∧ (c.pattern k).Matches c.word prev m u := Regex.matches_of_find h

theorem find_opens (h : c.find k prev (d :: t) = some m) : c.Opens d := by
  obtain ⟨u, htext, hm⟩ := find_some h
  obtain ⟨e, w, rfl⟩ := List.exists_cons_of_ne_nil (Regex.ne_nil_of_matches (c.reads_pattern k) hm)
  obtain ⟨rfl, -⟩ := List.cons.inj htext
  exact (c.begins_pattern k).matches hm d rfl

theorem find_eq_none {d : Char} (hd : ¬ c.Opens d) : c.find k prev (d :: t) = none := by
  cases h : c.find k prev (d :: t) with
  | none => rfl
  | some m => exact absurd (find_opens h) hd

theorem over_amount (c : Chars) : (c.pattern .amount).Over (· ≠ '<') := by
  have hdigit : ∀ d, c.isDigit d = true → d ≠ '<' := by
    rintro d h rfl
    rw [c.outside_mask.1] at h
    cases h
  simpa [pattern, DOLLARS_RE, Regex.Over, literal, thousands, decimals, digits, one_digit]
    using hdigit

theorem apart (c : Chars) (k : Kind) : Apart Kind.mask (c.find k) '<' where
  opens := mask_opens
  avoids h hmem := by
    obtain ⟨u, -, hm⟩ := find_some h
    by_cases hk : k = .amount
    · subst hk
      exact c.over_amount.matches hm _ hmem rfl
    · exact (over_pattern hk c.outside_mask).matches hm _ hmem rfl
  starts j d hd prev t := find_eq_none (not_opens_of_mask (mem_maskLetters j d hd))
  stands h := by
    obtain ⟨u, rfl, hm⟩ := find_some h
    exact ⟨Regex.ne_nil_of_matches (c.reads_pattern _) hm, u, rfl⟩

theorem isSome_find (hk : k ≠ .amount) (hm : (c.pattern k).Matches c.word none m [])
    (hleft : NoWord c.word prev) (hright : NoWord c.word u.head?) :
    ∃ w, c.find k prev (m ++ u) = some w :=
  Regex.find_of_matches ((matches_iff hk).mpr ⟨hm, hleft, hright⟩)

theorem find_head (h : c.find k prev t = some m) : NoWord c.word prev ∨ NoWord c.word m.head? := by
  obtain ⟨u, -, hm⟩ := find_some h
  by_cases hk : k = .amount
  · subst hk
    obtain ⟨a, b, rfl, ⟨d, rfl, hd⟩, -⟩ := hm
    obtain rfl := beq_iff_eq.mp hd
    refine Or.inr ?_
    show c.word '$' = false
    rw [c.ascii_word '$' (by decide)]
    decide
  · exact Or.inl ((matches_iff hk).mp hm).2.1

theorem find_tail (hk : k ≠ .amount) (h : c.find k prev (m ++ u) = some m) :
    NoWord c.word u.head? := by
  obtain ⟨v, htext, hm⟩ := find_some h
  obtain rfl := List.append_cancel_left htext
  exact ((matches_iff hk).mp hm).2.2

/-! ## Amounts -/

theorem not_digit_of_ascii (hsmall : d.toNat < 128) (hd : d.isDigit = false) :
    c.isDigit d ≠ true := by
  rw [isDigit_ascii hsmall, hd]
  exact Bool.noConfusion

theorem amount_parts (h : c.find .amount prev t = some m) :
    ∃ w u, m = '$' :: w ∧ t = m ++ u ∧ (Regex.seq (.times 1 (some 3) c.one_digit)
      (.seq (.times 0 none c.thousands) (.times 0 (some 1) c.decimals))).Matches
        c.word (some '$') w u := by
  obtain ⟨u, htext, a, w, rfl, ⟨d, rfl, hd⟩, hm⟩ := find_some h
  obtain rfl := beq_iff_eq.mp hd
  exact ⟨w, u, rfl, htext, hm⟩

theorem dollar_not_mem_tail (h : c.find .amount prev t = some m) : '$' ∉ m.tail := by
  obtain ⟨w, u, rfl, -, hm⟩ := amount_parts h
  have hdigit : ∀ d, c.isDigit d = true → d ≠ '$' := by
    rintro d h rfl
    exact not_digit_of_ascii (by decide) (by decide) h
  have hover : (Regex.seq (.times 1 (some 3) c.one_digit)
      (.seq (.times 0 none c.thousands) (.times 0 (some 1) c.decimals))).Over (· ≠ '$') := by
    simpa [Regex.Over, thousands, decimals, digits, literal, one_digit] using hdigit
  exact fun hmem => hover.matches hm _ hmem rfl

theorem amount_begins (h : c.find .amount prev t = some m) :
    ∃ d w, c.isDigit d = true ∧ m = '$' :: d :: w := by
  obtain ⟨w, u, rfl, -, hm⟩ := amount_parts h
  obtain ⟨d, v, rfl⟩ := List.exists_cons_of_ne_nil
    (Regex.ne_nil_of_matches (r := .seq (.times 1 (some 3) c.one_digit) _) rfl hm)
  have hbegins : (Regex.seq (.times 1 (some 3) c.one_digit) (.seq (.times 0 none c.thousands)
      (.times 0 (some 1) c.decimals))).Begins fun d => c.isDigit d = true := by
    simp [Regex.Begins, Regex.nullable, one_digit]
  exact ⟨d, v, hbegins.matches hm d rfl, rfl⟩

theorem amount_found (hd : c.isDigit d = true) :
    ∃ w, c.find .amount prev ('$' :: d :: t) = some w := by
  refine Regex.find_of_matches (m := ['$', d]) (u := t) ⟨['$'], [d], rfl, ⟨'$', rfl, rfl⟩, [d], [],
    rfl, ?_, [], [], rfl, ⟨0, by omega, by omega, rfl⟩, 0, by omega, by omega, rfl⟩
  exact (matches_class (by omega)).mpr ⟨Nat.le_refl 1, by simp, by simpa using hd⟩

/-- Whether an amount is cut short before a digit depends on nothing that follows this digit. -/
theorem peeks_amount (c : Chars) : ((c.pattern .amount).run c.word).Peeks
    fun d => c.isDigit d = true := by
  have hcomma : (c.thousands.run c.word).Peeks fun _ => True :=
    (peeks_one _).andThen (peeks_class _ 3 3) (splits_run _ _) (Or.inl (single_one _))
      fun _ _ _ _ _ _ _ _ => trivial
  have hpoint : (c.decimals.run c.word).Peeks fun _ => True :=
    (peeks_one _).andThen (peeks_class _ 1 2) (splits_run _ _) (Or.inl (single_one _))
      fun _ _ _ _ _ _ _ _ => trivial
  have hothers : ((Regex.times 0 none c.thousands).run c.word).Peeks fun d => (d == ',') = false :=
    peeks_many rfl hcomma (failsBy_seq_one _ _)
  have hlast : ((Regex.times 0 (some 1) c.decimals).run c.word).Peeks
      fun d => c.isDigit d = true := by
    refine (peeks_times 1 (peeks_zero _) hpoint (failsBy_seq_one _ _)).mono fun d hd => ?_
    rw [beq_eq_false_iff_ne]
    rintro rfl
    exact not_digit_of_ascii (by decide) (by decide) hd
  refine (peeks_one _).andThen (C := fun _ => True) ?_ (splits_run _ _) (Or.inl (single_one _))
    fun _ _ _ _ _ _ _ _ => trivial
  refine (peeks_class _ 1 3).andThen (C := fun _ => True) ?_ (splits_run _ _)
    (Or.inr ((total_times _ _).andThen (total_times _ _))) fun _ _ _ _ _ _ _ _ => trivial
  refine hothers.andThen hlast (splits_run _ _) (Or.inr (total_times _ _)) ?_
  intro d hd _ s y hfirst e he
  have hbegins : (Regex.times 0 (some 1) c.decimals).Begins (· = '.') := by
    simp [Regex.Begins, Regex.nullable, decimals, literal]
  obtain ⟨-, hm⟩ := (tries_run _ _ _ _ _ _).mp (first_mem hfirst)
  rw [beq_eq_false_iff_ne]
  rintro rfl
  cases s with
  | nil =>
    obtain rfl : d = ',' := Option.some.inj he
    exact not_digit_of_ascii (by decide) (by decide) hd
  | cons b v =>
    obtain rfl : b = ',' := Option.some.inj he
    exact absurd (hbegins.matches hm _ rfl) (by decide)

/-! ## Parts in which a pattern is not found -/

/-- The pieces `x` with nothing found in `w` before them. -/
abbrev Misses (c : Chars) (k : Kind) (prev : Option Char) (w : List Char)
    (x : List (Seg Char Kind)) : Prop :=
  Missed Kind.mask (c.find k) (c.accepts k) prev w x

variable {x : List (Seg Char Kind)}

theorem misses_run (hk : k ≠ .amount) {g : List Char} (hg : ∀ d ∈ g, c.isDigit d = true)
    (hstart : ∀ m, c.find k prev (g ++ shown Kind.mask x) = some m → c.accepts k m = false) :
    c.Misses k prev g x := by
  intro u v huv hv m hm
  subst huv
  rcases List.eq_nil_or_concat u with rfl | ⟨w, d, rfl⟩
  · exact hstart m hm
  · obtain ⟨t, -, hmatch⟩ := find_some hm
    have hleft := ((matches_iff hk).mp hmatch).2.1
    have hd : c.word d = true := isDigit_word (hg d (by simp))
    rw [List.concat_eq_append, last_append] at hleft
    have hword : c.word d = false := hleft
    rw [hd] at hword
    cases hword

/-- Every match of the pattern has another character than a digit at the place `n`. -/
def Breaks (c : Chars) (k : Kind) (n : ℕ) : Prop :=
  ∀ m, (c.pattern k).Matches c.word none m [] → ∃ d, m[n]? = some d ∧ c.isDigit d = false

theorem misses_digits (hk : k ≠ .amount) {n : ℕ} (hbreaks : c.Breaks k n) {g : List Char}
    (hg : ∀ d ∈ g, c.isDigit d = true) (hn : n < g.length) :
    c.Misses k prev g x := by
  refine misses_run hk hg fun m hm => ?_
  obtain ⟨u, htext, hmatch⟩ := find_some hm
  obtain ⟨d, hd, hnot⟩ := hbreaks m ((matches_iff hk).mp hmatch).1
  obtain ⟨hlt, -⟩ := List.getElem?_eq_some_iff.mp hd
  have hsame : g[n]? = some d := by
    have happend : (g ++ shown Kind.mask x)[n]? = g[n]? := List.getElem?_append_left hn
    rw [← happend, htext, List.getElem?_append_left hlt, hd]
  rw [hg d (List.mem_of_getElem? hsame)] at hnot
  cases hnot

theorem misses_of_not_opens (hd : ¬ c.Opens d) (x : List (Seg Char Kind)) : c.Misses k prev [d] x :=
  Missed.single fun _ hm => absurd (find_opens hm) hd

theorem misses_amount {w : List Char} (hw : '$' ∉ w) (x : List (Seg Char Kind)) :
    c.Misses .amount prev w x := by
  intro u v huv hv m hm
  obtain ⟨e, v, rfl⟩ := List.exists_cons_of_ne_nil hv
  obtain ⟨a, t, rfl, htext, -⟩ := amount_parts hm
  obtain ⟨rfl, -⟩ := List.cons.inj htext
  exact absurd (by rw [huv]; simp) hw

theorem digits_iff {n : ℕ} : (c.digits n).Matches c.word prev m u ↔
    m.length = n ∧ ∀ d ∈ m, c.isDigit d = true := by
  refine (matches_class (Nat.le_refl n)).trans ?_
  constructor
  · rintro ⟨hlo, hhi, hall⟩
    exact ⟨by omega, hall⟩
  · rintro ⟨rfl, hall⟩
    exact ⟨Nat.le_refl _, Nat.le_refl _, hall⟩

theorem isDigit_dash : c.isDigit '-' = false := by
  rw [isDigit_ascii (by decide)]
  rfl

theorem isDigit_blank : c.isDigit ' ' = false := by
  rw [isDigit_ascii (by decide)]
  rfl

theorem core_of_bounded {r : Regex Char} (h : r.bounded.Matches c.word none m []) :
    ∃ prev u, r.Matches c.word prev m u := by
  obtain ⟨_, _, rfl, ⟨rfl, -⟩, a, _, rfl, ha, rfl, -⟩ := h
  rw [List.append_nil, List.nil_append]
  exact ⟨_, _, ha⟩

theorem ssn_breaks (c : Chars) : c.Breaks .ssn 3 := by
  intro m hm
  obtain ⟨prev, u, a, _, rfl, ha, _, b, rfl, ⟨d, rfl, hd⟩, -⟩ := core_of_bounded hm
  obtain rfl := beq_iff_eq.mp hd
  obtain ⟨hlength, -⟩ := digits_iff.mp ha
  exact ⟨'-', by rw [← hlength]; simp, isDigit_dash⟩

theorem group_iff (h : (Regex.seq (c.digits 4) (.one fun d => d == '-' || d == ' ')).Matches
    c.word prev m u) : ∃ g d, m = g ++ [d] ∧ g.length = 4 ∧ (∀ e ∈ g, c.isDigit e = true) ∧
      (d = '-' ∨ d = ' ') := by
  obtain ⟨g, _, rfl, hg, d, rfl, hd⟩ := h
  obtain ⟨hlength, hall⟩ := digits_iff.mp hg
  refine ⟨g, d, rfl, hlength, hall, ?_⟩
  simpa using hd

theorem grouped_breaks (c : Chars) : c.Breaks .cc_grouped 4 := by
  intro m hm
  obtain ⟨prev, u, _, b, rfl, ⟨n, hlo, -, hpower⟩, -⟩ := core_of_bounded hm
  obtain ⟨n, rfl⟩ := Nat.exists_eq_add_of_le' hlo
  obtain ⟨a, a', rfl, ha, -⟩ := hpower
  obtain ⟨g, d, rfl, hlength, -, hd⟩ := group_iff ha
  refine ⟨d, by rw [← hlength]; simp, ?_⟩
  rcases hd with rfl | rfl
  · exact isDigit_dash
  · exact isDigit_blank

/-- No social security number begins in a grouped card. -/
theorem misses_ssn_grouped (hm : (c.pattern .cc_grouped).Matches c.word none m [])
    (prev : Option Char) (x : List (Seg Char Kind)) : c.Misses .ssn prev m x := by
  have hrun : ∀ {prev g x}, g.length = 4 → (∀ e ∈ g, c.isDigit e = true) → c.Misses .ssn prev g x :=
    fun hlength hall => misses_digits (by decide) c.ssn_breaks hall (by omega)
  obtain ⟨before, u, a, b, rfl, ⟨n, -, -, hpower⟩, hb⟩ := core_of_bounded hm
  obtain ⟨hlength, hall⟩ := digits_iff.mp hb
  refine Missed.append ?_ (hrun hlength hall)
  generalize b.map Seg.keep ++ x = y
  clear hm hb
  induction n generalizing prev before a with
  | zero =>
    obtain rfl : a = [] := hpower
    exact Missed.nil prev y
  | succ n ih =>
    obtain ⟨_, a', rfl, ha, hrest⟩ := hpower
    obtain ⟨g, d, rfl, hlength', hall', hd⟩ := group_iff ha
    have hsep : ¬ c.Opens d := by
      have hascii : d.toNat < 128 ∧ d.isDigit = false ∧ d ≠ '$' ∧ upper d = false := by
        rcases hd with rfl | rfl <;> decide
      rintro (h | h | h)
      · exact not_digit_of_ascii hascii.1 hascii.2.1 h
      · exact hascii.2.2.1 h
      · rw [hascii.2.2.2] at h
        cases h
    exact Missed.append (Missed.append (hrun hlength' hall') (misses_of_not_opens hsep _))
      (ih _ _ _ hrest)

theorem contiguous_iff : (c.pattern .cc_contiguous).Matches c.word none m [] ↔
    13 ≤ m.length ∧ m.length ≤ 19 ∧ ∀ d ∈ m, c.isDigit d = true := by
  have hclass : (Regex.times 13 (some 19) c.one_digit).Matches c.word none m [] ↔ _ :=
    matches_class (by omega)
  have hword : (Regex.times 13 (some 19) c.one_digit).Wordlike c.word := by
    have hdigit : ∀ d, c.isDigit d = true → c.word d = true := fun _ => isDigit_word
    refine ⟨by simp [Regex.Local, one_digit], rfl, ?_, ?_⟩
    · simpa [Regex.Begins, one_digit] using hdigit
    · simpa [Regex.Ends, one_digit] using hdigit
  refine hword.bounded_matches_iff.trans (Iff.trans ?_ hclass)
  exact and_iff_left ⟨rfl, rfl⟩

/-! ## Cards at the beginning of pieces -/

/-- The pieces begin with the text, and its last word ends with it. -/
def Leads (c : Chars) (w : List Char) (x : List (Seg Char Kind)) : Prop :=
  ∃ e, x = w.map .keep ++ e ∧ NoWord c.word (shown Kind.mask e).head?

/-- The pieces begin with an accepted match. -/
def CardAt (c : Chars) (k : Kind) (x : List (Seg Char Kind)) : Prop :=
  ∃ w, (c.pattern k).Matches c.word none w [] ∧ c.accepts k w = true ∧ c.Leads w x

/-- What is found is the accepted match, since the runs of digits are of one length only. -/
theorem find_of_leads (hk : k ≠ .amount) {w : List Char} {x : List (Seg Char Kind)}
    (hprev : NoWord c.word prev) (hm : (c.pattern k).Matches c.word none w [])
    (haccept : c.accepts k w = true) (hleads : c.Leads w x) :
    ∃ w', c.find k prev (shown Kind.mask x) = some w' ∧ c.accepts k w' = true := by
  obtain ⟨e, rfl, hright⟩ := hleads
  rw [shown_append, shown_keeps]
  obtain ⟨w', hfind⟩ := isSome_find hk hm hprev hright
  refine ⟨w', hfind, ?_⟩
  cases k with
  | cc_contiguous =>
    obtain ⟨u, htext, hm'⟩ := find_some hfind
    obtain ⟨hcore, -, hright'⟩ := (matches_iff hk).mp hm'
    have hdigits := (contiguous_iff.mp hm).2.2
    have hdigits' := (contiguous_iff.mp hcore).2.2
    rcases List.append_eq_append_iff.mp htext with ⟨y, rfl, hu⟩ | ⟨y, rfl, hu⟩
    · cases y with
      | nil => rwa [List.append_nil]
      | cons d y =>
        rw [hu] at hright
        have hd : c.word d = false := hright
        rw [isDigit_word (hdigits' d (by simp))] at hd
        cases hd
    · cases y with
      | nil => rwa [List.append_nil] at haccept
      | cons d y =>
        rw [hu] at hright'
        have hd : c.word d = false := hright'
        rw [isDigit_word (hdigits d (by simp))] at hd
        cases hd
  | _ => rfl

theorem cardAt_iff (prev : Option Char) (hk : k ≠ .amount) (hprev : NoWord c.word prev) :
    (∃ w, c.find k prev (shown Kind.mask x) = some w ∧ c.accepts k w = true) ↔ c.CardAt k x := by
  constructor
  · rintro ⟨w, hfind, haccept⟩
    obtain ⟨u, htext, hm⟩ := find_some hfind
    obtain ⟨hcore, -, hright⟩ := (matches_iff hk).mp hm
    obtain ⟨e, rfl, rfl⟩ := keeps_of_shown mask_opens htext ((c.apart k).avoids hfind)
    exact ⟨w, hcore, haccept, e, rfl, hright⟩
  · rintro ⟨w, hm, haccept, hleads⟩
    exact find_of_leads hk hprev hm haccept hleads

/-- One pass over the pieces of a text. -/
abbrev PassOf (c : Chars) (k : Kind) (prev : Option Char) (x y : List (Seg Char Kind)) : Prop :=
  Masks Kind.mask (c.find k) (c.accepts k) k prev x y

theorem noWord_opening (c : Chars) : NoWord c.word (some '<') := by
  show c.word '<' = false
  rw [c.ascii_word '<' (by decide)]
  decide

theorem last_word {w : List Char} (hw : ¬ NoWord c.word w.getLast?) (prev : Option Char) :
    ¬ NoWord c.word (last prev w) := by
  unfold last
  cases h : w.getLast? with
  | none =>
    rw [h] at hw
    exact absurd rfl hw
  | some d => rwa [h] at hw

variable {y : List (Seg Char Kind)}

theorem cardAt_before (hk : k ≠ .amount) {j : Kind}
    (h : c.PassOf j prev x y) (hcard : c.CardAt k y) : c.CardAt k x := by
  obtain ⟨w, hm, haccept, e, rfl, hright⟩ := hcard
  obtain ⟨e₀, rfl, -, hrest⟩ := h.of_keeps
  exact ⟨w, hm, haccept, e₀, rfl, hrest.head_before mask_opens (fun _ _ _ => find_head)
    (last_word (ends_of_matches hk hm).2 prev) hright⟩

theorem cardAt_after {j : Kind} (h : c.PassOf j prev x y)
    (hmiss : ∀ w, (c.pattern k).Matches c.word none w [] → ∀ e, c.Misses j prev w e)
    (hcard : c.CardAt k x) : c.CardAt k y := by
  obtain ⟨w, hm, haccept, e, rfl, hright⟩ := hcard
  obtain ⟨e', rfl, hrest⟩ := h.kept (hmiss w hm e)
  exact ⟨w, hm, haccept, e', rfl, hrest.head_after mask_opens c.noWord_opening hright⟩

theorem cardAt_after_ssn (hk : k = .cc_grouped ∨ k = .cc_contiguous)
    (h : c.PassOf .ssn prev x y) (hcard : c.CardAt k x) : c.CardAt k y := by
  refine cardAt_after h (fun w hm e => ?_) hcard
  rcases hk with rfl | rfl
  · exact misses_ssn_grouped hm prev e
  · obtain ⟨hlength, -, hall⟩ := contiguous_iff.mp hm
    exact misses_digits (by decide) c.ssn_breaks hall (by omega)

theorem cardAt_after_amount (hk : k ≠ .amount)
    (h : c.PassOf .amount prev x y) (hcard : c.CardAt k x) : c.CardAt k y := by
  refine cardAt_after h (fun w hm e => misses_amount (fun hmem => ?_) e) hcard
  exact (over_pattern hk c.outside_dollar).matches hm _ hmem rfl

theorem cardAt_after_grouped (h : c.PassOf .cc_grouped prev x y)
    (hcard : c.CardAt .cc_contiguous x) : c.CardAt .cc_contiguous y := by
  refine cardAt_after h (fun w hm e => ?_) hcard
  obtain ⟨hlength, -, hall⟩ := contiguous_iff.mp hm
  exact misses_digits (by decide) c.grouped_breaks hall (by omega)

/-- An account number begins with no digit. -/
theorem find_iban_eq_none {d : Char} {t : List Char} (hd : c.isDigit d = true) :
    c.find .iban prev (d :: t) = none := by
  cases h : c.find .iban prev (d :: t) with
  | none => rfl
  | some m =>
    obtain ⟨u, htext, hm⟩ := find_some h
    have hbegins : (c.pattern .iban).Begins fun d => upper d = true := by
      simp [pattern, IBAN_RE, Regex.bounded, Regex.Begins, Regex.nullable]
    obtain ⟨e, w, rfl⟩ := List.exists_cons_of_ne_nil
      (Regex.ne_nil_of_matches (c.reads_pattern _) hm)
    obtain ⟨rfl, -⟩ := List.cons.inj htext
    have hupper := hbegins.matches hm d rfl
    unfold upper at hupper
    simp only [Bool.and_eq_true, decide_eq_true_eq, Char.le_def, UInt32.le_iff_toNat_le] at hupper
    have hA : 'A'.val.toNat = 65 := rfl
    have hZ : 'Z'.val.toNat = 90 := rfl
    have hsmall : d.toNat < 128 := by
      unfold Char.toNat
      omega
    have hnot : d.isDigit = false := by
      have h9 : '9'.val.toNat = 57 := rfl
      rw [Char.isDigit, Bool.and_eq_false_iff]
      refine Or.inr (decide_eq_false ?_)
      rw [UInt32.le_iff_toNat_le]
      omega
    exact absurd hd (not_digit_of_ascii hsmall hnot)

end Chars

end asoe.redaction
