-- Regular expressions searched by backtracking. A matcher gives the ways to
-- match at a place in the order in which they are tried, so the first one is
-- the match that is found; `Matches` says which ways there are.
import Mathlib.Data.List.Basic

namespace regex

variable {α : Type*}

/-! ## Patterns -/

/-- A pattern: one character of a class, a word boundary, one pattern after the other, and
as many repetitions as possible, at least `lo` and at most `hi`. -/
inductive Regex (α : Type*) where
  | one (p : α → Bool)
  | boundary
  | seq (r s : Regex α)
  | times (lo : ℕ) (hi : Option ℕ) (r : Regex α)

/-- The character before the place that follows `m`. -/
def last (prev : Option α) (m : List α) : Option α := m.getLast?.or prev

/-- What can be matched after a character, and the text that remains. -/
abbrev Matcher (α : Type*) := Option α → List α → List (List α × List α)

def Matcher.andThen (f g : Matcher α) : Matcher α := fun prev t =>
  (f prev t).flatMap fun w => (g (last prev w.1) w.2).map fun v => (w.1 ++ v.1, v.2)

def Matcher.exactly (f : Matcher α) : ℕ → Matcher α
  | 0 => fun _ t => [([], t)]
  | n + 1 => f.andThen (f.exactly n)

def Matcher.upTo (f : Matcher α) : ℕ → Matcher α
  | 0 => fun _ t => [([], t)]
  | n + 1 => fun prev t => f.andThen (f.upTo n) prev t ++ [([], t)]

/-- A word begins or ends between two characters. -/
def atBoundary (word : α → Bool) (prev next : Option α) : Bool := prev.any word != next.any word

/-- How often more than `lo` times a pattern is repeated in a text of a length. -/
def extra (lo : ℕ) (hi : Option ℕ) (length : ℕ) : ℕ :=
  match hi with
  | some most => most - lo
  | none => length

variable (word : α → Bool)

def Regex.run : Regex α → Matcher α
  | one p => fun _ t =>
    match t with
    | c :: u => if p c then [([c], u)] else []
    | [] => []
  | boundary => fun prev t => if atBoundary word prev t.head? then [([], t)] else []
  | seq r s => r.run.andThen s.run
  | times lo hi r => fun prev t =>
    (r.run.exactly lo).andThen (r.run.upTo (extra lo hi t.length)) prev t

/-- The match that is found at a place. -/
def Regex.find (r : Regex α) (prev : Option α) (t : List α) : Option (List α) :=
  (r.run word prev t).head?.map Prod.fst

/-! ## What is matched -/

/-- `n` matches one after the other. -/
def Power (P : Option α → List α → List α → Prop) : ℕ → Option α → List α → List α → Prop
  | 0, _, m, _ => m = []
  | n + 1, prev, m, u =>
    ∃ a b, m = a ++ b ∧ P prev a (b ++ u) ∧ Power P n (last prev a) b u

/-- The pattern matches `m` between the character `prev` and the text `u`. -/
def Regex.Matches : Regex α → Option α → List α → List α → Prop
  | one p, _, m, _ => ∃ c, m = [c] ∧ p c = true
  | boundary, prev, m, u => m = [] ∧ atBoundary word prev u.head? = true
  | seq r s, prev, m, u =>
    ∃ a b, m = a ++ b ∧ r.Matches prev a (b ++ u) ∧ s.Matches (last prev a) b u
  | times lo hi r, prev, m, u =>
    ∃ n, lo ≤ n ∧ n ≤ lo + extra lo hi (m ++ u).length ∧ Power r.Matches n prev m u

@[simp]
theorem last_nil (prev : Option α) : last prev [] = prev := rfl

@[simp]
theorem last_append (prev : Option α) (a b : List α) :
    last prev (a ++ b) = last (last prev a) b := by
  unfold last
  rw [List.getLast?_append, Option.or_assoc]

@[simp]
theorem last_cons (prev : Option α) (c : α) (m : List α) :
    last prev (c :: m) = last (some c) m := by
  have happend := last_append prev [c] m
  exact happend

section power

variable {P : Option α → List α → List α → Prop} {f : Matcher α}

theorem power_add (j k : ℕ) (prev : Option α) (m u : List α) :
    Power P (j + k) prev m u ↔
      ∃ a b, m = a ++ b ∧ Power P j prev a (b ++ u) ∧ Power P k (last prev a) b u := by
  induction j generalizing prev m with
  | zero => simp [Power]
  | succ j ih =>
    rw [Nat.add_right_comm]
    simp only [Power, ih]
    constructor
    · rintro ⟨a, _, rfl, ha, b, c, rfl, hb, hc⟩
      exact ⟨a ++ b, c, by simp, ⟨a, b, rfl, by simpa using ha, hb⟩, by simpa using hc⟩
    · rintro ⟨_, c, rfl, ⟨a, b, rfl, ha, hb⟩, hc⟩
      exact ⟨a, b ++ c, by simp, by simpa using ha, b, c, rfl, hb, by simpa using hc⟩

/-- The matcher tries the ways in which `P` matches. -/
def Tries (f : Matcher α) (P : Option α → List α → List α → Prop) : Prop :=
  ∀ prev t m u, (m, u) ∈ f prev t ↔ t = m ++ u ∧ P prev m u

theorem tries_andThen {g : Matcher α} {Q : Option α → List α → List α → Prop} (hf : Tries f P)
    (hg : Tries g Q) : Tries (f.andThen g) fun prev m u =>
      ∃ a b, m = a ++ b ∧ P prev a (b ++ u) ∧ Q (last prev a) b u := by
  intro prev t m u
  unfold Matcher.andThen
  simp only [List.mem_flatMap, List.mem_map, Prod.mk.injEq, Prod.exists]
  constructor
  · rintro ⟨a, v, ha, b, w, hb, rfl, rfl⟩
    obtain ⟨rfl, hP⟩ := (hf _ _ _ _).mp ha
    obtain ⟨rfl, hQ⟩ := (hg _ _ _ _).mp hb
    exact ⟨by simp, a, b, rfl, hP, hQ⟩
  · rintro ⟨rfl, a, b, rfl, hP, hQ⟩
    exact ⟨a, b ++ u, (hf _ _ _ _).mpr ⟨by simp, hP⟩, b, u, (hg _ _ _ _).mpr ⟨rfl, hQ⟩, rfl, rfl⟩

theorem tries_exactly (hf : Tries f P) (n : ℕ) : Tries (f.exactly n) (Power P n) := by
  induction n with
  | zero =>
    intro prev t m u
    simp only [Matcher.exactly, Power, List.mem_singleton, Prod.mk.injEq]
    constructor
    · rintro ⟨rfl, rfl⟩
      exact ⟨rfl, rfl⟩
    · rintro ⟨rfl, rfl⟩
      exact ⟨rfl, rfl⟩
  | succ n ih => exact tries_andThen hf ih

theorem tries_upTo (hf : Tries f P) (n : ℕ) :
    Tries (f.upTo n) fun prev m u => ∃ k ≤ n, Power P k prev m u := by
  induction n with
  | zero =>
    intro prev t m u
    simp only [Nat.le_zero, exists_eq_left]
    exact tries_exactly hf 0 prev t m u
  | succ n ih =>
    intro prev t m u
    simp only [Matcher.upTo, List.mem_append, tries_andThen hf ih prev t m u,
      List.mem_singleton, Prod.mk.injEq]
    constructor
    · rintro (⟨rfl, a, b, rfl, hP, k, hk, hpower⟩ | ⟨rfl, rfl⟩)
      · exact ⟨rfl, k + 1, by omega, a, b, rfl, hP, hpower⟩
      · exact ⟨rfl, 0, by omega, rfl⟩
    · rintro ⟨rfl, k, hk, hpower⟩
      cases k with
      | zero =>
        obtain rfl : m = [] := hpower
        exact Or.inr ⟨rfl, rfl⟩
      | succ k =>
        obtain ⟨a, b, rfl, hP, hrest⟩ := hpower
        exact Or.inl ⟨rfl, a, b, rfl, hP, k, by omega, hrest⟩

end power

theorem tries_run (r : Regex α) : Tries (r.run word) (r.Matches word) := by
  induction r with
  | one p =>
    intro prev t m u
    unfold Regex.run Regex.Matches
    cases t with
    | nil =>
      simp only [List.not_mem_nil, false_iff]
      rintro ⟨h, c, rfl, -⟩
      cases h
    | cons c t =>
      by_cases hc : p c = true
      · simp only [hc, if_true, List.mem_singleton, Prod.mk.injEq]
        constructor
        · rintro ⟨rfl, rfl⟩
          exact ⟨rfl, c, rfl, hc⟩
        · rintro ⟨h, d, rfl, -⟩
          obtain ⟨rfl, rfl⟩ := List.cons.inj h
          exact ⟨rfl, rfl⟩
      · simp only [hc, Bool.false_eq_true, if_false, List.not_mem_nil, false_iff]
        rintro ⟨h, d, rfl, hd⟩
        obtain ⟨rfl, -⟩ := List.cons.inj h
        exact hc hd
  | boundary =>
    intro prev t m u
    unfold Regex.run Regex.Matches
    constructor
    · intro h
      split at h
      · rename_i hboundary
        obtain ⟨rfl, rfl⟩ := Prod.mk.inj (List.mem_singleton.mp h)
        exact ⟨rfl, rfl, hboundary⟩
      · cases h
    · rintro ⟨rfl, rfl, hboundary⟩
      simp only [List.nil_append, hboundary, if_true, List.mem_singleton]
  | seq r s ihr ihs => exact tries_andThen ihr ihs
  | times lo hi r ih =>
    intro prev t m u
    have htries := tries_andThen (tries_exactly ih lo) (tries_upTo ih (extra lo hi t.length))
      prev t m u
    refine htries.trans (and_congr_right fun ht => ?_)
    subst ht
    unfold Regex.Matches
    constructor
    · rintro ⟨a, b, rfl, ha, k, hk, hb⟩
      exact ⟨lo + k, by omega, by omega, (power_add lo k prev _ u).mpr ⟨a, b, rfl, ha, hb⟩⟩
    · rintro ⟨n, hlo, hhi, hpower⟩
      obtain ⟨k, rfl⟩ := Nat.exists_eq_add_of_le hlo
      obtain ⟨a, b, rfl, ha, hb⟩ := (power_add lo k prev m u).mp hpower
      exact ⟨a, b, rfl, ha, k, by omega, hb⟩

/-! ## What is found -/

variable {word} {r : Regex α} {prev : Option α} {t m u : List α}

theorem Regex.matches_of_find (h : r.find word prev t = some m) :
    ∃ u, t = m ++ u ∧ r.Matches word prev m u := by
  unfold Regex.find at h
  obtain ⟨⟨_, u⟩, hhead, rfl⟩ := Option.map_eq_some_iff.mp h
  exact ⟨u, (tries_run word r prev t _ u).mp (List.mem_of_head? hhead)⟩

theorem Regex.find_of_matches (h : r.Matches word prev m u) :
    ∃ w, r.find word prev (m ++ u) = some w := by
  have hmem := (tries_run word r prev (m ++ u) m u).mpr ⟨rfl, h⟩
  unfold Regex.find
  cases hrun : r.run word prev (m ++ u) with
  | nil => rw [hrun] at hmem; cases hmem
  | cons w ws => exact ⟨w.1, rfl⟩

/-! ## Classes of characters -/

theorem power_one (p : α → Bool) (n : ℕ) (prev : Option α) (m u : List α) :
    Power (Regex.Matches word (.one p)) n prev m u ↔ m.length = n ∧ ∀ c ∈ m, p c = true := by
  induction n generalizing prev m with
  | zero =>
    simp only [Power, List.length_eq_zero_iff]
    constructor
    · rintro rfl
      exact ⟨rfl, by simp⟩
    · exact And.left
  | succ n ih =>
    simp only [Power, ih]
    constructor
    · rintro ⟨_, b, rfl, ⟨c, rfl, hc⟩, rfl, hb⟩
      exact ⟨by simp, by simpa using ⟨hc, hb⟩⟩
    · rintro ⟨hlength, hall⟩
      obtain ⟨c, b, rfl⟩ := List.exists_cons_of_length_eq_add_one hlength
      exact ⟨[c], b, rfl, ⟨c, rfl, hall c List.mem_cons_self⟩, by simpa using hlength,
        fun d hd => hall d (List.mem_cons_of_mem c hd)⟩

theorem matches_class {p : α → Bool} {lo hi : ℕ} (h : lo ≤ hi) :
    (Regex.times lo (some hi) (.one p)).Matches word prev m u ↔
      lo ≤ m.length ∧ m.length ≤ hi ∧ ∀ c ∈ m, p c = true := by
  unfold Regex.Matches extra
  simp only [power_one]
  constructor
  · rintro ⟨n, hlo, hhi, rfl, hall⟩
    exact ⟨hlo, by omega, hall⟩
  · rintro ⟨hlo, hhi, hall⟩
    exact ⟨m.length, hlo, by omega, rfl, hall⟩

/-- Every character that the pattern reads is of a class. -/
def Regex.Over (q : α → Prop) : Regex α → Prop
  | one p => ∀ c, p c = true → q c
  | boundary => True
  | seq r s => r.Over q ∧ s.Over q
  | times _ _ r => r.Over q

theorem Regex.Over.matches {q : α → Prop} {r : Regex α} (h : r.Over q)
    (hm : r.Matches word prev m u) : ∀ c ∈ m, q c := by
  induction r generalizing prev m u with
  | one p =>
    obtain ⟨c, rfl, hc⟩ := hm
    simpa using h c hc
  | boundary =>
    obtain ⟨rfl, -⟩ := hm
    simp
  | seq r s ihr ihs =>
    obtain ⟨a, b, rfl, ha, hb⟩ := hm
    intro c hc
    rcases List.mem_append.mp hc with hc | hc
    · exact ihr h.1 ha c hc
    · exact ihs h.2 hb c hc
  | times lo hi r ih =>
    obtain ⟨n, -, -, hpower⟩ := hm
    induction n generalizing prev m with
    | zero =>
      obtain rfl : m = [] := hpower
      simp
    | succ n ihn =>
      obtain ⟨a, b, rfl, ha, hb⟩ := hpower
      intro c hc
      rcases List.mem_append.mp hc with hc | hc
      · exact ih h ha c hc
      · exact ihn hb c hc

/-- The pattern may match nothing. -/
def Regex.nullable : Regex α → Bool
  | one _ => false
  | boundary => true
  | seq r s => r.nullable && s.nullable
  | times lo _ r => lo == 0 || r.nullable

theorem Regex.ne_nil_of_matches {r : Regex α} (hr : r.nullable = false)
    (hm : r.Matches word prev m u) : m ≠ [] := by
  induction r generalizing prev m u with
  | one p =>
    obtain ⟨c, rfl, -⟩ := hm
    simp
  | boundary => cases hr
  | seq r s ihr ihs =>
    obtain ⟨a, b, rfl, ha, hb⟩ := hm
    rcases Bool.and_eq_false_iff.mp hr with h | h
    · exact List.append_ne_nil_of_left_ne_nil (ihr h ha) b
    · exact List.append_ne_nil_of_right_ne_nil a (ihs h hb)
  | times lo hi r ih =>
    obtain ⟨n, hlo, -, hpower⟩ := hm
    obtain ⟨hpos, hr⟩ := Bool.or_eq_false_iff.mp hr
    cases n with
    | zero => simp_all
    | succ n =>
      obtain ⟨a, b, rfl, ha, -⟩ := hpower
      exact List.append_ne_nil_of_left_ne_nil (ih hr ha) b

/-- A match that reads anything begins with a character of a class. -/
def Regex.Begins (q : α → Prop) : Regex α → Prop
  | one p => ∀ c, p c = true → q c
  | boundary => True
  | seq r s => r.Begins q ∧ (r.nullable = false ∨ s.Begins q)
  | times _ _ r => r.Begins q

/-- A match that reads anything ends with a character of a class. -/
def Regex.Ends (q : α → Prop) : Regex α → Prop
  | one p => ∀ c, p c = true → q c
  | boundary => True
  | seq r s => (s.nullable = false ∨ r.Ends q) ∧ s.Ends q
  | times _ _ r => r.Ends q

theorem Regex.Begins.matches {q : α → Prop} {r : Regex α} (h : r.Begins q)
    (hm : r.Matches word prev m u) : ∀ c ∈ m.head?, q c := by
  induction r generalizing prev m u with
  | one p =>
    obtain ⟨c, rfl, hc⟩ := hm
    simpa using h c hc
  | boundary =>
    obtain ⟨rfl, -⟩ := hm
    simp
  | seq r s ihr ihs =>
    obtain ⟨a, b, rfl, ha, hb⟩ := hm
    cases a with
    | cons c a =>
      have hhead := ihr h.1 ha
      exact hhead
    | nil =>
      rcases h.2 with hr | hs
      · exact absurd rfl (Regex.ne_nil_of_matches hr ha)
      · exact ihs hs hb
  | times lo hi r ih =>
    obtain ⟨n, -, -, hpower⟩ := hm
    induction n generalizing prev m with
    | zero =>
      obtain rfl : m = [] := hpower
      simp
    | succ n ihn =>
      obtain ⟨a, b, rfl, ha, hb⟩ := hpower
      cases a with
      | cons c a =>
        have hhead := ih h ha
        exact hhead
      | nil => exact ihn hb

theorem Regex.Ends.matches {q : α → Prop} {r : Regex α} (h : r.Ends q)
    (hm : r.Matches word prev m u) : ∀ c ∈ m.getLast?, q c := by
  induction r generalizing prev m u with
  | one p =>
    obtain ⟨c, rfl, hc⟩ := hm
    simpa using h c hc
  | boundary =>
    obtain ⟨rfl, -⟩ := hm
    simp
  | seq r s ihr ihs =>
    obtain ⟨a, b, rfl, ha, hb⟩ := hm
    rcases List.eq_nil_or_concat b with rfl | ⟨b', c, rfl⟩
    · rw [List.append_nil]
      rcases h.1 with hs | hr
      · exact absurd rfl (Regex.ne_nil_of_matches hs hb)
      · exact ihr hr ha
    · have hlast := ihs h.2 hb
      simpa [← List.append_assoc] using hlast
  | times lo hi r ih =>
    obtain ⟨n, -, -, hpower⟩ := hm
    induction n generalizing prev m with
    | zero =>
      obtain rfl : m = [] := hpower
      simp
    | succ n ihn =>
      obtain ⟨a, b, rfl, ha, hb⟩ := hpower
      have hrest := ihn hb
      rcases List.eq_nil_or_concat b with rfl | ⟨b', c, rfl⟩
      · rw [List.append_nil]
        exact ih h ha
      · simpa [← List.append_assoc] using hrest

/-! ## Patterns between two boundaries -/

/-- The pattern looks at nothing but what it reads. -/
def Regex.Local : Regex α → Prop
  | one _ => True
  | boundary => False
  | seq r s => r.Local ∧ s.Local
  | times _ hi r => hi.isSome ∧ r.Local

theorem Regex.Local.matches_iff {r : Regex α} (h : r.Local) :
    r.Matches word prev m u ↔ r.Matches word none m [] := by
  suffices hall : ∀ {prev prev' : Option α} {m u u' : List α},
      r.Matches word prev m u → r.Matches word prev' m u' from ⟨hall, hall⟩
  intro prev prev' m u u' hm
  induction r generalizing prev prev' m u u' with
  | one p => exact hm
  | boundary => cases h
  | seq r s ihr ihs =>
    obtain ⟨a, b, rfl, ha, hb⟩ := hm
    exact ⟨a, b, rfl, ihr h.1 ha, ihs h.2 hb⟩
  | times lo hi r ih =>
    obtain ⟨hbound, hr⟩ := h
    obtain ⟨most, rfl⟩ := Option.isSome_iff_exists.mp hbound
    obtain ⟨n, hlo, hhi, hpower⟩ := hm
    refine ⟨n, hlo, hhi, ?_⟩
    clear hlo hhi
    induction n generalizing prev prev' m with
    | zero => exact hpower
    | succ n ihn =>
      obtain ⟨a, b, rfl, ha, hb⟩ := hpower
      exact ⟨a, b, rfl, ih hr ha, ihn hb⟩

/-- The pattern between two word boundaries. -/
def Regex.bounded (r : Regex α) : Regex α := .seq .boundary (.seq r .boundary)

/-- The character is of no word, or there is none. -/
def NoWord (word : α → Bool) (c : Option α) : Prop := c.any word = false

/-- A pattern that reads a text from a word character to a word character. -/
structure Regex.Wordlike (word : α → Bool) (r : Regex α) : Prop where
  isLocal : r.Local
  reads : r.nullable = false
  begins : r.Begins fun c => word c = true
  ends : r.Ends fun c => word c = true

theorem Regex.Wordlike.head {r : Regex α} (h : r.Wordlike word) (hm : r.Matches word prev m u) :
    m.head?.any word = true := by
  have hne := Regex.ne_nil_of_matches h.reads hm
  obtain ⟨c, w, rfl⟩ := List.exists_cons_of_ne_nil hne
  exact h.begins.matches hm c rfl

theorem Regex.Wordlike.last {r : Regex α} (h : r.Wordlike word) (hm : r.Matches word prev m u) :
    m.getLast?.any word = true := by
  have hne := Regex.ne_nil_of_matches h.reads hm
  rw [List.getLast?_eq_some_getLast hne]
  exact h.ends.matches hm _ (List.getLast?_eq_some_getLast hne)

theorem Regex.Wordlike.bounded_matches_iff {r : Regex α} (h : r.Wordlike word) :
    r.bounded.Matches word prev m u ↔
      r.Matches word none m [] ∧ NoWord word prev ∧ NoWord word u.head? := by
  -- A match has a word character at each end, and it is there that the boundaries look.
  have hends : ∀ {prev' m u'}, r.Matches word prev' m u' →
      (m ++ u).head?.any word = true ∧ (regex.last prev m).any word = true := by
    intro prev' m u' hm
    have hne := Regex.ne_nil_of_matches h.reads hm
    rw [List.head?_append_of_ne_nil m hne, regex.last, List.getLast?_eq_some_getLast hne,
      Option.some_or, ← List.getLast?_eq_some_getLast hne]
    exact ⟨h.head hm, h.last hm⟩
  unfold Regex.bounded NoWord
  simp only [Regex.Matches, atBoundary]
  constructor
  · rintro ⟨_, _, rfl, ⟨rfl, hleft⟩, m, _, rfl, hm, rfl, hright⟩
    simp only [List.nil_append, List.append_nil, last_nil, bne_iff_ne, (hends hm).1, (hends hm).2,
      ne_eq, Bool.not_eq_true] at hleft hright ⊢
    exact ⟨h.isLocal.matches_iff.mp hm, hleft, by simpa using Ne.symm hright⟩
  · rintro ⟨hm, hleft, hright⟩
    refine ⟨[], m, rfl, ⟨rfl, ?_⟩, m, [], by simp, h.isLocal.matches_iff.mpr hm, rfl, ?_⟩
    · rw [hleft, (hends hm).1]
      rfl
    · rw [last_nil, hright, (hends hm).2]
      rfl

/-! ## Substitution -/

/-- What is found at a place. -/
abbrev Finder (α : Type*) := Option α → List α → Option (List α)

/-- Every match is replaced, from left to right; `skip` characters belong to the last match.
Nothing is replaced where the match is empty. -/
def sub (find : Finder α) (repl : List α → List α) : ℕ → Option α → List α → List α
  | _, _, [] => []
  | skip + 1, _, c :: t => sub find repl skip (some c) t
  | 0, prev, c :: t =>
    match find prev (c :: t) with
    | some (d :: m) => repl (d :: m) ++ sub find repl m.length (some c) t
    | _ => c :: sub find repl 0 (some c) t

theorem sub_append_of_no_match {find : Finder α} (repl : List α → List α) {u : List α}
    (h : ∀ c ∈ u, ∀ prev t, find prev (c :: t) = none) (prev : Option α) (t : List α) :
    sub find repl 0 prev (u ++ t) = u ++ sub find repl 0 (last prev u) t := by
  induction u generalizing prev with
  | nil => rfl
  | cons c u ih =>
    rw [List.cons_append, sub, h c List.mem_cons_self]
    dsimp only
    rw [ih (fun d hd => h d (List.mem_cons_of_mem c hd)), last_cons, List.cons_append]

/-- A text in which what is found is replaced by itself stays as it is. -/
theorem sub_eq_self {find : Finder α} {repl : List α → List α} {prev : Option α} {t : List α}
    (hstands : ∀ prev t m, find prev t = some m → m <+: t)
    (h : ∀ u v, t = u ++ v → ∀ m, find (last prev u) v = some m → repl m = m) :
    sub find repl 0 prev t = t := by
  suffices hskip : ∀ (t : List α) (n : ℕ) (prev : Option α),
      (∀ u v, t = u ++ v → ∀ m, find (last prev u) v = some m → repl m = m) →
        sub find repl n prev t = t.drop n by
    rw [hskip t 0 prev h, List.drop_zero]
  clear h prev t
  intro t
  induction t with
  | nil =>
    intro n prev _
    rw [sub, List.drop_nil]
  | cons c t ih =>
    intro n prev h
    have htail : ∀ u v, t = u ++ v → ∀ m, find (last (some c) u) v = some m → repl m = m := by
      intro u v huv m hm
      refine h (c :: u) v (by rw [huv]; rfl) m ?_
      rwa [last_cons]
    cases n with
    | succ n => rw [sub, ih n _ htail, List.drop_succ_cons]
    | zero =>
      rw [sub]
      rcases hfind : find prev (c :: t) with _ | _ | ⟨d, m⟩
      · exact congrArg (c :: ·) (ih 0 _ htail)
      · exact congrArg (c :: ·) (ih 0 _ htail)
      · obtain ⟨u, hu⟩ := hstands _ _ _ hfind
        obtain ⟨rfl, htext⟩ := List.cons.inj hu
        have hdrop : t.drop m.length = u := by
          rw [← htext]
          exact List.drop_left
        dsimp only
        rw [h [] _ rfl _ hfind, ih _ _ htail, hdrop]
        exact hu

end regex
