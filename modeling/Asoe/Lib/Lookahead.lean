-- Greedy matchers that look one character ahead: where the first match ends
-- just before a character, it is the first match whatever follows that one.
import Asoe.Lib.Regex

namespace regex

variable {α : Type*} {f g : Matcher α}

/-! ## First matches -/

/-- The match that is tried first, and the text that remains. -/
def Matcher.first (f : Matcher α) (prev : Option α) (t : List α) : Option (List α × List α) :=
  (f prev t).head?

/-- What is matched and what remains are the text. -/
def Matcher.Splits (f : Matcher α) : Prop := ∀ prev t w, w ∈ f prev t → t = w.1 ++ w.2

/-- There is at most one way to match. -/
def Matcher.Single (f : Matcher α) : Prop := ∀ prev t, (f prev t).length ≤ 1

/-- There is a way to match everywhere. -/
def Matcher.Total (f : Matcher α) : Prop := ∀ prev t, f prev t ≠ []

theorem splits_run (word : α → Bool) (r : Regex α) : (r.run word).Splits := fun prev t w hw =>
  ((tries_run word r prev t w.1 w.2).mp hw).1

theorem first_mem {prev : Option α} {t : List α} {w : List α × List α}
    (h : f.first prev t = some w) : w ∈ f prev t := List.mem_of_head? h

theorem first_andThen (h : f.Single ∨ g.Total) (prev : Option α) (t : List α) :
    (f.andThen g).first prev t = (f.first prev t).bind fun w =>
      (g.first (last prev w.1) w.2).map fun v => (w.1 ++ v.1, v.2) := by
  unfold Matcher.first Matcher.andThen
  cases hf : f prev t with
  | nil => rfl
  | cons w ws =>
    rw [List.flatMap_cons, List.head?_cons, Option.bind_some]
    rcases h with hsingle | htotal
    · have hlength := hsingle prev t
      rw [hf, List.length_cons] at hlength
      obtain rfl : ws = [] := List.length_eq_zero_iff.mp (by omega)
      rw [List.flatMap_nil, List.append_nil, List.head?_map]
    · have hne := htotal (last prev w.1) w.2
      rw [List.head?_append_of_ne_nil _ (by simpa using hne), List.head?_map]

theorem Matcher.Total.andThen (hf : f.Total) (hg : g.Total) : (f.andThen g).Total := by
  intro prev t
  unfold Matcher.andThen
  obtain ⟨w, ws, h⟩ := List.exists_cons_of_ne_nil (hf prev t)
  rw [h, List.flatMap_cons]
  exact List.append_ne_nil_of_left_ne_nil (by simpa using hg _ _) _

theorem total_upTo (f : Matcher α) (n : ℕ) : (f.upTo n).Total := by
  intro prev t
  cases n with
  | zero => simp [Matcher.upTo]
  | succ n => simp [Matcher.upTo]

theorem first_upTo_succ (f : Matcher α) (n : ℕ) (prev : Option α) (t : List α) :
    (f.upTo (n + 1)).first prev t = ((f.first prev t).bind fun w =>
      ((f.upTo n).first (last prev w.1) w.2).map fun v => (w.1 ++ v.1, v.2)).or (some ([], t)) := by
  have hrun : f.upTo (n + 1) prev t = f.andThen (f.upTo n) prev t ++ [([], t)] := rfl
  rw [← first_andThen (Or.inr (total_upTo f n))]
  unfold Matcher.first
  rw [hrun, List.head?_append]
  rfl

theorem Matcher.Total.isSome_first (hf : f.Total) (prev : Option α) (t : List α) :
    (f.first prev t).isSome := by
  unfold Matcher.first
  obtain ⟨w, ws, h⟩ := List.exists_cons_of_ne_nil (hf prev t)
  rw [h]
  rfl

/-! ## One character ahead -/

/-- A first match that ends before a character of the class stays the first one whatever
follows this character. -/
def Matcher.Peeks (f : Matcher α) (C : α → Prop) : Prop :=
  ∀ c, C c → ∀ prev prev' s y y',
    f.first prev (s ++ c :: y) = some (s, c :: y) → f.first prev' (s ++ c :: y') = some (s, c :: y')

theorem Matcher.Peeks.mono {C D : α → Prop} (h : f.Peeks C) (hCD : ∀ c, D c → C c) : f.Peeks D :=
  fun c hc => h c (hCD c hc)

/-- Whether there is no match before a character of the class depends on this character
only. -/
def Matcher.FailsBy (f : Matcher α) (C : α → Prop) : Prop :=
  ∀ c, C c → ∀ prev prev' y y', f.first prev (c :: y) = none → f.first prev' (c :: y') = none

theorem first_parts (hf : f.Splits) {prev : Option α} {s y : List α} {c : α}
    {rest : List α × List α → Option (List α × List α)}
    (h : ((f.first prev (s ++ c :: y)).bind fun w =>
      (rest w).map fun v => (w.1 ++ v.1, v.2)) = some (s, c :: y)) :
    ∃ a b, s = a ++ b ∧ f.first prev (s ++ c :: y) = some (a, b ++ c :: y) ∧
      rest (a, b ++ c :: y) = some (b, c :: y) := by
  obtain ⟨w, hw, hrest⟩ := Option.bind_eq_some_iff.mp h
  obtain ⟨v, hv, heq⟩ := Option.map_eq_some_iff.mp hrest
  obtain ⟨a, r⟩ := w
  obtain ⟨b, r'⟩ := v
  obtain ⟨rfl, rfl⟩ := Prod.mk.inj heq
  have htext := hf _ _ _ (first_mem hw)
  rw [List.append_assoc] at htext
  obtain rfl := List.append_cancel_left htext
  exact ⟨a, b, rfl, hw, hv⟩

theorem Matcher.Peeks.andThen {C D : α → Prop} (hf : f.Peeks C) (hg : g.Peeks D)
    (hsplits : f.Splits) (hfirst : f.Single ∨ g.Total)
    (hnext : ∀ c, D c → ∀ prev s y, g.first prev (s ++ c :: y) = some (s, c :: y) →
      ∀ d ∈ (s ++ [c]).head?, C d) : (f.andThen g).Peeks D := by
  intro c hc prev prev' s y y' h
  rw [first_andThen hfirst] at h ⊢
  obtain ⟨a, b, rfl, ha, hb⟩ := first_parts hsplits h
  obtain ⟨d, z, hd⟩ := List.exists_cons_of_ne_nil (List.append_ne_nil_of_right_ne_nil b
    (List.cons_ne_nil c []))
  have hC := hnext c hc _ _ _ hb d (by rw [hd]; rfl)
  have hsplit : ∀ y, b ++ c :: y = d :: (z ++ y) := fun y => by
    rw [← List.cons_append, ← hd, List.append_assoc, List.singleton_append]
  rw [List.append_assoc, hsplit] at ha
  have hsame := hf d hC prev prev' a _ (z ++ y') ha
  rw [List.append_assoc, hsplit, hsame, ← hsplit, Option.bind_some,
    hg c hc (last prev a) (last prev' a) b y y' hb]
  rfl

theorem peeks_zero (f : Matcher α) : (f.exactly 0).Peeks fun _ => True := by
  intro c _ prev prev' s y y' h
  obtain rfl : s = [] := (congrArg Prod.fst (Option.some.inj h)).symm
  rfl

theorem Matcher.Peeks.exactly (hf : f.Peeks fun _ => True) (hsplits : f.Splits) (hsingle : f.Single)
    (n : ℕ) : (f.exactly n).Peeks fun _ => True := by
  induction n with
  | zero => exact peeks_zero f
  | succ n ih => exact hf.andThen ih hsplits (Or.inl hsingle) fun _ _ _ _ _ _ _ _ => trivial

theorem Matcher.Peeks.upTo {C : α → Prop} (hf : f.Peeks fun _ => True) (hsplits : f.Splits)
    (hfails : f.FailsBy C) (n : ℕ) : (f.upTo n).Peeks C := by
  induction n with
  | zero =>
    intro c _ prev prev' s y y' h
    obtain rfl : s = [] := (congrArg Prod.fst (Option.some.inj h)).symm
    rfl
  | succ n ih =>
    intro c hc prev prev' s y y' h
    rw [first_upTo_succ] at h ⊢
    cases hfirst : f.first prev (s ++ c :: y) with
    | none =>
      rw [hfirst, Option.bind_none, Option.none_or] at h
      obtain rfl : s = [] := (congrArg Prod.fst (Option.some.inj h)).symm
      have hnone := hfails c hc prev prev' y y' hfirst
      rw [List.nil_append, hnone]
      rfl
    | some w =>
      have hsome : ((f.first prev (s ++ c :: y)).bind fun w =>
          ((f.upTo n).first (last prev w.1) w.2).map fun v => (w.1 ++ v.1, v.2)).isSome := by
        rw [hfirst, Option.bind_some, Option.isSome_map]
        exact (total_upTo f n).isSome_first _ _
      rw [Option.or_of_isSome hsome] at h
      obtain ⟨a, b, rfl, ha, hb⟩ := first_parts hsplits h
      obtain ⟨d, z, hd⟩ := List.exists_cons_of_ne_nil (List.append_ne_nil_of_right_ne_nil b
        (List.cons_ne_nil c []))
      have hsplit : ∀ y, b ++ c :: y = d :: (z ++ y) := fun y => by
        rw [← List.cons_append, ← hd, List.append_assoc, List.singleton_append]
      rw [List.append_assoc, hsplit] at ha
      have hsame := hf d trivial prev prev' a _ (z ++ y') ha
      rw [List.append_assoc, hsplit, hsame, ← hsplit, Option.bind_some,
        ih c hc (last prev a) (last prev' a) b y y' hb]
      rfl

/-! ## Repetitions without a bound -/

/-- A match is never empty. -/
def Matcher.Consumes (f : Matcher α) : Prop := ∀ prev t w, w ∈ f prev t → w.2.length < t.length

theorem upTo_eq_of_length_le (hf : f.Consumes) {n k : ℕ} {prev : Option α} {t : List α}
    (hn : t.length ≤ n) (hk : t.length ≤ k) : f.upTo n prev t = f.upTo k prev t := by
  have hempty : ∀ prev, f prev [] = [] := fun prev => by
    rw [List.eq_nil_iff_forall_not_mem]
    intro w hw
    exact absurd (hf prev [] w hw) (Nat.not_lt_zero _)
  have hnil : ∀ n prev, f.upTo n prev [] = [([], [])] := by
    intro n prev
    cases n with
    | zero => rfl
    | succ n =>
      have hrun : f.upTo (n + 1) prev [] = f.andThen (f.upTo n) prev [] ++ [([], [])] := rfl
      rw [hrun, Matcher.andThen, hempty]
      rfl
  induction n generalizing k prev t with
  | zero =>
    obtain rfl : t = [] := List.length_eq_zero_iff.mp (by omega)
    rw [hnil, hnil]
  | succ n ih =>
    cases k with
    | zero =>
      obtain rfl : t = [] := List.length_eq_zero_iff.mp (by omega)
      rw [hnil, hnil]
    | succ k =>
      have hrun : ∀ n, f.upTo (n + 1) prev t = f.andThen (f.upTo n) prev t ++ [([], t)] :=
        fun _ => rfl
      rw [hrun, hrun, Matcher.andThen, Matcher.andThen]
      congr 1
      refine List.flatMap_congr fun w hw => ?_
      have hlength := hf prev t w hw
      rw [ih (k := k) (by omega) (by omega)]

/-! ## Patterns -/

variable {word : α → Bool} {r : Regex α} {C : α → Prop}

theorem consumes_run (hr : r.nullable = false) : (r.run word).Consumes := by
  intro prev t w hw
  obtain ⟨rfl, hm⟩ := (tries_run word r prev t w.1 w.2).mp hw
  have hne := Regex.ne_nil_of_matches hr hm
  rw [List.length_append]
  have hpos := List.length_pos_iff.mpr hne
  omega

theorem single_one (p : α → Bool) : ((Regex.one p).run word).Single := by
  intro prev t
  unfold Regex.run
  cases t with
  | nil => exact Nat.zero_le 1
  | cons c t =>
    dsimp only
    split
    · exact Nat.le_refl 1
    · exact Nat.zero_le 1

theorem first_one_cons (p : α → Bool) (prev : Option α) (c : α) (y : List α) :
    ((Regex.one p).run word).first prev (c :: y) = if p c then some ([c], y) else none := by
  unfold Matcher.first Regex.run
  dsimp only
  split
  · rfl
  · rfl

theorem peeks_one (p : α → Bool) : ((Regex.one p).run word).Peeks fun _ => True := by
  intro c _ prev prev' s y y' h
  cases s with
  | nil =>
    rw [List.nil_append, first_one_cons] at h
    split at h
    · have hnil := congrArg Prod.fst (Option.some.inj h)
      cases hnil
    · cases h
  | cons d s =>
    rw [List.cons_append, first_one_cons] at h ⊢
    split at h
    · rename_i hd
      obtain ⟨hs, -⟩ := Prod.mk.inj (Option.some.inj h)
      obtain rfl : s = [] := (List.cons.inj hs).2.symm
      rw [if_pos hd]
      rfl
    · cases h

theorem failsBy_one (p : α → Bool) : ((Regex.one p).run word).FailsBy fun _ => True := by
  intro c _ prev prev' y y' h
  rw [first_one_cons] at h ⊢
  split at h
  · cases h
  · rename_i hc
    rw [if_neg hc]

theorem failsBy_seq_one (p : α → Bool) (r : Regex α) :
    ((Regex.seq (.one p) r).run word).FailsBy fun c => p c = false := by
  intro c hc _ prev' _ y' _
  have hrun : (Regex.seq (.one p) r).run word = ((Regex.one p).run word).andThen (r.run word) :=
    rfl
  have hone : (Regex.one p).run word prev' (c :: y') = [] := by
    unfold Regex.run
    dsimp only
    rw [hc]
    rfl
  unfold Matcher.first
  rw [hrun, Matcher.andThen, hone]
  rfl

theorem run_times_some (lo hi : ℕ) (r : Regex α) : (Regex.times lo (some hi) r).run word =
    ((r.run word).exactly lo).andThen ((r.run word).upTo (hi - lo)) := rfl

theorem total_times (hi : Option ℕ) (r : Regex α) : ((Regex.times 0 hi r).run word).Total := by
  intro prev t
  have hzero : ((r.run word).exactly 0).Total := fun _ _ => by simp [Matcher.exactly]
  exact hzero.andThen (total_upTo _ _) prev t

theorem peeks_times {lo : ℕ} (hi : ℕ) (hlo : ((r.run word).exactly lo).Peeks fun _ => True)
    (hr : (r.run word).Peeks fun _ => True) (hfails : (r.run word).FailsBy C) :
    ((Regex.times lo (some hi) r).run word).Peeks C := by
  rw [run_times_some]
  have hsplits : ((r.run word).exactly lo).Splits := fun prev t w hw =>
    ((tries_exactly (tries_run word r) lo prev t w.1 w.2).mp hw).1
  exact hlo.andThen (hr.upTo (splits_run word r) hfails _) hsplits (Or.inr (total_upTo _ _))
    fun _ _ _ _ _ _ _ _ => trivial

theorem peeks_class (p : α → Bool) (lo hi : ℕ) :
    ((Regex.times lo (some hi) (.one p)).run word).Peeks fun _ => True :=
  peeks_times hi ((peeks_one p).exactly (splits_run word _) (single_one p) lo) (peeks_one p)
    (failsBy_one p)

theorem first_many (hr : r.nullable = false) {n : ℕ} {prev : Option α} {t : List α}
    (hn : t.length ≤ n) :
    ((Regex.times 0 none r).run word).first prev t = ((r.run word).upTo n).first prev t := by
  have hrun : ((Regex.times 0 none r).run word).first prev t =
      (((r.run word).exactly 0).andThen ((r.run word).upTo t.length)).first prev t := rfl
  rw [hrun, first_andThen (Or.inr (total_upTo _ _))]
  have hzero : ((r.run word).exactly 0).first prev t = some ([], t) := rfl
  rw [hzero, Option.bind_some, last_nil]
  unfold Matcher.first
  rw [upTo_eq_of_length_le (consumes_run hr) (Nat.le_refl _) hn]
  simp

theorem peeks_many (hnull : r.nullable = false) (hr : (r.run word).Peeks fun _ => True)
    (hfails : (r.run word).FailsBy C) : ((Regex.times 0 none r).run word).Peeks C := by
  intro c hc prev prev' s y y' h
  rw [first_many hnull (n := (s ++ c :: y).length + (s ++ c :: y').length) (by omega)] at h ⊢
  exact hr.upTo (splits_run word r) hfails _ c hc prev prev' s y y' h

theorem Matcher.Peeks.find (h : (r.run word).Peeks C) {c : α} (hc : C c) {prev : Option α}
    {s y : List α} (hfind : r.find word prev (s ++ c :: y) = some s) (prev' : Option α)
    (y' : List α) : r.find word prev' (s ++ c :: y') = some s := by
  unfold Regex.find at hfind ⊢
  obtain ⟨w, hw, hs⟩ := Option.map_eq_some_iff.mp hfind
  obtain ⟨a, rest⟩ := w
  obtain rfl : a = s := hs
  have htext := splits_run word r _ _ _ (first_mem hw)
  obtain rfl := List.append_cancel_left htext
  have hsame := h c hc prev prev' a y y' hw
  exact (congrArg (Option.map Prod.fst) hsame)

end regex
