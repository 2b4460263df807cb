-- The newest rows of a table: sorted by a key downwards, rows of one key in
-- any order, and cut after the first `n`. Which row a search from the old end
-- of such a page finds, whatever the order of ties.
import Mathlib.Data.List.Nodup
import Mathlib.Data.List.Sort
import Mathlib.Order.Defs.LinearOrder

namespace newest

variable {α κ : Type} [LinearOrder κ] {key : α → κ}

/-- `ORDER BY key DESC`. -/
structure NewestFirst (key : α → κ) where
  sort : List α → List α
  perm : ∀ rows, (sort rows).Perm rows
  descending : ∀ rows, (sort rows).Pairwise fun a b => key b ≤ key a

/-- `ORDER BY key DESC LIMIT n`. -/
def NewestFirst.page (order : NewestFirst key) (n : ℕ) (rows : List α) : List α :=
  (order.sort rows).take n

/-! ## Orders of ties -/

/-- Newer rows first, and of one key those that are preferred. -/
def Before (key : α → κ) (preferred : α → Bool) (a b : α) : Prop :=
  key b < key a ∨ key b = key a ∧ (preferred a = true ∨ preferred b = false)

instance (preferred : α → Bool) : DecidableRel (Before key preferred) :=
  fun _ _ => inferInstanceAs (Decidable (_ ∨ _ ∧ _))

theorem before_total (preferred : α → Bool) (a b : α) :
    Before key preferred a b ∨ Before key preferred b a := by
  rcases lt_trichotomy (key b) (key a) with hlt | heq | hlt
  · exact .inl (.inl hlt)
  · cases ha : preferred a with
    | true => exact .inl (.inr ⟨heq, .inl ha⟩)
    | false => exact .inr (.inr ⟨heq.symm, .inr ha⟩)
  · exact .inr (.inl hlt)

theorem before_trans (preferred : α → Bool) {a b c : α} (hab : Before key preferred a b)
    (hbc : Before key preferred b c) : Before key preferred a c := by
  rcases hab with hab | ⟨hab, hab'⟩
  · rcases hbc with hbc | ⟨hbc, -⟩
    · exact .inl (hbc.trans hab)
    · exact .inl (hbc ▸ hab)
  · rcases hbc with hbc | ⟨hbc, hbc'⟩
    · exact .inl (hab ▸ hbc)
    · refine .inr ⟨hbc.trans hab, ?_⟩
      rcases hab' with ha | hb
      · exact .inl ha
      · rcases hbc' with hb' | hc
        · rw [hb] at hb'
          cases hb'
        · exact .inr hc

theorem pairwise_before (key : α → κ) (preferred : α → Bool) (rows : List α) :
    (rows.insertionSort (Before key preferred)).Pairwise (Before key preferred) := by
  have : Std.Total (Before key preferred) := ⟨before_total preferred⟩
  have : IsTrans α (Before key preferred) := ⟨fun a b c => before_trans preferred⟩
  exact List.pairwise_insertionSort _ rows

/-- The order that breaks its ties so. -/
def preferring (key : α → κ) (preferred : α → Bool) : NewestFirst key where
  sort rows := rows.insertionSort (Before key preferred)
  perm rows := List.perm_insertionSort _ rows
  descending rows := by
    refine (pairwise_before key preferred rows).imp fun {a b} h => ?_
    rcases h with h | ⟨h, -⟩
    · exact le_of_lt h
    · exact le_of_eq h

/-! ## Where a row stands -/

section place

variable {rows l₁ l₂ : List α} {x e : α} {n : ℕ}

theorem length_before_le (p : α → Prop) [DecidablePred p] (h : (l₁ ++ x :: l₂).Perm rows)
    (hp : ∀ y ∈ l₁, p y) : l₁.length ≤ rows.countP fun y => p y := by
  rw [← h.countP_eq, List.countP_append]
  have hall : l₁.countP (fun y => decide (p y)) = l₁.length :=
    List.countP_eq_length.mpr fun y hy => by simpa using hp y hy
  omega

theorem le_length_before (p : α → Prop) [DecidablePred p] (h : (l₁ ++ x :: l₂).Perm rows)
    (hx : ¬ p x) (hp : ∀ y ∈ l₂, ¬ p y) : (rows.countP fun y => p y) ≤ l₁.length := by
  rw [← h.countP_eq, List.countP_append, List.countP_cons]
  have hnone : l₂.countP (fun y => decide (p y)) = 0 :=
    List.countP_eq_zero.mpr fun y hy => by simpa using hp y hy
  have hle := List.countP_le_length (p := fun y => decide (p y)) (l := l₁)
  simp only [hx, decide_false, Bool.false_eq_true, if_false]
  omega

theorem take_append_cons (h : l₁.length < n) :
    (l₁ ++ x :: l₂).take n = l₁ ++ x :: l₂.take (n - l₁.length - 1) := by
  have hn : n = l₁.length + ((n - l₁.length - 1) + 1) := by omega
  rw [hn, List.take_length_add_append, List.take_succ_cons]
  congr 3
  omega

theorem mem_take_iff (hnodup : (l₁ ++ x :: l₂).Nodup) :
    x ∈ (l₁ ++ x :: l₂).take n ↔ l₁.length < n := by
  constructor
  · intro hmem
    by_contra hlen
    rw [List.take_append_of_le_length (by omega)] at hmem
    have hdisjoint := (List.nodup_append.mp hnodup).2.2
    exact hdisjoint _ (List.mem_of_mem_take hmem) _ List.mem_cons_self rfl
  · intro hlen
    rw [take_append_cons hlen]
    simp

end place

/-! ## The search from the old end -/

section search

variable {rows : List α} {p : α → Bool} {e : α} {n : ℕ}

/-- A matching row of the page hides those before it. -/
theorem find_ne_of_later {l₁ l₂ : List α} {x : α} (hnodup : (l₁ ++ x :: l₂).Nodup)
    (hx : p x = true) (hlen : l₁.length < n) (he : e ∈ l₁) :
    ((l₁ ++ x :: l₂).take n).reverse.find? p ≠ some e := by
  intro hfind
  rw [take_append_cons hlen, List.reverse_append, List.reverse_cons, List.append_assoc,
    List.find?_append] at hfind
  have hdisjoint := (List.nodup_append.mp hnodup).2.2
  cases hm : (l₂.take (n - l₁.length - 1)).reverse.find? p with
  | some y =>
    rw [hm] at hfind
    simp only [Option.some_or, Option.some.injEq] at hfind
    have hy := List.mem_of_find?_eq_some hm
    rw [hfind] at hy
    have hy : e ∈ l₂ := List.mem_of_mem_take (List.mem_reverse.mp hy)
    exact hdisjoint e he e (List.mem_cons_of_mem _ hy) rfl
  | none =>
    rw [hm, Option.none_or] at hfind
    simp only [List.singleton_append, List.find?_cons, hx, Option.some.injEq] at hfind
    exact hdisjoint e he x List.mem_cons_self hfind.symm

variable [DecidableEq α]

/-- Fewer than `n` other rows are as new as this one. -/
def OnPage (key : α → κ) (n : ℕ) (rows : List α) (e : α) : Prop :=
  (rows.countP fun x => x ≠ e ∧ key e ≤ key x) < n

/-- Each other match is newer, or so much older that `n` rows come before it. -/
def NotHidden (key : α → κ) (p : α → Bool) (n : ℕ) (rows : List α) (e : α) : Prop :=
  ∀ x ∈ rows, p x = true → x ≠ e →
    key e < key x ∨ key x < key e ∧ n ≤ rows.countP fun y => key x < key y

theorem length_before_of_onPage {l₁ l₂ : List α} (hnodup : rows.Nodup)
    (hperm : (l₁ ++ e :: l₂).Perm rows)
    (hdesc : (l₁ ++ e :: l₂).Pairwise fun a b => key b ≤ key a) (hpage : OnPage key n rows e) :
    l₁.length < n := by
  obtain ⟨-, -, hdisjoint⟩ := List.nodup_append.mp (hperm.nodup_iff.mpr hnodup)
  obtain ⟨-, -, hcross⟩ := List.pairwise_append.mp hdesc
  refine lt_of_le_of_lt (length_before_le (fun x => x ≠ e ∧ key e ≤ key x) hperm ?_) hpage
  exact fun y hy => ⟨hdisjoint y hy e List.mem_cons_self, hcross y hy e List.mem_cons_self⟩

theorem mem_page_of_onPage (hnodup : rows.Nodup) (hmem : e ∈ rows) (hpage : OnPage key n rows e)
    (order : NewestFirst key) : e ∈ order.page n rows := by
  have hperm := order.perm rows
  have hdesc := order.descending rows
  unfold NewestFirst.page
  generalize order.sort rows = L at hperm hdesc
  obtain ⟨l₁, l₂, rfl⟩ := List.append_of_mem (hperm.mem_iff.mpr hmem)
  exact (mem_take_iff (hperm.nodup_iff.mpr hnodup)).mpr
    (length_before_of_onPage hnodup hperm hdesc hpage)

theorem find_of_onPage (hnodup : rows.Nodup) (hmem : e ∈ rows) (he : p e = true)
    (hpage : OnPage key n rows e) (hhidden : NotHidden key p n rows e) (order : NewestFirst key) :
    (order.page n rows).reverse.find? p = some e := by
  have hperm := order.perm rows
  have hdesc := order.descending rows
  unfold NewestFirst.page
  generalize order.sort rows = L at hperm hdesc
  obtain ⟨l₁, l₂, rfl⟩ := List.append_of_mem (hperm.mem_iff.mpr hmem)
  have hL := hperm.nodup_iff.mpr hnodup
  obtain ⟨-, htail, -⟩ := List.pairwise_append.mp hdesc
  obtain ⟨hafter, -⟩ := List.pairwise_cons.mp htail
  have hlen := length_before_of_onPage hnodup hperm hdesc hpage
  rw [take_append_cons hlen, List.reverse_append, List.reverse_cons, List.append_assoc,
    List.find?_append]
  have hnone : (l₂.take (n - l₁.length - 1)).reverse.find? p = none := by
    rw [List.find?_eq_none]
    intro x hx hpx
    have hx := List.mem_reverse.mp hx
    have hx₂ : x ∈ l₂ := List.mem_of_mem_take hx
    have hxe : x ≠ e := by
      rintro rfl
      exact (List.nodup_cons.mp (List.nodup_append.mp hL).2.1).1 hx₂
    rcases hhidden x (hperm.mem_iff.mp (by simp [hx₂])) hpx hxe with hnewer | ⟨-, hcount⟩
    · exact absurd (hafter x hx₂) (not_le_of_gt hnewer)
    · -- `n` rows are newer than `x`, and they all stand before it on the page.
      obtain ⟨m₁, m₂, hm⟩ := List.append_of_mem hx
      have hsplit : l₂ = m₁ ++ x :: (m₂ ++ l₂.drop (n - l₁.length - 1)) := by
        conv_lhs => rw [← List.take_append_drop (n - l₁.length - 1) l₂, hm]
        simp
      have hm_len : m₁.length < n - l₁.length - 1 := by
        have hlen' := congrArg List.length hm
        simp only [List.length_take, List.length_append, List.length_cons] at hlen'
        omega
      have hL' : ((l₁ ++ e :: m₁) ++ x :: (m₂ ++ l₂.drop (n - l₁.length - 1))).Perm rows := by
        have : (l₁ ++ e :: m₁) ++ x :: (m₂ ++ l₂.drop (n - l₁.length - 1)) = l₁ ++ e :: l₂ := by
          conv_rhs => rw [hsplit]
          simp
        rw [this]
        exact hperm
      have hdesc' : ((l₁ ++ e :: m₁) ++ x :: (m₂ ++ l₂.drop (n - l₁.length - 1))).Pairwise
          fun a b => key b ≤ key a := by
        have : (l₁ ++ e :: m₁) ++ x :: (m₂ ++ l₂.drop (n - l₁.length - 1)) = l₁ ++ e :: l₂ := by
          conv_rhs => rw [hsplit]
          simp
        rw [this]
        exact hdesc
      have hx_after := (List.pairwise_cons.mp (List.pairwise_append.mp hdesc').2.1).1
      have hle := le_length_before (fun y => key x < key y) hL' (lt_irrefl _)
        fun y hy => not_lt_of_ge (hx_after y hy)
      simp only [List.length_append, List.length_cons] at hle
      omega
  rw [hnone, Option.none_or]
  simp [he]

/-- In the order that puts `x` last of its key, `x` stands behind every other
row of the key or of a newer one. -/
theorem last_of_its_key (key : α → κ) {x : α} (hnodup : rows.Nodup) (hx : x ∈ rows) :
    ∃ l₁ l₂, (preferring key fun y => decide (y ≠ x)).sort rows = l₁ ++ x :: l₂ ∧
      (∀ y ∈ l₁, key x ≤ key y) ∧ ∀ y ∈ rows, y ≠ x → key x ≤ key y → y ∈ l₁ := by
  have hperm := (preferring key fun y => decide (y ≠ x)).perm rows
  have hsorted := pairwise_before key (fun y => decide (y ≠ x)) rows
  obtain ⟨l₁, l₂, hsplit⟩ := List.append_of_mem (hperm.mem_iff.mpr hx)
  have hsplit' : rows.insertionSort (Before key fun y => decide (y ≠ x)) = l₁ ++ x :: l₂ := hsplit
  rw [hsplit'] at hsorted
  rw [hsplit] at hperm
  have hL := hperm.nodup_iff.mpr hnodup
  obtain ⟨-, htail, hcross⟩ := List.pairwise_append.mp hsorted
  refine ⟨l₁, l₂, hsplit, fun y hy => ?_, fun y hy hne hle => ?_⟩
  · rcases hcross y hy x List.mem_cons_self with hlt | ⟨heq, -⟩
    · exact le_of_lt hlt
    · exact le_of_eq heq
  · rcases List.mem_append.mp (hperm.mem_iff.mpr hy) with hy | hy
    · exact hy
    · rcases List.mem_cons.mp hy with rfl | hy
      · exact absurd rfl hne
      · rcases (List.pairwise_cons.mp htail).1 y hy with hlt | ⟨-, hpref⟩
        · exact absurd hlt (not_lt_of_ge hle)
        · simp [hne] at hpref

/-- In the order that puts `x` first of its key, only newer rows stand before. -/
theorem first_of_its_key (key : α → κ) {x : α} (hnodup : rows.Nodup) (hx : x ∈ rows) :
    ∃ l₁ l₂, (preferring key fun y => decide (y = x)).sort rows = l₁ ++ x :: l₂ ∧
      ∀ y ∈ rows, y ∈ l₁ ↔ key x < key y := by
  have hperm := (preferring key fun y => decide (y = x)).perm rows
  have hsorted := pairwise_before key (fun y => decide (y = x)) rows
  obtain ⟨l₁, l₂, hsplit⟩ := List.append_of_mem (hperm.mem_iff.mpr hx)
  have hsplit' : rows.insertionSort (Before key fun y => decide (y = x)) = l₁ ++ x :: l₂ := hsplit
  rw [hsplit'] at hsorted
  rw [hsplit] at hperm
  have hL := hperm.nodup_iff.mpr hnodup
  obtain ⟨-, -, hdisjoint⟩ := List.nodup_append.mp hL
  obtain ⟨-, htail, hcross⟩ := List.pairwise_append.mp hsorted
  refine ⟨l₁, l₂, hsplit, fun y hy => ⟨fun hy₁ => ?_, fun hlt => ?_⟩⟩
  · rcases hcross y hy₁ x List.mem_cons_self with hlt | ⟨-, hpref⟩
    · exact hlt
    · have hne := hdisjoint y hy₁ x List.mem_cons_self
      simp [hne] at hpref
  · rcases List.mem_append.mp (hperm.mem_iff.mpr hy) with hy | hy
    · exact hy
    · rcases List.mem_cons.mp hy with rfl | hy
      · exact absurd hlt (lt_irrefl _)
      · rcases (List.pairwise_cons.mp htail).1 y hy with hgt | ⟨heq, -⟩
        · exact absurd hlt (lt_asymm hgt)
        · rw [heq] at hlt
          exact absurd hlt (lt_irrefl _)

theorem onPage_of_mem (hnodup : rows.Nodup) (hmem : e ∈ rows)
    (h : ∀ order : NewestFirst key, e ∈ order.page n rows) : OnPage key n rows e := by
  obtain ⟨l₁, l₂, hsplit, -, hbefore⟩ := last_of_its_key key hnodup hmem
  have hperm := (preferring key fun y => decide (y ≠ e)).perm rows
  have hpage := h (preferring key fun y => decide (y ≠ e))
  unfold NewestFirst.page at hpage
  rw [hsplit] at hpage hperm
  have hL := hperm.nodup_iff.mpr hnodup
  have hlen := (mem_take_iff hL).mp hpage
  refine lt_of_le_of_lt (le_length_before (fun x => x ≠ e ∧ key e ≤ key x) hperm ?_ ?_) hlen
  · exact fun hne => hne.1 rfl
  · rintro y hy ⟨hne, hle⟩
    have hy₁ := hbefore y (hperm.mem_iff.mp (by simp [hy])) hne hle
    exact (List.nodup_append.mp hL).2.2 y hy₁ y (List.mem_cons_of_mem _ hy) rfl

theorem onPage_of_find (hnodup : rows.Nodup) (hmem : e ∈ rows)
    (h : ∀ order : NewestFirst key, (order.page n rows).reverse.find? p = some e) :
    OnPage key n rows e :=
  onPage_of_mem hnodup hmem fun order =>
    List.mem_reverse.mp (List.mem_of_find?_eq_some (h order))

theorem notHidden_of_find (hnodup : rows.Nodup) (hmem : e ∈ rows) (hpage : OnPage key n rows e)
    (h : ∀ order : NewestFirst key, (order.page n rows).reverse.find? p = some e) :
    NotHidden key p n rows e := by
  intro x hx hpx hne
  rcases lt_trichotomy (key e) (key x) with hnewer | hsame | hold
  · exact .inl hnewer
  · -- With `x` last of the key that it shares with `e`, the search finds `x` first.
    exfalso
    obtain ⟨l₁, l₂, hsplit, hkeys, hbefore⟩ := last_of_its_key key hnodup hx
    have hperm := (preferring key fun y => decide (y ≠ x)).perm rows
    have hfind := h (preferring key fun y => decide (y ≠ x))
    unfold NewestFirst.page at hfind
    rw [hsplit] at hfind hperm
    have hL := hperm.nodup_iff.mpr hnodup
    have he := hbefore e hmem (Ne.symm hne) (le_of_eq hsame.symm)
    refine find_ne_of_later hL hpx (lt_of_le_of_lt ?_ hpage) he hfind
    obtain ⟨a, b, rfl⟩ := List.append_of_mem he
    have hdisjoint := (List.nodup_append.mp hL).2.2
    have hab := (List.nodup_append.mp hL).1
    have hothers : ∀ y ∈ a ++ b, y ≠ e ∧ key e ≤ key y := by
      intro y hy
      refine ⟨?_, hsame ▸ hkeys y (by simp at hy ⊢; tauto)⟩
      rintro rfl
      have hperm' : (a ++ y :: b).Perm (y :: (a ++ b)) := List.perm_middle
      exact (List.nodup_cons.mp (hperm'.nodup_iff.mp hab)).1 hy
    have hcount : (a ++ b).countP (fun y => decide (y ≠ e ∧ key e ≤ key y)) = (a ++ b).length :=
      List.countP_eq_length.mpr fun y hy => by simpa using hothers y hy
    have hx_other : decide (x ≠ e ∧ key e ≤ key x) = true := by simp [hne, hsame]
    rw [← hperm.countP_eq]
    simp only [List.countP_append, List.length_append, List.length_cons, List.countP_cons,
      hx_other, if_true] at hcount ⊢
    omega
  · -- With `x` first of its key, it is on the page unless `n` rows are newer.
    refine .inr ⟨hold, ?_⟩
    by_contra hfew
    obtain ⟨l₁, l₂, hsplit, hbefore⟩ := first_of_its_key key hnodup hx
    have hperm := (preferring key fun y => decide (y = x)).perm rows
    have hfind := h (preferring key fun y => decide (y = x))
    unfold NewestFirst.page at hfind
    rw [hsplit] at hfind hperm
    have hL := hperm.nodup_iff.mpr hnodup
    have hlen := length_before_le (fun y => key x < key y) hperm
      fun y hy => (hbefore y (hperm.mem_iff.mp (by simp [hy]))).mp hy
    exact find_ne_of_later hL hpx (by omega) ((hbefore e hmem).mpr hold) hfind

theorem find_oldest_iff (hnodup : rows.Nodup) (hmem : e ∈ rows) (he : p e = true) :
    (∀ order : NewestFirst key, (order.page n rows).reverse.find? p = some e) ↔
      OnPage key n rows e ∧ NotHidden key p n rows e := by
  constructor
  · intro h
    have hpage := onPage_of_find hnodup hmem h
    exact ⟨hpage, notHidden_of_find hnodup hmem hpage h⟩
  · rintro ⟨hpage, hhidden⟩ order
    exact find_of_onPage hnodup hmem he hpage hhidden order

end search

/-! ## Reading a page as a history -/

section reading

variable {β : Type} {rows : List α} {p : α → Bool} {n : ℕ} {f : α → β} {time : β → κ}

theorem filter_page_subperm (order : NewestFirst key) (n : ℕ) (rows : List α) (p : α → Bool) :
    ((order.page n rows).filter p).Subperm (rows.filter p) :=
  ((List.take_sublist n _).subperm.filter p).trans ((order.perm rows).filter p).subperm

theorem filter_page_perm (order : NewestFirst key)
    (h : (rows.filter p).length ≤ ((order.page n rows).filter p).length) :
    ((order.page n rows).filter p).Perm (rows.filter p) :=
  (filter_page_subperm order n rows p).perm_of_length_le h

/-- Of the rows `a` and `b`, in this order, the page keeps the order. -/
def InOrder (key : α → κ) (f : α → β) (a b : α) : Prop :=
  key b < key a ∨ key b = key a ∧ f a = f b

theorem inOrder_of_reads [DecidableEq β] (hf : ∀ x, time (f x) = key x)
    (h : ∀ order : NewestFirst key,
      ((order.page n rows).filter p).map f = (rows.filter p).map f) :
    (rows.filter p).Pairwise (InOrder key f) := by
  rw [List.pairwise_iff_forall_sublist]
  intro a b hab
  -- In the order that prefers what reads like `b`, nothing else of its time
  -- comes before it.
  let R : β → β → Prop := fun u v => time v < time u ∨ time v = time u ∧ (u = f b ∨ v ≠ f b)
  have hsorted := (pairwise_before key (fun y => decide (f y = f b)) rows)
  have hpage : (((preferring key fun y => decide (f y = f b)).page n rows).filter p).Pairwise
      fun x y => R (f x) (f y) := by
    refine List.Pairwise.imp ?_ ((hsorted.sublist (List.take_sublist n _)).sublist
      List.filter_sublist)
    intro x y hxy
    simp only [R, hf]
    rcases hxy with hlt | ⟨heq, hpref⟩
    · exact Or.inl hlt
    · exact Or.inr ⟨heq, by simpa using hpref⟩
  rw [← List.pairwise_map, h, List.pairwise_map] at hpage
  have hR := List.pairwise_iff_forall_sublist.mp hpage hab
  simp only [R, hf] at hR
  rcases hR with hlt | ⟨heq, hsame | hne⟩
  · exact Or.inl hlt
  · exact Or.inr ⟨heq, hsame⟩
  · exact absurd rfl hne

/-- Two lists of the same rows, one in order of the page and one that reads in
that order, read alike. -/
theorem map_eq_of_inOrder (hf : ∀ x, time (f x) = key x) {shown logged : List α}
    (hperm : shown.Perm logged) (hshown : shown.Pairwise fun a b => key b ≤ key a)
    (hlogged : logged.Pairwise (InOrder key f)) : shown.map f = logged.map f := by
  have hties : logged.Pairwise fun a b => key a = key b → f a = f b := by
    refine hlogged.imp fun {a b} hab hkey => ?_
    rcases hab with hlt | ⟨-, hsame⟩
    · exact absurd hlt (by simp [hkey])
    · exact hsame
  have hsame : ∀ a ∈ logged, ∀ b ∈ logged, key a = key b → f a = f b := fun a ha b hb =>
    List.Pairwise.forall_of_forall_of_flip (fun _ _ _ => rfl) hties
      (hties.imp fun h hkey => (h hkey.symm).symm) ha hb
  have hdown : (logged.map f).Pairwise fun u v => time v ≤ time u := by
    rw [List.pairwise_map]
    simp only [hf]
    refine hlogged.imp fun {a b} hab => ?_
    rcases hab with hlt | ⟨heq, -⟩
    · exact le_of_lt hlt
    · exact le_of_eq heq
  have hdown' : (shown.map f).Pairwise fun u v => time v ≤ time u := by
    rw [List.pairwise_map]
    simpa only [hf] using hshown
  refine List.Perm.eq_of_pairwise ?_ hdown' hdown (hperm.map f)
  intro u v hu hv huv hvu
  obtain ⟨a, ha, rfl⟩ := List.mem_map.mp hu
  obtain ⟨b, hb, rfl⟩ := List.mem_map.mp hv
  rw [hf, hf] at huv hvu
  exact hsame a (hperm.mem_iff.mp ha) b hb (le_antisymm hvu huv)

variable [DecidableEq α]

/-- The page reads as the logged history in every order of ties exactly if each
match is on the page, and the later ones are older, or read the same. -/
theorem filter_page_reads_iff [DecidableEq β] (hnodup : rows.Nodup)
    (hf : ∀ x, time (f x) = key x) :
    (∀ order : NewestFirst key, ((order.page n rows).filter p).map f = (rows.filter p).map f) ↔
      (∀ x ∈ rows, p x = true → OnPage key n rows x) ∧
        (rows.filter p).Pairwise (InOrder key f) := by
  constructor
  · intro h
    refine ⟨fun x hx hpx => onPage_of_mem hnodup hx fun order => ?_, inOrder_of_reads hf h⟩
    have hlen := congrArg List.length (h order)
    rw [List.length_map, List.length_map] at hlen
    have hshown := (filter_page_perm order (le_of_eq hlen.symm)).mem_iff.mpr
      (List.mem_filter.mpr ⟨hx, hpx⟩)
    exact (List.mem_filter.mp hshown).1
  · rintro ⟨hpages, hlogged⟩ order
    have hperm : ((order.page n rows).filter p).Perm (rows.filter p) := by
      refine (List.perm_ext_iff_of_nodup ?_ (hnodup.filter _)).mpr fun x => ?_
      · exact (((order.perm rows).nodup_iff.mpr hnodup).sublist (List.take_sublist n _)).filter _
      · rw [List.mem_filter, List.mem_filter]
        refine and_congr_left fun hpx => ⟨fun hx => ?_, fun hx => ?_⟩
        · exact (order.perm rows).mem_iff.mp (List.mem_of_mem_take hx)
        · exact mem_page_of_onPage hnodup hx (hpages x hx hpx) order
    have hdown := (order.descending rows).sublist (List.take_sublist n _)
    exact map_eq_of_inOrder hf hperm (hdown.sublist List.filter_sublist) hlogged

end reading

end newest
