-- Occurrences of a word in a text: a letter that the word does not have
-- separates them, and a rewriting of the text letter by letter that keeps
-- the letters of the word keeps them too.
import Mathlib.Data.List.Infix

namespace occurrences

variable {α : Type}

/-! ## Counting -/

section count

variable [DecidableEq α]

/-- How many times the word begins in the text. -/
def count (w : List α) : List α → ℕ
  | [] => 0
  | a :: t => (if w <+: a :: t then 1 else 0) + count w t

theorem count_eq_zero_iff {w : List α} (hw : w ≠ []) (t : List α) :
    count w t = 0 ↔ ¬ w <:+: t := by
  induction t with
  | nil => simp [count, hw]
  | cons a t ih =>
    rw [count, List.infix_cons_iff, not_or, ← ih]
    split
    · rename_i h
      simp [h]
    · rename_i h
      simp [h]

end count

/-! ## A separating letter -/

section separators

variable {w : List α} {c : α}

theorem prefix_separated (hc : c ∉ w) (a b : List α) : w <+: a ++ c :: b ↔ w <+: a := by
  induction w generalizing a with
  | nil => simp
  | cons x w ih =>
    rw [List.mem_cons, not_or] at hc
    cases a with
    | nil => simp [List.cons_prefix_cons, Ne.symm hc.1]
    | cons y a => rw [List.cons_append, List.cons_prefix_cons, List.cons_prefix_cons, ih hc.2]

theorem not_prefix_separator (hw : w ≠ []) (hc : c ∉ w) (b : List α) : ¬ w <+: c :: b := by
  intro h
  exact hw (List.prefix_nil.mp ((prefix_separated hc [] b).mp h))

theorem infix_separated (hw : w ≠ []) (hc : c ∉ w) (a b : List α) :
    w <:+: a ++ c :: b ↔ w <:+: a ∨ w <:+: b := by
  induction a with
  | nil => simp [List.infix_cons_iff, not_prefix_separator hw hc b, hw]
  | cons x a ih =>
    have hcut := prefix_separated hc (x :: a) b
    rw [List.cons_append] at hcut
    rw [List.cons_append, List.infix_cons_iff, List.infix_cons_iff, hcut, ih, or_assoc]

theorem infix_cons_separator (hw : w ≠ []) (hc : c ∉ w) (b : List α) :
    w <:+: c :: b ↔ w <:+: b := by
  simpa [hw] using infix_separated hw hc [] b

theorem infix_append_separator (hw : w ≠ []) (hc : c ∉ w) (a : List α) :
    w <:+: a ++ [c] ↔ w <:+: a := by
  simpa [hw] using infix_separated hw hc a []

theorem infix_append_separators (hw : w ≠ []) {seps : List α} (hseps : ∀ c ∈ seps, c ∉ w)
    (b : List α) : w <:+: seps ++ b ↔ w <:+: b := by
  induction seps with
  | nil => rfl
  | cons c seps ih =>
    rw [List.cons_append, infix_cons_separator hw (hseps c List.mem_cons_self),
      ih fun x hx => hseps x (List.mem_cons_of_mem _ hx)]

theorem infix_intercalate (hw : w ≠ []) {sep : List α} (hne : sep ≠ []) (hsep : ∀ c ∈ sep, c ∉ w)
    (ts : List (List α)) : w <:+: sep.intercalate ts ↔ ∃ t ∈ ts, w <:+: t := by
  induction ts with
  | nil => simp [List.intercalate, hw]
  | cons t ts ih =>
    cases ts with
    | nil => simp
    | cons t' ts =>
      obtain ⟨c, seps, rfl⟩ := List.exists_cons_of_ne_nil hne
      rw [List.intercalate_cons_cons, List.append_assoc, List.cons_append,
        infix_separated hw (hsep c List.mem_cons_self),
        infix_append_separators hw fun x hx => hsep x (List.mem_cons_of_mem _ hx), ih]
      simp only [List.mem_cons, exists_eq_or_imp]

theorem count_separated [DecidableEq α] (hw : w ≠ []) (hc : c ∉ w) (a b : List α) :
    count w (a ++ c :: b) = count w a + count w b := by
  induction a with
  | nil => simp [count, not_prefix_separator hw hc b]
  | cons x a ih =>
    have hcut := prefix_separated hc (x :: a) b
    rw [List.cons_append] at hcut
    simp only [List.cons_append, count, hcut, ih, Nat.add_assoc]

theorem not_infix_of_head {h : α} (hh : w.head? = some h) {t : List α} (ht : h ∉ t) :
    ¬ w <:+: t := by
  intro hw
  exact ht (hw.subset (List.mem_of_mem_head? hh))

end separators

/-! ## Rewriting letter by letter -/

/-- A rewriting that copies the letters of the word, and turns any other
letter into a text that cannot take part in an occurrence. -/
structure Spares (w : List α) (f : α → List α) : Prop where
  copied : ∀ c ∈ w, f c = [c]
  broken : ∀ c ∉ w, ∃ d ds, f c = d :: ds ∧ d ∉ w ∧ ∀ h, w.head? = some h → h ∉ ds

section rewriting

variable {w : List α} {f : α → List α}

theorem Spares.prefix_iff (hf : Spares w f) {u : List α} (hu : ∀ c ∈ u, c ∈ w) (t : List α) :
    u <+: t.flatMap f ↔ u <+: t := by
  induction u generalizing t with
  | nil => simp
  | cons a u ih =>
    have ha := hu a List.mem_cons_self
    cases t with
    | nil => simp
    | cons c t =>
      rw [List.flatMap_cons]
      by_cases hc : c ∈ w
      · rw [hf.copied c hc, List.singleton_append, List.cons_prefix_cons, List.cons_prefix_cons,
          ih fun x hx => hu x (List.mem_cons_of_mem _ hx)]
      · obtain ⟨d, ds, hd, hdw, -⟩ := hf.broken c hc
        rw [hd, List.cons_append, List.cons_prefix_cons, List.cons_prefix_cons]
        constructor
        · rintro ⟨rfl, -⟩
          exact absurd ha hdw
        · rintro ⟨rfl, -⟩
          exact absurd ha hc

/-- Letters that the word does not begin with can be skipped. -/
theorem infix_skip {h : α} (hh : w.head? = some h) {ds : List α} (hds : h ∉ ds) (t : List α) :
    w <:+: ds ++ t ↔ w <:+: t := by
  induction ds with
  | nil => rfl
  | cons d ds ih =>
    rw [List.mem_cons, not_or] at hds
    rw [List.cons_append, List.infix_cons_iff, ih hds.2]
    constructor
    · rintro (hp | hi)
      · have heq := List.mem_of_mem_head? hh
        cases w with
        | nil => cases hh
        | cons x w =>
          rw [List.cons_prefix_cons] at hp
          rw [List.head?_cons, Option.some.injEq] at hh
          exact absurd (hh.symm.trans hp.1) hds.1
      · exact hi
    · exact Or.inr

theorem Spares.infix_iff (hf : Spares w f) (hw : w ≠ []) (t : List α) :
    w <:+: t.flatMap f ↔ w <:+: t := by
  obtain ⟨h, hh⟩ : ∃ h, w.head? = some h := by
    cases w with
    | nil => exact absurd rfl hw
    | cons x w => exact ⟨x, rfl⟩
  induction t with
  | nil => simp
  | cons c t ih =>
    by_cases hc : c ∈ w
    · have hpre := hf.prefix_iff (fun x hx => hx) (c :: t)
      rw [List.flatMap_cons, hf.copied c hc, List.singleton_append] at hpre ⊢
      rw [List.infix_cons_iff, List.infix_cons_iff, hpre, ih]
    · obtain ⟨d, ds, hd, hdw, hskip⟩ := hf.broken c hc
      rw [List.flatMap_cons, hd, List.cons_append, infix_cons_separator hw hdw,
        infix_skip hh (hskip h hh), ih, infix_cons_separator hw hc]

end rewriting

end occurrences
