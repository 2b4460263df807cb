-- Logs in which each entry carries the hash of the entry before it and a
-- hash over its own content. What a walk along such a log finds out when
-- entries are changed and no hash is computed anew.
import Mathlib.Data.List.Nodup
import Mathlib.Data.List.Sort
import Mathlib.Tactic.Common

namespace hashchain

/-- What a chain knows of an entry: the hash that it names as the one before,
its own hash, and the hash that its content calls for. -/
structure Scheme (α H : Type) where
  prev : α → H
  hash : α → H
  digest : α → H
  genesis : H

section walk

variable {α H : Type} (S : Scheme α H)

/-- The hash that the next entry has to name. -/
def tip : H → List α → H
  | x, [] => x
  | _, e :: es => tip (S.hash e) es

/-- Each entry names the hash before it and carries the hash of its content. -/
def Chained : H → List α → Prop
  | _, [] => True
  | x, e :: es => S.prev e = x ∧ S.hash e = S.digest e ∧ Chained (S.hash e) es

@[simp] theorem tip_append (x : H) (es fs : List α) :
    tip S x (es ++ fs) = tip S (tip S x es) fs := by
  induction es generalizing x with
  | nil => rfl
  | cons e es ih => exact ih _

theorem tip_concat (x : H) (es : List α) (e : α) : tip S x (es ++ [e]) = S.hash e := by
  rw [tip_append]
  rfl

theorem tip_eq_getLast? (x : H) (es : List α) :
    tip S x es = (es.getLast?.map S.hash).getD x := by
  rcases List.eq_nil_or_concat' es with rfl | ⟨init, last, rfl⟩
  · rfl
  · rw [tip_concat, List.getLast?_concat]
    rfl

theorem chained_append {x : H} {es fs : List α} :
    Chained S x (es ++ fs) ↔ Chained S x es ∧ Chained S (tip S x es) fs := by
  induction es generalizing x with
  | nil => simp [Chained, tip]
  | cons e es ih => simp [Chained, tip, ih, and_assoc]

variable {S}

theorem Chained.concat {x : H} {es : List α} {e : α} (h : Chained S x es)
    (hprev : S.prev e = tip S x es) (hseal : S.hash e = S.digest e) : Chained S x (es ++ [e]) :=
  (chained_append S).mpr ⟨h, hprev, hseal, trivial⟩

theorem Chained.hash_eq {x : H} {es : List α} (h : Chained S x es) :
    ∀ e ∈ es, S.hash e = S.digest e := by
  induction es generalizing x with
  | nil =>
    intro e he
    cases he
  | cons a es ih =>
    intro e he
    rcases List.mem_cons.mp he with rfl | he
    · exact h.2.1
    · exact ih h.2.2 e he

theorem Chained.prev_cases {x : H} {es : List α} (h : Chained S x es) :
    ∀ e ∈ es, S.prev e = x ∨ ∃ e' ∈ es, S.prev e = S.digest e' := by
  induction es generalizing x with
  | nil =>
    intro e he
    cases he
  | cons a es ih =>
    obtain ⟨hprev, hhash, htail⟩ := h
    intro e he
    rcases List.mem_cons.mp he with rfl | he
    · exact Or.inl hprev
    · rcases ih htail e he with heq | ⟨e', he', heq⟩
      · exact Or.inr ⟨a, List.mem_cons_self, heq.trans hhash⟩
      · exact Or.inr ⟨e', List.mem_cons_of_mem a he', heq⟩

variable (S) [DecidableEq H]

/-- The first entry that does not follow the ones before it. -/
def firstBreak : H → List α → Option ℕ
  | _, [] => none
  | x, e :: es =>
    if S.prev e ≠ x ∨ S.hash e ≠ S.digest e then some 0
    else (firstBreak (S.hash e) es).map (· + 1)

theorem firstBreak_follows {x : H} {e : α} (es : List α) (hprev : S.prev e = x)
    (hhash : S.hash e = S.digest e) :
    firstBreak S x (e :: es) = (firstBreak S (S.hash e) es).map (· + 1) :=
  if_neg (by simp [hprev, hhash])

theorem firstBreak_breaks {x : H} {e : α} (es : List α)
    (h : S.prev e ≠ x ∨ S.hash e ≠ S.digest e) : firstBreak S x (e :: es) = some 0 := if_pos h

theorem firstBreak_append {x : H} {es fs : List α} (h : Chained S x es) :
    firstBreak S x (es ++ fs) = (firstBreak S (tip S x es) fs).map (· + es.length) := by
  induction es generalizing x with
  | nil => simp [tip]
  | cons e es ih =>
    obtain ⟨hprev, hhash, htail⟩ := h
    rw [List.cons_append, firstBreak_follows S _ hprev hhash, ih htail, tip, Option.map_map]
    simp [Function.comp_def, Nat.add_assoc]

theorem firstBreak_eq_none {x : H} {es : List α} :
    firstBreak S x es = none ↔ Chained S x es := by
  induction es generalizing x with
  | nil => simp [firstBreak, Chained]
  | cons e es ih =>
    unfold Chained
    by_cases h : S.prev e = x ∧ S.hash e = S.digest e
    · rw [firstBreak_follows S es h.1 h.2, Option.map_eq_none_iff, ih]
      simp [h]
    · rw [firstBreak_breaks S es (by tauto)]
      simp only [reduceCtorEq, false_iff]
      tauto

end walk

/-! ## Without collisions -/

section binding

variable {α H : Type} (S : Scheme α H)

/-- The hashes of these entries bind the hash that each one names, and none
is the one that a log starts from. -/
structure Binding (es : List α) : Prop where
  prev_eq : ∀ e ∈ es, ∀ e' ∈ es, S.digest e = S.digest e' → S.prev e = S.prev e'
  fresh : ∀ e ∈ es, S.digest e ≠ S.genesis

variable {S}

theorem Binding.of_subset {es fs : List α} (h : Binding S fs) (hsub : ∀ e ∈ es, e ∈ fs) :
    Binding S es :=
  ⟨fun e he e' he' => h.prev_eq e (hsub e he) e' (hsub e' he'), fun e he => h.fresh e (hsub e he)⟩

theorem Chained.prev_getElem {x : H} {es : List α} (h : Chained S x es) {i : ℕ}
    (hi : i + 1 < es.length) : S.prev es[i + 1] = S.hash es[i] := by
  induction es generalizing x i with
  | nil => simp at hi
  | cons e es ih =>
    rcases i with _ | i
    · rcases es with _ | ⟨e', es⟩
      · simp at hi
      · exact h.2.2.1
    · exact ih h.2.2 (by simpa using hi)

theorem Chained.prev_zero {x : H} {es : List α} (h : Chained S x es) (hpos : 0 < es.length) :
    S.prev es[0] = x := by
  rcases es with _ | ⟨e, es⟩
  · simp at hpos
  · exact h.1

/-- No two entries of a chain name the same hash: from two such entries one
could walk back to the start of the log. -/
theorem Chained.prev_inj {es : List α} (h : Chained S S.genesis es) (hb : Binding S es) {i j : ℕ}
    (hi : i < es.length) (hj : j < es.length) (heq : S.prev es[i] = S.prev es[j]) : i = j := by
  have hdigest : ∀ (k : ℕ) (hk : k < es.length), S.hash es[k] = S.digest es[k] :=
    fun k hk => h.hash_eq _ (List.getElem_mem hk)
  -- The entry after another one does not start the log.
  have hstart : ∀ (k : ℕ) (hk : k + 1 < es.length), S.prev es[k + 1] ≠ S.genesis := by
    intro k hk hgen
    rw [h.prev_getElem hk, hdigest k (by omega)] at hgen
    exact hb.fresh _ (List.getElem_mem _) hgen
  induction i generalizing j with
  | zero =>
    rcases j with _ | j
    · rfl
    · rw [h.prev_zero hi] at heq
      exact absurd heq.symm (hstart j hj)
  | succ i ih =>
    rcases j with _ | j
    · rw [h.prev_zero hj] at heq
      exact absurd heq (hstart i hi)
    · rw [h.prev_getElem hi, h.prev_getElem hj, hdigest i (by omega), hdigest j (by omega)] at heq
      have hprev := hb.prev_eq _ (List.getElem_mem _) _ (List.getElem_mem _) heq
      rw [ih (by omega) (by omega) hprev]

theorem Chained.prev_nodup {es : List α} (h : Chained S S.genesis es) (hb : Binding S es) :
    (es.map S.prev).Nodup := by
  rw [List.nodup_iff_injective_getElem]
  intro i j hij
  have hi : i.1 < es.length := by simpa using i.2
  have hj : j.1 < es.length := by simpa using j.2
  simp only [List.getElem_map] at hij
  exact Fin.ext (h.prev_inj hb hi hj hij)

theorem Chained.eq_of_prev {es : List α} (h : Chained S S.genesis es) (hb : Binding S es) {a b : α}
    (ha : a ∈ es) (hb' : b ∈ es) (heq : S.prev a = S.prev b) : a = b := by
  obtain ⟨i, hi, rfl⟩ := List.getElem_of_mem ha
  obtain ⟨j, hj, rfl⟩ := List.getElem_of_mem hb'
  have hij := h.prev_inj hb hi hj heq
  subst hij
  rfl

theorem Chained.rel_of_prev {R : α → α → Prop} {es : List α} (h : Chained S S.genesis es)
    (hb : Binding S es) (hR : es.Pairwise R) {a b : α} (ha : a ∈ es) (hb' : b ∈ es)
    (heq : S.prev b = S.digest a) : R a b := by
  obtain ⟨i, hi, rfl⟩ := List.getElem_of_mem hb'
  obtain ⟨j, hj, rfl⟩ := List.getElem_of_mem ha
  rcases i with _ | i
  · rw [h.prev_zero hi] at heq
    exact absurd heq.symm (hb.fresh _ ha)
  · rw [h.prev_getElem hi, h.hash_eq _ (List.getElem_mem _)] at heq
    have hprev := hb.prev_eq _ (List.getElem_mem _) _ ha heq
    have hij := h.prev_inj hb (by omega) hj hprev
    subst hij
    exact List.pairwise_iff_getElem.mp hR i (i + 1) (by omega) hi (by omega)

end binding

/-! ## Logs that are read in an order of their own -/

section ordered

variable {α H : Type} (S : Scheme α H) (le : α → α → Prop) [DecidableRel le]

/-- Each entry was appended to the tip of the log as the order shows it. -/
inductive Written : List α → Prop
  | nil : Written []
  | snoc (es : List α) (e : α) (hes : Written es)
      (hprev : S.prev e = tip S S.genesis (es.insertionSort le)) (hhash : S.hash e = S.digest e) :
      Written (es ++ [e])

variable {S le}

theorem Written.hash_eq {es : List α} (h : Written S le es) : ∀ e ∈ es, S.hash e = S.digest e := by
  induction h with
  | nil =>
    intro e he
    cases he
  | snoc es e hes hprev hhash ih =>
    intro a ha
    rcases List.mem_append.mp ha with ha | ha
    · exact ih a ha
    · rw [List.mem_singleton.mp ha]
      exact hhash

variable [Std.Total le]

theorem sorted_of_pairwise {es : List α} (h : es.Pairwise fun a b => ¬ le b a) :
    es.insertionSort le = es :=
  List.Pairwise.insertionSort_eq (h.imp fun {a b} hba => (Std.Total.total a b).resolve_right hba)

theorem Written.chained {es : List α} (h : Written S le es)
    (hup : es.Pairwise fun a b => ¬ le b a) : Chained S S.genesis es := by
  induction h with
  | nil => trivial
  | snoc es e hes hprev hhash ih =>
    have hup' := (List.pairwise_append.mp hup).1
    rw [sorted_of_pairwise hup'] at hprev
    exact (ih hup').concat hprev hhash

/-- A log that is written and read through the order is a chain exactly when
each entry was above all entries before it. -/
theorem Written.chained_iff [IsTrans α le] {es : List α} (h : Written S le es) (hb : Binding S es)
    (hnodup : es.Nodup) (hanti : ∀ a ∈ es, ∀ b ∈ es, le a b → le b a → a = b) :
    Chained S S.genesis (es.insertionSort le) ↔ es.Pairwise fun a b => ¬ le b a := by
  refine ⟨fun hchain => ?_, fun hup => ?_⟩
  swap
  · rw [sorted_of_pairwise hup]
    exact h.chained hup
  have hmem : ∀ a, a ∈ es.insertionSort le ↔ a ∈ es := fun a => List.mem_insertionSort le
  have hbinding : Binding S (es.insertionSort le) := hb.of_subset fun a ha => (hmem a).mp ha
  have hsorted : (es.insertionSort le).Pairwise le := List.pairwise_insertionSort le es
  -- The induction is on what was written first, against the whole log.
  have hprefix : ∀ pre : List α, Written S le pre → pre.Nodup → (∀ a ∈ pre, a ∈ es) →
      pre.Pairwise fun a b => ¬ le b a := by
    intro pre hpre
    induction hpre with
    | nil => exact fun _ _ => .nil
    | snoc pre e hpre hprev hhash ih =>
      intro hnd hsub
      rw [List.nodup_append] at hnd
      obtain ⟨hnd, -, hnew⟩ := hnd
      have hup := ih hnd fun a ha => hsub a (List.mem_append_left _ ha)
      refine List.pairwise_append.mpr ⟨hup, List.pairwise_singleton _ _, fun a ha b hb' => ?_⟩
      rw [List.mem_singleton.mp hb']
      have he := hsub e (by simp)
      have ha' := hsub a (List.mem_append_left _ ha)
      rw [sorted_of_pairwise hup] at hprev
      -- The tip is the hash of the last entry, which is before the new one.
      obtain ⟨init, last, rfl⟩ : ∃ init last, pre = init ++ [last] :=
        (List.eq_nil_or_concat' pre).resolve_left (List.ne_nil_of_mem ha)
      have hlast := hsub last (by simp)
      rw [tip_concat, (h.hash_eq last hlast)] at hprev
      have hle := hchain.rel_of_prev hbinding hsorted ((hmem last).mpr hlast) ((hmem e).mpr he) hprev
      have hale : le a e := by
        rcases List.mem_append.mp ha with hinit | hone
        · have hlt := (List.pairwise_append.mp hup).2.2 a hinit last (by simp)
          exact IsTrans.trans a last e ((Std.Total.total a last).resolve_right hlt) hle
        · rw [List.mem_singleton.mp hone]
          exact hle
      intro hea
      exact hnew a ha e (by simp) (hanti a ha' e he hale hea)
  exact hprefix es h hnodup fun a ha => ha

end ordered

/-! ## Tampering -/

section tamper

variable {α : Type} [DecidableEq α]

/-- The first place at which two logs differ. -/
def firstDifference : List α → List α → ℕ
  | a :: as, b :: bs => if a = b then firstDifference as bs + 1 else 0
  | _, _ => 0

/-- Two logs split where they differ first. -/
theorem split_at_difference (es fs : List α) :
    ∃ common es' fs', es = common ++ es' ∧ fs = common ++ fs' ∧
      common.length = firstDifference es fs ∧
      ∀ a as b bs, es' = a :: as → fs' = b :: bs → a ≠ b := by
  induction es generalizing fs with
  | nil => exact ⟨[], [], fs, rfl, rfl, by simp [firstDifference], fun a as b bs h => by cases h⟩
  | cons a as ih =>
    rcases fs with _ | ⟨b, bs⟩
    · exact ⟨[], a :: as, [], rfl, rfl, by simp [firstDifference], fun _ _ _ _ _ h => by cases h⟩
    by_cases hab : a = b
    · subst hab
      obtain ⟨common, es', fs', rfl, rfl, hlen, hne⟩ := ih bs
      exact ⟨a :: common, es', fs', rfl, rfl, by simp [firstDifference, hlen], hne⟩
    · refine ⟨[], a :: as, b :: bs, rfl, rfl, by simp [firstDifference, hab], ?_⟩
      intro a' as' b' bs' h h'
      cases h
      cases h'
      exact hab

variable {H : Type} [DecidableEq H] {S : Scheme α H}

/-- A log in whose place another one is put, without computing a hash: each
entry that is new does not carry the hash of its content. The walk stops at
the first difference, unless the log was only cut off at its end. -/
theorem firstBreak_tampered {es fs : List α} (h : Chained S S.genesis es) (hb : Binding S es)
    (hstale : ∀ e ∈ fs, e ∈ es ∨ S.hash e ≠ S.digest e) :
    firstBreak S S.genesis fs = if fs <+: es then none else some (firstDifference es fs) := by
  obtain ⟨common, es', fs', rfl, rfl, hlen, hne⟩ := split_at_difference es fs
  obtain ⟨hcommon, hrest⟩ := (chained_append S).mp h
  rcases fs' with _ | ⟨b, bs⟩
  · rw [List.append_nil, if_pos (List.prefix_append common es'), firstBreak_eq_none]
    exact hcommon
  rw [if_neg, firstBreak_append S hcommon, firstBreak_breaks, ← hlen]
  · simp
  · -- An entry that follows is one of the old ones, and in its old place.
    by_contra hfollows
    obtain ⟨hprev, hhash⟩ : S.prev b = tip S S.genesis common ∧ S.hash b = S.digest b := by tauto
    rcases hstale b (by simp) with hmem | hbroken
    swap
    · exact hbroken hhash
    have hlonger : Chained S S.genesis (common ++ [b]) := hcommon.concat hprev hhash
    have hsub : ∀ e ∈ common ++ [b], e ∈ common ++ es' := by
      intro e he
      rcases List.mem_append.mp he with he | he
      · exact List.mem_append_left _ he
      · rw [List.mem_singleton.mp he]
        exact hmem
    have hnodup := hlonger.prev_nodup (hb.of_subset hsub)
    have hnew : b ∉ common := by
      intro hold
      rw [List.map_append, List.nodup_append] at hnodup
      exact hnodup.2.2 _ (List.mem_map_of_mem hold) _ (by simp) rfl
    rcases List.mem_append.mp hmem with hold | hlater
    · exact hnew hold
    rcases es' with _ | ⟨a, as⟩
    · cases hlater
    · have ha : a ∈ common ++ a :: as := by simp
      exact hne a as b bs rfl rfl (h.eq_of_prev hb ha hmem (hrest.1.trans hprev.symm))
  · intro hprefix
    obtain ⟨t, ht⟩ := (List.prefix_append_right_inj common).mp hprefix
    exact hne b (bs ++ t) b bs ht.symm rfl rfl

end tamper

end hashchain
