-- The five passes of the redaction after each other
-- (gateways/azure_di_egress_redaction.py). Nothing is left to redact just when
-- no amount is cut short: the masks of the other patterns make no boundary
-- that was not there.
import Asoe.EgressPasses

open regex masking

namespace asoe.redaction

namespace Chars

variable {c : Chars} {k : Kind} {prev : Option Char}

/-- The pieces after each pass over a text. -/
structure Passes (c : Chars) (t : List Char) (s₁ s₂ s₃ s₄ s₅ : List (Seg Char Kind)) : Prop where
  ssn : c.PassOf .ssn none (t.map .keep) s₁
  amount : c.PassOf .amount none s₁ s₂
  cc_grouped : c.PassOf .cc_grouped none s₂ s₃
  cc_contiguous : c.PassOf .cc_contiguous none s₃ s₄
  iban : c.PassOf .iban none s₄ s₅

/-! ## An amount that is cut short -/

variable {s a b : List (Seg Char Kind)} {m : List Char} {d : Char}

theorem cut_before {j : Kind} (hj : j ≠ .amount) {s' : List (Seg Char Kind)}
    (h : c.PassOf j none s s') (hs' : s' = a ++ .hit .amount m :: .keep d :: b) :
    ∃ a₀ b₀, s = a₀ ++ .hit .amount m :: .keep d :: b₀ ∧
      c.PassOf j (some '>') (.keep d :: b₀) (.keep d :: b) := by
  subst hs'
  obtain ⟨a₀, x, rfl, -, -, hrest⟩ := h.of_append
  obtain ⟨y, rfl, hkeep⟩ := hrest.of_hit_ne (Ne.symm hj)
  obtain ⟨b₀, rfl, -, -⟩ := hkeep.of_keep
  exact ⟨a₀, b₀, rfl, hkeep⟩

theorem cut_after {j : Kind} {s' : List (Seg Char Kind)}
    (h : c.PassOf j none s s') (hs : s = a ++ .hit .amount m :: .keep d :: b)
    (hmiss : ∀ w, c.find j (some '>') (d :: shown Kind.mask b) = some w → c.accepts j w = false) :
    ∃ a' b', s' = a' ++ .hit .amount m :: .keep d :: b' ∧
      c.PassOf j (some '>') (.keep d :: b) (.keep d :: b') := by
  subst hs
  obtain ⟨a', x, rfl, -, hrest⟩ := h.append (by rintro e t ⟨⟩)
  obtain ⟨y, rfl, hkeep⟩ := hrest.hit
  obtain ⟨b', rfl, hb⟩ := Masks.kept (w := [d]) hkeep (Missed.single hmiss)
  exact ⟨a', b', rfl, .keep hmiss hb⟩

variable {s₁ s₂ : List (Seg Char Kind)}

theorem amount_before
    (h : c.PassOf .amount none s₁ s₂) (hs₂ : s₂ = a ++ .hit .amount m :: .keep d :: b)
    (hfresh : ∀ w, .hit .amount w ∉ s₁) :
    ∃ a₀ b₀ prev, s₁ = a₀ ++ (m.map .keep ++ .keep d :: b₀) ∧
      c.find .amount (last none (shown Kind.mask a₀)) (m ++ d :: shown Kind.mask b₀) = some m ∧
      c.PassOf .amount prev (.keep d :: b₀) (.keep d :: b) := by
  subst hs₂
  obtain ⟨a₀, x, rfl, -, -, hrest⟩ := h.of_append
  rcases hrest.of_hit with ⟨y, rfl, -⟩ | ⟨-, y, rfl, -, hfind, -, hkeep⟩
  · exact absurd (by simp) (hfresh m)
  · obtain ⟨b₀, rfl, -, -⟩ := hkeep.of_keep
    exact ⟨a₀, b₀, _, rfl, hfind, hkeep⟩

theorem amount_after
    (h : c.PassOf .amount none s₁ s₂) (hs₁ : s₁ = a ++ (m.map .keep ++ .keep d :: b))
    (hfind : c.find .amount (last none (shown Kind.mask a)) (m ++ d :: shown Kind.mask b) = some m)
    (hd : c.isDigit d = true) :
    ∃ a' b' prev, s₂ = a' ++ .hit .amount m :: .keep d :: b' ∧
      c.PassOf .amount prev (.keep d :: b) (.keep d :: b') := by
  subst hs₁
  have htail := dollar_not_mem_tail hfind
  obtain ⟨w, u, rfl, -, -⟩ := amount_parts hfind
  obtain ⟨a', x, rfl, -, hrest⟩ := h.append (by
    intro e t ht prev t' m' hm' hmem
    obtain ⟨hkeep, -⟩ := List.cons.inj ht
    obtain rfl := Seg.keep.inj hkeep
    exact dollar_not_mem_tail hm' hmem)
  obtain ⟨y, rfl, hkeep⟩ := hrest.found (List.cons_ne_nil _ w) hfind rfl
  have hmissed : c.Misses .amount (last (last none (shown Kind.mask a)) ('$' :: w)) [d] b := by
    refine misses_amount (fun hmem => ?_) b
    obtain rfl := List.mem_singleton.mp hmem
    exact not_digit_of_ascii (by decide) (by decide) hd
  obtain ⟨b', rfl, hb⟩ := Masks.kept (w := [d]) hkeep hmissed
  exact ⟨a', b', _, rfl, .keep (hmissed [] [d] rfl (List.cons_ne_nil d [])) hb⟩

variable {t : List Char}

theorem text_before
    (h : c.PassOf .ssn none (t.map .keep) s₁) (hs₁ : s₁ = a ++ (m.map .keep ++ .keep d :: b)) :
    ∃ a₀ b₀ prev, t.map .keep = a₀ ++ (m.map .keep ++ .keep d :: b₀) ∧
      c.Misses .ssn (last none (shown Kind.mask a₀)) (m ++ [d]) b₀ ∧
      c.PassOf .ssn prev (.keep d :: b₀) (.keep d :: b) := by
  subst hs₁
  obtain ⟨a₀, x, hx, -, -, hrest⟩ := h.of_append
  obtain ⟨y, rfl, hmissed, hkeep⟩ := hrest.of_keeps
  obtain ⟨b₀, rfl, hnone, hb⟩ := hkeep.of_keep
  refine ⟨a₀, b₀, _, hx, ?_, hkeep⟩
  exact Missed.append hmissed (Missed.single hnone)

theorem text_after {pre rest : List Char}
    (h : c.PassOf .ssn none (t.map .keep) s₁) (ht : t = pre ++ ('$' :: m ++ d :: rest))
    (hmiss : c.Misses .ssn (last none pre) ('$' :: m ++ [d]) (rest.map .keep)) :
    ∃ a b prev, s₁ = a ++ (('$' :: m).map .keep ++ .keep d :: b) ∧
      c.PassOf .ssn prev (.keep d :: rest.map .keep) (.keep d :: b) := by
  have hkeeps : t.map (Seg.keep (κ := Kind)) =
      pre.map .keep ++ (('$' :: m ++ [d]).map .keep ++ rest.map .keep) := by
    rw [ht]
    simp
  rw [hkeeps] at h
  obtain ⟨a, x, rfl, -, hrest⟩ := h.append (by
    intro e t ht prev t' m' hm' hmem
    obtain ⟨hkeep, -⟩ := List.cons.inj ht
    obtain rfl := Seg.keep.inj hkeep
    obtain ⟨u, -, hmatch⟩ := find_some hm'
    exact (over_pattern (by decide) c.outside_dollar).matches hmatch _
      (List.mem_of_mem_tail hmem) rfl)
  rw [shown_keeps] at hrest
  obtain ⟨b, rfl, hb⟩ := hrest.kept hmiss
  refine ⟨a, b, last (last none pre) ('$' :: m), by simp, .keep ?_ (by simpa using hb)⟩
  exact hmiss ('$' :: m) [d] rfl (List.cons_ne_nil d [])

theorem not_cardAt_of_kept (hk : k ≠ .amount) {b' : List (Seg Char Kind)}
    (hprev : NoWord c.word prev) (h : c.PassOf k prev (.keep d :: b) (.keep d :: b')) :
    ¬ c.CardAt k (.keep d :: b) := by
  intro hcard
  obtain ⟨w, hfind, haccept⟩ := (cardAt_iff prev hk hprev).mpr hcard
  obtain ⟨s₀, hs₀, hmiss, -⟩ := h.of_keep
  obtain ⟨-, rfl⟩ := List.cons.inj hs₀
  rw [hmiss w hfind] at haccept
  cases haccept

/-- An amount is masked before a digit just when it is cut short and the rest is not masked. -/
theorem cut_iff {s₃ s₄ s₅ : List (Seg Char Kind)} (h : c.Passes t s₁ s₂ s₃ s₄ s₅) :
    (∃ a m d b, s₅ = a ++ .hit .amount m :: .keep d :: b ∧ c.isDigit d = true) ↔
      ∃ pre m d rest, t = pre ++ (m ++ d :: rest) ∧
        c.find .amount (last none pre) (m ++ d :: rest) = some m ∧ c.isDigit d = true ∧
          ¬ c.Covered pre m d rest := by
  have hopen : NoWord c.word (some '>') := by
    show c.word '>' = false
    rw [c.ascii_word '>' (by decide)]
    decide
  constructor
  · rintro ⟨a, m, d, b, hs₅, hd⟩
    obtain ⟨a₄, b₄, hs₄, -⟩ := cut_before (by decide) h.iban hs₅
    obtain ⟨a₃, b₃, hs₃, hp₄⟩ := cut_before (by decide) h.cc_contiguous hs₄
    obtain ⟨a₂, b₂, hs₂, hp₃⟩ := cut_before (by decide) h.cc_grouped hs₃
    have hfresh : ∀ w, .hit .amount w ∉ s₁ := by
      intro w hmem
      rcases h.ssn.of_mem hmem with hmem | ⟨hkind, -⟩
      · obtain ⟨e, -, he⟩ := List.mem_map.mp hmem
        cases he
      · cases hkind
    obtain ⟨a₁, b₁, p₂, hs₁, hfind, hp₂⟩ := amount_before h.amount hs₂ hfresh
    obtain ⟨a₀, b₀, p₁, ht, hmissed, hp₁⟩ := text_before h.ssn hs₁
    have htext : t = shown Kind.mask a₀ ++ (m ++ d :: shown Kind.mask b₀) := by
      rw [← shown_keeps (κ := Kind) Kind.mask t, ht]
      simp
    refine ⟨_, m, d, _, htext, (c.peeks_amount).find hd hfind _ _, hd, ?_⟩
    rintro (⟨u, v, rfl, hsome⟩ | ⟨k, hk, hcard⟩)
    · obtain ⟨w, hw⟩ := Option.isSome_iff_exists.mp hsome
      have hfalse := hmissed u (v ++ [d]) (List.append_assoc u v [d]) (by simp) w
        (by rw [← last_append, List.append_assoc]; exact hw)
      cases hfalse
    · have hat : c.CardAt k (.keep d :: b₀) :=
        (cardAt_iff none (by rintro rfl; simp at hk) rfl).mp hcard
      rcases List.mem_pair.mp hk with rfl | rfl
      · have hat₂ := cardAt_after_amount (by decide) hp₂ (cardAt_after_ssn (Or.inl rfl) hp₁ hat)
        exact not_cardAt_of_kept (by decide) hopen hp₃ hat₂
      · have hat₂ := cardAt_after_amount (by decide) hp₂ (cardAt_after_ssn (Or.inr rfl) hp₁ hat)
        exact not_cardAt_of_kept (by decide) hopen hp₄ (cardAt_after_grouped hp₃ hat₂)
  · rintro ⟨pre, m, d, rest, rfl, hfind, hd, hcovered⟩
    obtain ⟨m', -, rfl, -, -⟩ := amount_parts hfind
    have hmiss : c.Misses .ssn (last none pre) ('$' :: m' ++ [d]) (rest.map .keep) := by
      intro u v huv hv w hw
      obtain ⟨v, e, rfl⟩ := (List.eq_nil_or_concat v).resolve_left hv
      rw [List.concat_eq_append, ← List.append_assoc] at huv
      obtain ⟨hm, hde⟩ := List.append_inj' huv rfl
      obtain rfl := List.cons.inj hde |>.1
      refine absurd (Or.inl ⟨u, v, hm, ?_⟩) hcovered
      rw [shown_keeps, List.concat_eq_append, List.append_assoc, ← last_append] at hw
      rw [show v ++ d :: rest = v ++ ([d] ++ rest) from rfl, hw]
      rfl
    obtain ⟨a₁, b₁, p₁, hs₁, hp₁⟩ := text_after h.ssn rfl hmiss
    have hfind₁ := (c.peeks_amount).find hd hfind (last none (shown Kind.mask a₁))
      (shown Kind.mask b₁)
    obtain ⟨a₂, b₂, p₂, hs₂, hp₂⟩ := amount_after h.amount hs₁ hfind₁ hd
    have hback : ∀ k ∈ [Kind.cc_grouped, .cc_contiguous], ¬ c.CardAt k (.keep d :: b₂) := by
      intro k hk hcard
      have hne : k ≠ .amount := by
        rintro rfl
        simp at hk
      have hat := (cardAt_iff none hne rfl).mpr
        (cardAt_before hne hp₁ (cardAt_before hne hp₂ hcard))
      rw [shown_keep, shown_keeps] at hat
      exact hcovered (Or.inr ⟨k, hk, hat⟩)
    obtain ⟨a₃, b₃, hs₃, hp₃⟩ := cut_after h.cc_grouped hs₂ fun w hw => by
      by_contra haccept
      refine hback .cc_grouped (by simp) ((cardAt_iff _ (by decide) hopen).mp ⟨w, hw, ?_⟩)
      simpa using haccept
    obtain ⟨a₄, b₄, hs₄, -⟩ := cut_after h.cc_contiguous hs₃ fun w hw => by
      by_contra haccept
      refine hback .cc_contiguous (by simp) (cardAt_before (by decide) hp₃
        ((cardAt_iff _ (by decide) hopen).mp ⟨w, hw, ?_⟩))
      simpa using haccept
    obtain ⟨a₅, b₅, hs₅, -⟩ := cut_after h.iban hs₄ fun w hw => by
      rw [find_iban_eq_none hd] at hw
      cases hw
    exact ⟨a₅, _, d, b₅, hs₅, hd⟩

/-! ## What is left -/

variable {w : List Char}

theorem stands_before {j : Kind} (hj : j ≠ .amount) {s' : List (Seg Char Kind)}
    (h : c.PassOf j none s s') (hs : Stands Kind.mask c.word s' a w b) :
    ∃ a₀ b₀, Stands Kind.mask c.word s a₀ w b₀ ∧ a₀.getLast? = a.getLast? ∧
      c.Misses j (last none (shown Kind.mask a₀)) w b₀ :=
  h.stands mask_opens (fun _ _ _ => find_head) hs (Or.inl fun _ _ _ => find_tail hj)

theorem not_misses_of_stands (hk : k ≠ .amount)
    (hs : Stands Kind.mask c.word s a w b) (hm : (c.pattern k).Matches c.word none w [])
    (haccept : c.accepts k w = true) : ¬ c.Misses k (last none (shown Kind.mask a)) w b := by
  intro hmiss
  obtain ⟨w', hfind, haccept'⟩ := find_of_leads hk hs.left hm haccept ⟨b, rfl, hs.right⟩
  rw [shown_append, shown_keeps] at hfind
  have hne := Regex.ne_nil_of_matches (c.reads_pattern k) hm
  rw [hmiss [] w rfl hne w' hfind] at haccept'
  cases haccept'

theorem pieces_of_find {pre : List Char}
    (htext : shown Kind.mask s = pre ++ t) (hfind : c.find k (last none pre) t = some w) :
    ∃ a b, s = a ++ (w.map .keep ++ b) ∧ shown Kind.mask a = pre ∧ w ++ shown Kind.mask b = t := by
  obtain ⟨u, rfl, hm⟩ := find_some hfind
  have havoid := (c.apart k).avoids hfind
  obtain ⟨d, v, rfl⟩ := List.exists_cons_of_ne_nil (Regex.ne_nil_of_matches (c.reads_pattern k) hm)
  have hopens : c.Opens d := find_opens hfind
  obtain ⟨a, y, rfl, rfl, hy⟩ := keep_of_shown Kind.mask
    (fun j hmem => not_opens_of_mask (mem_maskLetters j d hmem) hopens) htext
  obtain ⟨b, rfl, rfl⟩ := keeps_of_shown mask_opens hy fun hmem =>
    havoid (List.mem_cons_of_mem d hmem)
  exact ⟨a, b, rfl, rfl, rfl⟩

theorem stands_of_find (hk : k ≠ .amount) {pre : List Char}
    (htext : shown Kind.mask s = pre ++ t) (hfind : c.find k (last none pre) t = some w) :
    ∃ a b, Stands Kind.mask c.word s a w b ∧ (c.pattern k).Matches c.word none w [] := by
  obtain ⟨a, b, rfl, rfl, rfl⟩ := pieces_of_find htext hfind
  obtain ⟨u, hu, hm⟩ := find_some hfind
  obtain rfl := List.append_cancel_left hu
  obtain ⟨hcore, hleft, hright⟩ := (matches_iff hk).mp hm
  obtain ⟨hbegins, hends⟩ := ends_of_matches hk hm
  exact ⟨a, b, ⟨rfl, hbegins, hends, hleft, hright⟩, hcore⟩

theorem keeps_before {j : Kind}
    (h : c.PassOf j none s (a ++ (w.map .keep ++ b))) : ∃ a₀ b₀, s = a₀ ++ (w.map .keep ++ b₀) ∧
      c.Misses j (last none (shown Kind.mask a₀)) w b₀ := by
  obtain ⟨a₀, y, rfl, -, -, hrest⟩ := h.of_append
  obtain ⟨b₀, rfl, hmiss, -⟩ := hrest.of_keeps
  exact ⟨a₀, b₀, rfl, hmiss⟩

section finished

variable {t : List Char} {s₁ s₂ s₃ s₄ s₅ : List (Seg Char Kind)} (h : c.Passes t s₁ s₂ s₃ s₄ s₅)
include h

theorem no_amount_left {pre u w : List Char} (htext : shown Kind.mask s₅ = pre ++ u)
    (hfind : c.find .amount (last none pre) u = some w) : False := by
  obtain ⟨d, w', hd, hw⟩ := amount_begins hfind
  obtain ⟨a₅, b₅, rfl, -, -⟩ := pieces_of_find htext hfind
  obtain ⟨a₄, b₄, rfl, -⟩ := keeps_before h.iban
  obtain ⟨a₃, b₃, rfl, -⟩ := keeps_before h.cc_contiguous
  obtain ⟨a₂, b₂, rfl, -⟩ := keeps_before h.cc_grouped
  obtain ⟨a₁, b₁, rfl, hmiss⟩ := keeps_before h.amount
  subst hw
  obtain ⟨x, hx⟩ : ∃ x, c.find .amount (last none (shown Kind.mask a₁))
      ('$' :: d :: (w' ++ shown Kind.mask b₁)) = some x := amount_found hd
  have hfalse := hmiss [] _ rfl (List.cons_ne_nil _ _) x hx
  cases hfalse

theorem without_of_passes
    (hcut : ∀ a m d b, s₅ = a ++ .hit .amount m :: .keep d :: b → c.isDigit d = false) (k : Kind)
    {pre u w : List Char} (htext : shown Kind.mask s₅ = pre ++ u)
    (hfind : c.find k (last none pre) u = some w) : c.accepts k w = false := by
  by_contra hne
  have haccept : c.accepts k w = true := by simpa using hne
  by_cases hk : k = .amount
  · subst hk
    exact no_amount_left h htext hfind
  · obtain ⟨a₅, b₅, hst₅, hm⟩ := stands_of_find hk htext hfind
    obtain ⟨a₄, b₄, hst₄, hlast₄, hmiss₄⟩ := stands_before (by decide) h.iban hst₅
    obtain ⟨a₃, b₃, hst₃, hlast₃, hmiss₃⟩ := stands_before (by decide) h.cc_contiguous hst₄
    obtain ⟨a₂, b₂, hst₂, hlast₂, hmiss₂⟩ := stands_before (by decide) h.cc_grouped hst₃
    cases k with
    | amount => exact hk rfl
    | iban => exact not_misses_of_stands hk hst₄ hm haccept hmiss₄
    | cc_contiguous => exact not_misses_of_stands hk hst₃ hm haccept hmiss₃
    | cc_grouped => exact not_misses_of_stands hk hst₂ hm haccept hmiss₂
    | ssn =>
      -- the one boundary that is new stands after a masked amount
      have hleft : ∀ p m', a₂ ≠ p ++ [.hit .amount m'] := by
        rintro p m' rfl
        rw [List.getLast?_concat, hlast₃, hlast₄] at hlast₂
        obtain ⟨q, rfl⟩ := List.getLast?_eq_some_iff.mp hlast₂.symm
        obtain ⟨d, w', rfl⟩ := List.exists_cons_of_ne_nil
          (Regex.ne_nil_of_matches (c.reads_pattern _) hm)
        have hd : c.isDigit d = true := by
          have hbegins : (c.pattern .ssn).Begins fun d => c.isDigit d = true := by
            simp [pattern, SSN_RE, Regex.bounded, Regex.Begins, Regex.nullable, digits, one_digit]
          exact hbegins.matches hm d rfl
        have hs₅ := hst₅.place
        rw [List.append_assoc] at hs₅
        rw [hcut q m' d _ hs₅] at hd
        cases hd
      obtain ⟨a₁, b₁, hst₁, -, -⟩ := h.amount.stands mask_opens (fun _ _ _ => find_head) hst₂
        (Or.inr hleft)
      obtain ⟨a₀, b₀, hst₀, -, hmiss₀⟩ := stands_before (by decide) h.ssn hst₁
      exact not_misses_of_stands hk hst₀ hm haccept hmiss₀

end finished

/-! ## The redaction -/

theorem rejectsWhole (c : Chars) (k : Kind) : RejectsWhole (c.find k) (c.accepts k) := by
  intro prev m t hfind hreject u v huv hu hv m' hm'
  cases k with
  | cc_contiguous =>
    -- inside a run of digits there is no boundary
    exfalso
    obtain ⟨x, hx, hmatch⟩ := find_some hm'
    obtain ⟨y, hy, hwhole⟩ := find_some hfind
    have hleft := ((matches_iff (by decide)).mp hmatch).2.1
    have hdigits := (contiguous_iff.mp ((matches_iff (by decide)).mp hwhole).1).2.2
    obtain ⟨w, d, rfl⟩ := (List.eq_nil_or_concat u).resolve_left hu
    rw [List.concat_eq_append, last_append] at hleft
    have hd : c.word d = false := hleft
    rw [isDigit_word (hdigits d (by rw [huv]; simp))] at hd
    cases hd
  | _ => cases hreject

theorem passOf_mask_all (c : Chars) (k : Kind) (s : List (Seg Char Kind)) :
    c.PassOf k none s (c.mask_all k s) := masks_pass (c.apart k) (c.rejectsWhole k) none s

theorem shown_mask_all (c : Chars) (k : Kind) (s : List (Seg Char Kind)) :
    shown Kind.mask (c.mask_all k s) = c.sub_all k (shown Kind.mask s) :=
  shown_pass (c.apart k) none s

theorem passes_pieces (c : Chars) (body : String) :
    ∃ s₁ s₂ s₃ s₄, c.Passes body.toList s₁ s₂ s₃ s₄ (c.pieces body) :=
  ⟨_, _, _, _, c.passOf_mask_all .ssn _, c.passOf_mask_all .amount _,
    c.passOf_mask_all .cc_grouped _, c.passOf_mask_all .cc_contiguous _, c.passOf_mask_all .iban _⟩

theorem toList_redact (c : Chars) (body : String) :
    (c.redact_for_azure_di body).toList = c.sub_all .iban (c.sub_all .cc_contiguous
      (c.sub_all .cc_grouped (c.sub_all .amount (c.sub_all .ssn body.toList)))) := by
  unfold redact_for_azure_di
  split
  · rename_i hbody
    subst hbody
    rfl
  · exact String.toList_ofList

theorem shown_pieces (c : Chars) (body : String) :
    shown Kind.mask (c.pieces body) = (c.redact_for_azure_di body).toList := by
  rw [toList_redact, pieces]
  simp only [shown_mask_all, shown_keeps]

theorem given_pieces (c : Chars) (body : String) : masking.given (c.pieces body) = body.toList := by
  obtain ⟨s₁, s₂, s₃, s₄, h⟩ := c.passes_pieces body
  rw [h.iban.given_eq, h.cc_contiguous.given_eq, h.cc_grouped.given_eq, h.amount.given_eq,
    h.ssn.given_eq, given_keeps]

theorem matches_of_find {prev : Option Char} {u : List Char}
    (h : c.find k prev (m ++ u) = some m) : (c.pattern k).Matches c.word prev m u := by
  obtain ⟨v, htext, hm⟩ := find_some h
  obtain rfl := List.append_cancel_left htext
  exact hm

theorem matched_pieces (c : Chars) (body : String) (k : Kind) (m : List Char)
    (hmem : .hit k m ∈ c.pieces body) :
    c.accepts k m = true ∧ ∃ prev u, (c.pattern k).Matches c.word prev m u := by
  obtain ⟨s₁, s₂, s₃, s₄, h⟩ := c.passes_pieces body
  have hmade : ∀ {j x y}, c.PassOf j none x y → .hit k m ∈ y → .hit k m ∉ x →
      c.accepts k m = true ∧ ∃ prev u, (c.pattern k).Matches c.word prev m u := by
    intro j x y hpass hy hx
    obtain ⟨rfl, haccept, prev, u, hfind⟩ := (hpass.of_mem hy).resolve_left hx
    exact ⟨haccept, prev, u, matches_of_find hfind⟩
  by_cases h₄ : .hit k m ∈ s₄
  · by_cases h₃ : .hit k m ∈ s₃
    · by_cases h₂ : .hit k m ∈ s₂
      · by_cases h₁ : .hit k m ∈ s₁
        · refine hmade h.ssn h₁ fun hkeep => ?_
          obtain ⟨d, -, hd⟩ := List.mem_map.mp hkeep
          cases hd
        · exact hmade h.amount h₂ h₁
      · exact hmade h.cc_grouped h₃ h₂
    · exact hmade h.cc_contiguous h₄ h₃
  · exact hmade h.iban hmem h₄

theorem sub_all_eq_self {text : String} (h : c.Without k text) :
    c.sub_all k text.toList = text.toList := by
  refine sub_eq_self (fun prev t m hm => ((c.apart k).stands hm).2) fun u v huv m hm => ?_
  rw [replacement, h u v huv m hm]
  rfl

/-- Nothing is left to redact exactly when no amount is cut short. -/
theorem nothing_is_left_exactly_when_amounts_end (c : Chars) (body : String) :
    c.Redacts body ↔ c.AmountsEnd body := by
  obtain ⟨s₁, s₂, s₃, s₄, h⟩ := c.passes_pieces body
  have hcut := cut_iff h
  constructor
  · intro hredacts pre m d rest hshort
    by_contra hcovered
    obtain ⟨a, m', d', b, hpieces, hd⟩ :=
      hcut.mpr ⟨pre, m, d, rest, hshort.place, hshort.found, hshort.goes_on, hcovered⟩
    rw [hredacts.no_digit_of_an_amount a m' d' b hpieces] at hd
    cases hd
  · intro hends
    have hno : ∀ a m d b, c.pieces body = a ++ .hit .amount m :: .keep d :: b →
        c.isDigit d = false := by
      intro a m d b hpieces
      by_contra hd
      obtain ⟨pre, m', d', rest, hplace, hfound, hdigit, hcovered⟩ :=
        hcut.mp ⟨a, m, d, b, hpieces, by simpa using hd⟩
      exact hcovered (hends pre m' d' rest ⟨hplace, hfound, hdigit⟩)
    have hwithout : ∀ k, c.Without k (c.redact_for_azure_di body) := by
      intro k pre t htext m hm
      rw [← shown_pieces] at htext
      exact without_of_passes h hno k htext hm
    refine ⟨hwithout, hno, ?_, c.given_pieces body, c.shown_pieces body, c.matched_pieces body⟩
    rw [← String.toList_inj, toList_redact]
    simp only [sub_all_eq_self (hwithout _)]

/-- Masking three digits of six leaves a social security number, which a second application
masks. -/
theorem a_cut_amount_uncovers_a_number : ¬ ascii.Redacts "$123123-45-6789" := by
  intro h
  have hagain : ascii.redact_for_azure_di (ascii.redact_for_azure_di "$123123-45-6789") ≠
      ascii.redact_for_azure_di "$123123-45-6789" := by decide +kernel
  exact hagain h.idempotent

end Chars

end asoe.redaction
