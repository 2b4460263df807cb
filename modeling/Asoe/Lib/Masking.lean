-- A text rewritten by several passes, each of which masks the matches of one
-- pattern. What a pass makes of a text is followed piece by piece: a character
-- that was kept, or a match with what it was.
import Asoe.Lib.Regex

open regex

namespace masking

variable {α κ : Type*}

/-! ## Pieces -/

/-- A piece of a text: a character, or a mask over what stood there. -/
inductive Seg (α κ : Type*) where
  | keep (c : α)
  | hit (k : κ) (original : List α)

section pieces

variable (mask : κ → List α)

def Seg.shown : Seg α κ → List α
  | keep c => [c]
  | hit k _ => mask k

def Seg.given : Seg α κ → List α
  | keep c => [c]
  | hit _ m => m

/-- The text as it stands. -/
def shown (s : List (Seg α κ)) : List α := s.flatMap (Seg.shown mask)

/-- The text as it was. -/
def given (s : List (Seg α κ)) : List α := s.flatMap Seg.given

@[simp]
theorem shown_nil : shown mask ([] : List (Seg α κ)) = [] := rfl

@[simp]
theorem shown_keep (c : α) (s : List (Seg α κ)) :
    shown mask (.keep c :: s) = c :: shown mask s := rfl

@[simp]
theorem shown_hit (k : κ) (m : List α) (s : List (Seg α κ)) :
    shown mask (.hit k m :: s) = mask k ++ shown mask s := rfl

@[simp]
theorem shown_append (a b : List (Seg α κ)) : shown mask (a ++ b) = shown mask a ++ shown mask b :=
  List.flatMap_append

@[simp]
theorem shown_keeps (m : List α) : shown mask (m.map (Seg.keep (κ := κ))) = m := by
  induction m with
  | nil => rfl
  | cons c m ih => rw [List.map_cons, shown_keep, ih]

@[simp]
theorem given_append (a b : List (Seg α κ)) : given (a ++ b) = given a ++ given b :=
  List.flatMap_append

@[simp]
theorem given_keeps (m : List α) : given (m.map (Seg.keep (κ := κ))) = m := by
  induction m with
  | nil => rfl
  | cons c m ih => exact congrArg (c :: ·) ih

end pieces

/-! ## One pass -/

section pass

variable (mask : κ → List α) (find : Finder α) (accept : List α → Bool) (k : κ)

/-- What a match is replaced by: a mask, or itself when it is not accepted. -/
def replacement (m : List α) : List α := if accept m then mask k else m

/-- The pass over the pieces of a text. -/
def pass : ℕ → Option α → List (Seg α κ) → List (Seg α κ)
  | _, _, [] => []
  | _, prev, .hit j m :: s => .hit j m :: pass 0 (last prev (mask j)) s
  | skip + 1, _, .keep c :: s => pass skip (some c) s
  | 0, prev, .keep c :: s =>
    match find prev (c :: shown mask s) with
    | some (d :: m) =>
      (if accept (d :: m) then [.hit k (d :: m)] else (d :: m).map .keep) ++
        pass m.length (some c) s
    | _ => .keep c :: pass 0 (some c) s

/-- What a pass makes of the pieces of a text: old masks stay, a character is kept where no
accepted match is found, and an accepted match that is found is masked. -/
inductive Masks : Option α → List (Seg α κ) → List (Seg α κ) → Prop
  | nil {prev} : Masks prev [] []
  | past {prev j m s s'} (rest : Masks (last prev (mask j)) s s') :
    Masks prev (.hit j m :: s) (.hit j m :: s')
  | keep {prev c s s'} (misses : ∀ m, find prev (c :: shown mask s) = some m → accept m = false)
    (rest : Masks (some c) s s') : Masks prev (.keep c :: s) (.keep c :: s')
  | mask {prev m s s'} (reads : m ≠ []) (finds : find prev (m ++ shown mask s) = some m)
    (accepts : accept m = true) (rest : Masks (last prev m) s s') :
    Masks prev (m.map .keep ++ s) (.hit k m :: s')

/-- A character of no mask is a kept one. -/
theorem keep_of_shown {c : α} (hc : ∀ j, c ∉ mask j) {u v : List α} {s : List (Seg α κ)}
    (h : shown mask s = u ++ c :: v) :
    ∃ a b, s = a ++ .keep c :: b ∧ shown mask a = u ∧ shown mask b = v := by
  induction s generalizing u with
  | nil => exact absurd h.symm (List.append_ne_nil_of_right_ne_nil u (List.cons_ne_nil c v))
  | cons x s ih =>
    have hcons : x.shown mask ++ shown mask s = u ++ c :: v := h
    rcases List.append_eq_append_iff.mp hcons with ⟨w, rfl, hw⟩ | ⟨w, hx, hw⟩
    · obtain ⟨a, b, rfl, rfl, rfl⟩ := ih hw
      exact ⟨x :: a, b, rfl, rfl, rfl⟩
    · cases w with
      | nil =>
        obtain ⟨a, b, rfl, ha, rfl⟩ := ih (u := []) hw.symm
        refine ⟨x :: a, b, rfl, ?_, rfl⟩
        have hnil : x.shown mask ++ shown mask a = u := by
          rw [ha, hx, List.append_nil, List.append_nil]
        exact hnil
      | cons d w =>
        obtain ⟨rfl, rfl⟩ := List.cons.inj hw
        cases x with
        | hit j m => exact absurd (by rw [show mask j = u ++ c :: w from hx]; simp) (hc j)
        | keep e =>
          cases u with
          | nil =>
            obtain ⟨rfl, rfl⟩ := List.cons.inj hx
            exact ⟨[], s, rfl, rfl, rfl⟩
          | cons f u =>
            have hnil := (List.cons.inj hx).2
            exact absurd hnil.symm (List.append_ne_nil_of_right_ne_nil u (List.cons_ne_nil c w))

/-- Every mask begins with a character that no match holds, no match begins in a mask, and a
match is what stands there. -/
structure Apart (o : α) : Prop where
  opens : ∀ j, ∃ w, mask j = o :: w
  avoids : ∀ {prev t m}, find prev t = some m → o ∉ m
  starts : ∀ j, ∀ c ∈ mask j, ∀ prev t, find prev (c :: t) = none
  stands : ∀ {prev t m}, find prev t = some m → m ≠ [] ∧ m <+: t

variable {mask find accept k} {o : α}

/-- A text without the first character of the masks is made of kept characters. -/
theorem keeps_of_shown (hopens : ∀ j, ∃ w, mask j = o :: w) {w u : List α} {s : List (Seg α κ)}
    (h : shown mask s = w ++ u) (ho : o ∉ w) : ∃ s', s = w.map .keep ++ s' ∧ shown mask s' = u := by
  induction w generalizing s with
  | nil => exact ⟨s, rfl, h⟩
  | cons c w ih =>
    cases s with
    | nil => cases h
    | cons x s =>
      cases x with
      | keep d =>
        obtain ⟨rfl, htext⟩ := List.cons.inj h
        obtain ⟨s', rfl, hs'⟩ := ih htext fun hmem => ho (List.mem_cons_of_mem d hmem)
        exact ⟨s', rfl, hs'⟩
      | hit j m =>
        obtain ⟨v, hv⟩ := hopens j
        rw [shown_hit, hv] at h
        obtain ⟨rfl, -⟩ := List.cons.inj h
        exact absurd List.mem_cons_self ho

variable {prev : Option α} {s : List (Seg α κ)}

theorem Apart.keeps (h : Apart mask find o) {c d : α} {m : List α}
    (hfind : find prev (c :: shown mask s) = some (d :: m)) :
    d = c ∧ ∃ s', s = m.map .keep ++ s' := by
  obtain ⟨-, u, hu⟩ := h.stands hfind
  obtain ⟨rfl, htext⟩ := List.cons.inj hu
  obtain ⟨s', hs, -⟩ := keeps_of_shown h.opens htext.symm
    fun hmem => h.avoids hfind (List.mem_cons_of_mem d hmem)
  exact ⟨rfl, s', hs⟩

theorem pass_skip (prev : Option α) (m : List α) (s : List (Seg α κ)) :
    pass mask find accept k m.length prev (m.map .keep ++ s) =
      pass mask find accept k 0 (last prev m) s := by
  induction m generalizing prev with
  | nil => rfl
  | cons c m ih => rw [List.map_cons, List.cons_append, List.length_cons, pass, ih, last_cons]

/-- The pass rewrites the text as the substitution does. -/
theorem shown_pass (h : Apart mask find o) (prev : Option α) (s : List (Seg α κ)) :
    shown mask (pass mask find accept k 0 prev s) =
      sub find (replacement mask accept k) 0 prev (shown mask s) := by
  suffices hskip : ∀ (s : List (Seg α κ)) (w : List α) (s' : List (Seg α κ)) (prev : Option α),
      s = w.map .keep ++ s' → shown mask (pass mask find accept k w.length prev s) =
        sub find (replacement mask accept k) w.length prev (shown mask s) from hskip s [] s prev rfl
  clear prev s
  intro s
  induction s with
  | nil =>
    intro w s' prev _
    rw [pass, shown_nil, sub]
  | cons x s ih =>
    intro w s' prev hs
    cases x with
    | hit j m =>
      cases w with
      | cons c w => cases hs
      | nil =>
        rw [List.length_nil, pass, shown_hit, shown_hit,
          sub_append_of_no_match _ fun c hc => h.starts j c hc]
        exact congrArg (mask j ++ ·) (ih [] s _ rfl)
    | keep c =>
      cases w with
      | cons d w =>
        obtain ⟨-, hs⟩ := List.cons.inj hs
        rw [List.length_cons, pass, shown_keep, sub]
        exact ih w s' _ hs
      | nil =>
        rw [List.length_nil, pass, shown_keep, sub]
        rcases hfind : find prev (c :: shown mask s) with _ | _ | ⟨d, m⟩
        · exact congrArg (c :: ·) (ih [] s _ rfl)
        · exact congrArg (c :: ·) (ih [] s _ rfl)
        · obtain ⟨rfl, s'', hs''⟩ := h.keeps hfind
          dsimp only
          rw [shown_append, ih m s'' _ hs'', replacement]
          split
          · simp
          · rw [shown_keeps]

/-- No accepted match is found in the part of a text. -/
def Missed (mask : κ → List α) (find : Finder α) (accept : List α → Bool) (prev : Option α)
    (w : List α) (s : List (Seg α κ)) : Prop :=
  ∀ u v, w = u ++ v → v ≠ [] →
    ∀ m, find (last prev u) (v ++ shown mask s) = some m → accept m = false

theorem Missed.tail {c : α} {w : List α}
    (h : Missed mask find accept prev (c :: w) s) : Missed mask find accept (some c) w s := by
  intro u v huv hv
  have htail := h (c :: u) v (by rw [huv]; rfl) hv
  rwa [last_cons] at htail

theorem Missed.nil (prev : Option α) (s : List (Seg α κ)) : Missed mask find accept prev [] s :=
  fun _ _ huv hv => absurd (List.append_eq_nil_iff.mp huv.symm).2 hv

theorem Missed.single {c : α} (h : ∀ m, find prev (c :: shown mask s) = some m → accept m = false) :
    Missed mask find accept prev [c] s := by
  intro u v huv hv m hm
  rcases List.append_eq_singleton_iff.mp huv.symm with ⟨rfl, rfl⟩ | ⟨rfl, rfl⟩
  · exact h m hm
  · exact absurd rfl hv

theorem Missed.append {w w' : List α} (h : Missed mask find accept prev w (w'.map .keep ++ s))
    (h' : Missed mask find accept (last prev w) w' s) :
    Missed mask find accept prev (w ++ w') s := by
  intro u v huv hv m hm
  rcases List.append_eq_append_iff.mp huv with ⟨x, rfl, rfl⟩ | ⟨x, rfl, rfl⟩
  · rw [last_append] at hm
    exact h' x v rfl hv m hm
  · cases x with
    | nil =>
      rw [List.append_nil] at h'
      exact h' [] w' rfl hv m hm
    | cons e x =>
      refine h u (e :: x) rfl (List.cons_ne_nil e x) m ?_
      rwa [shown_append, shown_keeps, ← List.append_assoc]

theorem Masks.keeps {prev : Option α} {w : List α} {s s' : List (Seg α κ)}
    (hmissed : Missed mask find accept prev w s)
    (rest : Masks mask find accept k (last prev w) s s') :
    Masks mask find accept k prev (w.map .keep ++ s) (w.map .keep ++ s') := by
  induction w generalizing prev with
  | nil => exact rest
  | cons c w ih =>
    rw [last_cons] at rest
    have hshown : shown mask (w.map .keep ++ s) = w ++ shown mask s := by
      rw [shown_append, shown_keeps]
    refine .keep (fun m hm => hmissed [] (c :: w) rfl (List.cons_ne_nil c w) m ?_)
      (ih hmissed.tail rest)
    rw [List.cons_append, ← hshown]
    exact hm

/-- A match that is not accepted holds no accepted match. -/
def RejectsWhole (find : Finder α) (accept : List α → Bool) : Prop :=
  ∀ prev m t, find prev (m ++ t) = some m → accept m = false →
    ∀ u v, m = u ++ v → u ≠ [] → v ≠ [] →
      ∀ m', find (last prev u) (v ++ t) = some m' → accept m' = false

theorem masks_pass (h : Apart mask find o) (hreject : RejectsWhole find accept) (prev : Option α)
    (s : List (Seg α κ)) :
    Masks mask find accept k prev s (pass mask find accept k 0 prev s) := by
  induction hn : s.length using Nat.strongRecOn generalizing prev s with
  | ind n ih =>
    subst hn
    cases s with
    | nil => exact .nil
    | cons x s =>
      cases x with
      | hit j m =>
        rw [pass]
        exact .past (ih s.length (by simp) _ s rfl)
      | keep c =>
        rw [pass]
        rcases hfind : find prev (c :: shown mask s) with _ | _ | ⟨d, m⟩
        · refine .keep (fun m hm => ?_) (ih s.length (by simp) _ s rfl)
          rw [hfind] at hm
          cases hm
        · exact absurd rfl (h.stands hfind).1
        · obtain ⟨rfl, s', rfl⟩ := h.keeps hfind
          have hless : s'.length < (Seg.keep d :: (m.map Seg.keep ++ s')).length := by
            rw [List.length_cons, List.length_append]
            omega
          have hrest := ih s'.length hless (last (some d) m) s' rfl
          rw [shown_append, shown_keeps, ← List.cons_append] at hfind
          dsimp only
          rw [pass_skip]
          cases haccept : accept (d :: m) with
          | true =>
            exact .mask (List.cons_ne_nil d m) hfind haccept (by rwa [last_cons])
          | false =>
            refine Masks.keeps (w := d :: m) (fun u v huv hv m' hm' => ?_) (by rwa [last_cons])
            cases u with
            | nil =>
              rw [last_nil, ← List.nil_append v, ← huv, hfind] at hm'
              obtain rfl := Option.some.inj hm'
              exact haccept
            | cons e u =>
              exact hreject prev _ _ hfind haccept _ v huv (List.cons_ne_nil e u) hv m' hm'

/-! ## What a pass did -/

theorem Masks.given_eq {prev : Option α} {s s' : List (Seg α κ)}
    (h : Masks mask find accept k prev s s') : given s' = given s := by
  induction h with
  | nil => rfl
  | @past _ _ m _ _ _ ih => exact congrArg (m ++ ·) ih
  | @keep _ c _ _ _ _ ih => exact congrArg (c :: ·) ih
  | @mask _ m _ _ _ _ _ _ ih => rw [given_append, given_keeps, ← ih]; rfl

theorem Masks.of_keep {prev : Option α} {c : α} {s s' : List (Seg α κ)}
    (h : Masks mask find accept k prev s (.keep c :: s')) : ∃ s₀, s = .keep c :: s₀ ∧
      (∀ m, find prev (c :: shown mask s₀) = some m → accept m = false) ∧
      Masks mask find accept k (some c) s₀ s' := by
  cases h with
  | keep misses rest => exact ⟨_, rfl, misses, rest⟩

theorem Masks.of_hit {prev : Option α} {j : κ} {m : List α} {s s' : List (Seg α κ)}
    (h : Masks mask find accept k prev s (.hit j m :: s')) :
    (∃ s₀, s = .hit j m :: s₀ ∧ Masks mask find accept k (last prev (mask j)) s₀ s') ∨
      j = k ∧ ∃ s₀, s = m.map .keep ++ s₀ ∧ m ≠ [] ∧ find prev (m ++ shown mask s₀) = some m ∧
        accept m = true ∧ Masks mask find accept k (last prev m) s₀ s' := by
  cases h with
  | past rest => exact Or.inl ⟨_, rfl, rest⟩
  | mask reads finds accepts rest => exact Or.inr ⟨rfl, _, rfl, reads, finds, accepts, rest⟩

theorem Masks.of_hit_ne {j : κ} {m : List α} {s' : List (Seg α κ)}
    (hj : j ≠ k) (h : Masks mask find accept k prev s (.hit j m :: s')) :
    ∃ s₀, s = .hit j m :: s₀ ∧ Masks mask find accept k (last prev (mask j)) s₀ s' :=
  h.of_hit.resolve_right fun hnew => hj hnew.1

/-- Kept characters were there, and nothing was found at any of them. -/
theorem Masks.of_keeps {prev : Option α} {w : List α} {s s' : List (Seg α κ)}
    (h : Masks mask find accept k prev s (w.map .keep ++ s')) :
    ∃ s₀, s = w.map .keep ++ s₀ ∧ Missed mask find accept prev w s₀ ∧
      Masks mask find accept k (last prev w) s₀ s' := by
  induction w generalizing prev s with
  | nil =>
    refine ⟨s, rfl, fun u v huv hv => ?_, h⟩
    exact absurd (List.append_eq_nil_iff.mp huv.symm).2 hv
  | cons c w ih =>
    obtain ⟨s₁, rfl, misses, rest⟩ := h.of_keep
    obtain ⟨s₀, rfl, hmissed, hrest⟩ := ih rest
    refine ⟨s₀, rfl, fun u v huv hv => ?_, by rwa [last_cons]⟩
    cases u with
    | nil =>
      obtain rfl : c :: w = v := huv
      rw [shown_append, shown_keeps] at misses
      exact misses
    | cons d u =>
      obtain ⟨rfl, rfl⟩ := List.cons.inj huv
      rw [last_cons]
      exact hmissed u v rfl hv

theorem Masks.hit {prev : Option α} {j : κ} {m : List α} {s s' : List (Seg α κ)}
    (h : Masks mask find accept k prev (.hit j m :: s) s') :
    ∃ t, s' = .hit j m :: t ∧ Masks mask find accept k (last prev (mask j)) s t := by
  generalize hs : Seg.hit j m :: s = s₀ at h
  cases h with
  | nil => cases hs
  | past rest =>
    obtain ⟨hhit, rfl⟩ := List.cons.inj hs
    obtain ⟨rfl, rfl⟩ := Seg.hit.inj hhit
    exact ⟨_, rfl, rest⟩
  | keep misses rest => cases hs
  | @mask _ w _ _ reads finds accepts rest =>
    cases w with
    | nil => exact absurd rfl reads
    | cons c w => cases hs

/-- A part in which nothing is found is kept by the pass. -/
theorem Masks.kept {prev : Option α} {w : List α} {s s' : List (Seg α κ)}
    (h : Masks mask find accept k prev (w.map .keep ++ s) s')
    (hmissed : Missed mask find accept prev w s) :
    ∃ t, s' = w.map .keep ++ t ∧ Masks mask find accept k (last prev w) s t := by
  induction w generalizing prev s' with
  | nil => exact ⟨s', rfl, h⟩
  | cons c w ih =>
    generalize hs : (c :: w).map Seg.keep ++ s = s₀ at h
    cases h with
    | nil => cases hs
    | past rest => cases hs
    | keep misses rest =>
      obtain ⟨hkeep, rfl⟩ := List.cons.inj hs
      obtain rfl := Seg.keep.inj hkeep
      obtain ⟨t, rfl, ht⟩ := ih rest hmissed.tail
      exact ⟨t, rfl, by rwa [last_cons]⟩
    | @mask _ m s₁ _ reads finds accepts rest =>
      have hshown := congrArg (shown mask) hs
      rw [shown_append, shown_append, shown_keeps, shown_keeps] at hshown
      rw [← hshown] at finds
      have hfalse := hmissed [] (c :: w) rfl (List.cons_ne_nil c w) m finds
      rw [hfalse] at accepts
      cases accepts

/-- An accepted match that is found where the pass arrives is masked. -/
theorem Masks.found {prev : Option α} {w : List α} {s s' : List (Seg α κ)}
    (h : Masks mask find accept k prev (w.map .keep ++ s) s') (hw : w ≠ [])
    (hfind : find prev (w ++ shown mask s) = some w) (haccept : accept w = true) :
    ∃ t, s' = .hit k w :: t ∧ Masks mask find accept k (last prev w) s t := by
  obtain ⟨d, v, rfl⟩ := List.exists_cons_of_ne_nil hw
  generalize hs : (d :: v).map Seg.keep ++ s = s₀ at h
  have hshown := congrArg (shown mask) hs
  rw [shown_append, shown_keeps] at hshown
  cases h with
  | nil => cases hs
  | past rest => cases hs
  | keep misses rest =>
    rw [shown_keep] at hshown
    rw [hshown] at hfind
    rw [misses _ hfind] at haccept
    cases haccept
  | @mask _ m s₁ _ reads finds accepts rest =>
    rw [shown_append, shown_keeps] at hshown
    rw [hshown, finds] at hfind
    obtain rfl := Option.some.inj hfind
    obtain rfl := List.append_cancel_left hs
    exact ⟨_, rfl, rest⟩

/-- A mask was there before the pass, or stands for an accepted match. -/
theorem Masks.of_mem {prev : Option α} {s s' : List (Seg α κ)} {j : κ} {m : List α}
    (h : Masks mask find accept k prev s s') (hmem : .hit j m ∈ s') :
    .hit j m ∈ s ∨ j = k ∧ accept m = true ∧ ∃ prev u, find prev (m ++ u) = some m := by
  induction h with
  | nil => cases hmem
  | past rest ih =>
    rcases List.mem_cons.mp hmem with heq | hmem
    · exact Or.inl (heq ▸ List.mem_cons_self)
    · exact (ih hmem).imp_left (List.mem_cons_of_mem _)
  | keep misses rest ih =>
    rcases List.mem_cons.mp hmem with heq | hmem
    · cases heq
    · exact (ih hmem).imp_left (List.mem_cons_of_mem _)
  | mask reads finds accepts rest ih =>
    rcases List.mem_cons.mp hmem with heq | hmem
    · obtain ⟨rfl, rfl⟩ := Seg.hit.inj heq
      exact Or.inr ⟨rfl, accepts, _, _, finds⟩
    · exact (ih hmem).imp_left (List.mem_append_right _)

/-- How the pieces before a place end, after and before the pass. -/
inductive EndsAlike (find : Finder α) (k : κ) (s : List (Seg α κ)) (next : List α) :
    List (Seg α κ) → Prop
  | start : s = [] → EndsAlike find k s next []
  | same (p q : List (Seg α κ)) (x : Seg α κ) : s = q ++ [x] → EndsAlike find k s next (p ++ [x])
  | masked (p q : List (Seg α κ)) (m : List α) (prev : Option α) : s = q ++ m.map .keep →
    find prev (m ++ next) = some m → EndsAlike find k s next (p ++ [.hit k m])

theorem EndsAlike.cons {s a : List (Seg α κ)} {next : List α} (x : Seg α κ) (u : List (Seg α κ))
    (hu : a = [] → EndsAlike find k (u ++ s) next [x]) (h : EndsAlike find k s next a) :
    EndsAlike find k (u ++ s) next (x :: a) := by
  cases h with
  | start hs => exact hu rfl
  | same p q y hs => exact .same (x :: p) (u ++ q) y (by rw [hs, List.append_assoc])
  | masked p q m prev hs hfind =>
    exact .masked (x :: p) (u ++ q) m prev (by rw [hs, List.append_assoc]) hfind

theorem EndsAlike.eq_nil {s : List (Seg α κ)} {next : List α} (h : EndsAlike find k s next []) :
    s = [] := by
  generalize ha : ([] : List (Seg α κ)) = a at h
  cases h with
  | start hs => exact hs
  | same p q x hs => exact absurd ha.symm (List.append_ne_nil_of_right_ne_nil p (by simp))
  | masked p q m prev hs hfind =>
    exact absurd ha.symm (List.append_ne_nil_of_right_ne_nil p (by simp))

/-- A place between two pieces after the pass was there before it. -/
theorem Masks.of_append {prev : Option α} {s a b : List (Seg α κ)}
    (h : Masks mask find accept k prev s (a ++ b)) : ∃ a₀ b₀, s = a₀ ++ b₀ ∧ given a₀ = given a ∧
      EndsAlike find k a₀ (shown mask b₀) a ∧
      Masks mask find accept k (last prev (shown mask a₀)) b₀ b := by
  induction a generalizing prev s with
  | nil => exact ⟨[], s, rfl, rfl, .start rfl, h⟩
  | cons x a ih =>
    cases x with
    | keep c =>
      obtain ⟨s₀, rfl, -, rest⟩ := h.of_keep
      obtain ⟨a₀, b₀, rfl, hgiven, hends, hrest⟩ := ih rest
      refine ⟨.keep c :: a₀, b₀, rfl, congrArg (c :: ·) hgiven, ?_, by rwa [shown_keep, last_cons]⟩
      refine hends.cons (.keep c) [.keep c] fun ha => ?_
      subst ha
      exact .same [] [] _ (by rw [hends.eq_nil]; rfl)
    | hit j m =>
      rcases h.of_hit with ⟨s₀, rfl, rest⟩ | ⟨rfl, s₀, rfl, reads, finds, accepts, rest⟩
      · obtain ⟨a₀, b₀, rfl, hgiven, hends, hrest⟩ := ih rest
        refine ⟨.hit j m :: a₀, b₀, rfl, congrArg (m ++ ·) hgiven, ?_,
          by rwa [shown_hit, last_append]⟩
        refine hends.cons (.hit j m) [.hit j m] fun ha => ?_
        subst ha
        exact .same [] [] _ (by rw [hends.eq_nil]; rfl)
      · obtain ⟨a₀, b₀, rfl, hgiven, hends, hrest⟩ := ih rest
        refine ⟨m.map .keep ++ a₀, b₀, by rw [List.append_assoc], ?_, ?_,
          by rwa [shown_append, shown_keeps, last_append]⟩
        · rw [given_append, given_keeps, hgiven]
          rfl
        · refine hends.cons (.hit j m) (m.map .keep) fun ha => ?_
          subst ha
          obtain rfl := hends.eq_nil
          exact .masked [] [] m prev (List.append_nil _) finds

/-- No match holds the piece beyond its first character. -/
def NotInside (find : Finder α) (b : List (Seg α κ)) : Prop :=
  ∀ c t, b = .keep c :: t → ∀ prev t m, find prev t = some m → c ∉ m.tail

/-- A place that no match crosses is there after the pass. -/
theorem Masks.append {prev : Option α} {a₀ b₀ s' : List (Seg α κ)}
    (h : Masks mask find accept k prev (a₀ ++ b₀) s') (hcross : NotInside find b₀) :
    ∃ a b, s' = a ++ b ∧ given a = given a₀ ∧
      Masks mask find accept k (last prev (shown mask a₀)) b₀ b := by
  generalize hs : a₀ ++ b₀ = s at h
  induction h generalizing a₀ with
  | nil =>
    obtain ⟨rfl, rfl⟩ := List.append_eq_nil_iff.mp hs
    exact ⟨[], [], rfl, rfl, .nil⟩
  | @past prev j m s s' rest ih =>
    cases a₀ with
    | nil =>
      obtain rfl : b₀ = _ := hs
      exact ⟨[], _, rfl, rfl, .past rest⟩
    | cons x a₀ =>
      obtain ⟨rfl, rfl⟩ := List.cons.inj hs
      obtain ⟨a, b, rfl, hgiven, hrest⟩ := ih rfl
      refine ⟨.hit j m :: a, b, rfl, congrArg (m ++ ·) hgiven, ?_⟩
      rwa [shown_hit, last_append]
  | @keep prev c s s' misses rest ih =>
    cases a₀ with
    | nil =>
      obtain rfl : b₀ = _ := hs
      exact ⟨[], _, rfl, rfl, .keep misses rest⟩
    | cons x a₀ =>
      obtain ⟨rfl, rfl⟩ := List.cons.inj hs
      obtain ⟨a, b, rfl, hgiven, hrest⟩ := ih rfl
      refine ⟨.keep c :: a, b, rfl, congrArg (c :: ·) hgiven, ?_⟩
      rwa [shown_keep, last_cons]
  | @mask prev m s s' reads finds accepts rest ih =>
    rcases List.append_eq_append_iff.mp hs with ⟨c', hm, rfl⟩ | ⟨a', rfl, rfl⟩
    · cases a₀ with
      | nil =>
        obtain rfl : m.map .keep = c' := hm
        exact ⟨[], _, rfl, rfl, .mask reads finds accepts rest⟩
      | cons x a₀ =>
        cases c' with
        | nil =>
          rw [List.append_nil] at hm
          obtain ⟨a, b, rfl, hgiven, hrest⟩ := @ih [] rfl
          refine ⟨.hit k m :: a, b, rfl, ?_, ?_⟩
          · rw [← hm, given_keeps]
            exact (congrArg (m ++ ·) hgiven).trans (List.append_nil m)
          · rw [← hm, shown_keeps]
            simpa using hrest
        | cons y c' =>
          obtain ⟨d, v, rfl⟩ := List.exists_cons_of_ne_nil reads
          obtain ⟨-, htail⟩ := List.cons.inj hm
          have hmem : y ∈ v.map Seg.keep := by rw [htail]; simp
          obtain ⟨c, hc, rfl⟩ := List.mem_map.mp hmem
          exact absurd hc (hcross c _ rfl _ _ _ finds)
    · obtain ⟨a, b, rfl, hgiven, hrest⟩ := ih rfl
      refine ⟨.hit k m :: a, b, rfl, ?_, ?_⟩
      · rw [given_append, given_keeps, ← hgiven]
        rfl
      · rwa [shown_append, shown_keeps, last_append]

end pass

/-! ## Words in the text of a pass -/

section words

variable {mask : κ → List α} {find : Finder α} {accept : List α → Bool} {k : κ} {o : α}
  {word : α → Bool}

/-- A text from a word character to a word character that stands between two boundaries. -/
structure Stands (mask : κ → List α) (word : α → Bool) (s a : List (Seg α κ)) (m : List α)
    (b : List (Seg α κ)) : Prop where
  place : s = a ++ (m.map .keep ++ b)
  begins : ¬ NoWord word m.head?
  ends : ¬ NoWord word m.getLast?
  left : NoWord word (last none (shown mask a))
  right : NoWord word (shown mask b).head?

theorem last_of_ne_nil {m : List α} (hm : m ≠ []) (prev prev' : Option α) :
    last prev m = last prev' m := by
  unfold last
  rw [List.getLast?_eq_some_getLast hm]
  rfl

theorem Seg.shown_ne_nil (hopens : ∀ j, ∃ w, mask j = o :: w) (x : Seg α κ) :
    x.shown mask ≠ [] := by
  cases x with
  | keep c => exact List.cons_ne_nil c []
  | hit j m =>
    obtain ⟨w, hw⟩ := hopens j
    exact fun h => List.cons_ne_nil o w (hw.symm.trans h)

theorem last_shown_concat (hopens : ∀ j, ∃ w, mask j = o :: w) (p q : List (Seg α κ))
    (x : Seg α κ) :
    last none (shown mask (p ++ [x])) = last none (shown mask (q ++ [x])) := by
  have hx : shown mask [x] ≠ [] := by
    have hshown : shown mask [x] = x.shown mask := List.flatMap_singleton _ _
    rw [hshown]
    exact x.shown_ne_nil hopens
  rw [shown_append, shown_append, last_append, last_append]
  exact last_of_ne_nil hx _ _

theorem Masks.head_before (hopens : ∀ j, ∃ w, mask j = o :: w)
    (hhead : ∀ prev t m, find prev t = some m → NoWord word prev ∨ NoWord word m.head?)
    {prev : Option α} {s s' : List (Seg α κ)} (h : Masks mask find accept k prev s s')
    (hprev : ¬ NoWord word prev) (hs' : NoWord word (shown mask s').head?) :
    NoWord word (shown mask s).head? := by
  cases h with
  | nil => exact hs'
  | @past _ j m _ _ rest =>
    have hne : mask j ≠ [] := (Seg.hit j m).shown_ne_nil hopens
    rw [shown_hit, List.head?_append_of_ne_nil _ hne] at hs' ⊢
    exact hs'
  | keep misses rest => exact hs'
  | mask reads finds accepts rest =>
    rw [shown_append, shown_keeps, List.head?_append_of_ne_nil _ reads]
    exact (hhead _ _ _ finds).resolve_left hprev

theorem Masks.head_after (hopens : ∀ j, ∃ w, mask j = o :: w) (ho : NoWord word (some o))
    {prev : Option α} {s s' : List (Seg α κ)} (h : Masks mask find accept k prev s s')
    (hs : NoWord word (shown mask s).head?) : NoWord word (shown mask s').head? := by
  cases h with
  | nil => exact hs
  | @past _ j m _ _ rest =>
    have hne : mask j ≠ [] := (Seg.hit j m).shown_ne_nil hopens
    rw [shown_hit, List.head?_append_of_ne_nil _ hne] at hs ⊢
    exact hs
  | keep misses rest => exact hs
  | mask reads finds accepts rest =>
    obtain ⟨w, hw⟩ := hopens k
    rw [shown_hit, hw]
    exact ho

/-- A text that stands between boundaries after a pass stood there before it: no boundary is
new, unless a match may be followed by a word and the text follows such a match. -/
theorem Masks.stands (hopens : ∀ j, ∃ w, mask j = o :: w)
    (hhead : ∀ prev t m, find prev t = some m → NoWord word prev ∨ NoWord word m.head?)
    {s s' a b : List (Seg α κ)} {m : List α} (h : Masks mask find accept k none s s')
    (hs : Stands mask word s' a m b)
    (hleft : (∀ prev m u, find prev (m ++ u) = some m → NoWord word u.head?) ∨
      ∀ p m', a ≠ p ++ [.hit k m']) :
    ∃ a₀ b₀, Stands mask word s a₀ m b₀ ∧ a₀.getLast? = a.getLast? ∧
      Missed mask find accept (last none (shown mask a₀)) m b₀ := by
  obtain ⟨rfl, hbegins, hends, hl, hr⟩ := hs
  have hm : m ≠ [] := by
    rintro rfl
    exact hbegins rfl
  obtain ⟨a₀, b₁, rfl, -, halike, hrest⟩ := h.of_append
  obtain ⟨b₀, rfl, hmissed, hb⟩ := hrest.of_keeps
  have hlast : last (last none (shown mask a₀)) m = m.getLast? := by
    unfold last
    rw [List.getLast?_eq_some_getLast hm]
    rfl
  have hright := hb.head_before hopens hhead (by rwa [hlast]) hr
  have hends' :
      last none (shown mask a₀) = last none (shown mask a) ∧ a₀.getLast? = a.getLast? := by
    cases halike with
    | start ha =>
      subst ha
      exact ⟨rfl, rfl⟩
    | same p q x ha =>
      subst ha
      refine ⟨last_shown_concat hopens q p x, ?_⟩
      rw [List.getLast?_concat, List.getLast?_concat]
    | masked p q m' prev ha hfind =>
      rcases hleft with hword | hnone
      · have hnext := hword prev m' _ hfind
        rw [shown_append, shown_keeps, List.head?_append_of_ne_nil _ hm] at hnext
        exact absurd hnext hbegins
      · exact absurd rfl (hnone p m')
  exact ⟨a₀, b₀, ⟨rfl, hbegins, hends, by rwa [hends'.1], hright⟩, hends'.2, hmissed⟩

end words

end masking
