-- Programs over a state that may raise. An exception keeps the writes made
-- before it. `wp` says how a run ends, and its rules follow the program
-- text, so one pass over a handler gives all that the handler can do.
import Mathlib.Tactic.Common

namespace prog

variable {ε σ τ α β : Type}

/-- The run of `x` from `s` returns a value and a state in `Q`, or raises
an exception in a state in `E`. -/
def wp (x : EStateM ε σ α) (Q : α → σ → Prop) (E : ε → σ → Prop) (s : σ) : Prop :=
  match x s with
  | .ok a s' => Q a s'
  | .error e s' => E e s'

/-- Raise `e` unless the condition holds. -/
def require (c : Prop) [Decidable c] (e : ε) : EStateM ε σ Unit :=
  if c then pure () else throw e

/-- Run a program on one part of the state. -/
def zoom (part : σ → τ) (put : τ → σ → σ) (x : EStateM ε τ α) : EStateM ε σ α := fun s =>
  match x (part s) with
  | .ok a t => .ok a (put t s)
  | .error e t => .error e (put t s)

/-- Rename the exceptions of a program. -/
def mapError {ε' : Type} (f : ε → ε') (x : EStateM ε σ α) : EStateM ε' σ α := fun s =>
  match x s with
  | .ok a s' => .ok a s'
  | .error e s' => .error (f e) s'

section rules

variable {Q : α → σ → Prop} {E : ε → σ → Prop} {s : σ}

@[simp] theorem wp_pure (a : α) : wp (pure a : EStateM ε σ α) Q E s ↔ Q a s := Iff.rfl

@[simp] theorem wp_throw (e : ε) : wp (throw e : EStateM ε σ α) Q E s ↔ E e s := Iff.rfl

@[simp] theorem wp_bind {R : β → σ → Prop} (x : EStateM ε σ α) (f : α → EStateM ε σ β) :
    wp (x >>= f) R E s ↔ wp x (fun a s' => wp (f a) R E s') E s := by
  show wp (EStateM.bind x f) R E s ↔ _
  unfold wp EStateM.bind
  cases x s <;> rfl

@[simp] theorem wp_get {Q : σ → σ → Prop} :
    wp (get : EStateM ε σ σ) Q E s ↔ Q s s := Iff.rfl

@[simp] theorem wp_set {Q : PUnit → σ → Prop} (s' : σ) :
    wp (set s' : EStateM ε σ PUnit) Q E s ↔ Q ⟨⟩ s' := Iff.rfl

@[simp] theorem wp_modify {Q : PUnit → σ → Prop} (f : σ → σ) :
    wp (modify f : EStateM ε σ PUnit) Q E s ↔ Q ⟨⟩ (f s) := Iff.rfl

@[simp] theorem wp_require {Q : Unit → σ → Prop} (c : Prop) [Decidable c] (e : ε) :
    wp (require c e) Q E s ↔ (c → Q () s) ∧ (¬ c → E e s) := by
  unfold require
  by_cases h : c
  · simp [h]
  · simp [h]

@[simp] theorem wp_ite (c : Prop) [Decidable c] (x y : EStateM ε σ α) :
    wp (if c then x else y) Q E s ↔ (c → wp x Q E s) ∧ (¬ c → wp y Q E s) := by
  by_cases h : c
  · simp [h]
  · simp [h]

@[simp] theorem wp_ofExcept (r : Except ε α) :
    wp (MonadExcept.ofExcept r : EStateM ε σ α) Q E s ↔
      (∀ a, r = .ok a → Q a s) ∧ (∀ e, r = .error e → E e s) := by
  cases r with
  | ok a => simp [MonadExcept.ofExcept]
  | error e => simp [MonadExcept.ofExcept]

@[simp] theorem wp_zoom (part : σ → τ) (put : τ → σ → σ) (x : EStateM ε τ α) :
    wp (zoom part put x) Q E s ↔
      wp x (fun a t => Q a (put t s)) (fun e t => E e (put t s)) (part s) := by
  unfold wp zoom
  cases x (part s) <;> rfl

@[simp] theorem wp_mapError {ε' : Type} {E : ε' → σ → Prop} (f : ε → ε') (x : EStateM ε σ α) :
    wp (mapError f x) Q E s ↔ wp x Q (fun e s' => E (f e) s') s := by
  unfold wp mapError
  cases x s <;> rfl

variable {x : EStateM ε σ α}

theorem wp_mono {Q' : α → σ → Prop} {E' : ε → σ → Prop}
    (h : wp x Q E s) (hQ : ∀ a s', Q a s' → Q' a s') (hE : ∀ e s', E e s' → E' e s') :
    wp x Q' E' s := by
  unfold wp at h ⊢
  rcases hx : x s with ⟨a, s'⟩ | ⟨e, s'⟩
  · rw [hx] at h
    exact hQ a s' h
  · rw [hx] at h
    exact hE e s' h

theorem wp_and {Q' : α → σ → Prop} {E' : ε → σ → Prop} (h : wp x Q E s) (h' : wp x Q' E' s) :
    wp x (fun a s' => Q a s' ∧ Q' a s') (fun e s' => E e s' ∧ E' e s') s := by
  unfold wp at h h' ⊢
  rcases hx : x s with ⟨a, s'⟩ | ⟨e, s'⟩
  · rw [hx] at h h'
    exact ⟨h, h'⟩
  · rw [hx] at h h'
    exact ⟨h, h'⟩

theorem wp_ok {a : α} {s' : σ} (h : wp x Q E s) (hx : x s = .ok a s') : Q a s' := by
  unfold wp at h
  rwa [hx] at h

theorem wp_error {e : ε} {s' : σ} (h : wp x Q E s) (hx : x s = .error e s') : E e s' := by
  unfold wp at h
  rwa [hx] at h

theorem wp_intro (hQ : ∀ a s', x s = .ok a s' → Q a s')
    (hE : ∀ e s', x s = .error e s' → E e s') : wp x Q E s := by
  unfold wp
  rcases hx : x s with ⟨a, s'⟩ | ⟨e, s'⟩
  · exact hQ a s' hx
  · exact hE e s' hx

theorem wp_of_run_eq {y : EStateM ε σ α} {s' : σ} (h : x s = y s') : wp x Q E s ↔ wp y Q E s' := by
  unfold wp
  rw [h]

theorem wp_absurd (h : wp x Q E s) (hQ : ∀ a s', Q a s' → False)
    (hE : ∀ e s', E e s' → False) : False := by
  unfold wp at h
  rcases hx : x s with ⟨a, s'⟩ | ⟨e, s'⟩
  · rw [hx] at h
    exact hQ a s' h
  · rw [hx] at h
    exact hE e s' h

end rules

/-- A claim about the end of a run is checked by running. -/
instance (x : EStateM ε σ α) (Q : α → σ → Prop) (E : ε → σ → Prop) (s : σ)
    [∀ a s, Decidable (Q a s)] [∀ e s, Decidable (E e s)] : Decidable (wp x Q E s) :=
  match h : x s with
  | .ok a s' => decidable_of_iff (Q a s') (by rw [wp, h])
  | .error e s' => decidable_of_iff (E e s') (by rw [wp, h])

theorem wp_returned {x : EStateM ε σ α} {Q : α → σ → Prop} {s : σ}
    (h : wp x Q (fun _ _ => False) s) : ∃ a s', x s = .ok a s' ∧ Q a s' := by
  unfold wp at h
  rcases hx : x s with ⟨a, s'⟩ | ⟨e, s'⟩
  · rw [hx] at h
    exact ⟨a, s', rfl, h⟩
  · rw [hx] at h
    exact h.elim

theorem wp_of_ok {x : EStateM ε σ α} {Q : α → σ → Prop} {E : ε → σ → Prop} {s s' : σ} {a : α}
    (h : x s = .ok a s') (hQ : Q a s') : wp x Q E s := by
  unfold wp
  rw [h]
  exact hQ

/-- The state in which a run ends, whether it returned or raised. -/
def endState : EStateM.Result ε σ α → σ
  | .ok _ s => s
  | .error _ s => s

theorem wp_end {x : EStateM ε σ α} {P : σ → Prop} {s : σ}
    (h : wp x (fun _ s' => P s') (fun _ s' => P s') s) : P (endState (x s)) := by
  unfold wp at h
  rcases hx : x s with ⟨a, s'⟩ | ⟨e, s'⟩
  · rw [hx] at h
    exact h
  · rw [hx] at h
    exact h

/-! ## Running a program -/

section runs

variable {s : σ}

theorem run_bind (x : EStateM ε σ α) (f : α → EStateM ε σ β) (s : σ) :
    (x >>= f) s = match x s with
      | .ok a s' => f a s'
      | .error e s' => .error e s' := by
  show EStateM.bind x f s = _
  unfold EStateM.bind
  cases x s <;> rfl

theorem run_get : (get : EStateM ε σ σ) s = .ok s s := rfl

theorem run_modify (f : σ → σ) : (modify f : EStateM ε σ PUnit) s = .ok ⟨⟩ (f s) := rfl

theorem run_set (s' : σ) : (set s' : EStateM ε σ PUnit) s = .ok ⟨⟩ s' := rfl

theorem run_ofExcept {ε' : Type} (f : ε' → ε) (x : Except ε' α) :
    (MonadExcept.ofExcept (x.mapError f) : EStateM ε σ α) s = match x with
      | .ok a => .ok a s
      | .error e => .error (f e) s := by
  cases x <;> rfl

theorem run_zoom (part : σ → τ) (put : τ → σ → σ) (x : EStateM ε τ α) :
    zoom part put x s = match x (part s) with
      | .ok a t => .ok a (put t s)
      | .error e t => .error e (put t s) := rfl

end runs

/-! ## Frames -/

/-- The program leaves one part of the state alone, however it ends. -/
def keeps (part : σ → τ) (x : EStateM ε σ α) : Prop :=
  ∀ s, wp x (fun _ s' => part s' = part s) (fun _ s' => part s' = part s) s

section frames

variable {part : σ → τ}

theorem keeps_pure (a : α) : keeps part (pure a : EStateM ε σ α) := fun _ => rfl

theorem keeps_throw (e : ε) : keeps part (throw e : EStateM ε σ α) := fun _ => rfl

theorem keeps_get : keeps part (get : EStateM ε σ σ) := fun _ => rfl

theorem keeps_modify {f : σ → σ} (h : ∀ s, part (f s) = part s) :
    keeps part (modify f : EStateM ε σ PUnit) := h

variable {x : EStateM ε σ α}

theorem keeps_bind {f : α → EStateM ε σ β} (hx : keeps part x)
    (hf : ∀ a, keeps part (f a)) : keeps part (x >>= f) := by
  intro s
  rw [wp_bind]
  refine wp_mono (hx s) (fun a s' hs' => ?_) fun _ _ hs' => hs'
  exact wp_mono (hf a s') (fun _ _ h => h.trans hs') fun _ _ h => h.trans hs'

theorem keeps_map (f : α → β) (hx : keeps part x) : keeps part (f <$> x) := by
  rw [map_eq_pure_bind]
  exact keeps_bind hx fun a => keeps_pure (f a)

theorem keeps_ite {c : Prop} [Decidable c] {y : EStateM ε σ α} (hx : keeps part x)
    (hy : keeps part y) : keeps part (if c then x else y) := by
  split
  · exact hx
  · exact hy

theorem keeps_require (c : Prop) [Decidable c] (e : ε) :
    keeps part (require c e : EStateM ε σ Unit) :=
  keeps_ite (keeps_pure ()) (keeps_throw e)

theorem keeps_ofExcept (r : Except ε α) :
    keeps part (MonadExcept.ofExcept r : EStateM ε σ α) := by
  cases r with
  | ok a => exact keeps_pure a
  | error e => exact keeps_throw e

theorem keeps_zoom {τ' : Type} {get : σ → τ'} {put : τ' → σ → σ} {x : EStateM ε τ' α}
    (h : ∀ t s, part (put t s) = part s) : keeps part (zoom get put x) := by
  intro s
  rw [wp_zoom]
  exact wp_intro (fun _ t _ => h t s) fun _ t _ => h t s

theorem keeps_mapError {ε' : Type} {f : ε → ε'} (hx : keeps part x) :
    keeps part (mapError f x) := by
  intro s
  rw [wp_mapError]
  exact hx s

end frames

/-! ## Exceptions -/

/-- The program raises exceptions in `E` only. -/
def raises (E : ε → Prop) (x : EStateM ε σ α) : Prop :=
  ∀ s, wp x (fun _ _ => True) (fun e _ => E e) s

section exceptions

variable {E : ε → Prop}

theorem raises_pure (a : α) : raises E (pure a : EStateM ε σ α) := fun _ => trivial

theorem raises_throw {e : ε} (h : E e) : raises E (throw e : EStateM ε σ α) := fun _ => h

theorem raises_get : raises E (get : EStateM ε σ σ) := fun _ => trivial

theorem raises_modify (f : σ → σ) : raises E (modify f : EStateM ε σ PUnit) := fun _ => trivial

theorem raises_bind {x : EStateM ε σ α} {f : α → EStateM ε σ β} (hx : raises E x)
    (hf : ∀ a, raises E (f a)) : raises E (x >>= f) := by
  intro s
  rw [wp_bind]
  exact wp_mono (hx s) (fun a s' _ => hf a s') fun _ _ h => h

theorem raises_ite {c : Prop} [Decidable c] {x y : EStateM ε σ α} (hx : raises E x)
    (hy : raises E y) : raises E (if c then x else y) := by
  split
  · exact hx
  · exact hy

theorem raises_require {c : Prop} [Decidable c] {e : ε} (h : E e) :
    raises E (require c e : EStateM ε σ Unit) :=
  raises_ite (raises_pure ()) (raises_throw h)

theorem raises_ofExcept {r : Except ε α} (h : ∀ e, r = .error e → E e) :
    raises E (MonadExcept.ofExcept r : EStateM ε σ α) := by
  intro s
  rw [wp_ofExcept]
  exact ⟨fun _ _ => trivial, h⟩

theorem raises_zoom {part : σ → τ} {put : τ → σ → σ} {x : EStateM ε τ α} (hx : raises E x) :
    raises E (zoom part put x) := by
  intro s
  rw [wp_zoom]
  exact hx (part s)

theorem raises_mapError {ε' : Type} {E : ε' → Prop} {f : ε → ε'} {x : EStateM ε σ α}
    (hx : raises (fun e => E (f e)) x) : raises E (mapError f x) := by
  intro s
  rw [wp_mapError]
  exact hx s

end exceptions

/-! ## Computations without a state -/

/-- Every value that `x` returns is in `Q`. -/
def returns (x : Except ε α) (Q : α → Prop) : Prop := ∀ a, x = .ok a → Q a

section returnRules

variable {Q : α → Prop}

@[simp] theorem returns_ok (a : α) : returns (.ok a : Except ε α) Q ↔ Q a := by
  simp [returns]

@[simp] theorem returns_pure (a : α) : returns (pure a : Except ε α) Q ↔ Q a := by
  simp [returns, pure, Except.pure]

@[simp] theorem returns_error (e : ε) : returns (.error e : Except ε α) Q := by
  simp [returns]

theorem returns_bind {R : β → Prop} {x : Except ε α} {f : α → Except ε β}
    (h : returns x fun a => returns (f a) R) : returns (x >>= f) R := by
  intro b hb
  cases x with
  | ok a => exact h a rfl b hb
  | error e => cases hb

theorem returns_ite {c : Prop} [Decidable c] {x y : Except ε α} (hx : c → returns x Q)
    (hy : ¬ c → returns y Q) : returns (if c then x else y) Q := by
  split
  · rename_i h
    exact hx h
  · rename_i h
    exact hy h

theorem returns_mono {Q' : α → Prop} {x : Except ε α} (h : returns x Q)
    (hQ : ∀ a, Q a → Q' a) : returns x Q' := fun a ha => hQ a (h a ha)

theorem ok_bind {x : Except ε α} {a : α} (h : x = .ok a) (f : α → Except ε β) :
    (x >>= f) = f a := by
  rw [h]
  rfl

theorem error_bind {x : Except ε α} {e : ε} (h : x = .error e) (f : α → Except ε β) :
    (x >>= f) = .error e := by
  rw [h]
  rfl

/-- That a computation returns such a value is checked by running. -/
instance decidableReturned (x : Except ε α) (Q : α → Prop) [DecidablePred Q] :
    Decidable (∃ a, x = .ok a ∧ Q a) :=
  match x with
  | .ok a => decidable_of_iff (Q a) (by simp)
  | .error _ => isFalse (by simp)

end returnRules

end prog
