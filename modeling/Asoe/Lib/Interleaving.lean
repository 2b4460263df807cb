-- Calls that run next to each other on one shared state. Each call has a
-- state of its own and takes its steps when the schedule picks it; what it
-- writes shows at one of its steps, the commit. When each commit does what
-- the whole call would do then, the run is one of whole calls.
import Asoe.Lib.Runs
import Mathlib.Logic.Function.Iterate

namespace interleaving

open runs

/-- The shared state, and how far each call has come. -/
structure Conf (κ lo σ : Type) where
  locals : κ → lo
  shared : σ

section steps

variable {κ lo σ : Type} [DecidableEq κ] (next : κ → lo → σ → lo × σ)

/-- One step of the call `i`. -/
def step (i : κ) (c : Conf κ lo σ) : Conf κ lo σ where
  locals := Function.update c.locals i (next i (c.locals i) c.shared).1
  shared := (next i (c.locals i) c.shared).2

@[simp] theorem step_shared (i : κ) (c : Conf κ lo σ) :
    (step next i c).shared = (next i (c.locals i) c.shared).2 := rfl

@[simp] theorem step_locals_self (i : κ) (c : Conf κ lo σ) :
    (step next i c).locals i = (next i (c.locals i) c.shared).1 := Function.update_self ..

theorem step_locals_of_ne {i j : κ} (c : Conf κ lo σ) (h : j ≠ i) :
    (step next i c).locals j = c.locals j := Function.update_of_ne h ..

variable {next}

theorem locals_invariant {L : κ → lo → Prop} {c : Conf κ lo σ} {schedule : List κ}
    (hnext : ∀ i l s, L i l → L i (next i l s).1) (hc : ∀ i, L i (c.locals i)) :
    ∀ i, L i ((run (step next) c schedule).locals i) := by
  refine invariant (C := fun _ _ => True) (I := fun c : Conf κ lo σ => ∀ i, L i (c.locals i)) ?_ hc
    (allSteps_true _ _)
  intro i c _ hc j
  by_cases hij : j = i
  · subst hij
    rw [step_locals_self]
    exact hnext j _ _ (hc j)
  · rw [step_locals_of_ne next c hij]
    exact hc j

theorem run_alone (next : κ → lo → σ → lo × σ) (i : κ) (n : Nat) (c : Conf κ lo σ) :
    (run (step next) c (List.replicate n i)).locals i =
        ((fun p : lo × σ => next i p.1 p.2)^[n] (c.locals i, c.shared)).1 ∧
      (run (step next) c (List.replicate n i)).shared =
        ((fun p : lo × σ => next i p.1 p.2)^[n] (c.locals i, c.shared)).2 := by
  induction n generalizing c with
  | zero => exact ⟨rfl, rfl⟩
  | succ n ih =>
    rw [List.replicate_succ, run_cons, Function.iterate_succ_apply]
    obtain ⟨hlocals, hshared⟩ := ih (step next i c)
    rw [step_locals_self] at hlocals hshared
    exact ⟨hlocals, hshared⟩

end steps

/-! ## The order of the commits -/

section serial

variable {κ lo σ : Type} [DecidableEq κ] (next : κ → lo → σ → lo × σ) (commits : κ → lo → Bool)

/-- The calls of the schedule in the order in which they commit. -/
def committed : Conf κ lo σ → List κ → List κ
  | _, [] => []
  | c, i :: schedule =>
    if commits i (c.locals i) then i :: committed (step next i c) schedule
    else committed (step next i c) schedule

theorem committed_cons (c : Conf κ lo σ) (i : κ) (schedule : List κ) :
    committed next commits c (i :: schedule) =
      if commits i (c.locals i) then i :: committed next commits (step next i c) schedule
      else committed next commits (step next i c) schedule := rfl

variable {next commits}

/-- A schedule is serial: its shared state is the one after the committed
calls, one whole call after the other. -/
theorem serializable {whole : κ → σ → σ} {L : κ → lo → Prop} {C : κ → Conf κ lo σ → Prop}
    {D : κ → σ → Prop} (hnext : ∀ i l s, L i l → L i (next i l s).1)
    (hquiet : ∀ i l s, L i l → commits i l = false → (next i l s).2 = s)
    (hcommit : ∀ i c, L i (c.locals i) → commits i (c.locals i) = true → C i c →
      (next i (c.locals i) c.shared).2 = whole i c.shared ∧ D i c.shared)
    {c : Conf κ lo σ} (hc : ∀ i, L i (c.locals i)) {schedule : List κ}
    (hall : AllSteps (step next) C c schedule) :
    (run (step next) c schedule).shared = run whole c.shared (committed next commits c schedule) ∧
      AllSteps whole D c.shared (committed next commits c schedule) := by
  induction schedule generalizing c with
  | nil => exact ⟨rfl, trivial⟩
  | cons i schedule ih =>
    have hrun : ∀ j, L j ((run (step next) c [i]).locals j) := locals_invariant hnext hc
    have hlocals : ∀ j, L j ((step next i c).locals j) := hrun
    obtain ⟨hshared, hsteps⟩ := ih hlocals hall.2
    rw [run_cons, hshared, committed_cons]
    by_cases h : commits i (c.locals i) = true
    · obtain ⟨hwhole, hD⟩ := hcommit i c (hc i) h hall.1
      rw [step_shared, hwhole] at hsteps ⊢
      rw [if_pos h]
      exact ⟨rfl, hD, hsteps⟩
    · rw [if_neg h]
      rw [step_shared, hquiet i _ _ (hc i) (by simpa using h)] at hsteps ⊢
      exact ⟨rfl, hsteps⟩

end serial

end interleaving
