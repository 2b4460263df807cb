-- Machines that answer each call. Two machines in states that mirror each
-- other answer every sequence of calls alike when each call that meets its
-- condition is answered alike and leaves such states again.
import Asoe.Lib.Runs

namespace mirror

open runs

variable {σ τ ι ρ : Type}

/-- The answers to the calls, in order. -/
def answers (act : ι → σ → ρ × σ) : σ → List ι → List ρ
  | _, [] => []
  | s, l :: ls => (act l s).1 :: answers act (act l s).2 ls

/-- The state after one call. -/
def after (act : ι → σ → ρ × σ) (l : ι) (s : σ) : σ := (act l s).2

variable {act : ι → σ → ρ × σ} {act' : ι → τ → ρ × τ}

/-- A call that is answered alike and keeps the states mirrored. -/
structure Mirrors (act : ι → σ → ρ × σ) (act' : ι → τ → ρ × τ) (R : σ → τ → Prop) (l : ι)
    (s : σ) (t : τ) : Prop where
  answer : (act' l t).1 = (act l s).1
  states : R (act l s).2 (act' l t).2

theorem answers_eq {C : ι → σ → Prop} {R : σ → τ → Prop}
    (hcall : ∀ l s t, C l s → R s t → Mirrors act act' R l s t) {s : σ} {t : τ} {ls : List ι}
    (hR : R s t) (hls : AllSteps (after act) C s ls) : answers act' t ls = answers act s ls := by
  induction ls generalizing s t with
  | nil => rfl
  | cons l ls ih =>
    obtain ⟨hl, hls⟩ := hls
    have h := hcall l s t hl hR
    rw [answers, answers, h.answer, ih h.states hls]

theorem answers_forall {C : ι → σ → Prop} {I : σ → Prop} {Q : ι → ρ → Prop}
    (hcall : ∀ l s, C l s → I s → Q l (act l s).1 ∧ I (act l s).2) {s : σ} {ls : List ι}
    (hI : I s) (hls : AllSteps (after act) C s ls) :
    ∀ p ∈ ls.zip (answers act s ls), Q p.1 p.2 := by
  induction ls generalizing s with
  | nil => exact fun p hp => absurd hp List.not_mem_nil
  | cons l ls ih =>
    obtain ⟨hl, hls⟩ := hls
    obtain ⟨hanswer, hnext⟩ := hcall l s hl hI
    intro p hp
    rcases List.mem_cons.mp hp with rfl | hp
    · exact hanswer
    · exact ih hnext hls p hp

/-- The answers to the calls of one party. -/
def answersTo (mine : ι → Bool) (ls : List ι) (as : List ρ) : List ρ :=
  ((ls.zip as).filter fun p => mine p.1).map Prod.snd

/-- A party whose view no other call changes, and whose own answers and next
view are read off its view, gets the answers that it would get alone. -/
theorem answers_alone {τ : Type} {act' : ι → τ → ρ × τ} {C : ι → σ → Prop} {I : σ → Prop}
    {mine : ι → Bool} {view : σ → τ} (hkeep : ∀ l s, C l s → I s → I (act l s).2)
    (hown : ∀ l s, C l s → I s → mine l = true → (act l s).1 = (act' l (view s)).1 ∧
      view (act l s).2 = (act' l (view s)).2)
    (hother : ∀ l s, C l s → I s → mine l = false → view (act l s).2 = view s) {s : σ}
    {ls : List ι} (hI : I s) (hls : AllSteps (after act) C s ls) :
    answersTo mine ls (answers act s ls) = answers act' (view s) (ls.filter mine) := by
  induction ls generalizing s with
  | nil => rfl
  | cons l ls ih =>
    obtain ⟨hC, hls⟩ := hls
    have htail := ih (hkeep l s hC hI) hls
    unfold answersTo at htail ⊢
    cases hl : mine l with
    | false =>
      rw [hother l s hC hI hl] at htail
      simpa [answers, hl] using htail
    | true =>
      obtain ⟨hanswer, hview⟩ := hown l s hC hI hl
      rw [hview] at htail
      simpa [answers, hl, hanswer] using htail

end mirror
