-- Runs of a system that takes one step after another. A step may be held
-- to a condition that reads the state before it; an invariant that such
-- steps keep holds in every state that a run of them reaches.
import Mathlib.Tactic.Common

namespace runs

variable {σ ι : Type} (step : ι → σ → σ)

/-- The state after the steps `ls`, in order. -/
def run (s : σ) (ls : List ι) : σ := ls.foldl (fun s l => step l s) s

@[simp] theorem run_nil (s : σ) : run step s [] = s := rfl

@[simp] theorem run_cons (s : σ) (l : ι) (ls : List ι) :
    run step s (l :: ls) = run step (step l s) ls := rfl

theorem run_append (s : σ) (ls ls' : List ι) :
    run step s (ls ++ ls') = run step (run step s ls) ls' := by
  simp [run, List.foldl_append]

/-- Each step of the run meets `C` in the state just before it. -/
def AllSteps (C : ι → σ → Prop) : σ → List ι → Prop
  | _, [] => True
  | s, l :: ls => C l s ∧ AllSteps C (step l s) ls

variable {step}

@[simp] theorem allSteps_nil (C : ι → σ → Prop) (s : σ) : AllSteps step C s [] := trivial

@[simp] theorem allSteps_cons {C : ι → σ → Prop} {s : σ} {l : ι} {ls : List ι} :
    AllSteps step C s (l :: ls) ↔ C l s ∧ AllSteps step C (step l s) ls := Iff.rfl

instance decidableAllSteps {C : ι → σ → Prop} [∀ l s, Decidable (C l s)] :
    (s : σ) → (ls : List ι) → Decidable (AllSteps step C s ls)
  | _, [] => isTrue trivial
  | s, l :: ls => @instDecidableAnd _ _ _ (decidableAllSteps (step l s) ls)

/-- How many steps of the run meet `C` in the state just before. -/
def countSteps (step : ι → σ → σ) (C : ι → σ → Prop) [∀ l s, Decidable (C l s)] :
    σ → List ι → ℕ
  | _, [] => 0
  | s, l :: ls => (if C l s then 1 else 0) + countSteps step C (step l s) ls

theorem allSteps_append {C : ι → σ → Prop} {s : σ} {ls ls' : List ι} :
    AllSteps step C s (ls ++ ls') ↔
      AllSteps step C s ls ∧ AllSteps step C (run step s ls) ls' := by
  induction ls generalizing s with
  | nil => simp
  | cons l ls ih => simp [ih, and_assoc]

theorem allSteps_true (s : σ) (ls : List ι) : AllSteps step (fun _ _ => True) s ls := by
  induction ls generalizing s with
  | nil => trivial
  | cons l ls ih => exact ⟨trivial, ih _⟩

theorem allSteps_of_forall {P : ι → Prop} {ls : List ι} (h : ∀ l ∈ ls, P l) (s : σ) :
    AllSteps step (fun l _ => P l) s ls := by
  induction ls generalizing s with
  | nil => trivial
  | cons l ls ih =>
    exact ⟨h l List.mem_cons_self, ih (fun l' hl' => h l' (List.mem_cons_of_mem l hl')) _⟩

theorem allSteps_mono {C D : ι → σ → Prop} (h : ∀ l s, C l s → D l s) {s : σ} {ls : List ι}
    (hls : AllSteps step C s ls) : AllSteps step D s ls := by
  induction ls generalizing s with
  | nil => trivial
  | cons l ls ih => exact ⟨h l s hls.1, ih hls.2⟩

theorem allSteps_and {C D : ι → σ → Prop} {s : σ} {ls : List ι} (h : AllSteps step C s ls)
    (h' : AllSteps step D s ls) : AllSteps step (fun l s => C l s ∧ D l s) s ls := by
  induction ls generalizing s with
  | nil => trivial
  | cons l ls ih => exact ⟨⟨h.1, h'.1⟩, ih h.2 h'.2⟩

theorem invariant {C : ι → σ → Prop} {I : σ → Prop} {s : σ} {ls : List ι}
    (hstep : ∀ l s, C l s → I s → I (step l s)) (hs : I s) (hls : AllSteps step C s ls) :
    I (run step s ls) := by
  induction ls generalizing s with
  | nil => exact hs
  | cons l ls ih => exact ih (hstep l s hls.1 hs) hls.2

theorem invariant_after {C : ι → σ → Prop} {I : σ → Prop} {s : σ} {ls : List ι}
    (hstep : ∀ l s, C l s → I s → I (step l s)) (hs : I s) (hls : AllSteps step C s ls) :
    AllSteps step (fun l s => I (step l s)) s ls := by
  induction ls generalizing s with
  | nil => trivial
  | cons l ls ih =>
    have hnext : I (step l s) := hstep l s hls.1 hs
    exact ⟨hnext, ih hnext hls.2⟩

theorem invariant_before {C : ι → σ → Prop} {I : σ → Prop} {s : σ} {ls : List ι}
    (hstep : ∀ l s, C l s → I s → I (step l s)) (hs : I s) (hls : AllSteps step C s ls) :
    AllSteps step (fun l s => I s ∧ C l s) s ls := by
  induction ls generalizing s with
  | nil => trivial
  | cons l ls ih => exact ⟨⟨hs, hls.1⟩, ih (hstep l s hls.1 hs) hls.2⟩

theorem allSteps_iff {C P : ι → σ → Prop} {I : σ → Prop} {s : σ} {ls : List ι}
    (hkeep : ∀ l s, I s → C l s → I (step l s)) (hiff : ∀ l s, I s → (P l s ↔ C l s)) (hs : I s) :
    AllSteps step P s ls ↔ AllSteps step C s ls := by
  induction ls generalizing s with
  | nil => exact Iff.rfl
  | cons l ls ih =>
    rw [allSteps_cons, allSteps_cons]
    constructor
    · rintro ⟨hl, hrest⟩
      have hmet := (hiff l s hs).mp hl
      exact ⟨hmet, (ih (hkeep l s hs hmet)).mp hrest⟩
    · rintro ⟨hmet, hrest⟩
      exact ⟨(hiff l s hs).mpr hmet, (ih (hkeep l s hs hmet)).mpr hrest⟩

end runs
