-- Graphs of nodes that run one after another on one state. A node may
-- raise, and the state that it leaves decides which node runs next. A path
-- is a run up to a node that is about to run.
import Mathlib.Tactic.Common

namespace flow

structure Flow (ν ε σ : Type) where
  exec : ν → σ → Except ε σ
  next : ν → σ → Option ν

/-- A node that ran, with the state it was given and the state it left. -/
structure Visit (ν σ : Type) where
  node : ν
  before : σ
  after : σ

variable {ν ε σ : Type} (g : Flow ν ε σ)

/-- The run from node `n` gets to node `m`, which is about to run on `t`. -/
inductive Path : ν → σ → List (Visit ν σ) → ν → σ → Prop where
  | here (n : ν) (s : σ) : Path n s [] n s
  | visit {n m n' : ν} {s s' t : σ} {vs : List (Visit ν σ)} (hexec : g.exec n s = .ok s')
      (hnext : g.next n s' = some n') (hrest : Path n' s' vs m t) :
      Path n s (⟨n, s, s'⟩ :: vs) m t

/-- The run from node `n` comes to an end, and leaves `t`. -/
inductive Ends : ν → σ → List (Visit ν σ) → σ → Prop where
  | last {n : ν} {s s' : σ} (hexec : g.exec n s = .ok s') (hnext : g.next n s' = none) :
      Ends n s [⟨n, s, s'⟩] s'
  | visit {n n' : ν} {s s' t : σ} {vs : List (Visit ν σ)} (hexec : g.exec n s = .ok s')
      (hnext : g.next n s' = some n') (hrest : Ends n' s' vs t) :
      Ends n s (⟨n, s, s'⟩ :: vs) t

variable {g} {n m m' : ν} {s t t' : σ} {vs ws : List (Visit ν σ)}

/-! ## Paths -/

theorem Path.trans (h : Path g n s vs m t) (h' : Path g m t ws m' t') :
    Path g n s (vs ++ ws) m' t' := by
  induction h with
  | here n s => exact h'
  | visit hexec hnext _ ih => exact .visit hexec hnext (ih h')

theorem Path.snoc (h : Path g n s vs m t) (hexec : g.exec m t = .ok t')
    (hnext : g.next m t' = some m') : Path g n s (vs ++ [⟨m, t, t'⟩]) m' t' :=
  h.trans (.visit hexec hnext (.here m' t'))

theorem Path.first (h : Path g n s vs m t) (hne : n ≠ m) :
    ∃ s' n' ws, g.exec n s = .ok s' ∧ g.next n s' = some n' ∧ Path g n' s' ws m t := by
  cases h with
  | here => exact absurd rfl hne
  | visit hexec hnext hrest => exact ⟨_, _, _, hexec, hnext, hrest⟩

theorem Path.rule {P : List (Visit ν σ) → ν → σ → Prop} (h : Path g n s vs m t)
    (hstart : P [] n s)
    (hstep : ∀ ws a u u' b, P ws a u → g.exec a u = .ok u' → g.next a u' = some b →
      P (ws ++ [⟨a, u, u'⟩]) b u') : P vs m t := by
  have hgen : ∀ pre, P pre n s → P (pre ++ vs) m t := by
    clear hstart
    induction h with
    | here n s =>
      intro pre hpre
      rwa [List.append_nil]
    | visit hexec hnext _ ih =>
      intro pre hpre
      have := ih _ (hstep pre _ _ _ _ hpre hexec hnext)
      rwa [List.append_assoc] at this
  exact hgen [] hstart

theorem Path.invariant {I : ν → σ → Prop} (h : Path g n s vs m t) (hstart : I n s)
    (hstep : ∀ a u u' b, I a u → g.exec a u = .ok u' → g.next a u' = some b → I b u') :
    I m t := by
  induction h with
  | here n s => exact hstart
  | visit hexec hnext _ ih => exact ih (hstep _ _ _ _ hstart hexec hnext)

/-! ## Whole runs -/

theorem Path.ends (h : Path g n s vs m t) (h' : Ends g m t ws t') :
    Ends g n s (vs ++ ws) t' := by
  induction h with
  | here n s => exact h'
  | visit hexec hnext _ ih => exact .visit hexec hnext (ih h')

theorem Ends.last_visit (h : Ends g n s vs t) :
    ∃ ws a u, Path g n s ws a u ∧ g.exec a u = .ok t ∧ g.next a t = none ∧
      vs = ws ++ [⟨a, u, t⟩] := by
  induction h with
  | last hexec hnext => exact ⟨[], _, _, .here _ _, hexec, hnext, rfl⟩
  | visit hexec hnext _ ih =>
    obtain ⟨ws, a, u, hpath, hlast, hend, rfl⟩ := ih
    exact ⟨_ :: ws, a, u, .visit hexec hnext hpath, hlast, hend, rfl⟩

end flow
