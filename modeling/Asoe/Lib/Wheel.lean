-- Graphs that grow around a hub: every entry has a node and an edge between
-- this node and the hub. An entry whose node is there already brings no node,
-- and it brings its edge only when it is one that is linked again.
import Mathlib.Data.List.Forall2
import Mathlib.Data.List.Nodup

namespace wheel

variable {ι ν ε : Type*}

structure Entry (ν ε : Type*) where
  node : ν
  edge : ε
  again : Bool

structure Wheel (ν ε : Type*) where
  nodes : List ν
  edges : List ε

section growth

variable [DecidableEq ι] (key : ν → ι)

def attach (g : Wheel ν ε) (e : Entry ν ε) : Wheel ν ε :=
  if key e.node ∈ g.nodes.map key then
    if e.again then { g with edges := g.edges ++ [e.edge] } else g
  else ⟨g.nodes ++ [e.node], g.edges ++ [e.edge]⟩

def grow (g : Wheel ν ε) (entries : List (Entry ν ε)) : Wheel ν ε := entries.foldl (attach key) g

/-- No entry that is linked again has the node of an earlier one. -/
def LinkedOnce (entries : List (Entry ν ε)) : Prop :=
  entries.Pairwise fun a b => b.again = true → key a.node ≠ key b.node

/-- The edges join the hub and the `ends`, which are the other nodes. -/
structure Joined (hub : ι) (joins : ι → ε → Prop) (g : Wheel ν ε) (ends : List ι) : Prop where
  nodup : (g.nodes.map key).Nodup
  has_hub : hub ∈ g.nodes.map key
  edges : List.Forall₂ joins ends g.edges
  mem_ends : ∀ i, i ∈ ends ↔ i ∈ g.nodes.map key ∧ i ≠ hub

variable {key} {hub : ι} {joins : ι → ε → Prop} {g : Wheel ν ε} {ends : List ι}

/-! ## Nodes -/

theorem mem_keys_attach (g : Wheel ν ε) (e : Entry ν ε) (i : ι) :
    i ∈ (attach key g e).nodes.map key ↔ i ∈ g.nodes.map key ∨ i = key e.node := by
  unfold attach
  split
  · rename_i hmem
    have hsame : i ∈ g.nodes.map key ↔ i ∈ g.nodes.map key ∨ i = key e.node := by
      constructor
      · exact Or.inl
      · rintro (h | rfl)
        · exact h
        · exact hmem
    split
    · exact hsame
    · exact hsame
  · rw [List.map_append, List.mem_append, List.map_singleton, List.mem_singleton]

theorem mem_nodes_attach {e : Entry ν ε} {n : ν} (h : n ∈ (attach key g e).nodes) :
    n ∈ g.nodes ∨ n = e.node := by
  unfold attach at h
  split at h
  · split at h
    · exact Or.inl h
    · exact Or.inl h
  · exact (List.mem_append.mp h).imp_right List.mem_singleton.mp

theorem mem_keys_grow (g : Wheel ν ε) (entries : List (Entry ν ε)) (i : ι) :
    i ∈ (grow key g entries).nodes.map key ↔
      i ∈ g.nodes.map key ∨ ∃ e ∈ entries, i = key e.node := by
  induction entries generalizing g with
  | nil => simp [grow]
  | cons e entries ih =>
    have hgrow : grow key g (e :: entries) = grow key (attach key g e) entries := rfl
    rw [hgrow, ih, mem_keys_attach]
    simp only [List.mem_cons, exists_eq_or_imp, or_assoc]

theorem mem_nodes_grow {entries : List (Entry ν ε)} {n : ν} (h : n ∈ (grow key g entries).nodes) :
    n ∈ g.nodes ∨ ∃ e ∈ entries, n = e.node := by
  induction entries generalizing g with
  | nil => exact Or.inl h
  | cons e entries ih =>
    rcases ih h with hattach | ⟨e', he', hn⟩
    · rcases mem_nodes_attach hattach with hn | hn
      · exact Or.inl hn
      · exact Or.inr ⟨e, List.mem_cons_self, hn⟩
    · exact Or.inr ⟨e', List.mem_cons_of_mem e he', hn⟩

/-! ## Edges -/

/-- One entry: its end is new, or the node has one more edge. -/
theorem Joined.attach (h : Joined key hub joins g ends) {e : Entry ν ε}
    (hjoins : joins (key e.node) e.edge) (hne : key e.node ≠ hub) :
    ∃ ends', Joined key hub joins (attach key g e) ends' ∧
      (ends'.Nodup ↔ ends.Nodup ∧ (e.again = true → key e.node ∉ g.nodes.map key)) := by
  unfold wheel.attach
  split
  · rename_i hmem
    have hend : key e.node ∈ ends := (h.mem_ends _).mpr ⟨hmem, hne⟩
    split
    · rename_i hagain
      refine ⟨ends ++ [key e.node],
        ⟨h.nodup, h.has_hub, List.rel_append h.edges (.cons hjoins .nil), fun i => ?_⟩, ?_⟩
      · rw [List.mem_append, List.mem_singleton, ← h.mem_ends]
        constructor
        · rintro (hi | rfl)
          · exact hi
          · exact hend
        · exact Or.inl
      · refine iff_of_false ?_ fun hnot => hnot.2 hagain hmem
        rw [List.nodup_append]
        exact fun hnodup => hnodup.2.2 _ hend _ (List.mem_singleton.mpr rfl) rfl
    · rename_i hagain
      exact ⟨ends, h, (and_iff_left fun hyes => absurd hyes hagain).symm⟩
  · rename_i hmem
    have hend : key e.node ∉ ends := fun hin => hmem ((h.mem_ends _).mp hin).1
    refine ⟨ends ++ [key e.node],
      ⟨?_, ?_, List.rel_append h.edges (.cons hjoins .nil), fun i => ?_⟩, ?_⟩
    · rw [List.map_append, List.map_singleton, List.nodup_append]
      refine ⟨h.nodup, List.nodup_singleton _, ?_⟩
      rintro a ha b hb rfl
      rw [List.mem_singleton.mp hb] at ha
      exact hmem ha
    · rw [List.map_append]
      exact List.mem_append_left _ h.has_hub
    · rw [List.map_append, List.mem_append, List.mem_append, List.map_singleton, List.mem_singleton,
        h.mem_ends]
      constructor
      · rintro (hi | rfl)
        · exact ⟨Or.inl hi.1, hi.2⟩
        · exact ⟨Or.inr rfl, hne⟩
      · rintro ⟨hi | rfl, hi'⟩
        · exact Or.inl ⟨hi, hi'⟩
        · exact Or.inr rfl
    · rw [and_iff_left fun _ => hmem, List.nodup_append]
      constructor
      · exact fun hnodup => hnodup.1
      · intro hnodup
        refine ⟨hnodup, List.nodup_singleton _, ?_⟩
        rintro a ha b hb rfl
        rw [List.mem_singleton.mp hb] at ha
        exact hend ha

/-- The ends are without repeats just when every entry that is linked again is new. -/
theorem Joined.grow (h : Joined key hub joins g ends) {entries : List (Entry ν ε)}
    (hjoins : ∀ e ∈ entries, joins (key e.node) e.edge) (hne : ∀ e ∈ entries, key e.node ≠ hub) :
    ∃ ends', Joined key hub joins (grow key g entries) ends' ∧
      (ends'.Nodup ↔ ends.Nodup ∧ LinkedOnce key entries ∧
        ∀ e ∈ entries, e.again = true → key e.node ∉ g.nodes.map key) := by
  induction entries generalizing g ends with
  | nil =>
    refine ⟨ends, h, (and_iff_left ⟨List.Pairwise.nil, ?_⟩).symm⟩
    simp
  | cons e entries ih =>
    obtain ⟨ends₁, h₁, hnodup₁⟩ :=
      h.attach (hjoins e List.mem_cons_self) (hne e List.mem_cons_self)
    obtain ⟨ends₂, h₂, hnodup₂⟩ := ih h₁ (fun e' he' => hjoins e' (List.mem_cons_of_mem e he'))
      fun e' he' => hne e' (List.mem_cons_of_mem e he')
    refine ⟨ends₂, h₂, hnodup₂.trans ?_⟩
    unfold LinkedOnce
    rw [hnodup₁, List.pairwise_cons, List.forall_mem_cons]
    simp only [mem_keys_attach, not_or]
    constructor
    · rintro ⟨⟨hends, hfirst⟩, hpairs, hrest⟩
      exact ⟨hends, ⟨fun e' he' hagain heq => (hrest e' he' hagain).2 heq.symm, hpairs⟩, hfirst,
        fun e' he' hagain => (hrest e' he' hagain).1⟩
    · rintro ⟨hends, ⟨hnew, hpairs⟩, hfirst, hrest⟩
      exact ⟨⟨hends, hfirst⟩, hpairs, fun e' he' hagain =>
        ⟨hrest e' he' hagain, (hnew e' he' hagain).symm⟩⟩

/-! ## One edge for each node -/

theorem countP_joins [∀ i, DecidablePred (joins i)] {edges : List ε}
    (hedges : List.Forall₂ joins ends edges) (hends : hub ∉ ends)
    (hone : ∀ i j e, i ≠ hub → j ≠ hub → joins i e → joins j e → i = j) {i : ι} (hi : i ≠ hub) :
    edges.countP (fun e => joins i e) = ends.count i := by
  induction hedges with
  | nil => rfl
  | @cons j e ends edges hj _ ih =>
    rw [List.mem_cons, not_or] at hends
    rw [List.countP_cons, List.count_cons, ih hends.2]
    have hiff : joins i e ↔ j = i := by
      constructor
      · exact fun h => hone j i e (Ne.symm hends.1) hi hj h
      · rintro rfl
        exact hj
    simp only [decide_eq_true_eq, hiff, beq_iff_eq]

/-- Every node but the hub has exactly one edge with it just when no end is repeated. -/
theorem Joined.one_edge_iff [∀ i, DecidablePred (joins i)] (h : Joined key hub joins g ends)
    (hone : ∀ i j e, i ≠ hub → j ≠ hub → joins i e → joins j e → i = j) :
    (∀ i ∈ g.nodes.map key, i ≠ hub → g.edges.countP (fun e => joins i e) = 1) ↔ ends.Nodup := by
  have hhub : hub ∉ ends := fun hin => ((h.mem_ends hub).mp hin).2 rfl
  rw [List.nodup_iff_count_le_one]
  constructor
  · intro hall i
    by_cases hi : i ∈ ends
    · obtain ⟨hmem, hne⟩ := (h.mem_ends i).mp hi
      exact Nat.le_of_eq ((countP_joins h.edges hhub hone hne).symm.trans (hall i hmem hne))
    · rw [List.count_eq_zero_of_not_mem hi]
      exact Nat.zero_le 1
  · intro hcount i hmem hne
    have hpos := List.count_pos_iff.mpr ((h.mem_ends i).mpr ⟨hmem, hne⟩)
    have hle := hcount i
    rw [countP_joins h.edges hhub hone hne]
    omega

omit [DecidableEq ι] in
theorem exists_end {edges : List ε} (hedges : List.Forall₂ joins ends edges) {e : ε}
    (he : e ∈ edges) : ∃ i ∈ ends, joins i e := by
  induction hedges with
  | nil => cases he
  | cons hi _ ih =>
    rcases List.mem_cons.mp he with rfl | he
    · exact ⟨_, List.mem_cons_self, hi⟩
    · obtain ⟨j, hj, hjoins⟩ := ih he
      exact ⟨j, List.mem_cons_of_mem _ hj, hjoins⟩

omit [DecidableEq ι] in
theorem Joined.edges_nodup (h : Joined key hub joins g ends)
    (hone : ∀ i j e, i ≠ hub → j ≠ hub → joins i e → joins j e → i = j) (hends : ends.Nodup) :
    g.edges.Nodup := by
  have hhub : hub ∉ ends := fun hin => ((h.mem_ends hub).mp hin).2 rfl
  obtain ⟨-, -, hedges, -⟩ := h
  generalize g.edges = edges at hedges
  induction hedges with
  | nil => exact List.nodup_nil
  | @cons i e ends edges hi hrest ih =>
    rw [List.mem_cons, not_or] at hhub
    rw [List.nodup_cons] at hends ⊢
    refine ⟨fun hmem => ?_, ih hends.2 hhub.2⟩
    obtain ⟨j, hj, hjoins⟩ := exists_end hrest hmem
    have hjhub : j ≠ hub := fun heq => hhub.2 (heq ▸ hj)
    exact hends.1 (hone i j e (Ne.symm hhub.1) hjhub hi hjoins ▸ hj)

end growth

end wheel
