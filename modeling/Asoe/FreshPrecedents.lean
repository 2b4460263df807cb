-- The precedents against a computation without a memo, and what the kept
-- vectors must be for the two to agree.
import Asoe.Precedents
import Asoe.Lib.Prog

open py prog

namespace asoe.precedents

/-! ## Without a memo -/

def embedding_afresh (cal : Calendar) (embedder : Embedder) (record : Record) :
    Except PyErr (Option Vec) :=
  match render_precedent_query cal record with
  | none => .ok none
  | some doc => some <$> embedder.embed doc

def score_afresh (cal : Calendar) (embedder : Embedder) (query_vec : Vec) (heap : Heap) :
    List ℕ → Except PyErr (List Scored)
  | [] => .ok []
  | ref :: refs => do
    match ← embedding_afresh cal embedder (heap ref) with
    | none => score_afresh cal embedder query_vec heap refs
    | some vec =>
      let sim ← cosine query_vec vec
      let rest ← score_afresh cal embedder query_vec heap refs
      return ⟨sim, resolved_at (heap ref), (heap ref).id, ref⟩ :: rest

def rank_afresh (cal : Calendar) (heap : Heap) (query_doc : String) (pool : List ℕ)
    (embedder : Embedder) : Except PyErr (List Scored) := do
  let query_vec ← embedder.embed query_doc
  rank cal (← score_afresh cal embedder query_vec heap (ranked_pool heap pool))

def semantic_afresh (cal : Calendar) (heap : Heap) (query_doc : String) (pool : List ℕ)
    (embedder : Embedder) (limit : ℤ) : List PrecedentCase :=
  match rank_afresh cal heap query_doc pool embedder with
  | .ok ranked => (upto limit ranked).map (semantic_row heap embedder)
  | .error _ => []

def pool_of (heap : Heap) (record : ℕ) (candidates : List ℕ) : List ℕ :=
  candidates.filter fun c => (heap c).id ≠ (heap record).id

def compose_afresh (cal : Calendar) (heap : Heap) (record : ℕ) (candidates : List ℕ)
    (embedder : Option Embedder) (limit : ℤ) (now : String) :
    Except PyErr (Option PrecedentsAnalysis) :=
  match render_precedent_query cal (heap record) with
  | none => .ok none
  | some query_doc =>
    let pool := pool_of heap record candidates
    if pool = [] then .ok none
    else compose_with cal heap record query_doc pool limit now
      ((embedder.map fun e => semantic_afresh cal heap query_doc pool e limit).getD [])

/-! ## Memos that are not stale -/

/-- A vector that is kept is that of the document as it is now. -/
def Fresh (cal : Calendar) (embedder : Embedder) (record : Record) : Prop :=
  ∀ v, record.context_embedding = some v → v ≠ [] →
    ∃ doc, render_precedent_query cal record = some doc ∧ embedder.embed doc = .ok v

/-- The two heaps differ at most in the vectors. -/
def SameRecords (heap heap' : Heap) : Prop :=
  ∀ ref, ∃ v, heap' ref = { heap ref with context_embedding := v }

theorem SameRecords.refl (heap : Heap) : SameRecords heap heap := fun ref =>
  ⟨(heap ref).context_embedding, rfl⟩

theorem SameRecords.trans {heap heap' heap'' : Heap} (h : SameRecords heap heap')
    (h' : SameRecords heap' heap'') : SameRecords heap heap'' := by
  intro ref
  obtain ⟨v, hv⟩ := h ref
  obtain ⟨w, hw⟩ := h' ref
  exact ⟨w, by rw [hw, hv]⟩

section memo

variable {cal : Calendar} {embedder : Embedder} {heap heap' : Heap}

theorem SameRecords.document (h : SameRecords heap heap') (ref : ℕ) :
    render_precedent_query cal (heap' ref) = render_precedent_query cal (heap ref) := by
  obtain ⟨v, hv⟩ := h ref
  rw [hv]
  rfl

theorem SameRecords.row (h : SameRecords heap heap') :
    semantic_row heap' embedder = semantic_row heap embedder := by
  funext s
  obtain ⟨v, hv⟩ := h s.cand
  unfold semantic_row
  rw [hv]
  rfl

theorem set_embedding_same (heap : Heap) (ref : ℕ) (v : Vec) :
    SameRecords heap (set_embedding heap ref v) := by
  intro r
  unfold set_embedding
  split
  · exact ⟨some v, rfl⟩
  · exact ⟨(heap r).context_embedding, rfl⟩

theorem set_embedding_fresh {ref : ℕ} {doc : String} {v : Vec}
    (hdoc : render_precedent_query cal (heap ref) = some doc) (hv : embedder.embed doc = .ok v)
    {r : ℕ} (h : Fresh cal embedder (heap r)) :
    Fresh cal embedder (set_embedding heap ref v r) := by
  intro w hw hne
  unfold set_embedding at hw ⊢
  by_cases hr : r = ref ∧ (heap r).frozen = false
  · rw [if_pos hr] at hw ⊢
    obtain rfl := Option.some.inj hw
    exact ⟨doc, hr.1 ▸ hdoc, hv⟩
  · rw [if_neg hr] at hw ⊢
    exact h w hw hne

/-- A record that is not stale has the vector of its document, and no record becomes stale. -/
theorem embedding_of_fresh {ref : ℕ} (h : Fresh cal embedder (heap ref)) :
    (embedding_of cal embedder heap ref).1 = embedding_afresh cal embedder (heap ref) ∧
      SameRecords heap (embedding_of cal embedder heap ref).2 ∧
      ∀ r, Fresh cal embedder (heap r) →
        Fresh cal embedder ((embedding_of cal embedder heap ref).2 r) := by
  unfold embedding_of embedding_afresh
  split
  · rename_i cached hcached
    obtain ⟨hmemo, hne⟩ := Option.filter_eq_some_iff.mp hcached
    obtain ⟨doc, hdoc, hembed⟩ := h cached hmemo (by simpa using hne)
    rw [hdoc]
    dsimp only
    rw [hembed]
    exact ⟨rfl, .refl heap, fun r hr => hr⟩
  · cases hdoc : render_precedent_query cal (heap ref) with
    | none => exact ⟨rfl, .refl heap, fun r hr => hr⟩
    | some doc =>
      dsimp only
      cases hembed : embedder.embed doc with
      | ok v => exact ⟨rfl, set_embedding_same heap ref v, fun r => set_embedding_fresh hdoc hembed⟩
      | error e => exact ⟨rfl, .refl heap, fun r hr => hr⟩

theorem SameRecords.afresh (h : SameRecords heap heap') (ref : ℕ) :
    embedding_afresh cal embedder (heap' ref) = embedding_afresh cal embedder (heap ref) := by
  unfold embedding_afresh
  rw [h.document]

theorem SameRecords.keys (h : SameRecords heap heap') (ref : ℕ) :
    resolved_at (heap' ref) = resolved_at (heap ref) ∧ (heap' ref).id = (heap ref).id := by
  obtain ⟨v, hv⟩ := h ref
  rw [hv]
  exact ⟨rfl, rfl⟩

theorem SameRecords.score_afresh (h : SameRecords heap heap') (query_vec : Vec) (refs : List ℕ) :
    score_afresh cal embedder query_vec heap' refs =
      score_afresh cal embedder query_vec heap refs := by
  induction refs with
  | nil => rfl
  | cons ref refs ih =>
    obtain ⟨hat, hid⟩ := h.keys ref
    unfold precedents.score_afresh
    rw [h.afresh, ih, hat, hid]

/-- Where no candidate is stale, the scores are those without a memo. -/
theorem score_fresh (query_vec : Vec) {refs : List ℕ}
    (h : ∀ ref ∈ refs, Fresh cal embedder (heap ref)) :
    (score cal embedder query_vec refs heap).1 = score_afresh cal embedder query_vec heap refs ∧
      SameRecords heap (score cal embedder query_vec refs heap).2 := by
  induction refs generalizing heap with
  | nil => exact ⟨rfl, .refl heap⟩
  | cons ref refs ih =>
    obtain ⟨hvec, hsame, hfresh⟩ := embedding_of_fresh (h ref List.mem_cons_self)
    have hrest : ∀ r ∈ refs, Fresh cal embedder ((embedding_of cal embedder heap ref).2 r) :=
      fun r hr => hfresh r (h r (List.mem_cons_of_mem ref hr))
    obtain ⟨hscores, hafter⟩ := ih hrest
    rw [hsame.score_afresh] at hscores
    obtain ⟨hat, hid⟩ := hsame.keys ref
    unfold score score_afresh
    generalize embedding_of cal embedder heap ref = found at hvec hsame hscores hafter hat hid
    obtain ⟨vec, heap'⟩ := found
    dsimp only at hvec hsame hscores hafter hat hid
    rw [← hvec]
    cases vec with
    | error e => exact ⟨rfl, hsame⟩
    | ok vec =>
      cases vec with
      | none => exact ⟨hscores, hsame.trans hafter⟩
      | some vec =>
        simp only [bind, Except.bind, pure, Except.pure]
        cases cosine query_vec vec with
        | error e => exact ⟨rfl, hsame⟩
        | ok sim =>
          dsimp only
          rw [hscores, hat, hid]
          refine ⟨?_, hsame.trans hafter⟩
          cases score_afresh cal embedder query_vec heap refs with
          | ok rest => rfl
          | error e => rfl

/-! ## One call -/

/-- No candidate that is ranked carries a stale vector. -/
def NoneStale (cal : Calendar) (embedder : Embedder) (heap : Heap) (pool : List ℕ) : Prop :=
  ∀ ref ∈ ranked_pool heap pool, Fresh cal embedder (heap ref)

theorem semantic_fresh {query_doc : String} {pool : List ℕ} {limit : ℤ}
    (h : NoneStale cal embedder heap pool) :
    (semantic_match cal heap query_doc pool embedder limit).1 =
        semantic_afresh cal heap query_doc pool embedder limit ∧
      SameRecords heap (semantic_match cal heap query_doc pool embedder limit).2 := by
  unfold semantic_match semantic_afresh rank_afresh
  cases embedder.embed query_doc with
  | error e => exact ⟨rfl, .refl heap⟩
  | ok query_vec =>
    obtain ⟨hscores, hsame⟩ := score_fresh query_vec h
    dsimp only
    rw [ok_bind rfl, ← hscores]
    generalize score cal embedder query_vec (ranked_pool heap pool) heap = found at hsame
    obtain ⟨scored, heap'⟩ := found
    dsimp only at hsame ⊢
    cases hranked : scored >>= rank cal with
    | error e => exact ⟨rfl, hsame⟩
    | ok ranked => exact ⟨congrArg (List.map · _) hsame.row, hsame⟩

theorem SameRecords.correlate (h : SameRecords heap heap') (record : ℕ) (pool : List ℕ)
    (limit : ℤ) :
    correlate_match cal heap' record pool limit = correlate_match cal heap record pool limit := by
  have hprojected : ∀ ref, (heap' ref).projected = (heap ref).projected := fun ref => by
    obtain ⟨v, hv⟩ := h ref
    rw [hv]
  have haccount : ∀ ref, (heap' ref).account_id = (heap ref).account_id := fun ref => by
    obtain ⟨v, hv⟩ := h ref
    rw [hv]
  have hrow : ∀ ref, to_precedent (heap' ref) .correlate none none =
      to_precedent (heap ref) .correlate none none := fun ref => by
    obtain ⟨v, hv⟩ := h ref
    rw [hv]
    rfl
  have hsort : sort_by_recency cal heap' = sort_by_recency cal heap := by
    funext refs
    unfold sort_by_recency
    simp only [(h.keys _).1, (h.keys _).2]
  unfold correlate_match
  simp only [hprojected, haccount, hrow, hsort]

/-- Where no candidate is stale, the composer gives what it would give without a memo. -/
theorem compose_fresh {record : ℕ} {candidates : List ℕ} {embedder : Option Embedder} {limit : ℤ}
    {now : String}
    (h : ∀ e, embedder = some e → NoneStale cal e heap (pool_of heap record candidates)) :
    (compose_precedents cal heap record candidates embedder limit now).1 =
      compose_afresh cal heap record candidates embedder limit now := by
  unfold compose_precedents compose_afresh
  cases render_precedent_query cal (heap record) with
  | none => rfl
  | some query_doc =>
    unfold pool_of at h ⊢
    dsimp only
    split
    · rfl
    · cases embedder with
      | none => rfl
      | some e =>
        obtain ⟨hitems, hsame⟩ := @semantic_fresh _ _ _ query_doc _ limit (h e rfl)
        dsimp only
        rw [hitems]
        unfold compose_with
        rw [hsame.correlate]
        rfl

end memo

end asoe.precedents
