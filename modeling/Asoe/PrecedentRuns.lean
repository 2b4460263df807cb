-- Calls of the composer between updates of the records and changes of the
-- model: in which order the rows stand, and when a kept vector is no longer
-- that of the record.
import Asoe.FreshPrecedents
import Asoe.Lib.FloatMonotone
import Asoe.Lib.Runs
import Asoe.Lib.StableSort
import Asoe.Lib.Traverse
import Mathlib.Data.Prod.Lex

open py prog runs stable_sort

namespace asoe.precedents

/-! ## The order of the rows -/

/-- The instant of a text, and a text without one is older than all. -/
def instant (cal : Calendar) (ts : String) : WithBot ℚ :=
  match cal.timestamp ts with
  | .ok q => q
  | .error _ => ⊥

/-- Of two rows the first is the more similar, or as similar and resolved later, or of the smaller
id; two similarities are one that agree on six places. -/
def InOrder (cal : Calendar) (s t : Scored) : Prop :=
  (t.sim.roundTo 6).lt (s.sim.roundTo 6) = true ∨
    s.sim.roundTo 6 = t.sim.roundTo 6 ∧
      (instant cal t.resolved_at < instant cal s.resolved_at ∨
        instant cal s.resolved_at = instant cal t.resolved_at ∧ s.id ≤ t.id)

/-- The sort key of an instant. -/
def recency : WithBot ℚ → PyFloat
  | none => .inf false
  | some q => .fin (-q)

/-- The sort key of a scored candidate whose text has an instant, or none. -/
def keyOf (cal : Calendar) (s : Scored) : Key :=
  ⟨(s.sim.roundTo 6).neg, recency (instant cal s.resolved_at), s.id⟩

theorem inverted_returns (cal : Calendar) (ts : String) :
    returns (inverted cal ts) fun x => x = recency (instant cal ts) := by
  unfold inverted instant
  cases cal.timestamp ts with
  | ok q => exact (returns_ok _).mpr rfl
  | error e => exact returns_ite (fun _ => (returns_ok _).mpr rfl) fun _ => returns_error e

theorem key_of_returns (cal : Calendar) (s : Scored) :
    returns (key_of cal s) fun k => k = keyOf cal s := by
  refine returns_bind fun x hx => (returns_pure _).mpr ?_
  rw [inverted_returns cal s.resolved_at x hx]
  rfl

abbrev Place := (WithBot (WithTop ℚ))ᵒᵈ ×ₗ (WithBot ℚ)ᵒᵈ ×ₗ String

def place (cal : Calendar) (s : Scored) : Place :=
  toLex (OrderDual.toDual (s.sim.roundTo 6).place,
    toLex (OrderDual.toDual (instant cal s.resolved_at), s.id))

theorem lt_neg_neg (x y : PyFloat) : x.neg.lt y.neg = y.lt x := by
  cases x <;> cases y <;> simp [PyFloat.neg, PyFloat.lt, Bool.and_comm]

theorem eq_neg_neg (x y : PyFloat) : x.neg.eq y.neg = x.eq y := by
  cases x <;> cases y <;> simp [PyFloat.neg, PyFloat.eq]

theorem recency_lt (x y : WithBot ℚ) : (recency x).lt (recency y) = true ↔ y < x := by
  cases x <;> cases y <;> simp [recency, PyFloat.lt]

theorem recency_eq (x y : WithBot ℚ) : (recency x).eq (recency y) = true ↔ x = y := by
  cases x <;> cases y <;> simp [recency, PyFloat.eq]

theorem roundTo_ne_nan {digits : ℕ} {x : PyFloat} (h : x ≠ .nan) : x.roundTo digits ≠ .nan := by
  cases x with
  | nan => exact absurd rfl h
  | inf s => exact h
  | fin q => exact PyFloat.ofRat_ne_nan _

theorem eq_iff_of_ne_nan {x y : PyFloat} (hx : x ≠ .nan) : x.eq y = true ↔ x = y := by
  cases x <;> cases y <;> simp_all [PyFloat.eq]

variable {cal : Calendar}

theorem before_iff {s t : Scored} (hs : s.sim ≠ .nan) (ht : t.sim ≠ .nan) :
    (keyOf cal s).before (keyOf cal t) = true ↔ place cal s < place cal t := by
  have hs6 : s.sim.roundTo 6 ≠ .nan := roundTo_ne_nan hs
  have ht6 : t.sim.roundTo 6 ≠ .nan := roundTo_ne_nan ht
  unfold place
  rw [Prod.Lex.toLex_lt_toLex, Prod.Lex.toLex_lt_toLex]
  simp only [Key.before, keyOf, Bool.or_eq_true, Bool.and_eq_true, lt_neg_neg, eq_neg_neg,
    recency_lt, recency_eq, eq_iff_of_ne_nan hs6,
    PyFloat.lt_iff_place ht6 hs6, OrderDual.toDual_lt_toDual, OrderDual.toDual_inj,
    PyFloat.place_eq_iff hs6 ht6]
  exact or_congr_right (and_congr_right' (or_congr_right (and_congr_right' decide_eq_true_iff)))

theorem inOrder_of_place {s t : Scored} (hs : s.sim ≠ .nan) (ht : t.sim ≠ .nan)
    (h : place cal s ≤ place cal t) : InOrder cal s t := by
  have hs6 : s.sim.roundTo 6 ≠ .nan := roundTo_ne_nan hs
  have ht6 : t.sim.roundTo 6 ≠ .nan := roundTo_ne_nan ht
  unfold place at h
  rw [Prod.Lex.toLex_le_toLex, Prod.Lex.toLex_le_toLex] at h
  simpa only [InOrder, PyFloat.lt_iff_place ht6 hs6, OrderDual.toDual_lt_toDual,
    OrderDual.toDual_inj, PyFloat.place_eq_iff hs6 ht6] using h

theorem rank_eq {cal : Calendar} {scored ranked : List Scored}
    (h : rank cal scored = .ok ranked) :
    ranked = scored.insertionSort fun s t => (keyOf cal t).before (keyOf cal s) = false := by
  unfold rank at h
  cases hkeys : scored.mapM (key_of cal) with
  | error e =>
    rw [hkeys, error_bind rfl] at h
    cases h
  | ok keys =>
    rw [hkeys, ok_bind rfl] at h
    obtain rfl := Except.ok.inj h
    have hall : List.Forall₂ (fun s k => k = keyOf cal s) scored keys :=
      (mapM_ok_iff.mp hkeys).imp fun s k hk => key_of_returns cal s k hk
    have hmap : keys = scored.map (keyOf cal) := by
      clear hkeys h
      induction hall with
      | nil => rfl
      | cons hk _ ih => rw [hk, ih, List.map_cons]
    have hzip : keys.zip scored = scored.map fun s => (keyOf cal s, s) := by
      rw [hmap]
      clear hmap hall h hkeys
      induction scored with
      | nil => rfl
      | cons s scored ih => simp [ih]
    rw [hzip, sortByKey_eq]

theorem rank_ordered {scored ranked : List Scored}
    (h : rank cal scored = .ok ranked) (hnan : ∀ s ∈ scored, s.sim ≠ .nan) :
    ranked.Perm scored ∧ ranked.Pairwise (InOrder cal) := by
  have hsorts : SortsBy (fun s t => (keyOf cal t).before (keyOf cal s) = false) (place cal)
      scored := by
    intro s hs t ht
    rw [← not_lt, ← before_iff (hnan t ht) (hnan s hs), Bool.not_eq_true]
  obtain rfl := rank_eq h
  have hperm := List.perm_insertionSort
    (fun s t => (keyOf cal t).before (keyOf cal s) = false) scored
  refine ⟨hperm, (pairwise_sort hsorts).imp_of_mem fun hs ht hle => ?_⟩
  exact inOrder_of_place (hnan _ (hperm.subset hs)) (hnan _ (hperm.subset ht)) hle

/-! ## The rows of one call -/

/-- The similarity of a candidate, of its document and that of the record. -/
def Similarity (cal : Calendar) (embedder : Embedder) (heap : Heap) (record ref : ℕ)
    (x : PyFloat) : Prop :=
  ∃ doc query_vec vec, render_precedent_query cal (heap record) = some doc ∧
    embedder.embed doc = .ok query_vec ∧
    embedding_afresh cal embedder (heap ref) = .ok (some vec) ∧ cosine query_vec vec = .ok x

/-- A candidate stands with its own similarity, resolution and id. -/
structure ScoredRight (cal : Calendar) (embedder : Embedder) (heap : Heap) (record : ℕ)
    (s : Scored) : Prop where
  similarity : Similarity cal embedder heap record s.cand s.sim
  resolved : s.resolved_at = resolved_at (heap s.cand)
  id : s.id = (heap s.cand).id

/-- The rows of the ranking by an embedder, in their order. -/
def Semantic (cal : Calendar) (embedder : Embedder) (heap : Heap) (record : ℕ)
    (items : List PrecedentCase) : Prop :=
  ∃ ranked : List Scored, items = ranked.map (semantic_row heap embedder) ∧
    ranked.Pairwise (InOrder cal) ∧ ∀ s ∈ ranked, ScoredRight cal embedder heap record s

/-- The similarity that the later row shows, if both show one, is not higher. -/
def NotRising (row row' : PrecedentCase) : Prop :=
  ∀ x, row.similarity = some x → ∀ x', row'.similarity = some x' → x'.le x = true

structure RowsRight (cal : Calendar) (heap : Heap) (embedder : Option Embedder) (record : ℕ)
    (limit : ℤ) (items : List PrecedentCase) : Prop where
  short : items.length ≤ limit
  others : ∀ row ∈ items, row.record_id ≠ (heap record).id
  plain : ∀ row ∈ items, row.match_basis = .correlate → row.similarity = none
  sorted : items.Pairwise NotRising
  ranked : (∀ row ∈ items, row.match_basis = .correlate) ∨
    ∃ e, embedder = some e ∧ Semantic cal e heap record items

/-- A call answers as one that embeds every document with the current model, and its rows are in
order. -/
structure CallRight (cal : Calendar) (heap : Heap) (embedder : Option Embedder) (record : ℕ)
    (candidates : List ℕ) (limit : ℤ) (now : String)
    (outcome : Except PyErr (Option PrecedentsAnalysis)) : Prop where
  afresh : outcome = compose_afresh cal heap record candidates embedder limit now
  rows : ∀ analysis, outcome = .ok (some analysis) →
    RowsRight cal heap embedder record limit analysis.items

/-- No kept vector is stale, every similarity is a number, and two that agree on six places agree
on four. -/
structure Clear (cal : Calendar) (embedder : Embedder) (heap : Heap) (record : ℕ)
    (pool : List ℕ) : Prop where
  fresh : NoneStale cal embedder heap pool
  number : ∀ ref ∈ ranked_pool heap pool, ¬ Similarity cal embedder heap record ref .nan
  places : ∀ ref ∈ ranked_pool heap pool, ∀ ref' ∈ ranked_pool heap pool, ∀ x x',
    Similarity cal embedder heap record ref x → Similarity cal embedder heap record ref' x' →
      x.roundTo 6 = x'.roundTo 6 → x.roundTo 4 = x'.roundTo 4

section rows

variable {cal : Calendar} {embedder : Embedder} {heap : Heap} {record : ℕ}

theorem mem_sortByKey {κ α : Type} {before : κ → κ → Bool} {xs : List (κ × α)} {a : α} :
    a ∈ sortByKey before xs ↔ ∃ k, (k, a) ∈ xs := by
  unfold sortByKey
  simp [List.mem_insertionSort]

theorem mem_of_ranked {pool : List ℕ} {ref : ℕ} (h : ref ∈ ranked_pool heap pool) :
    ref ∈ pool := by
  obtain ⟨k, hk⟩ := mem_sortByKey.mp (List.mem_of_mem_take h)
  obtain ⟨c, hc, heq⟩ := List.mem_map.mp hk
  obtain rfl : c = ref := congrArg Prod.snd heq
  exact hc

theorem upto_sublist {α : Type} (limit : ℤ) (xs : List α) : (upto limit xs).Sublist xs := by
  unfold upto
  split
  · exact List.take_sublist _ _
  · exact List.take_sublist _ _

variable {limit : ℤ} {doc now : String} {pool candidates : List ℕ}

theorem length_upto {α : Type} (h : 0 ≤ limit) (xs : List α) :
    ((upto limit xs).length : ℤ) ≤ limit := by
  unfold upto
  rw [if_pos h, List.length_take]
  omega

/-- Every scored candidate is one of the list, and stands with what it has. -/
theorem score_afresh_right {query_vec : Vec}
    (hdoc : render_precedent_query cal (heap record) = some doc)
    (hquery : embedder.embed doc = .ok query_vec) (refs : List ℕ) :
    returns (score_afresh cal embedder query_vec heap refs) fun scored =>
      ∀ s ∈ scored, s.cand ∈ refs ∧ ScoredRight cal embedder heap record s := by
  induction refs with
  | nil => exact (returns_ok _).mpr (by simp)
  | cons ref refs ih =>
    unfold score_afresh
    refine returns_bind fun vec hvec => ?_
    cases vec with
    | none =>
      refine returns_mono ih fun scored h s hs => ?_
      exact ⟨List.mem_cons_of_mem ref (h s hs).1, (h s hs).2⟩
    | some vec =>
      refine returns_bind fun sim hsim => returns_bind fun rest hrest => ?_
      refine (returns_pure _).mpr fun s hs => ?_
      rcases List.mem_cons.mp hs with rfl | hs
      · exact ⟨List.mem_cons_self,
          ⟨doc, query_vec, vec, hdoc, hquery, hvec, hsim⟩, rfl, rfl⟩
      · obtain ⟨hmem, hright⟩ := ih rest hrest s hs
        exact ⟨List.mem_cons_of_mem ref hmem, hright⟩

theorem roundTo_not_rising {x x' : PyFloat} (hx : x ≠ .nan) (hx' : x' ≠ .nan)
    (h : (x'.roundTo 6).lt (x.roundTo 6) = true) :
    (x'.roundTo 4).le (x.roundTo 4) = true := by
  by_cases hle : x'.le x = true
  · exact PyFloat.roundTo_le hle
  · have hback : x.le x' = true := by
      rw [PyFloat.le_iff_place hx' hx, not_le] at hle
      exact (PyFloat.le_iff_place hx hx').mpr hle.le
    have hround : (x.roundTo 6).le (x'.roundTo 6) = true := PyFloat.roundTo_le hback
    rw [PyFloat.le_iff_place (roundTo_ne_nan hx) (roundTo_ne_nan hx')] at hround
    rw [PyFloat.lt_iff_place (roundTo_ne_nan hx') (roundTo_ne_nan hx)] at h
    exact absurd h (not_lt.mpr hround)

/-- The rows of the ranking are in order, and the similarities that they show do not rise. -/
theorem semantic_afresh_right
    (hdoc : render_precedent_query cal (heap record) = some doc)
    (h : Clear cal embedder heap record pool) :
    (∀ row ∈ semantic_afresh cal heap doc pool embedder limit, ∃ ref ∈ pool,
        row.record_id = (heap ref).id ∧ row.match_basis = .semantic) ∧
      (semantic_afresh cal heap doc pool embedder limit).Pairwise NotRising ∧
      Semantic cal embedder heap record (semantic_afresh cal heap doc pool embedder limit) := by
  unfold semantic_afresh
  cases hranked : rank_afresh cal heap doc pool embedder with
  | error e => exact ⟨by simp, List.Pairwise.nil, [], rfl, List.Pairwise.nil, by simp⟩
  | ok ranked =>
    dsimp only
    unfold rank_afresh at hranked
    cases hquery : embedder.embed doc with
    | error e =>
      rw [hquery, error_bind rfl] at hranked
      cases hranked
    | ok query_vec =>
      rw [hquery, ok_bind rfl] at hranked
      cases hscored : score_afresh cal embedder query_vec heap (ranked_pool heap pool) with
      | error e =>
        rw [hscored, error_bind rfl] at hranked
        cases hranked
      | ok scored =>
        rw [hscored, ok_bind rfl] at hranked
        have hright := score_afresh_right hdoc hquery (ranked_pool heap pool) scored hscored
        have hnan : ∀ s ∈ scored, s.sim ≠ .nan := by
          intro s hs hn
          exact h.number s.cand (hright s hs).1 (hn ▸ (hright s hs).2.similarity)
        obtain ⟨hperm, hordered⟩ := rank_ordered hranked hnan
        have hsub : ∀ s ∈ upto limit ranked, s ∈ scored := fun s hs =>
          hperm.subset ((upto_sublist limit ranked).subset hs)
        refine ⟨?_, ?_, upto limit ranked, rfl, hordered.sublist (upto_sublist limit ranked),
          fun s hs => (hright s (hsub s hs)).2⟩
        · intro row hrow
          obtain ⟨s, hs, rfl⟩ := List.mem_map.mp hrow
          exact ⟨s.cand, mem_of_ranked (hright s (hsub s hs)).1, rfl, rfl⟩
        · refine List.pairwise_map.mpr
            ((hordered.sublist (upto_sublist limit ranked)).imp_of_mem ?_)
          intro s t hs ht hst x hx x' hx'
          obtain rfl : s.sim.roundTo 4 = x := Option.some.inj hx
          obtain rfl : t.sim.roundTo 4 = x' := Option.some.inj hx'
          have hsn := hnan s (hsub s hs)
          have htn := hnan t (hsub t ht)
          obtain ⟨hsmem, hsright⟩ := hright s (hsub s hs)
          obtain ⟨htmem, htright⟩ := hright t (hsub t ht)
          rcases hst with hlt | ⟨heq, -⟩
          · exact roundTo_not_rising hsn htn hlt
          · rw [h.places s.cand hsmem t.cand htmem s.sim t.sim hsright.similarity
              htright.similarity heq,
              PyFloat.le_iff_place (roundTo_ne_nan htn) (roundTo_ne_nan htn)]

theorem sort_by_recency_subset (refs : List ℕ) :
    returns (sort_by_recency cal heap refs) fun ordered => ∀ ref ∈ ordered, ref ∈ refs := by
  refine returns_bind fun keys _ => (returns_pure _).mpr fun ref href => ?_
  obtain ⟨k, hk⟩ := mem_sortByKey.mp href
  exact (List.of_mem_zip hk).2

/-- The rows of one intent are those of other records, and show no similarity. -/
theorem correlate_match_right (pool : List ℕ) (limit : ℤ) :
    returns (correlate_match cal heap record pool limit) fun rows =>
      (0 ≤ limit → (rows.length : ℤ) ≤ limit) ∧ ∀ row ∈ rows, row.match_basis = .correlate ∧
        row.similarity = none ∧ ∃ ref ∈ pool, row.record_id = (heap ref).id := by
  unfold correlate_match
  cases given (heap record).projected.intent with
  | none => exact (returns_pure _).mpr ⟨id, by simp⟩
  | some intent =>
    refine returns_bind fun first hfirst => returns_bind fun second hsecond => ?_
    refine (returns_pure _).mpr ⟨fun hlimit => ?_, fun row hrow => ?_⟩
    · rw [List.length_map]
      exact length_upto hlimit _
    · obtain ⟨ref, href, rfl⟩ := List.mem_map.mp hrow
      refine ⟨rfl, rfl, ref, ?_, rfl⟩
      have hmem := (upto_sublist limit (first ++ second)).subset href
      rcases List.mem_append.mp hmem with hmem | hmem
      · have := sort_by_recency_subset _ first hfirst ref hmem
        exact (List.mem_filter.mp (List.mem_filter.mp this).1).1
      · have := sort_by_recency_subset _ second hsecond ref hmem
        exact (List.mem_filter.mp (List.mem_filter.mp this).1).1

theorem length_semantic_afresh (h : 0 ≤ limit) :
    ((semantic_afresh cal heap doc pool embedder limit).length : ℤ) ≤ limit := by
  unfold semantic_afresh
  split
  · rw [List.length_map]
    exact length_upto h _
  · exact h

theorem mem_pool_of {ref : ℕ} (h : ref ∈ pool_of heap record candidates) :
    (heap ref).id ≠ (heap record).id := by
  unfold pool_of at h
  simpa using (List.mem_filter.mp h).2

/-- The rows are those of the ranking, and without any those of the intent. -/
theorem compose_with_rows {semantic : List PrecedentCase} :
    returns (compose_with cal heap record doc pool limit now semantic) fun result =>
      ∀ analysis, result = some analysis →
        analysis.items = semantic ∨ correlate_match cal heap record pool limit = .ok analysis.items
    := by
  have hend : ∀ items, items = semantic ∨ correlate_match cal heap record pool limit = .ok items →
      returns (if items = [] then pure none else pure (some ⟨items, doc, now⟩) :
          Except PyErr (Option PrecedentsAnalysis)) fun result =>
        ∀ analysis, result = some analysis →
          analysis.items = semantic ∨
            correlate_match cal heap record pool limit = .ok analysis.items := by
    intro items hsource
    refine returns_ite (fun _ => (returns_pure _).mpr fun analysis h => ?_)
      fun _ => (returns_pure _).mpr fun analysis h => ?_
    · cases h
    · obtain rfl := Option.some.inj h
      exact hsource
  refine returns_ite (fun _ => returns_bind fun items hitems => ?_)
    fun _ => returns_bind fun items hitems => ?_
  · exact hend items (Or.inr hitems)
  · exact hend items (Or.inl (Except.ok.inj hitems).symm)

theorem rowsRight_of_correlate {embedder : Option Embedder}
    {rows : List PrecedentCase} (hlimit : 0 ≤ limit)
    (h : correlate_match cal heap record (pool_of heap record candidates) limit = .ok rows) :
    RowsRight cal heap embedder record limit rows := by
  obtain ⟨hshort, hall⟩ := correlate_match_right _ _ rows h
  refine ⟨hshort hlimit, fun row hrow => ?_, fun row hrow _ => (hall row hrow).2.1, ?_,
    Or.inl fun row hrow => (hall row hrow).1⟩
  · obtain ⟨ref, href, hid⟩ := (hall row hrow).2.2
    rw [hid]
    exact mem_pool_of href
  · refine List.pairwise_of_forall_mem_list fun row hrow row' _ x hx => ?_
    rw [(hall row hrow).2.1] at hx
    cases hx

theorem rowsRight_of_semantic (hlimit : 0 ≤ limit) (hdoc : render_precedent_query cal (heap record) = some doc)
    (h : Clear cal embedder heap record (pool_of heap record candidates)) :
    RowsRight cal heap (some embedder) record limit
      (semantic_afresh cal heap doc (pool_of heap record candidates) embedder limit) := by
  obtain ⟨hrows, hsorted, hranked⟩ := semantic_afresh_right hdoc h
  refine ⟨length_semantic_afresh hlimit, fun row hrow => ?_, fun row hrow hbasis => ?_,
    hsorted, Or.inr ⟨embedder, rfl, hranked⟩⟩
  · obtain ⟨ref, href, hid, -⟩ := hrows row hrow
    rw [hid]
    exact mem_pool_of href
  · obtain ⟨ref, -, -, hsem⟩ := hrows row hrow
    rw [hsem] at hbasis
    cases hbasis

theorem rowsRight_nil {embedder : Option Embedder} (hlimit : 0 ≤ limit) :
    RowsRight cal heap embedder record limit [] :=
  ⟨hlimit, by simp, by simp, List.Pairwise.nil, Or.inl (by simp)⟩

/-- Without a memo the rows of a call are right. -/
theorem compose_afresh_right {embedder : Option Embedder} (hlimit : 0 ≤ limit)
    (h : ∀ e, embedder = some e → Clear cal e heap record (pool_of heap record candidates)) :
    ∀ analysis, compose_afresh cal heap record candidates embedder limit now =
        .ok (some analysis) →
      RowsRight cal heap embedder record limit analysis.items := by
  intro analysis hanalysis
  unfold compose_afresh at hanalysis
  cases hdoc : render_precedent_query cal (heap record) with
  | none =>
    rw [hdoc] at hanalysis
    cases hanalysis
  | some doc =>
    rw [hdoc] at hanalysis
    dsimp only at hanalysis
    split at hanalysis
    · cases hanalysis
    · rcases compose_with_rows _ hanalysis analysis rfl with hitems | hcorrelate
      · rw [hitems]
        cases embedder with
        | none => exact rowsRight_nil hlimit
        | some e => exact rowsRight_of_semantic hlimit hdoc (h e rfl)
      · exact rowsRight_of_correlate hlimit hcorrelate

end rows

/-! ## Runs -/

structure State where
  heap : Heap
  embedder : Option Embedder

inductive Op where
  /-- The fields of a record become those of `new`; the id stays, and the vector on the object. -/
  | update (ref : ℕ) (new : Record)
  | use (embedder : Option Embedder)
  | compose (record : ℕ) (candidates : List ℕ) (limit : ℤ) (now : String)

def update (heap : Heap) (ref : ℕ) (new : Record) : Heap := fun r =>
  if r = ref then
    { new with
      id := (heap r).id
      frozen := (heap r).frozen
      context_embedding := (heap r).context_embedding }
  else heap r

def step (cal : Calendar) : Op → State → State
  | .update ref new, s => { s with heap := update s.heap ref new }
  | .use embedder, s => { s with embedder := embedder }
  | .compose record candidates limit now, s =>
    { s with
      heap := (compose_precedents cal s.heap record candidates s.embedder limit now).2 }

/-- A step is a call whose answer is right, or no call. -/
def StepRight (cal : Calendar) : Op → State → Prop
  | .compose record candidates limit now, s =>
    CallRight cal s.heap s.embedder record candidates limit now
      (compose_precedents cal s.heap record candidates s.embedder limit now).1
  | _, _ => True

/-- Before a call the limit is no less than zero, and no candidate that is ranked carries a stale
vector or a similarity that the two roundings tell apart. -/
def Settled (cal : Calendar) : Op → State → Prop
  | .compose record candidates limit _, s =>
    0 ≤ limit ∧ ∀ e, s.embedder = some e →
      Clear cal e s.heap record (pool_of s.heap record candidates)
  | _, _ => True

/-! ## Where no vector becomes stale -/

/-- The vectors of the state are those of `embedder`, and so are those to come. -/
structure Kept (cal : Calendar) (embedder : Embedder) (s : State) : Prop where
  fresh : ∀ ref, Fresh cal embedder (s.heap ref)
  alike : ∀ e, s.embedder = some e → e.embed = embedder.embed

/-- An update of a record with a vector leaves its document, and a new model embeds alike. -/
def KeepsDocuments (cal : Calendar) (embedder : Embedder) : Op → State → Prop
  | .update ref new, s => (s.heap ref).context_embedding.isSome →
      render_precedent_query cal new = render_precedent_query cal (s.heap ref)
  | .use e, _ => ∀ e', e = some e' → e'.embed = embedder.embed
  | .compose .., _ => True

variable {embedder : Embedder} {heap : Heap} {doc now : String} {limit : ℤ}

theorem Fresh.of_alike {e e' : Embedder} (h : e.embed = e'.embed)
    {record : Record} (hfresh : Fresh cal e record) : Fresh cal e' record := by
  intro v hv hne
  obtain ⟨doc, hdoc, hembed⟩ := hfresh v hv hne
  exact ⟨doc, hdoc, h ▸ hembed⟩

theorem score_keeps_fresh (query_vec : Vec) (refs : List ℕ)
    (h : ∀ ref, Fresh cal embedder (heap ref)) :
    ∀ ref, Fresh cal embedder ((score cal embedder query_vec refs heap).2 ref) := by
  induction refs generalizing heap with
  | nil => exact h
  | cons ref refs ih =>
    obtain ⟨-, -, hkeep⟩ := embedding_of_fresh (h ref)
    have hnext : ∀ r, Fresh cal embedder ((embedding_of cal embedder heap ref).2 r) :=
      fun r => hkeep r (h r)
    unfold score
    generalize embedding_of cal embedder heap ref = found at hnext
    obtain ⟨vec, heap'⟩ := found
    dsimp only at hnext
    rcases vec with e | _ | vec
    · exact hnext
    · exact ih hnext
    · dsimp only
      cases cosine query_vec vec with
      | error e => exact hnext
      | ok sim => exact ih hnext

theorem semantic_keeps_fresh (pool : List ℕ) (h : ∀ ref, Fresh cal embedder (heap ref)) :
    ∀ ref, Fresh cal embedder ((semantic_match cal heap doc pool embedder limit).2 ref) := by
  unfold semantic_match
  cases embedder.embed doc with
  | error e => exact h
  | ok query_vec =>
    have hscored := score_keeps_fresh query_vec (ranked_pool heap pool) h
    dsimp only
    generalize score cal embedder query_vec (ranked_pool heap pool) heap = found at hscored
    obtain ⟨scored, heap'⟩ := found
    dsimp only
    cases scored >>= rank cal with
    | error e => exact hscored
    | ok ranked => exact hscored

theorem compose_keeps_fresh {record : ℕ} {candidates : List ℕ} {embedder : Option Embedder}
    {e₀ : Embedder} (halike : ∀ e, embedder = some e → e.embed = e₀.embed)
    (h : ∀ ref, Fresh cal e₀ (heap ref)) :
    ∀ ref, Fresh cal e₀
      ((compose_precedents cal heap record candidates embedder limit now).2 ref) := by
  unfold compose_precedents
  cases render_precedent_query cal (heap record) with
  | none => exact h
  | some doc =>
    dsimp only
    split
    · exact h
    · cases embedder with
      | none => exact h
      | some e =>
        have hall : ∀ ref, Fresh cal e (heap ref) :=
          fun ref => (h ref).of_alike (halike e rfl).symm
        exact fun ref => Fresh.of_alike (halike e rfl) (semantic_keeps_fresh _ hall ref)

theorem update_keeps_fresh {ref : ℕ} {new : Record}
    (hdoc : (heap ref).context_embedding.isSome →
      render_precedent_query cal new = render_precedent_query cal (heap ref))
    (h : ∀ r, Fresh cal embedder (heap r)) (r : ℕ) :
    Fresh cal embedder (update heap ref new r) := by
  unfold update
  split
  · rename_i hr
    subst hr
    intro v hv hne
    obtain ⟨doc, hrendered, hembed⟩ := h r v hv hne
    have hsame : render_precedent_query cal new = some doc := by
      rw [hdoc (by rw [show (heap r).context_embedding = some v from hv]; rfl), hrendered]
    exact ⟨doc, hsame, hembed⟩
  · exact h r

/-- From records whose vectors are those of their documents, no call ever finds a stale vector. -/
theorem no_vector_becomes_stale {s : State} {ops : List Op} (hs : Kept cal embedder s)
    (h : AllSteps (step cal) (KeepsDocuments cal embedder) s ops) :
    AllSteps (step cal) (fun _ s => ∀ e, s.embedder = some e → ∀ pool,
      NoneStale cal e s.heap pool) s ops := by
  refine allSteps_mono (fun op s hop => ?_) (invariant_before (fun op s hop hkept => ?_) hs h)
  · intro e he pool ref _
    exact (hop.1.fresh ref).of_alike (hop.1.alike e he).symm
  · cases op with
    | update ref new => exact ⟨update_keeps_fresh hop hkept.fresh, hkept.alike⟩
    | use e => exact ⟨hkept.fresh, hop⟩
    | compose record candidates limit now =>
      exact ⟨compose_keeps_fresh hkept.alike hkept.fresh, hkept.alike⟩

/-! ## Every call -/

/-- In every run whose calls find no stale vector, each call answers as if it embedded afresh. -/
theorem precedents_are_those_of_embedding_afresh (cal : Calendar) (s : State) (ops : List Op)
    (h : AllSteps (step cal) (Settled cal) s ops) :
    AllSteps (step cal) (StepRight cal) s ops := by
  refine allSteps_mono (fun op s hop => ?_) h
  cases op with
  | update ref new => trivial
  | use embedder => trivial
  | compose record candidates limit now =>
    obtain ⟨hlimit, hclear⟩ := hop
    have hafresh := @compose_fresh cal s.heap record candidates s.embedder limit now
      fun e he => (hclear e he).fresh
    refine ⟨hafresh, ?_⟩
    rw [hafresh]
    exact compose_afresh_right hlimit hclear

/-! ## A note that is changed -/

def sampleCalendar : Calendar where
  from_iso _ := .error ⟨"ValueError", "Invalid isoformat string"⟩
  timestamp ts :=
    if ts = "2026-01-02T00:00:00+00:00" then .ok 1767312000
    else .error ⟨"ValueError", "Invalid isoformat string"⟩

def sampleEmbedder : Embedder where
  model := some "small"
  embed doc :=
    .ok (if doc = "customer=Acme | resolution=refunded" then [.fin 0, .fin 1] else [.fin 1, .fin 0])

def sampleRecord (id : String) (notes : Option String) : Record where
  id := id
  frozen := false
  parent_case_id := none
  account_id := none
  account_name := some "Acme"
  event_type := none
  updated_at := some "2026-01-02T00:00:00+00:00"
  resolved_action := none
  final_status := some "RESOLVED"
  resolution_notes := notes
  projected := { intent := none, shadow_verdict := none }
  context_embedding := none

def sampleState : State where
  heap ref := if ref = 0 then sampleRecord "exc-1" none else sampleRecord "exc-2" (some "credited")
  embedder := some sampleEmbedder

def sampleCall : Op := .compose 0 [1] 3 "2026-01-03T00:00:00+00:00"

theorem Similarity.unique {embedder : Embedder} {heap : Heap} {record ref : ℕ}
    {x x' : PyFloat} (h : Similarity cal embedder heap record ref x)
    (h' : Similarity cal embedder heap record ref x') : x = x' := by
  obtain ⟨doc, query_vec, vec, hdoc, hquery, hvec, hx⟩ := h
  obtain ⟨doc', query_vec', vec', hdoc', hquery', hvec', hx'⟩ := h'
  obtain rfl : doc = doc' := Option.some.inj (hdoc ▸ hdoc')
  obtain rfl : query_vec = query_vec' := Except.ok.inj (hquery ▸ hquery')
  obtain rfl : vec = vec' := Option.some.inj (Except.ok.inj (hvec ▸ hvec'))
  exact Except.ok.inj (hx ▸ hx')

theorem sample_similarity :
    Similarity sampleCalendar sampleEmbedder sampleState.heap 0 1 (.fin 1) :=
  ⟨"customer=Acme", [.fin 1, .fin 0], [.fin 1, .fin 0], by decide +kernel, by decide +kernel,
    by decide +kernel, by decide +kernel⟩

theorem sample_settled : AllSteps (step sampleCalendar) (Settled sampleCalendar) sampleState
    [sampleCall] := by
  have hpool : ∀ ref ∈ ranked_pool sampleState.heap (pool_of sampleState.heap 0 [1]), ref = 1 := by
    decide +kernel
  refine ⟨⟨by decide, ?_⟩, trivial⟩
  intro e he
  obtain rfl : sampleEmbedder = e := Option.some.inj he
  refine ⟨fun ref href v hv => ?_, fun ref href hnan => ?_,
    fun ref href ref' href' x x' hx hx' _ => ?_⟩
  · obtain rfl := hpool ref href
    cases hv
  · obtain rfl := hpool ref href
    cases hnan.unique sample_similarity
  · obtain rfl := hpool ref href
    obtain rfl := hpool ref' href'
    rw [hx.unique hx']

theorem precedents_of_a_first_call :
    AllSteps (step sampleCalendar) (StepRight sampleCalendar) sampleState [sampleCall] :=
  precedents_are_those_of_embedding_afresh sampleCalendar sampleState [sampleCall] sample_settled

/-- The similarities that the rows of an answer show. -/
def shown (outcome : Except PyErr (Option PrecedentsAnalysis)) : List (Option PyFloat) :=
  (outcome.toOption.join.map fun analysis => analysis.items.map (·.similarity)).getD []

/-- The record is resolved anew with other notes between two calls. -/
def sampleUpdate : Op := .update 1 (sampleRecord "exc-2" (some "refunded"))

/-- An update of its date leaves a record the vector of its document. -/
theorem a_new_date_makes_no_vector_stale :
    AllSteps (step sampleCalendar) (fun _ s => ∀ e, s.embedder = some e → ∀ pool,
      NoneStale sampleCalendar e s.heap pool) sampleState
      [sampleCall, .update 1 { sampleRecord "exc-2" (some "credited") with updated_at := none },
        sampleCall] := by
  have hkept : Kept sampleCalendar sampleEmbedder sampleState := by
    refine ⟨fun ref v hv => ?_, fun e he => congrArg Embedder.embed (Option.some.inj he).symm⟩
    have hnone : (sampleState.heap ref).context_embedding = none := by
      unfold sampleState
      dsimp only
      split <;> rfl
    cases hnone.symm.trans hv
  exact no_vector_becomes_stale hkept ⟨trivial, fun _ => by decide +kernel, trivial, trivial⟩

def updatedState : State := run (step sampleCalendar) sampleState [sampleCall, sampleUpdate]

/-- After the notes have changed, the row still shows the similarity of the old ones. -/
theorem an_updated_record_keeps_its_old_similarity :
    shown (compose_precedents sampleCalendar updatedState.heap 0 [1] updatedState.embedder 3
        "2026-01-03T00:00:00+00:00").1 = [some (.fin 1)] ∧
      shown (compose_afresh sampleCalendar updatedState.heap 0 [1] updatedState.embedder 3
        "2026-01-03T00:00:00+00:00") = [some (.fin 0)] ∧
      ¬ AllSteps (step sampleCalendar) (StepRight sampleCalendar) sampleState
        [sampleCall, sampleUpdate, sampleCall] := by
  have hkept : shown (compose_precedents sampleCalendar updatedState.heap 0 [1]
      updatedState.embedder 3 "2026-01-03T00:00:00+00:00").1 = [some (.fin 1)] := by
    decide +kernel
  have hfresh : shown (compose_afresh sampleCalendar updatedState.heap 0 [1] updatedState.embedder
      3 "2026-01-03T00:00:00+00:00") = [some (.fin 0)] := by
    decide +kernel
  refine ⟨hkept, hfresh, fun h => ?_⟩
  have hlast := h.2.2.1.afresh
  have hsame := hkept.symm.trans ((congrArg shown hlast).trans hfresh)
  exact absurd hsame (by decide +kernel)

end asoe.precedents
