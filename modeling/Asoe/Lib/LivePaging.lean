-- Pages of a listing that changes between the fetches. The cursor is a name
-- that is looked up in the listing made anew: as long as it is there no row
-- comes twice, and a row that is there at every fetch comes in any case.
import Asoe.Lib.Paging
import Asoe.Lib.Runs
import Mathlib.Data.List.Find

namespace paging

open runs

variable {α κ ι : Type}

/-! ## The client -/

section live

variable [DecidableEq ι]

/-- The rows after that of the cursor. A cursor that is not in the listing
starts over. -/
def resume (name : α → ι) (view : List α) : Option ι → List α
  | none => view
  | some c =>
    match view.findIdx? fun r => name r = c with
    | some i => view.drop (i + 1)
    | none => view

/-- A client that follows the cursors: what it was given, and how far it is. -/
structure Client (ι : Type) where
  returned : List ι := []
  cursor : Option ι := none
  done : Bool := false
  deriving DecidableEq

/-- The client fetches its next page, and is given those rows of it that it
may see. -/
def Client.fetch (name : α → ι) (visible : α → Bool) (page : Option ι → Page α ι)
    (client : Client ι) : Client ι :=
  if client.done then client
  else
    let page := page client.cursor
    ⟨client.returned ++ (page.rows.filter visible).map name, page.next_cursor, !page.has_more⟩

/-- The row of the cursor is in the listing. -/
def Client.Anchored (name : α → ι) (view : List α) (client : Client ι) : Prop :=
  client.done = false → ∀ c, client.cursor = some c → c ∈ view.map name

/-- A listing over a state that changes: `page` cuts the page after a cursor
from `view`, and `follows` says which of two names comes first. -/
structure Listing (σ δ φ α ι : Type) [DecidableEq ι] where
  change : δ → σ → σ
  name : α → ι
  limit : φ → Nat
  visible : φ → α → Bool
  page : φ → σ → Option ι → Page α ι
  view : φ → σ → List α
  Valid : σ → Prop
  Proper : δ → σ → Prop
  follows : σ → ι → ι → Prop
  valid_change : ∀ d s, Proper d s → Valid s → Valid (change d s)
  follows_change : ∀ d s, Proper d s → Valid s → ∀ a b, follows s a b → follows (change d s) a b
  irrefl : ∀ s, Valid s → ∀ a, ¬ follows s a a
  trans : ∀ s, Valid s → ∀ a b c, follows s a b → follows s b c → follows s a c
  page_eq : ∀ q s cursor, Valid s →
    page q s cursor = cut name (limit q) (resume name (view q s) cursor)
  ordered : ∀ q s, Valid s → ((view q s).map name).Pairwise (follows s)

/-- A change of the state, or the fetch of a page. -/
inductive LiveStep (δ φ : Type) where
  | change (d : δ)
  | fetch (query : φ)

variable {σ δ φ : Type}

def Listing.step (listing : Listing σ δ φ α ι) : LiveStep δ φ → σ × Client ι → σ × Client ι
  | .change d, (s, client) => (listing.change d s, client)
  | .fetch query, (s, client) =>
    (s, client.fetch listing.name (listing.visible query) (listing.page query s))

variable {name : α → ι} {limit : Nat} {view : List α} {client : Client ι}

theorem resume_found {c : ι} (h : c ∈ view.map name) :
    ∃ front r, view = front ++ [r] ++ resume name view (some c) ∧ name r = c := by
  have hfound : ∃ i, view.findIdx? (fun r => name r = c) = some i := by
    rw [← Option.isSome_iff_exists, List.findIdx?_isSome, List.any_eq_true]
    obtain ⟨r, hr, hname⟩ := List.mem_map.mp h
    exact ⟨r, hr, decide_eq_true hname⟩
  obtain ⟨i, hi⟩ := hfound
  obtain ⟨hlt, hname, -⟩ := List.findIdx?_eq_some_iff_getElem.mp hi
  refine ⟨view.take i, view[i], ?_, of_decide_eq_true hname⟩
  unfold resume
  dsimp only
  rw [hi, ← List.take_succ_eq_append_getElem hlt, List.take_append_drop]

theorem resume_missing {c : ι} (h : c ∉ view.map name) : resume name view (some c) = view := by
  have hmissing : view.findIdx? (fun r => name r = c) = none := by
    rw [List.findIdx?_eq_none_iff]
    intro r hr
    exact decide_eq_false fun hname => h (List.mem_map.mpr ⟨r, hr, hname⟩)
  unfold resume
  dsimp only
  rw [hmissing]

section order

variable {r : ι → ι → Prop} {visible : α → Bool} {page : Option ι → Page α ι}

/-- The client has each row at most once, and its cursor is behind them all. -/
def Client.Ordered (r : ι → ι → Prop) (client : Client ι) : Prop :=
  client.returned.Pairwise r ∧ (client.done = false →
    client.cursor = none ∧ client.returned = [] ∨
      ∃ c, client.cursor = some c ∧ ∀ a ∈ client.returned, a = c ∨ r a c)

/-- The row was given to the client, or it comes after its cursor. -/
def Client.Pending (r : ι → ι → Prop) (x : ι) (client : Client ι) : Prop :=
  x ∈ client.returned ∨ client.done = false ∧ ∀ c, client.cursor = some c → r c x

theorem resume_sublist (cursor : Option ι) : (resume name view cursor).Sublist view := by
  rcases cursor with _ | c
  · exact List.Sublist.refl _
  · by_cases hc : c ∈ view.map name
    · obtain ⟨front, row, hview, -⟩ := resume_found hc
      conv_rhs => rw [hview]
      exact List.sublist_append_right _ _
    · rw [resume_missing hc]

theorem fetch_ordered (hlimit : 1 ≤ limit) (htrans : ∀ a b c, r a b → r b c → r a c)
    (hpage : page client.cursor = cut name limit (resume name view client.cursor))
    (hview : (view.map name).Pairwise r) (hanchored : client.Anchored name view)
    (h : client.Ordered r) : (client.fetch name visible page).Ordered r := by
  unfold Client.fetch
  by_cases hdone : client.done = true
  · rw [if_pos hdone]
    exact h
  rw [if_neg hdone, hpage]
  have hopen : client.done = false := by simpa using hdone
  have hrest : ((resume name view client.cursor).map name).Pairwise r :=
    hview.sublist ((resume_sublist _).map name)
  have hahead : ∀ a ∈ client.returned, ∀ x ∈ (resume name view client.cursor).map name, r a x := by
    intro a ha x hx
    rcases h.2 hopen with ⟨-, hnil⟩ | ⟨c, hc, hlast⟩
    · rw [hnil] at ha
      cases ha
    · obtain ⟨front, row, hsplit, hrow⟩ := resume_found (hanchored hopen c hc)
      rw [hc] at hx
      rw [hsplit, List.map_append, List.map_append] at hview
      have hcx : r c x := (List.pairwise_append.mp hview).2.2 c (by simp [hrow]) x hx
      rcases hlast a ha with rfl | hac
      · exact hcx
      · exact htrans a c x hac hcx
  have hgiven : ∀ rows : List α, rows.Sublist (resume name view client.cursor) →
      (client.returned ++ (rows.filter visible).map name).Pairwise r := by
    intro rows hrows
    have hshown : ((rows.filter visible).map name).Sublist
        ((resume name view client.cursor).map name) :=
      (List.filter_sublist.trans hrows).map name
    exact List.pairwise_append.mpr
      ⟨h.1, hrest.sublist hshown, fun a ha x hx => hahead a ha x (hshown.subset hx)⟩
  by_cases hmore : limit < (resume name view client.cursor).length
  · obtain ⟨front, c, hfront, hcut⟩ := cut_more name hlimit hmore
    rw [hcut]
    have hsub : (front ++ [c]).Sublist (resume name view client.cursor) :=
      hfront ▸ List.take_sublist _ _
    refine ⟨hgiven _ hsub, fun _ => Or.inr ⟨name c, rfl, fun a ha => ?_⟩⟩
    rcases List.mem_append.mp ha with ha | ha
    · exact Or.inr (hahead a ha _ (List.mem_map_of_mem (hsub.subset (by simp))))
    · obtain ⟨row, hrow, rfl⟩ := List.mem_map.mp ha
      rcases List.mem_append.mp (List.mem_of_mem_filter hrow) with hrow | hrow
      · have hordered := hrest.sublist (hsub.map name)
        rw [List.map_append] at hordered
        exact Or.inr ((List.pairwise_append.mp hordered).2.2 _ (List.mem_map_of_mem hrow) _
          (by simp))
      · cases List.mem_singleton.mp hrow
        exact Or.inl rfl
  · rw [cut_last (by omega)]
    refine ⟨hgiven _ (List.Sublist.refl _), fun h => ?_⟩
    cases h

/-- A row that the listing has and the client may see does not get behind the
cursor. -/
theorem fetch_pending (hlimit : 1 ≤ limit) (hirrefl : ∀ a, ¬ r a a)
    (htrans : ∀ a b c, r a b → r b c → r a c)
    (hpage : page client.cursor = cut name limit (resume name view client.cursor))
    (hview : (view.map name).Pairwise r) {x : ι} {row : α} (hrow : row ∈ view)
    (hname : name row = x) (hvisible : visible row = true) (h : client.Pending r x) :
    (client.fetch name visible page).Pending r x := by
  unfold Client.fetch
  by_cases hdone : client.done = true
  · rw [if_pos hdone]
    exact h
  rw [if_neg hdone, hpage]
  rcases h with hgiven | ⟨-, hcursor⟩
  · exact Or.inl (List.mem_append_left _ hgiven)
  have hcomes : row ∈ resume name view client.cursor := by
    rcases hc : client.cursor with _ | c
    · exact hrow
    · by_cases hmem : c ∈ view.map name
      · obtain ⟨front, row', hsplit, hrow'⟩ := resume_found hmem
        have hcx : r c x := hcursor c hc
        rw [hsplit] at hrow
        rw [hsplit, List.map_append, List.map_append] at hview
        rcases List.mem_append.mp hrow with hbefore | hafter
        · rcases List.mem_append.mp hbefore with hbefore | hsame
          · have hxc : r x c := by
              refine (List.pairwise_append.mp (List.pairwise_append.mp hview).1).2.2 x ?_ c ?_
              · rw [← hname]
                exact List.mem_map_of_mem hbefore
              · simp [hrow']
            exact absurd (htrans x c x hxc hcx) (hirrefl x)
          · cases List.mem_singleton.mp hsame
            rw [← hname, hrow'] at hcx
            exact absurd hcx (hirrefl c)
        · exact hafter
      · rw [resume_missing hmem]
        exact hrow
  have hgiven : ∀ rows : List α, row ∈ rows → x ∈ (rows.filter visible).map name := by
    intro rows hmem
    rw [← hname]
    exact List.mem_map_of_mem (List.mem_filter.mpr ⟨hmem, hvisible⟩)
  by_cases hmore : limit < (resume name view client.cursor).length
  · obtain ⟨front, c, hfront, hcut⟩ := cut_more name hlimit hmore
    rw [hcut]
    have hsplit := List.take_append_drop limit (resume name view client.cursor)
    rw [hfront] at hsplit
    rw [← hsplit] at hcomes
    rcases List.mem_append.mp hcomes with hshown | hlater
    · exact Or.inl (List.mem_append_right _ (hgiven _ hshown))
    · refine Or.inr ⟨rfl, fun c' hc' => ?_⟩
      cases hc'
      have hordered : ((resume name view client.cursor).map name).Pairwise r :=
        hview.sublist ((resume_sublist _).map name)
      rw [← hsplit, List.map_append] at hordered
      refine (List.pairwise_append.mp hordered).2.2 (name c) (by simp) x ?_
      rw [← hname]
      exact List.mem_map_of_mem hlater
  · rw [cut_last (by omega)]
    exact Or.inl (List.mem_append_right _ (hgiven _ hcomes))

end order

/-! ### Runs -/

variable (listing : Listing σ δ φ α ι)

/-- The changes are ones that the state may go through, and no page is
empty by its limit. -/
def Listing.ProperStep : LiveStep δ φ → σ × Client ι → Prop
  | .change d, (s, _) => listing.Proper d s
  | .fetch query, _ => 1 ≤ listing.limit query

/-- The cursor that is sent is in the listing. -/
def Listing.AnchoredStep : LiveStep δ φ → σ × Client ι → Prop
  | .change _, _ => True
  | .fetch query, (s, client) => client.Anchored listing.name (listing.view query s)

/-- The row is in the listing that is fetched, and the client may see it. -/
def Listing.MatchedStep (x : ι) : LiveStep δ φ → σ × Client ι → Prop
  | .change _, _ => True
  | .fetch query, (s, _) => ∃ row ∈ listing.view query s,
      listing.name row = x ∧ listing.visible query row = true

variable {listing}

/-- While the cursors are in the listing, no row is given to the client
twice. -/
theorem run_once {s : σ} (hs : listing.Valid s)
    {steps : List (LiveStep δ φ)}
    (hproper : AllSteps listing.step listing.ProperStep (s, {}) steps)
    (hanchored : AllSteps listing.step listing.AnchoredStep (s, {}) steps) :
    (run listing.step (s, {}) steps).2.returned.Nodup := by
  have hnodup : ∀ st : σ × Client ι,
      (listing.Valid st.1 ∧ st.2.Ordered (listing.follows st.1)) → st.2.returned.Nodup := by
    intro st hst
    apply hst.2.1.imp
    intro a b hab hsame
    subst hsame
    exact listing.irrefl _ hst.1 _ hab
  refine hnodup _ (invariant
    (I := fun st : σ × Client ι => listing.Valid st.1 ∧ st.2.Ordered (listing.follows st.1))
    ?_ ⟨hs, List.Pairwise.nil, fun _ => Or.inl ⟨rfl, rfl⟩⟩ (allSteps_and hproper hanchored))
  rintro (d | query) ⟨s, client⟩ ⟨hproper, hanchored⟩ ⟨hvalid, hordered⟩
  · have hmono := listing.follows_change d s hproper hvalid
    refine ⟨listing.valid_change d s hproper hvalid, hordered.1.imp (hmono _ _), fun hopen => ?_⟩
    rcases hordered.2 hopen with hstart | ⟨c, hc, hlast⟩
    · exact Or.inl hstart
    · exact Or.inr ⟨c, hc, fun a ha => (hlast a ha).imp id (hmono _ _)⟩
  · exact ⟨hvalid, fetch_ordered hproper (listing.trans s hvalid)
      (listing.page_eq query s _ hvalid) (listing.ordered query s hvalid) hanchored hordered⟩

/-- A row that matched at every fetch is given to the client by the time that
there is no more. -/
theorem run_complete {s : σ} (hs : listing.Valid s)
    {steps : List (LiveStep δ φ)} {x : ι}
    (hproper : AllSteps listing.step listing.ProperStep (s, {}) steps)
    (hmatched : AllSteps listing.step (listing.MatchedStep x) (s, {}) steps)
    (hdone : (run listing.step (s, {}) steps).2.done = true) :
    x ∈ (run listing.step (s, {}) steps).2.returned := by
  have hinv : (run listing.step (s, {}) steps).2.Pending
      (listing.follows (run listing.step (s, {}) steps).1) x := by
    refine (invariant
      (I := fun st : σ × Client ι =>
        listing.Valid st.1 ∧ st.2.Pending (listing.follows st.1) x)
      ?_ ⟨hs, Or.inr ⟨rfl, fun c hc => ?_⟩⟩ (allSteps_and hproper hmatched)).2
    · rintro (d | query) ⟨s, client⟩ ⟨hproper, hmatched⟩ ⟨hvalid, hpending⟩
      · refine ⟨listing.valid_change d s hproper hvalid, hpending.imp id fun h => ⟨h.1, ?_⟩⟩
        intro c hc
        exact listing.follows_change d s hproper hvalid _ _ (h.2 c hc)
      · obtain ⟨row, hrow, hname, hvisible⟩ := hmatched
        exact ⟨hvalid, fetch_pending hproper (listing.irrefl s hvalid) (listing.trans s hvalid)
          (listing.page_eq query s _ hvalid) (listing.ordered query s hvalid) hrow hname hvisible
          hpending⟩
    · cases hc
  rcases hinv with hgiven | ⟨hopen, -⟩
  · exact hgiven
  · rw [hdone] at hopen
    cases hopen

end live

/-! ## Rows with a stamp -/

/-- A new row, or rows that are assigned to. -/
inductive RowChange (α : Type) where
  | add (row : α)
  | update (assign : α → α)

def RowChange.apply : RowChange α → List α → List α
  | .add row, rows => rows ++ [row]
  | .update assign, rows => rows.map assign

/-- The rows from the newest stamp down. Rows of one stamp keep their order. -/
def newest [LinearOrder κ] (stamp : α → κ) (rows : List α) : List α :=
  rows.mergeSort fun a b => decide (stamp b ≤ stamp a)

section stamps

variable [LinearOrder κ] {stamp : α → κ} {rows : List α}

theorem mem_newest {r : α} : r ∈ newest stamp rows ↔ r ∈ rows := List.mem_mergeSort

/-- Rows of one stamp stay in the order that they had. -/
theorem newest_stable {Q : α → α → Prop} (hQ : rows.Pairwise Q) :
    (newest stamp rows).Pairwise fun a b =>
      stamp b < stamp a ∨ stamp b = stamp a ∧ Q a b := by
  unfold newest
  rw [← List.mergeSort_zipIdx, List.pairwise_map]
  have hplaced : (rows.zipIdx.mergeSort
      (List.zipIdxLE fun a b => decide (stamp b ≤ stamp a))).Pairwise fun p q =>
        List.zipIdxLE (fun a b => decide (stamp b ≤ stamp a)) p q = true := by
    refine List.pairwise_mergeSort (List.zipIdxLE_trans fun a b c hab hbc => ?_)
      (List.zipIdxLE_total fun a b => ?_) _
    · simp only [decide_eq_true_eq] at hab hbc ⊢
      exact hbc.trans hab
    · simpa using le_total (stamp b) (stamp a)
  have hplaces : (rows.zipIdx.mergeSort
      (List.zipIdxLE fun a b => decide (stamp b ≤ stamp a))).Pairwise fun p q => p.2 ≠ q.2 := by
    have hnodup : (rows.zipIdx.map Prod.snd).Nodup := by
      rw [List.zipIdx_map_snd]
      exact List.nodup_range'
    exact ((List.mergeSort_perm _ _).pairwise_iff fun h => h.symm).mpr (List.pairwise_map.mp hnodup)
  refine (hplaced.and hplaces).imp_of_mem fun {p q} hp hq hpq => ?_
  obtain ⟨hle, hplace⟩ := hpq
  have hgetp := List.mem_zipIdx_iff_getElem?.mp (List.mem_mergeSort.mp hp)
  have hgetq := List.mem_zipIdx_iff_getElem?.mp (List.mem_mergeSort.mp hq)
  unfold List.zipIdxLE at hle
  by_cases hstamp : stamp q.1 ≤ stamp p.1
  · rw [if_pos (decide_eq_true hstamp)] at hle
    by_cases hback : stamp p.1 ≤ stamp q.1
    · rw [if_pos (decide_eq_true hback)] at hle
      have hlt : p.2 < q.2 := lt_of_le_of_ne (of_decide_eq_true hle) hplace
      obtain ⟨hp', hpget⟩ := List.getElem?_eq_some_iff.mp hgetp
      obtain ⟨hq', hqget⟩ := List.getElem?_eq_some_iff.mp hgetq
      have h := List.pairwise_iff_getElem.mp hQ p.2 q.2 hp' hq' hlt
      rw [hpget, hqget] at h
      exact Or.inr ⟨le_antisymm hstamp hback, h⟩
    · exact Or.inl (lt_of_not_ge hback)
  · rw [if_neg (by simpa using hstamp)] at hle
    cases hle

end stamps

section rows

variable {φ : Type} [DecidableEq ι] (name : α → ι)

/-- The stamp of the row of a name. -/
def stampOf (stamp : α → κ) (rows : List α) (a : ι) : Option κ :=
  (rows.find? fun r => name r = a).map stamp

/-- Names are told apart by the stamps of their rows, and by their places. -/
def Follows [LinearOrder κ] (stamp : α → κ) (rows : List α) (a b : ι) : Prop :=
  ∃ x, stampOf name stamp rows a = some x ∧ ∃ y, stampOf name stamp rows b = some y ∧
    (y < x ∨ y = x ∧ (rows.map name).idxOf a < (rows.map name).idxOf b)

/-- The names are unique, and each one is proper. -/
def NamedRows (P : ι → Prop) (rows : List α) : Prop :=
  (rows.map name).Nodup ∧ ∀ r ∈ rows, P (name r)

instance {P : ι → Prop} {rows : List α} [DecidablePred P] : Decidable (NamedRows name P rows) :=
  inferInstanceAs (Decidable (_ ∧ _))

/-- A new row has a name of its own; an assignment keeps name and stamp. -/
def RowChange.Proper (stamp : α → κ) (P : ι → Prop) : RowChange α → List α → Prop
  | .add row, rows => name row ∉ rows.map name ∧ P (name row)
  | .update assign, rows => ∀ r ∈ rows, name (assign r) = name r ∧ stamp (assign r) = stamp r

variable {name} {stamp : α → κ} {P : ι → Prop} {rows : List α}

theorem find_of_unique (hunique : (rows.map name).Nodup) {r : α} (hr : r ∈ rows) :
    rows.find? (fun r' => name r' = name r) = some r := by
  have hfound : (rows.find? fun r' => name r' = name r).isSome = true := by
    rw [List.find?_isSome]
    exact ⟨r, hr, by simp⟩
  obtain ⟨r', hr'⟩ := Option.isSome_iff_exists.mp hfound
  have hname : name r' = name r := by simpa using List.find?_some hr'
  rw [hr', List.inj_on_of_nodup_map hunique (List.mem_of_find?_eq_some hr') hr hname]

omit [DecidableEq ι] in
theorem namedRows_change (d : RowChange α) (hproper : d.Proper name stamp P rows)
    (h : NamedRows name P rows) : NamedRows name P (d.apply rows) := by
  cases d with
  | add row =>
    refine ⟨?_, fun r hr => ?_⟩
    · rw [RowChange.apply, List.map_append, List.nodup_append]
      refine ⟨h.1, by simp, fun a ha b hb hsame => ?_⟩
      subst hsame
      exact hproper.1 ((show a = name row by simpa using hb) ▸ ha)
    · rcases List.mem_append.mp hr with hr | hr
      · exact h.2 r hr
      · cases List.mem_singleton.mp hr
        exact hproper.2
  | update assign =>
    refine ⟨?_, fun r hr => ?_⟩
    · have hnames : (rows.map assign).map name = rows.map name := by
        rw [List.map_map]
        exact List.map_congr_left fun r hr => (hproper r hr).1
      rw [RowChange.apply, hnames]
      exact h.1
    · obtain ⟨r', hr', rfl⟩ := List.mem_map.mp hr
      rw [(hproper r' hr').1]
      exact h.2 r' hr'

theorem stampOf_mem (hunique : (rows.map name).Nodup) {r : α} (hr : r ∈ rows) :
    stampOf name stamp rows (name r) = some (stamp r) := by
  unfold stampOf
  rw [find_of_unique hunique hr]
  rfl

variable [LinearOrder κ]

theorem follows_irrefl (a : ι) : ¬ Follows name stamp rows a a := by
  rintro ⟨x, hx, y, hy, h⟩
  rw [hx] at hy
  cases hy
  rcases h with h | ⟨-, h⟩
  · exact lt_irrefl _ h
  · exact lt_irrefl _ h

theorem follows_trans {a b c : ι} (hab : Follows name stamp rows a b)
    (hbc : Follows name stamp rows b c) : Follows name stamp rows a c := by
  obtain ⟨x, hx, y, hy, hxy⟩ := hab
  obtain ⟨y', hy', z, hz, hyz⟩ := hbc
  rw [hy] at hy'
  cases hy'
  refine ⟨x, hx, z, hz, ?_⟩
  rcases hxy with hxy | ⟨hxy, hab⟩
  · rcases hyz with hyz | ⟨hyz, -⟩
    · exact Or.inl (hyz.trans hxy)
    · exact Or.inl (hyz ▸ hxy)
  · rcases hyz with hyz | ⟨hyz, hbc⟩
    · exact Or.inl (hxy ▸ hyz)
    · exact Or.inr ⟨hyz.trans hxy, hab.trans hbc⟩

/-- A change neither moves the rows that there are nor restamps them. -/
theorem follows_change (d : RowChange α) (hproper : d.Proper name stamp P rows) {a b : ι}
    (h : Follows name stamp rows a b) : Follows name stamp (d.apply rows) a b := by
  obtain ⟨x, hx, y, hy, hxy⟩ := h
  cases d with
  | add row =>
    have hkept : ∀ c z, stampOf name stamp rows c = some z →
        stampOf name stamp (rows ++ [row]) c = some z ∧
          ((rows ++ [row]).map name).idxOf c = (rows.map name).idxOf c := by
      intro c z hz
      unfold stampOf at hz ⊢
      obtain ⟨r, hr, hstamp⟩ := Option.map_eq_some_iff.mp hz
      have hname : name r = c := by simpa using List.find?_some hr
      have hmem : c ∈ rows.map name :=
        hname ▸ List.mem_map_of_mem (List.mem_of_find?_eq_some hr)
      refine ⟨by rw [List.find?_append, hr]; exact congrArg some hstamp, ?_⟩
      rw [List.map_append, List.idxOf_append_of_mem hmem]
    refine ⟨x, (hkept a x hx).1, y, (hkept b y hy).1, ?_⟩
    rw [RowChange.apply, (hkept a x hx).2, (hkept b y hy).2]
    exact hxy
  | update assign =>
    have hnames : (rows.map assign).map name = rows.map name := by
      rw [List.map_map]
      exact List.map_congr_left fun r hr => (hproper r hr).1
    have hkept : ∀ c z, stampOf name stamp rows c = some z →
        stampOf name stamp (rows.map assign) c = some z := by
      intro c z hz
      rw [← hz]
      unfold stampOf
      rw [List.find?_map, Option.map_map]
      have hsame : rows.find? ((fun r => decide (name r = c)) ∘ assign) =
          rows.find? fun r => name r = c := by
        refine List.find?_congr fun r hr => ?_
        show decide (name (assign r) = c) = decide (name r = c)
        rw [(hproper r hr).1]
      rw [hsame]
      refine Option.map_congr fun r hr => (hproper r (List.mem_of_find?_eq_some hr)).2
    refine ⟨x, hkept a x hx, y, hkept b y hy, ?_⟩
    rw [RowChange.apply, hnames]
    exact hxy

/-- Rows that are listed from the newest down follow each other. -/
theorem follows_newest (keep : α → Bool) (hunique : (rows.map name).Nodup) :
    ((newest stamp (rows.filter keep)).map name).Pairwise (Follows name stamp rows) := by
  have hplaces : rows.Pairwise fun a b =>
      (rows.map name).idxOf (name a) < (rows.map name).idxOf (name b) := by
    rw [List.pairwise_iff_getElem]
    intro i j hi hj hij
    have hplace : ∀ (k : Nat) (hk : k < rows.length), (rows.map name).idxOf (name rows[k]) = k := by
      intro k hk
      have hk' : k < (rows.map name).length := by simpa using hk
      have hget : (rows.map name)[k] = name rows[k] := List.getElem_map _
      rw [← hget]
      exact hunique.idxOf_getElem k hk'
    rw [hplace i hi, hplace j hj]
    exact hij
  rw [List.pairwise_map]
  refine (newest_stable (hplaces.filter keep)).imp_of_mem fun {a b} ha hb hab => ?_
  have hmema := List.mem_of_mem_filter (mem_newest.mp ha)
  have hmemb := List.mem_of_mem_filter (mem_newest.mp hb)
  exact ⟨stamp a, stampOf_mem hunique hmema, stamp b, stampOf_mem hunique hmemb, hab⟩

/-- The listing of the rows that a query keeps, the newest first. -/
def newestListing (name : α → ι) (stamp : α → κ) (P : ι → Prop) (limit : φ → Nat)
    (visible keep : φ → α → Bool) (page : φ → List α → Option ι → Page α ι)
    (hpage : ∀ q rows cursor, NamedRows name P rows → page q rows cursor =
      cut name (limit q) (resume name (newest stamp (rows.filter (keep q))) cursor)) :
    Listing (List α) (RowChange α) φ α ι where
  change := RowChange.apply
  name := name
  limit := limit
  visible := visible
  page := page
  view q rows := newest stamp (rows.filter (keep q))
  Valid := NamedRows name P
  Proper := RowChange.Proper name stamp P
  follows := Follows name stamp
  valid_change _ _ := namedRows_change _
  follows_change _ _ hproper _ _ _ := follows_change _ hproper
  irrefl _ _ := follows_irrefl
  trans _ _ _ _ _ := follows_trans
  page_eq := hpage
  ordered q _ hvalid := follows_newest (keep q) hvalid.1

end rows

end paging
