-- Listings that are fetched page by page. A page ends in a cursor while there
-- is more. The cursor is a row, and the next page is cut from the rows whose
-- key is no higher than that of the cursor.
import Mathlib.Data.List.Sort
import Mathlib.Tactic.Common

namespace paging

variable {α κ ι : Type}

/-- A page of rows, and where the next one begins. -/
structure Page (α ι : Type) where
  rows : List α
  next_cursor : Option ι
  has_more : Bool
  deriving DecidableEq

/-- The first page of a listing; its last row is the cursor of the next one. -/
def cut (name : α → ι) (limit : Nat) (rows : List α) : Page α ι where
  rows := rows.take limit
  next_cursor := if limit < rows.length then (rows.take limit).getLast?.map name else none
  has_more := decide (limit < rows.length)

/-- The pages that a client gets who follows the cursor until there is no
more. -/
def follow (fetch : Option ι → Page α ι) : Nat → Option ι → Option (List (List α))
  | 0, _ => none
  | fuel + 1, cursor =>
    let page := fetch cursor
    if page.has_more then (follow fetch fuel page.next_cursor).map (page.rows :: ·)
    else some [page.rows]

/-! ## Pages -/

section pages

variable {name : α → ι} {limit : Nat} {rows : List α}

theorem cut_take : cut name limit (rows.take (limit + 1)) = cut name limit rows := by
  unfold cut
  have hlength : limit < (rows.take (limit + 1)).length ↔ limit < rows.length := by
    rw [List.length_take]
    omega
  have hrows : (rows.take (limit + 1)).take limit = rows.take limit := by
    rw [List.take_take, Nat.min_eq_left (Nat.le_succ limit)]
  simp only [hlength, hrows]

theorem cut_last (h : rows.length ≤ limit) : cut name limit rows = ⟨rows, none, false⟩ := by
  unfold cut
  rw [List.take_of_length_le h, if_neg (by omega), decide_eq_false (by omega)]

theorem cut_more (name : α → ι) (hlimit : 1 ≤ limit) (h : limit < rows.length) :
    ∃ front c, rows.take limit = front ++ [c] ∧
      cut name limit rows = ⟨front ++ [c], some (name c), true⟩ := by
  have hne : rows.take limit ≠ [] := by
    intro hnil
    have hlength := congrArg List.length hnil
    rw [List.length_take, List.length_nil] at hlength
    omega
  refine ⟨(rows.take limit).dropLast, (rows.take limit).getLast hne,
    (List.dropLast_append_getLast hne).symm, ?_⟩
  unfold cut
  rw [if_pos h, decide_eq_true h, List.getLast?_eq_getLast_of_ne_nil hne,
    List.dropLast_append_getLast hne]
  rfl

theorem cut_names : cut name limit rows =
    ⟨(cut id limit rows).rows, (cut id limit rows).next_cursor.map name,
      (cut id limit rows).has_more⟩ := by
  unfold cut
  by_cases h : limit < rows.length
  · simp [h]
  · simp [h]

theorem mem_of_next_cursor {c : α} (h : c ∈ (cut id limit rows).next_cursor) : c ∈ rows := by
  unfold cut at h
  dsimp only at h
  split at h
  · rw [Option.map_id] at h
    exact List.mem_of_mem_take (List.mem_of_getLast? h)
  · cases h

variable {fetch : Option ι → Page α ι}

theorem follow_last {cursor : Option ι} (h : (fetch cursor).has_more = false) (fuel : Nat) :
    follow fetch (fuel + 1) cursor = some [(fetch cursor).rows] := by
  rw [follow]
  simp [h]

theorem follow_more {cursor : Option ι} (h : (fetch cursor).has_more = true) (fuel : Nat) :
    follow fetch (fuel + 1) cursor =
      (follow fetch fuel (fetch cursor).next_cursor).map ((fetch cursor).rows :: ·) := by
  rw [follow]
  simp [h]

theorem follow_names {fetch' : Option κ → Page α κ} (rename : ι → κ) (P : ι → Prop)
    (h : ∀ cursor : Option ι, (∀ c ∈ cursor, P c) →
      fetch' (cursor.map rename) =
          ⟨(fetch cursor).rows, (fetch cursor).next_cursor.map rename, (fetch cursor).has_more⟩ ∧
        ∀ c ∈ (fetch cursor).next_cursor, P c)
    (fuel : Nat) (cursor : Option ι) (hcursor : ∀ c ∈ cursor, P c) :
    follow fetch' fuel (cursor.map rename) = follow fetch fuel cursor := by
  induction fuel generalizing cursor with
  | zero => rfl
  | succ fuel ih =>
    obtain ⟨hpage, hnext⟩ := h cursor hcursor
    rw [follow, follow, hpage]
    dsimp only
    rw [ih _ hnext]

end pages

/-! ## Pages by key -/

theorem pairwise_sorted {r : α → α → Prop} [DecidableRel r]
    (htrans : ∀ a b c, r a b → r b c → r a c) (htotal : ∀ a b, r a b ∨ r b a) (rows : List α) :
    (rows.mergeSort fun a b => decide (r a b)).Pairwise r := by
  have h : (rows.mergeSort fun a b => decide (r a b)).Pairwise
      fun a b => decide (r a b) = true := by
    refine List.pairwise_mergeSort (fun a b c hab hbc => ?_) (fun a b => ?_) _
    · exact decide_eq_true (htrans a b c (of_decide_eq_true hab) (of_decide_eq_true hbc))
    · simpa using htotal a b
  exact h.imp fun h => of_decide_eq_true h

section keyset

variable [LinearOrder κ] (key : α → κ)

theorem pairwise_sorted_by (rows : List α) :
    (rows.mergeSort fun a b => decide (key b ≤ key a)).Pairwise fun a b => key b ≤ key a :=
  pairwise_sorted (fun _ _ _ hab hbc => hbc.trans hab) (fun a b => le_total (key b) (key a)) rows

/-- The rows are listed from the highest key down. -/
def Descending (rows : List α) : Prop := rows.Pairwise fun a b => key b ≤ key a

/-- The keys of the rows, from the highest down. -/
def keys (rows : List α) : List κ := (rows.map key).mergeSort fun a b => decide (b ≤ a)

/-- An order of the rows by their key alone. Rows with one key come in any
order. -/
structure ByKey where
  sort : List α → List α
  perm : ∀ rows, (sort rows).Perm rows
  descending : ∀ rows, Descending key (sort rows)

variable [DecidableEq α]

/-- The rows from the cursor on, without its own. -/
def onward (rows : List α) : Option α → List α
  | none => rows
  | some c => rows.filter fun r => key r ≤ key c ∧ r ≠ c

/-- The page of a query by key. -/
def fetchByKey (order : ByKey key) (limit : Nat) (rows : List α) (cursor : Option α) : Page α α :=
  cut id limit (order.sort (onward key rows cursor))

/-- No page that another one follows ends in two rows with one key. -/
def Separated (limit : Nat) (s : List κ) : Prop :=
  ∀ m, 1 ≤ m → m * limit < s.length → 2 ≤ m * limit → s[m * limit - 2]? ≠ s[m * limit - 1]?

variable {key} {order : ByKey key} {limit : Nat} {rows : List α}

omit [DecidableEq α] in
theorem keys_eq {l : List α} (hperm : l.Perm rows) (hl : Descending key l) :
    l.map key = keys key rows := by
  have hsorted : (keys key rows).Pairwise (· ≥ ·) := pairwise_sorted_by id (rows.map key)
  have hmapped : (l.map key).Pairwise (· ≥ ·) := by
    rw [List.pairwise_map]
    exact hl
  refine List.Perm.eq_of_pairwise' (r := (· ≥ ·)) hmapped hsorted ?_
  exact (hperm.map key).trans (List.mergeSort_perm _ _).symm

/-- Every row that a cursor leaves to come is on a page, if there is a last
one. -/
theorem mem_of_onward {fuel : Nat} {cursor : Option α} {pages : List (List α)} {r : α}
    (hlimit : 1 ≤ limit) (h : follow (fetchByKey key order limit rows) fuel cursor = some pages)
    (hr : r ∈ onward key rows cursor) : r ∈ pages.flatten := by
  induction fuel generalizing cursor pages with
  | zero => cases h
  | succ fuel ih =>
    have hsorted : r ∈ order.sort (onward key rows cursor) :=
      (order.perm _).mem_iff.mpr hr
    by_cases hmore : limit < (order.sort (onward key rows cursor)).length
    · obtain ⟨front, c, hfront, hcut⟩ := cut_more id hlimit hmore
      have hfetch : fetchByKey key order limit rows cursor = ⟨front ++ [c], some c, true⟩ := hcut
      rw [follow_more (by rw [hfetch]), hfetch, Option.map_eq_some_iff] at h
      obtain ⟨later, hlater, rfl⟩ := h
      rw [List.flatten_cons, List.mem_append]
      rw [← List.take_append_drop limit (order.sort (onward key rows cursor)), hfront,
        List.mem_append] at hsorted
      rcases hsorted with hpage | hrest
      · exact Or.inl hpage
      · by_cases hc : r = c
        · exact Or.inl (by simp [hc])
        · refine Or.inr (ih hlater ?_)
          have hdescending := order.descending (onward key rows cursor)
          rw [← List.take_append_drop limit (order.sort (onward key rows cursor)), hfront]
            at hdescending
          have hle : key r ≤ key c :=
            (List.pairwise_append.mp hdescending).2.2 c (by simp) r hrest
          have hrow : r ∈ rows := by
            rcases cursor with _ | c'
            · exact hr
            · exact List.mem_of_mem_filter hr
          exact List.mem_filter.mpr ⟨hrow, by simpa using ⟨hle, hc⟩⟩
    · have hfetch : fetchByKey key order limit rows cursor =
          ⟨order.sort (onward key rows cursor), none, false⟩ := cut_last (by omega)
      rw [follow_last (by rw [hfetch]), hfetch] at h
      cases h
      simpa using hsorted

omit [DecidableEq α] in
/-- No row before the cursor has its key when the row right before it has
another one. -/
theorem gap_iff {front rest : List α} {c : α} (hsorted : Descending key (front ++ [c] ++ rest)) :
    (2 ≤ (front ++ [c]).length →
        ((front ++ [c] ++ rest).map key)[(front ++ [c]).length - 2]? ≠
          ((front ++ [c] ++ rest).map key)[(front ++ [c]).length - 1]?) ↔
      ∀ r ∈ front, key r ≠ key c := by
  rcases List.eq_nil_or_concat' front with rfl | ⟨front, b, rfl⟩
  · simp
  · have hb : ((front ++ [b] ++ [c] ++ rest).map key)[(front ++ [b] ++ [c]).length - 2]? =
        some (key b) := by simp
    have hc : ((front ++ [b] ++ [c] ++ rest).map key)[(front ++ [b] ++ [c]).length - 1]? =
        some (key c) := by simp
    rw [hb, hc]
    constructor
    · intro hgap r hr hsame
      have hbc : key b ≠ key c := fun h => hgap (by simp) (congrArg some h)
      rcases List.mem_append.mp hr with hr | hr
      · have hshown := (List.pairwise_append.mp hsorted).1
        have hcb : key c ≤ key b := (List.pairwise_append.mp hshown).2.2 b (by simp) c (by simp)
        have hbr : key b ≤ key r :=
          (List.pairwise_append.mp (List.pairwise_append.mp hshown).1).2.2 r hr b (by simp)
        exact hbc (le_antisymm (hsame ▸ hbr) hcb)
      · cases List.mem_singleton.mp hr
        exact hbc hsame
    · intro hall _ hsame
      exact hall b (by simp) (Option.some.inj hsame)

/-- The rows from the cursor on are those that were not returned, when none of
the others that were has the key of the cursor. -/
theorem onward_perm {front rest : List α} {c : α} (hrows : rows.Nodup)
    (hperm : (front ++ [c] ++ rest).Perm rows) (hsorted : Descending key (front ++ [c] ++ rest))
    (hgap : ∀ r ∈ front, key r ≠ key c) : (onward key rows (some c)).Perm rest := by
  have hnodup : (front ++ [c] ++ rest).Nodup := hperm.nodup_iff.mpr hrows
  rw [List.nodup_append] at hnodup
  refine (List.perm_ext_iff_of_nodup (hrows.filter _) hnodup.2.1).mpr fun r => ?_
  rw [List.mem_filter, ← hperm.mem_iff, List.mem_append, List.mem_append, decide_eq_true_iff]
  constructor
  · rintro ⟨(hr | hr) | hr, hle, hne⟩
    · have hge : key c ≤ key r :=
        (List.pairwise_append.mp (List.pairwise_append.mp hsorted).1).2.2 r hr c (by simp)
      exact absurd (le_antisymm hle hge) (hgap r hr)
    · exact absurd (List.mem_singleton.mp hr) hne
    · exact hr
  · intro hr
    refine ⟨Or.inr hr, (List.pairwise_append.mp hsorted).2.2 c (by simp) r hr, ?_⟩
    exact (hnodup.2.2 c (by simp) r hr).symm

/-- What a client has and what its cursor leaves to come are all the rows. -/
def Reached (order : ByKey key) (rows shown : List α) (cursor : Option α) : Prop :=
  (shown ++ order.sort (onward key rows cursor)).Perm rows ∧
    Descending key (shown ++ order.sort (onward key rows cursor))

omit [LinearOrder κ] [DecidableEq α] in
theorem split_at_cursor {shown front sorted : List α} {c : α}
    (hpage : sorted.take limit = front ++ [c]) :
    shown ++ sorted = (shown ++ front) ++ [c] ++ sorted.drop limit := by
  conv_lhs => rw [← List.take_append_drop limit sorted, hpage]
  simp

theorem reached_next {shown front : List α} {cursor : Option α} {c : α} (hrows : rows.Nodup)
    (hreached : Reached order rows shown cursor)
    (hpage : (order.sort (onward key rows cursor)).take limit = front ++ [c])
    (hgap : ∀ r ∈ shown ++ front, key r ≠ key c) :
    Reached order rows (shown ++ (front ++ [c])) (some c) := by
  obtain ⟨hperm, hsorted⟩ := hreached
  rw [split_at_cursor hpage] at hperm hsorted
  have hrest : (order.sort (onward key rows (some c))).Perm
      ((order.sort (onward key rows cursor)).drop limit) :=
    (order.perm _).trans (onward_perm hrows hperm hsorted hgap)
  rw [Reached, ← List.append_assoc]
  refine ⟨(hrest.append_left _).trans hperm, List.pairwise_append.mpr ⟨?_, order.descending _, ?_⟩⟩
  · exact (List.pairwise_append.mp hsorted).1
  · intro a ha b hb
    exact (List.pairwise_append.mp hsorted).2.2 a ha b (hrest.mem_iff.mp hb)

theorem gap_iff_keys {m : Nat} {shown front : List α} {cursor : Option α} {c : α}
    (hshown : shown.length = m * limit) (hreached : Reached order rows shown cursor)
    (hmore : limit < (order.sort (onward key rows cursor)).length)
    (hpage : (order.sort (onward key rows cursor)).take limit = front ++ [c]) :
    (2 ≤ (m + 1) * limit →
        (keys key rows)[(m + 1) * limit - 2]? ≠ (keys key rows)[(m + 1) * limit - 1]?) ↔
      ∀ r ∈ shown ++ front, key r ≠ key c := by
  obtain ⟨hperm, hsorted⟩ := hreached
  rw [split_at_cursor hpage] at hperm hsorted
  have hlength : (shown ++ front ++ [c]).length = (m + 1) * limit := by
    have hfront := congrArg List.length hpage
    rw [List.length_take, Nat.min_eq_left hmore.le] at hfront
    rw [List.append_assoc, List.length_append, hshown, ← hfront, Nat.succ_mul]
  rw [← keys_eq hperm hsorted, ← hlength]
  exact gap_iff hsorted

/-- The pages from a cursor on are complete, when the rows that end them are
set apart from those before. -/
theorem follow_complete (hlimit : 1 ≤ limit) (hrows : rows.Nodup) (n : Nat) {m : Nat}
    {shown : List α} {cursor : Option α} (hn : (order.sort (onward key rows cursor)).length < n)
    (hshown : shown.length = m * limit) (hreached : Reached order rows shown cursor)
    (hseparated : ∀ m', m < m' → m' * limit < rows.length → 2 ≤ m' * limit →
      (keys key rows)[m' * limit - 2]? ≠ (keys key rows)[m' * limit - 1]?) :
    ∃ fuel pages, follow (fetchByKey key order limit rows) fuel cursor = some pages ∧
      (shown ++ pages.flatten).Perm rows ∧ Descending key (shown ++ pages.flatten) := by
  induction n generalizing m shown cursor with
  | zero => exact absurd hn (Nat.not_lt_zero _)
  | succ n ih =>
    by_cases hmore : limit < (order.sort (onward key rows cursor)).length
    · obtain ⟨front, c, hfront, hcut⟩ := cut_more id hlimit hmore
      have hfetch : fetchByKey key order limit rows cursor = ⟨front ++ [c], some c, true⟩ := hcut
      have hlength : shown.length + (order.sort (onward key rows cursor)).length =
          rows.length := by
        rw [← List.length_append]
        exact hreached.1.length_eq
      have hgap : ∀ r ∈ shown ++ front, key r ≠ key c := by
        refine (gap_iff_keys hshown hreached hmore hfront).mp (hseparated (m + 1) (by omega) ?_)
        rw [Nat.succ_mul]
        omega
      have hnext := reached_next hrows hreached hfront hgap
      have hpage : (front ++ [c]).length = limit := by
        rw [← hfront, List.length_take, Nat.min_eq_left hmore.le]
      have hlater : (shown ++ (front ++ [c])).length +
          (order.sort (onward key rows (some c))).length = rows.length := by
        rw [← List.length_append]
        exact hnext.1.length_eq
      rw [List.length_append, hpage] at hlater
      obtain ⟨fuel, pages, hfollow, hall⟩ := ih (m := m + 1) (by omega)
        (by rw [List.length_append, hpage, hshown, Nat.succ_mul]) hnext
        fun m' hm' => hseparated m' (by omega)
      refine ⟨fuel + 1, (front ++ [c]) :: pages, ?_, ?_⟩
      · rw [follow_more (by rw [hfetch]), hfetch, hfollow]
        rfl
      · rw [List.flatten_cons, ← List.append_assoc]
        exact hall
    · have hfetch : fetchByKey key order limit rows cursor =
          ⟨order.sort (onward key rows cursor), none, false⟩ := cut_last (by omega)
      refine ⟨1, [order.sort (onward key rows cursor)], ?_, ?_⟩
      · rw [follow_last (by rw [hfetch]), hfetch]
      · simpa [Reached] using hreached

/-- When no row is on two of the pages from a cursor on, the rows that end
them are set apart. -/
theorem separated_of_follow (hlimit : 1 ≤ limit) (hrows : rows.Nodup) {fuel m : Nat}
    {shown : List α} {cursor : Option α} {pages : List (List α)}
    (hfollow : follow (fetchByKey key order limit rows) fuel cursor = some pages)
    (hshown : shown.length = m * limit) (hreached : Reached order rows shown cursor)
    (honce : (shown ++ pages.flatten).Nodup) :
    ∀ m', m < m' → m' * limit < rows.length → 2 ≤ m' * limit →
      (keys key rows)[m' * limit - 2]? ≠ (keys key rows)[m' * limit - 1]? := by
  induction fuel generalizing m shown cursor pages with
  | zero => cases hfollow
  | succ fuel ih =>
    have hlength : shown.length + (order.sort (onward key rows cursor)).length =
        rows.length := by
      rw [← List.length_append]
      exact hreached.1.length_eq
    by_cases hmore : limit < (order.sort (onward key rows cursor)).length
    · obtain ⟨front, c, hfront, hcut⟩ := cut_more id hlimit hmore
      have hfetch : fetchByKey key order limit rows cursor = ⟨front ++ [c], some c, true⟩ := hcut
      rw [follow_more (by rw [hfetch]), hfetch, Option.map_eq_some_iff] at hfollow
      obtain ⟨later, hlater, rfl⟩ := hfollow
      rw [List.flatten_cons, ← List.append_assoc] at honce
      have hpage : (front ++ [c]).length = limit := by
        rw [← hfront, List.length_take, Nat.min_eq_left hmore.le]
      -- A row that was shown and has the key of the cursor comes once more.
      have hgap : ∀ r ∈ shown ++ front, key r ≠ key c := by
        intro r hr hsame
        have hagain : r ∈ later.flatten := by
          refine mem_of_onward hlimit hlater (List.mem_filter.mpr ⟨?_, ?_⟩)
          · refine hreached.1.mem_iff.mp ?_
            rw [split_at_cursor hfront]
            simp only [List.mem_append] at hr ⊢
            tauto
          · have hne : r ≠ c := by
              rintro rfl
              have hnodup := (List.nodup_append.mp honce).1
              rw [← List.append_assoc] at hnodup
              exact (List.nodup_append.mp hnodup).2.2 r hr r (by simp) rfl
            simpa using ⟨hsame.le, hne⟩
        refine (List.nodup_append.mp honce).2.2 r ?_ r hagain rfl
        simp only [List.mem_append] at hr ⊢
        tauto
      intro m' hm' hshort htwo
      by_cases hsame : m' = m + 1
      · subst hsame
        exact (gap_iff_keys hshown hreached hmore hfront).mpr hgap htwo
      · exact ih (m := m + 1) hlater
          (by rw [List.length_append, hpage, hshown, Nat.succ_mul])
          (reached_next hrows hreached hfront hgap) honce m' (by omega) hshort htwo
    · intro m' hm' hshort _
      have hpast : (m + 1) * limit ≤ m' * limit := Nat.mul_le_mul_right _ hm'
      rw [Nat.succ_mul] at hpast
      omega

theorem pages_complete_iff (order : ByKey key) (hlimit : 1 ≤ limit) (hrows : rows.Nodup) :
    (∃ fuel pages, follow (fetchByKey key order limit rows) fuel none = some pages ∧
      pages.flatten.Perm rows ∧ Descending key pages.flatten) ↔
      Separated limit (keys key rows) := by
  have hreached : Reached order rows [] none := ⟨order.perm rows, order.descending rows⟩
  have hlength : (keys key rows).length = rows.length := by
    rw [keys, List.length_mergeSort, List.length_map]
  unfold Separated
  rw [hlength]
  constructor
  · rintro ⟨fuel, pages, hfollow, hperm, -⟩
    exact separated_of_follow (m := 0) hlimit hrows hfollow (by simp) hreached
      (hperm.nodup_iff.mpr hrows)
  · intro hseparated
    exact follow_complete (m := 0) hlimit hrows _ (Nat.lt_succ_self _) (by simp) hreached
      hseparated

/-! ### The first page alone -/

/-- No more rows are as high as this one than the first page takes. -/
def Within (key : α → κ) (rows : List α) (limit : Nat) (r : α) : Prop :=
  (rows.filter fun r' => key r ≤ key r').length ≤ limit

instance {r : α} : Decidable (Within key rows limit r) :=
  inferInstanceAs (Decidable (_ ≤ _))

omit [DecidableEq α] in
/-- A row with few rows as high as it is on the first page. -/
theorem not_mem_drop {r : α} (hwithin : Within key rows limit r) :
    r ∉ (order.sort rows).drop limit := by
  intro hr
  have hsorted := order.descending rows
  rw [← List.take_append_drop limit (order.sort rows)] at hsorted
  have htake : ((order.sort rows).take limit).filter (fun r' => key r ≤ key r') =
      (order.sort rows).take limit := by
    refine List.filter_eq_self.mpr fun r' hr' => decide_eq_true ?_
    exact (List.pairwise_append.mp hsorted).2.2 r' hr' r hr
  have hdrop : 0 < (((order.sort rows).drop limit).filter fun r' => key r ≤ key r').length :=
    List.length_pos_of_mem (List.mem_filter.mpr ⟨hr, decide_eq_true le_rfl⟩)
  have hlength := ((order.perm rows).filter fun r' => key r ≤ key r').length_eq
  rw [← List.take_append_drop limit (order.sort rows), List.filter_append, htake,
    List.length_append, List.length_take] at hlength
  unfold Within at hwithin
  have hpast := List.length_pos_of_mem hr
  rw [List.length_drop] at hpast
  omega

/-- One row comes behind the others with its key. -/
def before (key : α → κ) (r a b : α) : Prop := key b < key a ∨ key a = key b ∧ (a = r → b = r)

instance {r a b : α} : Decidable (before key r a b) := inferInstanceAs (Decidable (_ ∨ _))

omit [DecidableEq α] in
theorem before_trans {r a b c : α} (hab : before key r a b) (hbc : before key r b c) :
    before key r a c := by
  rcases hab with hab | ⟨hab, har⟩
  · rcases hbc with hbc | ⟨hbc, -⟩
    · exact Or.inl (hbc.trans hab)
    · exact Or.inl (hbc ▸ hab)
  · rcases hbc with hbc | ⟨hbc, hbr⟩
    · exact Or.inl (hab ▸ hbc)
    · exact Or.inr ⟨hab.trans hbc, fun h => hbr (har h)⟩

omit [DecidableEq α] in
theorem before_total (r a b : α) : before key r a b ∨ before key r b a := by
  rcases lt_trichotomy (key a) (key b) with h | h | h
  · exact Or.inr (Or.inl h)
  · by_cases ha : a = r
    · exact Or.inr (Or.inr ⟨h.symm, fun _ => ha⟩)
    · exact Or.inl (Or.inr ⟨h, fun hr => absurd hr ha⟩)
  · exact Or.inl (Or.inl h)

theorem pairwise_before (r : α) (rows : List α) :
    (rows.mergeSort fun a b => decide (before key r a b)).Pairwise (before key r) :=
  pairwise_sorted (fun _ _ _ => before_trans) (before_total r) rows

def lastOfItsKey (key : α → κ) (r : α) : ByKey key where
  sort rows := rows.mergeSort fun a b => decide (before key r a b)
  perm rows := List.mergeSort_perm _ _
  descending rows := (pairwise_before r rows).imp fun h => by
    rcases h with hlt | ⟨heq, -⟩
    · exact hlt.le
    · exact heq.ge

/-- A row with many rows as high as it is off the first page in some order. -/
theorem mem_drop_lastOfItsKey {r : α} (hr : r ∈ rows)
    (hpast : ¬ Within key rows limit r) :
    r ∈ ((lastOfItsKey key r).sort rows).drop limit := by
  by_contra habsent
  have hsorted : ((lastOfItsKey key r).sort rows).Pairwise (before key r) := pairwise_before r rows
  have hperm := (lastOfItsKey key r).perm rows
  rw [← List.take_append_drop limit ((lastOfItsKey key r).sort rows)] at hsorted hperm
  have hshown : r ∈ ((lastOfItsKey key r).sort rows).take limit := by
    rcases List.mem_append.mp (hperm.mem_iff.mpr hr) with h | h
    · exact h
    · exact absurd h habsent
  -- All that are as high as the row come before it, so none is past the limit.
  have hnone : (((lastOfItsKey key r).sort rows).drop limit).filter (fun r' => key r ≤ key r') =
      [] := by
    rw [List.filter_eq_nil_iff]
    intro r' hr' hle
    rcases (List.pairwise_append.mp hsorted).2.2 r hshown r' hr' with hlt | ⟨-, hsame⟩
    · exact absurd (of_decide_eq_true hle) (not_le.mpr hlt)
    · exact habsent (hsame rfl ▸ hr')
  have hlength := (hperm.filter fun r' => key r ≤ key r').length_eq
  rw [List.filter_append, hnone, List.append_nil] at hlength
  have htake := List.length_filter_le (fun r' => decide (key r ≤ key r'))
    (((lastOfItsKey key r).sort rows).take limit)
  rw [List.length_take] at htake
  unfold Within at hpast
  omega

/-- The first page has all rows of a kind, in every order by key, exactly when
each of them has no more rows as high as it than the page takes. -/
theorem first_page_complete_iff {p : α → Bool} :
    (∀ order : ByKey key,
      (((order.sort rows).take limit).filter p).Perm (rows.filter p)) ↔
      ∀ r ∈ rows, p r = true → Within key rows limit r := by
  constructor
  · intro hall r hr hp
    by_contra hpast
    have hmissed := mem_drop_lastOfItsKey hr hpast
    have hlength := (hall (lastOfItsKey key r)).length_eq
    have htotal := (((lastOfItsKey key r).perm rows).filter p).length_eq
    rw [← List.take_append_drop limit ((lastOfItsKey key r).sort rows), List.filter_append,
      List.length_append] at htotal
    have hsome := List.length_pos_of_mem (List.mem_filter.mpr ⟨hmissed, hp⟩)
    omega
  · intro hwithin order
    have hperm := (order.perm rows).filter p
    rw [← List.take_append_drop limit (order.sort rows), List.filter_append] at hperm
    have hnone : ((order.sort rows).drop limit).filter p = [] := by
      rw [List.filter_eq_nil_iff]
      intro r hr hp
      have hmem : r ∈ rows := (order.perm rows).mem_iff.mp (List.mem_of_mem_drop hr)
      exact not_mem_drop (hwithin r hmem hp) hr
    rw [hnone, List.append_nil] at hperm
    exact hperm

end keyset

/-! ## Rows that no order moves -/

section orders

variable [LinearOrder κ] {key : α → κ} {rows : List α}

theorem not_sublist_swap {a b : α} (hrows : rows.Nodup) (hab : [a, b].Sublist rows) :
    ¬ [b, a].Sublist rows := by
  induction rows with
  | nil => cases hab
  | cons r rows ih =>
    rw [List.nodup_cons] at hrows
    intro hba
    cases hab with
    | cons _ hab =>
      cases hba with
      | cons _ hba => exact ih hrows.2 hab hba
      | cons_cons _ _ => exact hrows.1 (hab.subset (by simp))
    | cons_cons _ hb =>
      cases hba with
      | cons _ hba => exact hrows.1 (hba.subset (by simp))
      | cons_cons _ _ => exact hrows.1 (hb.subset (by simp))

/-- The sort by key in which rows of one key come in the opposite order. -/
def tiesReversed (key : α → κ) : ByKey key where
  sort rows := rows.reverse.mergeSort fun a b => decide (key b ≤ key a)
  perm _ := (List.mergeSort_perm _ _).trans (List.reverse_perm _)
  descending _ := pairwise_sorted_by key _

/-- Every order by key leaves the rows as they are exactly when each key is
below the one before. -/
theorem sort_eq_self_iff (hrows : rows.Nodup) :
    (∀ order : ByKey key, order.sort rows = rows) ↔ rows.Pairwise fun a b => key b < key a := by
  constructor
  · intro hall
    have hsorted : Descending key rows :=
      hall (tiesReversed key) ▸ (tiesReversed key).descending rows
    rw [List.pairwise_iff_forall_sublist]
    intro a b hab
    refine lt_of_le_of_ne (List.pairwise_iff_forall_sublist.mp hsorted hab) fun hsame => ?_
    -- Two rows of one key would come in both orders.
    have hba : [b, a].Sublist rows := by
      rw [← hall (tiesReversed key)]
      refine List.pair_sublist_mergeSort (fun a b c hab hbc => ?_) (fun a b => ?_)
        (decide_eq_true hsame.ge) (List.reverse_sublist.mpr hab)
      · exact decide_eq_true ((of_decide_eq_true hbc).trans (of_decide_eq_true hab))
      · simpa using le_total (key b) (key a)
    exact not_sublist_swap hrows hab hba
  · intro hstrict order
    have hkeys : (rows.map key).Nodup := List.pairwise_map.mpr (hstrict.imp fun h => h.ne')
    refine List.Perm.eq_of_pairwise (fun a b ha hb hle hge => ?_) (order.descending rows)
      (hstrict.imp le_of_lt) (order.perm rows)
    exact List.inj_on_of_nodup_map hkeys ((order.perm rows).mem_iff.mp ha) hb (le_antisymm hge hle)

end orders

end paging
