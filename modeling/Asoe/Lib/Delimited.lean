-- Records written with delimiters: the fields of a record have a separator
-- between them and a terminator after them, and a line break stands between
-- the records. They are read back just when no field has a delimiter.
import Mathlib.Algebra.BigOperators.Group.List.Basic
import Mathlib.Algebra.GroupWithZero.Nat
import Mathlib.Data.List.Basic
import Mathlib.Tactic.Common

namespace delimited

variable {α : Type} [DecidableEq α] (sep term brk : α)

/-! ## Writing and reading -/

def fields (r : List (List α)) : List α := [sep].intercalate r

def record (r : List (List α)) : List α := fields sep r ++ [term]

def write (records : List (List (List α))) : List α :=
  [brk].intercalate (records.map (record sep term))

/-- Line breaks in front of a record are passed over, and what stands after
the last terminator is dropped. -/
def read (text : List α) : List (List (List α)) :=
  (text.splitOn term).dropLast.map fun t => (t.dropWhile (· = brk)).splitOn sep

/-! ## Counting delimiters -/

variable {sep term brk}

theorem length_splitOn (c : α) (t : List α) : (t.splitOn c).length = t.count c + 1 := by
  induction t with
  | nil => rfl
  | cons x t ih =>
    rw [List.splitOn_cons_eq_if_modifyHead, List.count_cons]
    split
    · rw [List.length_cons, ih]
    · rw [List.length_modifyHead, ih]

theorem count_fields {d : α} (hd : sep ≠ d) (r : List (List α)) :
    (fields sep r).count d = (r.map (List.count d)).sum := by
  unfold fields
  induction r with
  | nil => rfl
  | cons f r ih =>
    cases r with
    | nil => simp
    | cons g r =>
      rw [List.intercalate_cons_cons, List.count_append, List.count_append, ih,
        List.count_singleton, List.map_cons, List.sum_cons]
      simp [hd]

theorem count_sep_fields {r : List (List α)} (hr : r ≠ []) :
    (fields sep r).count sep + 1 = (r.map (List.count sep)).sum + r.length := by
  unfold fields
  induction r with
  | nil => exact absurd rfl hr
  | cons f r ih =>
    cases r with
    | nil => simp
    | cons g r =>
      have hrest := ih (List.cons_ne_nil g r)
      rw [List.intercalate_cons_cons, List.count_append, List.count_append,
        List.count_singleton_self, List.map_cons, List.sum_cons, List.length_cons]
      omega

theorem count_record (hst : sep ≠ term) (r : List (List α)) :
    (record sep term r).count term = (r.map (List.count term)).sum + 1 := by
  rw [record, List.count_append, count_fields hst, List.count_singleton_self]

theorem sum_counts_eq_zero_iff {d : α} {r : List (List α)} :
    (r.map (List.count d)).sum = 0 ↔ ∀ f ∈ r, d ∉ f := by
  rw [List.sum_eq_zero_iff_forall_eq_nat, List.forall_mem_map]
  simp only [List.count_eq_zero]

/-! ## The records of a text -/

omit [DecidableEq α] in
theorem intercalate_eq (c : α) (t : List α) (ts : List (List α)) :
    [c].intercalate (t :: ts) = t ++ ts.flatMap (c :: ·) := by
  induction ts generalizing t with
  | nil => simp
  | cons t' ts ih =>
    rw [List.intercalate_cons_cons, ih, List.flatMap_cons]
    simp

omit [DecidableEq α] in
theorem write_cons (r : List (List α)) (rs : List (List (List α))) :
    write sep term brk (r :: rs) =
      record sep term r ++ rs.flatMap fun r => brk :: record sep term r := by
  rw [write, List.map_cons, intercalate_eq, List.flatMap_map]

theorem count_write (hst : sep ≠ term) (hbt : brk ≠ term) (records : List (List (List α))) :
    (write sep term brk records).count term =
      (records.map fun r => (r.map (List.count term)).sum).sum + records.length := by
  cases records with
  | nil => rfl
  | cons r rs =>
    have hrest : (rs.flatMap fun r => brk :: record sep term r).count term =
        (rs.map fun r => (r.map (List.count term)).sum).sum + rs.length := by
      induction rs with
      | nil => rfl
      | cons r rs ih =>
        rw [List.flatMap_cons, List.count_append, ih, List.count_cons_of_ne hbt, count_record hst,
          List.map_cons, List.sum_cons, List.length_cons]
        omega
    rw [write_cons, List.count_append, hrest, count_record hst, List.map_cons, List.sum_cons,
      List.length_cons]
    omega

theorem length_read (records : List (List (List α))) :
    (read sep term brk (write sep term brk records)).length =
      (write sep term brk records).count term := by
  rw [read, List.length_map, List.length_dropLast, length_splitOn]
  omega

theorem splitOn_records (hbt : brk ≠ term) {rs : List (List (List α))}
    (hclean : ∀ r ∈ rs, term ∉ fields sep r) :
    (rs.flatMap fun r => brk :: record sep term r).splitOn term =
      rs.map (fun r => brk :: fields sep r) ++ [[]] := by
  induction rs with
  | nil => rfl
  | cons r rs ih =>
    have hpiece : term ∉ brk :: fields sep r := by
      rw [List.mem_cons, not_or]
      exact ⟨hbt.symm, hclean r List.mem_cons_self⟩
    have htext : ((r :: rs).flatMap fun r => brk :: record sep term r) =
        (brk :: fields sep r) ++ term :: (rs.flatMap fun r => brk :: record sep term r) := by
      simp [record]
    rw [htext, List.splitOn_append_cons_self_of_not_mem hpiece,
      ih fun r hr => hclean r (List.mem_cons_of_mem _ hr)]
    rfl

/-- Without a terminator in the fields, each record is a piece of its own. -/
theorem read_write_of_no_term (hbt : brk ≠ term) {records : List (List (List α))}
    (hhead : ∀ r ∈ records, (fields sep r).head? ≠ some brk)
    (hclean : ∀ r ∈ records, term ∉ fields sep r) :
    read sep term brk (write sep term brk records) =
      records.map fun r => (fields sep r).splitOn sep := by
  have hskip : ∀ r ∈ records, (fields sep r).dropWhile (· = brk) = fields sep r := by
    intro r hr
    have hfirst := hhead r hr
    cases hfields : fields sep r with
    | nil => rfl
    | cons x t =>
      rw [hfields, List.head?_cons] at hfirst
      have hx : x ≠ brk := fun h => hfirst (congrArg some h)
      simp [hx]
  cases records with
  | nil => rfl
  | cons r rs =>
    have htext : write sep term brk (r :: rs) =
        fields sep r ++ term :: (rs.flatMap fun r => brk :: record sep term r) := by
      rw [write_cons, record, List.append_assoc, List.singleton_append]
    have hrest : ∀ r' ∈ rs, ((brk :: fields sep r').dropWhile (· = brk)).splitOn sep =
        (fields sep r').splitOn sep := by
      intro r' hr'
      rw [List.dropWhile_cons_of_pos (by simp), hskip r' (List.mem_cons_of_mem _ hr')]
    rw [read, htext, List.splitOn_append_cons_self_of_not_mem (hclean r List.mem_cons_self),
      splitOn_records hbt fun r hr => hclean r (List.mem_cons_of_mem _ hr), ← List.cons_append,
      List.dropLast_concat, List.map_cons, List.map_cons, hskip r List.mem_cons_self, List.map_map]
    exact congrArg _ (List.map_congr_left hrest)

theorem not_mem_fields {d : α} (hd : sep ≠ d) {r : List (List α)} (h : ∀ f ∈ r, d ∉ f) :
    d ∉ fields sep r := by
  rw [← List.count_eq_zero, count_fields hd]
  exact sum_counts_eq_zero_iff.mpr h

/-- Records are read back just when no field holds a delimiter. -/
theorem read_write_iff (hst : sep ≠ term) (hbt : brk ≠ term) {records : List (List (List α))}
    (hne : ∀ r ∈ records, r ≠ []) (hhead : ∀ r ∈ records, (fields sep r).head? ≠ some brk) :
    read sep term brk (write sep term brk records) = records ↔
      ∀ r ∈ records, ∀ f ∈ r, sep ∉ f ∧ term ∉ f := by
  constructor
  · intro h
    -- A terminator in a field makes a record more, and then a separator a field more.
    have hterm : ∀ r ∈ records, ∀ f ∈ r, term ∉ f := by
      have hlength : (read sep term brk (write sep term brk records)).length = _ :=
        length_read records
      rw [h, count_write hst hbt] at hlength
      have hsum : (records.map fun r => (r.map (List.count term)).sum).sum = 0 := by omega
      rw [List.sum_eq_zero_iff_forall_eq_nat, List.forall_mem_map] at hsum
      exact fun r hr => sum_counts_eq_zero_iff.mp (hsum r hr)
    have hsep : ∀ r ∈ records, ∀ f ∈ r, sep ∉ f := by
      rw [read_write_of_no_term hbt hhead fun r hr => not_mem_fields hst (hterm r hr)] at h
      have hrecords := List.map_inj_left.mp (h.trans (List.map_id records).symm)
      intro r hr
      have hlength := length_splitOn sep (fields sep r)
      rw [hrecords r hr, id_eq, count_sep_fields (hne r hr)] at hlength
      exact sum_counts_eq_zero_iff.mp (by omega)
    exact fun r hr f hf => ⟨hsep r hr f hf, hterm r hr f hf⟩
  · intro h
    rw [read_write_of_no_term hbt hhead fun r hr => not_mem_fields hst fun f hf => (h r hr f hf).2]
    refine (List.map_congr_left fun r hr => ?_).trans (List.map_id records)
    exact List.splitOn_intercalate sep (fun f hf => (h r hr f hf).1) (hne r hr)

end delimited
