-- The size of a compaction: the lines of the first events, as many as fit under
-- the cap with their line breaks, and a note on top of it when that is not all.
import Asoe.CaseMemories

namespace asoe

open py

/-- `compact_events(events, target_tokens=...)`. -/
def compact_events_to (env : CompactionEnv) (events : List PyDict) (target_tokens : ℕ) : String :=
  let lines := events.map (summarise_event_line env)
  join "\n" (compact_loop (target_tokens * 4) lines.length [] 0 lines)

/-! ## What fits -/

/-- As many lines as fit under the cap, each with its line break. -/
structure Fit (cap : ℕ) (lines : List String) (kept : ℕ) : Prop where
  among : kept ≤ lines.length
  within : characters (lines.take kept) ≤ cap
  full : kept < lines.length → cap < characters (lines.take (kept + 1))

theorem characters_append (lines lines' : List String) :
    characters (lines ++ lines') = characters lines + characters lines' := by
  simp [characters]

theorem characters_take_le (lines : List String) {n m : ℕ} (h : n ≤ m) :
    characters (lines.take n) ≤ characters (lines.take m) := by
  have hsplit : lines.take m = lines.take n ++ (lines.take m).drop n := by
    conv_lhs => rw [← List.take_append_drop n (lines.take m), List.take_take, min_eq_left h]
  rw [hsplit, characters_append]
  omega

theorem Fit.unique {cap : ℕ} {lines : List String} {kept kept' : ℕ} (h : Fit cap lines kept)
    (h' : Fit cap lines kept') : kept = kept' := by
  by_contra hne
  rcases Nat.lt_or_gt_of_ne hne with hlt | hlt
  · have hover := h.full (Nat.lt_of_lt_of_le hlt h'.among)
    have hle := characters_take_le lines (show kept + 1 ≤ kept' from hlt)
    have hwithin := h'.within
    omega
  · have hover := h'.full (Nat.lt_of_lt_of_le hlt h.among)
    have hle := characters_take_le lines (show kept' + 1 ≤ kept from hlt)
    have hwithin := h.within
    omega

theorem Fit.all_iff {cap : ℕ} {lines : List String} {kept : ℕ} (h : Fit cap lines kept) :
    kept = lines.length ↔ characters lines ≤ cap := by
  constructor
  · rintro rfl
    have hwithin := h.within
    rwa [List.take_length] at hwithin
  · intro hall
    by_contra hne
    have hlt : kept < lines.length := Nat.lt_of_le_of_ne h.among hne
    have hle := characters_take_le lines (show kept + 1 ≤ lines.length from hlt)
    rw [List.take_length] at hle
    have hover := h.full hlt
    omega

/-! ## The text -/

/-- The lines that are kept, and the note when that is not all. -/
def compacted (lines : List String) (kept : ℕ) : List String :=
  lines.take kept ++ if kept < lines.length then [truncated kept lines.length] else []

theorem length_join {lines : List String} (hlines : lines ≠ []) :
    (join "\n" lines).length + 1 = characters lines := by
  induction lines with
  | nil => exact absurd rfl hlines
  | cons line lines ih =>
    unfold join at ih ⊢
    cases lines with
    | nil =>
      rw [String.intercalate_singleton]
      simp [characters]
    | cons line' lines =>
      rw [String.intercalate_cons_cons, characters_cons, ← ih (List.cons_ne_nil _ _),
        String.length_append, String.length_append]
      have hbreak : "\n".length = 1 := rfl
      omega

theorem length_join_le (lines : List String) : (join "\n" lines).length ≤ characters lines := by
  cases lines with
  | nil => exact Nat.zero_le _
  | cons line lines =>
    have hlength := length_join (List.cons_ne_nil line lines)
    omega

theorem splitOn_join {lines : List String} (hlines : lines ≠ [])
    (hplain : ∀ line ∈ lines, '\n' ∉ line.toList) :
    (join "\n" lines).toList.splitOn '\n' = lines.map String.toList := by
  unfold join
  rw [String.toList_intercalate]
  refine List.splitOn_intercalate '\n' ?_ ?_
  · intro chars hchars
    obtain ⟨line, hline, rfl⟩ := List.mem_map.mp hchars
    exact hplain line hline
  · rwa [ne_eq, List.map_eq_nil_iff]

theorem digits_plain (n : ℕ) : '\n' ∉ Nat.toDigits 10 n := fun h =>
  absurd (Nat.isDigit_of_mem_toDigits (by omega) (by omega) h) (by decide)

theorem truncated_plain (kept total : ℕ) : '\n' ∉ (truncated kept total).toList := by
  unfold truncated
  simp [digits_plain]

/-- What a compaction makes of the lines of the events. -/
structure CompactedTo (cap : ℕ) (lines : List String) (text : String) (kept : ℕ) : Prop where
  fit : Fit cap lines kept
  longest : ∀ kept', Fit cap lines kept' → kept' = kept
  whole : kept = lines.length ↔ characters lines ≤ cap
  text_eq : text = join "\n" (compacted lines kept)
  within : kept = lines.length → text.length ≤ cap
  noted : kept < lines.length → text.length ≤ cap + (truncated kept lines.length).length
  read_back : lines ≠ [] → (∀ line ∈ lines, '\n' ∉ line.toList) →
    text.toList.splitOn '\n' = (compacted lines kept).map String.toList

theorem compactedTo_of_fit {cap : ℕ} {lines : List String} {kept : ℕ} (h : Fit cap lines kept) :
    CompactedTo cap lines (join "\n" (compacted lines kept)) kept where
  fit := h
  longest _ h' := h'.unique h
  whole := h.all_iff
  text_eq := rfl
  within hall := by
    have hlength := length_join_le (compacted lines kept)
    unfold compacted at hlength ⊢
    rw [if_neg (by omega), List.append_nil] at hlength ⊢
    exact hlength.trans h.within
  noted hlt := by
    have hne : compacted lines kept ≠ [] := by
      unfold compacted
      rw [if_pos hlt]
      simp
    have hlength := length_join hne
    have hcharacters : characters (compacted lines kept) =
        characters (lines.take kept) + ((truncated kept lines.length).length + 1) := by
      unfold compacted
      rw [if_pos hlt, characters_append, characters_cons]
      rfl
    have hwithin := h.within
    omega
  read_back hlines hplain := by
    refine splitOn_join ?_ ?_
    · unfold compacted
      by_cases hlt : kept < lines.length
      · rw [if_pos hlt]
        simp
      · rw [if_neg hlt, List.append_nil, List.take_of_length_le (Nat.le_of_not_lt hlt)]
        exact hlines
    · intro line hline
      unfold compacted at hline
      rcases List.mem_append.mp hline with hline | hline
      · exact hplain line (List.mem_of_mem_take hline)
      · split at hline
        · obtain rfl := List.mem_singleton.mp hline
          exact truncated_plain _ _
        · cases hline

/-- A compaction has the lines of as many events as fit under the cap with
their line breaks, and when those are not all one note more, with the true
numbers, on top of the cap. -/
theorem a_compaction_keeps_what_fits_and_notes_the_rest (env : CompactionEnv)
    (events : List PyDict) (target_tokens : ℕ) :
    ∃ kept, CompactedTo (target_tokens * 4) (events.map (summarise_event_line env))
      (compact_events_to env events target_tokens) kept := by
  obtain ⟨kept, hkept, hloop, hfull, hwithin⟩ := compact_loop_keeps (target_tokens * 4)
    (events.map (summarise_event_line env)).length [] 0 (events.map (summarise_event_line env))
  have hfit : Fit (target_tokens * 4) (events.map (summarise_event_line env)) kept := by
    refine ⟨hkept, ?_, fun hlt => ?_⟩
    · have hle := hwithin (Nat.zero_le _)
      omega
    · have hover := hfull hlt
      omega
  refine ⟨kept, ?_⟩
  have htext : compact_events_to env events target_tokens =
      join "\n" (compacted (events.map (summarise_event_line env)) kept) := by
    unfold compact_events_to compacted
    dsimp only
    rw [hloop, List.nil_append, List.length_nil, Nat.zero_add]
  rw [htext]
  exact compactedTo_of_fit hfit

/-- No event type has a template. -/
def untemplated : CompactionEnv := ⟨fun _ => none, fun _ => none⟩

/-- An event whose line has eight characters. -/
def shortEvent : PyDict := [("event_type", .str "xy"), ("timestamp", .str "t")]

def brokenEvent : PyDict := shortEvent ++ [("status", .str "ok\n[xy@t] —")]

/-- The note comes on top of the cap, lines that take just the cap are not kept
for want of a last line break, and a value with a line break makes two lines of
one event. -/
theorem a_note_past_the_cap_and_a_line_broken_in_two :
    4 * 1 < (compact_events_to untemplated [shortEvent] 1).length ∧
      (join "\n" [summarise_event_line untemplated shortEvent]).length = 4 * 2 ∧
      compact_events_to untemplated [shortEvent] 2 = truncated 0 1 ∧
      ((compact_events_to untemplated [brokenEvent] 100).toList.splitOn '\n').length = 2 := by
  decide +kernel

end asoe
