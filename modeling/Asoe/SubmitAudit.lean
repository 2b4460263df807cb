-- The audit of a submit against the payload that is sent: which corrections
-- are noted, and whether the payload has the value that was noted.
import Asoe.Recipes
import Asoe.Lib.Amendments
import Asoe.Lib.Prog
import Asoe.Lib.Traverse

namespace asoe

open py prog grouping amendments

/-! ## What the recipe reads -/

def field_value (d : PyDict) (f : String) : PyVal := .ofOption (dict.get d f)

def dict_of : PyVal → PyDict
  | .dict d => d
  | _ => []

/-- The edits under a key of the corrections. -/
def edits_at (v : PyVal) (key : String) : PyDict := dict_of (field_value (dict_of v) key)

def header_edits (corrections : PyVal) : PyDict := edits_at corrections "header"

/-- The edits of a line, which are found by its number. -/
def edits_of_line (corrections : PyVal) (line : PyDict) : PyDict :=
  edits_at (.dict (edits_at corrections "lines")) (line_num_of line)

/-- The corrections are dictionaries: each key has one value. -/
structure KeysOnce (lines : List PyDict) (corrections : PyVal) : Prop where
  header : Once (header_edits corrections)
  line : ∀ line ∈ lines, Once (edits_of_line corrections line)

/-! ## What it makes of them -/

def header_overlay (header : PyDict) (corrections : PyVal) : PyDict × List PyVal :=
  apply_edits HEADER_FIELDS [] (header_edits corrections) header []

def line_mark (line : PyDict) : PyDict := [("line_num", .str (line_num_of line))]

def line_overlay (corrections : PyVal) (line : PyDict) : PyDict × List PyVal :=
  apply_edits LINE_FIELDS (line_mark line) (edits_of_line corrections line) line []

/-- One entry of `corrections_applied`. -/
def noted (mark : PyDict) (c : String × PyVal × PyVal) : PyVal :=
  .dict (mark ++ [("field", .str c.1), ("before", c.2.1), ("after", c.2.2)])

/-- The entry of a field whose value was `extracted` and is `effective`. -/
def note_of (mark extracted effective : PyDict) (f : String) : PyVal :=
  noted mark (f, field_value extracted f, field_value effective f)

/-- The notes are of the fields that have another value than the extracted one,
once each, with both values. -/
structure Audits (fields : List String) (mark extracted effective : PyDict) (notes : List PyVal) :
    Prop where
  sound : ∀ n ∈ notes, ∃ f ∈ fields, n = note_of mark extracted effective f ∧
    (field_value extracted f).eq (field_value effective f) = false
  complete : ∀ f, dict.get effective f ≠ dict.get extracted f →
    note_of mark extracted effective f ∈ notes
  once : notes.Nodup

/-- The key of the payload that a header field goes to. -/
def payload_key (f : String) : String := if f = "order_type" then "doc_type" else f

def payload_of (out : PyDict) : PyDict := dict_of (field_value out "erp_payload")

def payload_lines_of (out : PyDict) : List PyDict :=
  match field_value (payload_of out) "line_items" with
  | .list xs => xs.map dict_of
  | _ => []

/-- The payload has this value, or the number that `float` reads of it. -/
def Sent (sent : Option PyVal) (v : PyVal) : Prop :=
  sent = some v ∨ ∃ x, v.toFloat = .ok x ∧ sent = some (.float x)

/-- The payload line has the corrected values, and for the rest the extracted
ones. -/
structure LineSent (line effective : PyDict) (notes : List PyVal) (sent : PyDict) : Prop where
  corrected : ∀ f ∈ LINE_FIELDS, note_of (line_mark line) line effective f ∈ notes →
    Sent (dict.get sent f) (field_value effective f)
  kept : ∀ f ∈ LINE_FIELDS, note_of (line_mark line) line effective f ∉ notes →
    Sent (dict.get sent f) (field_value line f)

/-- The audit is that of what was corrected, and the payload is what the audit
says. -/
structure AuditAgrees (header : PyDict) (lines : List PyDict) (corrections : PyVal) (out : PyDict) :
    Prop where
  notes : dict.get out "corrections_applied" = some (.list
    ((header_overlay header corrections).2 ++
      (lines.map fun line => (line_overlay corrections line).2).flatten))
  header_audit : Audits HEADER_FIELDS [] header (header_overlay header corrections).1
    (header_overlay header corrections).2
  line_audit : ∀ line ∈ lines, Audits LINE_FIELDS (line_mark line) line
    (line_overlay corrections line).1 (line_overlay corrections line).2
  header_corrected : ∀ f ∈ HEADER_FIELDS,
    note_of [] header (header_overlay header corrections).1 f ∈
      (header_overlay header corrections).2 →
    Sent (dict.get (payload_of out) (payload_key f))
      (field_value (header_overlay header corrections).1 f)
  header_kept : ∀ f ∈ HEADER_FIELDS,
    note_of [] header (header_overlay header corrections).1 f ∉
      (header_overlay header corrections).2 →
    ∀ v, dict.get (payload_of out) (payload_key f) = some v → v = field_value header f
  lines_sent : List.Forall₂ (fun line sent => LineSent line (line_overlay corrections line).1
    (line_overlay corrections line).2 sent) lines (payload_lines_of out)

/-! ## The corrections that the payload can carry -/

/-- The value of a field under the edits: the edit counts when it is another
value. -/
def edited_value (edits target : PyDict) (f : String) : PyVal :=
  match dict.get edits f with
  | some after => if (field_value target f).eq after then field_value target f else after
  | none => field_value target f

/-- The value is absent or one that `float` reads. -/
def IsNumber (v : PyVal) : Prop := v = .none ∨ ∃ x, v.toFloat = .ok x

/-- No correction moves the ship window, and the quantities and prices of the
lines are numbers. -/
structure Carried (header : PyDict) (lines : List PyDict) (corrections : PyVal) : Prop where
  window : ∀ f ∈ ["ship_window_from", "ship_window_to"], ∀ after,
    dict.get (header_edits corrections) f = some after → (field_value header f).eq after = true
  numbers : ∀ line ∈ lines, ∀ f ∈ ["quantity", "unit_price"],
    IsNumber (edited_value (edits_of_line corrections line) line f)

/-! ## The overlay -/

/-- The loop over the edits, as the amendments of a record. -/
theorem apply_edits_eq (fields : List String) (mark edits target : PyDict) (applied : List PyVal) :
    apply_edits fields mark edits target applied =
      ((amend (fun f => decide (f ∈ fields)) PyVal.ofOption PyVal.eq edits target).1,
        applied ++
          (amend (fun f => decide (f ∈ fields)) PyVal.ofOption PyVal.eq edits target).2.map
            (noted mark)) := by
  induction edits generalizing target applied with
  | nil => simp [apply_edits, amend]
  | cons edit edits ih =>
    obtain ⟨f, after⟩ := edit
    have hstep : ∀ acc : PyDict × List PyVal, edits.foldl (fun (acc : PyDict × List PyVal) edit =>
        if edit.1 ∉ fields then acc
        else
          let before := PyVal.ofOption (dict.get acc.1 edit.1)
          if before.eq edit.2 then acc
          else (dict.set acc.1 edit.1 edit.2, acc.2 ++ [.dict (mark ++
            [("field", .str edit.1), ("before", before), ("after", edit.2)])])) acc =
        apply_edits fields mark edits acc.1 acc.2 := fun _ => rfl
    unfold apply_edits amend
    rw [List.foldl_cons, hstep]
    by_cases hknown : f ∈ fields
    · by_cases hsame : (PyVal.ofOption (dict.get target f)).eq after = true
      · simp [hknown, hsame, ih]
      · rw [Bool.not_eq_true] at hsame
        simp [hknown, hsame, ih, noted]
    · simp [hknown, ih]

theorem noted_inj {mark : PyDict} {c c' : String × PyVal × PyVal}
    (h : noted mark c = noted mark c') : c = c' := by
  obtain ⟨f, before, after⟩ := c
  obtain ⟨f', before', after'⟩ := c'
  simp only [noted, PyVal.dict.injEq, List.append_cancel_left_eq] at h
  simpa using h

/-- The edits of these fields that change the record. -/
def Edits (fields : List String) (edits target : PyDict) (f : String) (after : PyVal) : Prop :=
  Amends (fun f => decide (f ∈ fields)) PyVal.ofOption PyVal.eq edits target f after

theorem edits_iff {fields : List String} {edits target : PyDict} {f : String} {after : PyVal} :
    Edits fields edits target f after ↔
      f ∈ fields ∧ dict.get edits f = some after ∧ (field_value target f).eq after = false := by
  simp [Edits, Amends, field_value]

section overlay

variable {fields : List String} {mark edits target : PyDict} (honce : Once edits)

include honce

variable {f : String}

theorem get_edited {after : PyVal} (h : Edits fields edits target f after) :
    dict.get (apply_edits fields mark edits target []).1 f = some after := by
  rw [apply_edits_eq]
  exact (get_amended honce).1 after h

theorem get_unedited (h : ∀ after, ¬ Edits fields edits target f after) :
    dict.get (apply_edits fields mark edits target []).1 f = dict.get target f := by
  rw [apply_edits_eq]
  exact (get_amended honce).2 h

theorem mem_noted_iff {n : PyVal} :
    n ∈ (apply_edits fields mark edits target []).2 ↔
      ∃ f after, Edits fields edits target f after ∧
        n = noted mark (f, field_value target f, after) := by
  rw [apply_edits_eq, List.nil_append, List.mem_map]
  constructor
  · rintro ⟨⟨f, before, after⟩, hnote, rfl⟩
    obtain ⟨rfl, hedits⟩ := (mem_notes_iff honce).mp hnote
    exact ⟨f, after, hedits, rfl⟩
  · rintro ⟨f, after, hedits, rfl⟩
    exact ⟨(f, field_value target f, after), (mem_notes_iff honce).mpr ⟨rfl, hedits⟩, rfl⟩

theorem note_of_edited {after : PyVal} (h : Edits fields edits target f after) :
    note_of mark target (apply_edits fields mark edits target []).1 f =
      noted mark (f, field_value target f, after) := by
  unfold note_of
  rw [field_value, field_value, get_edited honce h, PyVal.ofOption]

theorem note_mem_iff : note_of mark target (apply_edits fields mark edits target []).1 f ∈
        (apply_edits fields mark edits target []).2 ↔
      ∃ after, Edits fields edits target f after := by
  rw [mem_noted_iff honce]
  constructor
  · rintro ⟨f', after, hedits, heq⟩
    have hsame := noted_inj heq
    simp only [Prod.mk.injEq] at hsame
    exact ⟨after, hsame.1 ▸ hedits⟩
  · rintro ⟨after, hedits⟩
    exact ⟨f, after, hedits, note_of_edited honce hedits⟩

/-- The audit of an overlay is sound and complete. -/
theorem audits : Audits fields mark target (apply_edits fields mark edits target []).1
    (apply_edits fields mark edits target []).2 where
  sound := by
    intro n hn
    obtain ⟨f, after, hedits, rfl⟩ := (mem_noted_iff honce).mp hn
    obtain ⟨hknown, -, hother⟩ := edits_iff.mp hedits
    refine ⟨f, hknown, (note_of_edited honce hedits).symm, ?_⟩
    have hafter : field_value (apply_edits fields mark edits target []).1 f = after := by
      rw [field_value, get_edited honce hedits, PyVal.ofOption]
    rw [hafter]
    exact hother
  complete := by
    intro f hchanged
    rw [note_mem_iff honce]
    by_contra hnone
    exact hchanged (get_unedited honce fun after h => hnone ⟨after, h⟩)
  once := by
    rw [apply_edits_eq, List.nil_append]
    exact (List.Nodup.of_map Prod.fst (nodup_notes honce)).map fun _ _ => noted_inj

/-- What the overlay leaves in a field of the list. -/
theorem field_value_overlay (hf : f ∈ fields) :
    field_value (apply_edits fields mark edits target []).1 f = edited_value edits target f := by
  unfold edited_value
  by_cases hedits : ∃ after, Edits fields edits target f after
  · obtain ⟨after, hedits⟩ := hedits
    obtain ⟨-, hafter, hother⟩ := edits_iff.mp hedits
    rw [field_value, get_edited honce hedits, hafter, PyVal.ofOption]
    simp [hother]
  · have hnone : ∀ after, ¬ Edits fields edits target f after := fun after h => hedits ⟨after, h⟩
    rw [field_value, get_unedited honce hnone]
    cases hafter : dict.get edits f with
    | none => rfl
    | some after =>
      have hsame : (field_value target f).eq after = true := by
        rw [← Bool.not_eq_false]
        exact fun h => hnone after (edits_iff.mpr ⟨hf, hafter, h⟩)
      exact (if_pos hsame).symm

theorem field_value_of_not_noted
    (h : note_of mark target (apply_edits fields mark edits target []).1 f ∉
      (apply_edits fields mark edits target []).2) :
    field_value (apply_edits fields mark edits target []).1 f = field_value target f := by
  rw [note_mem_iff honce] at h
  rw [field_value, get_unedited honce fun after hedits => h ⟨after, hedits⟩, field_value]

end overlay

/-! ## What is returned -/

theorem dict_of_or {attr : String} {v : PyVal} :
    returns (method_of attr (v.or (.dict []))) fun d => d = dict_of v := by
  intro d h
  unfold PyVal.or at h
  split at h
  · cases v <;> simp [method_of] at h
    exact h.symm
  · rename_i hfalsy
    cases v <;> simp [method_of] at h <;> subst h <;> try rfl
    rename_i d
    cases d
    · rfl
    · simp [PyVal.truthy] at hfalsy

theorem apply_edits_append (fields : List String) (mark edits target : PyDict)
    (applied : List PyVal) :
    apply_edits fields mark edits target applied =
      ((apply_edits fields mark edits target []).1,
        applied ++ (apply_edits fields mark edits target []).2) := by
  simp [apply_edits_eq]

theorem apply_line_edits_returns (corrections : PyVal) (line : PyDict) (applied : List PyVal) :
    returns (apply_line_edits (edits_at corrections "lines") (.dict line) applied)
      fun r => r = ((line_overlay corrections line).1,
        applied ++ (line_overlay corrections line).2) := by
  unfold apply_line_edits
  refine returns_bind fun raw hraw => returns_bind fun edits hedits => (returns_pure _).mpr ?_
  obtain rfl : line = raw := Except.ok.inj hraw
  obtain rfl := dict_of_or edits hedits
  exact apply_edits_append _ _ _ _ _

theorem apply_all_line_edits_returns (corrections : PyVal) (lines : List PyDict)
    (applied : List PyVal) :
    returns (apply_all_line_edits (edits_at corrections "lines") (lines.map PyVal.dict) applied)
      fun r => r = (lines.map fun line => (line_overlay corrections line).1,
        applied ++ (lines.map fun line => (line_overlay corrections line).2).flatten) := by
  induction lines generalizing applied with
  | nil => simp [apply_all_line_edits]
  | cons line lines ih =>
    rw [List.map_cons, apply_all_line_edits]
    refine returns_bind fun first hfirst => ?_
    obtain rfl := apply_line_edits_returns corrections line applied first hfirst
    refine returns_bind fun rest hrest => (returns_pure _).mpr ?_
    obtain rfl := ih _ rest hrest
    simp

theorem get_attr_or {v : PyVal} {key : String} :
    returns (get_attr (v.or (.dict [])) key) fun w => w = field_value (dict_of v) key := by
  unfold get_attr
  refine returns_bind fun d hd => (returns_pure _).mpr ?_
  rw [dict_of_or d hd, field_value]

theorem dict_or_nil (d : PyDict) : (PyVal.dict d).or (.dict []) = .dict d := by
  cases d <;> simp [PyVal.or, PyVal.truthy]

theorem list_or_nil (xs : List PyVal) : (PyVal.list xs).or (.list []) = .list xs := by
  cases xs <;> simp [PyVal.or, PyVal.truthy]

/-- The payload of a submit. -/
def sent_payload (order_id customer_bp : PyVal) (header : PyDict)
    (payload_lines : List PayloadLine) : PyDict :=
  [("order_id", order_id), ("doc_type", field_value header "order_type"),
    ("sales_org", field_value header "sales_org"),
    ("dist_channel", field_value header "dist_channel"), ("customer_bp", customer_bp),
    ("customer_po", field_value header "customer_po"),
    ("requested_date", field_value header "requested_date"),
    ("line_items", .list (payload_lines.map PayloadLine.toVal))]

/-- What a submit that succeeds returns. -/
structure SubmitSent (order_id customer_bp : PyVal) (header : PyDict) (lines : List PyDict)
    (corrections : PyVal) (out : PyDict) (payload_lines : List PayloadLine) : Prop where
  payload : dict.get out "erp_payload" = some (.dict
    (sent_payload order_id customer_bp (header_overlay header corrections).1 payload_lines))
  notes : dict.get out "corrections_applied" = some (.list
    ((header_overlay header corrections).2 ++
      (lines.map fun line => (line_overlay corrections line).2).flatten))
  lines_read : List.Forall₂ (fun line pl => payload_line (line_overlay corrections line).1 = .ok pl)
    lines payload_lines

theorem submitted (order_id customer_bp : PyVal) (header : PyDict) (lines : List PyDict)
    (corrections : PyVal) :
    returns (build_erp_submission order_id customer_bp (.dict header) (.list (lines.map .dict))
      corrections) fun out => dict.get out "status" = some (.str "SUCCESS") →
        ∃ payload_lines,
          SubmitSent order_id customer_bp header lines corrections out payload_lines := by
  unfold build_erp_submission
  rw [dict_or_nil, list_or_nil]
  refine returns_bind fun eff_header heff => returns_bind fun header_val hheader => ?_
  obtain rfl : header = eff_header := Except.ok.inj heff
  obtain rfl := get_attr_or header_val hheader
  refine returns_bind fun edits hedits => returns_bind fun line_val hlines => ?_
  obtain rfl := dict_of_or edits hedits
  obtain rfl := get_attr_or line_val hlines
  refine returns_bind fun raws hraws => ?_
  obtain rfl : lines.map PyVal.dict = raws := Except.ok.inj hraws
  refine returns_ite (fun hempty => ?_) fun hne => ?_
  · -- an order without lines is rejected
    obtain rfl : lines = [] := by simpa using hempty
    intro out hout hstatus
    cases hout
    simp [rejected_submission, dict.get_cons] at hstatus
  · refine returns_bind fun line_edits hline_edits => ?_
    obtain rfl := dict_of_or line_edits hline_edits
    refine returns_bind fun overlaid hoverlaid => ?_
    obtain rfl := apply_all_line_edits_returns corrections lines _ overlaid hoverlaid
    refine returns_bind fun rejected _ => ?_
    cases rejected with
    | some reason => simp [rejected_submission, dict.get_cons]
    | none =>
      refine returns_bind fun payload_lines hread => (returns_pure _).mpr fun _ => ?_
      exact ⟨payload_lines, rfl, rfl, List.forall₂_map_left_iff.mp (mapM_ok_iff.mp hread)⟩

/-! ## What a line of the payload has -/

variable {corrections : PyVal}

theorem line_value {line : PyDict} {f : String}
    (honce : Once (edits_of_line corrections line)) (hf : f ∈ LINE_FIELDS) :
    field_value (line_overlay corrections line).1 f =
      edited_value (edits_of_line corrections line) line f :=
  field_value_overlay honce hf

/-- The corrected values and the extracted ones are those of the overlay. -/
theorem lineSent_iff {line sent : PyDict} (honce : Once (edits_of_line corrections line)) :
    LineSent line (line_overlay corrections line).1 (line_overlay corrections line).2 sent ↔
      ∀ f ∈ LINE_FIELDS,
        Sent (dict.get sent f) (edited_value (edits_of_line corrections line) line f) := by
  constructor
  · intro h f hf
    rw [← line_value honce hf]
    by_cases hnoted : note_of (line_mark line) line (line_overlay corrections line).1 f ∈
        (line_overlay corrections line).2
    · exact h.corrected f hf hnoted
    · have hkept := h.kept f hf hnoted
      rw [← field_value_of_not_noted honce hnoted] at hkept
      exact hkept
  · intro h
    refine ⟨fun f hf _ => ?_, fun f hf hnoted => ?_⟩
    · have hsent := h f hf
      rw [← line_value honce hf] at hsent
      exact hsent
    · have hsent := h f hf
      rw [← line_value honce hf] at hsent
      rw [← field_value_of_not_noted honce hnoted]
      exact hsent

theorem sent_self (v : PyVal) : Sent (some v) v := Or.inl rfl

/-- What `as_float` made of a value is sent: a number, and else `None`. -/
theorem sent_float_iff {v : PyVal} {x : Option PyFloat} (h : as_float v = .ok x) :
    Sent (some (ofFloat? x)) v ↔ IsNumber v := by
  unfold as_float at h
  unfold Sent IsNumber
  split at h
  · rename_i hnone
    cases h
    simp [ofFloat?, hnone]
  · rename_i hsome
    cases hread : v.toFloat with
    | ok y =>
      rw [hread] at h
      cases h
      simp [ofFloat?]
    | error e =>
      rw [hread] at h
      dsimp only at h
      split at h
      · cases h
      · cases h
        simp [ofFloat?, hsome, eq_comm]

theorem payload_line_returns (li : PyDict) : returns (payload_line li) fun pl =>
    as_float (field_value li "quantity") = .ok pl.quantity ∧
      as_float (field_value li "unit_price") = .ok pl.unit_price ∧
      pl.material = field_value li "material" ∧ pl.uom = field_value li "uom" := by
  unfold payload_line
  refine returns_bind fun quantity hquantity => returns_bind fun unit_price hprice => ?_
  exact (returns_pure _).mpr ⟨hquantity, hprice, rfl, rfl⟩

theorem sent_of_read {line : PyDict} {pl : PayloadLine}
    (honce : Once (edits_of_line corrections line))
    (hread : payload_line (line_overlay corrections line).1 = .ok pl) :
    LineSent line (line_overlay corrections line).1 (line_overlay corrections line).2
        (dict_of pl.toVal) ↔
      ∀ f ∈ ["quantity", "unit_price"],
        IsNumber (edited_value (edits_of_line corrections line) line f) := by
  rw [lineSent_iff honce]
  obtain ⟨hquantity, hprice, hmaterial, huom⟩ := payload_line_returns _ pl hread
  rw [line_value honce (by decide)] at hquantity hprice hmaterial huom
  simp only [LINE_FIELDS, List.forall_mem_cons, PayloadLine.toVal, dict_of, dict.get_cons]
  simp [hmaterial, huom, sent_self, sent_float_iff hquantity, sent_float_iff hprice]

theorem lines_sent_iff {corrections : PyVal} {lines : List PyDict}
    {payload_lines : List PayloadLine}
    (honce : ∀ line ∈ lines, Once (edits_of_line corrections line))
    (hread : List.Forall₂ (fun line pl => payload_line (line_overlay corrections line).1 = .ok pl)
      lines payload_lines) :
    List.Forall₂ (fun line sent => LineSent line (line_overlay corrections line).1
        (line_overlay corrections line).2 sent) lines
        (payload_lines.map fun pl => dict_of pl.toVal) ↔
      ∀ line ∈ lines, ∀ f ∈ ["quantity", "unit_price"],
        IsNumber (edited_value (edits_of_line corrections line) line f) := by
  induction hread with
  | nil => simp
  | @cons line pl lines payload_lines hline _ ih =>
    rw [List.map_cons, List.forall₂_cons, List.forall_mem_cons,
      sent_of_read (honce line List.mem_cons_self) hline,
      ih fun l hl => honce l (List.mem_cons_of_mem _ hl)]

/-! ## What the header of the payload has -/

theorem window_sent_iff {order_id customer_bp : PyVal} {header : PyDict}
    {payload_lines : List PayloadLine} (honce : Once (header_edits corrections)) :
    (∀ f ∈ HEADER_FIELDS,
      note_of [] header (header_overlay header corrections).1 f ∈
        (header_overlay header corrections).2 →
      Sent (dict.get (sent_payload order_id customer_bp (header_overlay header corrections).1
        payload_lines) (payload_key f)) (field_value (header_overlay header corrections).1 f)) ↔
    ∀ f ∈ ["ship_window_from", "ship_window_to"], ∀ after,
      dict.get (header_edits corrections) f = some after →
        (field_value header f).eq after = true := by
  have hnoted : ∀ {f}, f ∈ HEADER_FIELDS →
      (note_of [] header (header_overlay header corrections).1 f ∈
        (header_overlay header corrections).2 ↔
      ∃ after, dict.get (header_edits corrections) f = some after ∧
        (field_value header f).eq after = false) := by
    intro f hf
    unfold header_overlay
    rw [note_mem_iff honce]
    simp only [edits_iff, hf, true_and]
  constructor
  · intro h f hf after hafter
    have hfield : f ∈ HEADER_FIELDS := by
      simp only [List.mem_cons, List.not_mem_nil, or_false] at hf
      rcases hf with rfl | rfl <;> decide
    rw [← Bool.not_eq_false]
    intro hother
    have hsent := h f hfield ((hnoted hfield).mpr ⟨after, hafter, hother⟩)
    simp only [List.mem_cons, List.not_mem_nil, or_false] at hf
    rcases hf with rfl | rfl <;> simp [Sent, sent_payload, payload_key, dict.get_cons] at hsent
  · intro h f hf hnote
    obtain ⟨after, hafter, hother⟩ := (hnoted hf).mp hnote
    simp only [HEADER_FIELDS, List.mem_cons, List.not_mem_nil, or_false] at hf
    rcases hf with rfl | rfl | rfl | rfl | rfl | rfl | rfl
    case inr.inr.inr.inr.inl =>
      rw [h _ (by decide) after hafter] at hother
      cases hother
    case inr.inr.inr.inr.inr.inl =>
      rw [h _ (by decide) after hafter] at hother
      cases hother
    all_goals exact Or.inl (by simp [sent_payload, payload_key, dict.get_cons])

theorem header_sent {order_id customer_bp : PyVal} {header : PyDict} {f : String} {v : PyVal}
    {payload_lines : List PayloadLine} (hf : f ∈ HEADER_FIELDS)
    (h : dict.get (sent_payload order_id customer_bp header payload_lines) (payload_key f) =
      some v) : v = field_value header f := by
  simp only [HEADER_FIELDS, List.mem_cons, List.not_mem_nil, or_false] at hf
  rcases hf with rfl | rfl | rfl | rfl | rfl | rfl | rfl <;>
    simp [sent_payload, payload_key, dict.get_cons] at h <;> exact h.symm

/-! ## The submit -/

def windowHeader : PyDict :=
  [("customer_po", .str "PO-7"), ("order_type", .str "OR"), ("ship_window_from", .str "2026-05-01")]

def windowLine : PyDict :=
  [("line_num", .int 1), ("material", .str "M-1"), ("quantity", .int 2), ("unit_price", .int 3)]

/-- The purchase order and the material are corrected, not the window. -/
def poCorrected : PyVal :=
  .dict [("header", .dict [("customer_po", .str "PO-8")]),
    ("lines", .dict [("1", .dict [("material", .str "M-2")])])]

def windowMoved : PyVal := .dict [("header", .dict [("ship_window_from", .str "2026-05-08")])]

def submitWindow (corrections : PyVal) : Except PyErr PyDict :=
  build_erp_submission (.str "ord-1") (.str "bp-1") (.dict windowHeader)
    (.list ([windowLine].map .dict)) corrections

def windowOut (corrections : PyVal) : PyDict :=
  match submitWindow corrections with
  | .ok out => out
  | .error _ => []

theorem poCorrected_carried : Carried windowHeader [windowLine] poCorrected where
  window := by
    intro f hf after hafter
    simp only [List.mem_cons, List.not_mem_nil, or_false] at hf
    rcases hf with rfl | rfl <;> cases hafter
  numbers := by
    intro line hline f hf
    obtain rfl := List.mem_singleton.mp hline
    simp only [List.mem_cons, List.not_mem_nil, or_false] at hf
    rcases hf with rfl | rfl
    · exact Or.inr ⟨.fin 2, by decide +kernel⟩
    · exact Or.inr ⟨.fin 3, by decide +kernel⟩

end asoe
