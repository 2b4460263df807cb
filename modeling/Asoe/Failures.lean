-- FAIL_TO_HUMAN in a run: which node may take the place of a failure that
-- an earlier node has put, and when none does.
import Asoe.ShadowGate

namespace asoe

open py prog flow

/-- A node of the run has left the state as failed. -/
def HasFailed (vs : List (Visit NodeName Pos)) : Prop :=
  ∃ v ∈ vs, v.after.1.final_status = some .FAIL_TO_HUMAN

/-- Once a node has left the state as failed, it stays failed at every node
that the run gets to, and at its end. -/
def FailureSticks (env : RunEnv) (origin : Option String) (start : Pos) : Prop :=
  (∀ vs node p, Reaches env origin start vs node p → HasFailed vs →
    p.1.final_status = some .FAIL_TO_HUMAN) ∧
  (∀ vs p, Finishes env origin start vs p → HasFailed vs →
    p.1.final_status = some .FAIL_TO_HUMAN)

/-- A node that runs on a failed state leaves it failed, unless it is the
cross-check of `classify`. -/
theorem Exit.failed {env : RunEnv} {s s' : GraphState} {node : NodeName} {verdict : Option String}
    {sets : Option TerminalStatus} (h : Exit env s s' node verdict sets)
    (hfailed : s.final_status = some .FAIL_TO_HUMAN)
    (hopen : node ∈ [.select_recipe, .resolve_dependencies, .validate_types, .shadow_audit,
      .execute_recipe, .explain_only] → s.final_status = none)
    (hagrees : node = .classify → Agrees env s) :
    sets.or s.final_status = some .FAIL_TO_HUMAN := by
  have hclosed : ∀ {P : Prop}, s.final_status = none → P := by
    intro P hn
    cases hn.symm.trans hfailed
  cases h with
  | ingested | agreed | loaded | within | directed | unproposed | proposed | resolved | typed
  | green | effected | analysed => exact hfailed
  | refused | breached | required_failed | untyped => rfl
  | disagreed h => exact absurd (hagrees rfl) h
  | yellow | red | executed | explained => exact hclosed (hopen (by decide))
  | gap h => exact absurd hfailed h

section runs

variable {env : RunEnv} {origin : Option String} {s : GraphState} {ext : External}

theorem ingest_of_no_order_id (env : RunEnv) (s : GraphState) (h : s.event.order_id = "") :
    ∃ t, ingest env s = .ok t ∧ t.final_status = some .FAIL_TO_HUMAN := by
  unfold ingest
  rw [if_pos h]
  exact ⟨_, rfl, rfl⟩

/-- A failed state stays failed over the next node of the run. -/
theorem failure_kept {vs : List (Visit NodeName Pos)} {node : NodeName} {p p' : Pos}
    (hfresh : s.final_status = none)
    (hcond : s.event.order_id ≠ "" ∨ ∀ t, ingest env s = .ok t → Agrees env t)
    (hpath : Reaches env origin (s, ext) vs node p)
    (hexec : (build_graph env origin).exec node p = .ok p')
    (hfailed : p.1.final_status = some .FAIL_TO_HUMAN) :
    p'.1.final_status = some .FAIL_TO_HUMAN := by
  obtain ⟨verdict, sets, hexit, -, hfinal⟩ := run_node_left hexec
  rw [hfinal]
  refine hexit.failed hfailed (reaches_open hpath) fun hnode => ?_
  -- only a refused event is failed before `classify`
  have hingest := (reaches_prepared hpath).at_classify hnode
  rcases hcond with hid | hagrees
  · obtain ⟨verdict', sets', hexit', -, hfinal'⟩ := ingest_left env s _ hingest
    cases hexit' with
    | ingested _ =>
      rw [hfailed, hfresh] at hfinal'
      cases hfinal'
    | refused h => exact absurd h hid
  · exact hagrees _ hingest

/-- The cross-check replaces the failure of a refused event. -/
theorem disagreement_replaces_failure {t : GraphState} (hid : s.event.order_id = "")
    (ht : ingest env s = .ok t) (hdisagrees : ¬ Agrees env t) :
    ¬ FailureSticks env origin (s, ext) := by
  intro hsticks
  obtain ⟨t', ht', hfailed⟩ := ingest_of_no_order_id env s hid
  cases ht.symm.trans ht'
  have hingest : (build_graph env origin).exec .ingest (s, ext) = .ok (t, ext) := by
    simp only [build_graph, run_node, ht, Except.map]
  have hclassify : (build_graph env origin).exec .classify (t, ext) = .ok (classify env t, ext) :=
    rfl
  have hpath : Reaches env origin (s, ext) [⟨.ingest, (s, ext), (t, ext)⟩,
      ⟨.classify, (t, ext), (classify env t, ext)⟩] .load_skill (classify env t, ext) :=
    .visit hingest rfl (.visit hclassify rfl (.here _ _))
  have hstill := hsticks.1 _ _ _ hpath ⟨_, List.mem_cons_self, hfailed⟩
  obtain ⟨verdict, sets, hexit, -, hfinal⟩ := run_node_left hclassify
  rw [hstill] at hfinal
  cases hexit with
  | agreed h => exact hdisagrees h
  | disagreed h => cases hfinal

/-- A failure sticks exactly when the event has an order id, or when the
intent backend agrees with the deterministic classifier on the refused
event. -/
theorem a_failure_sticks_iff_no_disagreement_follows (env : RunEnv) (origin : Option String)
    (s : GraphState) (ext : External) (hfresh : s.final_status = none) :
    FailureSticks env origin (s, ext) ↔
      s.event.order_id ≠ "" ∨ ∀ t, ingest env s = .ok t → Agrees env t := by
  constructor
  · intro hsticks
    by_contra hcond
    push Not at hcond
    obtain ⟨hid, t, ht, hdisagrees⟩ := hcond
    exact disagreement_replaces_failure hid ht hdisagrees hsticks
  · intro hcond
    have hreach : ∀ vs node p, Reaches env origin (s, ext) vs node p → HasFailed vs →
        p.1.final_status = some .FAIL_TO_HUMAN := by
      intro vs node p hpath
      have hboth := hpath.rule (P := fun ws a u => Reaches env origin (s, ext) ws a u ∧
        (HasFailed ws → u.1.final_status = some .FAIL_TO_HUMAN)) ⟨.here _ _, ?_⟩ ?_
      · exact hboth.2
      · rintro ⟨v, hv, -⟩
        cases hv
      rintro ws a u u' b ⟨hu, ih⟩ hexec hnext
      refine ⟨hu.snoc hexec hnext, ?_⟩
      rintro ⟨v, hv, hfailed⟩
      rcases List.mem_append.mp hv with hv | hv
      · exact failure_kept hfresh hcond hu hexec (ih ⟨v, hv, hfailed⟩)
      · rw [List.mem_singleton.mp hv] at hfailed
        exact hfailed
    refine ⟨hreach, ?_⟩
    rintro vs p hends ⟨v, hv, hfailed⟩
    obtain ⟨ws, a, u, hpath, hexec, -, rfl⟩ := hends.last_visit
    rcases List.mem_append.mp hv with hv | hv
    · exact failure_kept hfresh hcond hpath hexec (hreach _ _ _ hpath ⟨v, hv, hfailed⟩)
    · rw [List.mem_singleton.mp hv] at hfailed
      exact hfailed

end runs

/-! ## A refused event that ends in review -/

/-- A model that takes every event for a duplicate order. -/
def contraryRun : RunEnv :=
  { sampleRun 100 with intent_backend := some fun _ => ⟨.DUPLICATE_PO, lit (99 / 100)⟩ }

def namelessEvent : OrderEvent := { sampleEvent with order_id := "" }

/-- The cross-check replaces the failure of an event without an order id,
and the run ends in manual review. -/
theorem a_refused_event_ends_in_review :
    ¬ FailureSticks contraryRun none ({ event := namelessEvent }, {}) ∧
      wp (run_graph contraryRun none { event := namelessEvent })
        (fun fin _ => fin.final_status = some .MANUAL_REVIEW_REQUIRED) (fun _ _ => False) {} := by
  refine ⟨?_, by decide +kernel⟩
  obtain ⟨t, ht, -⟩ := ingest_of_no_order_id contraryRun { event := namelessEvent } rfl
  refine disagreement_replaces_failure rfl ht fun hagrees => ?_
  have hsame := hagrees _ rfl
  rw [(ingest_wrote contraryRun { event := namelessEvent } t ht).event] at hsame
  exact absurd hsame (by decide +kernel)

/-- With the deterministic classifier a failure sticks, order id or not. -/
theorem a_refused_event_stays_failed :
    FailureSticks (sampleRun 100) none ({ event := namelessEvent }, {}) :=
  (a_failure_sticks_iff_no_disagreement_follows (sampleRun 100) none
    { event := namelessEvent } {} rfl).mpr (Or.inr fun _ _ backend h => by cases h)

end asoe
