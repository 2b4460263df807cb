-- The revisions of a reply draft over runs of composes. The chain of the
-- revisions is right after any run, but the draft that is shown and the event
-- that is logged follow the compose, even when it added no revision.
import Asoe.Transitions
import Asoe.Lib.Runs
import Mathlib.Data.List.Chain

namespace asoe

open py prog runs

/-! ## Composes that are kept -/

/-- What `_persist_reply_draft` is given: the outcome of a compose, whatever it
is, and who asked for it. -/
structure DraftCall where
  env : StepEnv
  result : GraphState
  user_sub : String
  notes : String

/-- The service after the outcome of a compose is kept on the record. -/
def draft_reply (cfg : Config) (id tenant : String) (call : DraftCall) (api : Api) : Api :=
  match get_record api id tenant with
  | none => api
  | some record =>
    endState (persist_reply_draft cfg call.env id tenant record call.result call.user_sub
      call.notes api)

section calls

variable (id tenant : String) (api : Api)

/-- `resolution_data["reply_draft"]` of the record. -/
def reply_entry : Option ReplyDraftEntry :=
  (get_record api id tenant).bind (·.resolution_data.reply_draft)

def reply_revisions : List ReplyRevision :=
  ((reply_entry id tenant api).map (·.revisions)).getD []

end calls

/-! ## Chains of revisions -/

/-- One value, also as Python compares it. -/
def SameValue (v w : PyVal) : Prop := v = w ∨ v.eq w = true

/-- The value of the field after the edits. -/
def edited (edits : List PyVal) (field : String) (v : PyVal) : PyVal :=
  edits.foldl (fun v edit =>
    match edit with
    | .dict d => if dict.get d "field" = some (.str field) then draft_get d "after" else v
    | _ => v) v

/-- The edits of a revision turn its predecessor into it. -/
def Revises (prev next : ReplyRevision) : Prop :=
  SameValue (edited next.edits_applied "subject" prev.subject) next.subject ∧
    SameValue (edited next.edits_applied "body" prev.body) next.body

/-- The versions count from one, the first revision is the only one of the
recipe, and the edits lead from each revision to the next. -/
structure ChainRight (revisions : List ReplyRevision) : Prop where
  versions : ∀ i rev, revisions[i]? = some rev → rev.version = i + 1
  sources : ∀ i rev, revisions[i]? = some rev →
    rev.source = if i = 0 then "AI_GENERATED" else "OPERATOR_EDIT"
  revises : revisions.IsChain Revises

/-- The subject and the body of the draft are those of the revision. -/
def Same (rev : ReplyRevision) (draft : PyDict) : Prop :=
  SameValue rev.subject (draft_get draft "subject") ∧ SameValue rev.body (draft_get draft "body")

/-- `before != after` holds of neither field. -/
def Unchanged (rev : ReplyRevision) (draft : PyDict) : Prop :=
  rev.subject.eq (draft_get draft "subject") = true ∧ rev.body.eq (draft_get draft "body") = true

def Drafted (status : PyVal) : Prop := status = .str "DRAFTED"

variable {prior : List ReplyRevision} {draft : PyDict} {status : PyVal} {user_sub now : String}
  {rev : ReplyRevision}

theorem Unchanged.same (h : Unchanged rev draft) : Same rev draft := ⟨Or.inr h.1, Or.inr h.2⟩

/-- An edit as it is noted. -/
def reply_edit (field : String) (before after : PyVal) : PyVal :=
  .dict [("field", .str field), ("before", before), ("after", after)]

theorem diff_eq : diff_reply_fields (some rev) draft =
    (if rev.subject.eq (draft_get draft "subject") then []
      else [reply_edit "subject" rev.subject (draft_get draft "subject")]) ++
    (if rev.body.eq (draft_get draft "body") then []
      else [reply_edit "body" rev.body (draft_get draft "body")]) := by
  unfold diff_reply_fields
  dsimp only
  rw [List.filterMap_cons, List.filterMap_cons, List.filterMap_nil]
  by_cases hsubject : rev.subject.eq (draft_get draft "subject") = true <;>
    by_cases hbody : rev.body.eq (draft_get draft "body") = true <;>
      simp [hsubject, hbody, reply_edit]

theorem diff_eq_nil_iff : diff_reply_fields (some rev) draft = [] ↔ Unchanged rev draft := by
  rw [diff_eq, List.append_eq_nil_iff, ite_eq_left_iff, ite_eq_left_iff]
  simp [Unchanged]

theorem edited_reply_edit (edits : List PyVal) (field field' : String) (before after v : PyVal) :
    edited (reply_edit field' before after :: edits) field v =
      edited edits field (if field' = field then after else v) := by
  unfold edited reply_edit
  rw [List.foldl_cons]
  simp [dict.get_cons, draft_get, PyVal.ofOption]

theorem edited_diff :
    SameValue (edited (diff_reply_fields (some rev) draft) "subject" rev.subject)
      (draft_get draft "subject") ∧
    SameValue (edited (diff_reply_fields (some rev) draft) "body" rev.body)
      (draft_get draft "body") := by
  rw [diff_eq]
  have hnil : ∀ field v, edited [] field v = v := fun _ _ => rfl
  by_cases hsubject : rev.subject.eq (draft_get draft "subject") = true <;>
    by_cases hbody : rev.body.eq (draft_get draft "body") = true <;>
      simp [hsubject, hbody, edited_reply_edit, hnil, SameValue]

/-- The revision that a compose adds. -/
def next_revision (prior : List ReplyRevision) (draft : PyDict) (user_sub now : String) :
    ReplyRevision :=
  { version := (prior.getLast?.map (·.version + 1)).getD 1
    subject := draft_get draft "subject"
    body := draft_get draft "body"
    edits_applied := diff_reply_fields prior.getLast? draft
    author := if prior.getLast?.isNone then REPLY_DRAFT_AI_AUTHOR else user_sub
    authored_at := now
    source := if prior.getLast?.isNone then "AI_GENERATED" else "OPERATOR_EDIT" }

/-- A compose adds a revision when it drafted something that the last revision
does not say. -/
def AddsRevision (prior : List ReplyRevision) (draft : PyDict) (status : PyVal) : Prop :=
  Drafted status ∧ ∀ rev, prior.getLast? = some rev → ¬ Unchanged rev draft

theorem append_of_adds (h : AddsRevision prior draft status) :
    append_reply_revision prior draft status user_sub now =
      prior ++ [next_revision prior draft user_sub now] := by
  obtain ⟨hstatus, hchanged⟩ := h
  have hdrafted : status = .str "DRAFTED" := hstatus
  unfold append_reply_revision
  rw [if_neg (not_not.mpr hdrafted)]
  dsimp only
  rw [if_neg]
  · rfl
  · rintro ⟨hsome, hedits⟩
    obtain ⟨rev, hrev⟩ := Option.isSome_iff_exists.mp hsome
    rw [hrev] at hedits
    exact hchanged rev hrev (diff_eq_nil_iff.mp hedits)

theorem append_of_not_adds (h : ¬ AddsRevision prior draft status) :
    append_reply_revision prior draft status user_sub now = prior := by
  unfold append_reply_revision
  split
  · rfl
  · rename_i hstatus
    have hsame : ∃ rev, prior.getLast? = some rev ∧ Unchanged rev draft := by
      by_contra hnone
      push Not at hnone
      exact h ⟨not_not.mp hstatus, hnone⟩
    obtain ⟨rev, hrev, hunchanged⟩ := hsame
    dsimp only
    rw [hrev, if_pos ⟨rfl, diff_eq_nil_iff.mpr hunchanged⟩]

theorem chainRight_nil : ChainRight [] := ⟨by simp, by simp, .nil⟩

theorem getElem?_concat_cases {next rev : ReplyRevision} {i : ℕ}
    (h : (prior ++ [next])[i]? = some rev) :
    prior[i]? = some rev ∨ i = prior.length ∧ rev = next := by
  rcases Nat.lt_trichotomy i prior.length with hi | rfl | hi
  · left
    rwa [List.getElem?_append_left hi] at h
  · right
    rw [List.getElem?_concat_length, Option.some.injEq] at h
    exact ⟨rfl, h.symm⟩
  · rw [List.getElem?_eq_none (by simp; omega)] at h
    cases h

theorem ChainRight.last (h : ChainRight prior) (hlast : prior.getLast? = some rev) :
    rev.version = prior.length ∧
      rev.source = if prior.length = 1 then "AI_GENERATED" else "OPERATOR_EDIT" := by
  have hne : prior ≠ [] := by
    rintro rfl
    cases hlast
  have hlength : prior.length - 1 + 1 = prior.length :=
    Nat.sub_add_cancel (List.length_pos_of_ne_nil hne)
  rw [List.getLast?_eq_getElem?] at hlast
  refine ⟨(h.versions _ _ hlast).trans hlength, ?_⟩
  rw [h.sources _ _ hlast]
  congr 1
  rw [eq_iff_iff]
  omega

/-- The chain stays right, and what it held stays. -/
theorem ChainRight.append (h : ChainRight prior) :
    ChainRight (append_reply_revision prior draft status user_sub now) ∧
      prior <+: append_reply_revision prior draft status user_sub now := by
  by_cases hadds : AddsRevision prior draft status
  swap
  · rw [append_of_not_adds hadds]
    exact ⟨h, List.prefix_refl _⟩
  rw [append_of_adds hadds]
  refine ⟨⟨?_, ?_, ?_⟩, List.prefix_append _ _⟩
  · intro i rev hrev
    rcases getElem?_concat_cases hrev with hold | ⟨rfl, rfl⟩
    · exact h.versions i rev hold
    · unfold next_revision
      rcases hlast : prior.getLast? with _ | last
      · rw [List.getLast?_eq_none_iff.mp hlast]
        rfl
      · simp [(h.last hlast).1]
  · intro i rev hrev
    rcases getElem?_concat_cases hrev with hold | ⟨rfl, rfl⟩
    · exact h.sources i rev hold
    · unfold next_revision
      rcases hlast : prior.getLast? with _ | last
      · rw [List.getLast?_eq_none_iff.mp hlast]
        rfl
      · have hne : prior.length ≠ 0 := fun h0 => by
          rw [List.length_eq_zero_iff.mp h0] at hlast
          cases hlast
        simp [hne]
  · rw [List.isChain_append]
    refine ⟨h.revises, .singleton _, fun last hlast next hnext => ?_⟩
    cases hnext
    unfold Revises next_revision
    rw [hlast]
    exact edited_diff

/-! ## One call -/

section onecall

variable {cfg : Config} {id tenant : String} {call : DraftCall} {api : Api} {r : ChildCase}

/-- The entry that the call writes. -/
def entry_of (call : DraftCall) (r : ChildCase) : ReplyDraftEntry :=
  reply_draft_entry call.env r call.result call.user_sub

theorem draft_reply_eq (hget : get_record api id tenant = some r) :
    draft_reply cfg id tenant call api =
      log_audit_event cfg call.env
        (reply_draft_event id tenant call.user_sub call.notes (entry_of call r))
        (put_record api id (stamped call.env (drafted_record (entry_of call r) r))) := by
  have hend : wp (persist_reply_draft cfg call.env id tenant r call.result call.user_sub call.notes)
      (fun _ api' => api' = log_audit_event cfg call.env
        (reply_draft_event id tenant call.user_sub call.notes (entry_of call r))
        (put_record api id (stamped call.env (drafted_record (entry_of call r) r))))
      (fun _ api' => api' = log_audit_event cfg call.env
        (reply_draft_event id tenant call.user_sub call.notes (entry_of call r))
        (put_record api id (stamped call.env (drafted_record (entry_of call r) r)))) api := by
    unfold persist_reply_draft
    rw [wp_bind]
    refine wp_update_record hget ?_
    rw [wp_bind, wp_modify, wp_pure]
    rfl
  unfold draft_reply
  rw [hget]
  exact wp_end hend

theorem draft_reply_none (hget : get_record api id tenant = none) :
    draft_reply cfg id tenant call api = api := by
  unfold draft_reply
  rw [hget]

theorem get_draft_reply (hget : get_record api id tenant = some r) :
    get_record (draft_reply cfg id tenant call api) id tenant =
      some (stamped call.env (drafted_record (entry_of call r) r)) := by
  rw [draft_reply_eq hget, log_audit_event_eq]
  unfold get_record put_record
  dsimp only
  rw [dict.get_set_self]
  exact if_pos (get_record_some hget).2

theorem reply_entry_draft_reply (hget : get_record api id tenant = some r) :
    reply_entry id tenant (draft_reply cfg id tenant call api) = some (entry_of call r) := by
  unfold reply_entry
  rw [get_draft_reply hget]
  rfl

theorem reply_revisions_eq (hget : get_record api id tenant = some r) :
    reply_revisions id tenant api = (r.resolution_data.reply_draft.map (·.revisions)).getD [] := by
  unfold reply_revisions reply_entry
  rw [hget]
  rfl

theorem revisions_entry_of (hget : get_record api id tenant = some r) :
    (entry_of call r).revisions = append_reply_revision (reply_revisions id tenant api)
      (draft_of call.result) (output_of call.result "status") call.user_sub call.env.now_iso := by
  rw [reply_revisions_eq hget]
  rfl

theorem reply_revisions_draft_reply (hget : get_record api id tenant = some r) :
    reply_revisions id tenant (draft_reply cfg id tenant call api) =
      (entry_of call r).revisions := by
  unfold reply_revisions
  rw [reply_entry_draft_reply hget]
  rfl

/-- The event is written, unless the insert on the database fails. -/
def EventWritten (cfg : Config) (env : StepEnv) : Prop :=
  ¬ (cfg.store = .database ∧ env.audit_insert_ok = false)

instance (cfg : Config) (env : StepEnv) : Decidable (EventWritten cfg env) :=
  inferInstanceAs (Decidable (¬ _))

theorem audit_draft_reply (hget : get_record api id tenant = some r) :
    (draft_reply cfg id tenant call api).audit_log =
      if EventWritten cfg call.env then api.audit_log ++
        [reply_draft_event id tenant call.user_sub call.notes (entry_of call r)]
      else api.audit_log := by
  rw [draft_reply_eq hget]
  unfold log_audit_event EventWritten
  split <;> simp_all [put_record]

end onecall

/-! ## What a call should do -/

/-- The call keeps the chain right and what it held. -/
structure ChainKept (cfg : Config) (id tenant : String) (call : DraftCall) (api : Api) : Prop where
  kept : reply_revisions id tenant api <+:
    reply_revisions id tenant (draft_reply cfg id tenant call api)
  right : ChainRight (reply_revisions id tenant (draft_reply cfg id tenant call api))

/-- After the call the draft that is shown is the latest revision, and the event
speaks of an edit only when the call added one. -/
structure Mirrors (cfg : Config) (id tenant : String) (call : DraftCall) (api : Api) : Prop where
  shown : ∀ entry rev, reply_entry id tenant (draft_reply cfg id tenant call api) = some entry →
    entry.revisions.getLast? = some rev → Same rev entry.draft
  audited : ∀ event, (draft_reply cfg id tenant call api).audit_log = api.audit_log ++ [event] →
    reply_revisions id tenant (draft_reply cfg id tenant call api) = reply_revisions id tenant api →
      event.policy_key ≠ "EXCEPTION_REPLY_EDITED"

/-- A compose that drafted, or that shows what the latest revision says; and
where a second revision stands and the event is written, one that drafted
something else. -/
structure Follows (cfg : Config) (revisions : List ReplyRevision) (call : DraftCall) : Prop where
  shows_latest : ∀ rev, revisions.getLast? = some rev →
    Drafted (output_of call.result "status") ∨ Same rev (draft_of call.result)
  edits : 2 ≤ revisions.length → EventWritten cfg call.env →
    AddsRevision revisions (draft_of call.result) (output_of call.result "status")

section laws

variable {cfg : Config} {id tenant : String} {call : DraftCall} {api : Api}

theorem chainKept (h : ChainRight (reply_revisions id tenant api)) :
    ChainKept cfg id tenant call api := by
  rcases hget : get_record api id tenant with _ | r
  · constructor
    · simp only [draft_reply_none hget, List.prefix_refl]
    · simpa only [draft_reply_none hget] using h
  · constructor <;> rw [reply_revisions_draft_reply hget, revisions_entry_of hget]
    · exact h.append.2
    · exact h.append.1

theorem policy_key_eq_edited {entry : ReplyDraftEntry} :
    reply_draft_policy_key entry = "EXCEPTION_REPLY_EDITED" ↔
      ∃ rev, entry.revisions.getLast? = some rev ∧ rev.source = "OPERATOR_EDIT" := by
  refine Iff.trans ?_ Option.map_eq_some_iff
  unfold reply_draft_policy_key
  split
  · rename_i h
    exact ⟨fun _ => h, fun _ => rfl⟩
  · rename_i h
    split <;> simp [h]

theorem mirrors_of_none (hget : get_record api id tenant = none) :
    Mirrors cfg id tenant call api ∧ Follows cfg (reply_revisions id tenant api) call := by
  have hentry : reply_entry id tenant api = none := by
    unfold reply_entry
    rw [hget]
    rfl
  have hrevisions : reply_revisions id tenant api = [] := by
    unfold reply_revisions
    rw [hentry]
    rfl
  refine ⟨⟨fun entry rev h => ?_, fun event h => ?_⟩, ⟨fun rev h => ?_, fun h => ?_⟩⟩
  · rw [draft_reply_none hget, hentry] at h
    cases h
  · rw [draft_reply_none hget] at h
    simp at h
  · rw [hrevisions] at h
    cases h
  · rw [hrevisions] at h
    cases h

/-- A call mirrors the latest revision just when its compose follows it. -/
theorem mirrors_iff (h : ChainRight (reply_revisions id tenant api)) :
    Mirrors cfg id tenant call api ↔ Follows cfg (reply_revisions id tenant api) call := by
  rcases hget : get_record api id tenant with _ | r
  · exact iff_of_true (mirrors_of_none hget).1 (mirrors_of_none hget).2
  have hentry : reply_entry id tenant (draft_reply cfg id tenant call api) = some _ :=
    reply_entry_draft_reply hget
  have hrevisions : (entry_of call r).revisions = append_reply_revision _ _ _ _ _ :=
    revisions_entry_of hget
  have hafter : reply_revisions id tenant (draft_reply cfg id tenant call api) = _ :=
    reply_revisions_draft_reply hget
  have haudit : (draft_reply cfg id tenant call api).audit_log = if _ then _ else _ :=
    audit_draft_reply hget
  constructor
  · intro hmirrors
    refine ⟨fun rev hlast => ?_, fun htwo hwritten => ?_⟩
    · by_cases hdrafted : Drafted (output_of call.result "status")
      · exact Or.inl hdrafted
      · right
        rw [append_of_not_adds fun hadds => hdrafted hadds.1] at hrevisions
        exact hmirrors.shown _ rev hentry (by rw [hrevisions]; exact hlast)
    · by_contra hnot
      rw [append_of_not_adds hnot] at hrevisions
      rw [if_pos hwritten] at haudit
      refine hmirrors.audited _ haudit (hafter.trans hrevisions) (policy_key_eq_edited.mpr ?_)
      rw [hrevisions]
      have hne : reply_revisions id tenant api ≠ [] := by
        intro hnil
        rw [hnil] at htwo
        cases htwo
      have hlast := List.getLast?_eq_some_getLast hne
      exact ⟨_, hlast, by rw [(h.last hlast).2, if_neg (by omega)]⟩
  · intro hfollows
    refine ⟨fun entry rev h' hlast => ?_, fun event h' hsame => ?_⟩
    · rw [hentry] at h'
      cases h'
      rw [hrevisions] at hlast
      change Same rev (draft_of call.result)
      by_cases hadds : AddsRevision (reply_revisions id tenant api) (draft_of call.result)
          (output_of call.result "status")
      · rw [append_of_adds hadds, List.getLast?_concat] at hlast
        cases hlast
        exact ⟨Or.inl rfl, Or.inl rfl⟩
      · rw [append_of_not_adds hadds] at hlast
        rcases hfollows.shows_latest rev hlast with hdrafted | hshown
        · -- it drafted what the revision says already
          have hold : ∃ rev', (reply_revisions id tenant api).getLast? = some rev' ∧
              Unchanged rev' (draft_of call.result) := by
            by_contra hnone
            push Not at hnone
            exact hadds ⟨hdrafted, hnone⟩
          obtain ⟨rev', hlast', hunchanged⟩ := hold
          rw [hlast] at hlast'
          cases hlast'
          exact hunchanged.same
        · exact hshown
    · by_cases hwritten : EventWritten cfg call.env
      swap
      · rw [haudit, if_neg hwritten] at h'
        simp at h'
      rw [haudit, if_pos hwritten] at h'
      obtain rfl : _ = event := by simpa using h'
      rw [hafter] at hsame
      intro hkey
      obtain ⟨rev, hlast, hsource⟩ := policy_key_eq_edited.mp hkey
      rw [hsame] at hlast
      have htwo : 2 ≤ (reply_revisions id tenant api).length := by
        by_contra hshort
        rw [(h.last hlast).2] at hsource
        have hone : (reply_revisions id tenant api).length = 1 := by
          have := List.length_pos_of_mem (List.mem_of_getLast? hlast)
          omega
        rw [if_pos hone] at hsource
        exact absurd hsource (by decide)
      rw [hrevisions, append_of_adds (hfollows.edits htwo hwritten)] at hsame
      simp at hsame

/-- The chain stays right over any run of composes, whatever their outcomes, and
the run mirrors the latest revision at each call just when each compose follows
it. -/
theorem a_run_of_composes_mirrors_the_latest_revision_when_each_one_follows_it
    (cfg : Config) (id tenant : String) (api : Api) (calls : List DraftCall)
    (hnew : reply_revisions id tenant api = []) :
    AllSteps (draft_reply cfg id tenant) (ChainKept cfg id tenant) api calls ∧
      (AllSteps (draft_reply cfg id tenant) (Mirrors cfg id tenant) api calls ↔
        AllSteps (draft_reply cfg id tenant)
          (fun call api => Follows cfg (reply_revisions id tenant api) call) api calls) := by
  have hstart : ChainRight (reply_revisions id tenant api) := by
    rw [hnew]
    exact chainRight_nil
  constructor
  · have hkeep : ∀ call api, True → ChainRight (reply_revisions id tenant api) →
        ChainRight (reply_revisions id tenant (draft_reply cfg id tenant call api)) :=
      fun call api _ h => (chainKept h).right
    exact allSteps_mono (fun call api h => chainKept h.1)
      (invariant_before hkeep hstart (allSteps_true api calls))
  · exact allSteps_iff (I := fun api => ChainRight (reply_revisions id tenant api))
      (fun call api h _ => (chainKept h).right) (fun call api h => mirrors_iff h) hstart

end laws

/-! ## The service -/

/-! ## A rejected compose after an edit -/

def draftStep (reply : PyDict) : Step :=
  sampleStep "analyst" (.disposition "E1" none
    { action := "DRAFT_REPLY", notes := "checked", reason_tag := "OTHER", reply := some reply })

/-- A draft, and an edit of its subject. -/
def editedReply : Api :=
  run (step sampleConfig) {}
    [resolveStep, draftStep [], draftStep [("edits", .dict [("subject", .str "Your order")])]]

/-- An outcome that drafts this subject. -/
def composeCall (subject : String) : DraftCall where
  env := sampleEnv (sampleRun 20000)
  result :=
    { event := sampleEvent
      execution_log := some
        { trace_id := "r1", recipe_name := .ReplyDraftRecipe, inputs := []
          outputs := [("status", .str "DRAFTED"),
            ("draft", .dict [("subject", .str subject), ("body", .str "Please confirm.")])] } }
  user_sub := "analyst"
  notes := "checked"

/-- Two composes that draft two subjects are mirrored. -/
theorem two_composes_are_mirrored :
    AllSteps (draft_reply sampleConfig "E1" "T1") (Mirrors sampleConfig "E1" "T1")
      (run (step sampleConfig) {} [resolveStep]) [composeCall "Order", composeCall "Question"] := by
  refine (a_run_of_composes_mirrors_the_latest_revision_when_each_one_follows_it sampleConfig "E1"
    "T1" (run (step sampleConfig) {} [resolveStep]) [composeCall "Order", composeCall "Question"]
    (by decide +kernel)).2.mpr ⟨⟨fun _ _ => Or.inl rfl, fun h => ?_⟩,
      ⟨fun _ _ => Or.inl rfl, fun h => ?_⟩, trivial⟩
  · exact absurd h (by decide +kernel)
  · exact absurd h (by decide +kernel)

/-- The second revision stands, the draft that is shown is empty, and the event
says that the reply was edited. -/
theorem a_rejected_compose_after_an_edit_is_audited_as_an_edit :
    let api := step sampleConfig (draftStep [("template_name", .str "unknown")]) editedReply
    (reply_revisions "E1" "T1" api).map (·.source) = ["AI_GENERATED", "OPERATOR_EDIT"] ∧
      reply_revisions "E1" "T1" api = reply_revisions "E1" "T1" editedReply ∧
      (reply_entry "E1" "T1" api).map (·.draft) = some [] ∧
      api.audit_log.length = editedReply.audit_log.length + 1 ∧
      (api.audit_log.getLast?.map (·.policy_key)) = some "EXCEPTION_REPLY_EDITED" := by
  decide +kernel

end asoe
