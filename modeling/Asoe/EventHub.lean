-- The event hub of the in-memory mode. Published events are kept for a minute;
-- a client that reconnects gets a replay, and at each ping it gets what the
-- window of the newest fifty has past its count.
import Asoe.Lib.PyValue
import Asoe.Lib.Runs
import Asoe.Lib.Tails
import Mathlib.Data.NNRat.Defs

namespace asoe

open py runs tails

/-! ## The publisher -/

def REPLAY_BUFFER_SECONDS : ℚ := 60

/-- An event as it is kept. The number is not in the source: it tells two
publications of one text apart. -/
structure KeptEvent where
  event : String
  timestamp : ℚ
  number : ℕ
  deriving DecidableEq

abbrev Channels := List (String × List KeptEvent)

namespace in_memory_pubsub

def channel (channels : Channels) (tenant_id : String) : List KeptEvent :=
  (dict.get channels tenant_id).getD []

/-- The clock is read once for the entry and once more, at `now`, for the
cutoff. -/
def publish (tenant_id : String) (entry : KeptEvent) (now : ℚ) (channels : Channels) : Channels :=
  let cutoff := now - REPLAY_BUFFER_SECONDS
  dict.set channels tenant_id
    ((channel channels tenant_id ++ [entry]).filter fun e => cutoff ≤ e.timestamp)

def get_replay (channels : Channels) (tenant_id : String) (since_timestamp : Option ℚ) (now : ℚ) :
    List KeptEvent :=
  let since := (since_timestamp.filter fun s => s ≠ 0).getD (now - REPLAY_BUFFER_SECONDS)
  (channel channels tenant_id).filter fun e => since ≤ e.timestamp

def get_recent (channels : Channels) (tenant_id : String) (limit : ℕ := 50) : List KeptEvent :=
  lastOf limit (channel channels tenant_id)

end in_memory_pubsub

open in_memory_pubsub

/-! ## The hub -/

/-- A client that has been let in. `due` and `pending` are not in the source:
what the client has to receive by its last answer, and what was published for
it since. -/
structure WebSocketSession where
  tenant_id : String
  seen_count : ℕ := 0
  sent : List KeptEvent := []
  due : List KeptEvent := []
  pending : List KeptEvent := []
  deriving DecidableEq

structure EventHub where
  now : ℚ
  channels : Channels := []
  published : List (String × KeptEvent) := []
  session : Option WebSocketSession := none
  deriving DecidableEq

/-- All that was ever published for a tenant. -/
def EventHub.history (hub : EventHub) (tenant_id : String) : List KeptEvent :=
  (hub.published.filter fun p => p.1 = tenant_id).map Prod.snd

def EventHub.publish (tenant_id event : String) (pause : NNRat) (hub : EventHub) : EventHub :=
  let entry : KeptEvent := ⟨event, hub.now, hub.published.length⟩
  let now := hub.now + pause
  { now := now
    channels := in_memory_pubsub.publish tenant_id entry now hub.channels
    published := hub.published ++ [(tenant_id, entry)]
    session := hub.session.map fun s =>
      if s.tenant_id = tenant_id then { s with pending := s.pending ++ [entry] } else s }

/-- `websocket_hub`, past the authentication. `last_seen` is the time that the
client gave, when there is one that can be read. No replay is made from the
time zero on; those events can only come at the first ping. -/
def EventHub.connect (tenant_id : String) (last_seen : Option ℚ) (hub : EventHub) : EventHub :=
  match last_seen with
  | none => { hub with session := some { tenant_id := tenant_id } }
  | some since =>
    let missed := (hub.history tenant_id).filter fun e => since ≤ e.timestamp
    if since ≠ 0 then
      let replay := get_replay hub.channels tenant_id (some since) hub.now
      { hub with session := some { tenant_id := tenant_id, sent := replay, due := missed } }
    else
      { hub with session := some { tenant_id := tenant_id, pending := missed } }

/-- One turn of `_stream_in_memory`, for a ping. -/
def WebSocketSession.ping (channels : Channels) (s : WebSocketSession) : WebSocketSession :=
  let all_events := get_recent channels s.tenant_id
  let new_events := all_events.drop s.seen_count
  { s with
    sent := s.sent ++ new_events
    seen_count := all_events.length
    due := s.due ++ s.pending
    pending := [] }

inductive HubAction where
  | publish (tenant_id event : String) (pause : NNRat)
  | connect (tenant_id : String) (last_seen : Option ℚ)
  | ping
  | disconnect
  deriving DecidableEq

/-- Some time passes, and something happens. -/
structure HubStep where
  elapsed : NNRat
  action : HubAction
  deriving DecidableEq

def hub_step (st : HubStep) (before : EventHub) : EventHub :=
  let hub := { before with now := before.now + st.elapsed }
  match st.action with
  | .publish tenant_id event pause => hub.publish tenant_id event pause
  | .connect tenant_id last_seen => hub.connect tenant_id last_seen
  | .ping => { hub with session := hub.session.map (WebSocketSession.ping hub.channels) }
  | .disconnect => { hub with session := none }

/-! ## What the client has to receive -/

/-- Of what was sent, the events that the client has to receive by its last
answer are there exactly once, in the order in which they were published. -/
def Served (hub : EventHub) : Prop :=
  ∀ s ∈ hub.session, (s.sent.filter fun e => e ∈ s.due) = s.due

instance (hub : EventHub) : Decidable (Served hub) :=
  inferInstanceAs (Decidable (∀ s ∈ hub.session, (s.sent.filter fun e => e ∈ s.due) = s.due))

/-- The step keeps up with what was published: no event that a replay asks for
is gone, and the window has grown past the count by what was published since the
last answer, or by more while nothing older was due. -/
def KeepsUp (st : HubStep) (hub : EventHub) : Prop :=
  match st.action with
  | .publish _ _ _ | .disconnect => True
  | .connect tenant_id last_seen => ∀ since ∈ last_seen, ∀ e ∈ hub.history tenant_id,
      since ≠ 0 → since ≤ e.timestamp → e ∈ channel hub.channels tenant_id
  | .ping => ∀ s ∈ hub.session,
      let grown := min 50 (channel hub.channels s.tenant_id).length - s.seen_count
      grown = s.pending.length ∨ s.due = [] ∧ s.pending.length ≤ grown

/-! ## What is kept -/

/-- What a client is due ends the history, and it was sent nothing that it
still waits for. -/
structure StillDue (hub : EventHub) (s : WebSocketSession) : Prop where
  tail : s.due ++ s.pending <:+ hub.history s.tenant_id
  known : ∀ e ∈ s.sent, e ∈ hub.history s.tenant_id
  unsent : ∀ e ∈ s.sent, e ∉ s.pending

structure HubKept (hub : EventHub) : Prop where
  numbered : (hub.published.map fun p => p.2.number).Nodup
  bounded : ∀ p ∈ hub.published, p.2.number < hub.published.length ∧ p.2.timestamp ≤ hub.now
  sorted : hub.published.Pairwise fun p q => p.2.timestamp ≤ q.2.timestamp
  channels : ∀ tenant_id, channel hub.channels tenant_id <:+ hub.history tenant_id
  waiting : ∀ s ∈ hub.session, StillDue hub s

section kept

variable {hub : EventHub}

theorem HubKept.nodup (h : HubKept hub) (tenant_id : String) : (hub.history tenant_id).Nodup := by
  have hnumbers : ((hub.history tenant_id).map KeptEvent.number).Nodup := by
    unfold EventHub.history
    rw [List.map_map]
    exact h.numbered.sublist (List.filter_sublist.map _)
  exact hnumbers.of_map _

theorem HubKept.history_sorted (h : HubKept hub) (tenant_id : String) :
    (hub.history tenant_id).Pairwise fun a b => a.timestamp ≤ b.timestamp := by
  unfold EventHub.history
  rw [List.pairwise_map]
  exact h.sorted.sublist List.filter_sublist

theorem HubKept.history_bounded (h : HubKept hub) {tenant_id : String} {e : KeptEvent}
    (he : e ∈ hub.history tenant_id) : e.number < hub.published.length ∧ e.timestamp ≤ hub.now := by
  obtain ⟨p, hp, rfl⟩ := List.mem_map.mp he
  exact h.bounded p (List.mem_of_mem_filter hp)

theorem HubKept.later (h : HubKept hub) (elapsed : NNRat) :
    HubKept { hub with now := hub.now + elapsed } where
  numbered := h.numbered
  bounded p hp := ⟨(h.bounded p hp).1,
    (h.bounded p hp).2.trans (le_add_of_nonneg_right elapsed.cast_nonneg)⟩
  sorted := h.sorted
  channels := h.channels
  waiting s hs := ⟨(h.waiting s hs).tail, (h.waiting s hs).known, (h.waiting s hs).unsent⟩

theorem history_publish (tenant_id event : String) (pause : NNRat) (t : String) :
    (hub.publish tenant_id event pause).history t =
      if tenant_id = t then hub.history t ++ [⟨event, hub.now, hub.published.length⟩]
      else hub.history t := by
  unfold EventHub.history EventHub.publish
  dsimp only
  rw [List.filter_append, List.map_append]
  split <;> rename_i ht <;> simp [ht]

theorem channel_publish (channels : Channels) (tenant_id t : String) (entry : KeptEvent) (now : ℚ) :
    channel (in_memory_pubsub.publish tenant_id entry now channels) t =
      if tenant_id = t then
        (channel channels t ++ [entry]).filter fun e => now - REPLAY_BUFFER_SECONDS ≤ e.timestamp
      else channel channels t := by
  unfold in_memory_pubsub.publish
  split
  · rename_i ht
    subst ht
    unfold channel
    dsimp only
    rw [dict.get_set_self, Option.getD_some]
  · rename_i ht
    unfold channel
    dsimp only
    rw [dict.get_set_of_ne _ _ (Ne.symm ht)]

/-! ## What each action keeps -/

theorem HubKept.publish (h : HubKept hub) (tenant_id event : String) (pause : NNRat) :
    HubKept (hub.publish tenant_id event pause) := by
  have hnow : hub.now ≤ hub.now + pause := le_add_of_nonneg_right pause.cast_nonneg
  have hsorted : (hub.publish tenant_id event pause).published.Pairwise
      fun p q => p.2.timestamp ≤ q.2.timestamp := by
    unfold EventHub.publish
    dsimp only
    rw [List.pairwise_append]
    refine ⟨h.sorted, List.pairwise_singleton _ _, ?_⟩
    intro p hp q hq
    rw [List.mem_singleton] at hq
    subst hq
    exact (h.bounded p hp).2
  constructor
  · unfold EventHub.publish
    dsimp only
    rw [List.map_append, List.nodup_append]
    refine ⟨h.numbered, List.nodup_singleton _, ?_⟩
    intro n hn m hm
    obtain ⟨p, hp, rfl⟩ := List.mem_map.mp hn
    have hm' : m = hub.published.length := by simpa using hm
    have hlt := (h.bounded p hp).1
    omega
  · intro p hp
    unfold EventHub.publish at hp ⊢
    dsimp only at hp ⊢
    rw [List.length_append, List.length_singleton]
    rcases List.mem_append.mp hp with hp | hp
    · obtain ⟨hlt, hle⟩ := h.bounded p hp
      exact ⟨by omega, hle.trans hnow⟩
    · rw [List.mem_singleton] at hp
      subst hp
      exact ⟨by simp, hnow⟩
  · exact hsorted
  · intro t
    rw [history_publish]
    change channel (in_memory_pubsub.publish tenant_id _ _ hub.channels) t <:+ _
    rw [channel_publish]
    split
    · have htail := suffix_concat (h.channels t) ⟨event, hub.now, hub.published.length⟩
      refine (filter_from_suffix KeptEvent.timestamp _ ?_).trans htail
      refine List.Pairwise.sublist htail.sublist ?_
      rw [List.pairwise_append]
      refine ⟨h.history_sorted t, List.pairwise_singleton _ _, ?_⟩
      intro a ha b hb
      rw [List.mem_singleton] at hb
      subst hb
      exact (h.history_bounded ha).2
    · exact h.channels t
  · intro s' hs'
    obtain ⟨s, hs, rfl⟩ := Option.mem_map.mp hs'
    have hstill := h.waiting s hs
    split
    · rename_i ht
      constructor
      · dsimp only
        rw [history_publish, if_pos ht.symm, ← List.append_assoc]
        exact suffix_concat hstill.tail _
      · intro e he
        dsimp only at he ⊢
        rw [history_publish, if_pos ht.symm]
        exact List.mem_append_left _ (hstill.known e he)
      · intro e he
        dsimp only at he ⊢
        rw [List.mem_append, List.mem_singleton]
        rintro (hmem | rfl)
        · exact hstill.unsent e he hmem
        · exact lt_irrefl _ (h.history_bounded (hstill.known _ he)).1
    · rename_i ht
      have hsame : (hub.publish tenant_id event pause).history s.tenant_id =
          hub.history s.tenant_id := by
        rw [history_publish, if_neg (Ne.symm ht)]
      exact ⟨hsame ▸ hstill.tail, fun e he => hsame ▸ hstill.known e he, hstill.unsent⟩

theorem HubKept.connect (h : HubKept hub) (tenant_id : String) (last_seen : Option ℚ) :
    HubKept (hub.connect tenant_id last_seen) := by
  have hmissed := fun since =>
    filter_from_suffix KeptEvent.timestamp since (h.history_sorted tenant_id)
  unfold EventHub.connect
  cases last_seen with
  | none =>
    refine ⟨h.numbered, h.bounded, h.sorted, h.channels, ?_⟩
    intro s hs
    obtain rfl : _ = s := Option.some.inj hs
    exact ⟨List.nil_suffix, by simp, by simp⟩
  | some since =>
    dsimp only
    split
    · refine ⟨h.numbered, h.bounded, h.sorted, h.channels, ?_⟩
      intro s hs
      obtain rfl : _ = s := Option.some.inj hs
      refine ⟨?_, ?_, by simp⟩
      · rw [List.append_nil]
        exact hmissed since
      · intro e he
        exact (h.channels tenant_id).subset (List.mem_of_mem_filter he)
    · refine ⟨h.numbered, h.bounded, h.sorted, h.channels, ?_⟩
      intro s hs
      obtain rfl : _ = s := Option.some.inj hs
      exact ⟨hmissed since, by simp, by simp⟩

theorem HubKept.ping (h : HubKept hub) :
    HubKept { hub with session := hub.session.map (WebSocketSession.ping hub.channels) } := by
  refine ⟨h.numbered, h.bounded, h.sorted, h.channels, ?_⟩
  intro s' hs'
  obtain ⟨s, hs, rfl⟩ := Option.mem_map.mp hs'
  have hstill := h.waiting s hs
  constructor
  · change (s.due ++ s.pending) ++ [] <:+ _
    rw [List.append_nil]
    exact hstill.tail
  · intro e he
    rcases List.mem_append.mp he with he | he
    · exact hstill.known e he
    · have hrecent := List.mem_of_mem_drop he
      exact (h.channels s.tenant_id).subset ((lastOf_suffix _ _).subset hrecent)
  · exact fun e _ hmem => by cases hmem

theorem HubKept.step (h : HubKept hub) (st : HubStep) : HubKept (hub_step st hub) := by
  have hlater := h.later st.elapsed
  unfold hub_step
  dsimp only
  split
  · exact hlater.publish _ _ _
  · exact hlater.connect _ _
  · exact hlater.ping
  · exact ⟨hlater.numbered, hlater.bounded, hlater.sorted, hlater.channels, fun s hs => by cases hs⟩

/-! ## What each action serves -/

theorem served_connect (h : HubKept hub) (tenant_id : String) (last_seen : Option ℚ) :
    Served (hub.connect tenant_id last_seen) ↔
      ∀ since ∈ last_seen, ∀ e ∈ hub.history tenant_id,
        since ≠ 0 → since ≤ e.timestamp → e ∈ channel hub.channels tenant_id := by
  unfold Served EventHub.connect
  cases last_seen with
  | none => simp
  | some since =>
    simp only [Option.mem_def, Option.some.injEq, forall_eq']
    split
    · rename_i hsince
      have hreplay : get_replay hub.channels tenant_id (some since) hub.now =
          (channel hub.channels tenant_id).filter fun e => since ≤ e.timestamp := by
        simp [get_replay, Option.filter_some, hsince]
      have hdue : (get_replay hub.channels tenant_id (some since) hub.now).filter
          (fun e => e ∈ (hub.history tenant_id).filter fun e => since ≤ e.timestamp) =
          get_replay hub.channels tenant_id (some since) hub.now := by
        rw [List.filter_eq_self, hreplay]
        intro e he
        obtain ⟨hmem, hfrom⟩ := List.mem_filter.mp he
        exact decide_eq_true
          (List.mem_filter.mpr ⟨(h.channels tenant_id).subset hmem, hfrom⟩)
      simp only [Option.some.injEq, forall_eq']
      rw [hdue, hreplay, filter_suffix_eq_iff (h.nodup tenant_id) (h.channels tenant_id)]
      simp [hsince]
    · rename_i hsince
      simp [not_not.mp hsince]

theorem served_ping (h : HubKept hub) {s : WebSocketSession} (hs : s ∈ hub.session)
    (hserved : (s.sent.filter fun e => e ∈ s.due) = s.due) :
    ((s.ping hub.channels).sent.filter fun e => e ∈ (s.ping hub.channels).due) =
        (s.ping hub.channels).due ↔
      min 50 (channel hub.channels s.tenant_id).length - s.seen_count = s.pending.length ∨
      s.due = [] ∧
        s.pending.length ≤ min 50 (channel hub.channels s.tenant_id).length - s.seen_count := by
  have hstill := h.waiting s hs
  have hsent : (s.sent.filter fun e => e ∈ s.due ++ s.pending) = s.due := by
    refine Eq.trans (List.filter_congr ?_) hserved
    intro e he
    simp [hstill.unsent e he]
  have hnew : (get_recent hub.channels s.tenant_id).drop s.seen_count <:+
      hub.history s.tenant_id :=
    drop_suffix_of_suffix ((lastOf_suffix _ _).trans (h.channels s.tenant_id)) _
  have hlength : ((get_recent hub.channels s.tenant_id).drop s.seen_count).length =
      min 50 (channel hub.channels s.tenant_id).length - s.seen_count := by
    unfold get_recent
    rw [List.length_drop, length_lastOf]
  unfold WebSocketSession.ping
  dsimp only
  rw [List.filter_append, hsent, List.append_cancel_left_eq,
    filter_mem_eq_iff (h.nodup s.tenant_id) hnew hstill.tail, hlength]

/-- A hub that serves its client goes on to serve it just when the step keeps
up with what was published. -/
theorem served_step (h : HubKept hub) (hserved : Served hub) (st : HubStep) :
    Served (hub_step st hub) ↔ KeepsUp st hub := by
  rcases st with ⟨elapsed, action⟩
  have hlater := h.later elapsed
  unfold hub_step KeepsUp
  dsimp only
  cases action with
  | publish tenant_id event pause =>
    simp only [iff_true]
    intro s' hs'
    obtain ⟨s, hs, rfl⟩ := Option.mem_map.mp hs'
    split
    · exact hserved s hs
    · exact hserved s hs
  | connect tenant_id last_seen => exact served_connect hlater tenant_id last_seen
  | ping =>
    unfold Served
    constructor
    · intro hall s hs
      exact (served_ping hlater hs (hserved s hs)).mp
        (hall (s.ping hub.channels) (Option.mem_map_of_mem _ hs))
    · intro hall s' hs'
      obtain ⟨s, hs, rfl⟩ := Option.mem_map.mp hs'
      exact (served_ping hlater hs (hserved s hs)).mpr (hall s hs)
  | disconnect => simp [Served]

end kept

/-! ## Runs -/

theorem hubKept_start (now : ℚ) : HubKept { now := now } where
  numbered := List.nodup_nil
  bounded := by simp
  sorted := List.Pairwise.nil
  channels := fun _ => List.suffix_refl []
  waiting := by simp

/-- After each step of a run the client has received what it has to receive,
once and in order, just when every step of the run keeps up with what was
published. -/
theorem a_client_is_served_while_the_window_keeps_up (now : ℚ) (steps : List HubStep) :
    AllSteps hub_step (fun st hub => Served (hub_step st hub)) { now := now } steps ↔
      AllSteps hub_step KeepsUp { now := now } steps := by
  refine allSteps_iff (I := fun hub => HubKept hub ∧ Served hub) ?_ ?_ ?_
  · rintro st hub ⟨hkept, hserved⟩ hkeeps
    exact ⟨hkept.step st, (served_step hkept hserved st).mpr hkeeps⟩
  · rintro st hub ⟨hkept, hserved⟩
    exact served_step hkept hserved st
  · exact ⟨hubKept_start now, by simp [Served]⟩

/-- Less than a minute passes from one ping to the next. -/
def PingsInTime (waited : ℚ) : List HubStep → Prop
  | [] => True
  | st :: rest =>
    let waited := waited + st.elapsed
    waited < 60 ∧
      match st.action with
      | .publish _ _ pause => PingsInTime (waited + pause) rest
      | .connect _ _ | .ping => PingsInTime 0 rest
      | .disconnect => PingsInTime waited rest

/-- The first event leaves the window as the second comes in, and the count
stays where it was. -/
def lostRun : List HubStep :=
  [⟨1, .connect "t1" none⟩, ⟨1, .publish "t1" "opened" 0⟩, ⟨1, .ping⟩, ⟨30, .ping⟩, ⟨30, .ping⟩,
    ⟨1, .publish "t1" "resolved" 0⟩, ⟨1, .ping⟩]

/-- An event is replayed, and streamed at the first ping. -/
def repeatedRun : List HubStep :=
  [⟨1, .publish "t1" "opened" 0⟩, ⟨1, .connect "t1" (some 1)⟩, ⟨1, .ping⟩]

theorem some_clients_lose_or_repeat_an_event :
    (PingsInTime 0 lostRun ∧
      ((run hub_step { now := 0 } lostRun).session.map fun s => s.sent.map KeptEvent.event) =
        some ["opened"] ∧
      ¬ AllSteps hub_step (fun st hub => Served (hub_step st hub)) { now := 0 } lostRun) ∧
    PingsInTime 0 repeatedRun ∧
      ((run hub_step { now := 0 } repeatedRun).session.map fun s => s.sent.map KeptEvent.event) =
        some ["opened", "opened"] ∧
      ¬ AllSteps hub_step (fun st hub => Served (hub_step st hub)) { now := 0 } repeatedRun := by
  refine ⟨⟨?_, ?_, ?_⟩, ?_, ?_, ?_⟩
  · norm_num [PingsInTime, lostRun]
  · decide +kernel
  · decide +kernel
  · norm_num [PingsInTime, repeatedRun]
  · decide +kernel
  · decide +kernel

end asoe
