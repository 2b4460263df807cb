-- Logs that tell how values change. An event names what it is about, and
-- the value of that before and after. A log is good when folding the events
-- about a thing, from an old value of it, ends in its present value.
import Asoe.Lib.Runs

namespace eventlog

open runs

variable {ε κ ν σ ι : Type}

/-- How the events of a log are read. -/
structure Reading (ε κ ν : Type) where
  subject : ε → Option κ
  before : ε → Option ν
  after : ε → Option ν

/-- The event is about `k`, and it says that `v` became `v'`. -/
structure Reading.Says (read : Reading ε κ ν) (e : ε) (k : κ) (v v' : ν) : Prop where
  subject : read.subject e = some k
  before : read.before e = some v
  after : read.after e = some v'

variable [DecidableEq κ] [DecidableEq ν]

/-- Fold the events about `k`. An event that does not start from the value
that the fold has reached breaks it. -/
def Reading.replay (read : Reading ε κ ν) (k : κ) : List ε → ν → Option ν
  | [], v => some v
  | e :: es, v =>
    if read.subject e = some k then
      if read.before e = some v then (read.after e).bind (read.replay k es) else none
    else read.replay k es v

variable {read : Reading ε κ ν} {k : κ}

@[simp] theorem Reading.replay_nil (v : ν) : read.replay k [] v = some v := rfl

theorem Reading.replay_append (es es' : List ε) (v : ν) :
    read.replay k (es ++ es') v = (read.replay k es v).bind (read.replay k es') := by
  induction es generalizing v with
  | nil => rfl
  | cons e es ih =>
    simp only [List.cons_append, Reading.replay]
    split
    · split
      · rcases read.after e with _ | v'
        · rfl
        · exact ih v'
      · rfl
    · exact ih v

theorem Reading.Says.replay {e : ε} {v v' : ν} (h : read.Says e k v v') :
    read.replay k [e] v = some v' := by
  simp [Reading.replay, h.subject, h.before, h.after]

theorem Reading.Says.replay_other {e : ε} {k' : κ} {v v' : ν} (h : read.Says e k' v v')
    (hne : k ≠ k') (u : ν) : read.replay k [e] u = some u := by
  have hsubject : read.subject e ≠ some k := by
    rw [h.subject]
    exact fun heq => hne (Option.some.inj heq).symm
  simp [Reading.replay, hsubject]

/-- From `s` to `s'` the log grew by events that replay the change of every
value of `s`. -/
def Logged (read : Reading ε κ ν) (log : σ → List ε) (value : σ → κ → Option ν) (s s' : σ) :
    Prop :=
  ∃ es, log s' = log s ++ es ∧
    ∀ k v, value s k = some v → ∃ v', value s' k = some v' ∧ read.replay k es v = some v'

variable {log : σ → List ε} {value : σ → κ → Option ν}

theorem Logged.refl (s : σ) : Logged read log value s s :=
  ⟨[], (List.append_nil _).symm, fun _ v hv => ⟨v, hv, rfl⟩⟩

theorem Logged.trans {s t u : σ} (h : Logged read log value s t) (h' : Logged read log value t u) :
    Logged read log value s u := by
  obtain ⟨es, hlog, hvalue⟩ := h
  obtain ⟨es', hlog', hvalue'⟩ := h'
  refine ⟨es ++ es', by rw [hlog', hlog, List.append_assoc], fun k v hv => ?_⟩
  obtain ⟨v', hv', hreplay⟩ := hvalue k v hv
  obtain ⟨v'', hv'', hreplay'⟩ := hvalue' k v' hv'
  exact ⟨v'', hv'', by rw [Reading.replay_append, hreplay, Option.bind_some, hreplay']⟩

theorem Logged.silent {s s' : σ} (hlog : log s' = log s)
    (hvalue : ∀ k v, value s k = some v → value s' k = some v) : Logged read log value s s' :=
  ⟨[], by rw [hlog, List.append_nil], fun k v hv => ⟨v, hvalue k v hv, rfl⟩⟩

theorem Logged.event {s s' : σ} {e : ε} {k : κ} {v v' : ν} (hlog : log s' = log s ++ [e])
    (hstated : read.Says e k v v') (hbefore : value s k = some v) (hafter : value s' k = some v')
    (hother : ∀ k', k' ≠ k → value s' k' = value s k') : Logged read log value s s' := by
  refine ⟨[e], hlog, fun k' u hu => ?_⟩
  by_cases hk : k' = k
  · subst hk
    cases hbefore.symm.trans hu
    exact ⟨v', hafter, hstated.replay⟩
  · exact ⟨u, by rw [hother k' hk, hu], hstated.replay_other hk u⟩

theorem logged_run {step : ι → σ → σ} {s : σ} {ls : List ι}
    (h : AllSteps step (fun l s => Logged read log value s (step l s)) s ls) :
    Logged read log value s (run step s ls) :=
  invariant (I := fun s' => Logged read log value s s') (fun _ _ hstep hs => hs.trans hstep)
    (Logged.refl s) h

end eventlog
