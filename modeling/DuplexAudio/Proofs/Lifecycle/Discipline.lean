import DuplexAudio.Proofs.Lifecycle.Count
import DuplexAudio.Proofs.Transport.Journal

/-!
The discipline of starting and stopping the pair. Whatever is asked of the lifecycle, it starts only
a pair that is stopped and needed and stops only one that runs without need, so starts and stops
alternate and the committed rate is the one of the latest start.
-/

namespace DuplexAudio

/-! ### Requests to the transport -/

/-- When a request may go to the transport: a start, which may fail, while the pair is stopped and
some substream is counted, a stop while it runs and none is. -/
def StreamState.Permits (state : StreamState) : TransportEvent → Prop
  | .started _ | .startFailed _ => state.running = false ∧ 0 < state.activeSubstreams
  | .stopped => state.running = true ∧ state.activeSubstreams = 0
  | .pcmAttached _ _ | .midiAttached _ _ _ => True

/-- The state in which an action goes to the transport: who joins is counted by then, and who leaves
is not counted any more. -/
def StreamState.recounted (state : StreamState) : Lifecycle.Action → StreamState
  | .add | .join _ => { state with activeSubstreams := state.activeSubstreams + 1 }
  | .remove | .leave => state.decrement
  | _ => state

namespace Lifecycle

variable {lifecycle next : Lifecycle} {rate : UInt32} {move : Move}

/-- The way from one lifecycle to another went through requests that `state` permits. -/
def Requested (state : StreamState) (before after : Lifecycle) : Prop :=
  ∃ requests, after.transport.events = before.transport.events ++ requests ∧
    ∀ event ∈ requests, state.Permits event

theorem requested_nothing {state : StreamState}
    (hevents : next.transport.events = lifecycle.transport.events) :
    Requested state lifecycle next :=
  ⟨[], by simp [hevents], by simp⟩

theorem requested_one {state : StreamState} {event : TransportEvent}
    (hevents : next.transport.events = lifecycle.transport.events ++ [event])
    (hpermits : state.Permits event) : Requested state lifecycle next := by
  refine ⟨[event], hevents, fun other hmem => ?_⟩
  rw [List.mem_singleton.1 hmem]
  exact hpermits

theorem requested_ensureStarted (lifecycle : Lifecycle) (rate : UInt32) :
    Requested lifecycle.state lifecycle (lifecycle.ensureStarted rate).2 := by
  rcases lifecycle.ensureStarted_cases rate with
    ⟨-, hcase⟩ | ⟨-, -, hcase⟩ | ⟨hused, hidle, _, -, hcase⟩ | ⟨hused, hidle, -, hcase⟩
  · rw [hcase]
    exact requested_nothing rfl
  · rw [hcase]
    exact requested_nothing rfl
  · rw [hcase]
    exact requested_one rfl ⟨hidle, hused⟩
  · rw [hcase]
    exact requested_one rfl ⟨hidle, hused⟩

theorem requested_ensureStopped (lifecycle : Lifecycle) :
    Requested lifecycle.state lifecycle lifecycle.ensureStopped.2 := by
  rcases lifecycle.ensureStopped_cases with ⟨-, hcase⟩ | ⟨hunused, hrunning, hcase⟩
  · rw [hcase]
    exact requested_nothing rfl
  · rw [hcase]
    exact requested_one rfl ⟨hrunning, hunused⟩

theorem requested_join (lifecycle : Lifecycle) (rate : UInt32) :
    Requested lifecycle.addSubstream.state lifecycle (lifecycle.join rate).2 := by
  rcases lifecycle.joined_cases rate with hcase | ⟨hused, hidle, hcase⟩ | ⟨hused, hidle, hcase⟩
  · rw [hcase]
    exact requested_nothing rfl
  · rw [hcase]
    exact requested_one rfl ⟨hidle, hused⟩
  · rw [hcase]
    exact requested_one rfl ⟨hidle, hused⟩

/-- Every action turns to the transport only when it is permitted to. -/
theorem requested_step (lifecycle : Lifecycle) (action : Action) :
    Requested (lifecycle.state.recounted action) lifecycle (lifecycle.step action).2 := by
  cases action with
  | add => exact requested_nothing rfl
  | remove => exact requested_nothing rfl
  | start rate => exact lifecycle.requested_ensureStarted rate
  | stop => exact lifecycle.requested_ensureStopped
  | join rate => exact lifecycle.requested_join rate
  | leave => exact lifecycle.removeSubstream.requested_ensureStopped
  | triggerPcm direction substream => exact requested_one rfl trivial
  | triggerMidi direction port substream => exact requested_one rfl trivial
  | isRunning => exact requested_nothing rfl

/-! ### Starts and stops -/

/-- Starts and stops alternate, and the committed rate is the one of the latest start. -/
structure Alternating (lifecycle : Lifecycle) : Prop extends InSync lifecycle where
  balance : lifecycle.transport.starts =
    lifecycle.transport.stops + if lifecycle.state.running then 1 else 0
  latest : ∀ rate, lifecycle.state.committedRate = some rate →
    Journal.latestStart lifecycle.transport.events = some rate

namespace Alternating

theorem frame (halternating : lifecycle.Alternating)
    (hrunning : next.state.running = lifecycle.state.running)
    (hcommitted : next.state.committedRate = lifecycle.state.committedRate)
    (hrate : next.transport.rate = lifecycle.transport.rate)
    (hstarts : next.transport.starts = lifecycle.transport.starts)
    (hstops : next.transport.stops = lifecycle.transport.stops)
    (hlatest : Journal.latestStart next.transport.events =
      Journal.latestStart lifecycle.transport.events) : next.Alternating where
  flag := by
    rw [hrunning, hcommitted]
    exact halternating.flag
  rate := by
    rw [hrate, hcommitted]
    exact halternating.rate
  balance := by
    rw [hstarts, hstops, hrunning]
    exact halternating.balance
  latest := by
    rw [hcommitted, hlatest]
    exact halternating.latest

theorem addSubstream (halternating : lifecycle.Alternating) : lifecycle.addSubstream.Alternating :=
  halternating.frame rfl rfl rfl rfl rfl rfl

theorem removeSubstream (halternating : lifecycle.Alternating) :
    lifecycle.removeSubstream.Alternating :=
  halternating.frame rfl rfl rfl rfl rfl rfl

theorem afterRefusal (halternating : lifecycle.Alternating) (rate : UInt32) :
    (lifecycle.afterRefusal rate).Alternating :=
  halternating.frame rfl rfl rfl rfl rfl (Journal.latestStart_append_singleton _ _)

theorem afterStart (halternating : lifecycle.Alternating)
    (hidle : lifecycle.state.running = false) (rate : UInt32) :
    (lifecycle.afterStart rate).Alternating where
  flag := rfl
  rate := rfl
  balance := by
    have hbalance := halternating.balance
    rw [hidle, if_neg Bool.false_ne_true] at hbalance
    exact congrArg (· + 1) hbalance
  latest := by
    rintro _ ⟨⟩
    exact Journal.latestStart_append_singleton _ _

theorem afterStop (halternating : lifecycle.Alternating)
    (hrunning : lifecycle.state.running = true) : lifecycle.afterStop.Alternating where
  flag := rfl
  rate := rfl
  balance := by
    have hbalance := halternating.balance
    rw [if_pos hrunning] at hbalance
    exact hbalance
  latest _ hcommitted := by cases hcommitted

theorem ensureStarted (halternating : lifecycle.Alternating) (rate : UInt32) :
    (lifecycle.ensureStarted rate).2.Alternating := by
  rcases lifecycle.ensureStarted_cases rate with
    ⟨-, hcase⟩ | ⟨-, -, hcase⟩ | ⟨-, -, _, -, hcase⟩ | ⟨-, hidle, -, hcase⟩
  · rw [hcase]
    exact halternating
  · rw [hcase]
    exact halternating
  · rw [hcase]
    exact halternating.afterRefusal rate
  · rw [hcase]
    exact halternating.afterStart hidle rate

theorem ensureStopped (halternating : lifecycle.Alternating) :
    lifecycle.ensureStopped.2.Alternating := by
  rcases lifecycle.ensureStopped_cases with ⟨-, hcase⟩ | ⟨-, hrunning, hcase⟩
  · rw [hcase]
    exact halternating
  · rw [hcase]
    exact halternating.afterStop hrunning

theorem join (halternating : lifecycle.Alternating) (rate : UInt32) :
    (lifecycle.join rate).2.Alternating := by
  rcases lifecycle.joined_cases rate with hcase | ⟨-, -, hcase⟩ | ⟨-, hidle, hcase⟩
  · rw [hcase]
    exact halternating.addSubstream
  · rw [hcase]
    exact halternating.afterRefusal rate
  · rw [hcase]
    exact halternating.addSubstream.afterStart hidle rate

theorem perform (halternating : lifecycle.Alternating) (move : Move) :
    (lifecycle.perform move).Alternating := by
  cases move with
  | failNext reason => exact halternating.frame rfl rfl rfl rfl rfl rfl
  | ask action =>
    cases action with
    | add => exact halternating.addSubstream
    | remove => exact halternating.removeSubstream
    | start rate => exact halternating.ensureStarted rate
    | stop => exact halternating.ensureStopped
    | join rate => exact halternating.join rate
    | leave => exact halternating.removeSubstream.ensureStopped
    | triggerPcm direction substream =>
      exact halternating.frame rfl rfl rfl rfl rfl (Journal.latestStart_append_singleton _ _)
    | triggerMidi direction port substream =>
      exact halternating.frame rfl rfl rfl rfl rfl (Journal.latestStart_append_singleton _ _)
    | isRunning => exact halternating

end Alternating

theorem alternating_after (clock : Clock) (drivesClock : Bool) (moves : List Move) :
    ((attached clock drivesClock).after moves).Alternating := by
  induction moves using List.reverseRecOn with
  | nil => exact ⟨⟨rfl, rfl⟩, rfl, fun _ hcommitted => nomatch hcommitted⟩
  | append_singleton moves move ih =>
    rw [after_append_singleton]
    exact ih.perform move

/-- A pair that runs keeps its rate for as long as it runs. -/
theorem RunsAt.perform (hruns : lifecycle.RunsAt rate) (move : Move) :
    (lifecycle.perform move).RunsAt rate ∨ (lifecycle.perform move).state.running = false := by
  cases move with
  | failNext reason => exact Or.inl (hruns.frame rfl rfl rfl)
  | ask action =>
    cases action with
    | add => exact Or.inl hruns.addSubstream
    | remove => exact Or.inl (hruns.frame rfl rfl rfl)
    | start other => exact Or.inl (hruns.ensureStarted other)
    | stop =>
      change lifecycle.ensureStopped.2.RunsAt rate ∨ lifecycle.ensureStopped.2.state.running = false
      rcases lifecycle.ensureStopped_cases with ⟨-, hcase⟩ | ⟨-, -, hcase⟩
      · rw [hcase]
        exact Or.inl hruns
      · rw [hcase]
        exact Or.inr rfl
    | join other => exact Or.inl (hruns.join other)
    | leave =>
      change lifecycle.leave.2.RunsAt rate ∨ lifecycle.leave.2.state.running = false
      rcases lifecycle.leave_cases with ⟨-, hcase⟩ | ⟨-, -, hcase⟩
      · rw [hcase]
        exact Or.inl (hruns.frame rfl rfl rfl)
      · rw [hcase]
        exact Or.inr rfl
    | triggerPcm direction substream => exact Or.inl (hruns.frame rfl rfl rfl)
    | triggerMidi direction port substream => exact Or.inl (hruns.frame rfl rfl rfl)
    | isRunning => exact Or.inl hruns

/-! ### Runs -/

/-- After every run of a lifecycle on a fresh transport, with starts failing at will: the next
request of an action to the transport is a permitted one, there was one start more than stops if the
pair runs and as many otherwise, the committed rate is the one of the latest start while the pair
runs and there is none otherwise, a running pair keeps its rate, and the count is the one that the
answers tell if fewer than `2 ^ 32` additions were outstanding all along. -/
theorem start_stop_discipline (clock : Clock) (drivesClock : Bool) (moves : List Move) :
    let reached := (attached clock drivesClock).after moves
    (∀ action, Requested (reached.state.recounted action) reached (reached.step action).2) ∧
    (reached.transport.starts = reached.transport.stops + if reached.state.running then 1 else 0) ∧
    (reached.state.running = true → ∃ rate, reached.state.committedRate = some rate ∧
      Journal.latestStart reached.transport.events = some rate) ∧
    (reached.state.running = false → reached.state.committedRate = none) ∧
    (∀ rate move, reached.RunsAt rate →
      (reached.perform move).RunsAt rate ∨ (reached.perform move).state.running = false) ∧
    ((attached clock drivesClock).FewOutstanding moves →
      (reached.state.activeSubstreams : Nat) =
        ((attached clock drivesClock).transcript moves).foldl tally 0) := by
  intro reached
  have halternating : reached.Alternating := alternating_after clock drivesClock moves
  refine ⟨reached.requested_step, halternating.balance, fun hrunning => ?_, fun hidle => ?_,
    fun rate move hruns => hruns.perform move, count_after⟩
  · obtain ⟨rate, hruns⟩ := halternating.toInSync.exists_runsAt hrunning
    exact ⟨rate, hruns.committed, halternating.latest rate hruns.committed⟩
  · rw [← Option.not_isSome_iff_eq_none, ← halternating.flag, hidle]
    exact Bool.false_ne_true

end Lifecycle
end DuplexAudio
