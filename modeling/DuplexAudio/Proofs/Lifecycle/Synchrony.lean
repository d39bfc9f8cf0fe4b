import DuplexAudio.Proofs.Lifecycle.Operations

/-!
The running flag, the committed rate and the rate of the transport say the same, and a pair that
runs is needed. Whoever goes through the lifecycle keeps the first, and the second as well unless
the count wraps around; only requests to the transport behind its back can break both.
-/

namespace DuplexAudio.Lifecycle

/-- The flag, the committed rate and the transport agree. -/
structure InSync (lifecycle : Lifecycle) : Prop where
  flag : lifecycle.state.running = lifecycle.state.committedRate.isSome
  rate : lifecycle.transport.rate = lifecycle.state.committedRate

/-- A pair in sync that runs only while a substream is counted. -/
structure Sound (lifecycle : Lifecycle) : Prop extends InSync lifecycle where
  needed : lifecycle.state.running = true → 0 < lifecycle.state.activeSubstreams

variable {lifecycle : Lifecycle} {rate : UInt32}

theorem InSync.running_iff (hsync : lifecycle.InSync) :
    lifecycle.state.running = true ↔
      ∃ rate, lifecycle.state.committedRate = some rate ∧ lifecycle.transport.rate = some rate := by
  rw [hsync.flag, hsync.rate, Option.isSome_iff_exists]
  exact exists_congr fun _ => (and_self_iff).symm

theorem sound_attached (clock : Clock) (drivesClock : Bool) :
    Sound { hardware := { clock, drivesClock } } where
  flag := rfl
  rate := rfl
  needed hrunning := absurd hrunning Bool.false_ne_true

/-- Soundness does not depend on attachments, the journal or the clock. -/
theorem Sound.frame {next : Lifecycle} (hsound : lifecycle.Sound)
    (hstate : next.state = lifecycle.state)
    (hrate : next.transport.rate = lifecycle.transport.rate) : next.Sound where
  flag := by
    rw [hstate]
    exact hsound.flag
  rate := by
    rw [hrate, hstate]
    exact hsound.rate
  needed := by
    rw [hstate]
    exact hsound.needed

/-! ### The count alone -/

theorem InSync.addSubstream (hsync : lifecycle.InSync) : lifecycle.addSubstream.InSync :=
  ⟨hsync.flag, hsync.rate⟩

theorem InSync.removeSubstream (hsync : lifecycle.InSync) : lifecycle.removeSubstream.InSync :=
  ⟨hsync.flag, hsync.rate⟩

theorem Sound.addSubstream (hsound : lifecycle.Sound)
    (hused : 0 < lifecycle.addSubstream.state.activeSubstreams) : lifecycle.addSubstream.Sound where
  toInSync := hsound.toInSync.addSubstream
  needed _ := hused

/-! ### Starting and stopping -/

theorem Sound.afterRefusal (hsound : lifecycle.Sound) : (lifecycle.afterRefusal rate).Sound :=
  hsound.frame rfl rfl

theorem sound_afterStart (hused : 0 < lifecycle.state.activeSubstreams) :
    (lifecycle.afterStart rate).Sound where
  flag := rfl
  rate := rfl
  needed _ := hused

theorem sound_afterStop : lifecycle.afterStop.Sound where
  flag := rfl
  rate := rfl
  needed hrunning := absurd hrunning Bool.false_ne_true

theorem Sound.ensureStarted (hsound : lifecycle.Sound) (rate : UInt32) :
    (lifecycle.ensureStarted rate).2.Sound := by
  rcases lifecycle.ensureStarted_cases rate with
    ⟨-, hstarted⟩ | ⟨-, -, hstarted⟩ | ⟨-, -, _, -, hstarted⟩ | ⟨hused, -, -, hstarted⟩
  · rw [hstarted]
    exact hsound
  · rw [hstarted]
    exact hsound
  · rw [hstarted]
    exact hsound.afterRefusal
  · rw [hstarted]
    exact sound_afterStart hused

theorem activeSubstreams_ensureStarted (lifecycle : Lifecycle) (rate : UInt32) :
    (lifecycle.ensureStarted rate).2.state.activeSubstreams =
      lifecycle.state.activeSubstreams := by
  rcases lifecycle.ensureStarted_cases rate with
    ⟨-, hstarted⟩ | ⟨-, -, hstarted⟩ | ⟨-, -, _, -, hstarted⟩ | ⟨-, -, -, hstarted⟩
  all_goals exact congrArg (·.2.state.activeSubstreams) hstarted

/-- Making sure that an unneeded pair is stopped is what makes a pair in sync sound. -/
theorem InSync.ensureStopped (hsync : lifecycle.InSync) : lifecycle.ensureStopped.2.Sound := by
  rcases lifecycle.ensureStopped_cases with ⟨hkeep, hstopped⟩ | ⟨-, -, hstopped⟩
  · rw [hstopped]
    refine ⟨hsync, fun hrunning => hkeep.resolve_right ?_⟩
    rw [Bool.not_eq_false]
    exact hrunning
  · rw [hstopped]
    exact sound_afterStop

theorem activeSubstreams_ensureStopped (lifecycle : Lifecycle) :
    lifecycle.ensureStopped.2.state.activeSubstreams = lifecycle.state.activeSubstreams := by
  rcases lifecycle.ensureStopped_cases with ⟨-, hstopped⟩ | ⟨-, -, hstopped⟩
  all_goals exact congrArg (·.2.state.activeSubstreams) hstopped

/-! ### Joining and leaving -/

theorem Sound.of_join_eq_ok (hsound : lifecycle.Sound) {outcome : StartOutcome}
    {joined : Lifecycle} (hjoined : lifecycle.join rate = (.ok outcome, joined))
    (hused : 0 < lifecycle.addSubstream.state.activeSubstreams) : joined.Sound := by
  rcases join_eq_ok hjoined with ⟨-, rfl⟩ | rfl
  · exact hsound.addSubstream hused
  · exact sound_afterStart hused

theorem Sound.of_join_eq_error (hsound : lifecycle.Sound) {fault : StreamFault}
    {joined : Lifecycle} (hjoined : lifecycle.join rate = (.error fault, joined)) :
    joined.Sound := by
  obtain ⟨_, -, -, rfl⟩ := join_eq_error hjoined
  exact hsound.afterRefusal

theorem InSync.leave (hsync : lifecycle.InSync) : lifecycle.leave.2.Sound :=
  hsync.removeSubstream.ensureStopped

theorem activeSubstreams_of_join_eq_ok {outcome : StartOutcome} {joined : Lifecycle}
    (hjoined : lifecycle.join rate = (.ok outcome, joined)) :
    joined.state.activeSubstreams = lifecycle.addSubstream.state.activeSubstreams := by
  rcases join_eq_ok hjoined with ⟨-, rfl⟩ | rfl
  · rfl
  · rfl

theorem activeSubstreams_of_join_eq_error {fault : StreamFault} {joined : Lifecycle}
    (hjoined : lifecycle.join rate = (.error fault, joined)) :
    joined.state.activeSubstreams = lifecycle.state.activeSubstreams := by
  obtain ⟨_, -, -, rfl⟩ := join_eq_error hjoined
  rfl

theorem count_leave (lifecycle : Lifecycle) : (lifecycle.leave.2.state.activeSubstreams : Nat) =
    lifecycle.state.activeSubstreams - 1 := by
  rw [leave, activeSubstreams_ensureStopped, count_removeSubstream]

/-! ### The flag alone -/

/-- The flag and the committed rate agree, whatever the transport does. -/
def Flagged (lifecycle : Lifecycle) : Prop :=
  lifecycle.state.running = lifecycle.state.committedRate.isSome

theorem Flagged.ensureStarted (hflagged : lifecycle.Flagged) (rate : UInt32) :
    (lifecycle.ensureStarted rate).2.Flagged := by
  rcases lifecycle.ensureStarted_cases rate with
    ⟨-, hcase⟩ | ⟨-, -, hcase⟩ | ⟨-, -, _, -, hcase⟩ | ⟨-, -, -, hcase⟩
  · rwa [hcase]
  · rwa [hcase]
  · rw [hcase]
    exact hflagged
  · rw [hcase]
    rfl

theorem Flagged.ensureStopped (hflagged : lifecycle.Flagged) :
    lifecycle.ensureStopped.2.Flagged := by
  rcases lifecycle.ensureStopped_cases with ⟨-, hcase⟩ | ⟨-, -, hcase⟩
  · rwa [hcase]
  · rw [hcase]
    rfl

theorem Flagged.join (hflagged : lifecycle.Flagged) (rate : UInt32) :
    (lifecycle.join rate).2.Flagged := by
  rcases lifecycle.joined_cases rate with hcase | ⟨-, -, hcase⟩ | ⟨-, -, hcase⟩
  · rw [hcase]
    exact hflagged
  · rw [hcase]
    exact hflagged
  · rw [hcase]
    rfl

theorem Flagged.leave (hflagged : lifecycle.Flagged) : lifecycle.leave.2.Flagged :=
  @Flagged.ensureStopped lifecycle.removeSubstream hflagged

theorem Flagged.step (hflagged : lifecycle.Flagged) (action : Action) :
    (lifecycle.step action).2.Flagged := by
  cases action with
  | start rate => exact hflagged.ensureStarted rate
  | stop => exact hflagged.ensureStopped
  | join rate => exact hflagged.join rate
  | leave => exact hflagged.leave
  | _ => exact hflagged

theorem state_stepTransport (lifecycle : Lifecycle) (action : TransportAction) :
    (lifecycle.stepTransport action).2.state = lifecycle.state := by
  cases action with
  | start rate =>
    rcases hstart : lifecycle.hardware.start rate with ⟨fault | _, hardware⟩
    all_goals rw [stepTransport, hstart]
  | _ => rfl

/-! ### A running pair -/

/-- The pair runs at `rate`: the flag, the committed rate and the transport all say so. -/
structure RunsAt (lifecycle : Lifecycle) (rate : UInt32) : Prop where
  running : lifecycle.state.running = true
  committed : lifecycle.state.committedRate = some rate
  transport : lifecycle.transport.rate = some rate

theorem InSync.exists_runsAt (hsync : lifecycle.InSync)
    (hrunning : lifecycle.state.running = true) : ∃ rate, lifecycle.RunsAt rate := by
  obtain ⟨rate, hcommitted, htransport⟩ := hsync.running_iff.1 hrunning
  exact ⟨rate, hrunning, hcommitted, htransport⟩

theorem runsAt_afterStart (lifecycle : Lifecycle) (rate : UInt32) :
    (lifecycle.afterStart rate).RunsAt rate :=
  ⟨rfl, rfl, rfl⟩

/-- Starting a pair that is in use leaves it at the rate asked for, unless the outcome names another
one. -/
theorem InSync.runsAt_of_ensureStarted_eq_ok (hsync : lifecycle.InSync)
    (hused : 0 < lifecycle.state.activeSubstreams) {outcome : StartOutcome} {started : Lifecycle}
    (hstart : lifecycle.ensureStarted rate = (.ok outcome, started))
    (hrate : ∀ running, outcome = .alreadyRunning running → running = rate) :
    started.RunsAt rate := by
  rcases lifecycle.ensureStarted_cases rate with
    ⟨hunused, -⟩ | ⟨-, hrunning, hcase⟩ | ⟨-, -, _, -, hcase⟩ | ⟨-, -, -, hcase⟩
  · exact absurd hunused (UInt32.pos_iff_ne_zero.1 hused)
  · obtain ⟨houtcome, rfl⟩ := Prod.mk.inj (hcase.symm.trans hstart)
    obtain ⟨running, hruns⟩ := hsync.exists_runsAt hrunning
    have hsame := hrate _ (Except.ok.inj houtcome).symm
    rw [hruns.committed, Option.getD_some] at hsame
    exact hsame ▸ hruns
  · cases hcase.symm.trans hstart
  · obtain ⟨-, rfl⟩ := Prod.mk.inj (hcase.symm.trans hstart)
    exact lifecycle.runsAt_afterStart rate

namespace RunsAt

variable {next : Lifecycle}

theorem frame (hruns : lifecycle.RunsAt rate)
    (hrunning : next.state.running = lifecycle.state.running)
    (hcommitted : next.state.committedRate = lifecycle.state.committedRate)
    (hrate : next.transport.rate = lifecycle.transport.rate) : next.RunsAt rate where
  running := hrunning.trans hruns.running
  committed := hcommitted.trans hruns.committed
  transport := hrate.trans hruns.transport

theorem addSubstream (hruns : lifecycle.RunsAt rate) : lifecycle.addSubstream.RunsAt rate :=
  hruns.frame rfl rfl rfl

theorem ensureStarted (hruns : lifecycle.RunsAt rate) (other : UInt32) :
    (lifecycle.ensureStarted other).2.RunsAt rate := by
  rcases lifecycle.ensureStarted_cases other with
    ⟨-, hcase⟩ | ⟨-, -, hcase⟩ | ⟨-, hidle, -⟩ | ⟨-, hidle, -⟩
  · rw [hcase]
    exact hruns
  · rw [hcase]
    exact hruns
  · exact absurd hruns.running (by simp [hidle])
  · exact absurd hruns.running (by simp [hidle])

theorem join (hruns : lifecycle.RunsAt rate) (other : UInt32) :
    (lifecycle.join other).2.RunsAt rate := by
  rcases lifecycle.joined_cases other with hcase | ⟨-, hidle, -⟩ | ⟨-, hidle, -⟩
  · rw [hcase]
    exact hruns.addSubstream
  · exact absurd hruns.running (by simp [hidle])
  · exact absurd hruns.running (by simp [hidle])

/-- Leaving does not stop a pair that somebody else needs. -/
theorem leave (hruns : lifecycle.RunsAt rate)
    (hshared : 1 < (lifecycle.state.activeSubstreams : Nat)) :
    lifecycle.leave.2.RunsAt rate := by
  rcases lifecycle.leave_cases with ⟨-, hcase⟩ | ⟨hlast, -⟩
  · rw [hcase]
    exact hruns.frame rfl rfl rfl
  · exact absurd hshared (Nat.not_lt.2 hlast)

end RunsAt

/-- A join leaves a running pair behind, unless it wraps the count around. -/
theorem InSync.exists_runsAt_of_join_eq_ok (hsync : lifecycle.InSync) {outcome : StartOutcome}
    {joined : Lifecycle} (hjoined : lifecycle.join rate = (.ok outcome, joined))
    (hused : 0 < joined.state.activeSubstreams) : ∃ rate, joined.RunsAt rate := by
  rcases join_eq_ok hjoined with ⟨hunused | hrunning, rfl⟩ | rfl
  · exact absurd hunused (UInt32.pos_iff_ne_zero.1 hused)
  · obtain ⟨running, hruns⟩ := hsync.exists_runsAt hrunning
    exact ⟨running, hruns.addSubstream⟩
  · exact ⟨rate, lifecycle.addSubstream.runsAt_afterStart rate⟩

end DuplexAudio.Lifecycle
