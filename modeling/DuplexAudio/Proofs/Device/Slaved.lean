import DuplexAudio.Proofs.Device.Offer

/-!
Devices that follow an outside clock. As long as the clock is external while a substream is open,
and is only retuned while none is, nothing the device does moves it: the open substream is pinned to
its rate from the opening on, so the pair is never started at another.
-/

namespace DuplexAudio

namespace Lifecycle

variable {lifecycle before middle after : Lifecycle}

/-- The clock stayed as it was, and whatever was started was started at its rate. -/
structure InTune (before after : Lifecycle) : Prop where
  clock : after.hardware.clock = before.hardware.clock
  journal : ∃ events, after.transport.events = before.transport.events ++ events ∧
    ∀ rate, .started rate ∈ events → rate = before.hardware.clock.rate

theorem inTune_of_quiet (hclock : after.hardware.clock = before.hardware.clock)
    (hevents : after.transport.events = before.transport.events) : InTune before after :=
  ⟨hclock, [], by simp [hevents], by simp⟩

theorem inTune_of_event {event : TransportEvent}
    (hclock : after.hardware.clock = before.hardware.clock)
    (hevents : after.transport.events = before.transport.events ++ [event])
    (hrate : ∀ rate, event = .started rate → rate = before.hardware.clock.rate) :
    InTune before after := by
  refine ⟨hclock, [event], hevents, ?_⟩
  intro rate hstarted
  exact hrate rate (List.mem_singleton.1 hstarted).symm

theorem InTune.trans (hfirst : InTune before middle) (hrest : InTune middle after) :
    InTune before after := by
  obtain ⟨first, hfirst_events, hfirst_rate⟩ := hfirst.journal
  obtain ⟨rest, hrest_events, hrest_rate⟩ := hrest.journal
  refine ⟨hrest.clock.trans hfirst.clock, first ++ rest, ?_, ?_⟩
  · rw [hrest_events, hfirst_events, List.append_assoc]
  · intro rate hstarted
    rcases List.mem_append.1 hstarted with hstarted | hstarted
    · exact hfirst_rate rate hstarted
    · rw [hrest_rate rate hstarted, hfirst.clock]

/-! ### What the lifecycle does -/

theorem inTune_afterStart (lifecycle : Lifecycle) :
    InTune lifecycle (lifecycle.afterStart lifecycle.hardware.clock.rate) := by
  refine inTune_of_event ?_ rfl ?_
  · unfold afterStart
    split <;> rfl
  · intro rate hstarted
    exact (TransportEvent.started.inj hstarted).symm

theorem inTune_afterRefusal (lifecycle : Lifecycle) (rate : UInt32) :
    InTune lifecycle (lifecycle.afterRefusal rate) :=
  inTune_of_event rfl rfl fun _ => TransportEvent.noConfusion

theorem inTune_afterStop (lifecycle : Lifecycle) : InTune lifecycle lifecycle.afterStop :=
  inTune_of_event rfl rfl fun _ => TransportEvent.noConfusion

theorem inTune_trigger (lifecycle : Lifecycle) (slot : Slot) (substream : Option SubstreamId) :
    InTune lifecycle (lifecycle.trigger slot substream) := by
  refine inTune_of_event ?_ (lifecycle.events_trigger slot substream) ?_
  · cases slot <;> rfl
  · intro rate hstarted
    cases slot <;> cases hstarted

theorem inTune_ensureStarted {rate : UInt32} (hrate : rate = lifecycle.hardware.clock.rate) :
    InTune lifecycle (lifecycle.ensureStarted rate).2 := by
  rcases lifecycle.ensureStarted_cases rate with
    ⟨-, hcase⟩ | ⟨-, -, hcase⟩ | ⟨-, -, _, -, hcase⟩ | ⟨-, -, -, hcase⟩
  · rw [hcase]
    exact inTune_of_quiet rfl rfl
  · rw [hcase]
    exact inTune_of_quiet rfl rfl
  · rw [hcase]
    exact lifecycle.inTune_afterRefusal rate
  · rw [hcase, hrate]
    exact lifecycle.inTune_afterStart

theorem inTune_ensureStopped (lifecycle : Lifecycle) :
    InTune lifecycle lifecycle.ensureStopped.2 := by
  rcases lifecycle.ensureStopped_cases with ⟨-, hcase⟩ | ⟨-, -, hcase⟩
  · rw [hcase]
    exact inTune_of_quiet rfl rfl
  · rw [hcase]
    exact lifecycle.inTune_afterStop

/-- Whoever joins a running pair starts nothing, so only the first to join must know the rate. -/
theorem inTune_join {rate : UInt32}
    (hrate : lifecycle.state.running = false → rate = lifecycle.hardware.clock.rate) :
    InTune lifecycle (lifecycle.join rate).2 := by
  rcases lifecycle.joined_cases rate with hcase | ⟨-, -, hcase⟩ | ⟨-, hidle, hcase⟩
  · rw [hcase]
    exact inTune_of_quiet rfl rfl
  · rw [hcase]
    exact lifecycle.inTune_afterRefusal rate
  · rw [hcase, hrate hidle]
    have hcounted : InTune lifecycle lifecycle.addSubstream := inTune_of_quiet rfl rfl
    exact hcounted.trans lifecycle.addSubstream.inTune_afterStart

theorem inTune_leave (lifecycle : Lifecycle) : InTune lifecycle lifecycle.leave.2 := by
  have hcounted : InTune lifecycle lifecycle.removeSubstream := inTune_of_quiet rfl rfl
  exact hcounted.trans lifecycle.removeSubstream.inTune_ensureStopped

end Lifecycle

/-- A PCM substream may only ask for the rate and has only committed to it. -/
def Substream.TunedTo (rate : UInt32) : Substream → Prop
  | .pcm substream => substream.constraints.window.rates = .single rate ∧
      ∀ params, substream.params = some params → params.rate = rate
  | .midi _ => True

namespace Device

open Lifecycle (InTune inTune_of_quiet)

variable {device next : Device} {request : Request} {reply : Reply} {pcm : PcmSubstream}

/-! ### Slaved runs -/

/-- From outside the lifecycle is only asked whether it runs, the transport is only told to fail,
and the clock gets another source or rate only while no substream is open. -/
def AllowsSlaved (device : Device) : Request → Prop
  | .lifecycle .isRunning | .transport (.failNext _) => True
  | .lifecycle _ | .transport _ => False
  | .clockSource _ | .clockRate _ => device.substream = none
  | _ => True

structure StaysSlaved (device : Device) (request : Request) : Prop where
  allowed : device.AllowsSlaved request
  external : (device.step request).2.substream ≠ none →
    (device.step request).2.clock.source ≠ .internal

/-- The states of runs in which the clock is external whenever a substream is open. -/
inductive Slaved : Device → Prop
  | attach (name : String) (formats : StreamFormats) (clock : Clock) (drivesClock : Bool) :
      Slaved (.attach name formats clock drivesClock)
  | step {device : Device} (request : Request) (hslaved : Slaved device)
      (hstays : device.StaysSlaved request) : Slaved (device.step request).2

/-- The open substream is tuned to the clock. -/
structure Tuned (device : Device) : Prop where
  flagged : device.lifecycle.Flagged
  substream : ∀ substream, device.substream = some substream → substream.TunedTo device.clock.rate

theorem tuned_attach (name : String) (formats : StreamFormats) (clock : Clock)
    (drivesClock : Bool) : Tuned (.attach name formats clock drivesClock) where
  flagged := (Lifecycle.sound_attached clock drivesClock).flag
  substream := forall_open_of_eq_none rfl

/-! ### What the device does -/

theorem inTune_withdraw (lifecycle : Lifecycle) (substream : Substream) :
    InTune lifecycle (withdraw lifecycle substream) := by
  unfold withdraw
  split
  · exact lifecycle.inTune_trigger substream.slot none
  · exact inTune_of_quiet rfl rfl

theorem inTune_retire (lifecycle : Lifecycle) (substream : Substream) :
    InTune lifecycle (retire lifecycle substream) := by
  have hwithdrawn := inTune_withdraw lifecycle substream
  rcases retire_cases lifecycle substream with ⟨-, hretire⟩ | ⟨-, hretire⟩
  · rwa [hretire]
  · rw [hretire]
    exact hwithdrawn.trans (Lifecycle.inTune_leave _)

theorem inTune_settleDetached (device : Device) :
    InTune device.lifecycle device.settleDetached.lifecycle := by
  unfold settleDetached
  split
  · exact inTune_of_quiet rfl rfl
  · exact Lifecycle.inTune_of_event rfl rfl fun _ => TransportEvent.noConfusion

theorem inTune_close (device : Device) (substream : Substream) :
    InTune device.lifecycle (device.close substream).lifecycle := by
  have hsettled := inTune_settleDetached
    { device with lifecycle := retire device.lifecycle substream, substream := none }.release
  exact (inTune_retire device.lifecycle substream).trans hsettled

/-- A MIDI port joins an idle pair at the rate of the clock. -/
theorem joinRate_eq_ok {rate : UInt32} (hflagged : device.lifecycle.Flagged)
    (hrate : device.joinRate = .ok rate) (hidle : device.lifecycle.state.running = false) :
    rate = device.clock.rate := by
  have hnone : device.lifecycle.state.committedRate = none :=
    Option.isSome_eq_false_iff.1 (hflagged.symm.trans hidle) |> Option.isNone_iff_eq_none.1
  rw [joinRate, hnone] at hrate
  have hread : device.clock.readRate = .ok rate := mapError_eq_ok_iff.1 hrate
  unfold Clock.readRate at hread
  split at hread
  · cases hread
  · exact (Except.ok.inj hread).symm

/-- No request but one to the clock itself moves the clock of a tuned device. -/
theorem Tuned.inTune_of_transition (htuned : device.Tuned) (hallowed : device.AllowsSlaved request)
    (htransition : Transition device request reply next)
    (hkept : request.changedClock? device.clock = none) :
    InTune device.lifecycle next.lifecycle := by
  cases htransition with
  | joinRefused _ _ rate _ _ _ hrate hjoin
  | openedMidi _ _ rate _ _ _ hrate hjoin =>
    have hjoined := Lifecycle.inTune_join (joinRate_eq_ok htuned.flagged hrate)
    rwa [hjoin] at hjoined
  | startRefused pcm params _ _ hopen hparams hstart
  | prepared pcm params _ _ hopen hparams hstart =>
    obtain ⟨-, hrate⟩ := htuned.substream _ hopen
    have hstarted := Lifecycle.inTune_ensureStarted (hrate _ (paramsToPrepare_eq_ok hparams).2)
    rwa [hstart] at hstarted
  | freedUncounted => exact device.lifecycle.inTune_ensureStopped
  | freed => exact device.lifecycle.inTune_leave
  | started _ pcm => exact device.lifecycle.inTune_trigger (.pcm pcm.direction) (some pcm.id)
  | stopped _ pcm => exact device.lifecycle.inTune_trigger (.pcm pcm.direction) none
  | triggeredMidi up midi =>
    exact device.lifecycle.inTune_trigger (.midi midi.direction midi.port)
      (if up then some midi.id else none)
  | closed substream
  | dropped substream => exact inTune_close device substream
  | clockChanged _ _ hclock => cases hkept.symm.trans hclock
  | lifecycleAsked action =>
    cases action with
    | isRunning => exact inTune_of_quiet rfl rfl
    | _ => exact hallowed.elim
  | transportAsked action =>
    cases action with
    | failNext reason => exact inTune_of_quiet rfl rfl
    | _ => exact hallowed.elim
  | detached => exact inTune_settleDetached { device with attached := false }
  | _ => exact inTune_of_quiet rfl rfl

/-! ### What stays tuned -/

theorem Tuned.openPcm (htuned : device.Tuned) (hopen : device.substream = some (.pcm pcm)) :
    pcm.constraints.window.rates = .single device.clock.rate ∧
      ∀ params, pcm.params = some params → params.rate = device.clock.rate :=
  htuned.substream _ hopen

theorem Tuned.keep (htuned : device.Tuned) (hflagged : next.lifecycle.Flagged)
    (hrate : next.clock.rate = device.clock.rate) (hopen : next.substream = device.substream) :
    next.Tuned where
  flagged := hflagged
  substream := by
    rw [hrate, hopen]
    exact htuned.substream

theorem rates_of_offer_external {formats : StreamFormats} {direction : Direction}
    {constraints : Constraints} (hoffer : device.offer formats direction = .ok constraints)
    (hexternal : device.clock.source ≠ .internal) :
    constraints.window.rates = .single device.clock.rate := by
  obtain ⟨window, rates, -, -, hrates, rfl⟩ := offer_eq_ok_iff.1 hoffer
  have hpinned : device.clock.source.isInternal = false := by
    simpa [ClockSource.isInternal] using hexternal
  rw [(Clock.constrain_eq_ok_iff.1 hrates).2, Clock.allowance, hpinned]
  rfl

/-- A request to the clock reaches nothing else. -/
theorem step_of_changedClock {clock : Clock}
    (hchanged : request.changedClock? device.clock = some clock) :
    (device.step request).2 = device.mapClock fun _ => clock := by
  cases request with
  | clockSource | clockRate | clockUnreachable =>
    cases hchanged
    rfl
  | _ => cases hchanged

theorem Tuned.of_transition (htuned : device.Tuned) (hallowed : device.AllowsSlaved request)
    (htransition : Transition device request reply next)
    (hkept : request.changedClock? device.clock = none)
    (hexternal : next.substream ≠ none → next.clock.source ≠ .internal) : next.Tuned := by
  have hflagged := htransition.flagged htuned.flagged
  have hclock : next.clock = device.clock :=
    (htuned.inTune_of_transition hallowed htransition hkept).clock
  have hopened {substream : Substream} (hopen : next.substream = some substream)
      (htuned : substream.TunedTo device.clock.rate) : next.Tuned :=
    ⟨hflagged, forall_open hopen (hclock ▸ htuned)⟩
  cases htransition with
  | openedPcm direction constraints _ hoffer =>
    have hpinned := rates_of_offer_external hoffer (hexternal (Option.some_ne_none _))
    exact hopened rfl ⟨hpinned, by simp⟩
  | openedMidi | triggeredMidi => exact hopened rfl trivial
  | committed _ _ pcm params hopen _ hselect
  | recommitted _ _ pcm params hopen _ hselect =>
    obtain ⟨hwindow, -⟩ := htuned.openPcm hopen
    refine hopened rfl ⟨hwindow, fun other hother => ?_⟩
    obtain ⟨-, -, -, hrate⟩ := selectParams_eq_ok hselect
    rw [hwindow] at hrate
    exact Option.some.inj hother ▸ Interval.mem_single.1 hrate
  | freedUncounted pcm hopen
  | freed pcm hopen => exact hopened rfl ⟨(htuned.openPcm hopen).1, by simp⟩
  | prepared pcm _ _ _ hopen
  | started _ pcm _ hopen
  | stopped _ pcm _ hopen =>
    have hpinned := htuned.openPcm hopen
    exact hopened rfl hpinned
  | closed substream
  | dropped substream =>
    exact ⟨hflagged, forall_open_of_eq_none (substream_close device substream)⟩
  | clockChanged _ _ hchanged => cases hkept.symm.trans hchanged
  | detached =>
    exact htuned.keep hflagged (congrArg Clock.rate hclock) (substream_settleDetached _)
  | _ => exact htuned.keep hflagged (congrArg Clock.rate hclock) rfl

theorem Tuned.of_changedClock (htuned : device.Tuned) (hallowed : device.AllowsSlaved request)
    {clock : Clock} (hchanged : request.changedClock? device.clock = some clock) :
    (device.step request).2.Tuned := by
  cases request with
  | clockUnreachable on => exact htuned.keep htuned.flagged rfl rfl
  | clockSource source
  | clockRate rate => exact ⟨htuned.flagged, forall_open_of_eq_none hallowed⟩
  | _ => cases hchanged

theorem tuned_of_slaved (hslaved : Slaved device) : device.Tuned := by
  induction hslaved with
  | attach name formats clock drivesClock => exact tuned_attach name formats clock drivesClock
  | @step device request _ hstays ih =>
    cases hchanged : request.changedClock? device.clock with
    | none =>
      exact ih.of_transition hstays.allowed (step_transition device request) hchanged
        hstays.external
    | some clock => exact ih.of_changedClock hstays.allowed hchanged

/-- **A slaved device never retunes its clock.** While the clock is external whenever a substream is
open, and outsiders change its source or rate only while none is, a request that is not one of
theirs leaves the clock as it is, and whatever is started is started at the rate that the clock has
before and after the request. -/
theorem slaved_clock_untouched (hslaved : Slaved device) (hstays : device.StaysSlaved request) :
    (request.changedClock? device.clock = none → (device.step request).2.clock = device.clock) ∧
    ∃ events, (device.step request).2.transport.events = device.transport.events ++ events ∧
      ∀ rate, .started rate ∈ events →
        rate = device.clock.rate ∧ rate = (device.step request).2.clock.rate := by
  have htuned := tuned_of_slaved hslaved
  cases hchanged : request.changedClock? device.clock with
  | none =>
    have htransition := step_transition device request
    have htune := htuned.inTune_of_transition hstays.allowed htransition hchanged
    obtain ⟨events, hevents, hrate⟩ := htune.journal
    refine ⟨fun _ => htune.clock, events, hevents, fun rate hstarted => ?_⟩
    have hsame : rate = device.clock.rate := hrate rate hstarted
    exact ⟨hsame, hsame.trans (congrArg Clock.rate htune.clock).symm⟩
  | some clock =>
    refine ⟨fun hkept => absurd hkept (Option.some_ne_none clock), [], ?_, by simp⟩
    rw [step_of_changedClock hchanged, List.append_nil]
    rfl

/-- A device with two channels at the low and the middle rates that follows an optical clock. -/
def slave : Device :=
  .attach "slave" stereo.source.formats { source := .adatOptical, rate := 96000 } true

/-- The clock is retuned before the opening; after the commit it goes silent, and the first attempt
to start fails. -/
def retunedSession : List Request :=
  [.clockRate 88200, .openPcm .capture, .commit 88200 2, .clockUnreachable true,
    .transport (.failNext "bus reset"), .prepare]

theorem slaved_retunedSession : Slaved (slave.run retunedSession) := by
  have hattached : Slaved slave := .attach _ _ _ _
  have hretuned := hattached.step (.clockRate 88200) ⟨rfl, by decide +kernel⟩
  have hopened := hretuned.step (.openPcm .capture) ⟨trivial, by decide +kernel⟩
  have hcommitted := hopened.step (.commit 88200 2) ⟨trivial, by decide +kernel⟩
  have hsilent := hcommitted.step (.clockUnreachable true) ⟨trivial, by decide +kernel⟩
  have hdoomed := hsilent.step (.transport (.failNext "bus reset")) ⟨trivial, by decide +kernel⟩
  exact hdoomed.step .prepare ⟨trivial, by decide +kernel⟩

/-- The second attempt starts the pair at the rate of the silent clock. -/
theorem slaved_clock_untouched_retunedSession :
    Slaved (slave.run retunedSession) ∧ StaysSlaved (slave.run retunedSession) .prepare ∧
      ((slave.run retunedSession).step .prepare).2.transport.events =
        [.startFailed 88200, .started 88200] ∧
      ((slave.run retunedSession).step .prepare).2.clock = (slave.run retunedSession).clock ∧
      (88200 : UInt32) = (slave.run retunedSession).clock.rate := by
  have hstays : StaysSlaved (slave.run retunedSession) .prepare := ⟨trivial, by decide +kernel⟩
  obtain ⟨hclock, events, hevents, hrate⟩ := slaved_clock_untouched slaved_retunedSession hstays
  have hjournal : (slave.run retunedSession).transport.events = [.startFailed 88200] := by
    decide +kernel
  have hstarted : ((slave.run retunedSession).step .prepare).2.transport.events =
      [.startFailed 88200, .started 88200] := by decide +kernel
  rw [hjournal, hstarted] at hevents
  obtain rfl : [.started 88200] = events := (List.cons.inj hevents).2
  exact ⟨slaved_retunedSession, hstays, hstarted, hclock rfl, (hrate 88200 (by simp)).1⟩

end Device
end DuplexAudio
