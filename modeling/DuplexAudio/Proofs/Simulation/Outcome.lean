import DuplexAudio.Simulation
import DuplexAudio.Proofs.Device.Visit
import DuplexAudio.Proofs.Mode.Ports
import DuplexAudio.Proofs.Negotiation.LegalRates

/-!
Trials of a profile, run on a device of its own. The capture substream is opened, negotiated about
at one rate and taken through a whole visit, while a second opener is turned away; then the first
MIDI port, if there is one, pays a visit at the rate that the clock was left with. What a trial
reports and does to the transport is found here stage by stage, and composed at the end.
-/

namespace DuplexAudio

namespace Simulation

variable {α β : Type}

/-! ### Running a trial -/

theorem run_bind (first : Trial α) (rest : α → Trial β) (state : State) :
    (first >>= rest).run state = match first.run state with
      | (.ok value, next) => (rest value).run next
      | (.error fault, next) => (.error fault, next) := by
  change (first.run >>= ExceptT.bindCont rest).run state = _
  rw [StateT.run_bind]
  change ExceptT.bindCont rest (first.run state).1 (first.run state).2 = _
  rcases first.run state with ⟨fault | value, next⟩ <;> rfl

theorem run_get (state : State) : (get : Trial State).run state = (.ok state, state) :=
  rfl

theorem run_remark (entry : Remark) (state : State) :
    (remark entry).run state = (.ok (), { state with remarks := state.remarks ++ [entry] }) :=
  rfl

theorem run_change (operation : Device → Device) (state : State) :
    (change operation).run state = (.ok (), { state with device := operation state.device }) :=
  rfl

theorem run_perform (operation : Device → Except StreamFault α × Device) (state : State) :
    (perform operation).run state =
      ((operation state.device).1, { state with device := (operation state.device).2 }) := by
  unfold perform
  rw [run_bind, run_get]
  rcases hresult : operation state.device with ⟨fault | value, device⟩
  · simp only [hresult]
    rfl
  · simp only [hresult]
    rfl

/-! ### The capture substream -/

section Capture

variable {device : Device} {rate : Option UInt32} {fault : StreamFault}
  {constraints : Constraints} {rounds : Nat} (remarks : List Remark)

/-- Whoever visits the device keeps a second opener out. -/
theorem run_openSecond_during (lifecycle : Lifecycle) (substream : Substream) :
    openSecond.run ⟨device.during lifecycle substream, remarks⟩ =
      (.ok (), ⟨device.during lifecycle substream, remarks ++ [.secondOpener .busy]⟩) := by
  have hbusy : (device.during lifecycle substream).openMidi .capture 0 =
      (.error .busy, device.during lifecycle substream) := Device.opening_of_held rfl
  rw [openSecond, run_bind, run_get]
  simp only [hbusy]
  rfl

theorem run_capture_of_offer_eq_error (hidle : device.Idle)
    (hoffer : device.offer device.source.formats .capture = .error fault) (rate : Option UInt32) :
    (capture rate).run ⟨device, remarks⟩ =
      (.error fault, ⟨device.turnedAway (device.source.queries + 1), remarks⟩) := by
  rw [capture, run_bind, run_perform,
    Device.openPcm_of_offer_eq_error hidle.free hidle.available hoffer]

theorem run_capture_of_refine_eq_error (hidle : device.Idle)
    (hoffer : device.offer device.source.formats .capture = .ok constraints)
    (hrefine : constraints.refine (.single (rate.getD constraints.window.rates.lower))
      constraints.window.channels = .error fault) :
    (capture rate).run ⟨device, remarks⟩ =
      (.error fault, ⟨device.withOpened (.pcm { id := device.nextId, constraints }),
        remarks ++ [.openedCapture constraints.window]⟩) := by
  have hopen := hidle.openPcm ⟨0, 0⟩ hoffer
  simp only [capture, run_bind, run_perform, hopen, run_remark, Device.visitor_constraints,
    hidle.refine_during, hrefine]
  rfl

/-- A capture substream that can be negotiated about pays one visit. -/
theorem run_capture_of_refine_eq_ok (hidle : device.Idle) (params : StreamParams)
    (hoffer : device.offer device.source.formats .capture = .ok constraints)
    (hrate : rate.getD constraints.window.rates.lower = params.rate)
    (hrefine : constraints.refine (.single params.rate) constraints.window.channels =
      .ok ⟨.single params.rate, .single params.channels, rounds⟩)
    (hselect : constraints.select params.rate params.channels = .ok params) :
    (capture rate).run ⟨device, remarks⟩ =
      (.ok (), ⟨device.afterVisit params.rate (.pcm constraints.direction), remarks ++
        [.openedCapture constraints.window, .committed params, .secondOpener .busy]⟩) := by
  have hopen := hidle.openPcm params hoffer
  have hupper : (Interval.single params.channels).upper = params.channels := rfl
  have hclose := hidle.close_during params.rate (.pcm constraints.direction)
    (.pcm (device.visitor constraints params .opened))
    (.pcm (device.visitor constraints params .opened)) rfl
  rw [Lifecycle.served] at hclose
  simp only [capture, run_bind, run_perform, hopen, run_remark, Device.visitor_constraints,
    hidle.refine_during, hrate, hrefine, hupper, hidle.commit_during _ hselect,
    Device.visitor_setup_params, hidle.prepare_during, Device.start_during, run_openSecond_during,
    Device.stop_during, Device.free_during, run_change]
  rw [hclose]
  simp only [List.append_assoc, List.cons_append, List.nil_append]

end Capture

/-! ### The MIDI port -/

section Midi

variable {device : Device} (remarks : List Remark)

/-- The device after the first port for playback, if there is one, paid a visit at the rate that the
clock has. -/
def afterMidi (device : Device) : Device :=
  if device.source.formats.DeclaresPort .playback then
    device.queried.afterVisit device.clock.rate (.midi .playback 0)
  else device.queried

def midiRemarks (device : Device) : List Remark :=
  if device.source.formats.DeclaresPort .playback then
    [.openedPlayback (midiPortName device.name 0)]
  else []

theorem run_playMidi_of_port (hidle : device.Idle)
    (hport : 0 < device.source.formats.availablePorts .playback) :
    playMidi.run ⟨device, remarks⟩ =
      (.ok (), ⟨device.queried.afterVisit device.clock.rate (.midi .playback 0),
        remarks ++ [.openedPlayback (midiPortName device.name 0)]⟩) := by
  have hquery := device.queryFormats_of_available hidle.available
  have hshort : ¬ device.queried.source.formats.availablePorts .playback ≤ UInt8.toUInt32 0 :=
    UInt32.not_le.2 hport
  have hopen := hidle.queried.openMidi hshort
  have hclose := hidle.queried.close_during device.clock.rate (.midi .playback 0)
    (.midi { id := device.queried.nextId, direction := .playback, port := 0 })
    (.midi { id := device.queried.nextId, direction := .playback, port := 0 }) rfl
  simp only [playMidi, run_bind, run_perform, hquery, hport, if_true, hopen, run_get, run_remark,
    run_change, Device.triggerMidi_during]
  exact congrArg (fun closed => (Except.ok (), State.mk closed
    (remarks ++ [.openedPlayback (midiPortName device.name 0)]))) hclose

theorem run_playMidi (hidle : device.Idle) :
    playMidi.run ⟨device, remarks⟩ =
      (.ok (), ⟨afterMidi device, remarks ++ midiRemarks device⟩) := by
  by_cases hport : device.source.formats.DeclaresPort .playback
  · rw [afterMidi, midiRemarks, if_pos hport, if_pos hport]
    exact run_playMidi_of_port remarks hidle (StreamFormats.availablePorts_pos_iff.2 hport)
  · have hnone : ¬ 0 < device.source.formats.availablePorts .playback :=
      fun hpos => hport (StreamFormats.availablePorts_pos_iff.1 hpos)
    have hquery := device.queryFormats_of_available hidle.available
    rw [afterMidi, midiRemarks, if_neg hport, if_neg hport, List.append_nil]
    simp only [playMidi, run_bind, run_perform, hquery, hnone, if_false]
    rfl

theorem idle_afterMidi (hidle : device.Idle) : (afterMidi device).Idle := by
  unfold afterMidi
  split
  · exact hidle.queried.afterVisit _ _
  · exact hidle.queried

theorem events_afterMidi (hidle : device.Idle) : (afterMidi device).transport.events =
    device.transport.events ++
      if device.source.formats.DeclaresPort .playback then
        [.started device.clock.rate, .midiAttached .playback 0 (some device.nextId),
          .midiAttached .playback 0 none, .stopped]
      else [] := by
  unfold afterMidi
  split
  · exact hidle.queried.events_afterVisit device.clock.rate (.midi .playback 0)
  · exact (List.append_nil _).symm

theorem counts_afterMidi (hidle : device.Idle) :
    (afterMidi device).transport.starts = device.transport.starts +
        (if device.source.formats.DeclaresPort .playback then 1 else 0) ∧
      (afterMidi device).transport.stops = device.transport.stops +
        (if device.source.formats.DeclaresPort .playback then 1 else 0) := by
  unfold afterMidi
  split
  · exact ⟨hidle.queried.starts_afterVisit _ _, hidle.queried.stops_afterVisit _ _⟩
  · exact ⟨rfl, rfl⟩

end Midi

/-! ### A whole trial -/

/-- The journal and the counters are reported last. -/
def summarised (device : Device) (remarks : List Remark) : State :=
  ⟨device, remarks ++ [.journal device.transport.events,
    .final device.lifecycle.state device.transport.starts device.transport.stops]⟩

theorem run_summarise (device : Device) (remarks : List Remark) :
    summarise.run ⟨device, remarks⟩ = (.ok (), summarised device remarks) := by
  simp only [summarise, summarised, run_bind, run_get, run_remark, List.append_assoc,
    List.cons_append, List.nil_append]

/-- How a trial of `profile` ends that opened `window` and committed to `params`. -/
structure Completed (profile : DeviceProfile) (window : CapabilityWindow) (params : StreamParams)
    (state : State) : Prop where
  events : state.device.transport.events =
    [.started params.rate, .pcmAttached .capture (some ⟨1⟩), .pcmAttached .capture none,
      .stopped] ++
    if profile.formats.DeclaresPort .playback then
      [.started params.rate, .midiAttached .playback 0 (some ⟨2⟩), .midiAttached .playback 0 none,
        .stopped]
    else []
  remarks : state.remarks =
    [.openedCapture window, .committed params, .secondOpener .busy] ++
    (if profile.formats.DeclaresPort .playback then
      [.openedPlayback (midiPortName profile.name 0)]
    else []) ++
    [.journal state.device.transport.events,
      .final state.device.lifecycle.state state.device.transport.starts
        state.device.transport.stops]
  stream : state.device.lifecycle.state =
    { activeSubstreams := 0, running := false, committedRate := none }
  starts : state.device.transport.starts =
    if profile.formats.DeclaresPort .playback then 2 else 1
  stops : state.device.transport.stops = state.device.transport.starts

section Trial

variable {profile : DeviceProfile} {source : ClockSource} {clockRate : UInt32}
  {rate : Option UInt32}

/-- The device of a trial before it starts. -/
def deviceBefore (profile : DeviceProfile) (source : ClockSource) (clockRate : UInt32) : Device :=
  .attach profile.name profile.formats { source, rate := clockRate } true

theorem idle_deviceBefore (profile : DeviceProfile) (source : ClockSource) (clockRate : UInt32) :
    (deviceBefore profile source clockRate).Idle :=
  Device.idle_attach _ _ _ _ rfl

theorem simulate_of_capture_eq_error {fault : StreamFault} {state : State}
    (hcapture : (capture rate).run ⟨deviceBefore profile source clockRate, []⟩ =
      (.error fault, state)) :
    simulate profile rate source clockRate = (.error fault, state) := by
  change (trial rate).run ⟨deviceBefore profile source clockRate, []⟩ = _
  rw [trial, run_bind, hcapture]

/-- Once the capture substream has paid its visit, the rest of the trial cannot fail. -/
theorem simulate_of_capture_eq_ok {visited : Device} {remarks : List Remark}
    (hcapture : (capture rate).run ⟨deviceBefore profile source clockRate, []⟩ =
      (.ok (), ⟨visited, remarks⟩)) (hidle : visited.Idle) :
    simulate profile rate source clockRate =
      (.ok (), summarised (afterMidi visited) (remarks ++ midiRemarks visited)) := by
  change (trial rate).run ⟨deviceBefore profile source clockRate, []⟩ = _
  rw [trial, run_bind, hcapture]
  simp only [run_bind, run_playMidi _ hidle, run_summarise]

theorem completed_afterMidi (window : CapabilityWindow) (params : StreamParams) {visited : Device}
    (hvisited : visited =
      (deviceBefore profile source clockRate).afterVisit params.rate (.pcm .capture)) :
    Completed profile window params (summarised (afterMidi visited)
      ([.openedCapture window, .committed params, .secondOpener .busy] ++
        midiRemarks visited)) := by
  have hfresh := idle_deviceBefore profile source clockRate
  have hidle : visited.Idle := hvisited ▸ hfresh.afterVisit params.rate (.pcm .capture)
  have hevents : visited.transport.events =
      [.started params.rate, .pcmAttached .capture (some ⟨1⟩), .pcmAttached .capture none,
        .stopped] :=
    hvisited ▸ hfresh.events_afterVisit params.rate (.pcm .capture)
  have hstarts : visited.transport.starts = 1 :=
    hvisited ▸ hfresh.starts_afterVisit params.rate (.pcm .capture)
  have hstops : visited.transport.stops = 1 :=
    hvisited ▸ hfresh.stops_afterVisit params.rate (.pcm .capture)
  have hrate : visited.clock.rate = params.rate := by
    rw [hvisited, hfresh.clock_afterVisit params.rate (.pcm .capture) rfl]
  have hname : visited.name = profile.name := hvisited ▸ rfl
  have hformats : visited.source.formats = profile.formats := hvisited ▸ rfl
  have hid : visited.nextId = ⟨2⟩ := hvisited ▸ rfl
  obtain ⟨hstarts', hstops'⟩ := counts_afterMidi hidle
  rw [hformats, hstarts] at hstarts'
  rw [hformats, hstops] at hstops'
  refine ⟨?_, ?_, (idle_afterMidi hidle).unused, ?_, hstops'.trans hstarts'.symm⟩
  · change (afterMidi visited).transport.events = _
    rw [events_afterMidi hidle, hevents, hrate, hid, hformats]
  · rw [summarised, midiRemarks, hname, hformats]
  · change (afterMidi visited).transport.starts = _
    rw [hstarts']
    split <;> rfl

/-- A trial either goes through, at a rate on offer, or fails before anything was started. -/
theorem simulate_cases {window : CapabilityWindow} {constraints : Constraints} {chosen : UInt32}
    (hwindow : profile.formats.transmit.window = .ok window)
    (hconstraints : constraints = (deviceBefore profile source clockRate).idleOffer .capture
      profile.formats.transmit window)
    (hchosen : rate.getD constraints.window.rates.lower = chosen) :
    (∃ count, profile.formats.transmit.Offers chosen count ∧ chosen ∈ constraints.window.rates ∧
      (simulate profile rate source clockRate).1 = .ok () ∧
      Completed profile constraints.window ⟨chosen, count⟩
        (simulate profile rate source clockRate).2) ∨
    ∃ fault, (∀ count, profile.formats.transmit.Offers chosen count →
        chosen ∉ constraints.window.rates) ∧
      (simulate profile rate source clockRate).1 = .error fault ∧
      (simulate profile rate source clockRate).2.device.transport = {} := by
  have hidle := idle_deviceBefore profile source clockRate
  have hcaptured : (profile.formats.forDirection .capture).window = .ok window := hwindow
  have hoffer := hidle.offer_of_window hcaptured
  cases hempty : window.isEmpty with
  | true =>
    rw [if_pos hempty] at hoffer
    have hcapture := run_capture_of_offer_eq_error [] hidle hoffer rate
    have hfailed := simulate_of_capture_eq_error hcapture
    refine Or.inr ⟨_, ?_, congrArg Prod.fst hfailed, ?_⟩
    · intro count hoffers
      cases (Device.isEmpty_eq_false_of_offers hwindow hoffers).symm.trans hempty
    · rw [hfailed]
      rfl
  | false =>
    subst hconstraints
    rw [if_neg (by simp [hempty])] at hoffer
    rcases ((deviceBefore profile source clockRate).idleOffer .capture
        profile.formats.transmit window).refine_at_rate hwindow rfl chosen with
      ⟨count, rounds, hoffers, hrate, hrefine, hselect⟩ | ⟨fault, hrefine, hnone⟩
    · have hcapture := run_capture_of_refine_eq_ok [] hidle ⟨chosen, count⟩ hoffer hchosen hrefine
        hselect
      have hdone := simulate_of_capture_eq_ok hcapture (hidle.afterVisit chosen (.pcm .capture))
      refine Or.inl ⟨count, hoffers, hrate, congrArg Prod.fst hdone, ?_⟩
      rw [hdone]
      exact completed_afterMidi _ ⟨chosen, count⟩ rfl
    · rw [← hchosen] at hrefine
      have hcapture := run_capture_of_refine_eq_error [] hidle hoffer hrefine
      have hfailed := simulate_of_capture_eq_error hcapture
      refine Or.inr ⟨fault, hnone, congrArg Prod.fst hfailed, ?_⟩
      rw [hfailed]
      rfl

end Trial

/-- **A trial is correct end to end.** Let the rate be the one that is given, or else the lowest one
on offer. The trial goes through exactly if an enabled capture mode lists that rate and the clock is
internal or runs at it. Then the transport was asked for a visit of the capture substream, and for
one of the first playback port if a mode declares any; the second opener found the device busy, and
the pair was left stopped and without substreams. A trial that fails has not started anything. -/
theorem simulate_end_to_end (profile : DeviceProfile)
    (hfit : profile.formats.transmit.ChannelsFit) (rate : Option UInt32) (source : ClockSource)
    (clockRate : UInt32) :
    ∃ window, profile.formats.transmit.window = .ok window ∧
      let offered := if source = .internal then window.rates else .single clockRate
      let chosen := rate.getD offered.lower
      ((simulate profile rate source clockRate).1 = .ok () ↔
        (∃ count, profile.formats.transmit.Offers chosen count) ∧
          (source = .internal ∨ chosen = clockRate)) ∧
      ((simulate profile rate source clockRate).1 = .ok () →
        ∃ count, profile.formats.transmit.Offers chosen count ∧
          Completed profile { window with rates := offered } ⟨chosen, count⟩
            (simulate profile rate source clockRate).2) ∧
      ∀ fault, (simulate profile rate source clockRate).1 = .error fault →
        (simulate profile rate source clockRate).2.device.transport.events = [] ∧
          (simulate profile rate source clockRate).2.device.transport.starts = 0 := by
  obtain ⟨window, hwindow⟩ : ∃ window, profile.formats.transmit.window = .ok window :=
    ⟨_, hfit.window_eq⟩
  refine ⟨window, hwindow, ?_⟩
  intro offered chosen
  have hlisted {count : UInt32} (hoffers : profile.formats.transmit.Offers chosen count) :
      chosen ∈ offered ↔ source = .internal ∨ chosen = clockRate :=
    @Device.mem_idleRates_iff (deviceBefore profile source clockRate) _ _ _ _ hwindow hoffers
  rcases @simulate_cases profile source clockRate rate window _ chosen hwindow rfl rfl with
    ⟨count, hoffers, hrate, hok, hdone⟩ | ⟨fault, hnone, hfailed, hquiet⟩
  · rw [hok]
    refine ⟨iff_of_true rfl ⟨⟨count, hoffers⟩, (hlisted hoffers).1 hrate⟩, fun _ => ?_, ?_⟩
    · exact ⟨count, hoffers, hdone⟩
    · intro fault hfault
      cases hfault
  · rw [hfailed, hquiet]
    refine ⟨iff_of_false ?_ ?_, fun hok => ?_, fun _ _ => ⟨rfl, rfl⟩⟩
    · rintro ⟨⟩
    · rintro ⟨⟨count, hoffers⟩, hallowed⟩
      exact hnone count hoffers ((hlisted hoffers).2 hallowed)
    · cases hok

/-- The factory profile follows an outside clock in its middle mode; its MIDI port gets its visit,
too. -/
theorem simulate_end_to_end_factory :
    DeviceProfile.factory.formats.transmit.ChannelsFit ∧
      (simulate .factory none .adatOptical 96000).1 = .ok () ∧
      (simulate .factory none .adatOptical 96000).2.device.transport.events =
        [.started 96000, .pcmAttached .capture (some ⟨1⟩), .pcmAttached .capture none, .stopped,
          .started 96000, .midiAttached .playback 0 (some ⟨2⟩), .midiAttached .playback 0 none,
          .stopped] ∧
      (simulate .factory (some 44100) .adatOptical 96000).2.device.transport.starts = 0 := by
  have hfit : DeviceProfile.factory.formats.transmit.ChannelsFit := by decide
  have hoffers : DeviceProfile.factory.formats.transmit.Offers 96000 14 :=
    ⟨{ fixedChannels := 10, variableChannels := 4, rates := [88200, 96000], midiPorts := 1 },
      by decide, by decide, by decide, by decide⟩
  obtain ⟨window, -, hiff, hdone, -⟩ :=
    simulate_end_to_end .factory hfit none .adatOptical 96000
  have hok : (simulate .factory none .adatOptical 96000).1 = .ok () :=
    hiff.2 ⟨⟨14, hoffers⟩, Or.inr rfl⟩
  obtain ⟨count, -, hcompleted⟩ := hdone hok
  obtain ⟨window', -, hiff', -, hquiet⟩ :=
    simulate_end_to_end .factory hfit (some 44100) .adatOptical 96000
  refine ⟨hfit, hok, hcompleted.events, ?_⟩
  cases hresult : (simulate .factory (some 44100) .adatOptical 96000).1 with
  | ok =>
    obtain ⟨-, hinternal | hclock⟩ := hiff'.1 hresult
    · cases hinternal
    · exact absurd hclock (show (44100 : UInt32) ≠ 96000 by decide)
  | error fault => exact (hquiet fault hresult).2

end Simulation
end DuplexAudio
