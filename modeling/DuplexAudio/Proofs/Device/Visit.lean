import DuplexAudio.Proofs.Device.Offer

/-!
Visits to an idle device: a substream is opened, counted, started for, attached, detached and closed
again. Whichever kind it is, the journal tells its visit in four events, and the device is idle
afterwards.
-/

namespace DuplexAudio

namespace Lifecycle

variable {lifecycle : Lifecycle} (rate : UInt32) (slot : Slot) (id : SubstreamId)

theorem leave_of_last (hlast : lifecycle.state.activeSubstreams = 1)
    (hrunning : lifecycle.state.running = true) :
    lifecycle.leave = (true, lifecycle.removeSubstream.afterStop) := by
  rcases lifecycle.leave_cases with ⟨hshared | hidle, -⟩ | ⟨-, -, hcase⟩
  · rw [hlast] at hshared
    exact absurd hshared (Nat.lt_irrefl 1)
  · cases hidle.symm.trans hrunning
  · exact hcase

/-- The lifecycle once a substream was counted, started for at `rate`, attached and detached. -/
def served (lifecycle : Lifecycle) : Lifecycle :=
  ((lifecycle.addSubstream.afterStart rate).trigger slot (some id)).trigger slot none

theorem state_served : (lifecycle.served rate slot id).state =
    { activeSubstreams := lifecycle.state.activeSubstreams + 1
      running := true
      committedRate := some rate } := by
  rw [served, state_trigger, state_trigger]
  rfl

theorem events_served : (lifecycle.served rate slot id).transport.events =
    lifecycle.transport.events ++ [.started rate, slot.event (some id), slot.event none] := by
  rw [served, events_trigger, events_trigger]
  change (lifecycle.transport.events ++ [.started rate]) ++ _ ++ _ = _
  rw [List.append_assoc, List.append_assoc]
  rfl

/-- The lifecycle once the substream has left, too. -/
def afterVisit (lifecycle : Lifecycle) : Lifecycle :=
  (lifecycle.served rate slot id).leave.2

/-- The only substream there is takes the pair down with it. -/
theorem afterVisit_of_unused (hunused : lifecycle.state.activeSubstreams = 0) :
    lifecycle.afterVisit rate slot id =
      (lifecycle.served rate slot id).removeSubstream.afterStop := by
  rw [afterVisit, leave_of_last]
  · rw [state_served, hunused]
    rfl
  · rw [state_served]

section

variable (hunused : lifecycle.state = {})
include hunused

theorem state_afterVisit : (lifecycle.afterVisit rate slot id).state = {} := by
  rw [afterVisit_of_unused rate slot id (by rw [hunused])]
  have hcount : ((lifecycle.served rate slot id).removeSubstream.state.activeSubstreams : Nat) =
      0 := by
    rw [count_removeSubstream, state_served, hunused]
    rfl
  exact congrArg (StreamState.mk · false none) (UInt32.toNat_inj.1 hcount)

theorem events_afterVisit : (lifecycle.afterVisit rate slot id).transport.events =
    lifecycle.transport.events ++
      [.started rate, slot.event (some id), slot.event none, .stopped] := by
  rw [afterVisit_of_unused rate slot id (by rw [hunused])]
  change (lifecycle.served rate slot id).transport.events ++ [.stopped] = _
  rw [events_served, List.append_assoc]
  rfl

/-- What a visit leaves behind on the hardware: one more start and one more stop. -/
theorem hardware_afterVisit :
    (lifecycle.afterVisit rate slot id).transport.attachments = {} ∧
      (lifecycle.afterVisit rate slot id).transport.failNext = lifecycle.transport.failNext ∧
      (lifecycle.afterVisit rate slot id).transport.starts = lifecycle.transport.starts + 1 ∧
      (lifecycle.afterVisit rate slot id).transport.stops = lifecycle.transport.stops + 1 ∧
      (lifecycle.afterVisit rate slot id).hardware.drivesClock = lifecycle.hardware.drivesClock ∧
      (lifecycle.afterVisit rate slot id).hardware.clock =
        if lifecycle.hardware.drivesClock then { lifecycle.hardware.clock with rate }
        else lifecycle.hardware.clock := by
  rw [afterVisit_of_unused rate slot id (by rw [hunused])]
  cases slot <;> exact ⟨rfl, rfl, rfl, rfl, rfl, rfl⟩

end

end Lifecycle

namespace Device

variable {device : Device} {pcm : PcmSubstream}

/-! ### Idle devices -/

/-- The device can be opened, and nothing runs on it. -/
structure Idle (device : Device) : Prop where
  attached : device.attached = true
  free : device.lock.held = false
  available : device.source.failing = false
  unused : device.lifecycle.state = {}
  detached : device.transport.attachments = {}
  ready : device.transport.failNext = none
  reachable : device.clock.unreachable = false

theorem idle_attach (name : String) (formats : StreamFormats) (clock : Clock) (drivesClock : Bool)
    (hreachable : clock.unreachable = false) : Idle (.attach name formats clock drivesClock) :=
  ⟨rfl, rfl, rfl, rfl, rfl, rfl, hreachable⟩

theorem Idle.used_addSubstream (hidle : device.Idle) :
    0 < device.lifecycle.addSubstream.state.activeSubstreams := by
  have hcount : device.lifecycle.addSubstream.state.activeSubstreams = 0 + 1 :=
    congrArg (·.activeSubstreams + 1) hidle.unused
  rw [hcount]
  decide

/-- The rates that are on offer while nothing runs. -/
def idleRates (device : Device) (window : CapabilityWindow) : Interval :=
  if device.clock.source = .internal then window.rates else .single device.clock.rate

/-- What a table with that window offers while nothing runs. -/
def idleOffer (device : Device) (direction : Direction) (table : ModeTable)
    (window : CapabilityWindow) : Constraints where
  direction
  table
  window := { window with rates := device.idleRates window }

/-- The device after a visit to the slot at `rate`. -/
def afterVisit (device : Device) (rate : UInt32) (slot : Slot) : Device :=
  { device with
    lock := ⟨false, device.lock.generation + 1⟩
    source.queries := device.source.queries + 1
    lastId := device.lastId + 1
    lifecycle := device.lifecycle.afterVisit rate slot device.nextId
    substream := none }

theorem Idle.afterVisit (hidle : device.Idle) (rate : UInt32) (slot : Slot) :
    (device.afterVisit rate slot).Idle := by
  obtain ⟨hattachments, hfail, -, -, -, hclock⟩ :=
    Lifecycle.hardware_afterVisit rate slot device.nextId hidle.unused
  refine ⟨hidle.attached, rfl, hidle.available, ?_, hattachments, hfail.trans hidle.ready, ?_⟩
  · exact Lifecycle.state_afterVisit rate slot device.nextId hidle.unused
  · rw [clock, Device.afterVisit, hclock]
    split
    · exact hidle.reachable
    · exact hidle.reachable

section

variable (hidle : device.Idle) (rate : UInt32) (slot : Slot)
include hidle

theorem Idle.events_afterVisit : (device.afterVisit rate slot).transport.events =
    device.transport.events ++
      [.started rate, slot.event (some device.nextId), slot.event none, .stopped] :=
  Lifecycle.events_afterVisit rate slot device.nextId hidle.unused

theorem Idle.starts_afterVisit :
    (device.afterVisit rate slot).transport.starts = device.transport.starts + 1 :=
  (Lifecycle.hardware_afterVisit rate slot device.nextId hidle.unused).2.2.1

theorem Idle.stops_afterVisit :
    (device.afterVisit rate slot).transport.stops = device.transport.stops + 1 :=
  (Lifecycle.hardware_afterVisit rate slot device.nextId hidle.unused).2.2.2.1

theorem Idle.clock_afterVisit (hdrives : device.lifecycle.hardware.drivesClock = true) :
    (device.afterVisit rate slot).clock = { device.clock with rate } := by
  obtain ⟨-, -, -, -, -, hclock⟩ :=
    Lifecycle.hardware_afterVisit rate slot device.nextId hidle.unused
  rw [if_pos hdrives] at hclock
  exact hclock

end

theorem Idle.queried (hidle : device.Idle) : device.queried.Idle :=
  ⟨hidle.attached, hidle.free, hidle.available, hidle.unused, hidle.detached, hidle.ready,
    hidle.reachable⟩

theorem Idle.offer_of_window (hidle : device.Idle) {formats : StreamFormats}
    {direction : Direction} {window : CapabilityWindow}
    (hwindow : (formats.forDirection direction).window = .ok window) :
    device.offer formats direction =
      if window.isEmpty then .error (.unsatisfiable window.rates window.channels)
      else .ok (device.idleOffer direction (formats.forDirection direction) window) := by
  have hactive : device.transport.attachments.active = ⟨false, false⟩ := by
    rw [hidle.detached]
    rfl
  have hrates : device.clock.allowance window.rates ⟨false, false⟩ = device.idleRates window := by
    simp [Clock.allowance, idleRates, ClockSource.isInternal]
  rw [Device.offer_of_window hwindow, Clock.constrain_of_reachable hidle.reachable, hactive, hrates]
  rfl

/-- A rate on offer by the table is on offer now if the device runs on its own clock, or if it is
the rate of the outside one. -/
theorem mem_idleRates_iff {table : ModeTable} {window : CapabilityWindow} {rate count : UInt32}
    (hwindow : table.window = .ok window) (hoffers : table.Offers rate count) :
    rate ∈ device.idleRates window ↔
      device.clock.source = .internal ∨ rate = device.clock.rate := by
  by_cases hinternal : device.clock.source = .internal
  · rw [idleRates, if_pos hinternal]
    exact iff_of_true (hoffers.mem_window hwindow).1 (Or.inl hinternal)
  · rw [idleRates, if_neg hinternal, Interval.mem_single]
    exact (or_iff_right hinternal).symm

theorem isEmpty_eq_false_of_offers {table : ModeTable} {window : CapabilityWindow}
    {rate count : UInt32} (hwindow : table.window = .ok window)
    (hoffers : table.Offers rate count) : window.isEmpty = false := by
  obtain ⟨hrate, hcount⟩ := hoffers.mem_window hwindow
  rw [CapabilityWindow.isEmpty, Interval.isEmpty_eq_false_of_mem hrate,
    Interval.isEmpty_eq_false_of_mem hcount]
  rfl

/-! ### During a visit -/

/-- The device while a visitor is open on it. -/
def during (device : Device) (lifecycle : Lifecycle) (substream : Substream) : Device :=
  { device.withOpened substream with lifecycle }

theorem Idle.runningRates_during (hidle : device.Idle) (substream : Substream) :
    (device.during device.lifecycle substream).runningRates = .full := by
  have hnone : (device.during device.lifecycle substream).lifecycle.state.committedRate = none :=
    congrArg StreamState.committedRate hidle.unused
  rw [runningRates, hnone]

/-- Whoever closes at the end of a visit leaves an idle device behind. -/
theorem Idle.close_during (hidle : device.Idle) (rate : UInt32) (slot : Slot)
    (last substream : Substream) {lifecycle : Lifecycle}
    (hretire : retire lifecycle substream = device.lifecycle.afterVisit rate slot device.nextId) :
    (device.during lifecycle last).close substream = device.afterVisit rate slot := by
  have hattached : (device.during lifecycle last).attached = true := hidle.attached
  rw [close_of_attached hattached]
  change { device.afterVisit rate slot with lifecycle := retire lifecycle substream } = _
  rw [hretire]
  rfl

section Pcm

variable (device : Device) (constraints : Constraints) (params : StreamParams)

/-- A visiting PCM substream in one of its states. -/
def visitor (state : SubstreamState) : PcmSubstream where
  id := device.nextId
  constraints
  state
  params := if state = .opened then none else some params

@[simp] theorem visitor_constraints (state : SubstreamState) :
    (device.visitor constraints params state).constraints = constraints :=
  rfl

@[simp] theorem visitor_setup_params :
    (device.visitor constraints params .setup).params = some params :=
  rfl

variable {device constraints params}

theorem Idle.openPcm (hidle : device.Idle) (params : StreamParams) {direction : Direction}
    (hoffer : device.offer device.source.formats direction = .ok constraints) :
    device.openPcm direction = (.ok (device.visitor constraints params .opened),
      device.during device.lifecycle (.pcm (device.visitor constraints params .opened))) :=
  openPcm_of_offer_eq_ok hidle.free hidle.available hoffer

/-- On an idle device the constraints alone decide what can be refined to. -/
theorem Idle.refine_during (hidle : device.Idle) (substream : Substream) (pcm : PcmSubstream)
    (rate : UInt32) (channels : Interval) :
    (device.during device.lifecycle substream).refine pcm (.single rate) channels =
      pcm.constraints.refine (.single rate) channels := by
  rw [refine, hidle.runningRates_during, Interval.intersect_single (Interval.mem_full rate)]

theorem Idle.commit_during (hidle : device.Idle) (substream : Substream)
    (hselect : constraints.select params.rate params.channels = .ok params) :
    (device.during device.lifecycle substream).commit
      (device.visitor constraints params .opened) params.rate params.channels =
      (.ok (device.visitor constraints params .setup),
        device.during device.lifecycle.addSubstream
          (.pcm (device.visitor constraints params .setup))) := by
  have hselected : (device.during device.lifecycle substream).selectParams
      (device.visitor constraints params .opened) params.rate params.channels = .ok params := by
    rw [selectParams, hidle.runningRates_during, if_neg SubstreamState.noConfusion,
      if_neg (not_not_intro (Interval.mem_full params.rate))]
    exact hselect
  rw [commit, hselected]
  rfl

theorem Idle.prepare_during (hidle : device.Idle) (substream : Substream) :
    (device.during device.lifecycle.addSubstream substream).prepare
      (device.visitor constraints params .setup) =
      (.ok (device.visitor constraints params .prepared),
        device.during (device.lifecycle.addSubstream.afterStart params.rate)
          (.pcm (device.visitor constraints params .prepared))) := by
  have hstopped : device.lifecycle.addSubstream.state.running = false :=
    congrArg StreamState.running hidle.unused
  have hstart := Lifecycle.ensureStarted_of_ready device.lifecycle.addSubstream params.rate
    hidle.used_addSubstream hstopped hidle.ready
  have hparams : paramsToPrepare (device.visitor constraints params .setup) = .ok params := rfl
  have hduring : (device.during device.lifecycle.addSubstream substream).lifecycle =
      device.lifecycle.addSubstream := rfl
  rw [prepare, hparams]
  simp only [hduring, hstart]
  rfl

theorem start_during (lifecycle : Lifecycle) (substream : Substream) :
    (device.during lifecycle substream).trigger (device.visitor constraints params .prepared)
      .start =
      (.ok (device.visitor constraints params .running),
        device.during (lifecycle.trigger (.pcm constraints.direction) (some device.nextId))
          (.pcm (device.visitor constraints params .running))) :=
  rfl

theorem stop_during (lifecycle : Lifecycle) (substream : Substream) :
    (device.during lifecycle substream).trigger (device.visitor constraints params .running)
      .stop =
      (.ok (device.visitor constraints params .prepared),
        device.during (lifecycle.trigger (.pcm constraints.direction) none)
          (.pcm (device.visitor constraints params .prepared))) :=
  rfl

theorem free_during (lifecycle : Lifecycle) (substream : Substream) :
    (device.during lifecycle substream).free (device.visitor constraints params .prepared) =
      (.ok (device.visitor constraints params .opened),
        device.during lifecycle.leave.2 (.pcm (device.visitor constraints params .opened))) :=
  rfl

end Pcm

/-- A MIDI port joins an idle pair at the rate of the clock. -/
theorem Idle.openMidi (hidle : device.Idle) {direction : Direction} {port : UInt8}
    (hport : ¬ device.source.formats.availablePorts direction ≤ port.toUInt32) :
    device.openMidi direction port = (.ok { id := device.nextId, direction, port },
      device.during (device.lifecycle.addSubstream.afterStart device.clock.rate)
        (.midi { id := device.nextId, direction, port })) := by
  have hrate : device.joinRate = .ok device.clock.rate := by
    rw [joinRate, hidle.unused, Clock.readRate, if_neg (by simp [hidle.reachable])]
    rfl
  have hstopped : device.lifecycle.state.running = false :=
    congrArg StreamState.running hidle.unused
  rcases device.lifecycle.join_cases device.clock.rate with
    ⟨hunused, -⟩ | ⟨-, hrunning, -⟩ | ⟨-, -, reason, hfail, -⟩ | ⟨-, -, -, hjoin⟩
  · exact absurd hunused (UInt32.pos_iff_ne_zero.1 hidle.used_addSubstream)
  · cases hstopped.symm.trans hrunning
  · cases hidle.ready.symm.trans hfail
  · exact openMidi_of_join_eq_ok hidle.free hidle.available hport hrate hjoin

theorem triggerMidi_during (lifecycle : Lifecycle) (substream : Substream) (midi : MidiSubstream)
    (up : Bool) :
    (device.during lifecycle substream).triggerMidi midi up =
      device.during
        (lifecycle.trigger (.midi midi.direction midi.port) (if up then some midi.id else none))
        (.midi { midi with triggered := up }) :=
  rfl

end Device
end DuplexAudio
