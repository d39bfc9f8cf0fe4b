import DuplexAudio.Device.Pcm
import DuplexAudio.Profile

/-!
A trial of a profile on simulated hardware: a capture substream goes once through open, commit,
prepare, start, stop, free and close, then the first MIDI playback port, if there is one, does the
same. What can be seen on the way is remarked in order.
-/

namespace DuplexAudio

namespace Simulation

inductive Remark
  | openedCapture (window : CapabilityWindow)
  | committed (params : StreamParams)
  | secondOpener (fault : StreamFault)
  | openedPlayback (name : String)
  | journal (events : List TransportEvent)
  | final (state : StreamState) (starts stops : Nat)
  deriving DecidableEq, Repr

/-- The device on trial and what has been remarked so far, oldest first. -/
structure State where
  device : Device
  remarks : List Remark := []
  deriving DecidableEq

/-- A trial ends at the first fault; the state it left is kept. -/
abbrev Trial (α : Type) := ExceptT StreamFault (StateM State) α

def remark (remark : Remark) : Trial Unit :=
  modify fun state => { state with remarks := state.remarks ++ [remark] }

def perform {α : Type} (operation : Device → Except StreamFault α × Device) : Trial α := do
  let (result, device) := operation (← get).device
  modify fun state => { state with device }
  liftExcept result

def change (operation : Device → Device) : Trial Unit :=
  modify fun state => { state with device := operation state.device }

/-- Tries to open a port while the capture substream holds the device. -/
def openSecond : Trial Unit := do
  let (result, device) := (← get).device.openMidi .capture 0
  match result with
  | .error fault =>
    change fun _ => device
    remark (.secondOpener fault)
  | .ok midi => change fun _ => device.close (.midi midi)

/-- Runs a capture substream at `rate`, or at the lowest rate on offer. -/
def capture (rate : Option UInt32) : Trial Unit := do
  let opened ← perform (·.openPcm .capture)
  let window := opened.constraints.window
  remark (.openedCapture window)
  let rate := rate.getD window.rates.lower
  let negotiated ← perform fun device =>
    (device.refine opened (.single rate) window.channels, device)
  let committed ← perform (·.commit opened rate negotiated.channels.upper)
  match committed.params with
  | some params => remark (.committed params)
  | none => pure ()
  let prepared ← perform (·.prepare committed)
  let running ← perform (·.trigger prepared .start)
  openSecond
  let stopped ← perform (·.trigger running .stop)
  let freed ← perform (·.free stopped)
  change (·.close (.pcm freed))

/-- Attaches the first MIDI playback port and detaches it again. -/
def playMidi : Trial Unit := do
  let formats ← perform (·.queryFormats)
  if 0 < formats.availablePorts .playback then
    let midi ← perform (·.openMidi .playback 0)
    remark (.openedPlayback (midiPortName (← get).device.name midi.port))
    change (·.triggerMidi midi true)
    change (·.triggerMidi midi false)
    change (·.close (.midi midi))

/-- Remarks what the transport was asked for and how the pair was left. -/
def summarise : Trial Unit := do
  let transport := (← get).device.transport
  remark (.journal transport.events)
  remark (.final (← get).device.lifecycle.state transport.starts transport.stops)

def trial (rate : Option UInt32) : Trial Unit := do
  capture rate
  playMidi
  summarise

end Simulation

/-- The outcome of a trial of `profile` with the clock at `clockRate` before any stream starts. -/
def simulate (profile : DeviceProfile) (rate : Option UInt32) (source : ClockSource)
    (clockRate : UInt32) : Except StreamFault Unit × Simulation.State :=
  (Simulation.trial rate).run
    { device := .attach profile.name profile.formats { source, rate := clockRate } true }

end DuplexAudio
