import DuplexAudio.Device.Basic

/-!
What the host does with an open PCM substream: refine, commit parameters, prepare, trigger, free.
-/

namespace DuplexAudio.Device

/-- The outcome of an operation that leaves the device with `pcm` as its open substream. -/
def keep (device : Device) (pcm : PcmSubstream) : Except StreamFault PcmSubstream × Device :=
  (.ok pcm, { device with substream := some (.pcm pcm) })

def refine (device : Device) (pcm : PcmSubstream) (rates channels : Interval) :
    Except StreamFault Negotiated :=
  pcm.constraints.refine (rates.intersect device.runningRates) channels

/-- Whether `rate` and `channels` may be committed to now. -/
def selectParams (device : Device) (pcm : PcmSubstream) (rate channels : UInt32) :
    Except StreamFault StreamParams :=
  if pcm.state = .running then .error (.invalidState .paramsWhileRunning)
  else if rate ∉ device.runningRates then
    .error (.unsatisfiable ((Interval.single rate).intersect device.runningRates)
      (.single channels))
  else pcm.constraints.select rate channels

/-- Commits to parameters. Only the first commit counts the substream; a later one replaces the
parameters. -/
def commit (device : Device) (pcm : PcmSubstream) (rate channels : UInt32) :
    Except StreamFault PcmSubstream × Device :=
  match device.selectParams pcm rate channels with
  | .error fault => (.error fault, device)
  | .ok params =>
    let lifecycle :=
      if pcm.state = .opened then device.lifecycle.addSubstream else device.lifecycle
    { device with lifecycle }.keep { pcm with state := .setup, params := some params }

/-- Releases the parameters and stops the pair if nobody else needs it. -/
def free (device : Device) (pcm : PcmSubstream) : Except StreamFault PcmSubstream × Device :=
  if pcm.state = .running then (.error (.invalidState .freeWhileRunning), device)
  else
    let (_, lifecycle) :=
      if pcm.state = .opened then device.lifecycle.ensureStopped else device.lifecycle.leave
    { device with lifecycle }.keep { pcm with state := .opened, params := none }

/-- The parameters to prepare with; only a substream that has committed and does not run yet can be
prepared. -/
def paramsToPrepare (pcm : PcmSubstream) : Except StreamFault StreamParams :=
  match pcm.state, pcm.params with
  | .setup, some params | .prepared, some params => .ok params
  | state, _ => .error (.invalidState (.prepareIn state))

def prepare (device : Device) (pcm : PcmSubstream) : Except StreamFault PcmSubstream × Device :=
  match paramsToPrepare pcm with
  | .error fault => (.error fault, device)
  | .ok params =>
    match device.lifecycle.ensureStarted params.rate with
    | (.error fault, lifecycle) => (.error fault, { device with lifecycle })
    | (.ok (.alreadyRunning running), lifecycle) =>
      if running = params.rate then { device with lifecycle }.keep { pcm with state := .prepared }
      else (.error (.invalidState (.ratePinned running params.rate)), { device with lifecycle })
    | (.ok _, lifecycle) => { device with lifecycle }.keep { pcm with state := .prepared }

/-- Attaches to the live stream or detaches from it; no other command is supported. -/
def trigger (device : Device) (pcm : PcmSubstream) :
    TriggerCommand → Except StreamFault PcmSubstream × Device
  | .start =>
    if pcm.state = .prepared then
      { device with lifecycle := device.lifecycle.triggerPcm pcm.direction (some pcm.id) }.keep
        { pcm with state := .running }
    else (.error (.invalidState (.startIn pcm.state)), device)
  | .stop =>
    { device with lifecycle := device.lifecycle.triggerPcm pcm.direction none }.keep
      { pcm with state := pcm.state.afterStop }
  | other => (.error (.invalidTrigger other.code), device)

def triggerCode (device : Device) (pcm : PcmSubstream) (code : Int) :
    Except StreamFault PcmSubstream × Device :=
  match TriggerCommand.ofCode? code with
  | some command => device.trigger pcm command
  | none => (.error (.invalidTrigger code), device)

def triggerMidi (device : Device) (midi : MidiSubstream) (up : Bool) : Device :=
  { device with
    lifecycle := device.lifecycle.triggerMidi midi.direction midi.port
      (if up then some midi.id else none)
    substream := some (.midi { midi with triggered := up }) }

/-- What the lifecycle sees of a substream going away: it detaches, and leaves if it was counted. -/
def retire (lifecycle : Lifecycle) : Substream → Lifecycle
  | .pcm pcm =>
    let detached :=
      if pcm.state = .running then lifecycle.triggerPcm pcm.direction none else lifecycle
    if pcm.state = .opened then detached else detached.leave.2
  | .midi midi =>
    let detached :=
      if midi.triggered then lifecycle.triggerMidi midi.direction midi.port none else lifecycle
    detached.leave.2

/-- The end of a device that neither a handle nor a substream keeps alive stops a running pair. -/
def settleDetached (device : Device) : Device :=
  if device.attached || device.substream.isSome || !device.lifecycle.state.running then device
  else { device with lifecycle := device.lifecycle.mapTransport .stop }

/-- Closes the open substream: it is retired and the lock is given back. -/
def close (device : Device) (substream : Substream) : Device :=
  let closed := { device with lifecycle := retire device.lifecycle substream, substream := none }
  closed.release.settleDetached

def detach (device : Device) : Device := { device with attached := false }.settleDetached

end DuplexAudio.Device
