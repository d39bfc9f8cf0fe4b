import DuplexAudio.Transport

/-!
The lifecycle of the duplex pair. Several substreams share one physical pair; it counts them,
starts the pair for the first one and stops it when the last one leaves.
-/

namespace DuplexAudio

/-- How many substreams are counted, whether the pair runs, and at which rate. The count is a word
and wraps around: it is zero again once `2 ^ 32` additions are outstanding. -/
structure StreamState where
  activeSubstreams : UInt32 := 0
  running : Bool := false
  committedRate : Option UInt32 := none
  deriving DecidableEq, Repr, Inhabited

/-- A count is reported, and compared with other counts, as a number. -/
instance coeCount : Coe UInt32 Nat where
  coe := UInt32.toNat

/-- Counts one substream fewer, never below none. -/
def StreamState.decrement (state : StreamState) : StreamState :=
  { state with
    activeSubstreams := if state.activeSubstreams = 0 then 0 else state.activeSubstreams - 1 }

inductive StartOutcome
  | started (rate : UInt32)
  | alreadyRunning (rate : UInt32)
  | noSubstreams
  deriving DecidableEq, Repr

/-- The shared state of the pair, its own record of attachments, and the hardware it drives. -/
structure Lifecycle where
  state : StreamState := {}
  slots : Attachments := {}
  hardware : Hardware := {}
  deriving DecidableEq, Repr

namespace Lifecycle

def addSubstream (lifecycle : Lifecycle) : Lifecycle :=
  { lifecycle with state.activeSubstreams := lifecycle.state.activeSubstreams + 1 }

def removeSubstream (lifecycle : Lifecycle) : Lifecycle :=
  { lifecycle with state := lifecycle.state.decrement }

/-- Makes sure the pair runs. A running pair keeps its rate whatever is asked for, and a failed
start leaves the state as it was. -/
def ensureStarted (lifecycle : Lifecycle) (rate : UInt32) :
    Except StreamFault StartOutcome × Lifecycle :=
  if lifecycle.state.activeSubstreams = 0 then (.ok .noSubstreams, lifecycle)
  else if lifecycle.state.running then
    (.ok (.alreadyRunning (lifecycle.state.committedRate.getD rate)), lifecycle)
  else match lifecycle.hardware.start rate with
    | (.error fault, hardware) => (.error fault, { lifecycle with hardware })
    | (.ok (), hardware) =>
      (.ok (.started rate),
        { lifecycle with
          state := { lifecycle.state with running := true, committedRate := some rate }
          hardware })

/-- Stops a running pair that no substream needs, and says whether it did. -/
def ensureStopped (lifecycle : Lifecycle) : Bool × Lifecycle :=
  if 0 < lifecycle.state.activeSubstreams || !lifecycle.state.running then (false, lifecycle)
  else
    (true,
      { lifecycle with
        state := { lifecycle.state with running := false, committedRate := none }
        hardware := lifecycle.hardware.mapTransport .stop })

/-- Counts a substream and starts the pair in one step; a failed start is not counted. -/
def join (lifecycle : Lifecycle) (rate : UInt32) : Except StreamFault StartOutcome × Lifecycle :=
  match lifecycle.addSubstream.ensureStarted rate with
  | (.ok outcome, joined) => (.ok outcome, joined)
  | (.error fault, joined) => (.error fault, joined.removeSubstream)

/-- Uncounts a substream and stops the pair if it was the last one. -/
def leave (lifecycle : Lifecycle) : Bool × Lifecycle := lifecycle.removeSubstream.ensureStopped

/-- Attaches or detaches a PCM substream, in the own record and on the transport. -/
def triggerPcm (lifecycle : Lifecycle) (direction : Direction) (substream : Option SubstreamId) :
    Lifecycle :=
  { lifecycle with
    slots := lifecycle.slots.attachPcm direction substream
    hardware := lifecycle.hardware.mapTransport (·.attachPcm direction substream) }

def triggerMidi (lifecycle : Lifecycle) (direction : Direction) (port : UInt8)
    (substream : Option SubstreamId) : Lifecycle :=
  { lifecycle with
    slots := lifecycle.slots.attachMidi direction port substream
    hardware := lifecycle.hardware.mapTransport (·.attachMidi direction port substream) }

def transport (lifecycle : Lifecycle) : Transport := lifecycle.hardware.transport

def mapTransport (lifecycle : Lifecycle) (change : Transport → Transport) : Lifecycle :=
  { lifecycle with hardware := lifecycle.hardware.mapTransport change }

/-- Everything that can be asked of a lifecycle. -/
inductive Action
  | add
  | remove
  | start (rate : UInt32)
  | stop
  | join (rate : UInt32)
  | leave
  | triggerPcm (direction : Direction) (substream : Option SubstreamId)
  | triggerMidi (direction : Direction) (port : UInt8) (substream : Option SubstreamId)
  | isRunning
  deriving DecidableEq, Repr

/-- Requests that go to the transport without the lifecycle knowing. -/
inductive TransportAction
  | failNext (reason : String)
  | start (rate : UInt32)
  | stop
  | attachPcm (direction : Direction) (substream : Option SubstreamId)
  | attachMidi (direction : Direction) (port : UInt8) (substream : Option SubstreamId)
  deriving DecidableEq, Repr

inductive Answer
  | done
  | count (substreams : UInt32)
  | flag (value : Bool)
  | outcome (outcome : StartOutcome)
  | fault (fault : StreamFault)
  deriving DecidableEq, Repr

def Answer.ofOutcome : Except StreamFault StartOutcome → Answer
  | .ok result => .outcome result
  | .error cause => .fault cause

def step (lifecycle : Lifecycle) : Action → Answer × Lifecycle
  | .add => (.count lifecycle.addSubstream.state.activeSubstreams, lifecycle.addSubstream)
  | .remove => (.count lifecycle.removeSubstream.state.activeSubstreams, lifecycle.removeSubstream)
  | .start rate =>
    let (outcome, next) := lifecycle.ensureStarted rate
    (.ofOutcome outcome, next)
  | .stop =>
    let (stopped, next) := lifecycle.ensureStopped
    (.flag stopped, next)
  | .join rate =>
    let (outcome, next) := lifecycle.join rate
    (.ofOutcome outcome, next)
  | .leave =>
    let (stopped, next) := lifecycle.leave
    (.flag stopped, next)
  | .triggerPcm direction substream => (.done, lifecycle.triggerPcm direction substream)
  | .triggerMidi direction port substream => (.done, lifecycle.triggerMidi direction port substream)
  | .isRunning => (.flag lifecycle.state.running, lifecycle)

def stepTransport (lifecycle : Lifecycle) : TransportAction → Answer × Lifecycle
  | .failNext reason => (.done, lifecycle.mapTransport (·.failNextStart reason))
  | .start rate =>
    match lifecycle.hardware.start rate with
    | (.ok (), hardware) => (.done, { lifecycle with hardware })
    | (.error fault, hardware) => (.fault fault, { lifecycle with hardware })
  | .stop => (.done, lifecycle.mapTransport .stop)
  | .attachPcm direction substream =>
    (.done, lifecycle.mapTransport (·.attachPcm direction substream))
  | .attachMidi direction port substream =>
    (.done, lifecycle.mapTransport (·.attachMidi direction port substream))

end Lifecycle
end DuplexAudio
