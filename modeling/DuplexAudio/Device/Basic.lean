import DuplexAudio.ClockPolicy
import DuplexAudio.Exclusivity
import DuplexAudio.Lifecycle
import DuplexAudio.Midi
import DuplexAudio.Negotiation.Constraints

/-!
An attached device: its exclusivity lock, the lifecycle of its duplex pair, the source of its packet
formats, and the one substream that may be open on it.
-/

namespace DuplexAudio

/-- Supplies the packet formats at every open, and counts the queries it served. -/
structure FormatSource where
  formats : StreamFormats
  failing : Bool := false
  queries : Nat := 0
  deriving DecidableEq

/-- A PCM endpoint that holds the device, with what it may negotiate about. -/
structure PcmSubstream where
  id : SubstreamId
  constraints : Constraints
  state : SubstreamState := .opened
  params : Option StreamParams := none
  deriving DecidableEq

def PcmSubstream.direction (pcm : PcmSubstream) : Direction := pcm.constraints.direction

structure MidiSubstream where
  id : SubstreamId
  direction : Direction
  port : UInt8
  triggered : Bool := false
  deriving DecidableEq, Repr

inductive Substream
  | pcm (substream : PcmSubstream)
  | midi (substream : MidiSubstream)
  deriving DecidableEq

/-- `attached` says whether the handle of the device is still there; an open substream keeps the
device alive after it is gone. -/
structure Device where
  name : String
  lock : Lock := {}
  lifecycle : Lifecycle := {}
  source : FormatSource
  lastId : UInt32 := 0
  substream : Option Substream := none
  attached : Bool := true
  deriving DecidableEq

namespace Device

/-- Attaches a device to a fresh transport and the given clock. -/
def attach (name : String) (formats : StreamFormats) (clock : Clock) (drivesClock : Bool) :
    Device where
  name
  source := { formats }
  lifecycle := { hardware := { clock, drivesClock } }

def clock (device : Device) : Clock := device.lifecycle.hardware.clock

def transport (device : Device) : Transport := device.lifecycle.transport

def mapClock (device : Device) (change : Clock → Clock) : Device :=
  { device with lifecycle.hardware.clock := change device.clock }

def queryFormats (device : Device) : Except StreamFault StreamFormats × Device :=
  if device.source.failing then (.error .formatQueryFailed, device)
  else (.ok device.source.formats, { device with source.queries := device.source.queries + 1 })

def acquire (device : Device) : Except StreamFault Unit × Device :=
  match device.lock.acquire? with
  | none => (.error .busy, device)
  | some lock => (.ok (), { device with lock })

def release (device : Device) : Device := { device with lock := device.lock.release }

/-- Uses the lock for an opening; a failure gives it back. -/
def opening {α : Type} (device : Device) (toSubstream : α → Substream)
    (body : Device → Except StreamFault α × Device) : Except StreamFault α × Device :=
  match device.acquire with
  | (.error fault, device) => (.error fault, device)
  | (.ok (), device) =>
    match body device with
    | (.error fault, device) => (.error fault, device.release)
    | (.ok opened, device) => (.ok opened, { device with substream := some (toSubstream opened) })

def nextId (device : Device) : SubstreamId := ⟨device.lastId + 1⟩

/-- What a new PCM substream of a direction may ask for under the present clock. -/
def offer (device : Device) (formats : StreamFormats) (direction : Direction) :
    Except StreamFault Constraints := do
  let table := formats.forDirection direction
  let window ← table.window.mapError .ofOverflow
  if window.isEmpty then throw (.unsatisfiable window.rates window.channels)
  let rates ← device.clock.constrain window.rates device.transport.attachments.active
  return { direction, table, window := { window with rates } }

/-- Opens a PCM substream: lock, formats, window, clock policy, in this order. -/
def openPcm (device : Device) (direction : Direction) :
    Except StreamFault PcmSubstream × Device :=
  device.opening .pcm fun device =>
    match device.queryFormats with
    | (.error fault, device) => (.error fault, device)
    | (.ok formats, device) =>
      match device.offer formats direction with
      | .error fault => (.error fault, device)
      | .ok constraints =>
        (.ok { id := device.nextId, constraints }, { device with lastId := device.lastId + 1 })

/-- The rate at which a MIDI opener joins: that of the running pair, else that of the clock. -/
def joinRate (device : Device) : Except StreamFault UInt32 :=
  match device.lifecycle.state.committedRate with
  | some rate => .ok rate
  | none => device.clock.readRate.mapError .clockQueryFailed

def openMidi (device : Device) (direction : Direction) (port : UInt8) :
    Except StreamFault MidiSubstream × Device :=
  device.opening .midi fun device =>
    match device.queryFormats with
    | (.error fault, device) => (.error fault, device)
    | (.ok formats, device) =>
      if formats.availablePorts direction ≤ port.toUInt32 then
        (.error (.noSuchPort direction port), device)
      else match device.joinRate with
        | .error fault => (.error fault, device)
        | .ok rate =>
          match device.lifecycle.join rate with
          | (.error fault, lifecycle) => (.error fault, { device with lifecycle })
          | (.ok _, lifecycle) =>
            (.ok { id := device.nextId, direction, port },
              { device with lifecycle, lastId := device.lastId + 1 })

/-- While the pair runs, only its rate is on offer. -/
def runningRates (device : Device) : Interval :=
  match device.lifecycle.state.committedRate with
  | some rate => .single rate
  | none => .full

end Device
end DuplexAudio
