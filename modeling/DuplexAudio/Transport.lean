import DuplexAudio.Direction
import DuplexAudio.Fault

/-!
The packet transport of the duplex pair. It keeps the rate it runs at and what is attached to it,
and writes every request into a journal of events, from which its state can be replayed.
-/

namespace DuplexAudio

/-- A MIDI port of the stream with the substream attached to it. -/
structure MidiAttachment where
  direction : Direction
  port : UInt8
  substream : SubstreamId
  deriving DecidableEq, Repr

/-- What is attached to a stream: at most one substream for each direction and each MIDI port. -/
structure Attachments where
  pcm : PerDirection (Option SubstreamId) := .both none
  midi : List MidiAttachment := []
  deriving DecidableEq, Repr

namespace Attachments

def attachPcm (attachments : Attachments) (direction : Direction)
    (substream : Option SubstreamId) : Attachments :=
  { attachments with pcm := attachments.pcm.set direction substream }

def attachMidi (attachments : Attachments) (direction : Direction) (port : UInt8)
    (substream : Option SubstreamId) : Attachments :=
  let others := attachments.midi.filter fun entry =>
    !(entry.direction == direction && entry.port == port)
  { attachments with midi := others ++ (substream.map (⟨direction, port, ·⟩)).toList }

def midi? (attachments : Attachments) (direction : Direction) (port : UInt8) :
    Option SubstreamId :=
  (attachments.midi.find? fun entry => entry.direction == direction && entry.port == port).map
    (·.substream)

/-- Samples flow in a direction while a PCM substream is attached there. -/
def active (attachments : Attachments) : PerDirection Bool :=
  ⟨attachments.pcm.capture.isSome, attachments.pcm.playback.isSome⟩

end Attachments

inductive TransportEvent
  | started (rate : UInt32)
  | startFailed (rate : UInt32)
  | stopped
  | pcmAttached (direction : Direction) (substream : Option SubstreamId)
  | midiAttached (direction : Direction) (port : UInt8) (substream : Option SubstreamId)
  deriving DecidableEq, Repr

structure Transport where
  rate : Option UInt32 := none
  attachments : Attachments := {}
  failNext : Option String := none
  starts : Nat := 0
  stops : Nat := 0
  events : List TransportEvent := []
  deriving DecidableEq, Repr

namespace Transport

def publish (transport : Transport) (event : TransportEvent) : Transport :=
  { transport with events := transport.events ++ [event] }

/-- Makes the next start fail with `reason`. -/
def failNextStart (transport : Transport) (reason : String) : Transport :=
  { transport with failNext := some reason }

/-- Brings up both directions, unless a failure was injected since the last attempt. -/
def start (transport : Transport) (rate : UInt32) : Except StreamFault Unit × Transport :=
  match transport.failNext with
  | some reason =>
    (.error (.startFailed rate reason),
      { transport with failNext := none }.publish (.startFailed rate))
  | none =>
    (.ok (),
      { transport with rate := some rate, starts := transport.starts + 1 }.publish (.started rate))

/-- Tears down both directions together with everything attached to them. -/
def stop (transport : Transport) : Transport :=
  { transport with rate := none, attachments := {}, stops := transport.stops + 1 }.publish .stopped

def attachPcm (transport : Transport) (direction : Direction) (substream : Option SubstreamId) :
    Transport :=
  { transport with attachments := transport.attachments.attachPcm direction substream }.publish
    (.pcmAttached direction substream)

def attachMidi (transport : Transport) (direction : Direction) (port : UInt8)
    (substream : Option SubstreamId) : Transport :=
  let attachments := transport.attachments.attachMidi direction port substream
  { transport with attachments }.publish (.midiAttached direction port substream)

/-- The events since they were last taken, oldest first. -/
def takeEvents (transport : Transport) : List TransportEvent × Transport :=
  (transport.events, { transport with events := [] })

end Transport

/-- What the journal alone tells about a transport. -/
structure Replayed where
  rate : Option UInt32 := none
  attachments : Attachments := {}
  deriving DecidableEq, Repr

namespace Replayed

def apply (replayed : Replayed) : TransportEvent → Replayed
  | .started rate => { replayed with rate := some rate }
  | .startFailed _ => replayed
  | .stopped => {}
  | .pcmAttached direction substream =>
    { replayed with attachments := replayed.attachments.attachPcm direction substream }
  | .midiAttached direction port substream =>
    { replayed with attachments := replayed.attachments.attachMidi direction port substream }

def ofEvents (events : List TransportEvent) : Replayed := events.foldl apply {}

end Replayed

/-- The transport with the clock it may drive to the rate of every successful start. -/
structure Hardware where
  transport : Transport := {}
  clock : Clock := {}
  drivesClock : Bool := false
  deriving DecidableEq, Repr

namespace Hardware

def mapTransport (hardware : Hardware) (change : Transport → Transport) : Hardware :=
  { hardware with transport := change hardware.transport }

def start (hardware : Hardware) (rate : UInt32) : Except StreamFault Unit × Hardware :=
  match hardware.transport.start rate with
  | (.error fault, transport) => (.error fault, { hardware with transport })
  | (.ok (), transport) =>
    (.ok (),
      { hardware with
        transport
        clock := if hardware.drivesClock then { hardware.clock with rate } else hardware.clock })

end Hardware
end DuplexAudio
