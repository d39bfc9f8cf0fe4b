import DuplexAudio.Mode.Formats

/-!
The MIDI ports of a device. MIDI rides on the duplex stream, so the mode tables tell how many ports
each direction has.
-/

namespace DuplexAudio

structure MidiPorts where
  capture : UInt32
  playback : UInt32
  deriving DecidableEq, Repr

/-- Ports are shown numbered from one. -/
def midiPortName (device : String) (port : UInt8) : String := s!"{device} MIDI {port.toNat + 1}"

namespace MidiPorts

/-- The port counts of both directions, or nothing for a device without MIDI. -/
def ofFormats? (formats : StreamFormats) : Option MidiPorts :=
  let ports : MidiPorts :=
    { capture := formats.midiPorts .capture, playback := formats.midiPorts .playback }
  if ports.capture.toNat + ports.playback.toNat = 0 then none else some ports

def count (ports : MidiPorts) : Direction → UInt32
  | .capture => ports.capture
  | .playback => ports.playback

/-- The names of the ports in one direction; a port that one byte cannot address has none. -/
def portNames (ports : MidiPorts) (device : String) (direction : Direction) : List String :=
  (List.range (min (ports.count direction).toNat 256)).map fun port =>
    midiPortName device (UInt8.ofNat port)

end MidiPorts

/-- How many MIDI ports the formats offer in a direction. -/
def StreamFormats.availablePorts (formats : StreamFormats) (direction : Direction) : UInt32 :=
  match MidiPorts.ofFormats? formats with
  | some ports => ports.count direction
  | none => 0

end DuplexAudio
