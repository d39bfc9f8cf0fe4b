import DuplexAudio.Direction
import DuplexAudio.Mode.Table

/-!
The packet formats of a device: one mode table for what it transmits and one for what it receives.
-/

namespace DuplexAudio

structure StreamFormats where
  transmit : ModeTable
  receive : ModeTable
  deriving DecidableEq, Inhabited

namespace StreamFormats

/-- The host captures what the device transmits. -/
def forDirection (formats : StreamFormats) : Direction → ModeTable
  | .capture => formats.transmit
  | .playback => formats.receive

def midiPorts (formats : StreamFormats) (direction : Direction) : UInt32 :=
  (formats.forDirection direction).midiPorts

end StreamFormats
end DuplexAudio
