import DuplexAudio.Mode.Formats

/-!
Device profiles, the application settings and the main configuration, with the built-in ones.
-/

namespace DuplexAudio

/-- The capabilities of one device model. -/
structure DeviceProfile where
  name : String
  formats : StreamFormats
  deriving DecidableEq, Inhabited

namespace DeviceProfile

/-- A three-mode interface whose low and middle modes have more channels. -/
def factory : DeviceProfile where
  name := "FireWire Interface"
  formats := {
    transmit := (ModeTable.ofClockRates (10, 8) (10, 4) (6, 0)).withMidiPorts 1
    receive := (ModeTable.ofClockRates (8, 8) (8, 4) (4, 0)).withMidiPorts 1 }

/-- A stereo interface without MIDI and without a high-rate mode. -/
def stereo : DeviceProfile where
  name := "Stereo Interface"
  formats := {
    transmit := ModeTable.ofClockRates (2, 0) (2, 2) (0, 0)
    receive := ModeTable.ofClockRates (2, 0) (2, 0) (0, 0) }

end DeviceProfile

/-- Where profiles are kept, and which one is used when none is asked for. -/
structure AppSettings where
  profileDir : String
  defaultProfile : Option String := none
  deriving DecidableEq, Repr, Inhabited

structure Configuration where
  app : AppSettings
  device : DeviceProfile
  deriving DecidableEq, Inhabited

def Configuration.factory : Configuration where
  app := { profileDir := "profiles" }
  device := .factory

end DuplexAudio
