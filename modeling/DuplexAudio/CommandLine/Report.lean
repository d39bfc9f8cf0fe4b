import DuplexAudio.Device.Describe
import DuplexAudio.Document.Records
import DuplexAudio.Json.Printer
import DuplexAudio.Simulation

/-!
The lines that the program prints about windows, negotiations and simulations.
-/

namespace DuplexAudio.CommandLine

/-- Every line ends with a line feed, also the last one. -/
def ofLines (lines : List String) : String := String.join (lines.map (· ++ "\n"))

def jsonLines {α : Type} (schema : Schema α) (value : α) : List String :=
  [Json.pretty (schema.write value)]

/-- The window of one direction of a profile, and the names of its MIDI ports. -/
def windowLines (profile : DeviceProfile) (direction : Direction) (window : CapabilityWindow) :
    List String :=
  let listed := String.intercalate ", "
  let midi := match MidiPorts.ofFormats? profile.formats with
    | some ports => ["  midi      " ++ listed (ports.portNames profile.name direction)]
    | none => []
  [profile.name ++ " " ++ direction.display,
   "  rates     " ++ window.rates.display,
   "  channels  " ++ window.channels.display,
   "  legal     " ++ listed (window.rateMask.standardRates.map toString)] ++ midi

def negotiatedLine (result : Negotiated) : String :=
  s!"rates {result.rates.display} channels {result.channels.display} ({result.rounds} rounds)"

def remarkLines : Simulation.Remark → List String
  | .openedCapture window =>
    [s!"opened capture: rates {window.rates.display} channels {window.channels.display}"]
  | .committed params => [s!"committed {params.rate} Hz, {params.channels} channels"]
  | .secondOpener .busy => ["second opener while capture runs: busy"]
  | .secondOpener fault => ["second opener failed: " ++ fault.message]
  | .openedPlayback name => ["opened " ++ name]
  | .journal events => "transport events:" :: events.map fun event => "  " ++ Describe.event event
  | .final state starts stops =>
    ["final: running=" ++ Describe.boolean state.running ++
      s!" substreams={state.activeSubstreams} starts={starts} stops={stops}"]

end DuplexAudio.CommandLine
