import DuplexAudio.Document.Reader
import DuplexAudio.Lifecycle
import DuplexAudio.Midi
import DuplexAudio.Negotiation.Constraints
import DuplexAudio.Profile

/-!
The written form of every value that is saved or exchanged: how it becomes a document, and how it is
read back from one.
-/

namespace DuplexAudio

/-- How values of one type are written to documents and read from them. -/
structure Schema (α : Type) where
  write : α → Document
  read : Dialect → Document.Reader α

open Document

namespace Interval

structure Draft where
  lower : Option UInt32 := none
  upper : Option UInt32 := none
  integer : Option Bool := none

def fields : List (RecordField Draft) :=
  [{ name := "min"
     store := fun draft value => do return { draft with lower := ← readWord value } },
   { name := "max"
     store := fun draft value => do return { draft with upper := ← readWord value } },
   { name := "integer", hasDefault := true
     store := fun draft value => do return { draft with integer := ← readBoolean value } }]

def Draft.complete (draft : Draft) : Except ReadFault Interval := do
  let lower ← required "min" draft.lower
  let upper ← required "max" draft.upper
  return { lower, upper, integer := draft.integer.getD true }

def schema : Schema Interval where
  write interval := record
    [("min", word interval.lower), ("max", word interval.upper),
     ("integer", .boolean interval.integer)]
  read dialect := readRecord dialect fields {} Draft.complete

end Interval

def RateMask.schema : Schema RateMask where
  write mask := word mask.bits
  read _ document := (readWord document).map RateMask.mk

def SubstreamId.schema : Schema SubstreamId where
  write id := word id.number
  read _ document := (readWord document).map SubstreamId.mk

def Direction.ofName? (name : String) : Option Direction := Direction.all.find? (·.display == name)

def Direction.schema : Schema Direction where
  write direction := .text direction.display
  read dialect := readChoice dialect Direction.ofName?

def ClockSource.schema : Schema ClockSource where
  write source := .text source.name
  read dialect := readChoice dialect ClockSource.ofName?

namespace CapabilityWindow

structure Draft where
  rates : Option Interval := none
  channels : Option Interval := none
  rateMask : Option RateMask := none

def fields (dialect : Dialect) : List (RecordField Draft) :=
  [{ name := "rates"
     store := fun draft value => do
      return { draft with rates := ← Interval.schema.read dialect value } },
   { name := "channels"
     store := fun draft value => do
      return { draft with channels := ← Interval.schema.read dialect value } },
   { name := "rate_mask"
     store := fun draft value => do
      return { draft with rateMask := ← RateMask.schema.read dialect value } }]

def Draft.complete (draft : Draft) : Except ReadFault CapabilityWindow := do
  let rates ← required "rates" draft.rates
  let channels ← required "channels" draft.channels
  let rateMask ← required "rate_mask" draft.rateMask
  return { rates, channels, rateMask }

def schema : Schema CapabilityWindow where
  write window := record
    [("rates", Interval.schema.write window.rates),
     ("channels", Interval.schema.write window.channels),
     ("rate_mask", RateMask.schema.write window.rateMask)]
  read dialect := readRecord dialect (fields dialect) {} Draft.complete

end CapabilityWindow

namespace Negotiated

structure Draft where
  rates : Option Interval := none
  channels : Option Interval := none
  rounds : Option Nat := none

def fields (dialect : Dialect) : List (RecordField Draft) :=
  [{ name := "rates"
     store := fun draft value => do
      return { draft with rates := ← Interval.schema.read dialect value } },
   { name := "channels"
     store := fun draft value => do
      return { draft with channels := ← Interval.schema.read dialect value } },
   { name := "rounds"
     store := fun draft value => do
      return { draft with rounds := ← readNatural UInt64.size value } }]

def Draft.complete (draft : Draft) : Except ReadFault Negotiated := do
  let rates ← required "rates" draft.rates
  let channels ← required "channels" draft.channels
  let rounds ← required "rounds" draft.rounds
  return { rates, channels, rounds }

def schema : Schema Negotiated where
  write result := record
    [("rates", Interval.schema.write result.rates),
     ("channels", Interval.schema.write result.channels),
     ("rounds", .integer result.rounds)]
  read dialect := readRecord dialect (fields dialect) {} Draft.complete

end Negotiated

namespace StreamParams

structure Draft where
  rate : Option UInt32 := none
  channels : Option UInt32 := none

def fields : List (RecordField Draft) :=
  [{ name := "rate"
     store := fun draft value => do return { draft with rate := ← readWord value } },
   { name := "channels"
     store := fun draft value => do return { draft with channels := ← readWord value } }]

def Draft.complete (draft : Draft) : Except ReadFault StreamParams := do
  let rate ← required "rate" draft.rate
  let channels ← required "channels" draft.channels
  return { rate, channels }

def schema : Schema StreamParams where
  write params := record [("rate", word params.rate), ("channels", word params.channels)]
  read dialect := readRecord dialect fields {} Draft.complete

end StreamParams

namespace StreamState

structure Draft where
  activeSubstreams : Option UInt32 := none
  running : Option Bool := none
  committedRate : Option UInt32 := none

def fields : List (RecordField Draft) :=
  [{ name := "active_substream_count"
     store := fun draft value => do return { draft with activeSubstreams := ← readWord value } },
   { name := "running"
     store := fun draft value => do return { draft with running := ← readBoolean value } },
   { name := "committed_rate"
     store := fun draft value => do
      return { draft with committedRate := ← readNullable readWord value } }]

def Draft.complete (draft : Draft) : Except ReadFault StreamState := do
  let activeSubstreams ← required "active_substream_count" draft.activeSubstreams
  let running ← required "running" draft.running
  return { activeSubstreams, running, committedRate := draft.committedRate }

def schema : Schema StreamState where
  write state := record
    [("active_substream_count", word state.activeSubstreams),
     ("running", .boolean state.running),
     ("committed_rate", (state.committedRate.map word).getD .null)]
  read dialect := readRecord dialect fields {} Draft.complete

end StreamState

namespace MidiPorts

structure Draft where
  capture : Option UInt32 := none
  playback : Option UInt32 := none

def fields : List (RecordField Draft) :=
  [{ name := "capture"
     store := fun draft value => do return { draft with capture := ← readWord value } },
   { name := "playback"
     store := fun draft value => do return { draft with playback := ← readWord value } }]

def Draft.complete (draft : Draft) : Except ReadFault MidiPorts := do
  let capture ← required "capture" draft.capture
  let playback ← required "playback" draft.playback
  return { capture, playback }

def schema : Schema MidiPorts where
  write ports := record [("capture", word ports.capture), ("playback", word ports.playback)]
  read dialect := readRecord dialect fields {} Draft.complete

end MidiPorts

namespace OperatingMode

structure Draft where
  fixedChannels : Option UInt32 := none
  variableChannels : Option UInt32 := none
  rates : Option (List UInt32) := none
  midiPorts : Option UInt32 := none

def fields : List (RecordField Draft) :=
  [{ name := "fixed_channels"
     store := fun draft value => do return { draft with fixedChannels := ← readWord value } },
   { name := "variable_channels", hasDefault := true
     store := fun draft value => do return { draft with variableChannels := ← readWord value } },
   { name := "rates"
     store := fun draft value => do return { draft with rates := ← readList readWord value } },
   { name := "midi_ports", hasDefault := true
     store := fun draft value => do return { draft with midiPorts := ← readWord value } }]

def Draft.complete (draft : Draft) : Except ReadFault OperatingMode := do
  let fixedChannels ← required "fixed_channels" draft.fixedChannels
  let rates ← required "rates" draft.rates
  return {
    fixedChannels
    variableChannels := draft.variableChannels.getD 0
    rates
    midiPorts := draft.midiPorts.getD 0 }

/-- A mode by itself is not checked; only a table of modes is. -/
def schema : Schema OperatingMode where
  write mode := record
    [("fixed_channels", word mode.fixedChannels),
     ("variable_channels", word mode.variableChannels),
     ("rates", .sequence (mode.rates.map word)),
     ("midi_ports", word mode.midiPorts)]
  read dialect := readRecord dialect fields {} Draft.complete

end OperatingMode

/-- The modes are checked as soon as all of them are read. -/
def ModeTable.schema : Schema ModeTable where
  write table := .sequence (table.modes.map OperatingMode.schema.write)
  read dialect document := do
    let modes ← readList (OperatingMode.schema.read dialect) document
    (ModeTable.ofModes? modes).mapError .invalidTable

namespace StreamFormats

structure Draft where
  transmit : Option ModeTable := none
  receive : Option ModeTable := none

def fields (dialect : Dialect) : List (RecordField Draft) :=
  [{ name := "tx"
     store := fun draft value => do
      return { draft with transmit := ← ModeTable.schema.read dialect value } },
   { name := "rx"
     store := fun draft value => do
      return { draft with receive := ← ModeTable.schema.read dialect value } }]

def Draft.complete (draft : Draft) : Except ReadFault StreamFormats := do
  let transmit ← required "tx" draft.transmit
  let receive ← required "rx" draft.receive
  return { transmit, receive }

def schema : Schema StreamFormats where
  write formats := record
    [("tx", ModeTable.schema.write formats.transmit),
     ("rx", ModeTable.schema.write formats.receive)]
  read dialect := readRecord dialect (fields dialect) {} Draft.complete

end StreamFormats

namespace DeviceProfile

structure Draft where
  name : Option String := none
  formats : Option StreamFormats := none

def fields (dialect : Dialect) : List (RecordField Draft) :=
  [{ name := "name"
     store := fun draft value => do return { draft with name := ← readText value } },
   { name := "formats"
     store := fun draft value => do
      return { draft with formats := ← StreamFormats.schema.read dialect value } }]

def Draft.complete (draft : Draft) : Except ReadFault DeviceProfile := do
  let name ← required "name" draft.name
  let formats ← required "formats" draft.formats
  return { name, formats }

def schema : Schema DeviceProfile where
  write profile := record
    [("name", .text profile.name), ("formats", StreamFormats.schema.write profile.formats)]
  read dialect := readRecord dialect (fields dialect) {} Draft.complete

end DeviceProfile

namespace AppSettings

structure Draft where
  profileDir : Option String := none
  defaultProfile : Option String := none

def fields : List (RecordField Draft) :=
  [{ name := "profile_dir"
     store := fun draft value => do return { draft with profileDir := ← readText value } },
   { name := "default_profile", hasDefault := true
     store := fun draft value => do
      return { draft with defaultProfile := ← readNullable readText value } }]

def Draft.complete (draft : Draft) : Except ReadFault AppSettings := do
  let profileDir ← required "profile_dir" draft.profileDir
  return { profileDir, defaultProfile := draft.defaultProfile }

def schema : Schema AppSettings where
  write app := record
    [("profile_dir", .text app.profileDir),
     ("default_profile", (app.defaultProfile.map .text).getD .null)]
  read dialect := readRecord dialect fields {} Draft.complete

end AppSettings

namespace Configuration

structure Draft where
  app : Option AppSettings := none
  device : Option DeviceProfile := none

def fields (dialect : Dialect) : List (RecordField Draft) :=
  [{ name := "app"
     store := fun draft value => do
      return { draft with app := ← AppSettings.schema.read dialect value } },
   { name := "device"
     store := fun draft value => do
      return { draft with device := ← DeviceProfile.schema.read dialect value } }]

def Draft.complete (draft : Draft) : Except ReadFault Configuration := do
  let app ← required "app" draft.app
  let device ← required "device" draft.device
  return { app, device }

def schema : Schema Configuration where
  write configuration := record
    [("app", AppSettings.schema.write configuration.app),
     ("device", DeviceProfile.schema.write configuration.device)]
  read dialect := readRecord dialect (fields dialect) {} Draft.complete

end Configuration
end DuplexAudio
