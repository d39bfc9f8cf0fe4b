import DuplexAudio.Device.Basic
import DuplexAudio.Text.Quoted

/-!
One-line accounts of devices, substreams and transport events, for people who follow a session.
-/

namespace DuplexAudio.Describe

/-- A name with its fields in braces, or alone if it has none. -/
def record (name : String) (fields : List (String × String)) : String :=
  if fields.isEmpty then name
  else
    let listed := fields.map fun (key, value) => key ++ ": " ++ value
    name ++ " \x7b " ++ String.intercalate ", " listed ++ " \x7d"

def boolean (value : Bool) : String := if value then "true" else "false"

def option {α : Type} (describe : α → String) : Option α → String
  | some value => "Some(" ++ describe value ++ ")"
  | none => "None"

def direction : Direction → String
  | .capture => "Capture"
  | .playback => "Playback"

def substreamId (id : SubstreamId) : String := s!"SubstreamId({id.number})"

def params (params : StreamParams) : String :=
  record "HwParams" [("rate", toString params.rate), ("channels", toString params.channels)]

def streamState (state : StreamState) : String :=
  record "DuplexStreamState" [
    ("active_substream_count", toString state.activeSubstreams),
    ("running", boolean state.running),
    ("committed_rate", option toString state.committedRate)]

def device (device : Device) : String :=
  record "Device" [
    ("name", Text.quote device.name), ("state", streamState device.lifecycle.state),
    ("locked", boolean device.lock.held)]

def pcm (pcm : PcmSubstream) : String :=
  record "PcmSubstream" [
    ("id", substreamId pcm.id), ("direction", direction pcm.direction), ("state", pcm.state.name),
    ("params", option params pcm.params)]

def event : TransportEvent → String
  | .started rate => record "Started" [("rate", toString rate)]
  | .startFailed rate => record "StartFailed" [("rate", toString rate)]
  | .stopped => record "Stopped" []
  | .pcmAttached target substream =>
    record "PcmAttached" [
      ("direction", direction target), ("substream", option substreamId substream)]
  | .midiAttached target port substream =>
    record "MidiAttached" [
      ("direction", direction target), ("port", toString port),
      ("substream", option substreamId substream)]

end DuplexAudio.Describe
