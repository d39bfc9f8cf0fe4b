import DuplexAudio.Device.Describe
import DuplexAudio.Device.Pcm

/-!
Sessions: every request that reaches a device, its substream, its clock, its formats or the
transport below it, with the answer and the device afterwards.
-/

namespace DuplexAudio.Device

inductive Request
  | lifecycle (action : Lifecycle.Action)
  | transport (action : Lifecycle.TransportAction)
  | attachedMidi (direction : Direction) (port : UInt8)
  | openPcm (direction : Direction)
  | openMidi (direction : Direction) (port : UInt8)
  | refine (rates channels : Interval)
  | commit (rate channels : UInt32)
  | free
  | prepare
  | trigger (command : TriggerCommand)
  | triggerCode (code : Int)
  | triggerMidi (up : Bool)
  | close
  | drop
  | clockSource (source : ClockSource)
  | clockRate (rate : UInt32)
  | clockUnreachable (on : Bool)
  | formatsFail (on : Bool)
  | replaceFormats (formats : StreamFormats)
  | queryFormats
  | describe
  | detach
  deriving DecidableEq

inductive Reply
  | done
  | flag (value : Bool)
  | opened (window : CapabilityWindow)
  | negotiated (result : Negotiated)
  | committed (params : Option StreamParams)
  | lifecycle (answer : Lifecycle.Answer)
  | attached (lifecycle transport : Option SubstreamId)
  | formats (formats : StreamFormats)
  | described (device : String) (substream : Option String)
  | fault (fault : StreamFault)
  | noDevice
  | noSubstream
  deriving DecidableEq

def Reply.ofResult {α : Type} (ofValue : α → Reply) : Except StreamFault α → Reply
  | .ok value => ofValue value
  | .error cause => .fault cause

def openPcmSubstream? (device : Device) : Option PcmSubstream :=
  match device.substream with
  | some (.pcm pcm) => some pcm
  | _ => none

/-- Answers a request that needs the handle of the device. -/
def withHandle (device : Device) (answer : Device → Reply × Device) : Reply × Device :=
  if device.attached then answer device else (.noDevice, device)

/-- Answers a request that needs an open PCM substream. -/
def withPcm (device : Device) (answer : Device → PcmSubstream → Reply × Device) : Reply × Device :=
  match device.openPcmSubstream? with
  | some pcm => answer device pcm
  | none => (.noSubstream, device)

def step (device : Device) : Request → Reply × Device
  | .lifecycle action => device.withHandle fun device =>
    let (answer, lifecycle) := device.lifecycle.step action
    (.lifecycle answer, { device with lifecycle })
  | .transport action =>
    let (answer, lifecycle) := device.lifecycle.stepTransport action
    (.lifecycle answer, { device with lifecycle })
  | .attachedMidi direction port =>
    (.attached (if device.attached then device.lifecycle.slots.midi? direction port else none)
      (device.transport.attachments.midi? direction port), device)
  | .openPcm direction => device.withHandle fun device =>
    let (result, device) := device.openPcm direction
    (.ofResult (fun pcm => .opened pcm.constraints.window) result, device)
  | .openMidi direction port => device.withHandle fun device =>
    let (result, device) := device.openMidi direction port
    (.ofResult (fun _ => .done) result, device)
  | .refine rates channels => device.withPcm fun device pcm =>
    (.ofResult .negotiated (device.refine pcm rates channels), device)
  | .commit rate channels => device.withPcm fun device pcm =>
    let (result, device) := device.commit pcm rate channels
    (.ofResult (fun pcm => .committed pcm.params) result, device)
  | .free => device.withPcm fun device pcm =>
    let (result, device) := device.free pcm
    (.ofResult (fun _ => .done) result, device)
  | .prepare => device.withPcm fun device pcm =>
    let (result, device) := device.prepare pcm
    (.ofResult (fun _ => .done) result, device)
  | .trigger command => device.withPcm fun device pcm =>
    let (result, device) := device.trigger pcm command
    (.ofResult (fun _ => .done) result, device)
  | .triggerCode code => device.withPcm fun device pcm =>
    let (result, device) := device.triggerCode pcm code
    (.ofResult (fun _ => .done) result, device)
  | .triggerMidi up =>
    match device.substream with
    | some (.midi midi) => (.done, device.triggerMidi midi up)
    | _ => (.noSubstream, device)
  | .close =>
    match device.substream with
    | some substream => (.done, device.close substream)
    | none => (.noSubstream, device)
  | .drop =>
    match device.substream with
    | some substream => (.flag true, device.close substream)
    | none => (.flag false, device)
  | .clockSource source => (.done, device.mapClock fun clock => { clock with source })
  | .clockRate rate => (.done, device.mapClock fun clock => { clock with rate })
  | .clockUnreachable on => (.done, device.mapClock fun clock => { clock with unreachable := on })
  | .formatsFail on => (.done, { device with source.failing := on })
  | .replaceFormats formats => (.done, { device with source.formats := formats })
  | .queryFormats => device.withHandle fun device =>
    let (result, device) := device.queryFormats
    (.ofResult .formats result, device)
  | .describe => device.withHandle fun device =>
    (.described (Describe.device device) (device.openPcmSubstream?.map Describe.pcm), device)
  | .detach => device.withHandle fun device => (.done, device.detach)

def run (device : Device) (requests : List Request) : Device :=
  requests.foldl (fun current request => (current.step request).2) device

end DuplexAudio.Device
