import DuplexAudio.Clock
import DuplexAudio.Direction
import DuplexAudio.Interval.Basic
import DuplexAudio.Mode.Basic
import DuplexAudio.Substream

/-!
Why an operation on a device or a stream fails, and the wording of each cause.
-/

namespace DuplexAudio

/-- A substream operation that its state does not allow. -/
inductive StateFault
  | paramsWhileRunning
  | freeWhileRunning
  | prepareIn (state : SubstreamState)
  | startIn (state : SubstreamState)
  | ratePinned (running committed : UInt32)
  deriving DecidableEq, Repr

def StateFault.message : StateFault → String
  | .paramsWhileRunning => "hw_params while running"
  | .freeWhileRunning => "hw_free while running"
  | .prepareIn state => s!"prepare in state {state.name}"
  | .startIn state => s!"start in state {state.name}"
  | .ratePinned running committed =>
    s!"duplex stream runs at {running} Hz, substream committed {committed} Hz"

inductive StreamFault
  | busy
  | unsatisfiable (rate channels : Interval)
  | clockQueryFailed (fault : ClockFault)
  | startFailed (rate : UInt32) (reason : String)
  | formatQueryFailed
  | invalidTrigger (code : Int)
  | noSuchPort (direction : Direction) (port : UInt8)
  | invalidState (fault : StateFault)
  | channelOverflow
  deriving DecidableEq, Repr

def StreamFault.message : StreamFault → String
  | .busy => "Device busy: configuration is held by another opener"
  | .unsatisfiable rate channels =>
    s!"Unsatisfiable parameters: rate {rate.display}, channels {channels.display}"
  | .clockQueryFailed fault => s!"Clock query failed: {fault.message}"
  | .startFailed rate reason =>
    s!"Transport error: Failed to start duplex stream at {rate} Hz: {reason}"
  | .formatQueryFailed =>
    "Format query failed: Packet format query failed: simulated format read failure"
  | .invalidTrigger code => s!"Invalid trigger command: {code}"
  | .noSuchPort direction port => s!"No MIDI {direction.display} port {port}"
  | .invalidState fault => s!"Invalid state: {fault.message}"
  | .channelOverflow => ChannelOverflow.message

def StreamFault.ofOverflow (_ : ChannelOverflow) : StreamFault := .channelOverflow

end DuplexAudio
