import DuplexAudio.Fault

/-!
The clock policy. The rate of a duplex stream belongs to the whole device: when the clock is
external, or samples already flow, an opener has to take the rate that is running.
-/

namespace DuplexAudio.Clock

/-- Leaves `window` alone only for the internal clock with both directions idle; otherwise pins it
to the clock's rate. -/
def pin (clock : Clock) (window : Interval) (source : ClockSource) (active : PerDirection Bool) :
    Except StreamFault Interval :=
  if source.isInternal && !active.capture && !active.playback then .ok window
  else (clock.readRate.map .single).mapError .clockQueryFailed

/-- Reads the source and applies the policy to it. -/
def constrain (clock : Clock) (window : Interval) (active : PerDirection Bool) :
    Except StreamFault Interval :=
  match clock.readSource with
  | .error fault => .error (.clockQueryFailed fault)
  | .ok source => clock.pin window source active

end DuplexAudio.Clock
