import DuplexAudio.Interval.Basic
import DuplexAudio.Mode.Table

/-!
The refinement rules. Each one is the hull of the rates or of the channel counts of those operating
points that an interval lets through, so it does not depend on the order of the points.
-/

namespace DuplexAudio

/-- A rate together with the channel count of the mode that lists it. -/
structure OperatingPoint where
  rate : UInt32
  channels : UInt32
  deriving DecidableEq, Repr

namespace OperatingPoint

def ofPair (pair : OperatingMode × UInt32) : Except ChannelOverflow OperatingPoint :=
  pair.1.channels.map fun channels => { rate := pair.2, channels }

def rateHull (points : List OperatingPoint) (channels : Interval) : Interval :=
  Interval.hull ((points.filter (·.channels ∈ channels)).map (·.rate))

def channelHull (points : List OperatingPoint) (rates : Interval) : Interval :=
  Interval.hull ((points.filter (·.rate ∈ rates)).map (·.channels))

/-- The rates in `rates` of the points that have channels at all. -/
def legalHull (points : List OperatingPoint) (rates : Interval) : Interval :=
  Interval.hull ((points.filter fun point => 0 < point.channels ∧ point.rate ∈ rates).map (·.rate))

end OperatingPoint

namespace ModeTable

open OperatingPoint

/-- Every rate of the table with its channel count, in table order. A mode without rates is not
counted, so it cannot overflow here. -/
def points (table : ModeTable) : Except ChannelOverflow (List OperatingPoint) :=
  table.pairs.mapM ofPair

def ratesGivenChannels (table : ModeTable) (channels : Interval) :
    Except ChannelOverflow Interval :=
  table.points.map (rateHull · channels)

/-- The tightest channel interval compatible with `rates`; only modes with a rate inside are
counted. -/
def channelsGivenRates (table : ModeTable) (rates : Interval) : Except ChannelOverflow Interval :=
  ((table.pairs.filter (·.2 ∈ rates)).mapM ofPair).map (channelHull · rates)

/-- `rates` drawn in to the outermost rates inside it that enabled modes list. -/
def legalRates (table : ModeTable) (rates : Interval) : Except ChannelOverflow Interval :=
  table.points.map (legalHull · rates)

/-- Whether `rate` may be requested at all: the mode that lists it is enabled. -/
def isLegalRate (table : ModeTable) (rate : UInt32) : Except ChannelOverflow Bool :=
  match table.modeForRate? rate with
  | none => .ok false
  | some mode => mode.isEnabled

end ModeTable
end DuplexAudio
