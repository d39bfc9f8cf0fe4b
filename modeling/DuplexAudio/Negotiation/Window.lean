import DuplexAudio.Negotiation.Rules
import DuplexAudio.RateMask

/-!
The capability window of a mode table: what a substream may ask for before any refinement.
-/

namespace DuplexAudio

structure CapabilityWindow where
  rates : Interval
  channels : Interval
  rateMask : RateMask
  deriving DecidableEq, Repr

/-- No enabled mode contributed anything. -/
def CapabilityWindow.isEmpty (window : CapabilityWindow) : Bool :=
  window.rates.isEmpty || window.channels.isEmpty

namespace ModeTable

def rateMask (table : ModeTable) : Except ChannelOverflow RateMask :=
  ((table.pairs.map (·.2)).filterM table.isLegalRate).map RateMask.ofRates

/-- The hulls of the rates and channel counts of the enabled modes. -/
def window (table : ModeTable) : Except ChannelOverflow CapabilityWindow := do
  let enabled := (← table.points).filter (0 < ·.channels)
  let rateMask ← table.rateMask
  return {
    rates := Interval.hull (enabled.map (·.rate))
    channels := Interval.hull (enabled.map (·.channels))
    rateMask }

end ModeTable
end DuplexAudio
