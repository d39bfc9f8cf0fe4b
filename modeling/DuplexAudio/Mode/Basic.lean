/-!
Operating modes. A device groups its sample rates into a few modes; each contributes a fixed number
of channels and some more that exist in that mode alone.
-/

namespace DuplexAudio

structure OperatingMode where
  fixedChannels : UInt32
  variableChannels : UInt32 := 0
  rates : List UInt32
  midiPorts : UInt32 := 0
  deriving DecidableEq, Repr, Inhabited

/-- The channels of a mode do not fit the 32-bit channel counter. -/
structure ChannelOverflow where
  deriving DecidableEq, Repr

def ChannelOverflow.message : String := "attempt to add with overflow"

namespace OperatingMode

/-- Fixed and variable channels together, or an overflow of the channel counter. -/
def channels (mode : OperatingMode) : Except ChannelOverflow UInt32 :=
  if mode.fixedChannels.toNat + mode.variableChannels.toNat < UInt32.size then
    .ok (mode.fixedChannels + mode.variableChannels)
  else .error {}

/-- A mode without channels is disabled. -/
def isEnabled (mode : OperatingMode) : Except ChannelOverflow Bool :=
  mode.channels.map (0 < ·)

def supportsRate (mode : OperatingMode) (rate : UInt32) : Bool := mode.rates.contains rate

/-- Ports are addressed by one byte. -/
def maxMidiPorts : UInt32 := 255

structure WellFormed (mode : OperatingMode) : Prop where
  ascending : mode.rates.Pairwise (· < ·)
  zero_not_mem : 0 ∉ mode.rates
  midiPorts_le : mode.midiPorts ≤ maxMidiPorts

theorem wellFormed_iff {mode : OperatingMode} :
    mode.WellFormed ↔
      mode.rates.Pairwise (· < ·) ∧ 0 ∉ mode.rates ∧ mode.midiPorts ≤ maxMidiPorts :=
  ⟨fun h => ⟨h.ascending, h.zero_not_mem, h.midiPorts_le⟩, fun ⟨a, b, c⟩ => ⟨a, b, c⟩⟩

instance (mode : OperatingMode) : Decidable mode.WellFormed :=
  decidable_of_iff _ wellFormed_iff.symm

end OperatingMode
end DuplexAudio
