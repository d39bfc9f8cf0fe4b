/-!
The sampling clock of the device: its source, its rate, and whether it answers queries.
-/

namespace DuplexAudio

inductive ClockSource
  | internal
  | wordOnBnc
  | spdifCoax
  | spdifOptical
  | adatOptical
  | adatOnDsub
  | sphSync
  | unknown
  deriving DecidableEq, Repr, Inhabited

namespace ClockSource

def all : List ClockSource :=
  [.internal, .wordOnBnc, .spdifCoax, .spdifOptical, .adatOptical, .adatOnDsub, .sphSync, .unknown]

def name : ClockSource → String
  | .internal => "Internal"
  | .wordOnBnc => "WordOnBnc"
  | .spdifCoax => "SpdifCoax"
  | .spdifOptical => "SpdifOptical"
  | .adatOptical => "AdatOptical"
  | .adatOnDsub => "AdatOnDsub"
  | .sphSync => "SphSync"
  | .unknown => "Unknown"

def ofName? (name : String) : Option ClockSource := all.find? (·.name == name)

/-- The device runs free on its own oscillator. -/
def isInternal (source : ClockSource) : Bool := source == .internal

end ClockSource

/-- Which of the two clock queries went unanswered. -/
inductive ClockFault
  | sourceUnreachable
  | rateUnreadable
  deriving DecidableEq, Repr

def ClockFault.message : ClockFault → String
  | .sourceUnreachable => "Clock source unreachable: simulated clock offline"
  | .rateUnreadable => "Clock register read failed: simulated clock offline"

structure Clock where
  source : ClockSource := .internal
  rate : UInt32 := 48000
  unreachable : Bool := false
  deriving DecidableEq, Repr, Inhabited

namespace Clock

def readSource (clock : Clock) : Except ClockFault ClockSource :=
  if clock.unreachable then .error .sourceUnreachable else .ok clock.source

def readRate (clock : Clock) : Except ClockFault UInt32 :=
  if clock.unreachable then .error .rateUnreadable else .ok clock.rate

end Clock
end DuplexAudio
