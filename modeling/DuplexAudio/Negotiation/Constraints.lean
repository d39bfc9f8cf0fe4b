import DuplexAudio.Direction
import DuplexAudio.Fault
import DuplexAudio.Negotiation.Window

/-!
Negotiation of one opened substream. A proposal is clipped to the window and then narrowed by the
three rules in turn until a round changes nothing or nothing is left.
-/

namespace DuplexAudio

structure Proposal where
  rates : Interval
  channels : Interval
  deriving DecidableEq, Repr

namespace Proposal

open OperatingPoint

def isEmpty (proposal : Proposal) : Bool := proposal.rates.isEmpty || proposal.channels.isEmpty

def intersect (left right : Proposal) : Proposal where
  rates := left.rates.intersect right.rates
  channels := left.channels.intersect right.channels

def fitRates (points : List OperatingPoint) (proposal : Proposal) : Proposal :=
  { proposal with rates := proposal.rates.narrow (rateHull points proposal.channels) }

def snapRates (points : List OperatingPoint) (proposal : Proposal) : Proposal :=
  { proposal with rates := proposal.rates.narrow (legalHull points proposal.rates) }

def fitChannels (points : List OperatingPoint) (proposal : Proposal) : Proposal :=
  { proposal with channels := proposal.channels.narrow (channelHull points proposal.rates) }

def round (points : List OperatingPoint) (proposal : Proposal) : Proposal :=
  ((proposal.fitRates points).snapRates points).fitChannels points

def slack (proposal : Proposal) : Nat := proposal.rates.slack + proposal.channels.slack

theorem fitRates_eq_self_or_slack_lt (points : List OperatingPoint) (proposal : Proposal) :
    proposal.fitRates points = proposal ∨ (proposal.fitRates points).slack < proposal.slack := by
  rcases proposal.rates.narrow_eq_self_or_slack_lt (rateHull points proposal.channels) with h | h
  · exact .inl (by simp [fitRates, h])
  · exact .inr (Nat.add_lt_add_right h _)

theorem snapRates_eq_self_or_slack_lt (points : List OperatingPoint) (proposal : Proposal) :
    proposal.snapRates points = proposal ∨ (proposal.snapRates points).slack < proposal.slack := by
  rcases proposal.rates.narrow_eq_self_or_slack_lt (legalHull points proposal.rates) with h | h
  · exact .inl (by simp [snapRates, h])
  · exact .inr (Nat.add_lt_add_right h _)

theorem fitChannels_eq_self_or_slack_lt (points : List OperatingPoint) (proposal : Proposal) :
    proposal.fitChannels points = proposal ∨
      (proposal.fitChannels points).slack < proposal.slack := by
  rcases proposal.channels.narrow_eq_self_or_slack_lt (channelHull points proposal.rates)
    with h | h
  · exact .inl (by simp [fitChannels, h])
  · exact .inr (Nat.add_lt_add_left h _)

/-- A round that changes anything uses up slack, which is why negotiation ends. -/
theorem round_eq_self_or_slack_lt (points : List OperatingPoint) (proposal : Proposal) :
    proposal.round points = proposal ∨ (proposal.round points).slack < proposal.slack := by
  rw [round]
  rcases proposal.fitRates_eq_self_or_slack_lt points with h | h
  · rw [h]
    rcases proposal.snapRates_eq_self_or_slack_lt points with h | h
    · rw [h]
      exact proposal.fitChannels_eq_self_or_slack_lt points
    · rcases (proposal.snapRates points).fitChannels_eq_self_or_slack_lt points with h' | h'
      · exact .inr (h'.symm ▸ h)
      · exact .inr (Nat.lt_trans h' h)
  · rcases (proposal.fitRates points).snapRates_eq_self_or_slack_lt points with h' | h'
    · rw [h']
      rcases (proposal.fitRates points).fitChannels_eq_self_or_slack_lt points with h'' | h''
      · exact .inr (h''.symm ▸ h)
      · exact .inr (Nat.lt_trans h'' h)
    · rcases ((proposal.fitRates points).snapRates points).fitChannels_eq_self_or_slack_lt points
        with h'' | h''
      · exact .inr (h''.symm ▸ Nat.lt_trans h' h)
      · exact .inr (Nat.lt_trans h'' (Nat.lt_trans h' h))

end Proposal

structure Negotiated where
  rates : Interval
  channels : Interval
  rounds : Nat
  deriving DecidableEq, Repr

structure StreamParams where
  rate : UInt32
  channels : UInt32
  deriving DecidableEq, Repr

/-- Repeats rounds from `proposal`, after `rounds` of them, until one changes nothing; fails with
the intervals that are left as soon as one of them is empty. -/
def Proposal.settle (points : List OperatingPoint) (rounds : Nat) (proposal : Proposal) :
    Except Proposal Negotiated :=
  if proposal.isEmpty then .error proposal
  else if h : proposal.round points = proposal then
    .ok { rates := proposal.rates, channels := proposal.channels, rounds := rounds + 1 }
  else (proposal.round points).settle points (rounds + 1)
termination_by proposal.slack
decreasing_by exact (proposal.round_eq_self_or_slack_lt points).resolve_left h

/-- What one opened substream may negotiate about. -/
structure Constraints where
  direction : Direction
  table : ModeTable
  window : CapabilityWindow
  deriving DecidableEq

namespace Constraints

/-- The proposal as far as the window allows it. -/
def clip (constraints : Constraints) (rates channels : Interval) : Proposal where
  rates := rates.intersect constraints.window.rates
  channels := channels.intersect constraints.window.channels

/-- Narrows a proposal to the fixed point of the rules. A proposal outside the window is refused
before any channel is counted. -/
def refine (constraints : Constraints) (rates channels : Interval) :
    Except StreamFault Negotiated :=
  let clipped := constraints.clip rates channels
  if clipped.isEmpty then .error (.unsatisfiable clipped.rates clipped.channels)
  else match constraints.table.points with
    | .error overflow => .error (.ofOverflow overflow)
    | .ok points =>
      (clipped.settle points 0).mapError fun rest => .unsatisfiable rest.rates rest.channels

/-- Commits to one rate and one channel count, if they can be negotiated. -/
def select (constraints : Constraints) (rate channels : UInt32) : Except StreamFault StreamParams :=
  (constraints.refine (.single rate) (.single channels)).map fun _ => { rate, channels }

end Constraints

/-- The enabled modes with a rate in `rates` and their channel count in `channels`. -/
def ModeTable.viableModes (table : ModeTable) (rates channels : Interval) :
    Except ChannelOverflow (List OperatingMode) :=
  table.modes.filterM fun mode => mode.channels.map fun count =>
    0 < count && decide (count ∈ channels) && mode.rates.any (· ∈ rates)

end DuplexAudio
