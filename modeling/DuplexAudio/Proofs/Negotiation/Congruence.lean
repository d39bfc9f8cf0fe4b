import DuplexAudio.Proofs.Negotiation.LegalRates

/-!
What a negotiation reads off a table: which rates it lists with which channel counts. Two tables
that agree in this negotiate alike to the last round, however they order their modes, spread the
rates over them or make up the counts.
-/

namespace DuplexAudio

/-! ### The same points -/

namespace OperatingPoint

variable {points others : List OperatingPoint} (hsame : ∀ point, point ∈ points ↔ point ∈ others)
include hsame

theorem hull_filter_congr (keep : OperatingPoint → Bool) (number : OperatingPoint → UInt32) :
    Interval.hull ((points.filter keep).map number) =
      Interval.hull ((others.filter keep).map number) := by
  apply Interval.hull_congr
  intro value
  simp only [List.mem_map, List.mem_filter, hsame]

theorem rateHull_congr : rateHull points = rateHull others := by
  funext channels
  exact hull_filter_congr hsame _ _

theorem channelHull_congr : channelHull points = channelHull others := by
  funext rates
  exact hull_filter_congr hsame _ _

theorem legalHull_congr : legalHull points = legalHull others := by
  funext rates
  exact hull_filter_congr hsame _ _

end OperatingPoint

namespace Proposal

open OperatingPoint

variable {points others : List OperatingPoint}

theorem round_congr (hsame : ∀ point, point ∈ points ↔ point ∈ others) :
    round points = round others := by
  funext proposal
  unfold round fitRates snapRates fitChannels
  rw [rateHull_congr hsame, channelHull_congr hsame, legalHull_congr hsame]

/-- Negotiations whose rounds do the same run in step. -/
theorem settle_congr (hround : round points = round others) (rounds : Nat) (proposal : Proposal) :
    proposal.settle points rounds = proposal.settle others rounds := by
  fun_induction settle points rounds proposal with
  | case1 rounds proposal hempty => rw [settle, if_pos hempty]
  | case2 rounds proposal hsome hfixed =>
    rw [settle, if_neg hsome, dif_pos (hround ▸ hfixed)]
  | case3 rounds proposal hsome hchanged ih =>
    have hchanged' : ¬ proposal.round others = proposal := hround ▸ hchanged
    conv_rhs => rw [settle, if_neg hsome, dif_neg hchanged', ← hround]
    exact ih

end Proposal

/-! ### The same pairs -/

/-- Both computations have a result, and it is the same one. -/
def SameResult {α : Type} (left right : Except ChannelOverflow α) : Prop :=
  ∃ result, left = .ok result ∧ right = .ok result

namespace ModeTable

open OperatingPoint

variable {left right : ModeTable} {points others : List OperatingPoint}

/-- The modes of both tables list the same rates with the same channel counts. -/
def SamePairs (left right : ModeTable) : Prop :=
  ∀ rate count, left.Lists rate count ↔ right.Lists rate count

theorem samePairs_iff (hleft : left.points = .ok points) (hright : right.points = .ok others) :
    left.SamePairs right ↔ ∀ point, point ∈ points ↔ point ∈ others := by
  constructor
  · intro hpairs point
    rw [mem_points hleft, mem_points hright]
    exact hpairs point.rate point.channels
  · intro hsame rate count
    have hpoint := hsame ⟨rate, count⟩
    rwa [mem_points hleft, mem_points hright] at hpoint

theorem SamePairs.offers_iff (hpairs : left.SamePairs right) {rate count : UInt32} :
    left.Offers rate count ↔ right.Offers rate count := by
  rw [ModeTable.offers_iff, ModeTable.offers_iff, hpairs]

/-- The look-up may find another mode, but not a disabled one in place of an enabled one. -/
theorem SamePairs.legal_eq (hpairs : left.SamePairs right) (hleft : left.ChannelsFit)
    (hright : right.ChannelsFit) : left.legal = right.legal := by
  funext rate
  rw [Bool.eq_iff_iff, hleft.legal_iff, hright.legal_iff]
  simp only [hpairs.offers_iff]

theorem SamePairs.rateMask_eq (hpairs : left.SamePairs right) (hleft : left.ChannelsFit)
    (hright : right.ChannelsFit) : left.rateMask = right.rateMask := by
  rw [hleft.rateMask_eq, hright.rateMask_eq]
  refine congrArg Except.ok (RateMask.ofRates_congr fun rate => ?_)
  rw [hleft.mem_legal_pairs, hright.mem_legal_pairs, hpairs.legal_eq hleft hright]

theorem SamePairs.window_eq (hpairs : left.SamePairs right) (hleft : left.ChannelsFit)
    (hright : right.ChannelsFit) : left.window = right.window := by
  have hoffered : ∀ point, point ∈ left.offered ↔ point ∈ right.offered := by
    intro point
    rw [hleft.mem_offered, hright.mem_offered, hpairs.offers_iff]
  have hmask := hpairs.rateMask_eq hleft hright
  rw [hleft.rateMask_eq, hright.rateMask_eq, Except.ok.injEq] at hmask
  rw [hleft.window_eq, hright.window_eq, hmask]
  congr 2
  · exact Interval.hull_congr fun rate => by simp only [List.mem_map, hoffered]
  · exact Interval.hull_congr fun count => by simp only [List.mem_map, hoffered]

end ModeTable

/-- **A negotiation depends on the pairs of rate and channel count alone.** Two tables whose modes
list the same pairs give the same answers to all rules and look-ups, the same window with the same
mask, and the same outcome of every refinement: the intervals and the rounds it took, or the
intervals that were left when it was refused. -/
theorem Constraints.negotiation_depends_on_pairs {left right : ModeTable}
    (hleft : left.ChannelsFit) (hright : right.ChannelsFit) (hpairs : left.SamePairs right) :
    (∀ channels, SameResult (left.ratesGivenChannels channels)
      (right.ratesGivenChannels channels)) ∧
    (∀ rates, SameResult (left.channelsGivenRates rates) (right.channelsGivenRates rates)) ∧
    (∀ rates, SameResult (left.legalRates rates) (right.legalRates rates)) ∧
    (∀ rate, SameResult (left.isLegalRate rate) (right.isLegalRate rate)) ∧
    SameResult left.rateMask right.rateMask ∧
    SameResult left.window right.window ∧
    ∀ direction window rates channels,
      refine ⟨direction, left, window⟩ rates channels =
        refine ⟨direction, right, window⟩ rates channels := by
  have hpoints := hleft.points_eq
  have hothers := hright.points_eq
  have hsame := (ModeTable.samePairs_iff hpoints hothers).1 hpairs
  refine ⟨fun channels => ?_, fun rates => ?_, fun rates => ?_, fun rate => ?_, ?_, ?_, ?_⟩
  · rw [ModeTable.ratesGivenChannels_eq hpoints, ModeTable.ratesGivenChannels_eq hothers,
      OperatingPoint.rateHull_congr hsame]
    exact ⟨_, rfl, rfl⟩
  · rw [ModeTable.channelsGivenRates_eq hpoints, ModeTable.channelsGivenRates_eq hothers,
      OperatingPoint.channelHull_congr hsame]
    exact ⟨_, rfl, rfl⟩
  · rw [ModeTable.legalRates_eq hpoints, ModeTable.legalRates_eq hothers,
      OperatingPoint.legalHull_congr hsame]
    exact ⟨_, rfl, rfl⟩
  · rw [hleft.isLegalRate_eq, hright.isLegalRate_eq, hpairs.legal_eq hleft hright]
    exact ⟨_, rfl, rfl⟩
  · rw [← hpairs.rateMask_eq hleft hright]
    exact ⟨_, hleft.rateMask_eq, hleft.rateMask_eq⟩
  · rw [← hpairs.window_eq hleft hright]
    exact ⟨_, hleft.window_eq, hleft.window_eq⟩
  · intro direction window rates channels
    have hround := Proposal.round_congr hsame
    rw [refine_eq_settle hpoints, refine_eq_settle hothers, Proposal.settle_congr hround]
    rfl

namespace ModeTable

/-- Two modes with two rates each. -/
def grouped : ModeTable where
  modes :=
    [{ fixedChannels := 2, rates := [44100, 48000] },
     { fixedChannels := 8, variableChannels := 2, rates := [88200, 96000], midiPorts := 1 }]
  wellFormed := by
    simp only [List.mem_cons, List.not_mem_nil, or_false, forall_eq_or_imp, forall_eq,
      OperatingMode.wellFormed_iff]
    decide
  disjoint := by
    simp only [RatesDisjoint, List.pairwise_cons, List.mem_cons, List.not_mem_nil, or_false,
      forall_eq_or_imp, forall_eq, List.Pairwise.nil, false_implies, implies_true, and_true]
    decide

/-- The same rates in a mode each, out of order and with other makings of their counts, and a mode
without rates among them. -/
def scattered : ModeTable where
  modes :=
    [{ fixedChannels := 10, rates := [96000] },
     { fixedChannels := 1, variableChannels := 1, rates := [48000], midiPorts := 4 },
     { fixedChannels := 9, variableChannels := 9, rates := [] },
     { fixedChannels := 4, variableChannels := 6, rates := [88200] },
     { fixedChannels := 0, variableChannels := 2, rates := [44100] }]
  wellFormed := by
    simp only [List.mem_cons, List.not_mem_nil, or_false, forall_eq_or_imp, forall_eq,
      OperatingMode.wellFormed_iff]
    decide
  disjoint := by
    simp only [RatesDisjoint, List.pairwise_cons, List.mem_cons, List.not_mem_nil, or_false,
      forall_eq_or_imp, forall_eq, List.Pairwise.nil, false_implies, implies_true, and_true]
    decide

def groupedWindow : CapabilityWindow :=
  { rates := ⟨44100, 96000, true⟩, channels := ⟨2, 10, true⟩, rateMask := ⟨0x6c0⟩ }

theorem samePairs_scattered : grouped.SamePairs scattered := by
  have hgrouped : grouped.points = .ok [⟨44100, 2⟩, ⟨48000, 2⟩, ⟨88200, 10⟩, ⟨96000, 10⟩] := by
    decide
  have hscattered : scattered.points = .ok [⟨96000, 10⟩, ⟨48000, 2⟩, ⟨88200, 10⟩, ⟨44100, 2⟩] := by
    decide
  rw [samePairs_iff hgrouped hscattered]
  have hperm : [OperatingPoint.mk 44100 2, ⟨48000, 2⟩, ⟨88200, 10⟩, ⟨96000, 10⟩].Perm
      [⟨96000, 10⟩, ⟨48000, 2⟩, ⟨88200, 10⟩, ⟨44100, 2⟩] := by decide
  exact fun point => hperm.mem_iff

end ModeTable

/-- From 48 kHz and three channels up, both are drawn in to the high rates in two rounds, and both
refuse what lies between their rates with the same intervals left. -/
theorem Constraints.negotiation_depends_on_pairs_scattered :
    ModeTable.grouped.ChannelsFit ∧ ModeTable.scattered.ChannelsFit ∧
      ModeTable.grouped.SamePairs ModeTable.scattered ∧
      ModeTable.scattered.window = .ok ModeTable.groupedWindow ∧
      refine ⟨.capture, .scattered, ModeTable.groupedWindow⟩ ⟨48000, 96000, true⟩ ⟨3, 12, true⟩ =
        .ok { rates := ⟨88200, 96000, true⟩, channels := .single 10, rounds := 2 } ∧
      refine ⟨.capture, .scattered, ModeTable.groupedWindow⟩ ⟨50000, 80000, true⟩ ⟨3, 12, true⟩ =
        .error (.unsatisfiable ⟨88200, 80000, true⟩ .empty) := by
  have hgrouped : ModeTable.grouped.ChannelsFit := by decide
  have hscattered : ModeTable.scattered.ChannelsFit := by decide
  have hpairs := ModeTable.samePairs_scattered
  obtain ⟨-, -, -, -, -, ⟨window, hleft, hright⟩, hrefine⟩ :=
    negotiation_depends_on_pairs hgrouped hscattered hpairs
  have hwindow : ModeTable.grouped.window = .ok ModeTable.groupedWindow := by decide +kernel
  refine ⟨hgrouped, hscattered, hpairs, ?_, ?_, ?_⟩
  · rw [hright, ← hleft, hwindow]
  · rw [← hrefine]
    decide +kernel
  · rw [← hrefine]
    decide +kernel

end DuplexAudio
