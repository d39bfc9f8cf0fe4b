import DuplexAudio.Proofs.Negotiation.Rounds

/-!
Negotiation loses no solution and invents none. A point that the table offers survives every rule on
its own, so no round can cut it off, and whatever is settled on lies within the proposal and the
window.
-/

namespace DuplexAudio

namespace OperatingPoint

variable {points : List OperatingPoint} {point : OperatingPoint}

def proposal (point : OperatingPoint) : Proposal where
  rates := .single point.rate
  channels := .single point.channels

theorem proposal_le_iff {outer : Proposal} :
    point.proposal ≤ outer ↔ point.rate ∈ outer.rates ∧ point.channels ∈ outer.channels := by
  constructor
  · rintro ⟨hrates, hchannels⟩
    exact ⟨hrates _ (Interval.mem_single.2 rfl), hchannels _ (Interval.mem_single.2 rfl)⟩
  · rintro ⟨hrate, hcount⟩
    exact ⟨fun _ hmem => Interval.mem_single.1 hmem ▸ hrate,
      fun _ hmem => Interval.mem_single.1 hmem ▸ hcount⟩

/-- No rule takes a point with channels away from itself: each hull is taken over that point too. -/
theorem survives_proposal (hpoint : point ∈ points) (hpos : 0 < point.channels) :
    point.proposal.Survives points := by
  have hrate : point.rate ∈ point.proposal.rates := Interval.mem_single.2 rfl
  have hcount : point.channels ∈ point.proposal.channels := Interval.mem_single.2 rfl
  constructor
  · intro rate hmem
    rw [Interval.mem_single.1 hmem]
    exact rate_mem_rateHull hpoint hcount
  · intro rate hmem
    rw [Interval.mem_single.1 hmem]
    exact rate_mem_legalHull hpoint hpos hrate
  · intro count hmem
    rw [Interval.mem_single.1 hmem]
    exact channels_mem_channelHull hpoint hrate

end OperatingPoint

namespace Constraints

variable {constraints : Constraints} {rates channels : Interval} {points : List OperatingPoint}
  {negotiated : Negotiated} {rate count : UInt32}

/-- A pair of a rate and a channel count that solves a proposal: some enabled mode lists the rate
with that count, and both lie within the proposal and within the window. -/
structure Legal (constraints : Constraints) (rates channels : Interval) (rate count : UInt32) :
    Prop where
  offered : constraints.table.Offers rate count
  rate_mem : rate ∈ rates
  rate_mem_window : rate ∈ constraints.window.rates
  count_mem : count ∈ channels
  count_mem_window : count ∈ constraints.window.channels

theorem mem_clip_rates : rate ∈ (constraints.clip rates channels).rates ↔
    rate ∈ rates ∧ rate ∈ constraints.window.rates :=
  Interval.mem_intersect

theorem mem_clip_channels : count ∈ (constraints.clip rates channels).channels ↔
    count ∈ channels ∧ count ∈ constraints.window.channels :=
  Interval.mem_intersect

theorem legal_iff : constraints.Legal rates channels rate count ↔
    constraints.table.Offers rate count ∧ rate ∈ (constraints.clip rates channels).rates ∧
      count ∈ (constraints.clip rates channels).channels := by
  rw [mem_clip_rates, mem_clip_channels]
  constructor
  · rintro ⟨hoffered, hrate, hrate', hcount, hcount'⟩
    exact ⟨hoffered, ⟨hrate, hrate'⟩, hcount, hcount'⟩
  · rintro ⟨hoffered, ⟨hrate, hrate'⟩, hcount, hcount'⟩
    exact ⟨hoffered, hrate, hrate', hcount, hcount'⟩

/-- No number of rounds cuts a legal pair off. -/
theorem Legal.le_iterate (hpoints : constraints.table.points = .ok points)
    (hlegal : constraints.Legal rates channels rate count) (rounds : Nat) :
    OperatingPoint.proposal ⟨rate, count⟩ ≤
      (Proposal.round points)^[rounds] (constraints.clip rates channels) := by
  obtain ⟨hoffered, hrate, hcount⟩ := legal_iff.1 hlegal
  have hpos := (ModeTable.offers_iff.1 hoffered).2
  have hsurvives := OperatingPoint.survives_proposal (hoffered.mem_points hpoints) hpos
  exact hsurvives.le_iterate (OperatingPoint.proposal_le_iff.2 ⟨hrate, hcount⟩) rounds

theorem Legal.mem_negotiated (hlegal : constraints.Legal rates channels rate count)
    (hrefine : constraints.refine rates channels = .ok negotiated) :
    rate ∈ negotiated.rates ∧ count ∈ negotiated.channels := by
  obtain ⟨points, hpoints⟩ := points_of_refine_eq_ok hrefine
  obtain ⟨done, -, hreached, -⟩ := refine_eq_ok hpoints hrefine
  have hle := hlegal.le_iterate hpoints done
  rw [hreached] at hle
  exact OperatingPoint.proposal_le_iff.1 hle

theorem not_legal_of_refine_eq_error (hpoints : constraints.table.points = .ok points)
    {fault : StreamFault} (hrefine : constraints.refine rates channels = .error fault) :
    ¬ constraints.Legal rates channels rate count := by
  intro hlegal
  obtain ⟨done, rest, -, hreached, hempty⟩ := refine_eq_error hpoints hrefine
  have hle := hlegal.le_iterate hpoints done
  rw [hreached] at hle
  obtain ⟨hrate, hcount⟩ := OperatingPoint.proposal_le_iff.1 hle
  rw [Proposal.isEmpty, Interval.isEmpty_eq_false_of_mem hrate,
    Interval.isEmpty_eq_false_of_mem hcount] at hempty
  cases hempty

theorem exists_refine_eq_ok_of_legal (hpoints : constraints.table.points = .ok points)
    (hlegal : constraints.Legal rates channels rate count) :
    ∃ negotiated, constraints.refine rates channels = .ok negotiated := by
  cases hrefine : constraints.refine rates channels with
  | ok negotiated => exact ⟨negotiated, rfl⟩
  | error fault => exact absurd hlegal (not_legal_of_refine_eq_error hpoints hrefine)

theorem negotiated_le_clip (hrefine : constraints.refine rates channels = .ok negotiated) :
    Proposal.mk negotiated.rates negotiated.channels ≤ constraints.clip rates channels := by
  obtain ⟨points, hpoints⟩ := points_of_refine_eq_ok hrefine
  obtain ⟨done, -, hreached, -⟩ := refine_eq_ok hpoints hrefine
  rw [← hreached]
  exact Proposal.iterate_round_le points _ done

/-- The solutions within the outcome are those of the proposal. -/
theorem legal_negotiated_iff (hrefine : constraints.refine rates channels = .ok negotiated) :
    constraints.Legal negotiated.rates negotiated.channels rate count ↔
      constraints.Legal rates channels rate count := by
  constructor
  · rintro ⟨hoffered, hrate, -, hcount, -⟩
    obtain ⟨hrates, hchannels⟩ := negotiated_le_clip hrefine
    exact legal_iff.2 ⟨hoffered, hrates _ hrate, hchannels _ hcount⟩
  · intro hlegal
    obtain ⟨hrate, hcount⟩ := hlegal.mem_negotiated hrefine
    exact ⟨hlegal.offered, hrate, hlegal.rate_mem_window, hcount, hlegal.count_mem_window⟩

theorem viableModes_negotiated (hfit : constraints.table.ChannelsFit)
    (hrefine : constraints.refine rates channels = .ok negotiated) :
    constraints.table.viableModes negotiated.rates negotiated.channels =
      constraints.table.viableModes (constraints.clip rates channels).rates
        (constraints.clip rates channels).channels := by
  rw [hfit.viableModes_eq, hfit.viableModes_eq]
  congr 1
  apply List.filter_congr
  intro mode hmode
  rw [Bool.eq_iff_iff]
  simp only [Bool.and_eq_true, decide_eq_true_eq, List.any_eq_true]
  constructor
  · rintro ⟨⟨hpos, hcount⟩, rate, hlisted, hrate⟩
    obtain ⟨hrates, hchannels⟩ := negotiated_le_clip hrefine
    exact ⟨⟨hpos, hchannels _ hcount⟩, rate, hlisted, hrates _ hrate⟩
  · rintro ⟨⟨hpos, hcount⟩, rate, hlisted, hrate⟩
    have hoffered : constraints.table.Offers rate mode.total :=
      ModeTable.offers_iff.2 ⟨⟨mode, hmode, hlisted, (hfit mode hmode).channels_eq⟩, hpos⟩
    obtain ⟨hrate', hcount'⟩ :=
      Legal.mem_negotiated (legal_iff.2 ⟨hoffered, hrate, hcount⟩) hrefine
    exact ⟨⟨hpos, hcount'⟩, rate, hlisted, hrate'⟩

/-- An outcome of negotiating `rates` and `channels` that loses no solution and invents none. -/
structure Faithful (constraints : Constraints) (rates channels : Interval)
    (negotiated : Negotiated) : Prop where
  covers : ∀ rate count, constraints.Legal rates channels rate count →
    rate ∈ negotiated.rates ∧ count ∈ negotiated.channels
  within_proposal : rates.includes negotiated.rates = true ∧
    channels.includes negotiated.channels = true
  within_window : constraints.window.rates.includes negotiated.rates = true ∧
    constraints.window.channels.includes negotiated.channels = true
  same_legal : ∀ rate count, constraints.Legal negotiated.rates negotiated.channels rate count ↔
    constraints.Legal (constraints.clip rates channels).rates
      (constraints.clip rates channels).channels rate count
  same_viable : constraints.table.viableModes negotiated.rates negotiated.channels =
    constraints.table.viableModes (constraints.clip rates channels).rates
      (constraints.clip rates channels).channels

theorem legal_clip_iff : constraints.Legal (constraints.clip rates channels).rates
    (constraints.clip rates channels).channels rate count ↔
      constraints.Legal rates channels rate count := by
  constructor
  · rintro ⟨hoffered, hrate, -, hcount, -⟩
    exact legal_iff.2 ⟨hoffered, hrate, hcount⟩
  · intro hlegal
    obtain ⟨hoffered, hrate, hcount⟩ := legal_iff.1 hlegal
    exact ⟨hoffered, hrate, hlegal.rate_mem_window, hcount, hlegal.count_mem_window⟩

theorem faithful_of_refine_eq_ok (hfit : constraints.table.ChannelsFit)
    (hrefine : constraints.refine rates channels = .ok negotiated) :
    constraints.Faithful rates channels negotiated := by
  obtain ⟨hrates, hchannels⟩ := negotiated_le_clip hrefine
  exact
    { covers := fun _ _ hlegal => hlegal.mem_negotiated hrefine
      within_proposal :=
        ⟨Interval.includes_iff_le.2 fun _ hmem => (mem_clip_rates.1 (hrates _ hmem)).1,
          Interval.includes_iff_le.2 fun _ hmem => (mem_clip_channels.1 (hchannels _ hmem)).1⟩
      within_window :=
        ⟨Interval.includes_iff_le.2 fun _ hmem => (mem_clip_rates.1 (hrates _ hmem)).2,
          Interval.includes_iff_le.2 fun _ hmem => (mem_clip_channels.1 (hchannels _ hmem)).2⟩
      same_legal := fun _ _ => (legal_negotiated_iff hrefine).trans legal_clip_iff.symm
      same_viable := viableModes_negotiated hfit hrefine }

/-- **Negotiation loses no solution and invents none.** A proposal with a legal pair is settled,
what it is settled on is faithful to it, and it is refused as unsatisfiable only if it has no legal
pair. -/
theorem refine_faithful (constraints : Constraints) (hfit : constraints.table.ChannelsFit)
    (rates channels : Interval) :
    ((∃ rate count, constraints.Legal rates channels rate count) →
      ∃ negotiated, constraints.refine rates channels = .ok negotiated) ∧
    (∀ negotiated, constraints.refine rates channels = .ok negotiated →
      constraints.Faithful rates channels negotiated) ∧
    ∀ fault, constraints.refine rates channels = .error fault →
      (∃ rest : Proposal, fault = .unsatisfiable rest.rates rest.channels) ∧
        ∀ rate count, ¬ constraints.Legal rates channels rate count := by
  have hpoints := hfit.points_eq
  refine ⟨?_, fun _ hrefine => faithful_of_refine_eq_ok hfit hrefine, ?_⟩
  · rintro ⟨rate, count, hlegal⟩
    cases hrefine : constraints.refine rates channels with
    | ok negotiated => exact ⟨negotiated, rfl⟩
    | error fault => exact absurd hlegal (not_legal_of_refine_eq_error hpoints hrefine)
  · intro fault hrefine
    obtain ⟨done, rest, hfault, -⟩ := refine_eq_error hpoints hrefine
    exact ⟨⟨rest, hfault⟩, fun _ _ => not_legal_of_refine_eq_error hpoints hrefine⟩

def twoModes : Constraints where
  direction := .playback
  table := .ofClockRates (2, 0) (2, 2) (0, 0)
  window := { rates := ⟨44100, 96000, true⟩, channels := ⟨2, 4, true⟩, rateMask := ⟨0x6c0⟩ }

/-- Four channels are settled at the middle rates; three channels are refused rightly. -/
theorem refine_faithful_twoModes :
    twoModes.table.ChannelsFit ∧ twoModes.Legal .full (.single 4) 88200 4 ∧
      (∃ negotiated, twoModes.refine .full (.single 4) = .ok negotiated ∧
        twoModes.Faithful .full (.single 4) negotiated) ∧
      ∀ rate count, ¬ twoModes.Legal .full (.single 3) rate count := by
  have hfit : twoModes.table.ChannelsFit := by decide
  have hlegal : twoModes.Legal .full (.single 4) 88200 4 :=
    ⟨⟨{ fixedChannels := 2, variableChannels := 2, rates := [88200, 96000] },
      by decide, by decide, by decide, by decide⟩, by decide, by decide, by decide, by decide⟩
  have hrefused : twoModes.refine .full (.single 3) = .error (.unsatisfiable .empty .empty) := by
    decide +kernel
  obtain ⟨hsettles, hfaithful, -⟩ := refine_faithful twoModes hfit .full (.single 4)
  obtain ⟨-, -, hnone⟩ := refine_faithful twoModes hfit .full (.single 3)
  obtain ⟨negotiated, hrefine⟩ := hsettles ⟨88200, 4, hlegal⟩
  exact ⟨hfit, hlegal, ⟨negotiated, hrefine, hfaithful negotiated hrefine⟩,
    (hnone _ hrefused).2⟩

end Constraints
end DuplexAudio
