import DuplexAudio.Proofs.Negotiation.Rounds

/-!
Tables whose channels do not fit the counter. The check of a table looks at rates and ports alone,
so there are such tables; a computation on one fails exactly if it counts a mode that does not fit.
Negotiation counts a mode for the sake of its rates, and so never one without rates.
-/

namespace DuplexAudio

theorem eq_overflow_iff {α : Type} {result : Except ChannelOverflow α} :
    result = .error {} ↔ ¬ ∃ value, result = .ok value := by
  cases result <;> simp

theorem exists_channels_eq_ok_iff {mode : OperatingMode} :
    (∃ count, mode.channels = .ok count) ↔ mode.Fits := by
  simp [OperatingMode.channels_eq_ok_iff]

theorem exists_isEnabled_eq_ok_iff {mode : OperatingMode} :
    (∃ enabled, mode.isEnabled = .ok enabled) ↔ mode.Fits := by
  rw [OperatingMode.isEnabled, exists_map_eq_ok_iff, exists_channels_eq_ok_iff]

/-- The mode with other fixed and variable channels. -/
def OperatingMode.withChannels (mode : OperatingMode) (counts : UInt32 × UInt32) : OperatingMode :=
  { mode with
    fixedChannels := counts.1
    variableChannels := counts.2 }

namespace ModeTable

open OperatingPoint

/-- Some mode that lists a rate does not fit the channel counter. -/
def Overflows (table : ModeTable) : Prop := ∃ mode ∈ table.modes, mode.rates ≠ [] ∧ ¬ mode.Fits

/-- Some mode with a rate in `rates` does not fit the channel counter. -/
def OverflowsWithin (table : ModeTable) (rates : Interval) : Prop :=
  ∃ mode ∈ table.modes, (∃ rate ∈ mode.rates, rate ∈ rates) ∧ ¬ mode.Fits

instance (table : ModeTable) : Decidable table.Overflows :=
  inferInstanceAs (Decidable (∃ mode ∈ table.modes, mode.rates ≠ [] ∧ ¬ mode.Fits))

variable {table : ModeTable} {rates channels : Interval} {rate : UInt32}

/-! ### Acceptance -/

/-- Whether modes are accepted does not depend on their channels. -/
theorem exists_ofModes?_withChannels_iff (modes : List OperatingMode)
    (counts : OperatingMode → UInt32 × UInt32) :
    (∃ table, ofModes? (modes.map fun mode => mode.withChannels (counts mode)) = .ok table) ↔
      ∃ table, ofModes? modes = .ok table := by
  rw [exists_ofModes?_eq_ok_iff, exists_ofModes?_eq_ok_iff, Valid, Valid, List.forall_mem_map,
    RatesDisjoint, List.pairwise_map]
  refine and_congr (forall₂_congr fun mode _ => ?_) Iff.rfl
  exact ⟨fun hwell => ⟨hwell.ascending, hwell.zero_not_mem, hwell.midiPorts_le⟩,
    fun hwell => ⟨hwell.ascending, hwell.zero_not_mem, hwell.midiPorts_le⟩⟩

/-! ### What is counted -/

theorem not_overflows_iff : ¬ table.Overflows ↔ ∀ pair ∈ table.pairs, pair.1.Fits := by
  constructor
  · intro hfit pair hpair
    obtain ⟨hmode, hrate⟩ := mem_pairs.1 hpair
    exact not_not.1 fun hover => hfit ⟨pair.1, hmode, List.ne_nil_of_mem hrate, hover⟩
  · rintro hfits ⟨mode, hmode, hrates, hover⟩
    obtain ⟨rate, hrate⟩ := List.exists_mem_of_ne_nil mode.rates hrates
    exact hover (hfits (mode, rate) (mem_pairs.2 ⟨hmode, hrate⟩))

theorem not_overflowsWithin_iff : ¬ table.OverflowsWithin rates ↔
    ∀ pair ∈ table.pairs.filter (·.2 ∈ rates), pair.1.Fits := by
  simp only [List.mem_filter, mem_pairs, decide_eq_true_eq, OverflowsWithin]
  constructor
  · rintro hfit pair ⟨⟨hmode, hlisted⟩, hrate⟩
    exact not_not.1 fun hover => hfit ⟨pair.1, hmode, ⟨pair.2, hlisted, hrate⟩, hover⟩
  · rintro hfits ⟨mode, hmode, ⟨rate, hlisted, hrate⟩, hover⟩
    exact hover (hfits (mode, rate) ⟨⟨hmode, hlisted⟩, hrate⟩)

theorem exists_mapM_ofPair_eq_ok_iff {pairs : List (OperatingMode × UInt32)} :
    (∃ points, pairs.mapM ofPair = .ok points) ↔ ∀ pair ∈ pairs, pair.1.Fits := by
  simp [mapM_eq_ok_iff ofPair_eq_ok_iff]

theorem exists_points_eq_ok_iff : (∃ points, table.points = .ok points) ↔ ¬ table.Overflows := by
  rw [points, exists_mapM_ofPair_eq_ok_iff, not_overflows_iff]

/-- A look-up counts the one mode that lists the rate. -/
theorem exists_isLegalRate_eq_ok_iff : (∃ legal, table.isLegalRate rate = .ok legal) ↔
    ∀ mode ∈ table.modes, rate ∈ mode.rates → mode.Fits := by
  unfold isLegalRate
  cases hfound : table.modeForRate? rate with
  | none =>
    refine iff_of_true ⟨false, rfl⟩ fun mode hmode hrate => ?_
    exact absurd hrate (modeForRate?_eq_none_iff.1 hfound mode hmode)
  | some found =>
    obtain ⟨hmode, hrate⟩ := modeForRate?_eq_some_iff.1 hfound
    rw [exists_isEnabled_eq_ok_iff]
    constructor
    · intro hfits other hother hlisted
      exact mode_unique hmode hother hrate hlisted ▸ hfits
    · intro hfits
      exact hfits found hmode hrate

theorem exists_rateMask_eq_ok_iff : (∃ mask, table.rateMask = .ok mask) ↔ ¬ table.Overflows := by
  rw [rateMask, exists_map_eq_ok_iff, exists_filterM_eq_ok_iff, not_overflows_iff]
  simp only [List.mem_map, exists_isLegalRate_eq_ok_iff]
  constructor
  · intro hfits pair hpair
    obtain ⟨hmode, hrate⟩ := mem_pairs.1 hpair
    exact hfits pair.2 ⟨pair, hpair, rfl⟩ pair.1 hmode hrate
  · rintro hfits _ ⟨pair, hpair, rfl⟩ mode hmode hrate
    exact hfits (mode, pair.2) (mem_pairs.2 ⟨hmode, hrate⟩)

/-! ### Where it overflows -/

theorem rateMask_eq_overflow_iff : table.rateMask = .error {} ↔ table.Overflows := by
  rw [eq_overflow_iff, exists_rateMask_eq_ok_iff, not_not]

theorem window_eq_overflow_iff : table.window = .error {} ↔ table.Overflows := by
  rw [eq_overflow_iff, ← not_not (a := table.Overflows), not_iff_not]
  constructor
  · rintro ⟨window, hwindow⟩
    obtain ⟨points, hpoints, -⟩ := exists_of_bind_eq_ok hwindow
    exact exists_points_eq_ok_iff.1 ⟨points, hpoints⟩
  · intro hfit
    obtain ⟨points, hpoints⟩ := exists_points_eq_ok_iff.2 hfit
    obtain ⟨mask, hmask⟩ := exists_rateMask_eq_ok_iff.2 hfit
    rw [window, hpoints, hmask]
    exact ⟨_, rfl⟩

theorem ratesGivenChannels_eq_overflow_iff :
    table.ratesGivenChannels channels = .error {} ↔ table.Overflows := by
  rw [eq_overflow_iff, ratesGivenChannels, exists_map_eq_ok_iff, exists_points_eq_ok_iff,
    not_not]

theorem legalRates_eq_overflow_iff : table.legalRates rates = .error {} ↔ table.Overflows := by
  rw [eq_overflow_iff, legalRates, exists_map_eq_ok_iff, exists_points_eq_ok_iff, not_not]

/-- The channels that go with some rates are those of the modes that list them; others may overflow
unseen. -/
theorem channelsGivenRates_eq_overflow_iff :
    table.channelsGivenRates rates = .error {} ↔ table.OverflowsWithin rates := by
  rw [eq_overflow_iff, channelsGivenRates, exists_map_eq_ok_iff, exists_mapM_ofPair_eq_ok_iff,
    ← not_overflowsWithin_iff, not_not]

/-- The viable modes are told by their channels first, so every mode is counted. -/
theorem viableModes_eq_overflow_iff :
    table.viableModes rates channels = .error {} ↔ ¬ table.ChannelsFit := by
  rw [eq_overflow_iff, viableModes, exists_filterM_eq_ok_iff]
  simp only [exists_map_eq_ok_iff, exists_channels_eq_ok_iff]
  rfl

end ModeTable

namespace Constraints

variable {constraints : Constraints} {rates channels : Interval}

/-- Nothing is counted for a proposal that is outside the window. -/
theorem refine_eq_overflow_iff : constraints.refine rates channels = .error .channelOverflow ↔
    (constraints.clip rates channels).isEmpty = false ∧ constraints.table.Overflows := by
  cases hpoints : constraints.table.points with
  | error overflow =>
    have hover : constraints.table.Overflows := by
      rw [← not_not (a := constraints.table.Overflows), ← ModeTable.exists_points_eq_ok_iff,
        hpoints]
      rintro ⟨points, ⟨⟩⟩
    rw [and_iff_left hover, refine]
    split
    · next hempty => simp [hempty]
    · next hsome => exact iff_of_true (by rw [hpoints]; rfl) (Bool.eq_false_iff.2 hsome)
  | ok points =>
    have hfit := ModeTable.exists_points_eq_ok_iff.1 ⟨points, hpoints⟩
    refine iff_of_false (fun hrefine => ?_) fun hover => hfit hover.2
    obtain ⟨done, rest, hfault, -⟩ := refine_eq_error hpoints hrefine
    cases hfault

end Constraints
end DuplexAudio
