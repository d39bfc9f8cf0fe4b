import DuplexAudio.Negotiation.Constraints
import DuplexAudio.Proofs.Fallible
import DuplexAudio.Proofs.Mode.Partition

/-!
The operating points of a table. When every mode fits the channel counter, the points are the modes
with their rates and plain sums of channels, and the modes that can serve a proposal are found by an
ordinary filter.
-/

namespace DuplexAudio

/-! ### Modes that fit the counter -/

namespace OperatingMode

/-- The fixed and variable channels together fit the 32-bit channel counter. -/
def Fits (mode : OperatingMode) : Prop :=
  mode.fixedChannels.toNat + mode.variableChannels.toNat < UInt32.size

instance (mode : OperatingMode) : Decidable mode.Fits :=
  inferInstanceAs (Decidable (_ < _))

def total (mode : OperatingMode) : UInt32 := mode.fixedChannels + mode.variableChannels

theorem channels_eq_ok_iff {mode : OperatingMode} {count : UInt32} :
    mode.channels = .ok count ↔ mode.Fits ∧ count = mode.total := by
  rw [channels]
  split
  · next hfits => simp [Fits, total, hfits, eq_comm]
  · next hover => simp [Fits, hover]

theorem Fits.channels_eq {mode : OperatingMode} (hfits : mode.Fits) :
    mode.channels = .ok mode.total :=
  channels_eq_ok_iff.2 ⟨hfits, rfl⟩

theorem isEnabled_eq_true_iff {mode : OperatingMode} {count : UInt32}
    (hcount : mode.channels = .ok count) : mode.isEnabled = .ok true ↔ 0 < count := by
  simp [isEnabled, hcount, Except.map]

end OperatingMode

/-! ### The points of a table -/

namespace OperatingPoint

def ofFitting (pair : OperatingMode × UInt32) : OperatingPoint :=
  { rate := pair.2, channels := pair.1.total }

theorem ofPair_eq_ok_iff (pair : OperatingMode × UInt32) (point : OperatingPoint) :
    ofPair pair = .ok point ↔ pair.1.Fits ∧ point = ofFitting pair := by
  rw [ofPair]
  cases hcount : pair.1.channels with
  | error overflow =>
    have hover : ¬ pair.1.Fits := fun hfits => by
      rw [hfits.channels_eq] at hcount
      cases hcount
    simp [Except.map, hover]
  | ok count =>
    obtain ⟨hfits, rfl⟩ := OperatingMode.channels_eq_ok_iff.1 hcount
    simp [Except.map, hfits, ofFitting, eq_comm]

end OperatingPoint

namespace ModeTable

open OperatingPoint

/-- No mode of the table overflows the channel counter. -/
def ChannelsFit (table : ModeTable) : Prop := ∀ mode ∈ table.modes, mode.Fits

instance (table : ModeTable) : Decidable table.ChannelsFit :=
  inferInstanceAs (Decidable (∀ mode ∈ table.modes, mode.Fits))

/-- Some mode lists `rate` and has exactly `count` channels. -/
def Lists (table : ModeTable) (rate count : UInt32) : Prop :=
  ∃ mode ∈ table.modes, rate ∈ mode.rates ∧ mode.channels = .ok count

/-- Some enabled mode lists `rate` and has exactly `count` channels. -/
def Offers (table : ModeTable) (rate count : UInt32) : Prop :=
  ∃ mode ∈ table.modes, mode.isEnabled = .ok true ∧ rate ∈ mode.rates ∧ mode.channels = .ok count

variable {table : ModeTable} {points : List OperatingPoint}

theorem mem_pairs {pair : OperatingMode × UInt32} :
    pair ∈ table.pairs ↔ pair.1 ∈ table.modes ∧ pair.2 ∈ pair.1.rates := by
  obtain ⟨mode, rate⟩ := pair
  simp only [pairs, List.mem_flatMap, List.mem_map, Prod.mk.injEq]
  constructor
  · rintro ⟨_, hmode, _, hrate, rfl, rfl⟩
    exact ⟨hmode, hrate⟩
  · rintro ⟨hmode, hrate⟩
    exact ⟨mode, hmode, rate, hrate, rfl, rfl⟩

theorem points_eq_ok_iff : table.points = .ok points ↔
    (∀ pair ∈ table.pairs, pair.1.Fits) ∧ points = table.pairs.map ofFitting :=
  mapM_eq_ok_iff ofPair_eq_ok_iff

theorem ChannelsFit.points_eq (hfit : table.ChannelsFit) :
    table.points = .ok (table.pairs.map ofFitting) :=
  points_eq_ok_iff.2 ⟨fun _ hpair => hfit _ (mem_pairs.1 hpair).1, rfl⟩

theorem mem_points (hpoints : table.points = .ok points) {point : OperatingPoint} :
    point ∈ points ↔ table.Lists point.rate point.channels := by
  obtain ⟨hfits, rfl⟩ := points_eq_ok_iff.1 hpoints
  rw [List.mem_map]
  constructor
  · rintro ⟨pair, hpair, rfl⟩
    obtain ⟨hmode, hrate⟩ := mem_pairs.1 hpair
    exact ⟨pair.1, hmode, hrate, (hfits pair hpair).channels_eq⟩
  · rintro ⟨mode, hmode, hrate, hcount⟩
    obtain ⟨-, htotal⟩ := OperatingMode.channels_eq_ok_iff.1 hcount
    refine ⟨(mode, point.rate), mem_pairs.2 ⟨hmode, hrate⟩, ?_⟩
    rw [ofFitting, ← htotal]

theorem offers_iff {rate count : UInt32} :
    table.Offers rate count ↔ table.Lists rate count ∧ 0 < count := by
  constructor
  · rintro ⟨mode, hmode, henabled, hrate, hcount⟩
    exact ⟨⟨mode, hmode, hrate, hcount⟩, (OperatingMode.isEnabled_eq_true_iff hcount).1 henabled⟩
  · rintro ⟨⟨mode, hmode, hrate, hcount⟩, hpos⟩
    exact ⟨mode, hmode, (OperatingMode.isEnabled_eq_true_iff hcount).2 hpos, hrate, hcount⟩

theorem Offers.mem_points {rate count : UInt32} (hoffers : table.Offers rate count)
    (hpoints : table.points = .ok points) : OperatingPoint.mk rate count ∈ points :=
  (ModeTable.mem_points hpoints).2 (offers_iff.1 hoffers).1

theorem offers_of_mem_points (hpoints : table.points = .ok points) {point : OperatingPoint}
    (hpoint : point ∈ points) (hpos : 0 < point.channels) :
    table.Offers point.rate point.channels :=
  offers_iff.2 ⟨(mem_points hpoints).1 hpoint, hpos⟩

theorem Lists.count_unique {rate count count' : UInt32} (hlists : table.Lists rate count)
    (hlists' : table.Lists rate count') : count = count' := by
  obtain ⟨mode, hmode, hrate, hcount⟩ := hlists
  obtain ⟨mode', hmode', hrate', hcount'⟩ := hlists'
  have hsame := mode_unique hmode hmode' hrate hrate'
  subst hsame
  rw [hcount] at hcount'
  exact Except.ok.inj hcount'

theorem channels_unique (hpoints : table.points = .ok points) {point other : OperatingPoint}
    (hpoint : point ∈ points) (hother : other ∈ points) (hrate : point.rate = other.rate) :
    point.channels = other.channels := by
  have hlists := (mem_points hpoints).1 hpoint
  rw [hrate] at hlists
  exact hlists.count_unique ((mem_points hpoints).1 hother)

/-! ### The rules over counted points -/

theorem ratesGivenChannels_eq (hpoints : table.points = .ok points) (channels : Interval) :
    table.ratesGivenChannels channels = .ok (rateHull points channels) := by
  rw [ratesGivenChannels, hpoints, Except.map]

theorem legalRates_eq (hpoints : table.points = .ok points) (rates : Interval) :
    table.legalRates rates = .ok (legalHull points rates) := by
  rw [legalRates, hpoints, Except.map]

/-- Counting only the modes inside makes no difference once all of them can be counted. -/
theorem channelsGivenRates_eq (hpoints : table.points = .ok points) (rates : Interval) :
    table.channelsGivenRates rates = .ok (channelHull points rates) := by
  obtain ⟨hfits, rfl⟩ := points_eq_ok_iff.1 hpoints
  have hinside : (table.pairs.filter (·.2 ∈ rates)).mapM ofPair =
      .ok ((table.pairs.filter (·.2 ∈ rates)).map ofFitting) :=
    (mapM_eq_ok_iff ofPair_eq_ok_iff).2
      ⟨fun pair hpair => hfits pair (List.mem_filter.1 hpair).1, rfl⟩
  have hsame : ((table.pairs.filter (·.2 ∈ rates)).map ofFitting).filter (·.rate ∈ rates) =
      (table.pairs.map ofFitting).filter (·.rate ∈ rates) := by
    rw [List.filter_map, List.filter_map, List.filter_filter]
    congr 1
    exact List.filter_congr fun pair _ => Bool.and_self (decide (pair.2 ∈ rates))
  rw [channelsGivenRates, hinside, Except.map, channelHull, channelHull, hsame]

/-! ### Modes that can serve a proposal -/

theorem ChannelsFit.viableModes_eq (hfit : table.ChannelsFit) (rates channels : Interval) :
    table.viableModes rates channels = .ok (table.modes.filter fun mode =>
      0 < mode.total && decide (mode.total ∈ channels) && mode.rates.any (· ∈ rates)) :=
  filterM_eq_ok fun mode hmode => by rw [(hfit mode hmode).channels_eq, Except.map]

theorem ChannelsFit.mem_viableModes (hfit : table.ChannelsFit) {rates channels : Interval}
    {viable : List OperatingMode} (hviable : table.viableModes rates channels = .ok viable)
    {mode : OperatingMode} :
    mode ∈ viable ↔ mode ∈ table.modes ∧
      0 < mode.total ∧ mode.total ∈ channels ∧ ∃ rate ∈ mode.rates, rate ∈ rates := by
  rw [hfit.viableModes_eq, Except.ok.injEq] at hviable
  subst hviable
  simp [and_assoc]

theorem ChannelsFit.viableModes_ne_nil_iff (hfit : table.ChannelsFit) {rates channels : Interval}
    {viable : List OperatingMode} (hviable : table.viableModes rates channels = .ok viable) :
    viable ≠ [] ↔ ∃ rate ∈ rates, ∃ count ∈ channels, table.Offers rate count := by
  constructor
  · intro hne
    obtain ⟨mode, hmem⟩ := List.exists_mem_of_ne_nil viable hne
    obtain ⟨hmode, hpos, hcount, rate, hlisted, hrate⟩ := (hfit.mem_viableModes hviable).1 hmem
    exact ⟨rate, hrate, mode.total, hcount,
      offers_iff.2 ⟨⟨mode, hmode, hlisted, (hfit mode hmode).channels_eq⟩, hpos⟩⟩
  · rintro ⟨rate, hrate, count, hcount, hoffers⟩
    obtain ⟨⟨mode, hmode, hlisted, hchannels⟩, hpos⟩ := offers_iff.1 hoffers
    obtain ⟨-, rfl⟩ := OperatingMode.channels_eq_ok_iff.1 hchannels
    exact List.ne_nil_of_mem
      ((hfit.mem_viableModes hviable).2 ⟨hmode, hpos, hcount, rate, hlisted, hrate⟩)

end ModeTable
end DuplexAudio
