import DuplexAudio.Profile
import DuplexAudio.Proofs.Negotiation.Satisfiability
import DuplexAudio.Proofs.RateMask.Bits

/-!
Which rates are legal. A rate is looked up in its mode, drawn in to the legal rates, negotiated
together with a channel count, or read off the window of the table; all of these decide whether an
enabled mode lists it.
-/

namespace DuplexAudio

namespace ModeTable

open OperatingPoint

variable {table : ModeTable} {points : List OperatingPoint} {window : CapabilityWindow}
  {rate count : UInt32}

/-! ### Looking up the mode -/

/-- The mode that lists the rate has channels. -/
def legal (table : ModeTable) (rate : UInt32) : Bool :=
  (table.modeForRate? rate).any (0 < ·.total)

theorem ChannelsFit.isLegalRate_eq (hfit : table.ChannelsFit) (rate : UInt32) :
    table.isLegalRate rate = .ok (table.legal rate) := by
  rw [isLegalRate, legal]
  cases hfound : table.modeForRate? rate with
  | none => rfl
  | some mode =>
    have hmode : mode ∈ table.modes := (modeForRate?_eq_some_iff.1 hfound).1
    change mode.isEnabled = .ok (decide (0 < mode.total))
    rw [OperatingMode.isEnabled, (hfit mode hmode).channels_eq, Except.map]

theorem ChannelsFit.isLegalRate_eq_true_iff (hfit : table.ChannelsFit) :
    table.isLegalRate rate = .ok true ↔ table.legal rate = true := by
  rw [hfit.isLegalRate_eq, Except.ok.injEq]

theorem ChannelsFit.isLegalRate_eq_false_iff (hfit : table.ChannelsFit) :
    table.isLegalRate rate = .ok false ↔ ¬ table.isLegalRate rate = .ok true := by
  rw [hfit.isLegalRate_eq, Except.ok.injEq, Except.ok.injEq, Bool.not_eq_true]

/-- A rate is legal if it is on offer with some channel count. -/
theorem ChannelsFit.legal_iff (hfit : table.ChannelsFit) :
    table.legal rate = true ↔ ∃ count, table.Offers rate count := by
  rw [legal, Option.any_eq_true]
  constructor
  · rintro ⟨mode, hfound, hpos⟩
    obtain ⟨hmode, hrate⟩ := modeForRate?_eq_some_iff.1 hfound
    have hlists : table.Lists rate mode.total := ⟨mode, hmode, hrate, (hfit mode hmode).channels_eq⟩
    exact ⟨mode.total, offers_iff.2 ⟨hlists, of_decide_eq_true hpos⟩⟩
  · rintro ⟨count, hoffers⟩
    obtain ⟨⟨mode, hmode, hrate, hcount⟩, hpos⟩ := offers_iff.1 hoffers
    obtain ⟨-, rfl⟩ := OperatingMode.channels_eq_ok_iff.1 hcount
    exact ⟨mode, modeForRate?_eq_some_iff.2 ⟨hmode, hrate⟩, decide_eq_true hpos⟩

/-- A legal rate is on offer with whatever count it is listed with. -/
theorem ChannelsFit.offers_iff_legal (hfit : table.ChannelsFit) :
    table.Offers rate count ↔ table.legal rate = true ∧ table.Lists rate count := by
  constructor
  · exact fun hoffers => ⟨hfit.legal_iff.2 ⟨count, hoffers⟩, (offers_iff.1 hoffers).1⟩
  · rintro ⟨hlegal, hlists⟩
    obtain ⟨count', hoffers⟩ := hfit.legal_iff.1 hlegal
    rw [hlists.count_unique (offers_iff.1 hoffers).1]
    exact hoffers

/-! ### Drawing in a single rate -/

theorem legalHull_single (hpoints : table.points = .ok points) (hoffers : table.Offers rate count) :
    legalHull points (.single rate) = .single rate := by
  have hpos := (offers_iff.1 hoffers).2
  have hkept : OperatingPoint.mk rate count ∈
      points.filter fun point => 0 < point.channels ∧ point.rate ∈ Interval.single rate :=
    List.mem_filter.2
      ⟨hoffers.mem_points hpoints, decide_eq_true ⟨hpos, Interval.mem_single.2 rfl⟩⟩
  refine Interval.hull_eq_single (List.mem_map_of_mem hkept) ?_
  rw [List.forall_mem_map]
  intro point hmem
  exact Interval.mem_single.1 (of_decide_eq_true (List.mem_filter.1 hmem).2).2

theorem legalHull_single_of_not_offers (hpoints : table.points = .ok points)
    (hnone : ∀ count, ¬ table.Offers rate count) :
    legalHull points (.single rate) = .empty := by
  have hdropped :
      (points.filter fun point => 0 < point.channels ∧ point.rate ∈ Interval.single rate) = [] := by
    rw [List.filter_eq_nil_iff]
    intro point hpoint hkept
    obtain ⟨hpos, hrate⟩ := of_decide_eq_true hkept
    rw [Interval.mem_single] at hrate
    exact hnone point.channels (offers_iff.2 ⟨hrate ▸ (mem_points hpoints).1 hpoint, hpos⟩)
  rw [legalHull, hdropped]
  rfl

theorem ChannelsFit.legalRates_single (hfit : table.ChannelsFit) (rate : UInt32) :
    table.legalRates (.single rate) =
      .ok (if table.legal rate then .single rate else .empty) := by
  rw [legalRates_eq hfit.points_eq]
  split
  · next hlegal =>
    obtain ⟨count, hoffers⟩ := hfit.legal_iff.1 hlegal
    rw [legalHull_single hfit.points_eq hoffers]
  · next hillegal =>
    have hnone : ∀ count, ¬ table.Offers rate count := fun count hoffers =>
      hillegal (hfit.legal_iff.2 ⟨count, hoffers⟩)
    rw [legalHull_single_of_not_offers hfit.points_eq hnone]

/-! ### Negotiating a single rate -/

/-- Under the window of the table, the counts that a rate can be selected with are those it is on
offer with. -/
theorem exists_select_eq_ok_iff (hpoints : table.points = .ok points)
    (hwindow : table.window = .ok window) (direction : Direction) :
    (∃ count params, Constraints.select ⟨direction, table, window⟩ rate count = .ok params) ↔
      ∃ count, table.Offers rate count := by
  have hselect (count : UInt32) (params : StreamParams) :
      Constraints.select ⟨direction, table, window⟩ rate count = .ok params ↔
        params = ⟨rate, count⟩ ∧ Constraints.Legal ⟨direction, table, window⟩ (.single rate)
          (.single count) rate count :=
    Constraints.select_eq_ok_iff hpoints
  constructor
  · rintro ⟨count, params, hselected⟩
    exact ⟨count, ((hselect count params).1 hselected).2.offered⟩
  · rintro ⟨count, hoffers⟩
    obtain ⟨hrate, hcount⟩ := hoffers.mem_window hwindow
    exact ⟨count, ⟨rate, count⟩, (hselect count _).2
      ⟨rfl, hoffers, Interval.mem_single.2 rfl, hrate, Interval.mem_single.2 rfl, hcount⟩⟩

/-! ### The window -/

theorem ChannelsFit.mem_legal_pairs (hfit : table.ChannelsFit) :
    rate ∈ (table.pairs.map (·.2)).filter table.legal ↔ table.legal rate = true := by
  rw [List.mem_filter]
  refine ⟨And.right, fun hlegal => ⟨?_, hlegal⟩⟩
  obtain ⟨count, mode, hmode, -, hrate, -⟩ := hfit.legal_iff.1 hlegal
  have hpair : (mode, rate) ∈ table.pairs := mem_pairs.2 ⟨hmode, hrate⟩
  exact List.mem_map.2 ⟨_, hpair, rfl⟩

theorem ChannelsFit.rateMask_eq (hfit : table.ChannelsFit) :
    table.rateMask = .ok (.ofRates ((table.pairs.map (·.2)).filter table.legal)) := by
  rw [rateMask, filterM_eq_ok fun rate _ => hfit.isLegalRate_eq rate]
  rfl

/-- The points of the enabled modes. -/
def offered (table : ModeTable) : List OperatingPoint :=
  (table.pairs.map ofFitting).filter (0 < ·.channels)

theorem ChannelsFit.mem_offered (hfit : table.ChannelsFit) {point : OperatingPoint} :
    point ∈ table.offered ↔ table.Offers point.rate point.channels := by
  rw [offered, List.mem_filter, mem_points hfit.points_eq, offers_iff, decide_eq_true_eq]

theorem ChannelsFit.mem_offered_rates (hfit : table.ChannelsFit) :
    rate ∈ table.offered.map (·.rate) ↔ table.legal rate = true := by
  rw [hfit.legal_iff, List.mem_map]
  constructor
  · rintro ⟨point, hpoint, rfl⟩
    exact ⟨point.channels, hfit.mem_offered.1 hpoint⟩
  · rintro ⟨count, hoffers⟩
    exact ⟨⟨rate, count⟩, hfit.mem_offered.2 hoffers, rfl⟩

theorem ChannelsFit.mem_offered_channels (hfit : table.ChannelsFit) :
    count ∈ table.offered.map (·.channels) ↔
      ∃ rate, table.legal rate = true ∧ table.Lists rate count := by
  rw [List.mem_map]
  constructor
  · rintro ⟨point, hpoint, rfl⟩
    exact ⟨point.rate, hfit.offers_iff_legal.1 (hfit.mem_offered.1 hpoint)⟩
  · rintro ⟨rate, hlegal⟩
    exact ⟨⟨rate, count⟩, hfit.mem_offered.2 (hfit.offers_iff_legal.2 hlegal), rfl⟩

theorem ChannelsFit.window_eq (hfit : table.ChannelsFit) :
    table.window = .ok {
      rates := .hull (table.offered.map (·.rate))
      channels := .hull (table.offered.map (·.channels))
      rateMask := .ofRates ((table.pairs.map (·.2)).filter table.legal) } := by
  rw [ModeTable.window, hfit.points_eq, hfit.rateMask_eq]
  rfl

/-- All that a window says about the legal rates of its table. -/
structure SummedUpBy (table : ModeTable) (window : CapabilityWindow) : Prop where
  rates_hull : window.rates.IsHullOf fun rate => table.isLegalRate rate = .ok true
  channels_hull : window.channels.IsHullOf fun count =>
    ∃ rate, table.isLegalRate rate = .ok true ∧ table.Lists rate count
  rates_isEmpty_iff : window.rates.isEmpty = true ↔ ∀ rate, table.isLegalRate rate = .ok false
  channels_isEmpty_iff : window.channels.isEmpty = true ↔ window.rates.isEmpty = true
  mask_contains_iff : ∀ rate ∈ RateMask.standard,
    (window.rateMask.contains (.ofRate rate) = true ↔ table.isLegalRate rate = .ok true)
  mask_contains_knot_iff : window.rateMask.contains .knot = true ↔
    ∃ rate, table.isLegalRate rate = .ok true ∧ rate ∉ RateMask.standard
  standardRates_ascending : window.rateMask.standardRates.Pairwise (· < ·)
  mem_standardRates_iff : ∀ rate, rate ∈ window.rateMask.standardRates ↔
    rate ∈ RateMask.standard ∧ table.isLegalRate rate = .ok true

theorem ChannelsFit.summedUpBy (hfit : table.ChannelsFit)
    (hwindow : table.window = .ok window) : table.SummedUpBy window := by
  rw [hfit.window_eq, Except.ok.injEq] at hwindow
  subst hwindow
  have hrates : (Interval.hull (table.offered.map (·.rate))).IsHullOf fun rate =>
      table.isLegalRate rate = .ok true :=
    Interval.isHullOf_hull fun rate =>
      hfit.mem_offered_rates.trans hfit.isLegalRate_eq_true_iff.symm
  have hchannels : (Interval.hull (table.offered.map (·.channels))).IsHullOf fun count =>
      ∃ rate, table.isLegalRate rate = .ok true ∧ table.Lists rate count :=
    Interval.isHullOf_hull fun count => by
      simp only [hfit.mem_offered_channels, hfit.isLegalRate_eq_true_iff]
  have hstandard : ∀ rate ∈ RateMask.standard,
      ((RateMask.ofRates ((table.pairs.map (·.2)).filter table.legal)).contains (.ofRate rate) =
        true ↔ table.isLegalRate rate = .ok true) := by
    intro rate hrate
    rw [RateMask.contains_ofRates_iff_of_standard hrate, hfit.mem_legal_pairs,
      hfit.isLegalRate_eq_true_iff]
  constructor
  case rates_hull => exact hrates
  case channels_hull => exact hchannels
  case rates_isEmpty_iff => simp only [hrates.isEmpty_iff, hfit.isLegalRate_eq_false_iff]
  case channels_isEmpty_iff =>
    rw [hrates.isEmpty_iff, hchannels.isEmpty_iff]
    constructor
    · intro hnone rate hlegal
      obtain ⟨count, hoffers⟩ := hfit.legal_iff.1 (hfit.isLegalRate_eq_true_iff.1 hlegal)
      exact hnone count ⟨rate, hlegal, (offers_iff.1 hoffers).1⟩
    · rintro hnone count ⟨rate, hlegal, -⟩
      exact hnone rate hlegal
  case mask_contains_iff => exact hstandard
  case mask_contains_knot_iff =>
    rw [RateMask.contains_knot_ofRates_iff]
    simp only [hfit.mem_legal_pairs, hfit.isLegalRate_eq_true_iff]
  case standardRates_ascending =>
    rw [RateMask.standardRates_eq_filter]
    exact RateMask.standard_ascending.filter _
  case mem_standardRates_iff =>
    intro rate
    rw [RateMask.standardRates_eq_filter, List.mem_filter]
    exact and_congr_right (hstandard rate)

/-- **All notions of a legal rate agree.** A rate is looked up as legal exactly if drawing it in to
the legal rates keeps it, and exactly if it can be selected with some channel count under the window
of the table; and the window sums up the rates that are. -/
theorem legal_rate_notions_agree (hfit : table.ChannelsFit) :
    ∃ window, table.window = .ok window ∧
      (∀ rate, ∃ answer, table.isLegalRate rate = .ok answer ∧
        table.legalRates (.single rate) = .ok (if answer then .single rate else .empty) ∧
        ∀ direction, (answer = true ↔ ∃ count params,
          Constraints.select ⟨direction, table, window⟩ rate count = .ok params)) ∧
      table.SummedUpBy window := by
  refine ⟨_, hfit.window_eq, fun rate => ?_, hfit.summedUpBy hfit.window_eq⟩
  refine ⟨table.legal rate, hfit.isLegalRate_eq rate, hfit.legalRates_single rate,
    fun direction => ?_⟩
  rw [hfit.legal_iff, exists_select_eq_ok_iff hfit.points_eq hfit.window_eq direction]

/-- The transmitted modes of the stereo interface, the high one of which is disabled. -/
theorem legal_rate_notions_agree_stereo :
    DeviceProfile.stereo.formats.transmit.ChannelsFit ∧
      ∃ window, DeviceProfile.stereo.formats.transmit.window = .ok window ∧
        window.rateMask.standardRates = [44100, 48000, 88200, 96000] ∧
        DeviceProfile.stereo.formats.transmit.SummedUpBy window := by
  have hfit : DeviceProfile.stereo.formats.transmit.ChannelsFit := by decide
  obtain ⟨window, hwindow, -, hsummed⟩ := legal_rate_notions_agree hfit
  have hcomputed : DeviceProfile.stereo.formats.transmit.window =
      .ok { rates := ⟨44100, 96000, true⟩, channels := ⟨2, 4, true⟩, rateMask := ⟨0x6c0⟩ } := by
    decide +kernel
  obtain rfl := Except.ok.inj (hwindow.symm.trans hcomputed)
  exact ⟨hfit, _, hcomputed, by decide +kernel, hsummed⟩

end ModeTable
end DuplexAudio
