import DuplexAudio.Profile
import DuplexAudio.Proofs.Negotiation.Points
import DuplexAudio.Proofs.Interval.Values
import Mathlib.Order.Bounds.Defs

/-!
What each refinement rule computes on its own: the least interval around the rates or the channel
counts that go with the given interval. A rule grows its interval value by value from a seed with
crossed bounds, and the seed leaves no trace in the result.
-/

namespace DuplexAudio

namespace Interval

variable {interval : Interval} {covered covered' : UInt32 → Prop} {values : List UInt32}

/-- The least of all intervals around the covered values: canonical if there are none, and otherwise
from one of them to another. -/
structure TightestAround (interval : Interval) (covered : UInt32 → Prop) : Prop where
  least : IsLeast {outer : Interval | ∀ value, covered value → value ∈ outer} interval
  eq_empty_iff : interval = .empty ↔ ∀ value, ¬ covered value
  bounds_covered : (∃ value, covered value) → covered interval.lower ∧ covered interval.upper

theorem IsHullOf.isLeast (hhull : interval.IsHullOf covered) :
    IsLeast {outer : Interval | ∀ value, covered value → value ∈ outer} interval := by
  refine ⟨hhull.covers, fun outer houter value hmem => ?_⟩
  have hsome : interval.isEmpty = false := isEmpty_eq_false_of_mem hmem
  have hlower : interval.lower ∈ outer := houter _ (hhull.lower_covered hsome)
  have hupper : interval.upper ∈ outer := houter _ (hhull.upper_covered hsome)
  exact ⟨UInt32.le_trans hlower.1 hmem.1, UInt32.le_trans hmem.2 hupper.2⟩

/-- Only the hull of nothing is still the seed: any value, an extreme one too, uncrosses it. -/
theorem hull_eq_empty_iff : hull values = .empty ↔ values = [] := by
  constructor
  · intro hseed
    refine List.eq_nil_iff_forall_not_mem.2 fun value hmem => ?_
    have hinside : value ∈ hull values := mem_hull_of_mem hmem
    rw [hseed] at hinside
    exact not_mem_of_isEmpty (by decide) value hinside
  · rintro rfl
    rfl

theorem tightestAround_hull (hvalues : ∀ value, value ∈ values ↔ covered value) :
    (hull values).TightestAround covered where
  least := (isHullOf_hull hvalues).isLeast
  eq_empty_iff := by
    rw [hull_eq_empty_iff, List.eq_nil_iff_forall_not_mem]
    simp only [hvalues]
  bounds_covered := by
    rintro ⟨value, hcovered⟩
    have hhull : (hull values).IsHullOf covered := isHullOf_hull hvalues
    have hsome : (hull values).isEmpty = false :=
      isEmpty_eq_false_of_mem (hhull.covers value hcovered)
    exact ⟨hhull.lower_covered hsome, hhull.upper_covered hsome⟩

theorem TightestAround.mono {outer : Interval} (hinterval : interval.TightestAround covered)
    (houter : outer.TightestAround covered') (hsub : ∀ value, covered value → covered' value) :
    interval ≤ outer :=
  hinterval.least.2 fun value hcovered => houter.least.1 value (hsub value hcovered)

end Interval

namespace ModeTable

open OperatingPoint

variable {table : ModeTable} {points : List OperatingPoint}

/-- Whatever interval is given, the rule succeeds with the tightest one around the values that go
with it, and never with a smaller one for a wider interval. -/
structure ComputesHulls (rule : Interval → Except ChannelOverflow Interval)
    (covered : Interval → UInt32 → Prop) : Prop where
  tightest : ∀ given, ∃ hull, rule given = .ok hull ∧ hull.TightestAround (covered given)
  monotone : ∀ given wider hull hull', given ≤ wider →
    rule given = .ok hull → rule wider = .ok hull' → hull ≤ hull'

/-- Least intervals around more values are no smaller, so only the values need comparing. -/
theorem computesHulls_of_tightest {rule : Interval → Except ChannelOverflow Interval}
    {covered : Interval → UInt32 → Prop} {hullOf : Interval → Interval}
    (hrule : ∀ given, rule given = .ok (hullOf given))
    (htightest : ∀ given, (hullOf given).TightestAround (covered given))
    (hmono : ∀ given wider, given ≤ wider → ∀ value, covered given value → covered wider value) :
    ComputesHulls rule covered where
  tightest given := ⟨hullOf given, hrule given, htightest given⟩
  monotone given wider hull hull' hle hhull hhull' := by
    rw [hrule, Except.ok.injEq] at hhull hhull'
    subst hhull hhull'
    exact (htightest given).mono (htightest wider) (hmono given wider hle)

theorem tightestAround_rateHull (hpoints : table.points = .ok points) (channels : Interval) :
    (rateHull points channels).TightestAround fun rate =>
      ∃ count ∈ channels, table.Lists rate count := by
  refine Interval.tightestAround_hull fun rate => ?_
  simp only [List.mem_map, List.mem_filter, decide_eq_true_eq]
  constructor
  · rintro ⟨point, ⟨hpoint, hcount⟩, rfl⟩
    exact ⟨point.channels, hcount, (mem_points hpoints).1 hpoint⟩
  · rintro ⟨count, hcount, hlists⟩
    exact ⟨⟨rate, count⟩, ⟨(mem_points hpoints).2 hlists, hcount⟩, rfl⟩

theorem tightestAround_channelHull (hpoints : table.points = .ok points) (rates : Interval) :
    (channelHull points rates).TightestAround fun count =>
      ∃ rate ∈ rates, table.Lists rate count := by
  refine Interval.tightestAround_hull fun count => ?_
  simp only [List.mem_map, List.mem_filter, decide_eq_true_eq]
  constructor
  · rintro ⟨point, ⟨hpoint, hrate⟩, rfl⟩
    exact ⟨point.rate, hrate, (mem_points hpoints).1 hpoint⟩
  · rintro ⟨rate, hrate, hlists⟩
    exact ⟨⟨rate, count⟩, ⟨(mem_points hpoints).2 hlists, hrate⟩, rfl⟩

theorem tightestAround_legalHull (hpoints : table.points = .ok points) (rates : Interval) :
    (legalHull points rates).TightestAround fun rate =>
      rate ∈ rates ∧ ∃ count, table.Offers rate count := by
  refine Interval.tightestAround_hull fun rate => ?_
  simp only [List.mem_map, List.mem_filter, decide_eq_true_eq]
  constructor
  · rintro ⟨point, ⟨hpoint, hpos, hrate⟩, rfl⟩
    exact ⟨hrate, point.channels, offers_of_mem_points hpoints hpoint hpos⟩
  · rintro ⟨hrate, count, hoffers⟩
    have hpos : 0 < count := (offers_iff.1 hoffers).2
    exact ⟨⟨rate, count⟩, ⟨hoffers.mem_points hpoints, hpos, hrate⟩, rfl⟩

/-- **The rules compute exact hulls.** Given an interval, the rules answer with the least interval
around the rates listed with a channel count inside, around the channel counts listed with a rate
inside, and around the rates inside that enabled modes list. -/
theorem rules_compute_hulls (hfit : table.ChannelsFit) :
    ComputesHulls table.ratesGivenChannels
        (fun channels rate => ∃ count ∈ channels, table.Lists rate count) ∧
      ComputesHulls table.channelsGivenRates
        (fun rates count => ∃ rate ∈ rates, table.Lists rate count) ∧
      ComputesHulls table.legalRates
        (fun rates rate => rate ∈ rates ∧ ∃ count, table.Offers rate count) := by
  have hpoints := hfit.points_eq
  refine ⟨?_, ?_, ?_⟩
  · refine computesHulls_of_tightest (ratesGivenChannels_eq hpoints)
      (tightestAround_rateHull hpoints) ?_
    rintro given wider hle rate ⟨count, hcount, hlists⟩
    exact ⟨count, hle count hcount, hlists⟩
  · refine computesHulls_of_tightest (channelsGivenRates_eq hpoints)
      (tightestAround_channelHull hpoints) ?_
    rintro given wider hle count ⟨rate, hrate, hlists⟩
    exact ⟨rate, hle rate hrate, hlists⟩
  · refine computesHulls_of_tightest (legalRates_eq hpoints) (tightestAround_legalHull hpoints) ?_
    rintro given wider hle rate ⟨hrate, hoffers⟩
    exact ⟨hle rate hrate, hoffers⟩

/-- The modes of the stereo interface. No enabled one lists a rate between 44.1 and 48 kHz, and an
interval of counts that starts at zero reaches the disabled mode at 192 kHz. -/
theorem rules_compute_hulls_stereo :
    DeviceProfile.stereo.formats.transmit.ChannelsFit ∧
      (∀ rate ∈ Interval.mk 45000 47000 true, ∀ count,
        ¬ DeviceProfile.stereo.formats.transmit.Offers rate count) ∧
      ∃ count ∈ Interval.mk 0 2 true,
        DeviceProfile.stereo.formats.transmit.Lists 192000 count := by
  have hfit : DeviceProfile.stereo.formats.transmit.ChannelsFit := by decide
  obtain ⟨hrates, -, hlegal⟩ := rules_compute_hulls hfit
  have hnone : DeviceProfile.stereo.formats.transmit.legalRates ⟨45000, 47000, true⟩ =
      .ok .empty := by decide +kernel
  have hreaching : DeviceProfile.stereo.formats.transmit.ratesGivenChannels ⟨0, 2, true⟩ =
      .ok ⟨44100, 192000, true⟩ := by decide +kernel
  obtain ⟨legal, hempty, hlegal⟩ := hlegal.tightest ⟨45000, 47000, true⟩
  obtain ⟨rates, hwide, hrates⟩ := hrates.tightest ⟨0, 2, true⟩
  obtain rfl := Except.ok.inj (hnone.symm.trans hempty)
  obtain rfl := Except.ok.inj (hreaching.symm.trans hwide)
  have hlisted : ∃ rate, ∃ count ∈ Interval.mk 0 2 true,
      DeviceProfile.stereo.formats.transmit.Lists rate count := by
    by_contra hunlisted
    exact absurd (hrates.eq_empty_iff.2 (not_exists.1 hunlisted)) (by decide)
  refine ⟨hfit, fun rate hrate count hoffers => ?_, (hrates.bounds_covered hlisted).2⟩
  exact hlegal.eq_empty_iff.1 rfl rate ⟨hrate, count, hoffers⟩

end ModeTable
end DuplexAudio
