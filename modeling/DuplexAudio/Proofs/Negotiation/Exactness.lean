import DuplexAudio.Proofs.Negotiation.Course
import DuplexAudio.Proofs.Negotiation.LegalRates

/-!
Tables on which negotiation is exact. If the channel counts are monotone in the rate, the rates that
go with an interval of counts are all the listed ones between two of them. So the first rule leaves
no listed rate but those that solve the proposal, and one round finds the hulls of the solutions.
-/

namespace DuplexAudio

namespace ModeTable

variable {table : ModeTable} {points : List OperatingPoint} {rates channels : Interval}
  {rate count : UInt32}

/-- Of two rates in `rates` that the table lists, the counts compare as the rates do. -/
def OrderedWithin (table : ModeTable) (rates : Interval)
    (compare : UInt32 → UInt32 → Prop) : Prop :=
  ∀ rate count rate' count', table.Lists rate count → table.Lists rate' count' →
    rate ∈ rates → rate' ∈ rates → rate ≤ rate' → compare count count'

/-- Over the listed rates in `rates` the channel counts do not fall, or they do not rise. -/
def MonotoneWithin (table : ModeTable) (rates : Interval) : Prop :=
  table.OrderedWithin rates (· ≤ ·) ∨ table.OrderedWithin rates (· ≥ ·)

/-- An enabled mode lists the rate with the count, and both are proposed. -/
def Solves (table : ModeTable) (rates channels : Interval) (rate count : UInt32) : Prop :=
  table.Offers rate count ∧ rate ∈ rates ∧ count ∈ channels

theorem orderedWithin_iff (hpoints : table.points = .ok points)
    {compare : UInt32 → UInt32 → Prop} :
    table.OrderedWithin rates compare ↔ ∀ point ∈ points, ∀ other ∈ points,
      point.rate ∈ rates → other.rate ∈ rates → point.rate ≤ other.rate →
        compare point.channels other.channels := by
  constructor
  · intro hordered point hpoint other hother
    exact hordered _ _ _ _ ((mem_points hpoints).1 hpoint) ((mem_points hpoints).1 hother)
  · intro hordered rate count rate' count' hlists hlists'
    exact hordered ⟨rate, count⟩ ((mem_points hpoints).2 hlists) ⟨rate', count'⟩
      ((mem_points hpoints).2 hlists')

/-- A rate between two others is listed with a count between theirs. -/
theorem MonotoneWithin.mem_of_between (hmonotone : table.MonotoneWithin rates)
    {slower fewer faster more : UInt32} (hslower : table.Lists slower fewer)
    (hlists : table.Lists rate count) (hfaster : table.Lists faster more)
    (hrates : slower ∈ rates ∧ faster ∈ rates) (hcounts : fewer ∈ channels ∧ more ∈ channels)
    (hle : slower ≤ rate) (hge : rate ≤ faster) : count ∈ channels := by
  have hrate : rate ∈ rates := ⟨UInt32.le_trans hrates.1.1 hle, UInt32.le_trans hge hrates.2.2⟩
  rcases hmonotone with hrises | hfalls
  · have hlower : fewer ≤ count := hrises _ _ _ _ hslower hlists hrates.1 hrate hle
    have hupper : count ≤ more := hrises _ _ _ _ hlists hfaster hrate hrates.2 hge
    exact ⟨UInt32.le_trans hcounts.1.1 hlower, UInt32.le_trans hupper hcounts.2.2⟩
  · have hlower : more ≤ count := hfalls _ _ _ _ hlists hfaster hrate hrates.2 hge
    have hupper : count ≤ fewer := hfalls _ _ _ _ hslower hlists hrates.1 hrate hle
    exact ⟨UInt32.le_trans hcounts.2.1 hlower, UInt32.le_trans hupper hcounts.1.2⟩

end ModeTable

namespace Constraints

open OperatingPoint Proposal

variable {constraints : Constraints} {rates channels : Interval} {points : List OperatingPoint}
  {negotiated : Negotiated} {rate count : UInt32}

section FirstRound

variable (hpoints : constraints.table.points = .ok points)
  (hwindow : constraints.table.window = .ok constraints.window)

include hwindow in
/-- The window of a table shuts none of its solutions out. -/
theorem legal_iff_solves :
    constraints.Legal rates channels rate count ↔
      constraints.table.Solves rates channels rate count := by
  constructor
  · intro hlegal
    exact ⟨hlegal.offered, hlegal.rate_mem, hlegal.count_mem⟩
  · rintro ⟨hoffers, hrate, hcount⟩
    obtain ⟨hrate', hcount'⟩ := hoffers.mem_window hwindow
    exact ⟨hoffers, hrate, hrate', hcount, hcount'⟩

include hpoints hwindow in
theorem offers_of_mem_clip_channels {point : OperatingPoint} (hpoint : point ∈ points)
    (hcount : point.channels ∈ (constraints.clip rates channels).channels) :
    constraints.table.Offers point.rate point.channels :=
  ModeTable.offers_of_mem_points hpoints hpoint
    (ModeTable.pos_of_mem_window hpoints hwindow (mem_clip_channels.1 hcount).2)

include hpoints in
theorem Legal.mem_fitRates (hlegal : constraints.Legal rates channels rate count) :
    rate ∈ ((constraints.clip rates channels).fitRates points).rates := by
  obtain ⟨hoffers, hrate, hcount⟩ := legal_iff.1 hlegal
  exact Interval.mem_narrow.2 ⟨hrate, rate_mem_rateHull (hoffers.mem_points hpoints) hcount⟩

variable (hmonotone : constraints.table.MonotoneWithin constraints.window.rates)
include hpoints hwindow hmonotone

/-- What the first rule leaves of the listed rates are solutions. -/
theorem legal_of_mem_fitRates {point : OperatingPoint} (hpoint : point ∈ points)
    (hrate : point.rate ∈ ((constraints.clip rates channels).fitRates points).rates) :
    constraints.Legal rates channels point.rate point.channels := by
  obtain ⟨hclipped, hhull⟩ := Interval.mem_narrow.1 hrate
  obtain ⟨⟨slower, hslower, hcount, hle⟩, ⟨faster, hfaster, hcount', hge⟩⟩ :=
    mem_rateHull.1 hhull
  have hoffers := offers_of_mem_clip_channels hpoints hwindow hslower hcount
  have hoffers' := offers_of_mem_clip_channels hpoints hwindow hfaster hcount'
  have hmem : point.channels ∈ (constraints.clip rates channels).channels :=
    hmonotone.mem_of_between (ModeTable.offers_iff.1 hoffers).1
      ((ModeTable.mem_points hpoints).1 hpoint) (ModeTable.offers_iff.1 hoffers').1
      ⟨(hoffers.mem_window hwindow).1, (hoffers'.mem_window hwindow).1⟩ ⟨hcount, hcount'⟩ hle hge
  exact legal_iff.2
    ⟨offers_of_mem_clip_channels hpoints hwindow hpoint hmem, hclipped, hmem⟩

theorem rates_round_isHullOf (rates channels : Interval) :
    ((constraints.clip rates channels).round points).rates.IsHullOf fun rate =>
      ∃ count, constraints.Legal rates channels rate count := by
  rw [rates_round, legalHull]
  apply Interval.isHullOf_narrow_hull
  · intro rate
    rw [List.mem_map]
    constructor
    · rintro ⟨point, hkept, rfl⟩
      obtain ⟨hpoint, hinside⟩ := List.mem_filter.1 hkept
      exact ⟨_, legal_of_mem_fitRates hpoints hwindow hmonotone hpoint
        (of_decide_eq_true hinside).2⟩
    · rintro ⟨count, hlegal⟩
      have hpos := (ModeTable.offers_iff.1 hlegal.offered).2
      have hkept := decide_eq_true (And.intro hpos (hlegal.mem_fitRates hpoints))
      exact ⟨⟨rate, count⟩, List.mem_filter.2 ⟨hlegal.offered.mem_points hpoints, hkept⟩, rfl⟩
  · intro rate hmem
    obtain ⟨point, hkept, rfl⟩ := List.mem_map.1 hmem
    exact (of_decide_eq_true (List.mem_filter.1 hkept).2).2

theorem channels_round_isHullOf (rates channels : Interval) :
    ((constraints.clip rates channels).round points).channels.IsHullOf fun count =>
      ∃ rate, constraints.Legal rates channels rate count := by
  have hlegal : ∀ point ∈ points,
      point.rate ∈ ((constraints.clip rates channels).round points).rates →
        constraints.Legal rates channels point.rate point.channels := by
    intro point hpoint hrate
    exact legal_of_mem_fitRates hpoints hwindow hmonotone hpoint
      (rates_round_le_fitRates points _ _ hrate)
  rw [channels_round, channelHull]
  apply Interval.isHullOf_narrow_hull
  · intro count
    rw [List.mem_map]
    constructor
    · rintro ⟨point, hkept, rfl⟩
      obtain ⟨hpoint, hrate⟩ := List.mem_filter.1 hkept
      exact ⟨_, hlegal point hpoint (of_decide_eq_true hrate)⟩
    · rintro ⟨rate, hsolved⟩
      have hleft : rate ∈ ((constraints.clip rates channels).round points).rates :=
        (rates_round_isHullOf hpoints hwindow hmonotone _ _).covers rate ⟨count, hsolved⟩
      exact ⟨⟨rate, count⟩,
        List.mem_filter.2 ⟨hsolved.offered.mem_points hpoints, decide_eq_true hleft⟩, rfl⟩
  · intro count hmem
    obtain ⟨point, hkept, rfl⟩ := List.mem_map.1 hmem
    obtain ⟨hpoint, hrate⟩ := List.mem_filter.1 hkept
    exact (legal_iff.1 (hlegal point hpoint (of_decide_eq_true hrate))).2.2

omit hwindow hmonotone in
/-- The outermost rates of a hull belong to solutions, whose counts are in the other hull. -/
theorem rates_le_rateHull_of_isHullOf {hulls : Proposal}
    (hrates : hulls.rates.IsHullOf fun rate =>
      ∃ count, constraints.Legal rates channels rate count)
    (hchannels : hulls.channels.IsHullOf fun count =>
      ∃ rate, constraints.Legal rates channels rate count) :
    hulls.rates ≤ rateHull points hulls.channels := by
  intro rate hmem
  have hsome := Interval.isEmpty_eq_false_of_mem hmem
  obtain ⟨count, hlegal⟩ := hrates.lower_covered hsome
  obtain ⟨count', hlegal'⟩ := hrates.upper_covered hsome
  exact mem_rateHull.2
    ⟨⟨_, hlegal.offered.mem_points hpoints, hchannels.covers _ ⟨_, hlegal⟩, hmem.1⟩,
      ⟨_, hlegal'.offered.mem_points hpoints, hchannels.covers _ ⟨_, hlegal'⟩, hmem.2⟩⟩

/-- The first round arrives; a second one may be needed to see that. -/
theorem exists_course_of_legal (hlegal : constraints.Legal rates channels rate count) :
    ∃ rounds ≤ 2, Course points (constraints.clip rates channels) rounds
      (.ok ((constraints.clip rates channels).round points)) := by
  have hrates := rates_round_isHullOf hpoints hwindow hmonotone rates channels
  have hchannels := channels_round_isHullOf hpoints hwindow hmonotone rates channels
  have hrate := hrates.covers rate ⟨count, hlegal⟩
  have hcount := hchannels.covers count ⟨rate, hlegal⟩
  have hsome : ((constraints.clip rates channels).round points).isEmpty = false :=
    isEmpty_eq_false_iff.2
      ⟨Interval.isEmpty_eq_false_of_mem hrate, Interval.isEmpty_eq_false_of_mem hcount⟩
  have hclipped := isEmpty_eq_false_of_le (round_le points _) hsome
  by_cases hround : (constraints.clip rates channels).round points = constraints.clip rates channels
  · refine ⟨1, Nat.le_succ 1, ?_⟩
    rw [hround]
    exact .settled hclipped hround
  · have hrest :=
      round_round_eq hsome (rates_le_rateHull_of_isHullOf hpoints hrates hchannels)
    exact ⟨2, Nat.le_refl 2, .narrowed hclipped hround (.settled hsome hrest)⟩

end FirstRound

/-- An outcome of at most two rounds whose intervals are the hulls of the rates and of the channel
counts of all solutions, so that each bound can be committed to with some value of the other one. -/
structure Exact (constraints : Constraints) (rates channels : Interval) (negotiated : Negotiated) :
    Prop where
  rounds_le : negotiated.rounds ≤ 2
  rates_hull : negotiated.rates.IsHullOf fun rate =>
    ∃ count, constraints.table.Solves rates channels rate count
  channels_hull : negotiated.channels.IsHullOf fun count =>
    ∃ rate, constraints.table.Solves rates channels rate count
  integer : negotiated.rates.integer = true ∧ negotiated.channels.integer = true
  rates_committable : ∀ rate, rate = negotiated.rates.lower ∨ rate = negotiated.rates.upper →
    ∃ count ∈ negotiated.channels, constraints.select rate count = .ok ⟨rate, count⟩
  channels_committable :
    ∀ count, count = negotiated.channels.lower ∨ count = negotiated.channels.upper →
      ∃ rate ∈ negotiated.rates, constraints.select rate count = .ok ⟨rate, count⟩

theorem exact_of_isHullOf (hpoints : constraints.table.points = .ok points)
    (hwindow : constraints.table.window = .ok constraints.window)
    (hrefine : constraints.refine rates channels = .ok negotiated) (hrounds : negotiated.rounds ≤ 2)
    (hrates : negotiated.rates.IsHullOf fun rate =>
      ∃ count, constraints.table.Solves rates channels rate count)
    (hchannels : negotiated.channels.IsHullOf fun count =>
      ∃ rate, constraints.table.Solves rates channels rate count) :
    constraints.Exact rates channels negotiated := by
  obtain ⟨-, -, -, hsome, -⟩ := refine_eq_ok hpoints hrefine
  obtain ⟨hsomeRates, hsomeChannels⟩ := isEmpty_eq_false_iff.1 hsome
  refine ⟨hrounds, hrates, hchannels, integer_of_refine_eq_ok hrefine, ?_, ?_⟩
  · intro rate hbound
    obtain ⟨count, hsolves⟩ : ∃ count, constraints.table.Solves rates channels rate count := by
      rcases hbound with rfl | rfl
      · exact hrates.lower_covered hsomeRates
      · exact hrates.upper_covered hsomeRates
    exact ⟨count, hchannels.covers count ⟨rate, hsolves⟩,
      ((legal_iff_solves hwindow).2 hsolves).select hpoints⟩
  · intro count hbound
    obtain ⟨rate, hsolves⟩ : ∃ rate, constraints.table.Solves rates channels rate count := by
      rcases hbound with rfl | rfl
      · exact hchannels.lower_covered hsomeChannels
      · exact hchannels.upper_covered hsomeChannels
    exact ⟨rate, hrates.covers rate ⟨count, hsolves⟩,
      ((legal_iff_solves hwindow).2 hsolves).select hpoints⟩

section Outcome

variable (hpoints : constraints.table.points = .ok points)
  (hwindow : constraints.table.window = .ok constraints.window)
  (hmonotone : constraints.table.MonotoneWithin constraints.window.rates)
include hpoints hwindow hmonotone

theorem exists_exact_of_solves (hsolves : constraints.table.Solves rates channels rate count) :
    ∃ negotiated, constraints.refine rates channels = .ok negotiated ∧
      constraints.Exact rates channels negotiated := by
  have hrates := rates_round_isHullOf hpoints hwindow hmonotone rates channels
  have hchannels := channels_round_isHullOf hpoints hwindow hmonotone rates channels
  simp only [legal_iff_solves hwindow] at hrates hchannels
  obtain ⟨rounds, hrounds, hcourse⟩ := exists_course_of_legal hpoints hwindow hmonotone
    ((legal_iff_solves hwindow).2 hsolves)
  generalize (constraints.clip rates channels).round points = settled at hcourse hrates hchannels
  have hrefine := refine_of_course hpoints hcourse
  exact ⟨_, hrefine, exact_of_isHullOf hpoints hwindow hrefine hrounds hrates hchannels⟩

theorem refine_eq_unsatisfiable_of_unsolved
    (hnone : ∀ rate count, ¬ constraints.table.Solves rates channels rate count) :
    ∃ restRates restChannels, constraints.refine rates channels =
      .error (.unsatisfiable restRates restChannels) := by
  cases hrefine : constraints.refine rates channels with
  | ok negotiated =>
    -- Whatever is settled on is left by the first round, which leaves no rate.
    obtain ⟨-, -, -, hsome, hsurvives⟩ := refine_eq_ok hpoints hrefine
    have hlower := Interval.lower_mem (isEmpty_eq_false_iff.1 hsome).1
    have hleft := (hsurvives.le_iterate (negotiated_le_clip hrefine) 1).1 _ hlower
    rw [Function.iterate_one] at hleft
    have hempty : ((constraints.clip rates channels).round points).rates.isEmpty = true := by
      rw [(rates_round_isHullOf hpoints hwindow hmonotone rates channels).isEmpty_iff]
      rintro rate ⟨count, hlegal⟩
      exact hnone rate count ((legal_iff_solves hwindow).1 hlegal)
    exact absurd hleft (Interval.not_mem_of_isEmpty hempty _)
  | error fault =>
    obtain ⟨_, rest, rfl, -⟩ := refine_eq_error hpoints hrefine
    exact ⟨rest.rates, rest.channels, rfl⟩

end Outcome

/-- The counts of the factory profile fall with the rate; those of the stereo profile rise, and its
disabled modes lie beyond the window. -/
theorem monotoneWithin_builtIn : ∀ profile ∈ [DeviceProfile.factory, .stereo], ∀ direction,
    ∃ window, (profile.formats.forDirection direction).window = .ok window ∧
      (profile.formats.forDirection direction).MonotoneWithin window.rates := by
  simp only [List.forall_mem_cons, List.not_mem_nil, false_implies, implies_true, and_true]
  constructor
  · intro direction
    have hfit : (DeviceProfile.factory.formats.forDirection direction).ChannelsFit := by
      cases direction <;> decide
    refine ⟨_, hfit.window_eq, Or.inr ((ModeTable.orderedWithin_iff hfit.points_eq).2 ?_)⟩
    cases direction <;> decide +kernel
  · intro direction
    have hfit : (DeviceProfile.stereo.formats.forDirection direction).ChannelsFit := by
      cases direction <;> decide
    refine ⟨_, hfit.window_eq, Or.inl ((ModeTable.orderedWithin_iff hfit.points_eq).2 ?_)⟩
    cases direction <;> decide +kernel

/-- **On a table with monotone counts negotiation is exact.** Let the channel counts not fall, or
not rise, over the listed rates within the window of the table, as they do in the built-in profiles.
Then a proposal that has a solution is settled in at most two rounds on the hulls of all its
solutions, and one that has none is refused as unsatisfiable. -/
theorem refine_exact_of_monotone :
    (∀ constraints : Constraints, constraints.table.ChannelsFit →
      constraints.table.window = .ok constraints.window →
      constraints.table.MonotoneWithin constraints.window.rates → ∀ rates channels,
        ((∃ rate count, constraints.table.Solves rates channels rate count) →
          ∃ negotiated, constraints.refine rates channels = .ok negotiated ∧
            constraints.Exact rates channels negotiated) ∧
        ((∀ rate count, ¬ constraints.table.Solves rates channels rate count) →
          ∃ restRates restChannels, constraints.refine rates channels =
            .error (.unsatisfiable restRates restChannels))) ∧
    ∀ profile ∈ [DeviceProfile.factory, .stereo], ∀ direction,
      ∃ window, (profile.formats.forDirection direction).window = .ok window ∧
        (profile.formats.forDirection direction).MonotoneWithin window.rates := by
  refine ⟨?_, monotoneWithin_builtIn⟩
  intro constraints hfit hwindow hmonotone rates channels
  constructor
  · rintro ⟨rate, count, hsolves⟩
    exact exists_exact_of_solves hfit.points_eq hwindow hmonotone hsolves
  · exact refine_eq_unsatisfiable_of_unsolved hfit.points_eq hwindow hmonotone

def factoryCapture : Constraints where
  direction := .capture
  table := DeviceProfile.factory.formats.transmit
  window := { rates := ⟨44100, 192000, true⟩, channels := ⟨6, 18, true⟩, rateMask := ⟨0x1ec0⟩ }

/-- Between the lowest and the highest rates the middle mode alone has at most sixteen channels, and
no mode has at most thirteen. -/
theorem refine_exact_of_monotone_factoryCapture :
    factoryCapture.table.ChannelsFit ∧
      factoryCapture.table.window = .ok factoryCapture.window ∧
      factoryCapture.table.MonotoneWithin factoryCapture.window.rates ∧
      factoryCapture.table.Solves ⟨48000, 176400, false⟩ ⟨7, 16, true⟩ 88200 14 ∧
      factoryCapture.Exact ⟨48000, 176400, false⟩ ⟨7, 16, true⟩
        { rates := ⟨88200, 96000, true⟩, channels := .single 14, rounds := 2 } ∧
      (∀ rate count,
        ¬ factoryCapture.table.Solves ⟨48000, 176400, false⟩ ⟨7, 13, true⟩ rate count) ∧
      ∃ restRates restChannels, factoryCapture.refine ⟨48000, 176400, false⟩ ⟨7, 13, true⟩ =
        .error (.unsatisfiable restRates restChannels) := by
  have hfit : factoryCapture.table.ChannelsFit := by decide
  have hwindow : factoryCapture.table.window = .ok factoryCapture.window := by decide +kernel
  have hmonotone : factoryCapture.table.MonotoneWithin factoryCapture.window.rates :=
    Or.inr ((ModeTable.orderedWithin_iff hfit.points_eq).2 (by decide +kernel))
  have hsolves : factoryCapture.table.Solves ⟨48000, 176400, false⟩ ⟨7, 16, true⟩ 88200 14 :=
    ⟨⟨{ fixedChannels := 10, variableChannels := 4, rates := [88200, 96000], midiPorts := 1 },
      by decide, by decide, by decide, by decide⟩, by decide, by decide⟩
  have hsettled : factoryCapture.refine ⟨48000, 176400, false⟩ ⟨7, 16, true⟩ =
      .ok { rates := ⟨88200, 96000, true⟩, channels := .single 14, rounds := 2 } := by
    decide +kernel
  have hrefused : factoryCapture.refine ⟨48000, 176400, false⟩ ⟨7, 13, true⟩ =
      .error (.unsatisfiable .empty .empty) := by decide +kernel
  obtain ⟨hexact, -⟩ := refine_exact_of_monotone
  obtain ⟨hfound, -⟩ := hexact factoryCapture hfit hwindow hmonotone ⟨48000, 176400, false⟩
    ⟨7, 16, true⟩
  obtain ⟨hfound', hunsolved⟩ := hexact factoryCapture hfit hwindow hmonotone
    ⟨48000, 176400, false⟩ ⟨7, 13, true⟩
  obtain ⟨negotiated, hrefine, houtcome⟩ := hfound ⟨88200, 14, hsolves⟩
  obtain rfl := Except.ok.inj (hsettled.symm.trans hrefine)
  have hnone : ∀ rate count,
      ¬ factoryCapture.table.Solves ⟨48000, 176400, false⟩ ⟨7, 13, true⟩ rate count := by
    intro rate count hsolves'
    obtain ⟨negotiated, hrefine', -⟩ := hfound' ⟨rate, count, hsolves'⟩
    cases hrefused.symm.trans hrefine'
  exact ⟨hfit, hwindow, hmonotone, hsolves, houtcome, hnone, hunsolved hnone⟩

end Constraints
end DuplexAudio
