import DuplexAudio.Proofs.Negotiation.Completeness

/-!
When a settled negotiation can be committed to. The rules work on hulls, so an outcome with values
need not contain a point of the table: modes on both sides of it may keep it alive. That is the only
way to fail, and it cannot happen to a proposal that asks for one rate, or that leaves the rates or
the channels to the window.
-/

namespace DuplexAudio

namespace Proposal

open OperatingPoint

variable {points : List OperatingPoint} {proposal : Proposal}

theorem Survives.exists_enabled (hsurvives : proposal.Survives points)
    (hsome : proposal.isEmpty = false) :
    ∃ point ∈ points, 0 < point.channels ∧ point.rate ∈ proposal.rates := by
  have hlower := Interval.lower_mem (isEmpty_eq_false_iff.1 hsome).1
  obtain ⟨⟨point, hpoint, hinside, -⟩, -⟩ :=
    mem_legalHull.1 (hsurvives.rates_le_legalHull _ hlower)
  exact ⟨point, hpoint, hinside⟩

/-- At a single rate only the channel count listed with it is left. -/
theorem Survives.channels_eq_of_rates_le_single {rate : UInt32}
    (hsurvives : proposal.Survives points) (hsome : proposal.isEmpty = false)
    (hrates : proposal.rates ≤ .single rate)
    (hunique : ∀ point ∈ points, ∀ other ∈ points, point.rate = other.rate →
      point.channels = other.channels) :
    ∃ point ∈ points, point.rate = rate ∧ 0 < point.channels ∧
      ∀ count, count ∈ proposal.channels ↔ count = point.channels := by
  obtain ⟨point, hpoint, hpos, hrate⟩ := hsurvives.exists_enabled hsome
  have hrate_eq : point.rate = rate := Interval.mem_single.1 (hrates _ hrate)
  have honly : ∀ count ∈ proposal.channels, count = point.channels := by
    intro count hcount
    obtain ⟨⟨below, hbelow, hbelow_rate, hle⟩, ⟨above, habove, habove_rate, hge⟩⟩ :=
      mem_channelHull.1 (hsurvives.channels_le_channelHull count hcount)
    have hbelow_eq : below.channels = point.channels := hunique below hbelow point hpoint
      (by rw [Interval.mem_single.1 (hrates _ hbelow_rate), hrate_eq])
    have habove_eq : above.channels = point.channels := hunique above habove point hpoint
      (by rw [Interval.mem_single.1 (hrates _ habove_rate), hrate_eq])
    rw [hbelow_eq] at hle
    rw [habove_eq] at hge
    exact UInt32.le_antisymm hge hle
  refine ⟨point, hpoint, hrate_eq, hpos, fun count => ⟨honly count, ?_⟩⟩
  rintro rfl
  have hlower := Interval.lower_mem (isEmpty_eq_false_iff.1 hsome).2
  exact honly _ hlower ▸ hlower

end Proposal

namespace ModeTable

variable {table : ModeTable} {points : List OperatingPoint} {window : CapabilityWindow}
  {rates channels : Interval} {rate count : UInt32}

/-! ### The window of a table -/

theorem window_eq_ok (hpoints : table.points = .ok points) (hwindow : table.window = .ok window) :
    window.rates = Interval.hull ((points.filter (0 < ·.channels)).map (·.rate)) ∧
      window.channels = Interval.hull ((points.filter (0 < ·.channels)).map (·.channels)) := by
  rw [ModeTable.window, hpoints] at hwindow
  cases hmask : table.rateMask with
  | error overflow =>
    rw [hmask] at hwindow
    cases hwindow
  | ok mask =>
    rw [hmask] at hwindow
    cases hwindow
    exact ⟨rfl, rfl⟩

/-- The window needed the channels of every mode. -/
theorem exists_points_of_window (hwindow : table.window = .ok window) :
    ∃ points, table.points = .ok points := by
  obtain ⟨points, hpoints, -⟩ := exists_of_bind_eq_ok hwindow
  exact ⟨points, hpoints⟩

theorem Offers.mem_window (hwindow : table.window = .ok window)
    (hoffers : table.Offers rate count) : rate ∈ window.rates ∧ count ∈ window.channels := by
  obtain ⟨points, hpoints⟩ := exists_points_of_window hwindow
  have hkept : OperatingPoint.mk rate count ∈ points.filter (0 < ·.channels) :=
    List.mem_filter.2 ⟨hoffers.mem_points hpoints, decide_eq_true (offers_iff.1 hoffers).2⟩
  obtain ⟨hrates, hchannels⟩ := window_eq_ok hpoints hwindow
  rw [hrates, hchannels]
  exact ⟨Interval.mem_hull_of_mem (List.mem_map_of_mem hkept),
    Interval.mem_hull_of_mem (List.mem_map_of_mem hkept)⟩

theorem pos_of_mem_window (hpoints : table.points = .ok points)
    (hwindow : table.window = .ok window) (hcount : count ∈ window.channels) : 0 < count := by
  rw [(window_eq_ok hpoints hwindow).2, Interval.mem_hull_map_filter] at hcount
  obtain ⟨⟨below, -, hpos, hle⟩, -⟩ := hcount
  exact UInt32.lt_of_lt_of_le (of_decide_eq_true hpos) hle

/-! ### Straddled intervals -/

/-- No listed rate inside `rates` goes with a count inside `channels`, but the counts at those rates
surround `channels`, and the rates at those counts surround `rates`. -/
structure Straddles (table : ModeTable) (rates channels : Interval) : Prop where
  apart : ∀ rate count, table.Lists rate count → rate ∈ rates → count ∉ channels
  fewer : ∃ rate count, table.Lists rate count ∧ rate ∈ rates ∧ count < channels.lower
  more : ∃ rate count, table.Lists rate count ∧ rate ∈ rates ∧ channels.upper < count
  slower : ∃ rate count, table.Lists rate count ∧ count ∈ channels ∧ rate < rates.lower
  faster : ∃ rate count, table.Lists rate count ∧ count ∈ channels ∧ rates.upper < rate

/-- An outcome with values that contains no point is kept alive from all four sides. -/
theorem straddles_of_survives (hpoints : table.points = .ok points)
    (hsurvives : Proposal.Survives points ⟨rates, channels⟩)
    (hsome : Proposal.isEmpty ⟨rates, channels⟩ = false)
    (hapart : ∀ rate count, table.Lists rate count → rate ∈ rates → count ∉ channels) :
    table.Straddles rates channels := by
  obtain ⟨hrates, hchannels⟩ := Proposal.isEmpty_eq_false_iff.1 hsome
  have hlists : ∀ point ∈ points, table.Lists point.rate point.channels :=
    fun _ hpoint => (mem_points hpoints).1 hpoint
  obtain ⟨⟨fewer, hfewer, hfewer_rate, hfewer_le⟩, -⟩ := OperatingPoint.mem_channelHull.1
    (hsurvives.channels_le_channelHull _ (Interval.lower_mem hchannels))
  obtain ⟨-, ⟨more, hmore, hmore_rate, hmore_ge⟩⟩ := OperatingPoint.mem_channelHull.1
    (hsurvives.channels_le_channelHull _ (Interval.upper_mem hchannels))
  obtain ⟨⟨slower, hslower, hslower_count, hslower_le⟩, -⟩ := OperatingPoint.mem_rateHull.1
    (hsurvives.rates_le_rateHull _ (Interval.lower_mem hrates))
  obtain ⟨-, ⟨faster, hfaster, hfaster_count, hfaster_ge⟩⟩ := OperatingPoint.mem_rateHull.1
    (hsurvives.rates_le_rateHull _ (Interval.upper_mem hrates))
  -- A covering point on the bound itself would lie inside both intervals.
  refine ⟨hapart, ⟨_, _, hlists _ hfewer, hfewer_rate, ?_⟩, ⟨_, _, hlists _ hmore, hmore_rate, ?_⟩,
    ⟨_, _, hlists _ hslower, hslower_count, ?_⟩, ⟨_, _, hlists _ hfaster, hfaster_count, ?_⟩⟩
  · refine UInt32.lt_of_le_of_ne hfewer_le fun heq => ?_
    exact hapart _ _ (hlists _ hfewer) hfewer_rate (heq ▸ Interval.lower_mem hchannels)
  · refine UInt32.lt_of_le_of_ne hmore_ge fun heq => ?_
    exact hapart _ _ (hlists _ hmore) hmore_rate (heq ▸ Interval.upper_mem hchannels)
  · refine UInt32.lt_of_le_of_ne hslower_le fun heq => ?_
    exact hapart _ _ (hlists _ hslower) (heq ▸ Interval.lower_mem hrates) hslower_count
  · refine UInt32.lt_of_le_of_ne hfaster_ge fun heq => ?_
    exact hapart _ _ (hlists _ hfaster) (heq ▸ Interval.upper_mem hrates) hfaster_count

/-- One mode at the outermost rates and two others, with fewer and with more channels, between. -/
def interleaved : ModeTable where
  modes :=
    [{ fixedChannels := 8, rates := [44100, 96000] },
     { fixedChannels := 4, rates := [48000] },
     { fixedChannels := 12, rates := [88200] }]
  wellFormed := by
    simp only [List.mem_cons, List.not_mem_nil, or_false, forall_eq_or_imp, forall_eq,
      OperatingMode.wellFormed_iff]
    decide
  disjoint := by
    simp only [RatesDisjoint, List.pairwise_cons, List.mem_cons, List.not_mem_nil, or_false,
      forall_eq_or_imp, forall_eq, List.Pairwise.nil, false_implies, implies_true, and_true]
    decide

end ModeTable

namespace Constraints

variable {constraints : Constraints} {rates channels : Interval} {points : List OperatingPoint}
  {negotiated : Negotiated} {rate count : UInt32}

/-! ### A single rate -/

theorem legal_single_iff :
    constraints.Legal (.single rate) (.single count) rate count ↔
      constraints.table.Offers rate count ∧ rate ∈ constraints.window.rates ∧
        count ∈ constraints.window.channels := by
  constructor
  · intro hlegal
    exact ⟨hlegal.offered, hlegal.rate_mem_window, hlegal.count_mem_window⟩
  · rintro ⟨hoffered, hrate, hcount⟩
    exact ⟨hoffered, Interval.mem_single.2 rfl, hrate, Interval.mem_single.2 rfl, hcount⟩

/-- At one rate there is one outcome: that rate with the count that it is on offer with. -/
theorem refine_eq_ok_of_single {rates channels : Interval} {negotiated : Negotiated}
    (hrefine : constraints.refine rates channels = .ok negotiated) (hrates : rates ≤ .single rate) :
    negotiated.rates = .single rate ∧ rate ∈ constraints.window.rates ∧
      ∃ count, constraints.table.Offers rate count ∧ negotiated.channels = .single count := by
  obtain ⟨points, hpoints⟩ := points_of_refine_eq_ok hrefine
  obtain ⟨-, -, -, hsome, hsurvives⟩ := refine_eq_ok hpoints hrefine
  obtain ⟨hinteger, hinteger'⟩ := integer_of_refine_eq_ok hrefine
  have hwithin : negotiated.rates ≤ .single rate := by
    intro other hother
    exact hrates _ (mem_clip_rates.1 ((negotiated_le_clip hrefine).1 _ hother)).1
  obtain ⟨point, hpoint, rfl, hpos, hcounts⟩ := hsurvives.channels_eq_of_rates_le_single hsome
    hwithin fun _ hpoint _ hother => ModeTable.channels_unique hpoints hpoint hother
  have hlower := Interval.lower_mem (Proposal.isEmpty_eq_false_iff.1 hsome).1
  have hmem : point.rate ∈ negotiated.rates := Interval.mem_single.1 (hwithin _ hlower) ▸ hlower
  have honly : ∀ other, other ∈ negotiated.rates ↔ other = point.rate := by
    intro other
    constructor
    · intro hother
      exact Interval.mem_single.1 (hwithin _ hother)
    · rintro rfl
      exact hmem
  exact ⟨Interval.eq_single_of_forall_mem_iff honly hinteger,
    (mem_clip_rates.1 ((negotiated_le_clip hrefine).1 _ hmem)).2, point.channels,
    ModeTable.offers_iff.2 ⟨(ModeTable.mem_points hpoints).1 hpoint, hpos⟩,
    Interval.eq_single_of_forall_mem_iff hcounts hinteger'⟩

theorem exists_legal_of_refine_single
    (hrefine : constraints.refine (.single rate) channels = .ok negotiated) :
    ∃ count, constraints.Legal (.single rate) channels rate count ∧
      negotiated.rates = .single rate ∧ negotiated.channels = .single count := by
  obtain ⟨hrates, hrate, count, hoffers, hchannels⟩ :=
    refine_eq_ok_of_single hrefine (le_refl _)
  have hmem : count ∈ negotiated.channels := hchannels ▸ Interval.mem_single.2 rfl
  obtain ⟨hcount, hcount'⟩ := mem_clip_channels.1 ((negotiated_le_clip hrefine).2 _ hmem)
  exact ⟨count, ⟨hoffers, Interval.mem_single.2 rfl, hrate, hcount, hcount'⟩, hrates, hchannels⟩

/-! ### Commitments -/

/-- A rate and a channel count can be committed to exactly if they are a point on offer within the
window. -/
theorem select_eq_ok_iff (hpoints : constraints.table.points = .ok points)
    {params : StreamParams} :
    constraints.select rate count = .ok params ↔
      params = ⟨rate, count⟩ ∧
        constraints.Legal (.single rate) (.single count) rate count := by
  rw [select]
  cases hrefine : constraints.refine (.single rate) (.single count) with
  | error fault =>
    have hnone : ¬ constraints.Legal (.single rate) (.single count) rate count :=
      not_legal_of_refine_eq_error hpoints hrefine
    simp [Except.map, hnone]
  | ok negotiated =>
    have hlegal : constraints.Legal (.single rate) (.single count) rate count := by
      obtain ⟨count', hlegal, -⟩ := exists_legal_of_refine_single hrefine
      obtain rfl := Interval.mem_single.1 hlegal.count_mem
      exact hlegal
    simp [Except.map, hlegal, eq_comm]

theorem Legal.select (hpoints : constraints.table.points = .ok points)
    (hlegal : constraints.Legal rates channels rate count) :
    constraints.select rate count = .ok ⟨rate, count⟩ :=
  (select_eq_ok_iff hpoints).2 ⟨rfl, legal_single_iff.2
    ⟨hlegal.offered, hlegal.rate_mem_window, hlegal.count_mem_window⟩⟩

/-- Whatever was committed to is on offer within the window. -/
theorem legal_of_select_eq_ok {params : StreamParams}
    (hselect : constraints.select rate count = .ok params) :
    params = ⟨rate, count⟩ ∧ constraints.Legal (.single rate) (.single count) rate count := by
  cases hrefine : constraints.refine (.single rate) (.single count) with
  | error fault =>
    rw [select, hrefine] at hselect
    cases hselect
  | ok negotiated =>
    obtain ⟨points, hpoints⟩ := points_of_refine_eq_ok hrefine
    exact (select_eq_ok_iff hpoints).1 hselect

theorem exists_select_iff (hpoints : constraints.table.points = .ok points)
    (hrefine : constraints.refine rates channels = .ok negotiated) :
    (∃ rate ∈ negotiated.rates, ∃ count ∈ negotiated.channels, ∃ params,
      constraints.select rate count = .ok params) ↔
      ∃ rate ∈ negotiated.rates, ∃ count ∈ negotiated.channels,
        constraints.table.Offers rate count := by
  obtain ⟨hrates, hchannels⟩ := negotiated_le_clip hrefine
  constructor
  · rintro ⟨rate, hrate, count, hcount, params, hselect⟩
    exact ⟨rate, hrate, count, hcount, ((select_eq_ok_iff hpoints).1 hselect).2.offered⟩
  · rintro ⟨rate, hrate, count, hcount, hoffers⟩
    refine ⟨rate, hrate, count, hcount, ⟨rate, count⟩, (select_eq_ok_iff hpoints).2 ⟨rfl, ?_⟩⟩
    exact ⟨hoffers, Interval.mem_single.2 rfl, (mem_clip_rates.1 (hrates _ hrate)).2,
      Interval.mem_single.2 rfl, (mem_clip_channels.1 (hchannels _ hcount)).2⟩

/-- Within the window of the table, an outcome either contains a point on offer or is straddled. -/
theorem exists_offers_or_straddles (hpoints : constraints.table.points = .ok points)
    (hwindow : constraints.table.window = .ok constraints.window)
    (hrefine : constraints.refine rates channels = .ok negotiated) :
    (∃ rate ∈ negotiated.rates, ∃ count ∈ negotiated.channels,
      constraints.table.Offers rate count) ∨
      constraints.table.Straddles negotiated.rates negotiated.channels := by
  by_cases hinside : ∃ rate ∈ negotiated.rates, ∃ count ∈ negotiated.channels,
      constraints.table.Offers rate count
  · exact Or.inl hinside
  · refine Or.inr ?_
    obtain ⟨-, -, -, hsome, hsurvives⟩ := refine_eq_ok hpoints hrefine
    refine ModeTable.straddles_of_survives hpoints hsurvives hsome ?_
    intro rate count hlists hrate hcount
    have hwithin := mem_clip_channels.1 ((negotiated_le_clip hrefine).2 _ hcount)
    have hpos := ModeTable.pos_of_mem_window hpoints hwindow hwithin.2
    exact hinside ⟨rate, hrate, count, hcount, ModeTable.offers_iff.2 ⟨hlists, hpos⟩⟩

/-- A proposal that leaves the rates to the window is not straddled: the slower neighbour that keeps
the outcome alive would itself be a solution. -/
theorem not_straddles_of_all_rates (hpoints : constraints.table.points = .ok points)
    (hwindow : constraints.table.window = .ok constraints.window)
    (hrefine : constraints.refine rates channels = .ok negotiated)
    (hall : constraints.window.rates ≤ rates) :
    ¬ constraints.table.Straddles negotiated.rates negotiated.channels := by
  intro hstraddles
  obtain ⟨rate, count, hlists, hcount, hslower⟩ := hstraddles.slower
  have hwithin := mem_clip_channels.1 ((negotiated_le_clip hrefine).2 _ hcount)
  have hpos := ModeTable.pos_of_mem_window hpoints hwindow hwithin.2
  have hoffers : constraints.table.Offers rate count := ModeTable.offers_iff.2 ⟨hlists, hpos⟩
  have hrate := (hoffers.mem_window hwindow).1
  have hlegal : constraints.Legal rates channels rate count :=
    ⟨hoffers, hall _ hrate, hrate, hwithin.1, hwithin.2⟩
  exact UInt32.not_le.2 hslower (hlegal.mem_negotiated hrefine).1.1

theorem not_straddles_of_all_channels (hpoints : constraints.table.points = .ok points)
    (hwindow : constraints.table.window = .ok constraints.window)
    (hrefine : constraints.refine rates channels = .ok negotiated)
    (hall : constraints.window.channels ≤ channels) :
    ¬ constraints.table.Straddles negotiated.rates negotiated.channels := by
  intro hstraddles
  obtain ⟨-, -, -, hsome, hsurvives⟩ := refine_eq_ok hpoints hrefine
  obtain ⟨⟨rate, count⟩, hpoint, hpos, hrate⟩ := hsurvives.exists_enabled hsome
  have hlists := (ModeTable.mem_points hpoints).1 hpoint
  have hoffers : constraints.table.Offers rate count := ModeTable.offers_iff.2 ⟨hlists, hpos⟩
  have hcount := (hoffers.mem_window hwindow).2
  have hwithin := mem_clip_rates.1 ((negotiated_le_clip hrefine).1 _ hrate)
  have hlegal : constraints.Legal rates channels rate count :=
    ⟨hoffers, hwithin.1, hwithin.2, hall _ hcount, hcount⟩
  exact hstraddles.apart rate count hlists hrate (hlegal.mem_negotiated hrefine).2

/-- A single rate is not straddled: it is listed with one count, which cannot be on both sides. -/
theorem not_straddles_of_single_rate
    (hrefine : constraints.refine rates channels = .ok negotiated)
    (hsingle : rates.isSingle = true) :
    ¬ constraints.table.Straddles negotiated.rates negotiated.channels := by
  intro hstraddles
  obtain ⟨points, hpoints⟩ := points_of_refine_eq_ok hrefine
  obtain ⟨-, -, -, hsome, -⟩ := refine_eq_ok hpoints hrefine
  obtain ⟨rate, count, hlists, hrate, hfewer⟩ := hstraddles.fewer
  obtain ⟨rate', count', hlists', hrate', hmore⟩ := hstraddles.more
  have hone : ∀ rate ∈ negotiated.rates, rate = rates.lower := by
    intro rate hmem
    have hwithin := (mem_clip_rates.1 ((negotiated_le_clip hrefine).1 _ hmem)).1
    have hbounds : rates.lower = rates.upper := by simpa [Interval.isSingle] using hsingle
    exact UInt32.le_antisymm (hbounds ▸ hwithin.2) hwithin.1
  rw [hone rate hrate] at hlists
  rw [hone rate' hrate'] at hlists'
  have hcount := hlists.count_unique hlists'
  have hbounds := Interval.isEmpty_eq_false_iff.1 (Proposal.isEmpty_eq_false_iff.1 hsome).2
  rw [hcount] at hfewer
  exact absurd (UInt32.lt_of_lt_of_le hfewer hbounds) (UInt32.lt_asymm hmore)

/-- **A settled negotiation can be committed to unless the table straddles it.** Within the window
of the table, viable modes are left exactly if some rate and channel count of the outcome can be
selected, and exactly if the outcome is not straddled. It never is if the proposal covers all rates
or all channel counts of the window, or asks for a single rate. -/
theorem refine_satisfiable_iff_not_straddled (hfit : constraints.table.ChannelsFit)
    (hwindow : constraints.table.window = .ok constraints.window)
    (hrefine : constraints.refine rates channels = .ok negotiated) :
    ∃ viable, constraints.table.viableModes negotiated.rates negotiated.channels = .ok viable ∧
      (viable ≠ [] ↔ ∃ rate ∈ negotiated.rates, ∃ count ∈ negotiated.channels, ∃ params,
        constraints.select rate count = .ok params) ∧
      (viable = [] ↔ constraints.table.Straddles negotiated.rates negotiated.channels) ∧
      (rates.includes constraints.window.rates = true ∨
        channels.includes constraints.window.channels = true ∨ rates.isSingle = true →
          viable ≠ []) := by
  have hpoints := hfit.points_eq
  obtain ⟨viable, hviable⟩ : ∃ viable,
      constraints.table.viableModes negotiated.rates negotiated.channels = .ok viable :=
    ⟨_, hfit.viableModes_eq _ _⟩
  have hoffers := hfit.viableModes_ne_nil_iff hviable
  have hstraddled :
      viable = [] ↔ constraints.table.Straddles negotiated.rates negotiated.channels := by
    rw [← not_iff_not, ← ne_eq, hoffers]
    constructor
    · rintro ⟨rate, hrate, count, hcount, hoffered⟩ hstraddles
      exact hstraddles.apart rate count (ModeTable.offers_iff.1 hoffered).1 hrate hcount
    · exact (exists_offers_or_straddles hpoints hwindow hrefine).resolve_right
  refine ⟨viable, hviable, hoffers.trans (exists_select_iff hpoints hrefine).symm, hstraddled, ?_⟩
  rintro hcase hnone
  have hstraddles := hstraddled.1 hnone
  rcases hcase with hrates | hchannels | hsingle
  · exact not_straddles_of_all_rates hpoints hwindow hrefine (Interval.includes_iff_le.1 hrates)
      hstraddles
  · exact not_straddles_of_all_channels hpoints hwindow hrefine
      (Interval.includes_iff_le.1 hchannels) hstraddles
  · exact not_straddles_of_single_rate hrefine hsingle hstraddles

def interleaved : Constraints where
  direction := .capture
  table := .interleaved
  window := { rates := ⟨44100, 96000, true⟩, channels := ⟨4, 12, true⟩, rateMask := ⟨0x6c0⟩ }

/-- At all rates the mode at both ends is viable; between them the outcome is straddled. -/
theorem refine_interleaved_all_rates_and_between :
    (∃ viable, interleaved.table.viableModes ⟨44100, 96000, true⟩ (.single 8) = .ok viable ∧
      viable ≠ []) ∧
      interleaved.table.Straddles ⟨48000, 88200, true⟩ (.single 8) := by
  have hfit : interleaved.table.ChannelsFit := by decide
  have hwindow : interleaved.table.window = .ok interleaved.window := by decide +kernel
  have hall : interleaved.refine .full (.single 8) =
      .ok { rates := ⟨44100, 96000, true⟩, channels := .single 8, rounds := 1 } := by decide +kernel
  have hbetween : interleaved.refine ⟨48000, 88200, true⟩ (.single 8) =
      .ok { rates := ⟨48000, 88200, true⟩, channels := .single 8, rounds := 1 } := by decide +kernel
  obtain ⟨viable, hviable, -, -, hcovers⟩ :=
    refine_satisfiable_iff_not_straddled hfit hwindow hall
  obtain ⟨rest, hrest, -, hstraddles, -⟩ :=
    refine_satisfiable_iff_not_straddled hfit hwindow hbetween
  have hempty : rest = [] := by
    have hcomputed : interleaved.table.viableModes ⟨48000, 88200, true⟩ (.single 8) = .ok [] := by
      decide +kernel
    exact Except.ok.inj (hrest.symm.trans hcomputed)
  exact ⟨⟨viable, hviable, hcovers (Or.inl (by decide))⟩, hstraddles.1 hempty⟩

/-- A proposal between the two rates of the mode that alone has its channel count: the modes inside
keep the channels alive, and that mode keeps the rates alive. -/
theorem refine_interleaved_without_viable_mode :
    interleaved.table.ChannelsFit ∧ interleaved.table.window = .ok interleaved.window ∧
      interleaved.refine ⟨48000, 88200, true⟩ (.single 8) =
        .ok { rates := ⟨48000, 88200, true⟩, channels := .single 8, rounds := 1 } ∧
      interleaved.table.viableModes ⟨48000, 88200, true⟩ (.single 8) = .ok [] :=
  ⟨by decide, by decide +kernel, by decide +kernel, by decide +kernel⟩

end Constraints
end DuplexAudio
