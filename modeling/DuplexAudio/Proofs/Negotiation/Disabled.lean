import DuplexAudio.Profile
import DuplexAudio.Proofs.Negotiation.Satisfiability

/-!
Disabled modes in a negotiation. The window and the list of legal rates skip them, but both rules
fold over every operating point, and a disabled mode takes part in them with no channels at all. No
window admits that count, so a disabled mode never keeps a rate; but if it lists one of the rates
that are left it can hold the lower channel bound down, and that is the only way in which it is felt.
-/

namespace DuplexAudio

namespace ModeTable

open OperatingPoint

variable {table : ModeTable} {points enabled : List OperatingPoint} {rates channels : Interval}
  {rate count : UInt32} {window windowEnabled : CapabilityWindow}

/-- The table without its disabled modes. -/
def enabledOnly (table : ModeTable) : ModeTable where
  modes := table.modes.filter fun mode => decide (mode.isEnabled ≠ .ok false)
  wellFormed mode hmode := table.wellFormed mode (List.mem_filter.1 hmode).1
  disjoint := List.Pairwise.filter _ table.disjoint

/-! ### What is left of a table -/

theorem ChannelsFit.mem_enabledOnly (hfit : table.ChannelsFit) {mode : OperatingMode} :
    mode ∈ table.enabledOnly.modes ↔ mode ∈ table.modes ∧ 0 < mode.total := by
  rw [enabledOnly, List.mem_filter]
  refine and_congr_right fun hmode => ?_
  rw [OperatingMode.isEnabled, (hfit mode hmode).channels_eq]
  simp [Except.map, UInt32.pos_iff_ne_zero]

theorem ChannelsFit.enabledOnly (hfit : table.ChannelsFit) : table.enabledOnly.ChannelsFit :=
  fun mode hmode => hfit mode (hfit.mem_enabledOnly.1 hmode).1

/-- What is left lists exactly what the table has on offer. -/
theorem ChannelsFit.lists_enabledOnly_iff (hfit : table.ChannelsFit) :
    table.enabledOnly.Lists rate count ↔ table.Offers rate count := by
  rw [offers_iff]
  constructor
  · rintro ⟨mode, hmode, hrate, hcount⟩
    obtain ⟨hlisted, hpos⟩ := hfit.mem_enabledOnly.1 hmode
    obtain ⟨-, rfl⟩ := OperatingMode.channels_eq_ok_iff.1 hcount
    exact ⟨⟨mode, hlisted, hrate, hcount⟩, hpos⟩
  · rintro ⟨⟨mode, hmode, hrate, hcount⟩, hpos⟩
    obtain ⟨-, rfl⟩ := OperatingMode.channels_eq_ok_iff.1 hcount
    exact ⟨mode, hfit.mem_enabledOnly.2 ⟨hmode, hpos⟩, hrate, hcount⟩

theorem ChannelsFit.mem_points_enabledOnly (hfit : table.ChannelsFit)
    (hpoints : table.points = .ok points) (henabled : table.enabledOnly.points = .ok enabled)
    (point : OperatingPoint) : point ∈ enabled ↔ point ∈ points ∧ 0 < point.channels := by
  rw [mem_points henabled, hfit.lists_enabledOnly_iff, offers_iff, mem_points hpoints]

/-- Disabled modes do not widen the window. -/
theorem ChannelsFit.window_enabledOnly (hfit : table.ChannelsFit)
    (hwindow : table.window = .ok window)
    (hwindowEnabled : table.enabledOnly.window = .ok windowEnabled) :
    windowEnabled.rates = window.rates ∧ windowEnabled.channels = window.channels := by
  have hpoints := hfit.points_eq
  have henabled := hfit.enabledOnly.points_eq
  obtain ⟨hrates, hchannels⟩ := window_eq_ok hpoints hwindow
  obtain ⟨hratesEnabled, hchannelsEnabled⟩ := window_eq_ok henabled hwindowEnabled
  have hsame : ∀ point : OperatingPoint,
      point ∈ (table.enabledOnly.pairs.map ofFitting).filter (0 < ·.channels) ↔
        point ∈ (table.pairs.map ofFitting).filter (0 < ·.channels) := by
    intro point
    simp only [List.mem_filter, hfit.mem_points_enabledOnly hpoints henabled, decide_eq_true_eq,
      and_assoc, and_self]
  rw [hrates, hchannels, hratesEnabled, hchannelsEnabled]
  constructor
  · exact Interval.hull_congr fun rate => by simp only [List.mem_map, hsame]
  · exact Interval.hull_congr fun count => by simp only [List.mem_map, hsame]

end ModeTable

/-! ### What is left of the rules -/

namespace Proposal

open OperatingPoint

variable {points enabled : List OperatingPoint} {proposal : Proposal}

/-- What survives on fewer points survives on more. -/
theorem Survives.of_subset (hsurvives : proposal.Survives enabled) (hsubset : enabled ⊆ points) :
    proposal.Survives points where
  rates_le_rateHull rate hmem := by
    obtain ⟨⟨below, hbelow, hin⟩, ⟨above, habove, hin'⟩⟩ :=
      mem_rateHull.1 (hsurvives.rates_le_rateHull rate hmem)
    exact mem_rateHull.2 ⟨⟨below, hsubset hbelow, hin⟩, ⟨above, hsubset habove, hin'⟩⟩
  rates_le_legalHull rate hmem := by
    obtain ⟨⟨below, hbelow, hin⟩, ⟨above, habove, hin'⟩⟩ :=
      mem_legalHull.1 (hsurvives.rates_le_legalHull rate hmem)
    exact mem_legalHull.2 ⟨⟨below, hsubset hbelow, hin⟩, ⟨above, hsubset habove, hin'⟩⟩
  channels_le_channelHull count hmem := by
    obtain ⟨⟨below, hbelow, hin⟩, ⟨above, habove, hin'⟩⟩ :=
      mem_channelHull.1 (hsurvives.channels_le_channelHull count hmem)
    exact mem_channelHull.2 ⟨⟨below, hsubset hbelow, hin⟩, ⟨above, hsubset habove, hin'⟩⟩

/-- A proposal without the channel count zero survives without the disabled points, provided that an
enabled one holds its lower channel bound. -/
theorem Survives.on_enabled (hsurvives : proposal.Survives points)
    (hpositive : ∀ count ∈ proposal.channels, 0 < count)
    (henabled : ∀ point, point ∈ enabled ↔ point ∈ points ∧ 0 < point.channels)
    (hheld : ∃ point ∈ enabled, point.rate ∈ proposal.rates ∧
      point.channels ≤ proposal.channels.lower) : proposal.Survives enabled where
  rates_le_rateHull rate hmem := by
    obtain ⟨⟨below, hbelow, hin, hle⟩, ⟨above, habove, hin', hge⟩⟩ :=
      mem_rateHull.1 (hsurvives.rates_le_rateHull rate hmem)
    exact mem_rateHull.2
      ⟨⟨below, (henabled below).2 ⟨hbelow, hpositive _ hin⟩, hin, hle⟩,
        ⟨above, (henabled above).2 ⟨habove, hpositive _ hin'⟩, hin', hge⟩⟩
  rates_le_legalHull rate hmem := by
    obtain ⟨⟨below, hbelow, hin, hle⟩, ⟨above, habove, hin', hge⟩⟩ :=
      mem_legalHull.1 (hsurvives.rates_le_legalHull rate hmem)
    exact mem_legalHull.2
      ⟨⟨below, (henabled below).2 ⟨hbelow, hin.1⟩, hin, hle⟩,
        ⟨above, (henabled above).2 ⟨habove, hin'.1⟩, hin', hge⟩⟩
  channels_le_channelHull count hmem := by
    obtain ⟨held, hpoint, hrate, hlower⟩ := hheld
    obtain ⟨-, ⟨above, habove, hin, hge⟩⟩ :=
      mem_channelHull.1 (hsurvives.channels_le_channelHull count hmem)
    have hpos : 0 < above.channels := UInt32.lt_of_lt_of_le (hpositive count hmem) hge
    exact mem_channelHull.2
      ⟨⟨held, hpoint, hrate, UInt32.le_trans hlower hmem.1⟩,
        ⟨above, (henabled above).2 ⟨habove, hpos⟩, hin, hge⟩⟩

end Proposal

/-! ### Outcomes -/

/-- Both are refused as unsatisfiable, or both are settled on the same two intervals. -/
def SameOutcome : Except StreamFault Negotiated → Except StreamFault Negotiated → Prop
  | .ok left, .ok right => left.rates = right.rates ∧ left.channels = right.channels
  | .error (.unsatisfiable _ _), .error (.unsatisfiable _ _) => True
  | _, _ => False

/-- A disabled mode lists a rate in `rates` and holds the lower bound of `channels` down, below
everything that enabled modes have there. -/
structure ModeTable.HeldDown (table : ModeTable) (rates channels : Interval) : Prop where
  disabled : ∃ mode ∈ table.modes, mode.isEnabled = .ok false ∧ ∃ rate ∈ mode.rates, rate ∈ rates
  above : ∀ rate count, table.Offers rate count → rate ∈ rates → channels.lower < count

namespace Constraints

section Outcomes

variable {full kept : Constraints} {points enabled : List OperatingPoint}
  {rates channels : Interval} {negotiated : Negotiated}

/-- What is settled on without the disabled points lies within what is settled on with them. -/
theorem exists_refine_of_subset (hpoints : full.table.points = .ok points)
    (henabled : kept.table.points = .ok enabled) (hsubset : enabled ⊆ points)
    (hclip : kept.clip rates channels = full.clip rates channels)
    (hrefine : kept.refine rates channels = .ok negotiated) :
    ∃ wider, full.refine rates channels = .ok wider ∧
      Proposal.mk negotiated.rates negotiated.channels ≤ ⟨wider.rates, wider.channels⟩ := by
  obtain ⟨-, -, -, hsome, hsurvives⟩ := refine_eq_ok henabled hrefine
  exact exists_refine_eq_ok_of_survives hpoints (hsurvives.of_subset hsubset) hsome
    (hclip ▸ negotiated_le_clip hrefine)

theorem sameOutcome_of_survives (hpoints : full.table.points = .ok points)
    (henabled : kept.table.points = .ok enabled) (hsubset : enabled ⊆ points)
    (hclip : kept.clip rates channels = full.clip rates channels)
    (hsurvives : ∀ negotiated, full.refine rates channels = .ok negotiated →
      Proposal.Survives enabled ⟨negotiated.rates, negotiated.channels⟩) :
    SameOutcome (full.refine rates channels) (kept.refine rates channels) := by
  cases hfull : full.refine rates channels with
  | ok negotiated =>
    obtain ⟨-, -, -, hsome, -⟩ := refine_eq_ok hpoints hfull
    obtain ⟨narrower, hkept, hle⟩ := exists_refine_eq_ok_of_survives henabled
      (hsurvives negotiated hfull) hsome (hclip ▸ negotiated_le_clip hfull)
    obtain ⟨wider, hwider, hge⟩ := exists_refine_of_subset hpoints henabled hsubset hclip hkept
    obtain rfl := Except.ok.inj (hfull.symm.trans hwider)
    obtain ⟨hrates, hchannels⟩ := Proposal.isEmpty_eq_false_iff.1 hsome
    obtain ⟨hinteger, hinteger'⟩ := integer_of_refine_eq_ok hfull
    obtain ⟨hintegerKept, hintegerKept'⟩ := integer_of_refine_eq_ok hkept
    rw [hkept]
    exact ⟨Interval.eq_of_le_of_le hrates hle.1 hge.1 (hinteger.trans hintegerKept.symm),
      Interval.eq_of_le_of_le hchannels hle.2 hge.2 (hinteger'.trans hintegerKept'.symm)⟩
  | error fault =>
    obtain ⟨done, rest, rfl, -⟩ := refine_eq_error hpoints hfull
    cases hkept : kept.refine rates channels with
    | ok narrower =>
      obtain ⟨wider, hwider, -⟩ := exists_refine_of_subset hpoints henabled hsubset hclip hkept
      cases hfull.symm.trans hwider
    | error refusal =>
      obtain ⟨done', rest', rfl, -⟩ := refine_eq_error henabled hkept
      trivial

/-- An outcome whose lower channel bound no enabled mode holds is held down by a disabled one. -/
theorem heldDown_of_survives (hpoints : full.table.points = .ok points)
    (hsurvives : Proposal.Survives points ⟨rates, channels⟩) (hsome : channels.isEmpty = false)
    (habove : ∀ rate count, full.table.Offers rate count → rate ∈ rates → channels.lower < count) :
    full.table.HeldDown rates channels := by
  refine ⟨?_, habove⟩
  obtain ⟨⟨below, hbelow, hrate, hle⟩, -⟩ := OperatingPoint.mem_channelHull.1
    (hsurvives.channels_le_channelHull _ (Interval.lower_mem hsome))
  have hlists := (ModeTable.mem_points hpoints).1 hbelow
  obtain ⟨mode, hmode, hlisted, hcount⟩ := hlists
  refine ⟨mode, hmode, ?_, below.rate, hlisted, hrate⟩
  by_cases hpos : 0 < below.channels
  · have hoffers := ModeTable.offers_iff.2 ⟨(ModeTable.mem_points hpoints).1 hbelow, hpos⟩
    exact absurd hle (UInt32.not_le.2 (habove _ _ hoffers hrate))
  · simp [OperatingMode.isEnabled, hcount, Except.map, hpos]

/-- What is settled on without the disabled points is held by an enabled one. -/
theorem not_heldDown_of_refine_eq_ok (hpoints : full.table.points = .ok points)
    (henabled : kept.table.points = .ok enabled)
    (hmem : ∀ point, point ∈ enabled ↔ point ∈ points ∧ 0 < point.channels)
    (hrefine : kept.refine rates channels = .ok negotiated) :
    ¬ full.table.HeldDown negotiated.rates negotiated.channels := by
  intro hheld
  obtain ⟨-, -, -, hsome, hsurvives⟩ := refine_eq_ok henabled hrefine
  have hlower := Interval.lower_mem (Proposal.isEmpty_eq_false_iff.1 hsome).2
  obtain ⟨⟨below, hbelow, hrate, hle⟩, -⟩ :=
    OperatingPoint.mem_channelHull.1 (hsurvives.channels_le_channelHull _ hlower)
  obtain ⟨hpoint, hpos⟩ := (hmem below).1 hbelow
  have hoffers : full.table.Offers below.rate below.channels :=
    ModeTable.offers_iff.2 ⟨(ModeTable.mem_points hpoints).1 hpoint, hpos⟩
  exact UInt32.not_le.2 (hheld.above _ _ hoffers hrate) hle

/-- What is settled on under the window of the table, and not held down, survives without the
disabled points. -/
theorem survives_of_not_heldDown (hpoints : full.table.points = .ok points)
    (hwindow : full.table.window = .ok full.window)
    (hmem : ∀ point, point ∈ enabled ↔ point ∈ points ∧ 0 < point.channels)
    (hrefine : full.refine rates channels = .ok negotiated)
    (hfree : ¬ full.table.HeldDown negotiated.rates negotiated.channels) :
    Proposal.Survives enabled ⟨negotiated.rates, negotiated.channels⟩ := by
  obtain ⟨-, -, -, hsome, hsurvives⟩ := refine_eq_ok hpoints hrefine
  have hchannels := (Proposal.isEmpty_eq_false_iff.1 hsome).2
  have hpositive : ∀ count ∈ negotiated.channels, 0 < count := by
    intro count hcount
    have hwithin := mem_clip_channels.1 ((negotiated_le_clip hrefine).2 _ hcount)
    exact ModeTable.pos_of_mem_window hpoints hwindow hwithin.2
  refine hsurvives.on_enabled hpositive hmem ?_
  by_contra hnone
  refine hfree (heldDown_of_survives hpoints hsurvives hchannels fun rate count hoffers hrate => ?_)
  rw [← UInt32.not_le]
  intro hle
  have hpos := (ModeTable.offers_iff.1 hoffers).2
  exact hnone ⟨⟨rate, count⟩, (hmem _).2 ⟨hoffers.mem_points hpoints, hpos⟩, hrate, hle⟩

/-- **When disabled modes are inert.** Without its disabled modes a table has the same window, and
whatever is settled on lies within what is settled on with them. The outcome is the same exactly if
it is not held down by a disabled mode. -/
theorem disabled_inert_iff_not_heldDown (hfit : full.table.ChannelsFit)
    (hwindow : full.table.window = .ok full.window)
    (htable : kept.table = full.table.enabledOnly)
    (hkept : kept.table.window = .ok kept.window) (rates channels : Interval) :
    (kept.window.rates = full.window.rates ∧ kept.window.channels = full.window.channels) ∧
    (∀ negotiated, kept.refine rates channels = .ok negotiated →
      ∃ wider, full.refine rates channels = .ok wider ∧
        wider.rates.includes negotiated.rates = true ∧
        wider.channels.includes negotiated.channels = true) ∧
    (SameOutcome (full.refine rates channels) (kept.refine rates channels) ↔
      ∀ negotiated, full.refine rates channels = .ok negotiated →
        ¬ full.table.HeldDown negotiated.rates negotiated.channels) := by
  obtain ⟨direction, enabledOnly, window⟩ := kept
  obtain rfl : enabledOnly = full.table.enabledOnly := htable
  have hpoints := hfit.points_eq
  have henabled := hfit.enabledOnly.points_eq
  have hmem := hfit.mem_points_enabledOnly hpoints henabled
  have hwindows := hfit.window_enabledOnly hwindow hkept
  have hclip : clip ⟨direction, full.table.enabledOnly, window⟩ rates channels =
      full.clip rates channels := by
    rw [clip, clip, hwindows.1, hwindows.2]
  have hsubset := fun point hpoint => ((hmem point).1 hpoint).1
  refine ⟨hwindows, fun negotiated hrefine => ?_, fun hsame negotiated hfull => ?_, fun hfree => ?_⟩
  · obtain ⟨wider, hwider, hrates, hchannels⟩ :=
      exists_refine_of_subset hpoints henabled hsubset hclip hrefine
    exact ⟨wider, hwider, Interval.includes_iff_le.2 hrates, Interval.includes_iff_le.2 hchannels⟩
  · cases hrefine : refine ⟨direction, full.table.enabledOnly, window⟩ rates channels with
    | error fault =>
      rw [hfull, hrefine] at hsame
      exact hsame.elim
    | ok narrower =>
      rw [hfull, hrefine] at hsame
      obtain ⟨hrates, hchannels⟩ := hsame
      rw [hrates, hchannels]
      exact not_heldDown_of_refine_eq_ok hpoints henabled hmem hrefine
  · exact sameOutcome_of_survives hpoints henabled hsubset hclip fun negotiated hfull =>
      survives_of_not_heldDown hpoints hwindow hmem hfull (hfree negotiated hfull)

end Outcomes

/-- The transmitted modes of the stereo interface, the high one of which is disabled. -/
def stereoCapture : Constraints where
  direction := .capture
  table := DeviceProfile.stereo.formats.transmit
  window := { rates := ⟨44100, 96000, true⟩, channels := ⟨2, 4, true⟩, rateMask := ⟨0x6c0⟩ }

/-- The disabled mode lies beyond the window, so every proposal comes out the same without it. -/
theorem disabled_inert_stereoCapture :
    stereoCapture.table.ChannelsFit ∧
      stereoCapture.table.window = .ok stereoCapture.window ∧
      SameOutcome (stereoCapture.refine .full (.single 4))
        ({ stereoCapture with table := stereoCapture.table.enabledOnly }.refine .full
          (.single 4)) := by
  have hfit : stereoCapture.table.ChannelsFit := by decide
  have hwindow : stereoCapture.table.window = .ok stereoCapture.window := by decide +kernel
  have hkept : stereoCapture.table.enabledOnly.window = .ok stereoCapture.window := by
    decide +kernel
  have hsettled : stereoCapture.refine .full (.single 4) =
      .ok { rates := ⟨88200, 96000, true⟩, channels := .single 4, rounds := 2 } := by decide +kernel
  have hhigh : ∀ mode ∈ stereoCapture.table.modes, mode.isEnabled = .ok false →
      mode.rates = [176400, 192000] := by decide +kernel
  obtain ⟨-, -, hiff⟩ := @disabled_inert_iff_not_heldDown stereoCapture
    { stereoCapture with table := stereoCapture.table.enabledOnly }
    hfit hwindow rfl hkept .full (.single 4)
  refine ⟨hfit, hwindow, hiff.2 fun negotiated hrefine hheld => ?_⟩
  obtain rfl := Except.ok.inj (hsettled.symm.trans hrefine)
  obtain ⟨mode, hmode, hdisabled, rate, hlisted, hrate⟩ := hheld.disabled
  simp only [hhigh mode hmode hdisabled, List.mem_cons, List.not_mem_nil, or_false] at hlisted
  rcases hlisted with rfl | rfl
  · exact absurd hrate (by decide)
  · exact absurd hrate (by decide)

/-- A disabled mode between the two rates of one mode, and another mode with fewer channels at the
outermost rates. -/
def hollow : Constraints where
  direction := .capture
  table :=
    { modes :=
        [{ fixedChannels := 8, rates := [44100, 88200] },
         { fixedChannels := 0, rates := [48000] },
         { fixedChannels := 6, rates := [32000, 96000] }]
      wellFormed := by
        simp only [List.mem_cons, List.not_mem_nil, or_false, forall_eq_or_imp, forall_eq,
          OperatingMode.wellFormed_iff]
        decide
      disjoint := by
        simp only [RatesDisjoint, List.pairwise_cons, List.mem_cons, List.not_mem_nil, or_false,
          forall_eq_or_imp, forall_eq, List.Pairwise.nil, false_implies, implies_true, and_true]
        decide }
  window := { rates := ⟨32000, 96000, true⟩, channels := ⟨6, 8, true⟩, rateMask := ⟨0x660⟩ }

/-- Seven channels at most, at rates where only the mode with eight is enabled: the disabled mode
between them keeps the proposal alive, which is refused without it. -/
theorem disabled_not_inert_hollow :
    hollow.table.ChannelsFit ∧ hollow.table.window = .ok hollow.window ∧
      hollow.table.enabledOnly.window = .ok hollow.window ∧
      hollow.refine ⟨44100, 88200, true⟩ ⟨5, 7, true⟩ =
        .ok { rates := ⟨44100, 88200, true⟩, channels := ⟨6, 7, true⟩, rounds := 1 } ∧
      { hollow with table := hollow.table.enabledOnly }.refine ⟨44100, 88200, true⟩ ⟨5, 7, true⟩ =
        .error (.unsatisfiable ⟨44100, 88200, true⟩ ⟨8, 7, true⟩) ∧
      ¬ SameOutcome (hollow.refine ⟨44100, 88200, true⟩ ⟨5, 7, true⟩)
        ({ hollow with table := hollow.table.enabledOnly }.refine ⟨44100, 88200, true⟩
          ⟨5, 7, true⟩) := by
  have hsettled : hollow.refine ⟨44100, 88200, true⟩ ⟨5, 7, true⟩ =
      .ok { rates := ⟨44100, 88200, true⟩, channels := ⟨6, 7, true⟩, rounds := 1 } := by
    decide +kernel
  have hrefused : { hollow with table := hollow.table.enabledOnly }.refine ⟨44100, 88200, true⟩
      ⟨5, 7, true⟩ = .error (.unsatisfiable ⟨44100, 88200, true⟩ ⟨8, 7, true⟩) := by
    decide +kernel
  refine ⟨by decide, by decide +kernel, by decide +kernel, hsettled, hrefused, ?_⟩
  rw [hsettled, hrefused]
  exact id

end Constraints
end DuplexAudio
