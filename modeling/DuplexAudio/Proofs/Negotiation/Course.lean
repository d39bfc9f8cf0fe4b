import DuplexAudio.Proofs.Negotiation.Rounds
import Mathlib.Data.Finset.Card

/-!
How long a negotiation goes on. A round sees the channels only through the listed counts among them,
so a round that repeats these has nothing to do: from the second round on, every round that changes
anything was preceded by one that lost a count.
-/

namespace DuplexAudio

namespace Proposal

open OperatingPoint

/-- The rounds that a proposal goes through, and what is left in the end: it is refused as soon as
it is empty, and settled by the first round that changes nothing. -/
inductive Course (points : List OperatingPoint) : Proposal → Nat → Except Proposal Proposal → Prop
  | refused {proposal : Proposal} (hempty : proposal.isEmpty = true) :
      Course points proposal 0 (.error proposal)
  | settled {proposal : Proposal} (hsome : proposal.isEmpty = false)
      (hround : proposal.round points = proposal) : Course points proposal 1 (.ok proposal)
  | narrowed {proposal : Proposal} {rounds : Nat} {outcome : Except Proposal Proposal}
      (hsome : proposal.isEmpty = false) (hround : proposal.round points ≠ proposal)
      (hrest : Course points (proposal.round points) rounds outcome) :
      Course points proposal (rounds + 1) outcome

variable {points : List OperatingPoint} {proposal : Proposal} {rounds : Nat}
  {outcome : Except Proposal Proposal}

def settledAfter (rounds : Nat) (proposal : Proposal) : Negotiated :=
  { rates := proposal.rates, channels := proposal.channels, rounds }

theorem exists_course (points : List OperatingPoint) (proposal : Proposal) :
    ∃ rounds outcome, Course points proposal rounds outcome := by
  fun_induction settle points 0 proposal with
  | case1 done proposal hempty => exact ⟨0, _, .refused hempty⟩
  | case2 done proposal hsome hround =>
    exact ⟨1, _, .settled (Bool.eq_false_iff.2 hsome) hround⟩
  | case3 done proposal hsome hround ih =>
    obtain ⟨rounds, outcome, hrest⟩ := ih
    exact ⟨rounds + 1, outcome, .narrowed (Bool.eq_false_iff.2 hsome) hround hrest⟩

theorem Course.settle_eq (hcourse : Course points proposal rounds outcome) (done : Nat) :
    proposal.settle points done = outcome.map (settledAfter (done + rounds)) := by
  induction hcourse generalizing done with
  | refused hempty =>
    rw [settle, if_pos hempty]
    rfl
  | settled hsome hround =>
    rw [settle, if_neg (Bool.eq_false_iff.1 hsome), dif_pos hround]
    rfl
  | @narrowed _ rounds _ hsome hround _ ih =>
    rw [settle, if_neg (Bool.eq_false_iff.1 hsome), dif_neg hround, ih, Nat.add_right_comm done 1,
      Nat.add_assoc]

/-! ### After a round -/

theorem isEmpty_eq_false_of_le {inner outer : Proposal} (hle : inner ≤ outer)
    (hsome : inner.isEmpty = false) : outer.isEmpty = false := by
  by_contra hempty
  rw [isEmpty_of_le hle (Bool.not_eq_false _ ▸ hempty)] at hsome
  cases hsome

theorem narrow_legalHull_le_legalHull (points : List OperatingPoint) (rates : Interval) :
    rates.narrow (legalHull points rates) ≤
      legalHull points (rates.narrow (legalHull points rates)) := by
  -- The legal rates that the others are drawn in to are themselves left.
  have hleft : legalHull points rates ≤
      legalHull points (rates.narrow (legalHull points rates)) := by
    apply legalHull_le_legalHull
    intro point hpoint hpos hrate
    exact Interval.mem_narrow.2 ⟨hrate, rate_mem_legalHull hpoint hpos hrate⟩
  intro rate hmem
  exact hleft rate (Interval.mem_narrow.1 hmem).2

/-- Only the first rule can still take something away after a round. -/
theorem survives_round
    (hrates : (proposal.round points).rates ≤ rateHull points (proposal.round points).channels) :
    (proposal.round points).Survives points := by
  refine ⟨hrates, ?_, ?_⟩
  · rw [rates_round]
    exact narrow_legalHull_le_legalHull points (proposal.fitRates points).rates
  · intro count hmem
    rw [channels_round] at hmem
    exact (Interval.mem_narrow.1 hmem).2

/-- What survives a round with integral values comes out of it unchanged. -/
theorem Survives.round_eq (hsurvives : proposal.Survives points)
    (hsome : proposal.isEmpty = false)
    (hinteger : proposal.rates.integer = true ∧ proposal.channels.integer = true) :
    proposal.round points = proposal := by
  obtain ⟨hrates, hchannels⟩ := isEmpty_eq_false_iff.1 hsome
  obtain ⟨hintegral, hintegral'⟩ := integer_round points hsome
  have hdown := round_le points proposal
  have hup := hsurvives.le_round
  have hsame : proposal.rates = (proposal.round points).rates :=
    Interval.eq_of_le_of_le hrates hup.1 hdown.1 (hinteger.1.trans hintegral.symm)
  have hsame' : proposal.channels = (proposal.round points).channels :=
    Interval.eq_of_le_of_le hchannels hup.2 hdown.2 (hinteger.2.trans hintegral'.symm)
  calc proposal.round points
      = ⟨(proposal.round points).rates, (proposal.round points).channels⟩ := rfl
    _ = proposal := by rw [← hsame, ← hsame']

theorem round_round_eq (hsome : (proposal.round points).isEmpty = false)
    (hrates : (proposal.round points).rates ≤ rateHull points (proposal.round points).channels) :
    (proposal.round points).round points = proposal.round points :=
  (survives_round hrates).round_eq hsome
    (integer_round points (isEmpty_eq_false_of_le (round_le points proposal) hsome))

/-! ### Counts that are left -/

/-- The distinct channel counts of the points that lie in `channels`. -/
def countsWithin (points : List OperatingPoint) (channels : Interval) : Finset UInt32 :=
  (points.map (·.channels)).toFinset.filter (· ∈ channels)

theorem mem_countsWithin {channels : Interval} {count : UInt32} :
    count ∈ countsWithin points channels ↔
      (∃ point ∈ points, point.channels = count) ∧ count ∈ channels := by
  rw [countsWithin, Finset.mem_filter, List.mem_toFinset, List.mem_map]

theorem countsWithin_mono {inner outer : Interval} (hle : inner ≤ outer) :
    countsWithin points inner ⊆ countsWithin points outer := by
  intro count hmem
  obtain ⟨hlisted, hcount⟩ := mem_countsWithin.1 hmem
  exact mem_countsWithin.2 ⟨hlisted, hle count hcount⟩

theorem countsWithin_nonempty (hsome : (proposal.round points).isEmpty = false) :
    (countsWithin points proposal.channels).Nonempty := by
  -- The lowest rate that is left was fitted to a count among the channels.
  have hlower := Interval.lower_mem (isEmpty_eq_false_iff.1 hsome).1
  have hfitted := rates_round_le_fitRates points proposal _ hlower
  obtain ⟨⟨point, hpoint, hcount, -⟩, -⟩ := mem_rateHull.1 (Interval.mem_narrow.1 hfitted).2
  exact ⟨point.channels, mem_countsWithin.2 ⟨⟨point, hpoint, rfl⟩, hcount⟩⟩

/-- A second round that changes anything comes after a round that lost a count. -/
theorem countsWithin_round_ssubset (hsome : (proposal.round points).isEmpty = false)
    (hround : (proposal.round points).round points ≠ proposal.round points) :
    countsWithin points (proposal.round points).channels ⊂
      countsWithin points proposal.channels := by
  refine ⟨countsWithin_mono (round_le points proposal).2, ?_⟩
  intro hkept
  apply hround
  apply round_round_eq hsome
  have hsame : rateHull points proposal.channels ≤
      rateHull points (proposal.round points).channels := by
    apply rateHull_le_rateHull
    intro point hpoint hcount
    have hlisted := mem_countsWithin.2 ⟨⟨point, hpoint, rfl⟩, hcount⟩
    exact (mem_countsWithin.1 (hkept hlisted)).2
  intro rate hmem
  have hfitted := rates_round_le_fitRates points proposal rate hmem
  exact hsame rate (Interval.mem_narrow.1 hfitted).2

theorem Course.rounds_le (hcourse : Course points proposal rounds outcome) :
    rounds ≤ (countsWithin points proposal.channels).card + 1 := by
  induction hcourse with
  | refused hempty => exact Nat.zero_le _
  | settled hsome hround => exact Nat.le_add_left 1 _
  | narrowed hsome hround hrest ih =>
    -- The first round may change the intervals and lose no count, so the round after it decides.
    cases hrest with
    | refused hempty => exact Nat.le_add_left 1 _
    | settled hsome' hround' =>
      have hpos := Finset.card_pos.2 (countsWithin_nonempty hsome')
      omega
    | narrowed hsome' hround' hrest' =>
      have hlost := Finset.card_lt_card (countsWithin_round_ssubset hsome' hround')
      omega

end Proposal

namespace ModeTable

variable {table : ModeTable} {points : List OperatingPoint}

/-- The distinct channel counts of the modes that list a rate. -/
def listedCounts (table : ModeTable) : Finset UInt32 :=
  ((table.modes.filter (·.rates ≠ [])).map (·.total)).toFinset

theorem card_listedCounts_le (table : ModeTable) : table.listedCounts.card ≤ table.length :=
  calc table.listedCounts.card
      ≤ ((table.modes.filter (·.rates ≠ [])).map (·.total)).length := List.toFinset_card_le _
    _ = (table.modes.filter (·.rates ≠ [])).length := List.length_map _
    _ ≤ table.length := List.length_filter_le _ _

theorem countsWithin_subset_listedCounts (hpoints : table.points = .ok points)
    (channels : Interval) : Proposal.countsWithin points channels ⊆ table.listedCounts := by
  intro count hmem
  obtain ⟨⟨point, hpoint, rfl⟩, -⟩ := Proposal.mem_countsWithin.1 hmem
  obtain ⟨mode, hmode, hrate, hcount⟩ := (mem_points hpoints).1 hpoint
  obtain ⟨-, htotal⟩ := OperatingMode.channels_eq_ok_iff.1 hcount
  rw [listedCounts, List.mem_toFinset, List.mem_map]
  exact ⟨mode, List.mem_filter.2 ⟨hmode, by simpa using List.ne_nil_of_mem hrate⟩, htotal.symm⟩

end ModeTable

namespace Constraints

open Proposal

variable {constraints : Constraints} {rates channels : Interval} {points : List OperatingPoint}
  {rounds : Nat} {outcome : Except Proposal Proposal}

theorem refine_of_course (hpoints : constraints.table.points = .ok points)
    (hcourse : Course points (constraints.clip rates channels) rounds outcome) :
    constraints.refine rates channels =
      (outcome.map (settledAfter rounds)).mapError fun rest =>
        .unsatisfiable rest.rates rest.channels := by
  rw [refine_eq_settle hpoints, hcourse.settle_eq, Nat.zero_add]

/-- **A negotiation is over within one round more than there are counts.** Whether the clipped
proposal is settled or refused in the end, it goes through at most one round more than the modes
with rates have distinct channel counts, which are not more than the modes. -/
theorem rounds_le_listedCounts (constraints : Constraints)
    (hfit : constraints.table.ChannelsFit) (rates channels : Interval) :
    (∃ points rounds outcome, constraints.table.points = .ok points ∧
      Course points (constraints.clip rates channels) rounds outcome ∧
      rounds ≤ constraints.table.listedCounts.card + 1 ∧
      constraints.refine rates channels =
        (outcome.map (settledAfter rounds)).mapError fun rest =>
          .unsatisfiable rest.rates rest.channels) ∧
    constraints.table.listedCounts.card + 1 ≤ constraints.table.length + 1 ∧
    ∀ negotiated, constraints.refine rates channels = .ok negotiated →
      negotiated.rounds ≤ constraints.table.listedCounts.card + 1 ∧
        negotiated.rounds ≤ constraints.table.length + 2 := by
  have hpoints := hfit.points_eq
  obtain ⟨rounds, outcome, hcourse⟩ :=
    exists_course (constraints.table.pairs.map OperatingPoint.ofFitting)
      (constraints.clip rates channels)
  have hrefine := refine_of_course hpoints hcourse
  have hmodes := constraints.table.card_listedCounts_le
  have hcounts := Finset.card_le_card (ModeTable.countsWithin_subset_listedCounts hpoints
    (constraints.clip rates channels).channels)
  have hrounds : rounds ≤ constraints.table.listedCounts.card + 1 :=
    calc rounds
        ≤ (countsWithin _ (constraints.clip rates channels).channels).card + 1 := hcourse.rounds_le
      _ ≤ constraints.table.listedCounts.card + 1 := Nat.succ_le_succ hcounts
  refine ⟨⟨_, rounds, outcome, hpoints, hcourse, hrounds, hrefine⟩, Nat.succ_le_succ hmodes, ?_⟩
  intro negotiated hsettled
  cases outcome with
  | error rest =>
    rw [hrefine] at hsettled
    cases hsettled
  | ok settled =>
    rw [hrefine] at hsettled
    cases hsettled
    refine ⟨hrounds, ?_⟩
    change rounds ≤ constraints.table.length + 2
    omega

def staggered : Constraints where
  direction := .playback
  table :=
    { modes :=
        [{ fixedChannels := 10, rates := [32000] },
         { fixedChannels := 4, rates := [48000, 96000] },
         { fixedChannels := 4, variableChannels := 2, rates := [88200] }]
      wellFormed := by
        simp only [List.mem_cons, List.not_mem_nil, or_false, forall_eq_or_imp, forall_eq,
          OperatingMode.wellFormed_iff]
        decide
      disjoint := by
        simp only [RatesDisjoint, List.pairwise_cons, List.mem_cons, List.not_mem_nil, or_false,
          forall_eq_or_imp, forall_eq, List.Pairwise.nil, false_implies, implies_true, and_true]
        decide }
  window := { rates := ⟨32000, 96000, true⟩, channels := ⟨4, 10, true⟩, rateMask := ⟨0x6a0⟩ }

/-- The mode with few channels lies between the rates of the others, so that the three counts are
lost one by one. -/
theorem rounds_le_listedCounts_staggered :
    staggered.table.ChannelsFit ∧ staggered.table.listedCounts.card = 3 ∧
      staggered.refine ⟨40000, 90000, true⟩ ⟨6, 10, true⟩ =
        .ok { rates := .single 88200, channels := .single 6, rounds := 3 } ∧
      3 ≤ staggered.table.listedCounts.card + 1 := by
  have hfit : staggered.table.ChannelsFit := by decide
  have hrefine : staggered.refine ⟨40000, 90000, true⟩ ⟨6, 10, true⟩ =
      .ok { rates := .single 88200, channels := .single 6, rounds := 3 } := by decide +kernel
  obtain ⟨-, -, hrounds⟩ := rounds_le_listedCounts staggered hfit ⟨40000, 90000, true⟩ ⟨6, 10, true⟩
  exact ⟨hfit, by decide +kernel, hrefine, (hrounds _ hrefine).1⟩

end Constraints
end DuplexAudio
