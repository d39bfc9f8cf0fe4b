import DuplexAudio.Proofs.Negotiation.Completeness

/-!
The outcome of a negotiation does not depend on the order of the rules. Every schedule of rules
descends from the clipped proposal, stays above everything that survives, and can only come to rest
on the values that the fixed order of a refinement settles on.
-/

namespace DuplexAudio

/-- One of the three steps that narrow a proposal. -/
inductive Rule
  | fitRates
  | snapRates
  | fitChannels
  deriving DecidableEq, Repr

namespace Rule

open OperatingPoint

/-- Meets one interval of a proposal with what a rule makes of it, or fails with the overflow met
while counting. -/
def apply (table : ModeTable) (rule : Rule) (proposal : Proposal) :
    Except ChannelOverflow Proposal :=
  match rule with
  | fitRates => (table.ratesGivenChannels proposal.channels).map fun hull =>
    { proposal with rates := proposal.rates.intersect hull }
  | snapRates => (table.legalRates proposal.rates).map fun hull =>
    { proposal with rates := proposal.rates.intersect hull }
  | fitChannels => (table.channelsGivenRates proposal.rates).map fun hull =>
    { proposal with channels := proposal.channels.intersect hull }

def applyAll (table : ModeTable) (schedule : List Rule) (proposal : Proposal) :
    Except ChannelOverflow Proposal :=
  schedule.foldlM (fun current rule => rule.apply table current) proposal

/-- Every rule can be applied and leaves the values of both intervals as they are. -/
def AtRest (table : ModeTable) (proposal : Proposal) : Prop :=
  ∀ rule : Rule, ∃ next, rule.apply table proposal = .ok next ∧ next ≤ proposal ∧ proposal ≤ next

/-- The step of a refinement round that a rule stands for. -/
def step (points : List OperatingPoint) : Rule → Proposal → Proposal
  | fitRates => Proposal.fitRates points
  | snapRates => Proposal.snapRates points
  | fitChannels => Proposal.fitChannels points

variable {table : ModeTable} {points : List OperatingPoint} {proposal reached : Proposal}

theorem step_le (rule : Rule) (proposal : Proposal) : rule.step points proposal ≤ proposal := by
  cases rule with
  | fitRates => exact Proposal.fitRates_le points proposal
  | snapRates => exact Proposal.snapRates_le points proposal
  | fitChannels => exact Proposal.fitChannels_le points proposal

theorem step_mono (rule : Rule) : Monotone (rule.step points) := by
  cases rule with
  | fitRates => exact Proposal.fitRates_mono
  | snapRates => exact Proposal.snapRates_mono
  | fitChannels => exact Proposal.fitChannels_mono

theorem le_step (rule : Rule) (hsurvives : proposal.Survives points) :
    proposal ≤ rule.step points proposal := by
  cases rule with
  | fitRates => exact hsurvives.le_fitRates
  | snapRates => exact hsurvives.le_snapRates
  | fitChannels => exact hsurvives.le_fitChannels

theorem exists_apply_eq (hpoints : table.points = .ok points) (rule : Rule) (proposal : Proposal) :
    ∃ next, rule.apply table proposal = .ok next ∧ next ≤ rule.step points proposal ∧
      rule.step points proposal ≤ next := by
  have hmeet : ∀ interval other : Interval, interval.intersect other ≤ interval.narrow other :=
    fun _ _ _ hmem => Interval.mem_narrow.2 (Interval.mem_intersect.1 hmem)
  have hmeet' : ∀ interval other : Interval, interval.narrow other ≤ interval.intersect other :=
    fun _ _ _ hmem => Interval.mem_intersect.2 (Interval.mem_narrow.1 hmem)
  cases rule with
  | fitRates =>
    rw [apply, ModeTable.ratesGivenChannels_eq hpoints]
    exact ⟨_, rfl, ⟨hmeet _ _, le_refl _⟩, ⟨hmeet' _ _, le_refl _⟩⟩
  | snapRates =>
    rw [apply, ModeTable.legalRates_eq hpoints]
    exact ⟨_, rfl, ⟨hmeet _ _, le_refl _⟩, ⟨hmeet' _ _, le_refl _⟩⟩
  | fitChannels =>
    rw [apply, ModeTable.channelsGivenRates_eq hpoints]
    exact ⟨_, rfl, ⟨le_refl _, hmeet _ _⟩, ⟨le_refl _, hmeet' _ _⟩⟩

/-- A schedule descends from its start and stays above everything below the start that survives. -/
theorem exists_applyAll_eq (hpoints : table.points = .ok points) (schedule : List Rule)
    (proposal : Proposal) :
    ∃ reached, applyAll table schedule proposal = .ok reached ∧ reached ≤ proposal ∧
      ∀ inner : Proposal, inner.Survives points → inner ≤ proposal → inner ≤ reached := by
  induction schedule generalizing proposal with
  | nil => exact ⟨proposal, rfl, le_refl _, fun _ _ hle => hle⟩
  | cons rule rest ih =>
    obtain ⟨next, hnext, hdown, hup⟩ := exists_apply_eq hpoints rule proposal
    obtain ⟨reached, hreached, hle, habove⟩ := ih next
    refine ⟨reached, ?_, ?_, ?_⟩
    · rw [applyAll, List.foldlM_cons, hnext]
      exact hreached
    · exact le_trans hle (le_trans hdown (step_le rule proposal))
    · intro inner hsurvives hinner
      have hstep : inner ≤ rule.step points proposal :=
        le_trans (le_step rule hsurvives) (step_mono rule hinner)
      exact habove inner hsurvives (le_trans hstep hup)

theorem points_of_atRest (hrest : AtRest table proposal) : ∃ points, table.points = .ok points := by
  obtain ⟨next, hnext, -⟩ := hrest fitRates
  cases hpoints : table.points with
  | ok points => exact ⟨points, rfl⟩
  | error overflow =>
    rw [apply, ModeTable.ratesGivenChannels, hpoints] at hnext
    cases hnext

theorem survives_of_atRest (hpoints : table.points = .ok points) (hrest : AtRest table proposal) :
    proposal.Survives points := by
  have hstep : ∀ rule : Rule, proposal ≤ rule.step points proposal := by
    intro rule
    obtain ⟨next, hnext, -, hle⟩ := hrest rule
    obtain ⟨next', hnext', hdown, -⟩ := exists_apply_eq hpoints rule proposal
    rw [hnext] at hnext'
    cases hnext'
    exact le_trans hle hdown
  constructor
  · exact fun rate hmem => (Interval.mem_narrow.1 ((hstep fitRates).1 rate hmem)).2
  · exact fun rate hmem => (Interval.mem_narrow.1 ((hstep snapRates).1 rate hmem)).2
  · exact fun count hmem => (Interval.mem_narrow.1 ((hstep fitChannels).2 count hmem)).2

end Rule

namespace Proposal

variable {points : List OperatingPoint} {proposal : Proposal}

/-- Without rates there is no channel count left to survive, and without channel counts no rate. -/
theorem Survives.both_isEmpty (hsurvives : proposal.Survives points)
    (hempty : proposal.isEmpty = true) :
    proposal.rates.isEmpty = true ∧ proposal.channels.isEmpty = true := by
  rw [isEmpty, Bool.or_eq_true] at hempty
  rcases hempty with hrates | hchannels
  · refine ⟨hrates, Interval.isEmpty_iff_forall_not_mem.2 fun count hmem => ?_⟩
    obtain ⟨⟨point, -, hrate, -⟩, -⟩ :=
      OperatingPoint.mem_channelHull.1 (hsurvives.channels_le_channelHull count hmem)
    exact Interval.not_mem_of_isEmpty hrates _ hrate
  · refine ⟨Interval.isEmpty_iff_forall_not_mem.2 fun rate hmem => ?_, hchannels⟩
    obtain ⟨⟨point, -, hcount, -⟩, -⟩ :=
      OperatingPoint.mem_rateHull.1 (hsurvives.rates_le_rateHull rate hmem)
    exact Interval.not_mem_of_isEmpty hchannels _ hcount

end Proposal

namespace Constraints

/-- **The order of the rules does not matter.** If a proposal is settled, every schedule of rules
from the clipped proposal stays above the outcome, and comes to rest nowhere but on its values. If
it is refused, a schedule comes to rest only where both intervals are empty. -/
theorem refine_eq_rest_of_schedule (constraints : Constraints) (rates channels : Interval) :
    (∀ negotiated, constraints.refine rates channels = .ok negotiated → ∀ schedule : List Rule,
      ∃ reached, Rule.applyAll constraints.table schedule (constraints.clip rates channels) =
          .ok reached ∧
        reached.rates.includes negotiated.rates = true ∧
        reached.channels.includes negotiated.channels = true ∧
        (Rule.AtRest constraints.table reached →
          (reached.rates.lower = negotiated.rates.lower ∧
            reached.rates.upper = negotiated.rates.upper) ∧
          reached.channels.lower = negotiated.channels.lower ∧
            reached.channels.upper = negotiated.channels.upper)) ∧
    ∀ restRates restChannels,
      constraints.refine rates channels = .error (.unsatisfiable restRates restChannels) →
      ∀ (schedule : List Rule) (reached : Proposal),
        Rule.applyAll constraints.table schedule (constraints.clip rates channels) =
            .ok reached →
          Rule.AtRest constraints.table reached →
            reached.rates.isEmpty = true ∧ reached.channels.isEmpty = true := by
  constructor
  · intro negotiated hrefine schedule
    obtain ⟨points, hpoints⟩ := points_of_refine_eq_ok hrefine
    obtain ⟨done, -, hdone, hsome, hsurvives⟩ := refine_eq_ok hpoints hrefine
    obtain ⟨reached, hreached, hle, habove⟩ :=
      Rule.exists_applyAll_eq hpoints schedule (constraints.clip rates channels)
    have hdown := habove _ hsurvives (negotiated_le_clip hrefine)
    refine ⟨reached, hreached, Interval.includes_iff_le.2 hdown.1,
      Interval.includes_iff_le.2 hdown.2, fun hrest => ?_⟩
    have hup : reached ≤ ⟨negotiated.rates, negotiated.channels⟩ := by
      rw [← hdone]
      exact (Rule.survives_of_atRest hpoints hrest).le_iterate hle done
    obtain ⟨hrates, hchannels⟩ := Proposal.isEmpty_eq_false_iff.1 hsome
    obtain ⟨hlower, hupper⟩ := Interval.bounds_eq_of_le_of_le hrates hdown.1 hup.1
    obtain ⟨hlower', hupper'⟩ := Interval.bounds_eq_of_le_of_le hchannels hdown.2 hup.2
    exact ⟨⟨hlower.symm, hupper.symm⟩, hlower'.symm, hupper'.symm⟩
  · intro restRates restChannels hrefine schedule reached hreached hrest
    obtain ⟨points, hpoints⟩ := Rule.points_of_atRest hrest
    obtain ⟨done, rest, -, hdone, hempty⟩ := refine_eq_error hpoints hrefine
    obtain ⟨reached', hreached', hle, -⟩ :=
      Rule.exists_applyAll_eq hpoints schedule (constraints.clip rates channels)
    rw [hreached] at hreached'
    cases hreached'
    have hsurvives := Rule.survives_of_atRest hpoints hrest
    have hup := hsurvives.le_iterate hle done
    rw [hdone] at hup
    exact hsurvives.both_isEmpty (Proposal.isEmpty_of_le hup hempty)

/-- With the rules in another order, four channels come to rest at the middle rates as well, and
three channels at nothing. -/
theorem schedule_comes_to_rest_twoModes :
    (∃ reached, Rule.applyAll twoModes.table [.fitChannels, .snapRates, .fitRates]
        (twoModes.clip .full (.single 4)) = .ok reached ∧
      Rule.AtRest twoModes.table reached ∧
      reached.rates.lower = 88200 ∧ reached.rates.upper = 96000) ∧
    ∃ reached, Rule.applyAll twoModes.table [.fitChannels, .fitRates, .fitChannels]
        (twoModes.clip .full (.single 3)) = .ok reached ∧
      Rule.AtRest twoModes.table reached ∧
      reached.rates.isEmpty = true ∧ reached.channels.isEmpty = true := by
  have hsettled : twoModes.refine .full (.single 4) =
      .ok { rates := ⟨88200, 96000, true⟩, channels := .single 4, rounds := 2 } := by decide +kernel
  have hrefused : twoModes.refine .full (.single 3) = .error (.unsatisfiable .empty .empty) := by
    decide +kernel
  have hreached : Rule.applyAll twoModes.table [.fitChannels, .fitRates, .fitChannels]
      (twoModes.clip .full (.single 3)) = .ok ⟨.empty, .empty⟩ := by decide +kernel
  have hrest : Rule.AtRest twoModes.table ⟨⟨88200, 96000, true⟩, .single 4⟩ := fun rule =>
    ⟨_, by cases rule <;> decide +kernel, le_refl _, le_refl _⟩
  have hrest' : Rule.AtRest twoModes.table ⟨.empty, .empty⟩ := fun rule =>
    ⟨_, by cases rule <;> decide +kernel, le_refl _, le_refl _⟩
  obtain ⟨hsettles, -⟩ := refine_eq_rest_of_schedule twoModes .full (.single 4)
  obtain ⟨-, hrefuses⟩ := refine_eq_rest_of_schedule twoModes .full (.single 3)
  obtain ⟨reached, happly, -, -, hbounds⟩ :=
    hsettles _ hsettled [.fitChannels, .snapRates, .fitRates]
  have hcomputed : Rule.applyAll twoModes.table [.fitChannels, .snapRates, .fitRates]
      (twoModes.clip .full (.single 4)) = .ok ⟨⟨88200, 96000, true⟩, .single 4⟩ := by decide +kernel
  have hsame : reached = ⟨⟨88200, 96000, true⟩, .single 4⟩ :=
    Except.ok.inj (happly.symm.trans hcomputed)
  have hreached_rest : Rule.AtRest twoModes.table reached := hsame ▸ hrest
  exact ⟨⟨reached, happly, hreached_rest, (hbounds hreached_rest).1⟩,
    ⟨_, hreached, hrest', hrefuses _ _ hrefused _ _ hreached hrest'⟩⟩

end Constraints
end DuplexAudio
