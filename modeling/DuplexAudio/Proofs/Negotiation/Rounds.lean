import DuplexAudio.Proofs.Interval.Values
import DuplexAudio.Proofs.Negotiation.Points
import Mathlib.Logic.Function.Iterate
import Mathlib.Order.Monotone.Defs

/-!
Rounds of negotiation as a descent. Each rule takes values away and is monotone in what it is given,
so a proposal that survives a round is never cut off below a larger one, and the outcome of a
negotiation is an iterate of the round that starts it.
-/

namespace DuplexAudio

namespace OperatingPoint

variable {points : List OperatingPoint} {inner outer : Interval}

theorem mem_rateHull {channels : Interval} {rate : UInt32} :
    rate ∈ rateHull points channels ↔
      (∃ point ∈ points, point.channels ∈ channels ∧ point.rate ≤ rate) ∧
        ∃ point ∈ points, point.channels ∈ channels ∧ rate ≤ point.rate := by
  simp only [rateHull, Interval.mem_hull_map_filter, decide_eq_true_eq]

theorem mem_channelHull {rates : Interval} {count : UInt32} :
    count ∈ channelHull points rates ↔
      (∃ point ∈ points, point.rate ∈ rates ∧ point.channels ≤ count) ∧
        ∃ point ∈ points, point.rate ∈ rates ∧ count ≤ point.channels := by
  simp only [channelHull, Interval.mem_hull_map_filter, decide_eq_true_eq]

theorem mem_legalHull {rates : Interval} {rate : UInt32} :
    rate ∈ legalHull points rates ↔
      (∃ point ∈ points, (0 < point.channels ∧ point.rate ∈ rates) ∧ point.rate ≤ rate) ∧
        ∃ point ∈ points, (0 < point.channels ∧ point.rate ∈ rates) ∧ rate ≤ point.rate := by
  simp only [legalHull, Interval.mem_hull_map_filter, decide_eq_true_eq]

section Covered

variable {point : OperatingPoint} (hpoint : point ∈ points)
include hpoint

theorem rate_mem_rateHull {channels : Interval} (hcount : point.channels ∈ channels) :
    point.rate ∈ rateHull points channels :=
  mem_rateHull.2 ⟨⟨point, hpoint, hcount, UInt32.le_refl _⟩,
    ⟨point, hpoint, hcount, UInt32.le_refl _⟩⟩

theorem channels_mem_channelHull {rates : Interval} (hrate : point.rate ∈ rates) :
    point.channels ∈ channelHull points rates :=
  mem_channelHull.2 ⟨⟨point, hpoint, hrate, UInt32.le_refl _⟩,
    ⟨point, hpoint, hrate, UInt32.le_refl _⟩⟩

theorem rate_mem_legalHull {rates : Interval} (hpos : 0 < point.channels)
    (hrate : point.rate ∈ rates) : point.rate ∈ legalHull points rates :=
  mem_legalHull.2 ⟨⟨point, hpoint, ⟨hpos, hrate⟩, UInt32.le_refl _⟩,
    ⟨point, hpoint, ⟨hpos, hrate⟩, UInt32.le_refl _⟩⟩

end Covered

theorem rateHull_le_rateHull
    (hinside : ∀ point ∈ points, point.channels ∈ inner → point.channels ∈ outer) :
    rateHull points inner ≤ rateHull points outer := by
  apply Interval.hull_map_filter_mono
  intro point hpoint hkept
  exact decide_eq_true (hinside point hpoint (of_decide_eq_true hkept))

theorem legalHull_le_legalHull
    (hinside : ∀ point ∈ points, 0 < point.channels → point.rate ∈ inner → point.rate ∈ outer) :
    legalHull points inner ≤ legalHull points outer := by
  apply Interval.hull_map_filter_mono
  intro point hpoint hkept
  obtain ⟨hpos, hrate⟩ := of_decide_eq_true hkept
  exact decide_eq_true ⟨hpos, hinside point hpoint hpos hrate⟩

theorem rateHull_mono (hle : inner ≤ outer) : rateHull points inner ≤ rateHull points outer :=
  rateHull_le_rateHull fun _ _ => hle _

theorem channelHull_mono (hle : inner ≤ outer) :
    channelHull points inner ≤ channelHull points outer := by
  apply Interval.hull_map_filter_mono
  intro point _ hkept
  exact decide_eq_true (hle _ (of_decide_eq_true hkept))

theorem legalHull_mono (hle : inner ≤ outer) :
    legalHull points inner ≤ legalHull points outer :=
  legalHull_le_legalHull fun _ _ _ => hle _

end OperatingPoint

namespace Proposal

open OperatingPoint

/-- `inner ≤ outer` says that both intervals of `inner` have only values of those of `outer`. -/
instance : Preorder Proposal where
  le inner outer := inner.rates ≤ outer.rates ∧ inner.channels ≤ outer.channels
  le_refl proposal := ⟨le_refl proposal.rates, le_refl proposal.channels⟩
  le_trans _ _ _ hab hbc := ⟨le_trans hab.1 hbc.1, le_trans hab.2 hbc.2⟩

variable {points : List OperatingPoint} {proposal inner outer : Proposal}

theorem isEmpty_of_le (hle : inner ≤ outer) (hempty : outer.isEmpty = true) :
    inner.isEmpty = true := by
  simp only [isEmpty, Bool.or_eq_true] at hempty ⊢
  exact hempty.imp (Interval.isEmpty_of_le hle.1) (Interval.isEmpty_of_le hle.2)

theorem isEmpty_eq_false_iff :
    proposal.isEmpty = false ↔ proposal.rates.isEmpty = false ∧ proposal.channels.isEmpty = false :=
  Bool.or_eq_false_iff

/-! ### One round -/

theorem fitRates_le (points : List OperatingPoint) (proposal : Proposal) :
    proposal.fitRates points ≤ proposal :=
  ⟨Interval.narrow_le _ _, le_refl _⟩

theorem snapRates_le (points : List OperatingPoint) (proposal : Proposal) :
    proposal.snapRates points ≤ proposal :=
  ⟨Interval.narrow_le _ _, le_refl _⟩

theorem fitChannels_le (points : List OperatingPoint) (proposal : Proposal) :
    proposal.fitChannels points ≤ proposal :=
  ⟨le_refl _, Interval.narrow_le _ _⟩

theorem fitRates_mono : Monotone (fitRates points) := fun _ _ hle =>
  ⟨Interval.narrow_mono hle.1 (rateHull_mono hle.2), hle.2⟩

theorem snapRates_mono : Monotone (snapRates points) := fun _ _ hle =>
  ⟨Interval.narrow_mono hle.1 (legalHull_mono hle.1), hle.2⟩

theorem fitChannels_mono : Monotone (fitChannels points) := fun _ _ hle =>
  ⟨hle.1, Interval.narrow_mono hle.2 (channelHull_mono hle.1)⟩

theorem round_mono : Monotone (round points) := fun _ _ hle =>
  fitChannels_mono (snapRates_mono (fitRates_mono hle))

theorem round_le (points : List OperatingPoint) (proposal : Proposal) :
    proposal.round points ≤ proposal :=
  calc
    proposal.round points ≤ (proposal.fitRates points).snapRates points := fitChannels_le _ _
    _ ≤ proposal.fitRates points := snapRates_le _ _
    _ ≤ proposal := fitRates_le _ _

theorem rates_round (points : List OperatingPoint) (proposal : Proposal) :
    (proposal.round points).rates = (proposal.fitRates points).rates.narrow
      (legalHull points (proposal.fitRates points).rates) := by
  rw [round, fitChannels, snapRates]

theorem channels_round (points : List OperatingPoint) (proposal : Proposal) :
    (proposal.round points).channels =
      proposal.channels.narrow (channelHull points (proposal.round points).rates) := by
  rw [rates_round, round, fitChannels, snapRates, fitRates]

theorem rates_round_le_fitRates (points : List OperatingPoint) (proposal : Proposal) :
    (proposal.round points).rates ≤ (proposal.fitRates points).rates := by
  rw [rates_round]
  exact Interval.narrow_le _ _

/-- A proposal from which no rule takes a value away. -/
structure Survives (points : List OperatingPoint) (proposal : Proposal) : Prop where
  rates_le_rateHull : proposal.rates ≤ rateHull points proposal.channels
  rates_le_legalHull : proposal.rates ≤ legalHull points proposal.rates
  channels_le_channelHull : proposal.channels ≤ channelHull points proposal.rates

theorem Survives.le_fitRates (hsurvives : proposal.Survives points) :
    proposal ≤ proposal.fitRates points :=
  ⟨fun rate hmem => Interval.mem_narrow.2 ⟨hmem, hsurvives.rates_le_rateHull rate hmem⟩,
    le_refl _⟩

theorem Survives.le_snapRates (hsurvives : proposal.Survives points) :
    proposal ≤ proposal.snapRates points :=
  ⟨fun rate hmem => Interval.mem_narrow.2 ⟨hmem, hsurvives.rates_le_legalHull rate hmem⟩,
    le_refl _⟩

theorem Survives.le_fitChannels (hsurvives : proposal.Survives points) :
    proposal ≤ proposal.fitChannels points :=
  ⟨le_refl _, fun count hmem =>
    Interval.mem_narrow.2 ⟨hmem, hsurvives.channels_le_channelHull count hmem⟩⟩

theorem Survives.le_round (hsurvives : proposal.Survives points) :
    proposal ≤ proposal.round points :=
  calc
    proposal ≤ proposal.fitChannels points := hsurvives.le_fitChannels
    _ ≤ (proposal.snapRates points).fitChannels points := fitChannels_mono hsurvives.le_snapRates
    _ ≤ proposal.round points := fitChannels_mono (snapRates_mono hsurvives.le_fitRates)

theorem survives_of_round_eq (hround : proposal.round points = proposal) :
    proposal.Survives points := by
  have hsnap : proposal ≤ (proposal.fitRates points).snapRates points :=
    le_trans (le_of_eq hround.symm) (fitChannels_le points _)
  have hfit : proposal ≤ proposal.fitRates points := le_trans hsnap (snapRates_le _ _)
  constructor
  · intro rate hmem
    exact (Interval.mem_narrow.1 (hfit.1 rate hmem)).2
  · intro rate hmem
    have hlegal := (Interval.mem_narrow.1 (hsnap.1 rate hmem)).2
    exact legalHull_mono (fitRates_le points proposal).1 rate hlegal
  · intro count hmem
    rw [← hround] at hmem
    have hhull := (Interval.mem_narrow.1 hmem).2
    have hrates := (le_trans (snapRates_le points _) (fitRates_le points proposal)).1
    exact channelHull_mono hrates count hhull

/-- Hulls have integral values only, so a round leaves none but integral ones. -/
theorem integer_round (points : List OperatingPoint) (hsome : proposal.isEmpty = false) :
    (proposal.round points).rates.integer = true ∧
      (proposal.round points).channels.integer = true := by
  obtain ⟨hrates, hchannels⟩ := isEmpty_eq_false_iff.1 hsome
  have hfitted : (proposal.fitRates points).rates.integer = true :=
    Interval.integer_narrow hrates (Interval.integer_hull _)
  exact ⟨Interval.integer_narrow_of_integer hfitted _,
    Interval.integer_narrow hchannels (Interval.integer_hull _)⟩

/-! ### All rounds of a negotiation -/

theorem iterate_round_le (points : List OperatingPoint) (proposal : Proposal) (rounds : Nat) :
    (round points)^[rounds] proposal ≤ proposal := by
  induction rounds with
  | zero => exact le_refl proposal
  | succ rounds ih =>
    rw [Function.iterate_succ_apply']
    exact le_trans (round_le points _) ih

/-- What survives a round is never cut off from a proposal above it. -/
theorem Survives.le_iterate (hsurvives : inner.Survives points) (hle : inner ≤ outer)
    (rounds : Nat) : inner ≤ (round points)^[rounds] outer := by
  induction rounds with
  | zero => exact hle
  | succ rounds ih =>
    rw [Function.iterate_succ_apply']
    exact le_trans hsurvives.le_round (round_mono ih)

/-- A negotiation that succeeds has found a proposal with values that a round does not change. -/
theorem settle_eq_ok {rounds : Nat} {negotiated : Negotiated}
    (hsettle : proposal.settle points rounds = .ok negotiated) :
    ∃ done : Nat, negotiated.rounds = rounds + done + 1 ∧
      (round points)^[done] proposal = ⟨negotiated.rates, negotiated.channels⟩ ∧
      Proposal.isEmpty ⟨negotiated.rates, negotiated.channels⟩ = false ∧
      Proposal.round points ⟨negotiated.rates, negotiated.channels⟩ =
        ⟨negotiated.rates, negotiated.channels⟩ := by
  fun_induction settle points rounds proposal with
  | case1 rounds proposal hempty => cases hsettle
  | case2 rounds proposal hsome hround =>
    cases hsettle
    exact ⟨0, rfl, rfl, Bool.not_eq_true _ ▸ hsome, hround⟩
  | case3 rounds proposal hsome hround ih =>
    obtain ⟨done, hrounds, hreached, hfixed⟩ := ih hsettle
    refine ⟨done + 1, by omega, ?_, hfixed⟩
    rw [Function.iterate_succ_apply]
    exact hreached

theorem settle_eq_error {rounds : Nat} {rest : Proposal}
    (hsettle : proposal.settle points rounds = .error rest) :
    ∃ done : Nat, (round points)^[done] proposal = rest ∧ rest.isEmpty = true := by
  fun_induction settle points rounds proposal with
  | case1 rounds proposal hempty =>
    cases hsettle
    exact ⟨0, rfl, hempty⟩
  | case2 rounds proposal hsome hround => cases hsettle
  | case3 rounds proposal hsome hround ih =>
    obtain ⟨done, hreached, hempty⟩ := ih hsettle
    refine ⟨done + 1, ?_, hempty⟩
    rw [Function.iterate_succ_apply]
    exact hreached

end Proposal

namespace Constraints

variable {constraints : Constraints} {rates channels : Interval} {points : List OperatingPoint}

/-- Once the points are counted, refinement is the settling of the clipped proposal. -/
theorem refine_eq_settle (hpoints : constraints.table.points = .ok points) :
    constraints.refine rates channels =
      ((constraints.clip rates channels).settle points 0).mapError fun rest =>
        .unsatisfiable rest.rates rest.channels := by
  rw [refine]
  split
  · next hempty =>
    rw [Proposal.settle, if_pos hempty]
    rfl
  · rw [hpoints]

theorem points_of_refine_eq_ok {negotiated : Negotiated}
    (hrefine : constraints.refine rates channels = .ok negotiated) :
    ∃ points, constraints.table.points = .ok points := by
  cases hpoints : constraints.table.points with
  | ok points => exact ⟨points, rfl⟩
  | error overflow =>
    rw [refine] at hrefine
    split at hrefine
    · cases hrefine
    · rw [hpoints] at hrefine
      cases hrefine

/-- A successful refinement ends in a proposal with values that survives every rule. -/
theorem refine_eq_ok {negotiated : Negotiated} (hpoints : constraints.table.points = .ok points)
    (hrefine : constraints.refine rates channels = .ok negotiated) :
    ∃ done : Nat, negotiated.rounds = done + 1 ∧
      (Proposal.round points)^[done] (constraints.clip rates channels) =
        ⟨negotiated.rates, negotiated.channels⟩ ∧
      Proposal.isEmpty ⟨negotiated.rates, negotiated.channels⟩ = false ∧
      Proposal.Survives points ⟨negotiated.rates, negotiated.channels⟩ := by
  rw [refine_eq_settle hpoints] at hrefine
  cases hsettle : (constraints.clip rates channels).settle points 0 with
  | error rest =>
    rw [hsettle] at hrefine
    cases hrefine
  | ok settled =>
    rw [hsettle] at hrefine
    cases hrefine
    obtain ⟨done, hrounds, hreached, hsome, hround⟩ := Proposal.settle_eq_ok hsettle
    exact ⟨done, by omega, hreached, hsome, Proposal.survives_of_round_eq hround⟩

theorem integer_of_refine_eq_ok {negotiated : Negotiated}
    (hrefine : constraints.refine rates channels = .ok negotiated) :
    negotiated.rates.integer = true ∧ negotiated.channels.integer = true := by
  obtain ⟨points, hpoints⟩ := points_of_refine_eq_ok hrefine
  rw [refine_eq_settle hpoints] at hrefine
  cases hsettle : (constraints.clip rates channels).settle points 0 with
  | error rest =>
    rw [hsettle] at hrefine
    cases hrefine
  | ok settled =>
    rw [hsettle] at hrefine
    cases hrefine
    obtain ⟨done, -, -, hsome, hround⟩ := Proposal.settle_eq_ok hsettle
    have hinteger := Proposal.integer_round points hsome
    rw [hround] at hinteger
    exact hinteger

theorem refine_eq_error {fault : StreamFault} (hpoints : constraints.table.points = .ok points)
    (hrefine : constraints.refine rates channels = .error fault) :
    ∃ (done : Nat) (rest : Proposal), fault = .unsatisfiable rest.rates rest.channels ∧
      (Proposal.round points)^[done] (constraints.clip rates channels) = rest ∧
      rest.isEmpty = true := by
  rw [refine_eq_settle hpoints] at hrefine
  cases hsettle : (constraints.clip rates channels).settle points 0 with
  | error rest =>
    rw [hsettle] at hrefine
    cases hrefine
    obtain ⟨done, hreached, hempty⟩ := Proposal.settle_eq_error hsettle
    exact ⟨done, rest, rfl, hreached, hempty⟩
  | ok settled =>
    rw [hsettle] at hrefine
    cases hrefine

/-- A negotiation settles above everything with values that survives the rules. -/
theorem exists_refine_eq_ok_of_survives {inner : Proposal}
    (hpoints : constraints.table.points = .ok points) (hsurvives : inner.Survives points)
    (hsome : inner.isEmpty = false) (hle : inner ≤ constraints.clip rates channels) :
    ∃ negotiated, constraints.refine rates channels = .ok negotiated ∧
      inner ≤ ⟨negotiated.rates, negotiated.channels⟩ := by
  cases hrefine : constraints.refine rates channels with
  | ok negotiated =>
    obtain ⟨done, -, hreached, -⟩ := refine_eq_ok hpoints hrefine
    exact ⟨negotiated, rfl, hreached ▸ hsurvives.le_iterate hle done⟩
  | error fault =>
    obtain ⟨done, rest, -, hreached, hempty⟩ := refine_eq_error hpoints hrefine
    have hinner := Proposal.isEmpty_of_le (hreached ▸ hsurvives.le_iterate hle done) hempty
    rw [hsome] at hinner
    cases hinner

end Constraints
end DuplexAudio
