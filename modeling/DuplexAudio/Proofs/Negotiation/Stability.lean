import DuplexAudio.Proofs.Negotiation.Completeness
import DuplexAudio.Proofs.Negotiation.Course

/-!
Wider and repeated proposals. Whatever is settled on survives every rule, so a wider proposal cannot
be settled below it, and proposing it again changes nothing.
-/

namespace DuplexAudio.Constraints

variable {constraints : Constraints} {rates channels rates' channels' : Interval}
  {negotiated : Negotiated}

theorem clip_mono (hrates : rates ≤ rates') (hchannels : channels ≤ channels') :
    constraints.clip rates channels ≤ constraints.clip rates' channels' := by
  constructor
  · intro rate hmem
    obtain ⟨hrate, hwindow⟩ := mem_clip_rates.1 hmem
    exact mem_clip_rates.2 ⟨hrates rate hrate, hwindow⟩
  · intro count hmem
    obtain ⟨hcount, hwindow⟩ := mem_clip_channels.1 hmem
    exact mem_clip_channels.2 ⟨hchannels count hcount, hwindow⟩

theorem exists_refine_of_le (hrates : rates ≤ rates') (hchannels : channels ≤ channels')
    (hrefine : constraints.refine rates channels = .ok negotiated) :
    ∃ wider, constraints.refine rates' channels' = .ok wider ∧
      Proposal.mk negotiated.rates negotiated.channels ≤ ⟨wider.rates, wider.channels⟩ := by
  obtain ⟨points, hpoints⟩ := points_of_refine_eq_ok hrefine
  obtain ⟨-, -, -, hsome, hsurvives⟩ := refine_eq_ok hpoints hrefine
  exact exists_refine_eq_ok_of_survives hpoints hsurvives hsome
    (le_trans (negotiated_le_clip hrefine) (clip_mono hrates hchannels))

theorem clip_negotiated (hrefine : constraints.refine rates channels = .ok negotiated) :
    constraints.clip negotiated.rates negotiated.channels =
      ⟨negotiated.rates, negotiated.channels⟩ := by
  obtain ⟨points, hpoints⟩ := points_of_refine_eq_ok hrefine
  obtain ⟨-, -, -, hsome, -⟩ := refine_eq_ok hpoints hrefine
  obtain ⟨hrates, hchannels⟩ := Proposal.isEmpty_eq_false_iff.1 hsome
  obtain ⟨hinteger, hinteger'⟩ := integer_of_refine_eq_ok hrefine
  obtain ⟨hwithin, hwithin'⟩ := negotiated_le_clip hrefine
  have hrates' : negotiated.rates ≤ constraints.window.rates := by
    intro rate hmem
    exact (mem_clip_rates.1 (hwithin rate hmem)).2
  have hchannels' : negotiated.channels ≤ constraints.window.channels := by
    intro count hmem
    exact (mem_clip_channels.1 (hwithin' count hmem)).2
  rw [clip, Interval.intersect_eq_self hrates hinteger hrates',
    Interval.intersect_eq_self hchannels hinteger' hchannels']

theorem refine_negotiated (hrefine : constraints.refine rates channels = .ok negotiated) :
    constraints.refine negotiated.rates negotiated.channels =
      .ok { negotiated with rounds := 1 } := by
  obtain ⟨points, hpoints⟩ := points_of_refine_eq_ok hrefine
  obtain ⟨-, -, -, hsome, hsurvives⟩ := refine_eq_ok hpoints hrefine
  have hround := hsurvives.round_eq hsome (integer_of_refine_eq_ok hrefine)
  have hcourse := Proposal.Course.settled hsome hround
  rw [← clip_negotiated hrefine] at hcourse
  rw [refine_of_course hpoints hcourse, clip_negotiated hrefine]
  rfl

/-- **Negotiation is monotone and idempotent.** If a proposal is settled, a wider one is settled
too, on intervals that include those of the narrower one; and what was settled on is settled on
again, just as it is, in a single round. -/
theorem refine_monotone_and_idempotent (constraints : Constraints) :
    (∀ rates channels rates' channels' negotiated,
      rates'.includes rates = true → channels'.includes channels = true →
      constraints.refine rates channels = .ok negotiated →
        ∃ wider, constraints.refine rates' channels' = .ok wider ∧
          wider.rates.includes negotiated.rates = true ∧
          wider.channels.includes negotiated.channels = true) ∧
    ∀ rates channels negotiated, constraints.refine rates channels = .ok negotiated →
      constraints.refine negotiated.rates negotiated.channels =
        .ok { negotiated with rounds := 1 } := by
  constructor
  · intro rates channels rates' channels' negotiated hrates hchannels hrefine
    have hle := Interval.includes_iff_le.1 hrates
    have hle' := Interval.includes_iff_le.1 hchannels
    obtain ⟨wider, hwider, hwithin, hwithin'⟩ := exists_refine_of_le hle hle' hrefine
    exact ⟨wider, hwider, Interval.includes_iff_le.2 hwithin, Interval.includes_iff_le.2 hwithin'⟩
  · intro rates channels negotiated hrefine
    exact refine_negotiated hrefine

/-- The counts that are lost one by one are not lost again, nor asked back by a wider proposal. -/
theorem refine_monotone_and_idempotent_staggered :
    staggered.refine ⟨40000, 90000, true⟩ ⟨6, 10, true⟩ =
        .ok { rates := .single 88200, channels := .single 6, rounds := 3 } ∧
      staggered.refine (.single 88200) (.single 6) =
        .ok { rates := .single 88200, channels := .single 6, rounds := 1 } ∧
      ∃ wider, staggered.refine ⟨40000, 100000, false⟩ ⟨5, 10, false⟩ = .ok wider ∧
        wider.rates.includes (.single 88200) = true ∧
        wider.channels.includes (.single 6) = true := by
  have hrefine : staggered.refine ⟨40000, 90000, true⟩ ⟨6, 10, true⟩ =
      .ok { rates := .single 88200, channels := .single 6, rounds := 3 } := by decide +kernel
  obtain ⟨hmonotone, hidempotent⟩ := refine_monotone_and_idempotent staggered
  have hagain := hidempotent _ _ _ hrefine
  have hwider := hmonotone _ _ ⟨40000, 100000, false⟩ ⟨5, 10, false⟩ _ (by decide) (by decide)
    hrefine
  exact ⟨hrefine, hagain, hwider⟩

end DuplexAudio.Constraints
