import DuplexAudio.Proofs.Negotiation.Satisfiability

/-!
Negotiation at one rate. The rate is listed with a single channel count, so the outcome is a point,
and what is negotiated there can be committed to as it is.
-/

namespace DuplexAudio.Constraints

variable {constraints : Constraints} {channels : Interval} {rate count : UInt32}
  {points : List OperatingPoint}

/-- A selection is a refinement of which only the success is kept. -/
theorem exists_select_iff_exists_refine :
    (∃ params, constraints.select rate count = .ok params) ↔
      ∃ negotiated, constraints.refine (.single rate) (.single count) = .ok negotiated := by
  rw [select]
  cases constraints.refine (.single rate) (.single count) <;> simp [Except.map]

theorem exists_select_iff_legal (hpoints : constraints.table.points = .ok points) :
    (∃ params, constraints.select rate count = .ok params) ↔
      constraints.Legal (.single rate) (.single count) rate count := by
  constructor
  · rintro ⟨params, hselect⟩
    exact ((select_eq_ok_iff hpoints).1 hselect).2
  · intro hlegal
    exact ⟨⟨rate, count⟩, (select_eq_ok_iff hpoints).2 ⟨rfl, hlegal⟩⟩

/-- Refining to one rate within the channels of the table finds the count that it is on offer with,
which can then be selected, or fails because the rate is outside the window or not on offer. -/
theorem refine_at_rate (constraints : Constraints) {window : CapabilityWindow}
    (hwindow : constraints.table.window = .ok window)
    (hchannels : constraints.window.channels = window.channels) (rate : UInt32) :
    (∃ count rounds, constraints.table.Offers rate count ∧ rate ∈ constraints.window.rates ∧
      constraints.refine (.single rate) constraints.window.channels =
        .ok ⟨.single rate, .single count, rounds⟩ ∧
      constraints.select rate count = .ok ⟨rate, count⟩) ∨
    ∃ fault, constraints.refine (.single rate) constraints.window.channels = .error fault ∧
      ∀ count, constraints.table.Offers rate count → rate ∉ constraints.window.rates := by
  obtain ⟨points, hpoints⟩ := ModeTable.exists_points_of_window hwindow
  have hcounts {count : UInt32} (hoffers : constraints.table.Offers rate count) :
      count ∈ constraints.window.channels :=
    hchannels ▸ (hoffers.mem_window hwindow).2
  cases hrefine : constraints.refine (.single rate) constraints.window.channels with
  | ok negotiated =>
    obtain ⟨rates, channels, rounds⟩ := negotiated
    obtain ⟨rfl, hrate, count, hoffers, rfl⟩ := refine_eq_ok_of_single hrefine (le_refl _)
    have hlegal := legal_single_iff.2 ⟨hoffers, hrate, hcounts hoffers⟩
    exact Or.inl ⟨count, rounds, hoffers, hrate, rfl, (select_eq_ok_iff hpoints).2 ⟨rfl, hlegal⟩⟩
  | error fault =>
    refine Or.inr ⟨fault, rfl, fun count hoffers hrate => ?_⟩
    exact not_legal_of_refine_eq_error hpoints hrefine
      ⟨hoffers, Interval.mem_single.2 rfl, hrate, hcounts hoffers, hcounts hoffers⟩

theorem exists_refine_at_rate_iff (hpoints : constraints.table.points = .ok points) :
    (∃ negotiated, constraints.refine (.single rate) channels = .ok negotiated) ↔
      rate ∈ constraints.window.rates ∧ ∃ count, constraints.table.Offers rate count ∧
        count ∈ channels ∧ count ∈ constraints.window.channels := by
  constructor
  · rintro ⟨negotiated, hrefine⟩
    obtain ⟨count, hlegal, -⟩ := exists_legal_of_refine_single hrefine
    exact ⟨hlegal.rate_mem_window, count, hlegal.offered, hlegal.count_mem,
      hlegal.count_mem_window⟩
  · rintro ⟨hrate, count, hoffers, hcount, hcount'⟩
    exact exists_refine_eq_ok_of_legal hpoints
      ⟨hoffers, Interval.mem_single.2 rfl, hrate, hcount, hcount'⟩

/-- **Negotiation at one rate is exact.** A proposal of one rate is settled exactly if the rate is
in the window and an enabled mode lists it with a channel count that is proposed and in the window.
It is settled on that rate and that count, which can be committed to, and refused as unsatisfiable
otherwise. So a selection succeeds exactly for such a mode with that very count, and what is
negotiated for it are single values. -/
theorem refine_exact_at_rate (constraints : Constraints) (hfit : constraints.table.ChannelsFit)
    (rate : UInt32) :
    (∀ channels,
      ((∃ negotiated, constraints.refine (.single rate) channels = .ok negotiated) ↔
        rate ∈ constraints.window.rates ∧ ∃ count, constraints.table.Offers rate count ∧
          count ∈ channels ∧ count ∈ constraints.window.channels) ∧
      (∀ negotiated, constraints.refine (.single rate) channels = .ok negotiated →
        (∀ count, constraints.table.Offers rate count →
          negotiated.rates = .single rate ∧ negotiated.channels = .single count) ∧
        constraints.select rate negotiated.channels.lower =
          .ok ⟨rate, negotiated.channels.lower⟩ ∧
        constraints.select rate negotiated.channels.upper =
          .ok ⟨rate, negotiated.channels.upper⟩) ∧
      ∀ fault, constraints.refine (.single rate) channels = .error fault →
        ∃ rest : Proposal, fault = .unsatisfiable rest.rates rest.channels) ∧
    ∀ count,
      (∀ params, constraints.select rate count = .ok params ↔
        params = ⟨rate, count⟩ ∧ constraints.table.Offers rate count ∧
          rate ∈ constraints.window.rates ∧ count ∈ constraints.window.channels) ∧
      ∀ negotiated, constraints.refine (.single rate) (.single count) = .ok negotiated →
        negotiated.rates.isSingle = true ∧ negotiated.channels.isSingle = true := by
  have hpoints := hfit.points_eq
  constructor
  · intro channels
    refine ⟨exists_refine_at_rate_iff hpoints, ?_, ?_⟩
    · intro negotiated hrefine
      obtain ⟨count, hlegal, hrates, hchannels⟩ := exists_legal_of_refine_single hrefine
      have hselect := hlegal.select hpoints
      rw [hrates, hchannels]
      refine ⟨?_, hselect, hselect⟩
      intro other hother
      have honly : other = count := (ModeTable.offers_iff.1 hother).1.count_unique
        (ModeTable.offers_iff.1 hlegal.offered).1
      rw [honly]
      exact ⟨rfl, rfl⟩
    · intro fault hrefine
      obtain ⟨_, rest, hfault, -⟩ := refine_eq_error hpoints hrefine
      exact ⟨rest, hfault⟩
  · intro count
    refine ⟨fun params => by rw [select_eq_ok_iff hpoints, legal_single_iff], ?_⟩
    intro negotiated hrefine
    obtain ⟨count', -, hrates, hchannels⟩ := exists_legal_of_refine_single hrefine
    rw [hrates, hchannels]
    exact ⟨Interval.isSingle_single rate, Interval.isSingle_single count'⟩

def unlimited : Constraints :=
  { twoModes with window := { rates := .full, channels := .full, rateMask := ⟨0⟩ } }

/-- A rate of the middle mode is settled on its four channels; one of the disabled mode is refused,
although the window has room for no channels. -/
theorem refine_exact_at_rate_unlimited :
    unlimited.table.ChannelsFit ∧
      (∃ negotiated, unlimited.refine (.single 96000) .full = .ok negotiated ∧
        negotiated.rates = .single 96000 ∧ negotiated.channels = .single 4) ∧
      unlimited.select 96000 4 = .ok ⟨96000, 4⟩ ∧
      ¬ ∃ negotiated, unlimited.refine (.single 176400) .full = .ok negotiated := by
  have hfit : unlimited.table.ChannelsFit := by decide
  have hoffers : unlimited.table.Offers 96000 4 :=
    ⟨{ fixedChannels := 2, variableChannels := 2, rates := [88200, 96000] },
      by decide, by decide, by decide, by decide⟩
  obtain ⟨hsettled, hselected⟩ := refine_exact_at_rate unlimited hfit 96000
  obtain ⟨hdisabled, -⟩ := refine_exact_at_rate unlimited hfit 176400
  obtain ⟨hiff, hexact, -⟩ := hsettled .full
  obtain ⟨negotiated, hrefine⟩ :=
    hiff.2 ⟨Interval.mem_full _, 4, hoffers, Interval.mem_full _, Interval.mem_full _⟩
  refine ⟨hfit, ⟨negotiated, hrefine, (hexact negotiated hrefine).1 4 hoffers⟩,
    ((hselected 4).1 _).2 ⟨rfl, hoffers, Interval.mem_full _, Interval.mem_full _⟩, ?_⟩
  rw [(hdisabled .full).1]
  rintro ⟨-, count, ⟨mode, hmode, henabled, hrate, -⟩, -⟩
  revert mode
  decide

end DuplexAudio.Constraints
