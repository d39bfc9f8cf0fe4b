import DuplexAudio.Proofs.Device.Commitment
import DuplexAudio.Proofs.Negotiation.SingleRate
import Mathlib.Data.List.Induction

/-!
What an open PCM substream is offered, after requests of any kind, those that go straight to the
lifecycle or to the transport among them. Refining to one rate and one channel count succeeds
exactly when committing to them does, and a running pair leaves a single outcome.
-/

namespace DuplexAudio

namespace Device

variable {start device next : Device} {requests : List Request} {request : Request} {reply : Reply}
  {pcm : PcmSubstream} {rate count : UInt32}

/-! ### Runs of all requests -/

/-- A device as it is attached, before the first request. -/
def Fresh (device : Device) : Prop :=
  ∃ name formats clock drivesClock, device = .attach name formats clock drivesClock

theorem run_append_singleton (device : Device) (requests : List Request) (request : Request) :
    device.run (requests ++ [request]) = ((device.run requests).step request).2 :=
  List.foldl_append

theorem state_settleDetached (device : Device) :
    device.settleDetached.lifecycle.state = device.lifecycle.state := by
  unfold settleDetached
  split <;> rfl

theorem flagged_retire {lifecycle : Lifecycle} (hflagged : lifecycle.Flagged)
    (substream : Substream) : (retire lifecycle substream).Flagged := by
  have hwithdrawn : (withdraw lifecycle substream).Flagged := by
    rwa [Lifecycle.Flagged, state_withdraw]
  rcases retire_cases lifecycle substream with ⟨-, hretire⟩ | ⟨-, hretire⟩
  · rwa [hretire]
  · rw [hretire]
    exact hwithdrawn.leave

theorem flagged_close (hflagged : device.lifecycle.Flagged) (substream : Substream) :
    (device.close substream).lifecycle.Flagged := by
  rw [Lifecycle.Flagged, close, state_settleDetached]
  exact flagged_retire hflagged substream

/-- No request parts the flag from the committed rate. -/
theorem Transition.flagged (htransition : Transition device request reply next)
    (hflagged : device.lifecycle.Flagged) : next.lifecycle.Flagged := by
  cases htransition with
  | joinRefused _ _ rate _ _ _ _ hjoin
  | openedMidi _ _ rate _ _ _ _ hjoin =>
    have hjoined := hflagged.join rate
    rwa [hjoin] at hjoined
  | startRefused _ params _ _ _ _ hstart
  | prepared _ params _ _ _ _ hstart =>
    have hstarted := hflagged.ensureStarted params.rate
    rwa [hstart] at hstarted
  | freedUncounted => exact hflagged.ensureStopped
  | freed => exact hflagged.leave
  | closed substream
  | dropped substream => exact flagged_close hflagged substream
  | lifecycleAsked action => exact hflagged.step action
  | transportAsked action =>
    rwa [Lifecycle.Flagged, Lifecycle.state_stepTransport]
  | detached => rwa [Lifecycle.Flagged, detach, state_settleDetached]
  | _ => exact hflagged

theorem flagged_run (hfresh : start.Fresh) (requests : List Request) :
    (start.run requests).lifecycle.Flagged := by
  induction requests using List.reverseRecOn with
  | nil =>
    obtain ⟨name, formats, clock, drivesClock, rfl⟩ := hfresh
    exact (Lifecycle.sound_attached clock drivesClock).flag
  | append_singleton requests request ih =>
    rw [run_append_singleton]
    exact (step_transition _ request).flagged ih

/-! ### Where the table comes from -/

/-- An open PCM substream was opened by some request of the run. -/
theorem exists_opening_of_run (hfresh : start.Fresh)
    (hopen : (start.run requests).substream = some (.pcm pcm)) :
    ∃ before after, requests = before ++ .openPcm pcm.direction :: after ∧
      OpenedAt pcm (start.run before) := by
  induction requests using List.reverseRecOn generalizing pcm with
  | nil =>
    obtain ⟨name, formats, clock, drivesClock, rfl⟩ := hfresh
    cases hopen
  | append_singleton requests request ih =>
    rw [run_append_singleton] at hopen
    rcases (step_transition _ request).origin hopen with
      ⟨earlier, hearlier, hsame⟩ | ⟨rfl, hwindow, htable⟩
    · obtain ⟨before, after, rfl, ⟨htable, hwindow⟩⟩ := ih hearlier
      have hdirection : earlier.direction = pcm.direction := congrArg (·.direction) hsame
      rw [hdirection] at htable hwindow
      rw [hsame] at htable hwindow
      refine ⟨before, after ++ [request], ?_, ⟨htable, hwindow⟩⟩
      rw [hdirection, List.append_assoc, List.cons_append]
    · exact ⟨requests, [], rfl, ⟨htable, hwindow⟩⟩

theorem Transition.offer_of_opened {direction : Direction} {window : CapabilityWindow}
    (htransition : Transition device (.openPcm direction) (.opened window) next) :
    ∃ constraints, device.offer device.source.formats direction = .ok constraints := by
  cases htransition with
  | idle _ _ hidle => exact hidle.elim
  | openedPcm _ constraints _ hoffer => exact ⟨constraints, hoffer⟩

/-- The modes of a table that was opened can be counted: its window needed their channels. -/
theorem OpenedAt.exists_points (hopened : OpenedAt pcm device) :
    ∃ points, pcm.constraints.table.points = .ok points := by
  have htransition := step_transition device (.openPcm pcm.direction)
  rw [hopened.window] at htransition
  obtain ⟨constraints, hoffer⟩ := htransition.offer_of_opened
  obtain ⟨window, -, hwindow, -⟩ := offer_eq_ok_iff.1 hoffer
  rw [hopened.table]
  exact ModeTable.exists_points_of_window hwindow

/-! ### Offers and commitments -/

theorem mem_runningRates_iff (hflagged : device.lifecycle.Flagged) :
    rate ∈ device.runningRates ↔ device.lifecycle.state.running = false ∨
      device.lifecycle.state.committedRate = some rate := by
  rw [hflagged, runningRates]
  cases device.lifecycle.state.committedRate with
  | none => simp [Interval.mem_full]
  | some running => simp [Interval.mem_single, eq_comm]

/-- Outside the rate of a running pair nothing is left to refine; at it, the pair is no limit. -/
theorem exists_refine_single_iff :
    (∃ negotiated, device.refine pcm (.single rate) (.single count) = .ok negotiated) ↔
      rate ∈ device.runningRates ∧
        ∃ negotiated, pcm.constraints.refine (.single rate) (.single count) = .ok negotiated := by
  by_cases hpinned : rate ∈ device.runningRates
  · rw [refine, Interval.intersect_single hpinned]
    exact (and_iff_right hpinned).symm
  · refine iff_of_false ?_ fun hrefine => hpinned hrefine.1
    rintro ⟨negotiated, hrefine⟩
    obtain ⟨points, hpoints⟩ := Constraints.points_of_refine_eq_ok hrefine
    obtain ⟨-, -, -, hsome, -⟩ := Constraints.refine_eq_ok hpoints hrefine
    have hlower := Interval.lower_mem (Proposal.isEmpty_eq_false_iff.1 hsome).1
    have hclipped := (Constraints.negotiated_le_clip hrefine).1 _ hlower
    obtain ⟨hsame, hruns⟩ := Interval.mem_intersect.1 (Constraints.mem_clip_rates.1 hclipped).1
    rw [Interval.mem_single.1 hsame] at hruns
    exact hpinned hruns

theorem exists_commit_iff_exists_select (hstate : pcm.state ≠ .running) :
    (∃ committed, (device.commit pcm rate count).1 = .ok committed) ↔
      rate ∈ device.runningRates ∧
        ∃ params, pcm.constraints.select rate count = .ok params := by
  unfold commit selectParams
  rw [if_neg hstate]
  by_cases hpinned : rate ∈ device.runningRates
  · rw [if_neg (not_not_intro hpinned), and_iff_right hpinned]
    cases pcm.constraints.select rate count <;> simp [keep]
  · rw [if_pos hpinned]
    simp [hpinned]

/-- **What is offered is what can be committed to.** After any requests to a fresh device, an open
PCM substream that does not run can be committed to a rate and a channel count exactly if they can
be refined to, which is exactly if an enabled mode of the table it was opened on lists them, they
lie within its window, and the pair is idle or runs at that rate. While the pair runs, whatever can
be refined to is its rate with the channels of the mode that lists it. -/
theorem offered_iff_committable (hfresh : start.Fresh)
    (hopen : (start.run requests).substream = some (.pcm pcm)) :
    (∃ before after, requests = before ++ .openPcm pcm.direction :: after ∧
      OpenedAt pcm (start.run before)) ∧
    (pcm.state ≠ .running → ∀ rate count,
      ((∃ committed, ((start.run requests).commit pcm rate count).1 = .ok committed) ↔
        ∃ negotiated, (start.run requests).refine pcm (.single rate) (.single count) =
          .ok negotiated) ∧
      ((∃ negotiated, (start.run requests).refine pcm (.single rate) (.single count) =
          .ok negotiated) ↔
        pcm.constraints.table.Offers rate count ∧ rate ∈ pcm.constraints.window.rates ∧
          count ∈ pcm.constraints.window.channels ∧
          ((start.run requests).lifecycle.state.running = false ∨
            (start.run requests).lifecycle.state.committedRate = some rate))) ∧
    (∀ running, (start.run requests).lifecycle.state.running = true →
      (start.run requests).lifecycle.state.committedRate = some running →
      ∀ rates channels negotiated,
        (start.run requests).refine pcm rates channels = .ok negotiated →
        negotiated.rates = .single running ∧ ∃ mode count,
          pcm.constraints.table.modeForRate? running = some mode ∧ mode.channels = .ok count ∧
            negotiated.channels = .single count) := by
  have hopening := exists_opening_of_run hfresh hopen
  refine ⟨hopening, fun hstate rate count => ⟨?_, ?_⟩, ?_⟩
  · rw [exists_commit_iff_exists_select hstate, exists_refine_single_iff,
      Constraints.exists_select_iff_exists_refine]
  · obtain ⟨before, after, -, hopened⟩ := hopening
    obtain ⟨points, hpoints⟩ := hopened.exists_points
    rw [exists_refine_single_iff, ← Constraints.exists_select_iff_exists_refine,
      Constraints.exists_select_iff_legal hpoints, Constraints.legal_single_iff,
      mem_runningRates_iff (flagged_run hfresh requests), and_comm, and_assoc, and_assoc]
  · intro running _ hcommitted rates channels negotiated hrefine
    rw [refine, runningRates, hcommitted] at hrefine
    obtain ⟨hrate, -, count, ⟨mode, hmode, -, hlisted, hcount⟩, hchannels⟩ :=
      Constraints.refine_eq_ok_of_single hrefine fun _ hother =>
        (Interval.mem_intersect.1 hother).2
    exact ⟨hrate, mode, count, ModeTable.modeForRate?_eq_some_iff.2 ⟨hmode, hlisted⟩, hcount,
      hchannels⟩

/-- A capture substream commits to a rate, and then somebody else starts the pair at half of it. -/
def overtakenSession : List Request :=
  [.openPcm .capture, .commit 96000 2, .lifecycle (.join 48000)]

def overtakenCapture : PcmSubstream :=
  { sharedCapture with
    state := .setup
    params := some ⟨96000, 2⟩ }

/-- The overtaken substream can only commit anew, at the rate of the pair. -/
theorem offered_iff_committable_overtakenSession :
    stereo.Fresh ∧ (stereo.run overtakenSession).substream = some (.pcm overtakenCapture) ∧
      (∃ committed,
        ((stereo.run overtakenSession).commit overtakenCapture 48000 2).1 = .ok committed) ∧
      (¬ ∃ committed,
        ((stereo.run overtakenSession).commit overtakenCapture 96000 2).1 = .ok committed) ∧
      ∀ negotiated, (stereo.run overtakenSession).refine overtakenCapture .full .full =
        .ok negotiated → negotiated.rates = .single 48000 := by
  have hfresh : stereo.Fresh := ⟨_, _, _, _, rfl⟩
  have hopen : (stereo.run overtakenSession).substream = some (.pcm overtakenCapture) := by
    decide +kernel
  have hruns : (stereo.run overtakenSession).lifecycle.state = ⟨2, true, some 48000⟩ := by
    decide +kernel
  have hoffered : overtakenCapture.constraints.table.Offers 48000 2 :=
    ⟨{ fixedChannels := 2, rates := [44100, 48000] }, by decide, by decide, by decide, by decide⟩
  obtain ⟨-, hcommits, hrefines⟩ := offered_iff_committable hfresh hopen
  have hidle : overtakenCapture.state ≠ .running := by decide
  refine ⟨hfresh, hopen, ?_, ?_, fun negotiated hrefine => ?_⟩
  · obtain ⟨hsame, hiff⟩ := hcommits hidle 48000 2
    exact hsame.2 (hiff.2 ⟨hoffered, by decide, by decide, Or.inr (by rw [hruns])⟩)
  · intro hcommits'
    obtain ⟨hsame, hiff⟩ := hcommits hidle 96000 2
    obtain ⟨-, -, -, hpinned⟩ := hiff.1 (hsame.1 hcommits')
    rw [hruns] at hpinned
    revert hpinned
    decide
  · exact (hrefines 48000 (by rw [hruns]) (by rw [hruns]) _ _ _ hrefine).1

end Device
end DuplexAudio
