import DuplexAudio.Proofs.Device.Onward
import DuplexAudio.Proofs.Negotiation.Satisfiability

/-!
Commitments of the open substream. Parameters are held exactly from the first commit until they are
freed, and are always on offer. From preparing on the pair runs at the committed rate, and it stays
at that rate whatever is asked for until the substream is freed or closed.
-/

namespace DuplexAudio

theorem SubstreamState.afterStop_live_iff (state : SubstreamState) :
    state.afterStop = .prepared ∨ state.afterStop = .running ↔
      state = .prepared ∨ state = .running := by
  cases state <;> decide

/-- A substream holds parameters exactly while it is past `opened`, and they are the rate and the
channel count of an enabled mode of its table, with the rate inside its window. -/
structure PcmSubstream.Coherent (pcm : PcmSubstream) : Prop where
  params_eq_none_iff : pcm.params = none ↔ pcm.state = .opened
  offered : ∀ params, pcm.params = some params →
    pcm.constraints.table.Offers params.rate params.channels ∧
      params.rate ∈ pcm.constraints.window.rates

theorem PcmSubstream.Coherent.withState {pcm : PcmSubstream} (hcoherent : pcm.Coherent)
    {state : SubstreamState} (hstate : state = .opened ↔ pcm.state = .opened) :
    PcmSubstream.Coherent { pcm with state } where
  params_eq_none_iff := hcoherent.params_eq_none_iff.trans hstate.symm
  offered := hcoherent.offered

/-- The pair runs for a prepared or running PCM substream at its rate, for a MIDI port at any. -/
def Substream.ServedBy (lifecycle : Lifecycle) : Substream → Prop
  | .pcm substream => substream.Coherent ∧
      (substream.state = .prepared ∨ substream.state = .running →
        ∃ params, substream.params = some params ∧ lifecycle.RunsAt params.rate)
  | .midi _ => ∃ rate, lifecycle.RunsAt rate

/-- A substream stays served as long as whatever it is counted for keeps running. -/
theorem Substream.ServedBy.mono {substream : Substream} {lifecycle next : Lifecycle}
    (hserved : substream.ServedBy lifecycle)
    (hruns : substream.counted = 1 → ∀ rate, lifecycle.RunsAt rate → next.RunsAt rate) :
    substream.ServedBy next := by
  cases substream with
  | pcm pcm =>
    refine ⟨hserved.1, fun hstate => ?_⟩
    have hcounted : (Substream.pcm pcm).counted = 1 := by
      refine if_neg fun hopened => ?_
      simp [hopened] at hstate
    obtain ⟨params, hparams, hrate⟩ := hserved.2 hstate
    exact ⟨params, hparams, hruns hcounted _ hrate⟩
  | midi midi =>
    obtain ⟨rate, hrate⟩ := hserved
    exact ⟨rate, hruns rfl _ hrate⟩

namespace Device

variable {device next : Device} {ledger : Ledger} {request : Request} {reply : Reply}
  {pcm : PcmSubstream} {rate : UInt32}

/-! ### Committing -/

theorem selectParams_eq_ok {channels : UInt32} {params : StreamParams}
    (hselect : device.selectParams pcm rate channels = .ok params) :
    pcm.state ≠ .running ∧ params.rate ∈ device.runningRates ∧
      pcm.constraints.table.Offers params.rate params.channels ∧
        params.rate ∈ pcm.constraints.window.rates := by
  unfold selectParams at hselect
  by_cases hrunning : pcm.state = .running
  · rw [if_pos hrunning] at hselect
    cases hselect
  by_cases hpinned : rate ∈ device.runningRates
  · rw [if_neg hrunning, if_neg (not_not_intro hpinned)] at hselect
    obtain ⟨rfl, hlegal⟩ := Constraints.legal_of_select_eq_ok hselect
    exact ⟨hrunning, hpinned, hlegal.offered, hlegal.rate_mem_window⟩
  · rw [if_neg hrunning, if_pos hpinned] at hselect
    cases hselect

/-- While the pair runs, nobody commits to another rate. -/
theorem eq_of_mem_runningRates {other : UInt32} (hruns : device.lifecycle.RunsAt rate)
    (hmem : other ∈ device.runningRates) : other = rate := by
  rw [runningRates, hruns.committed] at hmem
  exact Interval.mem_single.1 hmem

theorem coherent_of_select {channels : UInt32} {params : StreamParams}
    (hselect : device.selectParams pcm rate channels = .ok params) :
    PcmSubstream.Coherent { pcm with state := .setup, params := some params } where
  params_eq_none_iff := by simp
  offered _ hparams := Option.some.inj hparams ▸ (selectParams_eq_ok hselect).2.2

/-! ### The rate of the pair -/

/-- The request gave up the parameters of the open substream, or the substream itself. -/
def Releases : Request → Reply → Prop
  | .free, .done => True
  | request, reply => Closes request reply

/-- Outside a release, no permitted request takes the pair away from a substream that is counted, or
moves its rate. -/
theorem Balanced.runsAt_of_transition (hbalanced : Balanced device ledger)
    (hpermits : ledger.Permits request) (htransition : Transition device request reply next)
    (hcounted : device.counted = 1) (hkept : ¬ Releases request reply)
    (hruns : device.lifecycle.RunsAt rate) : next.lifecycle.RunsAt rate := by
  cases htransition with
  | joinRefused _ _ other _ _ _ _ hjoin
  | openedMidi _ _ other _ _ _ _ hjoin =>
    have hjoined := hruns.join other
    rw [hjoin] at hjoined
    exact hjoined
  | committed => exact hruns.addSubstream
  | startRefused _ params _ _ _ _ hstart
  | prepared _ params _ _ _ _ hstart =>
    have hstarted := hruns.ensureStarted params.rate
    rw [hstart] at hstarted
    exact hstarted
  | started | stopped | triggeredMidi | clockChanged => exact hruns.frame rfl rfl rfl
  | freedUncounted | freed | closed | dropped => exact absurd trivial hkept
  | lifecycleAsked action =>
    cases action with
    | join other => exact hruns.join other
    | leave =>
      -- The substream and the join that is left are both counted, so the pair stays needed.
      refine hruns.leave ?_
      have houtstanding : 0 < ledger.joined - ledger.left := hpermits
      have hcount := hbalanced.count
      omega
    | isRunning => exact hruns
    | _ => exact hpermits.elim
  | transportAsked action =>
    cases action with
    | failNext reason => exact hruns.frame rfl rfl rfl
    | _ => exact hpermits.elim
  | detached => exact hpermits.elim
  | _ => exact hruns

/-! ### What serves the open substream -/

/-- The open substream, if there is one, is served. -/
def Served (device : Device) : Prop :=
  ∀ substream, device.substream = some substream → substream.ServedBy device.lifecycle

theorem Served.keep (hserved : device.Served) (hsubstream : next.substream = device.substream)
    (hruns : device.counted = 1 →
      ∀ rate, device.lifecycle.RunsAt rate → next.lifecycle.RunsAt rate) : next.Served := by
  intro substream hopen
  rw [hsubstream] at hopen
  refine (hserved substream hopen).mono fun hcounted => hruns ?_
  rw [counted_of_open hopen, hcounted]

/-- A permitted request leaves the open substream served, if the balance is kept. -/
theorem Served.of_transition (hserved : device.Served) (hbalanced : Balanced device ledger)
    (hpermits : ledger.Permits request) (htransition : Transition device request reply next)
    (hkeeps : Balanced next (ledger.record request reply)) : next.Served := by
  have hsync := hbalanced.sound.toInSync
  have hkept (hcounted : device.counted = 1) (hkeeps : ¬ Releases request reply) (rate : UInt32)
      (hruns : device.lifecycle.RunsAt rate) : next.lifecycle.RunsAt rate :=
    hbalanced.runsAt_of_transition hpermits htransition hcounted hkeeps hruns
  cases htransition with
  | openedPcm | freedUncounted | freed => exact forall_open rfl ⟨⟨by simp, by simp⟩, by simp⟩
  | openedMidi _ _ _ _ lifecycle _ _ hjoin =>
    have hcounted : 1 ≤ (lifecycle.state.activeSubstreams : Nat) := hkeeps.counted_le rfl
    exact forall_open rfl
      (hsync.exists_runsAt_of_join_eq_ok hjoin (UInt32.lt_iff_toNat_lt.2 hcounted))
  | committed _ _ _ _ _ _ hselect
  | recommitted _ _ _ _ _ _ hselect =>
    exact forall_open rfl ⟨coherent_of_select hselect, by simp⟩
  | prepared pcm params outcome lifecycle hopen hparams hstart hrate =>
    obtain ⟨hstate, hsome⟩ := paramsToPrepare_eq_ok hparams
    have hcommitted : pcm.state ≠ .opened := by
      rcases hstate with hstate | hstate <;> simp [hstate]
    have hused : 0 < device.lifecycle.state.activeSubstreams := by
      have hle := hbalanced.counted_le hopen
      rw [show (Substream.pcm pcm).counted = 1 from if_neg hcommitted] at hle
      exact UInt32.lt_iff_toNat_lt.2 hle
    have hruns := hsync.runsAt_of_ensureStarted_eq_ok hused hstart hrate
    refine forall_open rfl ⟨(hserved _ hopen).1.withState (by simp [hcommitted]), fun _ => ?_⟩
    exact ⟨params, hsome, hruns⟩
  | started _ pcm _ hopen hstate =>
    obtain ⟨params, hparams, hruns⟩ := (hserved _ hopen).2 (Or.inl hstate)
    refine forall_open rfl ⟨(hserved _ hopen).1.withState (by simp [hstate]), fun _ => ?_⟩
    exact ⟨params, hparams, hruns.frame rfl rfl rfl⟩
  | stopped _ pcm _ hopen =>
    have hcoherent := (hserved _ hopen).1.withState pcm.state.afterStop_eq_opened_iff
    refine forall_open rfl ⟨hcoherent, fun hstate => ?_⟩
    obtain ⟨params, hparams, hruns⟩ := (hserved _ hopen).2 (pcm.state.afterStop_live_iff.1 hstate)
    exact ⟨params, hparams, hruns.frame rfl rfl rfl⟩
  | triggeredMidi up midi hopen =>
    obtain ⟨rate, hruns⟩ := hserved _ hopen
    exact forall_open rfl ⟨rate, hruns.frame rfl rfl rfl⟩
  | closed substream
  | dropped substream => exact forall_open_of_eq_none (substream_close device substream)
  | clockChanged => exact hserved.keep rfl fun _ _ hruns => hruns.frame rfl rfl rfl
  | joinRefused | startRefused | lifecycleAsked | transportAsked =>
    exact hserved.keep rfl fun hcounted => hkept hcounted id
  | detached => exact hpermits.elim
  | _ => exact hserved

theorem served_of_reachable (hreachable : Reachable UInt32.size device ledger) :
    device.Served := by
  induction hreachable with
  | attach => exact forall_open_of_eq_none rfl
  | step request hreachable hpermits hfew ih =>
    exact ih.of_transition (balanced_of_reachable hreachable) hpermits (step_transition _ request)
      (balanced_of_reachable (hreachable.step request hpermits hfew))

/-! ### A rate that stays -/

/-- The open substream is the one that `pcm` was, past `opened`, and the pair runs at `rate` as its
parameters say. -/
structure Pinned (device : Device) (pcm : PcmSubstream) (rate : UInt32) : Prop where
  runs : device.lifecycle.RunsAt rate
  kept : ∃ current, device.substream = some (.pcm current) ∧ current.id = pcm.id ∧
    current.constraints = pcm.constraints ∧ current.state ≠ .opened ∧
      current.params.map (·.rate) = some rate

theorem pcm_unique {other : PcmSubstream} (hopen : device.substream = some (.pcm pcm))
    (hother : device.substream = some (.pcm other)) : other = pcm :=
  Substream.pcm.inj (Option.some.inj (hother.symm.trans hopen))

/-- A pinned substream can be committed anew, but only at the rate of the pair. -/
theorem Pinned.of_transition (hpinned : Pinned device pcm rate) (hbalanced : Balanced device ledger)
    (hpermits : ledger.Permits request) (htransition : Transition device request reply next)
    (hkeeps : ¬ Releases request reply) : Pinned next pcm rate := by
  obtain ⟨hruns, current, hopen, hid, hconstraints, hcommitted, hrate⟩ := hpinned
  have hcounted : device.counted = 1 := (counted_of_open hopen).trans (if_neg hcommitted)
  have hstill : next.lifecycle.RunsAt rate :=
    hbalanced.runsAt_of_transition hpermits htransition hcounted hkeeps hruns
  have hheld : device.lock.held ≠ false := fun hfree => by
    rw [hbalanced.substream_eq_none hfree] at hopen
    cases hopen
  cases htransition with
  | openedPcm _ _ hfree
  | openedMidi _ _ _ _ _ hfree => exact absurd hfree hheld
  | committed _ _ other _ hother hstate =>
    obtain rfl := pcm_unique hopen hother
    exact absurd hstate hcommitted
  | recommitted _ _ other params hother _ hselect =>
    obtain rfl := pcm_unique hopen hother
    have hsame := eq_of_mem_runningRates hruns (selectParams_eq_ok hselect).2.1
    exact ⟨hstill, _, rfl, hid, hconstraints, by simp, congrArg some hsame⟩
  | prepared other _ _ _ hother
  | started _ other _ hother =>
    obtain rfl := pcm_unique hopen hother
    exact ⟨hstill, _, rfl, hid, hconstraints, by simp, hrate⟩
  | stopped _ other _ hother =>
    obtain rfl := pcm_unique hopen hother
    refine ⟨hstill, _, rfl, hid, hconstraints, ?_, hrate⟩
    exact fun hstopped => hcommitted (other.state.afterStop_eq_opened_iff.1 hstopped)
  | triggeredMidi _ midi hother => cases hopen.symm.trans hother
  | freedUncounted | freed | closed | dropped => exact absurd trivial hkeeps
  | detached => exact hpermits.elim
  | _ => exact ⟨hstill, current, hopen, hid, hconstraints, hcommitted, hrate⟩

theorem Pinned.onward {later : Device} {entries : Ledger} (hpinned : Pinned device pcm rate)
    (hreachable : Reachable UInt32.size device ledger)
    (honward : Onward UInt32.size Releases device ledger later entries) :
    Pinned later pcm rate := by
  induction honward with
  | refl => exact hpinned
  | step request honward hpermits _ hkeeps ih =>
    have hbalanced := balanced_of_reachable (honward.reachable hreachable)
    exact ih.of_transition hbalanced hpermits (step_transition _ request) hkeeps

/-- **Commitments are kept.** In every state of an orderly run with fewer than `2 ^ 32` additions
outstanding, an open PCM substream has parameters exactly if it is past `opened`; they are on offer
by an enabled mode of the table that it was opened on and within its window; and once it is prepared
the pair runs at their rate, now and through all that may follow in such a run, until the substream
is freed or closed. -/
theorem commitment_kept (hreachable : Reachable UInt32.size device ledger)
    (hopen : device.substream = some (.pcm pcm)) :
    (∃ earlier entries, Reachable UInt32.size earlier entries ∧ OpenedAt pcm earlier ∧
      Onward UInt32.size Closes (earlier.step (.openPcm pcm.direction)).2
        (entries.record (.openPcm pcm.direction) (earlier.step (.openPcm pcm.direction)).1)
        device ledger) ∧
    (pcm.params = none ↔ pcm.state = .opened) ∧
    (∀ params, pcm.params = some params →
      pcm.constraints.table.Offers params.rate params.channels ∧
        params.rate ∈ pcm.constraints.window.rates) ∧
    (pcm.state = .prepared ∨ pcm.state = .running → ∃ params, pcm.params = some params ∧
      device.lifecycle.RunsAt params.rate ∧
      ∀ later entries, Onward UInt32.size Releases device ledger later entries →
        Pinned later pcm params.rate) := by
  obtain ⟨hcoherent, hserved⟩ := served_of_reachable hreachable _ hopen
  refine ⟨exists_opening hreachable hopen, hcoherent.params_eq_none_iff, hcoherent.offered,
    fun hstate => ?_⟩
  obtain ⟨params, hparams, hruns⟩ := hserved hstate
  have hpinned : Pinned device pcm params.rate := by
    refine ⟨hruns, pcm, hopen, rfl, rfl, fun hopened => ?_, by rw [hparams]; rfl⟩
    simp [hopened] at hstate
  exact ⟨params, hparams, hruns, fun _ _ honward => hpinned.onward hreachable honward⟩

/-- The substream of the shared session at its end. -/
def sharedCapture : PcmSubstream where
  id := ⟨1⟩
  constraints :=
    { direction := .capture
      table := stereo.source.formats.transmit
      window := { rates := ⟨44100, 96000, true⟩, channels := .single 2, rateMask := ⟨0x6c0⟩ } }
  state := .running
  params := some ⟨48000, 2⟩

theorem substream_sharedSession :
    (stereo.run sharedSession).substream = some (.pcm sharedCapture) := by
  decide +kernel

/-- A late joiner asks for twice the rate and gets the one that is committed. -/
theorem commitment_kept_sharedSession :
    Reachable UInt32.size (stereo.run sharedSession) { opened := 1, joined := 2, left := 1 } ∧
      (stereo.run sharedSession).substream = some (.pcm sharedCapture) ∧
      (stereo.run sharedSession).lifecycle.RunsAt 48000 ∧
      Pinned ((stereo.run sharedSession).step (.lifecycle (.join 96000))).2 sharedCapture
        48000 := by
  have hreachable := reachable_sharedSession (show 2 < UInt32.size by decide)
  obtain ⟨-, -, -, hlive⟩ := commitment_kept hreachable substream_sharedSession
  obtain ⟨params, hparams, hruns, honward⟩ := hlive (Or.inr rfl)
  obtain rfl : params = ⟨48000, 2⟩ := (Option.some.inj hparams).symm
  have hjoined : Onward UInt32.size Releases (stereo.run sharedSession)
      { opened := 1, joined := 2, left := 1 } _ _ :=
    Onward.refl.step (.lifecycle (.join 96000)) trivial (by decide +kernel) id
  exact ⟨hreachable, substream_sharedSession, hruns, honward _ _ hjoined⟩

/-- From the crowd, somebody leaves. -/
def deserted : Device := (crowded.step (.lifecycle .leave)).2

theorem reachable_deserted :
    Reachable (UInt32.size + 1) deserted { opened := 1, joined := UInt32.size, left := 2 } := by
  have hpermits : Ledger.Permits { opened := 1, joined := UInt32.size, left := 1 }
      (.lifecycle .leave) := show 0 < UInt32.size - 1 by decide
  have hreply : (crowded.step (.lifecycle .leave)).1 = .lifecycle (.flag true) := by decide +kernel
  have hleft := reachable_crowded.step (.lifecycle .leave) hpermits
  rw [hreply] at hleft
  exact hleft (by decide +kernel)

/-- The leave finds the count at zero and stops the pair under the running substream. -/
theorem commitment_lost_deserted :
    Reachable (UInt32.size + 1) deserted { opened := 1, joined := UInt32.size, left := 2 } ∧
      deserted.substream = some (.pcm sharedCapture) ∧ sharedCapture.state = .running ∧
      deserted.lifecycle.state = ⟨0, false, none⟩ ∧
      ¬ ∀ limit device ledger pcm, Reachable limit device ledger →
        device.substream = some (.pcm pcm) → pcm.state = .running →
        ∃ params, pcm.params = some params ∧ device.lifecycle.RunsAt params.rate := by
  have hopen : deserted.substream = some (.pcm sharedCapture) := by decide +kernel
  have hstate : deserted.lifecycle.state = ⟨0, false, none⟩ := by decide +kernel
  refine ⟨reachable_deserted, hopen, rfl, hstate, fun hkept => ?_⟩
  obtain ⟨params, -, hruns⟩ := hkept _ _ _ _ reachable_deserted hopen rfl
  have hrunning := hruns.running
  rw [hstate] at hrunning
  cases hrunning

end Device
end DuplexAudio
