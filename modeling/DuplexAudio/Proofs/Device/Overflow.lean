import DuplexAudio.Proofs.Device.Alike
import DuplexAudio.Proofs.Device.Atomicity
import DuplexAudio.Proofs.Device.Counters
import DuplexAudio.Proofs.Mode.Ports
import DuplexAudio.Proofs.Negotiation.Overflow

/-!
Overflow on a device. Formats may hold a table whose channels do not fit the counter. Only opening
such a table fails for that reason, and nobody can tell afterwards that it was tried; whatever was
opened counted all its modes, so none of them overflows later.
-/

namespace DuplexAudio

theorem Clock.constrain_ne_overflow (clock : Clock) (window : Interval)
    (active : PerDirection Bool) : clock.constrain window active ≠ .error .channelOverflow := by
  cases hreachable : clock.unreachable with
  | false =>
    rw [constrain_of_reachable hreachable]
    simp
  | true =>
    rw [constrain, readSource, if_pos hreachable]
    simp

theorem Lifecycle.Refuses.ne_overflow {lifecycle next : Lifecycle} {fault : StreamFault}
    (hrefuses : lifecycle.Refuses fault next) : fault ≠ .channelOverflow := by
  obtain ⟨rate, reason, -, rfl, -⟩ := hrefuses
  simp

namespace Device

variable {start device : Device} {requests : List Request} {request : Request} {pcm : PcmSubstream}
  {direction : Direction} {fault : StreamFault}

/-! ### Opening -/

theorem offer_eq_overflow_iff (device : Device) (formats : StreamFormats) :
    device.offer formats direction = .error .channelOverflow ↔
      (formats.forDirection direction).Overflows := by
  rw [← ModeTable.window_eq_overflow_iff]
  cases hwindow : (formats.forDirection direction).window with
  | error overflow =>
    rw [offer, hwindow]
    exact iff_of_true rfl rfl
  | ok window =>
    refine iff_of_false ?_ (by simp)
    rw [offer_of_window hwindow]
    split
    · simp
    · have hconstrain := device.clock.constrain_ne_overflow window.rates
        device.transport.attachments.active
      cases hrates : device.clock.constrain window.rates device.transport.attachments.active with
      | error fault => simpa [hrates, Except.map] using hconstrain
      | ok rates => simp [Except.map]

theorem openPcm_eq_overflow_iff : (device.openPcm direction).1 = .error .channelOverflow ↔
    device.lock.held = false ∧ device.source.failing = false ∧
      (device.source.formats.forDirection direction).Overflows := by
  rcases Bool.eq_false_or_eq_true device.lock.held with hheld | hfree
  · simp [openPcm_of_held hheld, hheld]
  rcases Bool.eq_false_or_eq_true device.source.failing with hfailing | havailable
  · simp [openPcm_of_failing hfree hfailing, hfailing]
  rw [and_iff_right hfree, and_iff_right havailable, ← device.offer_eq_overflow_iff]
  cases hoffer : device.offer device.source.formats direction with
  | error fault => simp [openPcm_of_offer_eq_error hfree havailable hoffer]
  | ok constraints => simp [openPcm_of_offer_eq_ok hfree havailable hoffer]

/-! ### Everything else -/

theorem joinRate_ne_overflow (device : Device) : device.joinRate ≠ .error .channelOverflow := by
  unfold joinRate
  split
  · simp
  · cases device.clock.readRate <;> simp [Except.mapError]

theorem openMidi_ne_overflow (device : Device) (direction : Direction) (port : UInt8) :
    (device.openMidi direction port).1 ≠ .error .channelOverflow := by
  rcases Bool.eq_false_or_eq_true device.lock.held with hheld | hfree
  · simp [openMidi_of_held hheld]
  rcases Bool.eq_false_or_eq_true device.source.failing with hfailing | havailable
  · simp [openMidi_of_failing hfree hfailing]
  by_cases hport : device.source.formats.availablePorts direction ≤ port.toUInt32
  · simp [openMidi_of_no_port hfree havailable hport]
  rw [openMidi_of_port hfree havailable hport]
  have hjoinRate := device.joinRate_ne_overflow
  cases hrate : device.joinRate with
  | error fault => simpa [hrate] using hjoinRate
  | ok rate =>
    rcases hjoin : device.lifecycle.join rate with ⟨fault | outcome, lifecycle⟩
    · simpa [hjoin] using (Lifecycle.refuses_of_join_eq_error hjoin).ne_overflow
    · simp [hjoin]

theorem free_ne_overflow (device : Device) (pcm : PcmSubstream) :
    (device.free pcm).1 ≠ .error .channelOverflow := by
  unfold free
  split <;> simp [keep]

theorem error_of_paramsToPrepare (hparams : paramsToPrepare pcm = .error fault) :
    fault = .invalidState (.prepareIn pcm.state) := by
  unfold paramsToPrepare at hparams
  split at hparams
  · cases hparams
  · cases hparams
  · exact (Except.error.inj hparams).symm

theorem prepare_ne_overflow (device : Device) (pcm : PcmSubstream) :
    (device.prepare pcm).1 ≠ .error .channelOverflow := by
  unfold prepare
  cases hparams : paramsToPrepare pcm with
  | error fault =>
    rw [error_of_paramsToPrepare hparams]
    simp
  | ok params =>
    rcases hstart : device.lifecycle.ensureStarted params.rate with ⟨fault | outcome, lifecycle⟩
    · simpa [hstart] using (Lifecycle.refuses_of_ensureStarted_eq_error hstart).ne_overflow
    · cases outcome with
      | alreadyRunning running =>
        by_cases hpinned : running = params.rate
        · simp [hstart, hpinned, keep]
        · simp [hstart, hpinned]
      | started rate => simp [hstart, keep]
      | noSubstreams => simp [hstart, keep]

theorem trigger_ne_overflow (device : Device) (pcm : PcmSubstream) (command : TriggerCommand) :
    (device.trigger pcm command).1 ≠ .error .channelOverflow := by
  cases command with
  | start => by_cases hstate : pcm.state = .prepared <;> simp [trigger, keep, hstate]
  | _ => simp [trigger, keep]

theorem triggerCode_ne_overflow (device : Device) (pcm : PcmSubstream) (code : Int) :
    (device.triggerCode pcm code).1 ≠ .error .channelOverflow := by
  unfold triggerCode
  split
  · exact trigger_ne_overflow device pcm _
  · simp

section

variable (hfit : ¬ pcm.constraints.table.Overflows)
include hfit

theorem refine_ne_overflow (rates channels : Interval) :
    pcm.constraints.refine rates channels ≠ .error .channelOverflow := by
  intro hover
  exact hfit (Constraints.refine_eq_overflow_iff.1 hover).2

theorem selectParams_ne_overflow (device : Device) (rate channels : UInt32) :
    device.selectParams pcm rate channels ≠ .error .channelOverflow := by
  unfold selectParams
  split
  · simp
  split
  · simp
  have hrefine := refine_ne_overflow hfit (.single rate) (.single channels)
  rw [Constraints.select]
  cases hresult : pcm.constraints.refine (.single rate) (.single channels) with
  | error fault => simpa [hresult, Except.map] using hrefine
  | ok negotiated => simp [Except.map]

theorem commit_ne_overflow (device : Device) (rate channels : UInt32) :
    (device.commit pcm rate channels).1 ≠ .error .channelOverflow := by
  have hselect := selectParams_ne_overflow hfit device rate channels
  unfold commit
  cases hparams : device.selectParams pcm rate channels with
  | error fault => simpa [hparams] using hselect
  | ok params => simp [keep]

end

/-! ### One request -/

/-- The open PCM substream, if there is one, is on a table that does not overflow. -/
def Countable (device : Device) : Prop :=
  ∀ pcm, device.substream = some (.pcm pcm) → ¬ pcm.constraints.table.Overflows

/-- The request opens a table that overflows, with the lock free and the formats at hand. -/
def OpensOverflow (device : Device) (request : Request) : Prop :=
  ∃ direction, request = .openPcm direction ∧ device.attached = true ∧ device.lock.held = false ∧
    device.source.failing = false ∧ (device.source.formats.forDirection direction).Overflows

theorem fault?_ofResult_iff {α : Type} {ofValue : α → Reply} {result : Except StreamFault α}
    (hvalue : ∀ value, (ofValue value).fault? = none) :
    (Reply.ofResult ofValue result).fault? = some fault ↔ result = .error fault := by
  cases result with
  | error cause => simp [Reply.ofResult, Reply.fault?]
  | ok value => simp [Reply.ofResult, hvalue]

theorem withHandle_ne_overflow {answer : Device → Reply × Device}
    (hanswer : (answer device).1.fault? ≠ some .channelOverflow) :
    (device.withHandle answer).1.fault? ≠ some .channelOverflow := by
  unfold withHandle
  split
  · exact hanswer
  · simp [Reply.fault?]

theorem withPcm_ne_overflow {answer : Device → PcmSubstream → Reply × Device}
    (hanswer : ∀ pcm, device.substream = some (.pcm pcm) →
      (answer device pcm).1.fault? ≠ some .channelOverflow) :
    (device.withPcm answer).1.fault? ≠ some .channelOverflow := by
  unfold withPcm openPcmSubstream?
  rcases hopen : device.substream with _ | ⟨pcm⟩ | ⟨midi⟩
  · simp [Reply.fault?]
  · exact hanswer pcm hopen
  · simp [Reply.fault?]

theorem ofResult_ne_overflow {α : Type} {ofValue : α → Reply} {result : Except StreamFault α}
    (hvalue : ∀ value, (ofValue value).fault? = none) (hresult : result ≠ .error .channelOverflow) :
    (Reply.ofResult ofValue result).fault? ≠ some .channelOverflow := by
  rwa [Ne, fault?_ofResult_iff hvalue]

/-- Whatever else is asked of a device does not overflow. -/
theorem step_ne_overflow (hcountable : device.Countable)
    (hother : ∀ direction, request ≠ .openPcm direction) :
    (device.step request).1.fault? ≠ some .channelOverflow := by
  cases request with
  | openPcm direction => exact absurd rfl (hother direction)
  | lifecycle action =>
    -- Below the device, only a refused start is a fault.
    apply withHandle_ne_overflow
    intro hover
    cases hanswer : (device.lifecycle.step action).1 with
    | fault fault =>
      have hfault : fault = .channelOverflow := by simpa [hanswer, Reply.fault?] using hover
      exact (Lifecycle.refuses_of_step_eq_fault hanswer).ne_overflow hfault
    | _ => simp [hanswer, Reply.fault?] at hover
  | transport action =>
    intro hover
    cases hanswer : (device.lifecycle.stepTransport action).1 with
    | fault fault =>
      have hfault : fault = .channelOverflow := by simpa [step, hanswer, Reply.fault?] using hover
      exact (Lifecycle.refuses_of_stepTransport_eq_fault hanswer).ne_overflow hfault
    | _ => simp [step, hanswer, Reply.fault?] at hover
  | openMidi direction port =>
    exact withHandle_ne_overflow
      (ofResult_ne_overflow (fun _ => rfl) (device.openMidi_ne_overflow direction port))
  | refine rates channels =>
    -- Refining and committing do count, but on a table whose modes the opening has counted.
    refine withPcm_ne_overflow fun pcm hopen => ofResult_ne_overflow (fun _ => rfl) ?_
    exact refine_ne_overflow (hcountable pcm hopen) _ _
  | commit rate channels =>
    refine withPcm_ne_overflow fun pcm hopen => ofResult_ne_overflow (fun _ => rfl) ?_
    exact commit_ne_overflow (hcountable pcm hopen) device rate channels
  | free =>
    exact withPcm_ne_overflow fun pcm _ =>
      ofResult_ne_overflow (fun _ => rfl) (device.free_ne_overflow pcm)
  | prepare =>
    exact withPcm_ne_overflow fun pcm _ =>
      ofResult_ne_overflow (fun _ => rfl) (device.prepare_ne_overflow pcm)
  | trigger command =>
    exact withPcm_ne_overflow fun pcm _ =>
      ofResult_ne_overflow (fun _ => rfl) (device.trigger_ne_overflow pcm command)
  | triggerCode code =>
    exact withPcm_ne_overflow fun pcm _ =>
      ofResult_ne_overflow (fun _ => rfl) (device.triggerCode_ne_overflow pcm code)
  | triggerMidi up =>
    rcases hopen : device.substream with _ | ⟨pcm⟩ | ⟨midi⟩ <;> simp [step, hopen, Reply.fault?]
  | close => cases hopen : device.substream <;> simp [step, hopen, Reply.fault?]
  | drop => cases hopen : device.substream <;> simp [step, hopen, Reply.fault?]
  | queryFormats =>
    refine withHandle_ne_overflow (ofResult_ne_overflow (fun _ => rfl) ?_)
    unfold queryFormats
    split <;> simp
  | describe =>
    unfold step
    exact withHandle_ne_overflow (by simp [Reply.fault?])
  | detach => exact withHandle_ne_overflow (by simp [Reply.fault?])
  | _ => simp [step, Reply.fault?]

/-- Among all requests, opening a table that overflows is the only one that does. -/
theorem step_overflow_iff (hcountable : device.Countable) (request : Request) :
    (device.step request).1.fault? = some .channelOverflow ↔ device.OpensOverflow request := by
  by_cases hother : ∀ direction, request ≠ .openPcm direction
  · refine iff_of_false (step_ne_overflow hcountable hother) ?_
    rintro ⟨direction, hrequest, -⟩
    exact hother direction hrequest
  · obtain ⟨direction, hrequest⟩ := not_forall.1 hother
    obtain rfl := not_not.1 hrequest
    have hiff : device.OpensOverflow (.openPcm direction) ↔
        device.attached = true ∧ (device.openPcm direction).1 = .error .channelOverflow := by
      simp [OpensOverflow, openPcm_eq_overflow_iff]
    rw [hiff, step, withHandle]
    by_cases hattached : device.attached = true
    · rw [if_pos hattached, and_iff_right hattached]
      exact fault?_ofResult_iff fun _ => rfl
    · rw [if_neg hattached]
      exact iff_of_false (by simp [Reply.fault?]) fun hover => hattached hover.1

/-- It takes an acquisition and a query, and nothing else is left of it. -/
theorem OpensOverflow.next_eq (hover : device.OpensOverflow request) :
    (device.step request).2 =
      device.recounted (device.lock.generation + 1) (device.source.queries + 1) := by
  obtain ⟨direction, rfl, hattached, hfree, havailable, htable⟩ := hover
  have hoffer := (device.offer_eq_overflow_iff _).2 htable
  rw [step, withHandle, if_pos hattached, openPcm_of_offer_eq_error hfree havailable hoffer,
    turnedAway_of_free hfree]
  rfl

theorem countable_run (hfresh : start.Fresh) (requests : List Request) :
    (start.run requests).Countable := by
  intro pcm hopen
  obtain ⟨before, after, -, hopened⟩ := exists_opening_of_run hfresh hopen
  exact ModeTable.exists_points_eq_ok_iff.1 hopened.exists_points

/-! ### Main results -/

/-- **A table overflows where a mode that does not fit is counted, and being accepted does not keep
it from that.** With any other channels its modes are accepted as well. All of them can be counted
exactly if they fit, which is also when the viable modes can be told; the window, the mask, the rate
rule and the legal rates count the modes that list a rate, the channel rule those with a rate
inside; refinement counts once the proposal meets the window, and an opening once it has the lock
and the formats. -/
theorem overflow_where_counted (table : ModeTable) (counts : OperatingMode → UInt32 × UInt32)
    (rates channels : Interval) (constraints : Constraints) (device : Device)
    (direction : Direction) :
    (ModeTable.ofModes? table.modes = .ok table ∧ ∃ other : ModeTable,
      ModeTable.ofModes? (table.modes.map fun mode => mode.withChannels (counts mode)) =
        .ok other) ∧
    ((∀ mode ∈ table.modes, ∃ count, mode.channels = .ok count) ↔ table.ChannelsFit) ∧
    (table.viableModes rates channels = .error {} ↔ ¬ table.ChannelsFit) ∧
    (table.window = .error {} ↔ table.Overflows) ∧
    (table.rateMask = .error {} ↔ table.Overflows) ∧
    (table.ratesGivenChannels channels = .error {} ↔ table.Overflows) ∧
    (table.legalRates rates = .error {} ↔ table.Overflows) ∧
    (table.channelsGivenRates rates = .error {} ↔ table.OverflowsWithin rates) ∧
    (constraints.refine rates channels = .error .channelOverflow ↔
      (constraints.clip rates channels).isEmpty = false ∧ constraints.table.Overflows) ∧
    ((device.openPcm direction).1 = .error .channelOverflow ↔
      device.lock.held = false ∧ device.source.failing = false ∧
        (device.source.formats.forDirection direction).Overflows) := by
  have haccepted : ModeTable.ofModes? table.modes = .ok table :=
    ModeTable.ofModes?_eq_ok_iff.2 rfl
  have hother :=
    (ModeTable.exists_ofModes?_withChannels_iff table.modes counts).2 ⟨table, haccepted⟩
  refine ⟨⟨haccepted, hother⟩, ?_, ModeTable.viableModes_eq_overflow_iff,
    ModeTable.window_eq_overflow_iff, ModeTable.rateMask_eq_overflow_iff,
    ModeTable.ratesGivenChannels_eq_overflow_iff, ModeTable.legalRates_eq_overflow_iff,
    ModeTable.channelsGivenRates_eq_overflow_iff, Constraints.refine_eq_overflow_iff,
    openPcm_eq_overflow_iff⟩
  simp only [exists_channels_eq_ok_iff]
  exact Iff.rfl

/-- A table whose low mode has one channel more than the counter can tell. -/
def brimming : ModeTable := .ofClockRates (4294967295, 1) (2, 0) (2, 0)

/-- The table is accepted, and nothing can be computed on it. -/
theorem brimming_accepted_and_overflows :
    ModeTable.ofModes? brimming.modes = .ok brimming ∧
    (∃ mode ∈ brimming.modes, mode.channels = .error {}) ∧
    brimming.window = .error {} ∧ brimming.rateMask = .error {} ∧
    brimming.ratesGivenChannels .full = .error {} ∧
    brimming.channelsGivenRates .full = .error {} ∧
    brimming.viableModes .full .full = .error {} ∧
    Constraints.refine ⟨.capture, brimming, ⟨.full, .full, ⟨0⟩⟩⟩ .full .full =
      .error .channelOverflow ∧
    ((attach "brimming" ⟨brimming, brimming⟩ {} false).openPcm .capture).1 =
      .error .channelOverflow := by
  have hover : brimming.Overflows := by decide
  have hwithin : brimming.OverflowsWithin .full :=
    ⟨{ fixedChannels := 4294967295, variableChannels := 1, rates := [44100, 48000] }, by decide,
      ⟨44100, by decide, by decide⟩, by decide⟩
  refine ⟨by decide, ⟨_, List.mem_cons_self, rfl⟩, ModeTable.window_eq_overflow_iff.2 hover,
    ModeTable.rateMask_eq_overflow_iff.2 hover,
    ModeTable.ratesGivenChannels_eq_overflow_iff.2 hover,
    ModeTable.channelsGivenRates_eq_overflow_iff.2 hwithin,
    ModeTable.viableModes_eq_overflow_iff.2 (by decide),
    Constraints.refine_eq_overflow_iff.2 ⟨by decide, hover⟩,
    openPcm_eq_overflow_iff.2 ⟨rfl, rfl, hover⟩⟩

/-- **An overflow can only break an opening, and leaves no trace.** After any requests to a fresh
device, the next one overflows exactly if it opens a table with a mode that lists a rate and does
not fit, while the lock is free and the formats can be read. The lock is free then, the lifecycle,
the numbers and the open substream are as before, and all later requests are answered as if it had
not been made. A PCM substream that was opened is on a table that does not overflow, and what it
selects is one rate and one count. With fewer openings than there are numbers no counter overflows
either, nor do the ports of the two directions together. -/
theorem overflow_only_at_opening {next : Device} {reply : Reply} (hfresh : start.Fresh)
    (hrun : start.run requests = device) (hstep : device.step request = (reply, next))
    (hopens : (requests ++ [request]).countP Request.opens < UInt32.size) :
    (reply.fault? = some .channelOverflow ↔
      ∃ direction, request = .openPcm direction ∧ device.attached = true ∧
        device.lock.held = false ∧ device.source.failing = false ∧
        ∃ mode ∈ (device.source.formats.forDirection direction).modes,
          mode.rates ≠ [] ∧ ¬ mode.Fits) ∧
    (reply.fault? = some .channelOverflow →
      next.lock.held = false ∧ next.lifecycle = device.lifecycle ∧ next.lastId = device.lastId ∧
        next.substream = device.substream ∧
        ∀ later, next.replies later = device.replies later ∧
          Alike (device.run later) (next.run later)) ∧
    (∀ pcm, device.substream = some (.pcm pcm) → ¬ pcm.constraints.table.Overflows ∧
      ∀ rate channels negotiated,
        pcm.constraints.refine (.single rate) (.single channels) = .ok negotiated →
        negotiated.rates.isSingle = true ∧ negotiated.channels.isSingle = true) ∧
    device.lastId.toNat + request.opens.toNat < UInt32.size ∧
    device.lock.generation + request.opens.toNat < UInt32.size ∧
    device.lifecycle.state.activeSubstreams ≤ 1 + requests.countP Request.adds ∧
    ∀ formats : StreamFormats,
      (formats.midiPorts .capture).toNat + (formats.midiPorts .playback).toNat < UInt32.size := by
  subst hrun
  have hcountable := countable_run hfresh requests
  have hbounded := bounded_run hfresh requests
  have hiff := step_overflow_iff hcountable request
  rw [hstep] at hiff
  rw [countP_append_singleton] at hopens
  refine ⟨hiff, fun hover => ?_, fun pcm hopen => ⟨hcountable pcm hopen, ?_⟩, ?_, ?_,
    hbounded.active_le, StreamFormats.midiPorts_add_lt⟩
  · have hleft := (hiff.1 hover).next_eq
    obtain ⟨_, -, -, hfree, -⟩ := hiff.1 hover
    rw [hstep] at hleft
    subst hleft
    exact ⟨hfree, rfl, rfl, rfl, fun later => (alike_recounted _ _ _).run later⟩
  · intro rate channels negotiated hrefine
    obtain ⟨hrates, -, count, -, hchannels⟩ :=
      Constraints.refine_eq_ok_of_single hrefine (le_refl _)
    rw [hrates, hchannels]
    exact ⟨Interval.isSingle_single rate, Interval.isSingle_single count⟩
  · exact Nat.lt_of_le_of_lt (Nat.add_le_add_right hbounded.lastId _) hopens
  · exact Nat.lt_of_le_of_lt (Nat.add_le_add_right hbounded.generation _) hopens

/-- A device that transmits over the table that overflows and receives over one that does not. -/
def lopsided : Device := .attach "lopsided" ⟨brimming, .ofClockRates (2, 1) (2, 1) (0, 0)⟩ {} false

/-- Playback is opened and closed again. -/
def lopsidedSession : List Request := [.openPcm .playback, .commit 48000 3, .close]

/-- Capture cannot be opened, and playback is opened next as if nobody had tried. -/
theorem overflow_only_at_opening_lopsided :
    lopsided.Fresh ∧
    (lopsidedSession ++ [Request.openPcm .capture]).countP Request.opens < UInt32.size ∧
    ((lopsided.run lopsidedSession).step (.openPcm .capture)).1 = .fault .channelOverflow ∧
    ((lopsided.run lopsidedSession).step (.openPcm .capture)).2.replies
        [.openPcm .playback, .commit 96000 3, .prepare, .free] =
      [.opened { rates := ⟨44100, 96000, true⟩, channels := .single 3, rateMask := ⟨0x6c0⟩ },
        .committed (some ⟨96000, 3⟩), .done, .done] := by
  have hfresh : lopsided.Fresh := ⟨_, _, _, _, rfl⟩
  have hopens : (lopsidedSession ++ [Request.openPcm .capture]).countP Request.opens <
      UInt32.size := by decide
  have hreply : ((lopsided.run lopsidedSession).step (.openPcm .capture)).1 =
      .fault .channelOverflow := by decide +kernel
  have hstep : (lopsided.run lopsidedSession).step (.openPcm .capture) =
    (.fault .channelOverflow, ((lopsided.run lopsidedSession).step (.openPcm .capture)).2) :=
      Prod.ext hreply rfl
  obtain ⟨-, hcleanly, -⟩ := overflow_only_at_opening hfresh rfl hstep hopens
  obtain ⟨-, -, -, -, hlater⟩ := hcleanly rfl
  refine ⟨hfresh, hopens, hreply, ?_⟩
  rw [(hlater _).1]
  decide +kernel

end Device
end DuplexAudio
