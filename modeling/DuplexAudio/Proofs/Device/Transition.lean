import DuplexAudio.Device.Session
import DuplexAudio.Proofs.Lifecycle.Operations

/-!
All that a request can do to a device. Every step is one of a few transitions, each of which gives
the answer and the whole next device; what holds of all runs is proved by cases on them.
-/

namespace DuplexAudio.Device

/-! ### Requests and replies by what they do -/

def Request.IsOpening : Request → Prop
  | .openPcm _ | .openMidi _ _ => True
  | _ => False

def Request.command? : Request → Option TriggerCommand
  | .trigger command => some command
  | .triggerCode code => TriggerCommand.ofCode? code
  | _ => none

def Request.changedClock? (clock : Clock) : Request → Option Clock
  | .clockSource source => some { clock with source }
  | .clockRate rate => some { clock with rate }
  | .clockUnreachable on => some { clock with unreachable := on }
  | _ => none

/-- Replies that only tell something, or say that nothing was done. -/
def Reply.IsIdle : Reply → Prop
  | .negotiated _ | .attached _ _ | .described _ _ => True
  | .flag value => value = false
  | .fault _ | .noDevice | .noSubstream => True
  | .done | .opened _ | .committed _ | .lifecycle _ | .formats _ => False

/-! ### The devices that requests lead to -/

variable (device : Device)

def locked : Device := { device with lock := ⟨true, device.lock.generation + 1⟩ }

def queried : Device := { device with source.queries := device.source.queries + 1 }

/-- The device after an opening that was turned away: only the lock and the query counter moved. -/
def turnedAway (queries : Nat) : Device :=
  { device with
    lock := ⟨false, device.lock.generation + 1⟩
    source.queries := queries }

/-- The device with `substream` open under a fresh number. -/
def withOpened (substream : Substream) : Device :=
  { device.locked.queried with
    lastId := device.lastId + 1
    substream := some substream }

def withPcmState (lifecycle : Lifecycle) (pcm : PcmSubstream) : Device :=
  { device with
    lifecycle
    substream := some (.pcm pcm) }

/-- What a request can do, with its answer and the device afterwards. -/
inductive Transition : Request → Reply → Device → Prop
  | idle (request : Request) (reply : Reply) (hidle : reply.IsIdle) :
      Transition request reply device
  | turnedAway (request : Request) (fault : StreamFault) (queries : Nat)
      (hopening : request.IsOpening) (hfree : device.lock.held = false) :
      Transition request (.fault fault) (device.turnedAway queries)
  | openedPcm (direction : Direction) (constraints : Constraints)
      (hfree : device.lock.held = false)
      (hoffer : device.offer device.source.formats direction = .ok constraints) :
      Transition (.openPcm direction) (.opened constraints.window)
        (device.withOpened (.pcm { id := device.nextId, constraints }))
  | joinRefused (direction : Direction) (port : UInt8) (rate : UInt32) (fault : StreamFault)
      (lifecycle : Lifecycle) (hfree : device.lock.held = false)
      (hrate : device.joinRate = .ok rate)
      (hjoin : device.lifecycle.join rate = (.error fault, lifecycle)) :
      Transition (.openMidi direction port) (.fault fault)
        { device.turnedAway (device.source.queries + 1) with lifecycle }
  | openedMidi (direction : Direction) (port : UInt8) (rate : UInt32) (outcome : StartOutcome)
      (lifecycle : Lifecycle) (hfree : device.lock.held = false)
      (hrate : device.joinRate = .ok rate)
      (hjoin : device.lifecycle.join rate = (.ok outcome, lifecycle)) :
      Transition (.openMidi direction port) .done
        { device.withOpened (.midi { id := device.nextId, direction, port }) with lifecycle }
  | committed (rate channels : UInt32) (pcm : PcmSubstream) (params : StreamParams)
      (hopen : device.substream = some (.pcm pcm)) (hstate : pcm.state = .opened)
      (hselect : device.selectParams pcm rate channels = .ok params) :
      Transition (.commit rate channels) (.committed (some params))
        (device.withPcmState device.lifecycle.addSubstream
          { pcm with state := .setup, params := some params })
  | recommitted (rate channels : UInt32) (pcm : PcmSubstream) (params : StreamParams)
      (hopen : device.substream = some (.pcm pcm)) (hstate : pcm.state ≠ .opened)
      (hselect : device.selectParams pcm rate channels = .ok params) :
      Transition (.commit rate channels) (.committed (some params))
        (device.withPcmState device.lifecycle { pcm with state := .setup, params := some params })
  | freedUncounted (pcm : PcmSubstream) (hopen : device.substream = some (.pcm pcm))
      (hstate : pcm.state = .opened) :
      Transition .free .done
        (device.withPcmState device.lifecycle.ensureStopped.2
          { pcm with state := .opened, params := none })
  | freed (pcm : PcmSubstream) (hopen : device.substream = some (.pcm pcm))
      (hcounted : pcm.state ≠ .opened) (hstill : pcm.state ≠ .running) :
      Transition .free .done
        (device.withPcmState device.lifecycle.leave.2
          { pcm with state := .opened, params := none })
  | startRefused (pcm : PcmSubstream) (params : StreamParams) (fault : StreamFault)
      (lifecycle : Lifecycle) (hopen : device.substream = some (.pcm pcm))
      (hparams : paramsToPrepare pcm = .ok params)
      (hstart : device.lifecycle.ensureStarted params.rate = (.error fault, lifecycle)) :
      Transition .prepare (.fault fault) { device with lifecycle }
  | prepared (pcm : PcmSubstream) (params : StreamParams) (outcome : StartOutcome)
      (lifecycle : Lifecycle) (hopen : device.substream = some (.pcm pcm))
      (hparams : paramsToPrepare pcm = .ok params)
      (hstart : device.lifecycle.ensureStarted params.rate = (.ok outcome, lifecycle))
      (hrate : ∀ rate, outcome = .alreadyRunning rate → rate = params.rate) :
      Transition .prepare .done
        (device.withPcmState lifecycle { pcm with state := .prepared })
  | started (request : Request) (pcm : PcmSubstream) (hcommand : request.command? = some .start)
      (hopen : device.substream = some (.pcm pcm)) (hstate : pcm.state = .prepared) :
      Transition request .done
        (device.withPcmState (device.lifecycle.triggerPcm pcm.direction (some pcm.id))
          { pcm with state := .running })
  | stopped (request : Request) (pcm : PcmSubstream) (hcommand : request.command? = some .stop)
      (hopen : device.substream = some (.pcm pcm)) :
      Transition request .done
        (device.withPcmState (device.lifecycle.triggerPcm pcm.direction none)
          { pcm with state := pcm.state.afterStop })
  | triggeredMidi (up : Bool) (midi : MidiSubstream)
      (hopen : device.substream = some (.midi midi)) :
      Transition (.triggerMidi up) .done (device.triggerMidi midi up)
  | closed (substream : Substream) (hopen : device.substream = some substream) :
      Transition .close .done (device.close substream)
  | dropped (substream : Substream) (hopen : device.substream = some substream) :
      Transition .drop (.flag true) (device.close substream)
  | clockChanged (request : Request) (clock : Clock)
      (hclock : request.changedClock? device.clock = some clock) :
      Transition request .done (device.mapClock fun _ => clock)
  | formatsFailing (on : Bool) :
      Transition (.formatsFail on) .done { device with source.failing := on }
  | formatsReplaced (formats : StreamFormats) :
      Transition (.replaceFormats formats) .done { device with source.formats := formats }
  | formatsQueried : Transition .queryFormats (.formats device.source.formats) device.queried
  | lifecycleAsked (action : Lifecycle.Action) :
      Transition (.lifecycle action) (.lifecycle (device.lifecycle.step action).1)
        { device with lifecycle := (device.lifecycle.step action).2 }
  | transportAsked (action : Lifecycle.TransportAction) :
      Transition (.transport action) (.lifecycle (device.lifecycle.stepTransport action).1)
        { device with lifecycle := (device.lifecycle.stepTransport action).2 }
  | detached : Transition .detach .done device.detach

variable {device} {request : Request}

theorem transition_withHandle {answer : Device → Reply × Device}
    (hanswer : Transition device request (answer device).1 (answer device).2) :
    Transition device request (device.withHandle answer).1 (device.withHandle answer).2 := by
  unfold withHandle
  split
  · exact hanswer
  · exact .idle request .noDevice trivial

theorem transition_withPcm {answer : Device → PcmSubstream → Reply × Device}
    (hanswer : ∀ pcm, device.substream = some (.pcm pcm) →
      Transition device request (answer device pcm).1 (answer device pcm).2) :
    Transition device request (device.withPcm answer).1 (device.withPcm answer).2 := by
  unfold withPcm openPcmSubstream?
  rcases hopen : device.substream with _ | ⟨pcm⟩ | ⟨midi⟩
  · exact .idle request .noSubstream trivial
  · exact hanswer pcm hopen
  · exact .idle request .noSubstream trivial

/-! ### Openings -/

theorem queryFormats_of_failing (device : Device) (hfailing : device.source.failing = true) :
    device.queryFormats = (.error .formatQueryFailed, device) := by
  rw [queryFormats, if_pos hfailing]

theorem queryFormats_of_available (device : Device) (havailable : device.source.failing = false) :
    device.queryFormats = (.ok device.source.formats, device.queried) := by
  rw [queryFormats, if_neg (by simp [havailable])]
  rfl

section Opening

variable {α : Type} {toSubstream : α → Substream} {body : Device → Except StreamFault α × Device}

theorem opening_of_held (hheld : device.lock.held = true) :
    device.opening toSubstream body = (.error .busy, device) := by
  have hacquire : device.acquire = (.error .busy, device) := by
    rw [acquire, Lock.acquire?, if_pos hheld]
  rw [opening, hacquire]

theorem acquire_of_free (hfree : device.lock.held = false) :
    device.acquire = (.ok (), device.locked) := by
  rw [acquire, Lock.acquire?, if_neg (by simp [hfree])]
  rfl

theorem opening_eq_error {fault : StreamFault} (next : Device) (hfree : device.lock.held = false)
    (hbody : body device.locked = (.error fault, next)) :
    device.opening toSubstream body = (.error fault, next.release) := by
  rw [opening, acquire_of_free hfree]
  simp only [hbody]

theorem opening_eq_ok {opened : α} (next : Device) (hfree : device.lock.held = false)
    (hbody : body device.locked = (.ok opened, next)) :
    device.opening toSubstream body =
      (.ok opened, { next with substream := some (toSubstream opened) }) := by
  rw [opening, acquire_of_free hfree]
  simp only [hbody]

end Opening

section

variable {direction : Direction} {port : UInt8}

theorem openPcm_of_held (hheld : device.lock.held = true) :
    device.openPcm direction = (.error .busy, device) :=
  opening_of_held hheld

theorem openMidi_of_held (hheld : device.lock.held = true) :
    device.openMidi direction port = (.error .busy, device) :=
  opening_of_held hheld

theorem openPcm_of_failing (hfree : device.lock.held = false)
    (hfailing : device.source.failing = true) :
    device.openPcm direction =
      (.error .formatQueryFailed, device.turnedAway device.source.queries) := by
  have hquery := device.locked.queryFormats_of_failing hfailing
  rw [openPcm, opening_eq_error device.locked hfree (by simp only [hquery]; rfl)]
  rfl

theorem openMidi_of_failing (hfree : device.lock.held = false)
    (hfailing : device.source.failing = true) :
    device.openMidi direction port =
      (.error .formatQueryFailed, device.turnedAway device.source.queries) := by
  have hquery := device.locked.queryFormats_of_failing hfailing
  rw [openMidi, opening_eq_error device.locked hfree (by simp only [hquery]; rfl)]
  rfl

end

section

variable {direction : Direction} (hfree : device.lock.held = false)
  (havailable : device.source.failing = false)
include hfree havailable

theorem openPcm_of_offer_eq_error {fault : StreamFault}
    (hoffer : device.offer device.source.formats direction = .error fault) :
    device.openPcm direction =
      (.error fault, device.turnedAway (device.source.queries + 1)) := by
  have hquery := device.locked.queryFormats_of_available havailable
  have hrefused : device.locked.queried.offer device.locked.source.formats direction =
      .error fault := hoffer
  rw [openPcm, opening_eq_error device.locked.queried hfree (by simp only [hquery, hrefused]; rfl)]
  rfl

theorem openPcm_of_offer_eq_ok {constraints : Constraints}
    (hoffer : device.offer device.source.formats direction = .ok constraints) :
    device.openPcm direction = (.ok { id := device.nextId, constraints },
      device.withOpened (.pcm { id := device.nextId, constraints })) := by
  have hquery := device.locked.queryFormats_of_available havailable
  have hoffered : device.locked.queried.offer device.locked.source.formats direction =
      .ok constraints := hoffer
  rw [openPcm, opening_eq_ok { device.locked.queried with lastId := device.lastId + 1 } hfree
    (by simp only [hquery, hoffered]; rfl)]
  rfl

theorem openMidi_of_no_port {port : UInt8}
    (hport : device.source.formats.availablePorts direction ≤ port.toUInt32) :
    device.openMidi direction port =
      (.error (.noSuchPort direction port), device.turnedAway (device.source.queries + 1)) := by
  have hquery := device.locked.queryFormats_of_available havailable
  have hshort : device.locked.source.formats.availablePorts direction ≤ port.toUInt32 := hport
  rw [openMidi, opening_eq_error device.locked.queried hfree
    (by simp only [hquery, hshort, if_true]; rfl)]
  rfl

/-- With a port to open, the outcome is that of joining at the rate of the pair or of the clock. -/
theorem openMidi_of_port {port : UInt8}
    (hport : ¬ device.source.formats.availablePorts direction ≤ port.toUInt32) :
    device.openMidi direction port =
      match device.joinRate with
      | .error fault => (.error fault, device.turnedAway (device.source.queries + 1))
      | .ok rate =>
        match device.lifecycle.join rate with
        | (.error fault, lifecycle) =>
          (.error fault, { device.turnedAway (device.source.queries + 1) with lifecycle })
        | (.ok _, lifecycle) =>
          (.ok { id := device.nextId, direction, port },
            { device.withOpened (.midi { id := device.nextId, direction, port }) with
              lifecycle }) := by
  have hquery := device.locked.queryFormats_of_available havailable
  have hshort : ¬ device.locked.source.formats.availablePorts direction ≤ port.toUInt32 := hport
  cases hrate : device.joinRate with
  | error fault =>
    have hsilent : device.locked.queried.joinRate = .error fault := hrate
    rw [openMidi, opening_eq_error device.locked.queried hfree
      (by simp only [hquery, hshort, if_false, hsilent]; rfl)]
    rfl
  | ok rate =>
    have hanswered : device.locked.queried.joinRate = .ok rate := hrate
    rcases hjoin : device.lifecycle.join rate with ⟨fault | outcome, lifecycle⟩
    · have hrefused : device.locked.queried.lifecycle.join rate = (.error fault, lifecycle) := hjoin
      rw [openMidi, opening_eq_error { device.locked.queried with lifecycle } hfree
        (by simp only [hquery, hshort, if_false, hanswered, hrefused]; rfl)]
      simp only [hjoin]
      rfl
    · have hjoined : device.locked.queried.lifecycle.join rate = (.ok outcome, lifecycle) := hjoin
      rw [openMidi, opening_eq_ok
        { device.locked.queried with lifecycle, lastId := device.lastId + 1 } hfree
        (by simp only [hquery, hshort, if_false, hanswered, hjoined]; rfl)]
      simp only [hjoin]
      rfl

theorem openMidi_of_join_eq_ok {port : UInt8} {rate : UInt32} {outcome : StartOutcome}
    {lifecycle : Lifecycle}
    (hport : ¬ device.source.formats.availablePorts direction ≤ port.toUInt32)
    (hrate : device.joinRate = .ok rate)
    (hjoin : device.lifecycle.join rate = (.ok outcome, lifecycle)) :
    device.openMidi direction port = (.ok { id := device.nextId, direction, port },
      { device.withOpened (.midi { id := device.nextId, direction, port }) with lifecycle }) := by
  rw [openMidi_of_port hfree havailable hport, hrate]
  simp only [hjoin]

end

theorem openPcm_transition (direction : Direction) :
    Transition device (.openPcm direction)
      (.ofResult (fun pcm => .opened pcm.constraints.window) (device.openPcm direction).1)
      (device.openPcm direction).2 := by
  rcases Bool.eq_false_or_eq_true device.lock.held with hheld | hfree
  · rw [openPcm_of_held hheld]
    exact .idle _ _ trivial
  rcases Bool.eq_false_or_eq_true device.source.failing with hfailing | havailable
  · rw [openPcm_of_failing hfree hfailing]
    exact .turnedAway _ _ _ trivial hfree
  cases hoffer : device.offer device.source.formats direction with
  | error fault =>
    rw [openPcm_of_offer_eq_error hfree havailable hoffer]
    exact .turnedAway _ _ _ trivial hfree
  | ok constraints =>
    rw [openPcm_of_offer_eq_ok hfree havailable hoffer]
    exact .openedPcm direction constraints hfree hoffer

theorem openMidi_transition (direction : Direction) (port : UInt8) :
    Transition device (.openMidi direction port)
      (.ofResult (fun _ => .done) (device.openMidi direction port).1)
      (device.openMidi direction port).2 := by
  rcases Bool.eq_false_or_eq_true device.lock.held with hheld | hfree
  · rw [openMidi_of_held hheld]
    exact .idle _ _ trivial
  rcases Bool.eq_false_or_eq_true device.source.failing with hfailing | havailable
  · rw [openMidi_of_failing hfree hfailing]
    exact .turnedAway _ _ _ trivial hfree
  by_cases hport : device.source.formats.availablePorts direction ≤ port.toUInt32
  · rw [openMidi_of_no_port hfree havailable hport]
    exact .turnedAway _ _ _ trivial hfree
  rw [openMidi_of_port hfree havailable hport]
  cases hrate : device.joinRate with
  | error fault => exact .turnedAway _ _ _ trivial hfree
  | ok rate =>
    rcases hjoin : device.lifecycle.join rate with ⟨fault | outcome, lifecycle⟩
    · simp only [hjoin]
      exact .joinRefused direction port rate fault lifecycle hfree hrate hjoin
    · simp only [hjoin]
      exact .openedMidi direction port rate outcome lifecycle hfree hrate hjoin

/-! ### The open PCM substream -/

variable {pcm : PcmSubstream}

theorem commit_transition (hopen : device.substream = some (.pcm pcm)) (rate channels : UInt32) :
    Transition device (.commit rate channels)
      (.ofResult (fun pcm => .committed pcm.params) (device.commit pcm rate channels).1)
      (device.commit pcm rate channels).2 := by
  unfold commit
  cases hselect : device.selectParams pcm rate channels with
  | error fault => exact .idle _ _ trivial
  | ok params =>
    by_cases hstate : pcm.state = .opened
    · simp only [hstate, if_true]
      exact .committed rate channels pcm params hopen hstate hselect
    · simp only [hstate, if_false]
      exact .recommitted rate channels pcm params hopen hstate hselect

theorem free_transition (hopen : device.substream = some (.pcm pcm)) :
    Transition device .free (.ofResult (fun _ => .done) (device.free pcm).1)
      (device.free pcm).2 := by
  unfold free
  by_cases hrunning : pcm.state = .running
  · rw [if_pos hrunning]
    exact .idle _ _ trivial
  rw [if_neg hrunning]
  by_cases hstate : pcm.state = .opened
  · simp only [hstate, if_true]
    exact .freedUncounted pcm hopen hstate
  · simp only [hstate, if_false]
    exact .freed pcm hopen hstate hrunning

theorem paramsToPrepare_eq_ok {params : StreamParams} (hparams : paramsToPrepare pcm = .ok params) :
    (pcm.state = .setup ∨ pcm.state = .prepared) ∧ pcm.params = some params := by
  unfold paramsToPrepare at hparams
  split at hparams
  · rename_i hstate hsome
    exact ⟨Or.inl hstate, by rw [hsome, Except.ok.inj hparams]⟩
  · rename_i hstate hsome
    exact ⟨Or.inr hstate, by rw [hsome, Except.ok.inj hparams]⟩
  · cases hparams

theorem prepare_transition (hopen : device.substream = some (.pcm pcm)) :
    Transition device .prepare (.ofResult (fun _ => .done) (device.prepare pcm).1)
      (device.prepare pcm).2 := by
  unfold prepare
  cases hparams : paramsToPrepare pcm with
  | error fault => exact .idle _ _ trivial
  | ok params =>
    rcases hstart : device.lifecycle.ensureStarted params.rate with ⟨fault | outcome, lifecycle⟩
    · simp only [hstart]
      exact .startRefused pcm params fault lifecycle hopen hparams hstart
    cases outcome with
    | alreadyRunning running =>
      simp only [hstart]
      by_cases hpinned : running = params.rate
      · rw [if_pos hpinned]
        refine .prepared pcm params _ lifecycle hopen hparams hstart fun rate hrate => ?_
        cases hrate
        exact hpinned
      · -- A pair that already runs is left as it is, so the refusal changes nothing.
        obtain rfl := Lifecycle.eq_of_ensureStarted_eq_alreadyRunning hstart
        rw [if_neg hpinned]
        exact .idle .prepare (.fault _) trivial
    | started rate =>
      simp only [hstart]
      exact .prepared pcm params _ lifecycle hopen hparams hstart (by simp)
    | noSubstreams =>
      simp only [hstart]
      exact .prepared pcm params _ lifecycle hopen hparams hstart (by simp)

theorem trigger_transition (hopen : device.substream = some (.pcm pcm)) {command : TriggerCommand}
    (hcommand : request.command? = some command) :
    Transition device request (.ofResult (fun _ => .done) (device.trigger pcm command).1)
      (device.trigger pcm command).2 := by
  cases command with
  | start =>
    by_cases hstate : pcm.state = .prepared
    · rw [trigger, if_pos hstate]
      exact .started request pcm hcommand hopen hstate
    · rw [trigger, if_neg hstate]
      exact .idle _ _ trivial
  | stop => exact .stopped request pcm hcommand hopen
  | _ => exact .idle _ _ trivial

/-! ### All requests -/

/-- Every step is one of the transitions. -/
theorem step_transition (device : Device) (request : Request) :
    Transition device request (device.step request).1 (device.step request).2 := by
  cases request with
  | lifecycle action => exact transition_withHandle (.lifecycleAsked action)
  | transport action => exact .transportAsked action
  | attachedMidi direction port => exact .idle _ _ trivial
  | openPcm direction => exact transition_withHandle (openPcm_transition direction)
  | openMidi direction port => exact transition_withHandle (openMidi_transition direction port)
  | refine rates channels =>
    refine transition_withPcm fun pcm hopen => .idle _ _ ?_
    cases device.refine pcm rates channels <;> trivial
  | commit rate channels =>
    exact transition_withPcm fun pcm hopen => commit_transition hopen rate channels
  | free => exact transition_withPcm fun pcm hopen => free_transition hopen
  | prepare => exact transition_withPcm fun pcm hopen => prepare_transition hopen
  | trigger command =>
    exact transition_withPcm fun pcm hopen => trigger_transition hopen rfl
  | triggerCode code =>
    refine transition_withPcm fun pcm hopen => ?_
    unfold triggerCode
    cases hcommand : TriggerCommand.ofCode? code with
    | some command => exact trigger_transition hopen hcommand
    | none => exact .idle _ _ trivial
  | triggerMidi up =>
    unfold step
    rcases hopen : device.substream with _ | ⟨pcm⟩ | ⟨midi⟩
    · exact .idle _ _ trivial
    · exact .idle _ _ trivial
    · exact .triggeredMidi up midi hopen
  | close =>
    unfold step
    cases hopen : device.substream with
    | none => exact .idle _ _ trivial
    | some substream => exact .closed substream hopen
  | drop =>
    unfold step
    cases hopen : device.substream with
    | none => exact .idle _ _ rfl
    | some substream => exact .dropped substream hopen
  | clockSource source => exact .clockChanged _ _ rfl
  | clockRate rate => exact .clockChanged _ _ rfl
  | clockUnreachable on => exact .clockChanged _ _ rfl
  | formatsFail on => exact .formatsFailing on
  | replaceFormats formats => exact .formatsReplaced formats
  | queryFormats =>
    refine transition_withHandle ?_
    rcases Bool.eq_false_or_eq_true device.source.failing with hfailing | havailable
    · rw [device.queryFormats_of_failing hfailing]
      exact .idle _ _ trivial
    · rw [device.queryFormats_of_available havailable]
      exact .formatsQueried
  | describe =>
    unfold step
    refine transition_withHandle ?_
    exact .idle .describe (.described _ _) trivial
  | detach => exact transition_withHandle .detached

end DuplexAudio.Device
