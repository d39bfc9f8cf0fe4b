import DuplexAudio.Device.Reload
import DuplexAudio.Proofs.Device.Alike
import DuplexAudio.Proofs.Device.Accounting

/-!
An open substream is isolated from what happens around the device. The calls on it read the table
and the window it was opened with, the lifecycle and the transport, and never the clock or the
source of formats, although every start may write to the clock. So runs with the same calls show the
same, whatever is reconfigured in between.
-/

namespace DuplexAudio

/-! ### Lifecycles apart from the clock -/

namespace Lifecycle

variable (lifecycle : Lifecycle)

/-- The lifecycle with its clock blanked out. -/
def unclocked : Lifecycle := { lifecycle with hardware.clock := {} }

theorem ensureStarted_unclocked (rate : UInt32) :
    (lifecycle.unclocked.ensureStarted rate).1 = (lifecycle.ensureStarted rate).1 ∧
      (lifecycle.unclocked.ensureStarted rate).2.unclocked =
        (lifecycle.ensureStarted rate).2.unclocked := by
  rcases lifecycle.ensureStarted_cases rate with
    ⟨hunused, hcase⟩ | ⟨hused, hrunning, hcase⟩ | ⟨hused, hidle, reason, hfail, hcase⟩ |
    ⟨hused, hidle, hready, hcase⟩
  · rw [hcase, lifecycle.unclocked.ensureStarted_of_unused rate hunused]
    exact ⟨rfl, rfl⟩
  · rw [hcase, lifecycle.unclocked.ensureStarted_of_running rate hused hrunning]
    exact ⟨rfl, rfl⟩
  · rw [hcase, lifecycle.unclocked.ensureStarted_of_failNext rate hused hidle hfail]
    exact ⟨rfl, rfl⟩
  · -- A start may tune the clock, which is blanked out on both sides.
    rw [hcase, lifecycle.unclocked.ensureStarted_of_ready rate hused hidle hready]
    exact ⟨rfl, by simp [unclocked, afterStart, transport]⟩

theorem ensureStopped_unclocked :
    lifecycle.unclocked.ensureStopped.2 = lifecycle.ensureStopped.2.unclocked := by
  rcases lifecycle.ensureStopped_cases with ⟨hkeep, hcase⟩ | ⟨hunused, hrunning, hcase⟩
  · have hkept : (0 < lifecycle.state.activeSubstreams || !lifecycle.state.running) = true := by
      simpa using hkeep
    have hblank : lifecycle.unclocked.ensureStopped = (false, lifecycle.unclocked) := if_pos hkept
    rw [hcase, hblank]
  · have hended : ¬ (0 < lifecycle.state.activeSubstreams || !lifecycle.state.running) = true := by
      simp [hunused, hrunning]
    have hblank : lifecycle.unclocked.ensureStopped = (true, lifecycle.unclocked.afterStop) :=
      if_neg hended
    rw [hcase, hblank]
    rfl

theorem leave_unclocked : lifecycle.unclocked.leave.2 = lifecycle.leave.2.unclocked :=
  lifecycle.removeSubstream.ensureStopped_unclocked

end Lifecycle

namespace Device

/-! ### What surrounds a device -/

/-- A change around the device that concerns its formats or its clock. -/
inductive Reconfiguration
  | replaceFormats (formats : StreamFormats)
  | reloadFormats (files : FileTree) (current : Location) (path : String)
  | failFormats (on : Bool)
  | clockSource (source : ClockSource)
  | clockRate (rate : UInt32)
  | clockUnreachable (on : Bool)

def reconfigure (device : Device) : Reconfiguration → Device
  | .replaceFormats formats => (device.step (.replaceFormats formats)).2
  | .reloadFormats files current path => (device.reloadFormats files current path).2
  | .failFormats on => (device.step (.formatsFail on)).2
  | .clockSource source => (device.step (.clockSource source)).2
  | .clockRate rate => (device.step (.clockRate rate)).2
  | .clockUnreachable on => (device.step (.clockUnreachable on)).2

/-- A call on the open PCM substream, or an injected failure of the next start. -/
inductive Call
  | refine (rates channels : Interval)
  | commit (rate channels : UInt32)
  | free
  | prepare
  | trigger (command : TriggerCommand)
  | triggerCode (code : Int)
  | close
  | drop
  | failStart (reason : String)
  deriving DecidableEq

def Call.request : Call → Request
  | .refine rates channels => .refine rates channels
  | .commit rate channels => .commit rate channels
  | .free => .free
  | .prepare => .prepare
  | .trigger command => .trigger command
  | .triggerCode code => .triggerCode code
  | .close => .close
  | .drop => .drop
  | .failStart reason => .transport (.failNext reason)

inductive Occurrence
  | asked (call : Call)
  | changed (change : Reconfiguration)

def Occurrence.call? : Occurrence → Option Call
  | .asked call => some call
  | .changed _ => none

/-- What shows after a call: the answer, the substream with its window, parameters and state, the
state of the pair with its slots, and the transport with all the events it published. -/
structure Observation where
  reply : Reply
  substream : Option Substream
  state : StreamState
  slots : Attachments
  transport : Transport
  deriving DecidableEq

def observation (reply : Reply) (device : Device) : Observation :=
  ⟨reply, device.substream, device.lifecycle.state, device.lifecycle.slots, device.transport⟩

/-- What shows after each call of a run. -/
def observations (device : Device) : List Occurrence → List Observation
  | [] => []
  | .asked call :: rest =>
    observation (device.step call.request).1 (device.step call.request).2 ::
      (device.step call.request).2.observations rest
  | .changed change :: rest => (device.reconfigure change).observations rest

/-! ### The core of a device -/

variable {device left right : Device}

/-- The device with its clock and its source of formats blanked out. -/
def core (device : Device) : Device :=
  { device with
    lifecycle := device.lifecycle.unclocked
    source := { formats := default } }

/-- The answers are the same and leave devices with the same core. -/
def AgreeOnCore {α : Type} (first second : α × Device) : Prop :=
  first.1 = second.1 ∧ first.2.core = second.2.core

theorem AgreeOnCore.map {α β : Type} {first second : α × Device} (f : α → β)
    (hagree : AgreeOnCore first second) : AgreeOnCore (f first.1, first.2) (f second.1, second.2) :=
  ⟨congrArg f hagree.1, hagree.2⟩

theorem agreeOnCore_core {α : Type} (answer : α) (device : Device) :
    AgreeOnCore (answer, device.core) (answer, device) :=
  ⟨rfl, rfl⟩

theorem core_reconfigure (device : Device) (change : Reconfiguration) :
    (device.reconfigure change).core = device.core := by
  cases change with
  | reloadFormats files current path =>
    change (device.reloadFormats files current path).2.core = device.core
    unfold reloadFormats
    split <;> rfl
  | _ => rfl

theorem observation_eq_of_core (reply : Reply) (hcore : left.core = right.core) :
    observation reply left = observation reply right := by
  have hshown (device : Device) : observation reply device = observation reply device.core := rfl
  rw [hshown left, hcore, ← hshown right]

/-! ### Calls -/

theorem core_commit (device : Device) (pcm : PcmSubstream) (rate channels : UInt32) :
    AgreeOnCore (device.core.commit pcm rate channels) (device.commit pcm rate channels) := by
  have hselect : device.core.selectParams pcm rate channels =
      device.selectParams pcm rate channels := rfl
  unfold commit
  rw [hselect]
  cases device.selectParams pcm rate channels with
  | error fault => exact agreeOnCore_core _ device
  | ok params =>
    by_cases hstate : pcm.state = .opened
    · simp only [hstate, if_true]
      exact ⟨rfl, rfl⟩
    · simp only [hstate, if_false]
      exact ⟨rfl, rfl⟩

theorem core_free (device : Device) (pcm : PcmSubstream) :
    AgreeOnCore (device.core.free pcm) (device.free pcm) := by
  have hstopped : device.core.lifecycle.ensureStopped.2 =
      device.lifecycle.ensureStopped.2.unclocked := device.lifecycle.ensureStopped_unclocked
  have hleft : device.core.lifecycle.leave.2 = device.lifecycle.leave.2.unclocked :=
    device.lifecycle.leave_unclocked
  unfold free
  by_cases hrunning : pcm.state = .running
  · simp only [hrunning, if_true]
    exact agreeOnCore_core _ device
  simp only [hrunning, if_false]
  by_cases hstate : pcm.state = .opened
  · simp only [hstate, if_true, keep, hstopped]
    exact ⟨rfl, rfl⟩
  · simp only [hstate, if_false, keep, hleft]
    exact ⟨rfl, rfl⟩

theorem core_prepare (device : Device) (pcm : PcmSubstream) :
    AgreeOnCore (device.core.prepare pcm) (device.prepare pcm) := by
  unfold prepare
  cases paramsToPrepare pcm with
  | error fault => exact agreeOnCore_core _ device
  | ok params =>
    obtain ⟨hanswer, hnext⟩ := device.lifecycle.ensureStarted_unclocked params.rate
    have hlifecycle : device.core.lifecycle = device.lifecycle.unclocked := rfl
    rw [hlifecycle]
    rcases hblank : device.lifecycle.unclocked.ensureStarted params.rate with ⟨answer, blank⟩
    rcases hstart : device.lifecycle.ensureStarted params.rate with ⟨outcome, next⟩
    rw [hblank, hstart] at hanswer hnext
    obtain rfl : answer = outcome := hanswer
    have hunclocked : blank.unclocked = next.unclocked := hnext
    have hcore (substream : Option Substream) :
        core { device.core with lifecycle := blank, substream } =
          core { device with lifecycle := next, substream } := by
      simp only [core, hunclocked]
    simp only [hblank, hstart]
    rcases answer with fault | outcome
    · exact ⟨rfl, hcore device.substream⟩
    · cases outcome with
      | alreadyRunning running =>
        by_cases hpinned : running = params.rate
        · simp only [hpinned, if_true]
          exact ⟨rfl, hcore _⟩
        · simp only [hpinned, if_false]
          exact ⟨rfl, hcore device.substream⟩
      | started rate => exact ⟨rfl, hcore _⟩
      | noSubstreams => exact ⟨rfl, hcore _⟩

theorem core_trigger (device : Device) (pcm : PcmSubstream) (command : TriggerCommand) :
    AgreeOnCore (device.core.trigger pcm command) (device.trigger pcm command) := by
  cases command with
  | start =>
    by_cases hstate : pcm.state = .prepared
    · rw [trigger, if_pos hstate, trigger, if_pos hstate]
      exact ⟨rfl, rfl⟩
    · rw [trigger, if_neg hstate, trigger, if_neg hstate]
      exact agreeOnCore_core _ device
  | stop => exact ⟨rfl, rfl⟩
  | _ => exact agreeOnCore_core _ device

theorem retire_unclocked (lifecycle : Lifecycle) (substream : Substream) :
    retire lifecycle.unclocked substream = (retire lifecycle substream).unclocked := by
  cases substream with
  | pcm pcm =>
    cases hstate : pcm.state with
    | opened => simp [retire, hstate]
    | setup => simpa [retire, hstate] using lifecycle.leave_unclocked
    | prepared => simpa [retire, hstate] using lifecycle.leave_unclocked
    | running =>
      have hleft := (lifecycle.triggerPcm pcm.direction none).leave_unclocked
      simp only [retire, hstate, if_true, reduceCtorEq, if_false]
      exact hleft
  | midi midi =>
    cases hup : midi.triggered with
    | false => simpa [retire, hup] using lifecycle.leave_unclocked
    | true =>
      have hleft := (lifecycle.triggerMidi midi.direction midi.port none).leave_unclocked
      simp only [retire, hup, if_true]
      exact hleft

theorem core_settleDetached (device : Device) :
    device.core.settleDetached = device.settleDetached.core := by
  have hkept : (device.core.attached || device.core.substream.isSome ||
      !device.core.lifecycle.state.running) = (device.attached || device.substream.isSome ||
      !device.lifecycle.state.running) := rfl
  unfold settleDetached
  rw [hkept]
  split <;> rfl

theorem core_close (device : Device) (substream : Substream) :
    (device.core.close substream).core = (device.close substream).core := by
  let closed : Device :=
    { device with
      lifecycle := retire device.lifecycle substream
      substream := none }
  have hretired := retire_unclocked device.lifecycle substream
  have hlifecycle : device.core.lifecycle = device.lifecycle.unclocked := rfl
  have hsettled := core_settleDetached closed.release
  unfold close
  simp only [hlifecycle, hretired]
  have hclosed := congrArg core hsettled
  exact hclosed

theorem AgreeOnCore.withPcm {answer : Device → PcmSubstream → Reply × Device}
    (hagree : ∀ pcm, AgreeOnCore (answer device.core pcm) (answer device pcm)) :
    AgreeOnCore (device.core.withPcm answer) (device.withPcm answer) := by
  have hopen : device.core.openPcmSubstream? = device.openPcmSubstream? := rfl
  unfold Device.withPcm
  rw [hopen]
  cases device.openPcmSubstream? with
  | none => exact agreeOnCore_core _ device
  | some pcm => exact hagree pcm

/-- No call looks at the clock or at the source of formats. -/
theorem core_step (device : Device) (call : Call) :
    AgreeOnCore (device.core.step call.request) (device.step call.request) := by
  cases call with
  | refine rates channels => exact .withPcm fun pcm => agreeOnCore_core _ device
  | commit rate channels => exact .withPcm fun pcm => (core_commit device pcm rate channels).map _
  | free => exact .withPcm fun pcm => (core_free device pcm).map _
  | prepare => exact .withPcm fun pcm => (core_prepare device pcm).map _
  | trigger command => exact .withPcm fun pcm => (core_trigger device pcm command).map _
  | triggerCode code =>
    refine .withPcm fun pcm => ?_
    unfold triggerCode
    cases TriggerCommand.ofCode? code with
    | some command => exact (core_trigger device pcm command).map _
    | none => exact agreeOnCore_core _ device
  | close =>
    have hsubstream : device.core.substream = device.substream := rfl
    unfold Call.request step
    cases hopen : device.substream <;> simp only [hsubstream, hopen]
    · exact agreeOnCore_core _ device
    · exact ⟨rfl, core_close device _⟩
  | drop =>
    have hsubstream : device.core.substream = device.substream := rfl
    unfold Call.request step
    cases hopen : device.substream <;> simp only [hsubstream, hopen]
    · exact agreeOnCore_core _ device
    · exact ⟨rfl, core_close device _⟩
  | failStart reason => exact ⟨rfl, rfl⟩

theorem agreeOnCore_step (hcore : left.core = right.core) (call : Call) :
    AgreeOnCore (left.step call.request) (right.step call.request) := by
  have hleft := core_step left call
  have hright := core_step right call
  rw [hcore] at hleft
  exact ⟨hleft.1.symm.trans hright.1, hleft.2.symm.trans hright.2⟩

/-! ### Runs -/

/-- What shows of a run is what shows of its calls alone. -/
theorem observations_eq_of_core (hcore : left.core = right.core) (occurrences : List Occurrence) :
    left.observations occurrences =
      right.observations ((occurrences.filterMap (·.call?)).map .asked) := by
  induction occurrences generalizing left right with
  | nil => rfl
  | cons occurrence rest ih =>
    cases occurrence with
    | asked call =>
      obtain ⟨hreply, hnext⟩ := agreeOnCore_step hcore call
      have hcalls : (Occurrence.asked call :: rest).filterMap (·.call?) =
        call :: rest.filterMap (·.call?) := rfl
      rw [hcalls, List.map_cons, observations, observations, hreply,
        observation_eq_of_core _ hnext, ih hnext]
    | changed change =>
      have hcalls : (Occurrence.changed change :: rest).filterMap (·.call?) =
        rest.filterMap (·.call?) := rfl
      rw [hcalls, observations]
      exact ih ((core_reconfigure left change).trans hcore)

/-- **An open substream is isolated.** From the same state on, such as that right after an opening,
two runs with the same calls and injected failures show the same after every call, however the
formats and the clock are changed in between. -/
theorem observations_isolated (device : Device) {left right : List Occurrence}
    (hcalls : left.filterMap (·.call?) = right.filterMap (·.call?)) :
    device.observations left = device.observations right := by
  have hleft := observations_eq_of_core (rfl : device.core = device.core) left
  have hright := observations_eq_of_core (rfl : device.core = device.core) right
  rw [hleft, hright, hcalls]

/-- The capture substream of `stereo`, right after its opening. -/
def captureOpened : Device := stereo.run [.openPcm .capture]

/-- A negotiation, a commit, a start that fails once, and the end of the substream. -/
def restartedCapture : List Call :=
  [.refine .full .full, .commit 48000 2, .failStart "bus reset", .prepare, .prepare,
    .trigger .start, .trigger .stop, .free, .close]

/-- The same calls while the formats are emptied and fail, and the clock goes elsewhere. -/
def disturbedCapture : List Occurrence :=
  [.changed (.replaceFormats default), .changed (.clockSource .adatOptical)] ++
    restartedCapture.flatMap fun call =>
      [.changed (.clockRate 96000), .asked call, .changed (.failFormats true),
        .changed (.clockUnreachable true)]

theorem observations_isolated_disturbedCapture :
    disturbedCapture.filterMap (·.call?) = restartedCapture ∧
      captureOpened.observations disturbedCapture =
        captureOpened.observations (restartedCapture.map .asked) ∧
      ((captureOpened.observations (restartedCapture.map .asked)).getLast?.map
        (·.transport.events)) = some [.startFailed 48000, .started 48000,
          .pcmAttached .capture (some ⟨1⟩), .pcmAttached .capture none, .stopped] := by
  have hcalls : disturbedCapture.filterMap (·.call?) = restartedCapture := rfl
  have hundisturbed : (restartedCapture.map Occurrence.asked).filterMap (·.call?) =
      restartedCapture := rfl
  exact ⟨hcalls, observations_isolated captureOpened (hcalls.trans hundisturbed.symm),
    by decide +kernel⟩

end Device
end DuplexAudio
