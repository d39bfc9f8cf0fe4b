import DuplexAudio.Proofs.Device.Transition

/-!
Devices that cannot be told apart. No answer depends on how often the lock was acquired or the
formats were queried, so devices that differ in these counts alone answer all requests alike.
-/

namespace DuplexAudio.Device

/-- The device with other counts of acquisitions and of format queries. -/
def recounted (device : Device) (generation queries : Nat) : Device :=
  { device with
    lock.generation := generation
    source.queries := queries }

/-- The devices differ in their counts of acquisitions and of format queries at most. -/
def Alike (left right : Device) : Prop :=
  ∃ generation queries, right = left.recounted generation queries

/-- The answers are the same and leave devices that are alike. -/
def SameOutcome {α : Type} (left right : α × Device) : Prop :=
  right.1 = left.1 ∧ Alike left.2 right.2

variable {device left right : Device} {generation queries : Nat}

theorem alike_recounted (device : Device) (generation queries : Nat) :
    Alike device (device.recounted generation queries) :=
  ⟨generation, queries, rfl⟩

theorem sameOutcome_recounted {α : Type} (answer : α) (device : Device) (generation queries : Nat) :
    SameOutcome (answer, device) (answer, device.recounted generation queries) :=
  ⟨rfl, alike_recounted device generation queries⟩

theorem SameOutcome.map {α β : Type} {first second : α × Device} (f : α → β)
    (hsame : SameOutcome first second) :
    SameOutcome (f first.1, first.2) (f second.1, second.2) :=
  ⟨congrArg f hsame.1, hsame.2⟩

/-! ### Openings -/

theorem sameOutcome_openPcm (device : Device) (generation queries : Nat) (direction : Direction) :
    SameOutcome (device.openPcm direction)
      ((device.recounted generation queries).openPcm direction) := by
  let other := device.recounted generation queries
  rcases Bool.eq_false_or_eq_true device.lock.held with hheld | hfree
  · have hheld' : other.lock.held = true := hheld
    rw [openPcm_of_held hheld, openPcm_of_held hheld']
    exact sameOutcome_recounted _ _ _ _
  have hfree' : other.lock.held = false := hfree
  rcases Bool.eq_false_or_eq_true device.source.failing with hfailing | havailable
  · have hfailing' : other.source.failing = true := hfailing
    rw [openPcm_of_failing hfree hfailing, openPcm_of_failing hfree' hfailing']
    exact sameOutcome_recounted _ (device.turnedAway _) _ _
  have havailable' : other.source.failing = false := havailable
  cases hoffer : device.offer device.source.formats direction with
  | error fault =>
    have hoffer' : other.offer other.source.formats direction = .error fault := hoffer
    rw [openPcm_of_offer_eq_error hfree havailable hoffer,
      openPcm_of_offer_eq_error hfree' havailable' hoffer']
    exact sameOutcome_recounted _ (device.turnedAway _) _ _
  | ok constraints =>
    have hoffer' : other.offer other.source.formats direction = .ok constraints := hoffer
    rw [openPcm_of_offer_eq_ok hfree havailable hoffer,
      openPcm_of_offer_eq_ok hfree' havailable' hoffer']
    exact sameOutcome_recounted _ (device.withOpened _) _ _

theorem sameOutcome_openMidi (device : Device) (generation queries : Nat) (direction : Direction)
    (port : UInt8) : SameOutcome (device.openMidi direction port)
      ((device.recounted generation queries).openMidi direction port) := by
  let other := device.recounted generation queries
  rcases Bool.eq_false_or_eq_true device.lock.held with hheld | hfree
  · have hheld' : other.lock.held = true := hheld
    rw [openMidi_of_held hheld, openMidi_of_held hheld']
    exact sameOutcome_recounted _ _ _ _
  have hfree' : other.lock.held = false := hfree
  rcases Bool.eq_false_or_eq_true device.source.failing with hfailing | havailable
  · have hfailing' : other.source.failing = true := hfailing
    rw [openMidi_of_failing hfree hfailing, openMidi_of_failing hfree' hfailing']
    exact sameOutcome_recounted _ (device.turnedAway _) _ _
  have havailable' : other.source.failing = false := havailable
  by_cases hport : device.source.formats.availablePorts direction ≤ port.toUInt32
  · rw [openMidi_of_no_port hfree havailable hport, openMidi_of_no_port hfree' havailable' hport]
    exact sameOutcome_recounted _ (device.turnedAway _) _ _
  · have hjoinRate : other.joinRate = device.joinRate := rfl
    have hlifecycle : other.lifecycle = device.lifecycle := rfl
    rw [openMidi_of_port hfree havailable hport, openMidi_of_port hfree' havailable' hport,
      hjoinRate, hlifecycle]
    cases device.joinRate with
    | error fault => exact sameOutcome_recounted _ (device.turnedAway _) _ _
    | ok rate =>
      rcases hjoin : device.lifecycle.join rate with ⟨fault | outcome, lifecycle⟩
      · simp only [hjoin]
        exact sameOutcome_recounted _ { device.turnedAway _ with lifecycle } _ _
      · simp only [hjoin]
        exact sameOutcome_recounted _ { device.withOpened _ with lifecycle } _ _

theorem sameOutcome_queryFormats (device : Device) (generation queries : Nat) :
    SameOutcome device.queryFormats (device.recounted generation queries).queryFormats := by
  rcases Bool.eq_false_or_eq_true device.source.failing with hfailing | havailable
  · have hfailing' : (device.recounted generation queries).source.failing = true := hfailing
    rw [queryFormats_of_failing _ hfailing, queryFormats_of_failing _ hfailing']
    exact sameOutcome_recounted _ _ _ _
  · have havailable' : (device.recounted generation queries).source.failing = false := havailable
    rw [queryFormats_of_available _ havailable, queryFormats_of_available _ havailable']
    exact sameOutcome_recounted _ device.queried _ _

/-! ### The open substream -/

theorem sameOutcome_commit (device : Device) (generation queries : Nat) (pcm : PcmSubstream)
    (rate channels : UInt32) : SameOutcome (device.commit pcm rate channels)
      ((device.recounted generation queries).commit pcm rate channels) := by
  have hselect : (device.recounted generation queries).selectParams pcm rate channels =
      device.selectParams pcm rate channels := rfl
  unfold commit
  rw [hselect]
  cases device.selectParams pcm rate channels with
  | error fault => exact sameOutcome_recounted _ _ _ _
  | ok params => exact sameOutcome_recounted _ _ _ _

theorem sameOutcome_free (device : Device) (generation queries : Nat) (pcm : PcmSubstream) :
    SameOutcome (device.free pcm) ((device.recounted generation queries).free pcm) := by
  unfold free
  split
  · exact sameOutcome_recounted _ _ _ _
  · exact sameOutcome_recounted _ _ _ _

theorem sameOutcome_prepare (device : Device) (generation queries : Nat) (pcm : PcmSubstream) :
    SameOutcome (device.prepare pcm) ((device.recounted generation queries).prepare pcm) := by
  have hlifecycle : (device.recounted generation queries).lifecycle = device.lifecycle := rfl
  unfold prepare
  cases paramsToPrepare pcm with
  | error fault => exact sameOutcome_recounted _ _ _ _
  | ok params =>
    simp only [hlifecycle]
    rcases device.lifecycle.ensureStarted params.rate with ⟨fault | outcome, lifecycle⟩
    · exact sameOutcome_recounted _ { device with lifecycle } _ _
    · cases outcome with
      | alreadyRunning running =>
        by_cases hpinned : running = params.rate
        · simp only [hpinned, if_true]
          exact sameOutcome_recounted _ _ _ _
        · simp only [hpinned, if_false]
          exact sameOutcome_recounted _ { device with lifecycle } _ _
      | started rate => exact sameOutcome_recounted _ _ _ _
      | noSubstreams => exact sameOutcome_recounted _ _ _ _

theorem sameOutcome_trigger (device : Device) (generation queries : Nat) (pcm : PcmSubstream)
    (command : TriggerCommand) : SameOutcome (device.trigger pcm command)
      ((device.recounted generation queries).trigger pcm command) := by
  cases command with
  | start =>
    by_cases hstate : pcm.state = .prepared
    · rw [trigger, if_pos hstate, trigger, if_pos hstate]
      exact sameOutcome_recounted _ _ _ _
    · rw [trigger, if_neg hstate, trigger, if_neg hstate]
      exact sameOutcome_recounted _ _ _ _
  | _ => exact sameOutcome_recounted _ _ _ _

theorem alike_settleDetached (device : Device) (generation queries : Nat) :
    Alike device.settleDetached (device.recounted generation queries).settleDetached := by
  unfold settleDetached
  by_cases hkept : (device.attached || device.substream.isSome ||
      !device.lifecycle.state.running) = true
  · have hkept' : ((device.recounted generation queries).attached ||
        (device.recounted generation queries).substream.isSome ||
        !(device.recounted generation queries).lifecycle.state.running) = true := hkept
    rw [if_pos hkept, if_pos hkept']
    exact alike_recounted _ _ _
  · have hended : ¬ ((device.recounted generation queries).attached ||
        (device.recounted generation queries).substream.isSome ||
        !(device.recounted generation queries).lifecycle.state.running) = true := hkept
    rw [if_neg hkept, if_neg hended]
    exact alike_recounted _ _ _

theorem alike_close (device : Device) (generation queries : Nat) (substream : Substream) :
    Alike (device.close substream) ((device.recounted generation queries).close substream) :=
  alike_settleDetached _ generation queries

/-! ### All requests -/

theorem SameOutcome.withHandle {answer : Device → Reply × Device}
    (hsame : SameOutcome (answer device) (answer (device.recounted generation queries))) :
    SameOutcome (device.withHandle answer)
      ((device.recounted generation queries).withHandle answer) := by
  have hattached : (device.recounted generation queries).attached = device.attached := rfl
  unfold Device.withHandle
  rw [hattached]
  split
  · exact hsame
  · exact sameOutcome_recounted _ _ _ _

theorem SameOutcome.withPcm {answer : Device → PcmSubstream → Reply × Device}
    (hsame : ∀ pcm, SameOutcome (answer device pcm)
      (answer (device.recounted generation queries) pcm)) :
    SameOutcome (device.withPcm answer)
      ((device.recounted generation queries).withPcm answer) := by
  have hopen : (device.recounted generation queries).openPcmSubstream? =
      device.openPcmSubstream? := rfl
  unfold Device.withPcm
  rw [hopen]
  cases device.openPcmSubstream? with
  | none => exact sameOutcome_recounted _ _ _ _
  | some pcm => exact hsame pcm

theorem sameOutcome_step (device : Device) (generation queries : Nat) (request : Request) :
    SameOutcome (device.step request) ((device.recounted generation queries).step request) := by
  cases request with
  | lifecycle action => exact .withHandle (sameOutcome_recounted _ _ _ _)
  | transport action => exact sameOutcome_recounted _ { device with lifecycle := _ } _ _
  | attachedMidi direction port => exact sameOutcome_recounted _ _ _ _
  | openPcm direction =>
    exact .withHandle ((sameOutcome_openPcm device generation queries direction).map _)
  | openMidi direction port =>
    exact .withHandle ((sameOutcome_openMidi device generation queries direction port).map _)
  | refine rates channels => exact .withPcm fun pcm => sameOutcome_recounted _ _ _ _
  | commit rate channels =>
    exact .withPcm fun pcm => (sameOutcome_commit device generation queries pcm _ _).map _
  | free => exact .withPcm fun pcm => (sameOutcome_free device generation queries pcm).map _
  | prepare => exact .withPcm fun pcm => (sameOutcome_prepare device generation queries pcm).map _
  | trigger command =>
    exact .withPcm fun pcm => (sameOutcome_trigger device generation queries pcm command).map _
  | triggerCode code =>
    refine .withPcm fun pcm => ?_
    unfold triggerCode
    cases TriggerCommand.ofCode? code with
    | some command => exact (sameOutcome_trigger device generation queries pcm command).map _
    | none => exact sameOutcome_recounted _ _ _ _
  | triggerMidi up =>
    have hsubstream : (device.recounted generation queries).substream = device.substream := rfl
    unfold step
    rcases hopen : device.substream with _ | ⟨pcm⟩ | ⟨midi⟩ <;> simp only [hsubstream, hopen]
    · exact sameOutcome_recounted _ _ _ _
    · exact sameOutcome_recounted _ _ _ _
    · exact sameOutcome_recounted _ _ _ _
  | close =>
    have hsubstream : (device.recounted generation queries).substream = device.substream := rfl
    unfold step
    cases hopen : device.substream <;> simp only [hsubstream, hopen]
    · exact sameOutcome_recounted _ _ _ _
    · exact ⟨rfl, alike_close _ _ _ _⟩
  | drop =>
    have hsubstream : (device.recounted generation queries).substream = device.substream := rfl
    unfold step
    cases hopen : device.substream <;> simp only [hsubstream, hopen]
    · exact sameOutcome_recounted _ _ _ _
    · exact ⟨rfl, alike_close _ _ _ _⟩
  | queryFormats => exact .withHandle ((sameOutcome_queryFormats device generation queries).map _)
  | describe =>
    have hshown : Describe.device (device.recounted generation queries) =
      Describe.device device := rfl
    have halike := alike_recounted device generation queries
    unfold step
    refine SameOutcome.withHandle ?_
    exact ⟨congrArg (Reply.described · _) hshown, halike⟩
  | detach => exact .withHandle ⟨rfl, alike_settleDetached _ _ _⟩
  | _ => exact sameOutcome_recounted _ _ _ _

/-! ### Runs -/

/-- The answers to a sequence of requests. -/
def replies (device : Device) : List Request → List Reply
  | [] => []
  | request :: rest => (device.step request).1 :: (device.step request).2.replies rest

/-- Devices that are alike answer all requests alike, and stay alike. -/
theorem Alike.run (halike : Alike left right) (requests : List Request) :
    right.replies requests = left.replies requests ∧
      Alike (left.run requests) (right.run requests) := by
  induction requests generalizing left right with
  | nil => exact ⟨rfl, halike⟩
  | cons request rest ih =>
    obtain ⟨generation, queries, rfl⟩ := halike
    obtain ⟨hanswer, hnext⟩ := sameOutcome_step left generation queries request
    obtain ⟨hanswers, hlater⟩ := ih hnext
    refine ⟨?_, hlater⟩
    rw [replies, replies, hanswer, hanswers]

end DuplexAudio.Device
