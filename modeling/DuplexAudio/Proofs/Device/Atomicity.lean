import DuplexAudio.Proofs.Device.Accounting

/-!
Failing requests. Whichever exit a request takes, a failure leaves the device as it was, apart from
the number of the acquisition and the count of format queries; a start that the transport refuses
also uses up the injected failure and is noted in the journal.
-/

namespace DuplexAudio

namespace Lifecycle

variable {lifecycle next : Lifecycle} {rate : UInt32} {fault : StreamFault}

/-! ### Refused starts -/

/-- The next start fails with `fault`, which uses the failure up. -/
def Refuses (lifecycle : Lifecycle) (fault : StreamFault) (next : Lifecycle) : Prop :=
  ∃ rate reason, lifecycle.transport.failNext = some reason ∧ fault = .startFailed rate reason ∧
    next = lifecycle.afterRefusal rate

theorem refuses_of_ensureStarted_eq_error
    (hstart : lifecycle.ensureStarted rate = (.error fault, next)) :
    lifecycle.Refuses fault next := by
  rcases lifecycle.ensureStarted_cases rate with
    ⟨-, hcase⟩ | ⟨-, -, hcase⟩ | ⟨-, -, reason, hfail, hcase⟩ | ⟨-, -, -, hcase⟩
  · cases hcase.symm.trans hstart
  · cases hcase.symm.trans hstart
  · obtain ⟨hcause, hnext⟩ := Prod.mk.inj (hcase.symm.trans hstart)
    exact ⟨rate, reason, hfail, (Except.error.inj hcause).symm, hnext.symm⟩
  · cases hcase.symm.trans hstart

theorem refuses_of_join_eq_error (hjoin : lifecycle.join rate = (.error fault, next)) :
    lifecycle.Refuses fault next := by
  obtain ⟨reason, hfail, hfault, hnext⟩ := join_eq_error hjoin
  exact ⟨rate, reason, hfail, hfault, hnext⟩

/-- Only starting and joining can fail. -/
theorem refuses_of_step_eq_fault {action : Action}
    (hstep : (lifecycle.step action).1 = .fault fault) :
    lifecycle.Refuses fault (lifecycle.step action).2 := by
  cases action with
  | start rate =>
    rcases hstart : lifecycle.ensureStarted rate with ⟨cause | outcome, next⟩
    · rw [step, hstart] at hstep ⊢
      cases hstep
      exact refuses_of_ensureStarted_eq_error hstart
    · rw [step, hstart] at hstep
      cases hstep
  | join rate =>
    rcases hjoin : lifecycle.join rate with ⟨cause | outcome, next⟩
    · rw [step, hjoin] at hstep ⊢
      cases hstep
      exact refuses_of_join_eq_error hjoin
    · rw [step, hjoin] at hstep
      cases hstep
  | _ => cases hstep

/-- A start behind the back of the lifecycle fails in the same way. -/
theorem refuses_of_stepTransport_eq_fault {action : TransportAction}
    (hstep : (lifecycle.stepTransport action).1 = .fault fault) :
    lifecycle.Refuses fault (lifecycle.stepTransport action).2 := by
  cases action with
  | start rate =>
    unfold stepTransport Hardware.start Transport.start at hstep ⊢
    cases hfail : lifecycle.hardware.transport.failNext with
    | none =>
      rw [hfail] at hstep
      cases hstep
    | some reason =>
      rw [hfail] at hstep
      cases hstep
      exact ⟨rate, reason, hfail, rfl, rfl⟩
  | _ => cases hstep

end Lifecycle

namespace Device

variable {device next : Device} {request : Request} {reply : Reply} {fault : StreamFault}

/-- The fault that a reply reports, from the device or from its lifecycle. -/
def Reply.fault? : Reply → Option StreamFault
  | .fault fault | .lifecycle (.fault fault) => some fault
  | _ => none

/-- What a device and its hardware look like to everyone who uses them is the same. -/
structure Spared (before after : Device) : Prop where
  held : after.lock.held = before.lock.held
  stream : after.lifecycle.state = before.lifecycle.state
  slots : after.lifecycle.slots = before.lifecycle.slots
  lastId : after.lastId = before.lastId
  substream : after.substream = before.substream
  rate : after.transport.rate = before.transport.rate
  attachments : after.transport.attachments = before.transport.attachments
  starts : after.transport.starts = before.transport.starts
  stops : after.transport.stops = before.transport.stops
  clock : after.clock = before.clock

/-- What may be left of a request that failed: an acquisition, format queries, and the refusal if it
was the transport that failed. -/
inductive Trace (device : Device) : StreamFault → Device → Prop
  | quiet (fault : StreamFault) (generation queries : Nat) :
      Trace device fault
        { device with lock.generation := generation, source.queries := queries }
  | refused (rate : UInt32) (reason : String) (generation queries : Nat)
      (hfail : device.transport.failNext = some reason) :
      Trace device (.startFailed rate reason)
        { device with
          lock.generation := generation
          source.queries := queries
          lifecycle := device.lifecycle.afterRefusal rate }

theorem Trace.spared (htrace : Trace device fault next) : Spared device next := by
  cases htrace with
  | quiet generation queries => exact ⟨rfl, rfl, rfl, rfl, rfl, rfl, rfl, rfl, rfl, rfl⟩
  | refused rate reason generation queries =>
    exact ⟨rfl, rfl, rfl, rfl, rfl, rfl, rfl, rfl, rfl, rfl⟩

theorem trace_refl (device : Device) (fault : StreamFault) : Trace device fault device :=
  .quiet fault device.lock.generation device.source.queries

theorem Trace.of_refuses {lifecycle : Lifecycle} (generation queries : Nat)
    (hrefuses : device.lifecycle.Refuses fault lifecycle) :
    Trace device fault
      { device with lock.generation := generation, source.queries := queries, lifecycle } := by
  obtain ⟨rate, reason, hfail, rfl, rfl⟩ := hrefuses
  exact .refused rate reason generation queries hfail

theorem turnedAway_of_free (hfree : device.lock.held = false) (queries : Nat) :
    device.turnedAway queries =
      { device with lock.generation := device.lock.generation + 1, source.queries := queries } := by
  rw [turnedAway, ← hfree]

/-- Whichever transition a failing request takes, it leaves no more than a trace. -/
theorem Transition.trace (htransition : Transition device request reply next)
    (hfault : reply.fault? = some fault) : Trace device fault next := by
  cases htransition with
  | idle => exact trace_refl device fault
  | turnedAway _ _ queries _ hfree =>
    rw [turnedAway_of_free hfree]
    exact .quiet fault _ queries
  | joinRefused _ _ _ _ _ hfree _ hjoin =>
    cases hfault
    rw [turnedAway_of_free hfree]
    exact .of_refuses _ _ (Lifecycle.refuses_of_join_eq_error hjoin)
  | startRefused _ _ _ _ _ _ hstart =>
    cases hfault
    exact .of_refuses _ _ (Lifecycle.refuses_of_ensureStarted_eq_error hstart)
  | lifecycleAsked action =>
    cases hanswer : (device.lifecycle.step action).1 with
    | fault cause =>
      rw [hanswer] at hfault
      cases hfault
      exact .of_refuses _ _ (Lifecycle.refuses_of_step_eq_fault hanswer)
    | _ =>
      rw [hanswer] at hfault
      cases hfault
  | transportAsked action =>
    cases hanswer : (device.lifecycle.stepTransport action).1 with
    | fault cause =>
      rw [hanswer] at hfault
      cases hfault
      exact .of_refuses _ _ (Lifecycle.refuses_of_stepTransport_eq_fault hanswer)
    | _ =>
      rw [hanswer] at hfault
      cases hfault
  | _ => cases hfault

/-- **A request that fails changes nothing.** The lock, the count and the rate of the pair, what is
attached, the open substream and its number, the transport and the clock are as before. What may be
left is an acquisition, format queries and, if the transport refused to start, that refusal. -/
theorem step_atomic (hfault : (device.step request).1.fault? = some fault) :
    Spared device (device.step request).2 ∧ Trace device fault (device.step request).2 := by
  have htrace := (step_transition device request).trace hfault
  exact ⟨htrace.spared, htrace⟩

/-- A committed capture substream, with the next start bound to fail. -/
def doomedSession : List Request :=
  [.openPcm .capture, .commit 48000 2, .transport (.failNext "bus reset")]

/-- The refused start of a committed substream. -/
theorem step_atomic_doomedSession :
    ((stereo.run doomedSession).step .prepare).1.fault? = some (.startFailed 48000 "bus reset") ∧
      Spared (stereo.run doomedSession) ((stereo.run doomedSession).step .prepare).2 ∧
      ((stereo.run doomedSession).step .prepare).2.transport.events = [.startFailed 48000] := by
  have hfault : ((stereo.run doomedSession).step .prepare).1.fault? =
      some (.startFailed 48000 "bus reset") := by decide +kernel
  exact ⟨hfault, (step_atomic hfault).1, by decide +kernel⟩

end Device
end DuplexAudio
