import DuplexAudio.Proofs.Lifecycle.Records
import DuplexAudio.Proofs.Transport.Journal

/-!
Lifecycles that are used in order: substreams are attached only while the pair runs, and the pair is
stopped only when every slot is free. Then both records of what is attached agree with each other
and with the journal, which is bracketed by starts and stops.
-/

namespace DuplexAudio.Lifecycle

structure Orderly (lifecycle : Lifecycle) : Prop where
  agrees : lifecycle.Agrees
  journal : ∀ slot, Journal.holder lifecycle.transport.events slot = lifecycle.slots.holder slot
  up : lifecycle.state.running = true → Journal.Up lifecycle.transport.events
  bracketed : Journal.Bracketed lifecycle.transport.events

variable {lifecycle next : Lifecycle}

theorem orderly_attached (clock : Clock) (drivesClock : Bool) :
    (attached clock drivesClock).Orderly where
  agrees := agrees_attached clock drivesClock
  journal slot := (Attachments.vacant_empty slot).symm
  up hrunning := absurd hrunning Bool.false_ne_true
  bracketed := Journal.bracketed_nil

namespace Orderly

theorem frame (horderly : lifecycle.Orderly)
    (hrunning : next.state.running = lifecycle.state.running)
    (hslots : next.slots = lifecycle.slots)
    (hattachments : next.transport.attachments = lifecycle.transport.attachments)
    (hevents : next.transport.events = lifecycle.transport.events) : next.Orderly where
  agrees := by
    unfold Agrees
    rw [hslots, hattachments]
    exact horderly.agrees
  journal := by
    rw [hslots, hevents]
    exact horderly.journal
  up := by
    rw [hrunning, hevents]
    exact horderly.up
  bracketed := hevents ▸ horderly.bracketed

/-- One more event in the journal, and a record that follows it. -/
theorem append (horderly : lifecycle.Orderly) {event : TransportEvent}
    (hevents : next.transport.events = lifecycle.transport.events ++ [event])
    (hslots : ∀ slot, next.slots.holder slot = event.update slot (lifecycle.slots.holder slot))
    (hagrees : next.Agrees)
    (hup : next.state.running = true → Journal.Up next.transport.events)
    (hrunning : ∀ slot id, event = Slot.event slot (some id) → lifecycle.state.running = true)
    (hvacant : event = .stopped → lifecycle.slots.Vacant) : next.Orderly where
  agrees := hagrees
  journal slot := by
    rw [hevents, Journal.holder_append_singleton, horderly.journal, hslots]
  up := hup
  bracketed := by
    rw [hevents]
    refine horderly.bracketed.append_singleton (fun slot id hevent => ?_) fun hevent slot => ?_
    · exact horderly.up (hrunning slot id hevent)
    · rw [horderly.journal]
      exact hvacant hevent slot

/-! ### Counting, starting and stopping -/

theorem addSubstream (horderly : lifecycle.Orderly) : lifecycle.addSubstream.Orderly :=
  horderly.frame rfl rfl rfl rfl

theorem removeSubstream (horderly : lifecycle.Orderly) : lifecycle.removeSubstream.Orderly :=
  horderly.frame rfl rfl rfl rfl

theorem afterRefusal (horderly : lifecycle.Orderly) (rate : UInt32) :
    (lifecycle.afterRefusal rate).Orderly := by
  refine horderly.append rfl (fun _ => rfl) horderly.agrees (fun hrunning => ?_)
    (fun slot id hevent => ?_) fun hevent => ?_
  · exact (horderly.up hrunning).append_singleton (by simp)
  · cases slot <;> cases hevent
  · cases hevent

theorem afterStart (horderly : lifecycle.Orderly) (rate : UInt32) :
    (lifecycle.afterStart rate).Orderly := by
  refine horderly.append rfl (fun _ => rfl) horderly.agrees (fun _ => ?_)
    (fun slot id hevent => ?_) fun hevent => ?_
  · exact Journal.up_append_started _ rate
  · cases slot <;> cases hevent
  · cases hevent

theorem afterStop (horderly : lifecycle.Orderly) (hvacant : lifecycle.slots.Vacant) :
    lifecycle.afterStop.Orderly := by
  refine horderly.append rfl (fun _ => rfl) (fun slot => ?_) (fun hrunning => ?_)
    (fun slot id hevent => ?_) fun _ => hvacant
  · exact (hvacant slot).trans (Attachments.vacant_empty slot).symm
  · cases hrunning
  · cases slot <;> cases hevent

theorem trigger (horderly : lifecycle.Orderly) (slot : Slot) (substream : Option SubstreamId)
    (hrunning : substream ≠ none → lifecycle.state.running = true) :
    (lifecycle.trigger slot substream).Orderly := by
  have hevents := lifecycle.events_trigger slot substream
  refine horderly.append hevents (fun other => ?_) (horderly.agrees.trigger slot substream)
    (fun hstill => ?_) (fun other id hevent => ?_) fun hevent => ?_
  · rw [slots_trigger, Attachments.holder_attach, TransportEvent.update_event]
  · rw [state_trigger] at hstill
    rw [hevents]
    exact (horderly.up hstill).append_singleton slot.event_ne_stopped
  · refine hrunning fun hnone => ?_
    rw [hnone] at hevent
    cases (Slot.event_injective hevent).2
  · exact absurd hevent slot.event_ne_stopped

/-! ### Operations -/

theorem ensureStarted (horderly : lifecycle.Orderly) (rate : UInt32) :
    (lifecycle.ensureStarted rate).2.Orderly := by
  rcases lifecycle.ensureStarted_cases rate with
    ⟨-, hcase⟩ | ⟨-, -, hcase⟩ | ⟨-, -, _, -, hcase⟩ | ⟨-, -, -, hcase⟩
  · rw [hcase]
    exact horderly
  · rw [hcase]
    exact horderly
  · rw [hcase]
    exact horderly.afterRefusal rate
  · rw [hcase]
    exact horderly.afterStart rate

theorem join (horderly : lifecycle.Orderly) (rate : UInt32) : (lifecycle.join rate).2.Orderly := by
  rcases lifecycle.joined_cases rate with hcase | ⟨-, -, hcase⟩ | ⟨-, -, hcase⟩
  · rw [hcase]
    exact horderly.addSubstream
  · rw [hcase]
    exact horderly.afterRefusal rate
  · rw [hcase]
    exact horderly.addSubstream.afterStart rate

theorem ensureStopped (horderly : lifecycle.Orderly)
    (hvacant : lifecycle.state.activeSubstreams = 0 → lifecycle.slots.Vacant) :
    lifecycle.ensureStopped.2.Orderly := by
  rcases lifecycle.ensureStopped_cases with ⟨-, hcase⟩ | ⟨hunused, -, hcase⟩
  · rw [hcase]
    exact horderly
  · rw [hcase]
    exact horderly.afterStop (hvacant hunused)

theorem leave (horderly : lifecycle.Orderly)
    (hvacant : (lifecycle.state.activeSubstreams : Nat) ≤ 1 → lifecycle.slots.Vacant) :
    lifecycle.leave.2.Orderly := by
  refine horderly.removeSubstream.ensureStopped fun hunused => hvacant ?_
  have hcount := lifecycle.count_removeSubstream
  rw [hunused] at hcount
  exact Nat.sub_eq_zero_iff_le.1 hcount.symm

end Orderly
end DuplexAudio.Lifecycle
