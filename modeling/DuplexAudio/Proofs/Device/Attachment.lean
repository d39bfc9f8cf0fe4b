import DuplexAudio.Proofs.Device.Commitment
import DuplexAudio.Proofs.Lifecycle.Orderly

/-!
Attachments of the open substream. A slot holds the substream that is open, has that slot and flows,
and nothing else; since nobody but its owner can stop the pair below it, the journal is bracketed.
-/

namespace DuplexAudio

theorem SubstreamState.afterStop_ne_running (state : SubstreamState) :
    state.afterStop ≠ .running := by
  cases state <;> decide

def Substream.id : Substream → SubstreamId
  | .pcm substream => substream.id
  | .midi substream => substream.id

/-- What a substream holds a slot with. -/
def Substream.heldAt (substream : Substream) (slot : Slot) : Option SubstreamId :=
  if substream.IsAttached ∧ slot = substream.slot then some substream.id else none

theorem Substream.counted_of_attached {substream : Substream} (hattached : substream.IsAttached) :
    substream.counted = 1 := by
  cases substream with
  | pcm pcm =>
    refine if_neg fun hopened => ?_
    have hrunning : pcm.state = .running := hattached
    rw [hopened] at hrunning
    cases hrunning
  | midi midi => rfl

namespace Device

variable {device next : Device} {ledger : Ledger} {request : Request} {reply : Reply}

def heldAt (device : Device) (slot : Slot) : Option SubstreamId :=
  device.substream.bind (·.heldAt slot)

/-- No open substream is attached. -/
def Detached (device : Device) : Prop :=
  ∀ substream, device.substream = some substream → ¬ substream.IsAttached

/-- The lifecycle was used in order, and its slots are held by the open substream alone. -/
structure Attended (device : Device) : Prop where
  orderly : device.lifecycle.Orderly
  holders : ∀ slot, device.lifecycle.slots.holder slot = device.heldAt slot

/-! ### Holders -/

theorem heldAt_of_open {substream : Substream} (hopen : device.substream = some substream)
    (slot : Slot) : device.heldAt slot = substream.heldAt slot := by
  rw [heldAt, hopen]
  rfl

theorem detached_of_counted_eq_zero (hcounted : device.counted = 0) : device.Detached := by
  intro substream hopen hattached
  rw [counted_of_open hopen, Substream.counted_of_attached hattached] at hcounted
  cases hcounted

theorem Detached.heldAt (hdetached : device.Detached) (slot : Slot) :
    device.heldAt slot = none := by
  cases hopen : device.substream with
  | none =>
    rw [Device.heldAt, hopen]
    rfl
  | some substream =>
    rw [heldAt_of_open hopen]
    exact if_neg fun hheld => hdetached substream hopen hheld.1

namespace Attended

theorem vacant (hattended : device.Attended) (hdetached : device.Detached) :
    device.lifecycle.slots.Vacant := by
  intro slot
  rw [hattended.holders, hdetached.heldAt]

theorem frame (hattended : device.Attended) (horderly : next.lifecycle.Orderly)
    (hslots : next.lifecycle.slots = device.lifecycle.slots)
    (hheld : ∀ slot, next.heldAt slot = device.heldAt slot) : next.Attended where
  orderly := horderly
  holders slot := by rw [hslots, hheld, hattended.holders]

/-- Nothing was attached before, and nothing is. -/
theorem between (hattended : device.Attended) (hbefore : device.Detached) (hafter : next.Detached)
    (horderly : next.lifecycle.Orderly)
    (hslots : next.lifecycle.slots = device.lifecycle.slots) : next.Attended :=
  hattended.frame horderly hslots fun slot => by rw [hafter.heldAt, hbefore.heldAt]

theorem trigger (hattended : device.Attended) {substream : Substream} (new : Substream)
    (hopen : device.substream = some substream) (hslot : new.slot = substream.slot)
    (hrunning : new.IsAttached → device.lifecycle.state.running = true) :
    Attended { device with
      lifecycle := device.lifecycle.trigger new.slot (if new.IsAttached then some new.id else none)
      substream := some new } where
  orderly := by
    refine hattended.orderly.trigger _ _ fun hsome => ?_
    by_cases hattached : new.IsAttached
    · exact hrunning hattached
    · exact absurd (if_neg hattached) hsome
  holders slot := by
    change (device.lifecycle.trigger new.slot _).slots.holder slot = new.heldAt slot
    rw [Lifecycle.slots_trigger, Attachments.holder_attach, Substream.heldAt]
    by_cases hsame : slot = new.slot
    · simp only [hsame, if_true, and_true]
    · rw [if_neg hsame, if_neg fun hheld => hsame hheld.2, hattended.holders, heldAt_of_open hopen]
      exact if_neg fun hheld => hsame (hheld.2.trans hslot.symm)

/-- A substream that is taken off its slot leaves every slot free. -/
theorem withdraw (hattended : device.Attended) {substream : Substream}
    (hopen : device.substream = some substream) :
    (withdraw device.lifecycle substream).Orderly ∧
      (withdraw device.lifecycle substream).slots.Vacant := by
  unfold Device.withdraw
  split
  · refine ⟨hattended.orderly.trigger _ _ fun hsome => absurd rfl hsome, fun slot => ?_⟩
    rw [Lifecycle.slots_trigger, Attachments.holder_attach]
    split
    · rfl
    · rename_i hother
      rw [hattended.holders, heldAt_of_open hopen]
      exact if_neg fun hheld => hother hheld.2
  · rename_i hdetached
    exact ⟨hattended.orderly, hattended.vacant (forall_open hopen hdetached)⟩

theorem close (hattended : device.Attended) (hattached : device.attached = true)
    {substream : Substream} (hopen : device.substream = some substream) :
    (device.close substream).Attended := by
  obtain ⟨horderly, hvacant⟩ := hattended.withdraw hopen
  have hretired : (retire device.lifecycle substream).Orderly ∧
      (retire device.lifecycle substream).slots.Vacant := by
    rcases retire_cases device.lifecycle substream with ⟨-, hretire⟩ | ⟨-, hretire⟩
    · rw [hretire]
      exact ⟨horderly, hvacant⟩
    · rw [hretire]
      exact ⟨horderly.leave fun _ => hvacant, (Lifecycle.slots_leave _).symm ▸ hvacant⟩
  rw [close_of_attached hattached]
  exact ⟨hretired.1, hretired.2⟩

end Attended

/-! ### One step -/

theorem attended_attach (name : String) (formats : StreamFormats) (clock : Clock)
    (drivesClock : Bool) : Attended (.attach name formats clock drivesClock) where
  orderly := Lifecycle.orderly_attached clock drivesClock
  holders := Attachments.vacant_empty

theorem Attended.lifecycle_step (hattended : device.Attended) (hbalanced : Balanced device ledger)
    {action : Lifecycle.Action} (hpermits : ledger.Permits (.lifecycle action)) :
    Attended { device with lifecycle := (device.lifecycle.step action).2 } := by
  cases action with
  | join rate =>
    exact hattended.frame (hattended.orderly.join rate)
      (device.lifecycle.join_unrecorded rate).slots fun _ => rfl
  | leave =>
    refine hattended.frame (hattended.orderly.leave fun hlast => ?_)
      device.lifecycle.slots_leave fun _ => rfl
    -- The join that is left is counted, so the last one to leave is not the open substream.
    refine hattended.vacant (detached_of_counted_eq_zero ?_)
    have houtstanding : 0 < ledger.joined - ledger.left := hpermits
    have hcount := hbalanced.count
    omega
  | isRunning => exact hattended
  | _ => exact hpermits.elim

/-- A permitted request keeps the attachments with the open substream. -/
theorem Attended.of_transition (hattended : device.Attended) (hserved : device.Served)
    (hbalanced : Balanced device ledger) (hpermits : ledger.Permits request)
    (htransition : Transition device request reply next) : next.Attended := by
  have horderly := hattended.orderly
  cases htransition with
  | openedPcm direction constraints hfree =>
    have hnone : device.Detached := forall_open_of_eq_none (hbalanced.substream_eq_none hfree)
    exact hattended.between hnone (forall_open rfl SubstreamState.noConfusion) horderly rfl
  | joinRefused _ _ rate _ _ _ _ hjoin =>
    have hjoined := horderly.join rate
    have hslots := (device.lifecycle.join_unrecorded rate).slots
    rw [hjoin] at hjoined hslots
    exact hattended.frame hjoined hslots fun _ => rfl
  | openedMidi _ _ rate _ _ hfree _ hjoin =>
    have hjoined := horderly.join rate
    have hslots := (device.lifecycle.join_unrecorded rate).slots
    rw [hjoin] at hjoined hslots
    have hnone : device.Detached := forall_open_of_eq_none (hbalanced.substream_eq_none hfree)
    exact hattended.between hnone (forall_open rfl Bool.false_ne_true) hjoined hslots
  | committed _ _ pcm _ hopen hstate =>
    have hdetached : ¬ (Substream.pcm pcm).IsAttached := fun hrunning => by
      cases hstate.symm.trans hrunning
    exact hattended.between (forall_open hopen hdetached)
      (forall_open rfl SubstreamState.noConfusion) horderly.addSubstream rfl
  | recommitted _ _ pcm _ hopen _ hselect =>
    exact hattended.between (forall_open hopen (selectParams_eq_ok hselect).1)
      (forall_open rfl SubstreamState.noConfusion) horderly rfl
  | freedUncounted pcm hopen hstate =>
    have hdetached := detached_of_counted_eq_zero ((counted_of_open hopen).trans (if_pos hstate))
    exact hattended.between hdetached (forall_open rfl SubstreamState.noConfusion)
      (horderly.ensureStopped fun _ => hattended.vacant hdetached)
      device.lifecycle.slots_ensureStopped
  | freed pcm hopen _ hstill =>
    have hdetached : device.Detached := forall_open hopen hstill
    exact hattended.between hdetached (forall_open rfl SubstreamState.noConfusion)
      (horderly.leave fun _ => hattended.vacant hdetached) device.lifecycle.slots_leave
  | startRefused _ params _ _ _ _ hstart =>
    have hstarted := horderly.ensureStarted params.rate
    have hslots := (device.lifecycle.ensureStarted_unrecorded params.rate).slots
    rw [hstart] at hstarted hslots
    exact hattended.frame hstarted hslots fun _ => rfl
  | prepared pcm params _ _ hopen hparams hstart =>
    have hstarted := horderly.ensureStarted params.rate
    have hslots := (device.lifecycle.ensureStarted_unrecorded params.rate).slots
    rw [hstart] at hstarted hslots
    have hdetached : ¬ (Substream.pcm pcm).IsAttached := fun hrunning => by
      rcases (paramsToPrepare_eq_ok hparams).1 with hstate | hstate
      all_goals cases hstate.symm.trans hrunning
    exact hattended.between (forall_open hopen hdetached)
      (forall_open rfl SubstreamState.noConfusion) hstarted hslots
  | started _ pcm _ hopen hstate =>
    obtain ⟨_, -, hruns⟩ := (hserved _ hopen).2 (Or.inl hstate)
    exact hattended.trigger (.pcm { pcm with state := .running }) hopen rfl fun _ => hruns.running
  | stopped _ pcm _ hopen =>
    have hdetached : ¬ (Substream.pcm { pcm with state := pcm.state.afterStop }).IsAttached :=
      pcm.state.afterStop_ne_running
    have hstopped := hattended.trigger (.pcm { pcm with state := pcm.state.afterStop }) hopen rfl
      fun hattached => absurd hattached hdetached
    rw [if_neg hdetached] at hstopped
    exact hstopped
  | triggeredMidi up midi hopen =>
    obtain ⟨_, hruns⟩ := hserved _ hopen
    exact hattended.trigger (.midi { midi with triggered := up }) hopen rfl fun _ => hruns.running
  | closed substream hopen
  | dropped substream hopen => exact hattended.close hbalanced.attached hopen
  | clockChanged => exact hattended.frame (horderly.frame rfl rfl rfl rfl) rfl fun _ => rfl
  | turnedAway | formatsFailing | formatsReplaced | formatsQueried =>
    exact hattended.frame horderly rfl fun _ => rfl
  | lifecycleAsked action => exact hattended.lifecycle_step hbalanced hpermits
  | transportAsked action =>
    cases action with
    | failNext reason => exact hattended.frame (horderly.frame rfl rfl rfl rfl) rfl fun _ => rfl
    | _ => exact hpermits.elim
  | detached => exact hpermits.elim
  | idle => exact hattended

theorem attended_of_reachable (hreachable : Reachable UInt32.size device ledger) :
    device.Attended := by
  induction hreachable with
  | attach name formats clock drivesClock => exact attended_attach name formats clock drivesClock
  | step request hreachable hpermits _ ih =>
    exact ih.of_transition (served_of_reachable hreachable) (balanced_of_reachable hreachable)
      hpermits (step_transition _ request)

theorem heldAt_eq_some_iff {slot : Slot} {id : SubstreamId} :
    device.heldAt slot = some id ↔ ∃ substream, device.substream = some substream ∧
      substream.id = id ∧ substream.slot = slot ∧ substream.IsAttached := by
  rw [heldAt, Option.bind_eq_some_iff]
  refine exists_congr fun substream => and_congr_right fun _ => ?_
  rw [Substream.heldAt, Option.ite_none_right_eq_some, Option.some.injEq]
  constructor
  · rintro ⟨⟨hattached, hslot⟩, hid⟩
    exact ⟨hid, hslot.symm, hattached⟩
  · rintro ⟨hid, hslot, hattached⟩
    exact ⟨⟨hattached, hslot.symm⟩, hid⟩

theorem heldAt_pcm_iff {direction : Direction} {id : SubstreamId} :
    device.heldAt (.pcm direction) = some id ↔ ∃ pcm, device.substream = some (.pcm pcm) ∧
      pcm.id = id ∧ pcm.direction = direction ∧ pcm.state = .running := by
  rw [heldAt_eq_some_iff]
  constructor
  · rintro ⟨pcm | midi, hopen, hid, hslot, hrunning⟩
    · exact ⟨pcm, hopen, hid, Slot.pcm.inj hslot, hrunning⟩
    · cases hslot
  · rintro ⟨pcm, hopen, hid, hdirection, hrunning⟩
    exact ⟨.pcm pcm, hopen, hid, congrArg Slot.pcm hdirection, hrunning⟩

theorem heldAt_midi_iff {direction : Direction} {port : UInt8} {id : SubstreamId} :
    device.heldAt (.midi direction port) = some id ↔ ∃ midi, device.substream = some (.midi midi) ∧
      midi.id = id ∧ midi.direction = direction ∧ midi.port = port ∧ midi.triggered = true := by
  rw [heldAt_eq_some_iff]
  constructor
  · rintro ⟨pcm | midi, hopen, hid, hslot, htriggered⟩
    · cases hslot
    · obtain ⟨hdirection, hport⟩ := Slot.midi.inj hslot
      exact ⟨midi, hopen, hid, hdirection, hport, htriggered⟩
  · rintro ⟨midi, hopen, hid, rfl, rfl, htriggered⟩
    exact ⟨.midi midi, hopen, hid, rfl, htriggered⟩

/-- **Attachments follow the open substream.** In every state of an orderly run with fewer than
`2 ^ 32` additions outstanding, the lifecycle and the transport agree on what every slot holds: the
running PCM substream in its direction, the triggered MIDI substream on its port, and nothing else.
Whatever the journal attaches, it attaches while the pair is up and detaches before the pair goes
down. -/
theorem attachments_followed (hreachable : Reachable UInt32.size device ledger) :
    device.lifecycle.Agrees ∧
    (∀ direction id, device.lifecycle.slots.pcm.get direction = some id ↔
      ∃ pcm, device.substream = some (.pcm pcm) ∧ pcm.id = id ∧ pcm.direction = direction ∧
        pcm.state = .running) ∧
    (∀ direction port id, device.lifecycle.slots.midi? direction port = some id ↔
      ∃ midi, device.substream = some (.midi midi) ∧ midi.id = id ∧ midi.direction = direction ∧
        midi.port = port ∧ midi.triggered = true) ∧
    Journal.Bracketed device.transport.events := by
  obtain ⟨horderly, hholders⟩ := attended_of_reachable hreachable
  refine ⟨horderly.agrees, fun direction id => ?_, fun direction port id => ?_, horderly.bracketed⟩
  · rw [← heldAt_pcm_iff, ← hholders]
    rfl
  · rw [← heldAt_midi_iff, ← hholders]
    rfl

def closedSession : List Request := sharedSession ++ [.close, .lifecycle .leave]

theorem reachable_closedSession :
    Reachable UInt32.size (stereo.run closedSession)
      { opened := 1, closed := 1, joined := 2, left := 2 } := by
  have hshared := reachable_sharedSession (show 2 < UInt32.size by decide)
  have hclosed := hshared.step .close trivial
  rw [show ((stereo.run sharedSession).step .close).1 = .done by decide +kernel] at hclosed
  have hleft := (hclosed (by decide +kernel)).step (.lifecycle .leave) (show 0 < 1 by decide)
  rw [show (((stereo.run sharedSession).step .close).2.step (.lifecycle .leave)).1 =
    .lifecycle (.flag true) by decide +kernel] at hleft
  exact hleft (by decide +kernel)

/-- The capture substream is attached while it runs, and detached before the pair is stopped. -/
theorem attachments_followed_closedSession :
    Reachable UInt32.size (stereo.run sharedSession) { opened := 1, joined := 2, left := 1 } ∧
      (stereo.run sharedSession).lifecycle.slots.pcm.get .capture = some ⟨1⟩ ∧
      (stereo.run closedSession).transport.events =
        [.started 48000, .pcmAttached .capture (some ⟨1⟩), .pcmAttached .capture none, .stopped] ∧
      Journal.Bracketed (stereo.run closedSession).transport.events := by
  have hshared := reachable_sharedSession (show 2 < UInt32.size by decide)
  obtain ⟨-, hcapture, -⟩ := attachments_followed hshared
  have hattached := (hcapture .capture ⟨1⟩).2
    ⟨sharedCapture, substream_sharedSession, rfl, rfl, rfl⟩
  obtain ⟨-, -, -, hbracketed⟩ := attachments_followed reachable_closedSession
  exact ⟨hshared, hattached, by decide +kernel, hbracketed⟩

/-- The pair that the crowd has left is stopped with the capture substream on its slot, which only
the lifecycle still holds and nothing in the journal detaches. -/
theorem attachments_part_deserted :
    Reachable (UInt32.size + 1) deserted { opened := 1, joined := UInt32.size, left := 2 } ∧
      deserted.lifecycle.slots.holder (.pcm .capture) = some ⟨1⟩ ∧
      deserted.transport.attachments.holder (.pcm .capture) = none ∧
      ¬ Journal.Bracketed deserted.transport.events ∧
      ¬ ∀ limit device ledger, Reachable limit device ledger → device.lifecycle.Agrees := by
  have hown : deserted.lifecycle.slots.holder (.pcm .capture) = some ⟨1⟩ := by decide +kernel
  have htransport : deserted.transport.attachments.holder (.pcm .capture) = none := by
    decide +kernel
  have hevents : deserted.transport.events =
      [.started 48000, .pcmAttached .capture (some ⟨1⟩), .stopped] := by decide +kernel
  refine ⟨reachable_deserted, hown, htransport, fun hbracketed => ?_, fun hagree => ?_⟩
  · obtain ⟨earlier, later, hnothing, -⟩ :=
      hbracketed.detached [.started 48000] (.pcm .capture) ⟨1⟩ [] [] hevents
    simp at hnothing
  · have hsame := hagree _ _ _ reachable_deserted (.pcm .capture)
    cases hown.symm.trans (hsame.trans htransport)

end Device
end DuplexAudio
