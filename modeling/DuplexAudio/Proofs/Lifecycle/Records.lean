import DuplexAudio.Proofs.Lifecycle.Operations
import Mathlib.Data.List.Induction

/-!
Two records of what is attached, the lifecycle's own and the one of the transport. Triggers write
both, but a stop wipes the one of the transport alone. So they agree all along a run exactly if the
pair is never stopped while a slot is taken.
-/

namespace DuplexAudio.Lifecycle

variable {lifecycle : Lifecycle} {move : Move}

/-- Every slot holds the same in both records. -/
def Agrees (lifecycle : Lifecycle) : Prop :=
  ∀ slot, lifecycle.slots.holder slot = lifecycle.transport.attachments.holder slot

/-! ### One move -/

/-- Neither record was written, and the transport was not stopped. -/
structure Unrecorded (before after : Lifecycle) : Prop where
  slots : after.slots = before.slots
  attachments : after.transport.attachments = before.transport.attachments
  stops : after.transport.stops = before.transport.stops

/-- The transport was stopped, which wiped its record and left the own one alone. -/
structure Wiped (before after : Lifecycle) : Prop where
  slots : after.slots = before.slots
  attachments : after.transport.attachments = {}
  stops : after.transport.stops = before.transport.stops + 1

theorem ensureStarted_unrecorded (lifecycle : Lifecycle) (rate : UInt32) :
    Unrecorded lifecycle (lifecycle.ensureStarted rate).2 := by
  rcases lifecycle.ensureStarted_cases rate with
    ⟨-, hcase⟩ | ⟨-, -, hcase⟩ | ⟨-, -, _, -, hcase⟩ | ⟨-, -, -, hcase⟩
  all_goals
    rw [hcase]
    exact ⟨rfl, rfl, rfl⟩

theorem join_unrecorded (lifecycle : Lifecycle) (rate : UInt32) :
    Unrecorded lifecycle (lifecycle.join rate).2 := by
  rcases lifecycle.joined_cases rate with hcase | ⟨-, -, hcase⟩ | ⟨-, -, hcase⟩
  all_goals
    rw [hcase]
    exact ⟨rfl, rfl, rfl⟩

theorem ensureStopped_records (lifecycle : Lifecycle) :
    Unrecorded lifecycle lifecycle.ensureStopped.2 ∨ Wiped lifecycle lifecycle.ensureStopped.2 := by
  rcases lifecycle.ensureStopped_cases with ⟨-, hcase⟩ | ⟨-, -, hcase⟩
  · rw [hcase]
    exact Or.inl ⟨rfl, rfl, rfl⟩
  · rw [hcase]
    exact Or.inr ⟨rfl, rfl, rfl⟩

theorem leave_records (lifecycle : Lifecycle) :
    Unrecorded lifecycle lifecycle.leave.2 ∨ Wiped lifecycle lifecycle.leave.2 := by
  rcases lifecycle.leave_cases with ⟨-, hcase⟩ | ⟨-, -, hcase⟩
  · rw [hcase]
    exact Or.inl ⟨rfl, rfl, rfl⟩
  · rw [hcase]
    exact Or.inr ⟨rfl, rfl, rfl⟩

theorem slots_ensureStopped (lifecycle : Lifecycle) :
    lifecycle.ensureStopped.2.slots = lifecycle.slots :=
  lifecycle.ensureStopped_records.elim (·.slots) (·.slots)

theorem slots_leave (lifecycle : Lifecycle) : lifecycle.leave.2.slots = lifecycle.slots :=
  lifecycle.leave_records.elim (·.slots) (·.slots)

/-- All that a move can do to the records. -/
theorem perform_records (lifecycle : Lifecycle) (move : Move) :
    Unrecorded lifecycle (lifecycle.perform move) ∨ Wiped lifecycle (lifecycle.perform move) ∨
      ∃ slot substream, lifecycle.perform move = lifecycle.trigger slot substream := by
  cases move with
  | failNext reason => exact Or.inl ⟨rfl, rfl, rfl⟩
  | ask action =>
    cases action with
    | add => exact Or.inl ⟨rfl, rfl, rfl⟩
    | remove => exact Or.inl ⟨rfl, rfl, rfl⟩
    | start rate => exact Or.inl (lifecycle.ensureStarted_unrecorded rate)
    | stop => exact lifecycle.ensureStopped_records.imp_right Or.inl
    | join rate => exact Or.inl (lifecycle.join_unrecorded rate)
    | leave => exact lifecycle.leave_records.imp_right Or.inl
    | triggerPcm direction substream => exact Or.inr (Or.inr ⟨.pcm direction, substream, rfl⟩)
    | triggerMidi direction port substream =>
      exact Or.inr (Or.inr ⟨.midi direction port, substream, rfl⟩)
    | isRunning => exact Or.inl ⟨rfl, rfl, rfl⟩

theorem agrees_attached (clock : Clock) (drivesClock : Bool) :
    (attached clock drivesClock).Agrees :=
  fun _ => rfl

theorem Agrees.trigger (hagrees : lifecycle.Agrees) (slot : Slot) (substream : Option SubstreamId) :
    (lifecycle.trigger slot substream).Agrees := by
  intro other
  rw [slots_trigger, attachments_trigger, Attachments.holder_attach, Attachments.holder_attach,
    hagrees other]

/-- Unless it stops the pair, a move keeps the records in agreement. -/
theorem Agrees.perform (hagrees : lifecycle.Agrees)
    (hstops : ¬ lifecycle.transport.stops < (lifecycle.perform move).transport.stops) :
    (lifecycle.perform move).Agrees := by
  rcases lifecycle.perform_records move with hsame | hwiped | ⟨slot, substream, htrigger⟩
  · intro slot
    rw [hsame.slots, hsame.attachments]
    exact hagrees slot
  · rw [hwiped.stops] at hstops
    exact absurd (Nat.lt_succ_self _) hstops
  · rw [htrigger]
    exact hagrees.trigger slot substream

/-- After a stop the records agree only if there was nothing to wipe. -/
theorem agrees_perform_iff
    (hstops : lifecycle.transport.stops < (lifecycle.perform move).transport.stops) :
    (lifecycle.perform move).Agrees ↔ lifecycle.slots.Vacant := by
  rcases lifecycle.perform_records move with hsame | hwiped | ⟨slot, substream, htrigger⟩
  · rw [hsame.stops] at hstops
    exact absurd hstops (Nat.lt_irrefl _)
  · unfold Agrees Attachments.Vacant
    rw [hwiped.slots, hwiped.attachments]
    exact forall_congr' fun slot => by rw [Attachments.vacant_empty slot]
  · rw [htrigger, stops_trigger] at hstops
    exact absurd hstops (Nat.lt_irrefl _)

/-! ### Runs -/

/-- The records agree after every move of a run exactly if every move that stops the pair finds no
slot taken. -/
theorem records_agree_throughout_iff (clock : Clock) (drivesClock : Bool) (moves : List Move) :
    (∀ done, done <+: moves → ((attached clock drivesClock).after done).Agrees) ↔
      ∀ done move, done ++ [move] <+: moves →
        ((attached clock drivesClock).after done).transport.stops <
          ((attached clock drivesClock).after (done ++ [move])).transport.stops →
        ((attached clock drivesClock).after done).slots.Vacant := by
  constructor
  · intro hagree done move hstarts hstops
    have hafter := hagree (done ++ [move]) hstarts
    rw [after_append_singleton] at hstops hafter
    exact (agrees_perform_iff hstops).1 hafter
  · intro hvacant done
    induction done using List.reverseRecOn with
    | nil => exact fun _ => agrees_attached clock drivesClock
    | append_singleton done move ih =>
      intro hstarts
      have hagrees := ih ((List.prefix_append done [move]).trans hstarts)
      have hfree := hvacant done move hstarts
      rw [after_append_singleton] at hfree ⊢
      by_cases hstops : ((attached clock drivesClock).after done).transport.stops <
          (((attached clock drivesClock).after done).perform move).transport.stops
      · exact (agrees_perform_iff hstops).2 (hfree hstops)
      · exact hagrees.perform hstops

/-- A substream is attached to a pair that was joined once, and never detached before the leave. -/
def leftAttached : List Move :=
  [.ask (.join 48000), .ask (.triggerPcm .capture (some ⟨7⟩)), .ask .leave]

/-- The stop goes past the lifecycle's own record, which keeps what the transport has dropped. -/
theorem records_differ_after_stop :
    ((attached {} false).after leftAttached).slots.holder (.pcm .capture) = some ⟨7⟩ ∧
      ((attached {} false).after leftAttached).transport.attachments.holder (.pcm .capture) = none ∧
      ¬ ∀ moves, ((attached {} false).after moves).Agrees := by
  have hown :
      ((attached {} false).after leftAttached).slots.holder (.pcm .capture) = some ⟨7⟩ := rfl
  have htransport : ((attached {} false).after leftAttached).transport.attachments.holder
      (.pcm .capture) = none := rfl
  refine ⟨hown, htransport, fun hagree => ?_⟩
  have hsame := hagree leftAttached (.pcm .capture)
  rw [hown, htransport] at hsame
  cases hsame

end DuplexAudio.Lifecycle
