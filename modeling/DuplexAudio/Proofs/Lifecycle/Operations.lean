import DuplexAudio.Lifecycle
import DuplexAudio.Proofs.Transport.Slots

/-!
What each operation of the lifecycle can do. Starting and stopping the pair have one successful
outcome each; joining and leaving are those outcomes with the count moved. The count is a word, so
an addition may wrap it around to zero. Triggers of both kinds are one operation on a slot.
-/

namespace DuplexAudio.Lifecycle

variable (lifecycle : Lifecycle) (rate : UInt32)

/-! ### The count -/

theorem count_addSubstream : (lifecycle.addSubstream.state.activeSubstreams : Nat) =
    (lifecycle.state.activeSubstreams + 1) % UInt32.size :=
  UInt32.toNat_add _ _

theorem count_removeSubstream : (lifecycle.removeSubstream.state.activeSubstreams : Nat) =
    lifecycle.state.activeSubstreams - 1 := by
  by_cases hunused : lifecycle.state.activeSubstreams = 0
  · have hremoved : lifecycle.removeSubstream.state.activeSubstreams = 0 := if_pos hunused
    rw [hremoved, hunused]
    rfl
  · have hremoved : lifecycle.removeSubstream.state.activeSubstreams =
        lifecycle.state.activeSubstreams - 1 := if_neg hunused
    rw [hremoved]
    refine UInt32.toNat_sub_of_le _ _ (UInt32.le_iff_toNat_le.2 ?_)
    exact UInt32.lt_iff_toNat_lt.1 (UInt32.pos_iff_ne_zero.2 hunused)

/-- A removal undoes an addition that did not wrap the count around. -/
theorem removeSubstream_addSubstream (hused : 0 < lifecycle.addSubstream.state.activeSubstreams) :
    lifecycle.addSubstream.removeSubstream = lifecycle := by
  have hcount : lifecycle.addSubstream.removeSubstream.state.activeSubstreams =
      lifecycle.state.activeSubstreams :=
    (if_neg (UInt32.pos_iff_ne_zero.1 hused)).trans (UInt32.add_sub_cancel _ 1)
  exact congrArg (fun count => { lifecycle with state.activeSubstreams := count }) hcount

/-! ### Starting and stopping -/

/-- The lifecycle after the transport refused to start: the injected failure is used up. -/
def afterRefusal : Lifecycle :=
  lifecycle.mapTransport fun transport =>
    { transport with failNext := none }.publish (.startFailed rate)

/-- The lifecycle after the transport came up at `rate`. -/
def afterStart : Lifecycle where
  state := { lifecycle.state with running := true, committedRate := some rate }
  slots := lifecycle.slots
  hardware :=
    { lifecycle.hardware with
      transport := { lifecycle.transport with
        rate := some rate
        starts := lifecycle.transport.starts + 1 }.publish (.started rate)
      clock :=
        if lifecycle.hardware.drivesClock then { lifecycle.hardware.clock with rate }
        else lifecycle.hardware.clock }

/-- The lifecycle after the transport was torn down. -/
def afterStop : Lifecycle :=
  { lifecycle.mapTransport .stop with
    state := { lifecycle.state with running := false, committedRate := none } }

theorem ensureStarted_of_unused (hunused : lifecycle.state.activeSubstreams = 0) :
    lifecycle.ensureStarted rate = (.ok .noSubstreams, lifecycle) := by
  rw [ensureStarted, if_pos hunused]

theorem ensureStarted_of_running (hused : 0 < lifecycle.state.activeSubstreams)
    (hrunning : lifecycle.state.running = true) :
    lifecycle.ensureStarted rate =
      (.ok (.alreadyRunning (lifecycle.state.committedRate.getD rate)), lifecycle) := by
  rw [ensureStarted, if_neg (UInt32.pos_iff_ne_zero.1 hused), if_pos hrunning]

theorem ensureStarted_of_failNext {reason : String} (hused : 0 < lifecycle.state.activeSubstreams)
    (hidle : lifecycle.state.running = false) (hfail : lifecycle.transport.failNext = some reason) :
    lifecycle.ensureStarted rate =
      (.error (.startFailed rate reason), lifecycle.afterRefusal rate) := by
  have hstart : lifecycle.hardware.transport.start rate =
      (.error (.startFailed rate reason),
        { lifecycle.hardware.transport with failNext := none }.publish (.startFailed rate)) := by
    rw [Transport.start, show lifecycle.hardware.transport.failNext = some reason from hfail]
  rw [ensureStarted, if_neg (UInt32.pos_iff_ne_zero.1 hused), if_neg (by simp [hidle]),
    Hardware.start, hstart]
  rfl

theorem ensureStarted_of_ready (hused : 0 < lifecycle.state.activeSubstreams)
    (hidle : lifecycle.state.running = false) (hready : lifecycle.transport.failNext = none) :
    lifecycle.ensureStarted rate = (.ok (.started rate), lifecycle.afterStart rate) := by
  have hstart : lifecycle.hardware.transport.start rate =
      (.ok (),
        { lifecycle.hardware.transport with
          rate := some rate
          starts := lifecycle.hardware.transport.starts + 1 }.publish (.started rate)) := by
    have hnone : lifecycle.hardware.transport.failNext = none := hready
    unfold Transport.start
    split
    · rename_i reason hsome
      exact absurd (hnone.symm.trans hsome) (by simp)
    · rfl
  rw [ensureStarted, if_neg (UInt32.pos_iff_ne_zero.1 hused), if_neg (by simp [hidle]),
    Hardware.start, hstart]
  rfl

/-- All that making sure the pair runs can do. -/
theorem ensureStarted_cases :
    (lifecycle.state.activeSubstreams = 0 ∧
      lifecycle.ensureStarted rate = (.ok .noSubstreams, lifecycle)) ∨
    (0 < lifecycle.state.activeSubstreams ∧ lifecycle.state.running = true ∧
      lifecycle.ensureStarted rate =
        (.ok (.alreadyRunning (lifecycle.state.committedRate.getD rate)), lifecycle)) ∨
    (0 < lifecycle.state.activeSubstreams ∧ lifecycle.state.running = false ∧
      ∃ reason, lifecycle.transport.failNext = some reason ∧
        lifecycle.ensureStarted rate =
          (.error (.startFailed rate reason), lifecycle.afterRefusal rate)) ∨
    (0 < lifecycle.state.activeSubstreams ∧ lifecycle.state.running = false ∧
      lifecycle.transport.failNext = none ∧
        lifecycle.ensureStarted rate = (.ok (.started rate), lifecycle.afterStart rate)) := by
  by_cases hunused : lifecycle.state.activeSubstreams = 0
  · exact Or.inl ⟨hunused, lifecycle.ensureStarted_of_unused rate hunused⟩
  · right
    have hused := UInt32.pos_iff_ne_zero.2 hunused
    cases hrunning : lifecycle.state.running with
    | true => exact Or.inl ⟨hused, rfl, lifecycle.ensureStarted_of_running rate hused hrunning⟩
    | false =>
      right
      cases hfail : lifecycle.transport.failNext with
      | some reason =>
        exact Or.inl ⟨hused, rfl, reason, rfl,
          lifecycle.ensureStarted_of_failNext rate hused hrunning hfail⟩
      | none =>
        exact Or.inr ⟨hused, rfl, rfl,
          lifecycle.ensureStarted_of_ready rate hused hrunning hfail⟩

theorem eq_of_ensureStarted_eq_alreadyRunning {lifecycle next : Lifecycle} {rate running : UInt32}
    (hstart : lifecycle.ensureStarted rate = (.ok (.alreadyRunning running), next)) :
    next = lifecycle := by
  rcases lifecycle.ensureStarted_cases rate with
    ⟨-, hcase⟩ | ⟨-, -, hcase⟩ | ⟨-, -, _, -, hcase⟩ | ⟨-, -, -, hcase⟩
  · cases hcase.symm.trans hstart
  · exact (Prod.mk.inj (hcase.symm.trans hstart)).2.symm
  · cases hcase.symm.trans hstart
  · cases hcase.symm.trans hstart

theorem ensureStopped_cases :
    ((0 < lifecycle.state.activeSubstreams ∨ lifecycle.state.running = false) ∧
      lifecycle.ensureStopped = (false, lifecycle)) ∨
    (lifecycle.state.activeSubstreams = 0 ∧ lifecycle.state.running = true ∧
      lifecycle.ensureStopped = (true, lifecycle.afterStop)) := by
  by_cases hkeep : 0 < lifecycle.state.activeSubstreams ∨ lifecycle.state.running = false
  · refine Or.inl ⟨hkeep, ?_⟩
    rw [ensureStopped, if_pos (by simpa using hkeep)]
  · obtain ⟨hunused, hrunning⟩ := not_or.1 hkeep
    refine Or.inr ⟨?_, ?_, ?_⟩
    · rwa [UInt32.pos_iff_ne_zero, Decidable.not_not] at hunused
    · rwa [Bool.not_eq_false] at hrunning
    · rw [ensureStopped, if_neg (by simpa using hkeep)]
      rfl

/-! ### Joining and leaving -/

/-- All that joining can do; a refused join is not counted. A join that wraps the count around finds
nobody to start the pair for. -/
theorem join_cases :
    (lifecycle.addSubstream.state.activeSubstreams = 0 ∧
      lifecycle.join rate = (.ok .noSubstreams, lifecycle.addSubstream)) ∨
    (0 < lifecycle.addSubstream.state.activeSubstreams ∧ lifecycle.state.running = true ∧
      lifecycle.join rate =
        (.ok (.alreadyRunning (lifecycle.state.committedRate.getD rate)),
          lifecycle.addSubstream)) ∨
    (0 < lifecycle.addSubstream.state.activeSubstreams ∧ lifecycle.state.running = false ∧
      ∃ reason, lifecycle.transport.failNext = some reason ∧
        lifecycle.join rate = (.error (.startFailed rate reason), lifecycle.afterRefusal rate)) ∨
    (0 < lifecycle.addSubstream.state.activeSubstreams ∧ lifecycle.state.running = false ∧
      lifecycle.transport.failNext = none ∧
        lifecycle.join rate = (.ok (.started rate), lifecycle.addSubstream.afterStart rate)) := by
  rcases lifecycle.addSubstream.ensureStarted_cases rate with
    ⟨hunused, hstarted⟩ | ⟨hused, hrunning, hstarted⟩ | ⟨hused, hidle, reason, hfail, hstarted⟩ |
    ⟨hused, hidle, hready, hstarted⟩
  · exact Or.inl ⟨hunused, by rw [join, hstarted]⟩
  · exact Or.inr (Or.inl ⟨hused, hrunning, by rw [join, hstarted]; rfl⟩)
  · refine Or.inr (Or.inr (Or.inl ⟨hused, hidle, reason, hfail, ?_⟩))
    have hundone := lifecycle.removeSubstream_addSubstream hused
    rw [join, hstarted]
    exact congrArg (fun undone => (_, undone.afterRefusal rate)) hundone
  · exact Or.inr (Or.inr (Or.inr ⟨hused, hidle, hready, by rw [join, hstarted]⟩))

/-- What joining leaves behind, whatever it answers. -/
theorem joined_cases :
    (lifecycle.join rate).2 = lifecycle.addSubstream ∨
    (0 < lifecycle.addSubstream.state.activeSubstreams ∧ lifecycle.state.running = false ∧
      (lifecycle.join rate).2 = lifecycle.afterRefusal rate) ∨
    (0 < lifecycle.addSubstream.state.activeSubstreams ∧ lifecycle.state.running = false ∧
      (lifecycle.join rate).2 = lifecycle.addSubstream.afterStart rate) := by
  rcases lifecycle.join_cases rate with
    ⟨-, hcase⟩ | ⟨-, -, hcase⟩ | ⟨hused, hidle, _, -, hcase⟩ | ⟨hused, hidle, -, hcase⟩
  · exact Or.inl (congrArg Prod.snd hcase)
  · exact Or.inl (congrArg Prod.snd hcase)
  · exact Or.inr (Or.inl ⟨hused, hidle, congrArg Prod.snd hcase⟩)
  · exact Or.inr (Or.inr ⟨hused, hidle, congrArg Prod.snd hcase⟩)

section Joined

variable {lifecycle joined : Lifecycle} {rate : UInt32}

/-- A join that succeeds is counted. It starts the pair unless the pair runs already, or the count
was wrapped around. -/
theorem join_eq_ok {outcome : StartOutcome}
    (hjoined : lifecycle.join rate = (.ok outcome, joined)) :
    ((lifecycle.addSubstream.state.activeSubstreams = 0 ∨ lifecycle.state.running = true) ∧
      joined = lifecycle.addSubstream) ∨ joined = lifecycle.addSubstream.afterStart rate := by
  rcases lifecycle.join_cases rate with
    ⟨hunused, hcase⟩ | ⟨-, hrunning, hcase⟩ | ⟨-, -, _, -, hcase⟩ | ⟨-, -, -, hcase⟩
  · exact Or.inl ⟨Or.inl hunused, (Prod.mk.inj (hjoined.symm.trans hcase)).2⟩
  · exact Or.inl ⟨Or.inr hrunning, (Prod.mk.inj (hjoined.symm.trans hcase)).2⟩
  · cases hjoined.symm.trans hcase
  · exact Or.inr (Prod.mk.inj (hjoined.symm.trans hcase)).2

/-- A join fails only with a refusal of the transport. -/
theorem join_eq_error {fault : StreamFault}
    (hjoined : lifecycle.join rate = (.error fault, joined)) :
    ∃ reason, lifecycle.transport.failNext = some reason ∧ fault = .startFailed rate reason ∧
      joined = lifecycle.afterRefusal rate := by
  rcases lifecycle.join_cases rate with
    ⟨-, hcase⟩ | ⟨-, -, hcase⟩ | ⟨-, -, reason, hfail, hcase⟩ | ⟨-, -, -, hcase⟩
  · cases hjoined.symm.trans hcase
  · cases hjoined.symm.trans hcase
  · obtain ⟨hcause, hrest⟩ := Prod.mk.inj (hjoined.symm.trans hcase)
    exact ⟨reason, hfail, Except.error.inj hcause, hrest⟩
  · cases hjoined.symm.trans hcase

end Joined

theorem leave_cases :
    ((1 < (lifecycle.state.activeSubstreams : Nat) ∨ lifecycle.state.running = false) ∧
      lifecycle.leave = (false, lifecycle.removeSubstream)) ∨
    ((lifecycle.state.activeSubstreams : Nat) ≤ 1 ∧ lifecycle.state.running = true ∧
      lifecycle.leave = (true, lifecycle.removeSubstream.afterStop)) := by
  have hcount := lifecycle.count_removeSubstream
  rcases lifecycle.removeSubstream.ensureStopped_cases with ⟨hkeep, hstopped⟩ |
    ⟨hlast, hrunning, hstopped⟩
  · refine Or.inl ⟨hkeep.imp (fun hused => ?_) id, hstopped⟩
    have hpos := UInt32.lt_iff_toNat_lt.1 hused
    rw [hcount] at hpos
    exact Nat.lt_of_sub_pos hpos
  · refine Or.inr ⟨?_, hrunning, hstopped⟩
    rw [hlast] at hcount
    exact Nat.sub_eq_zero_iff_le.1 hcount.symm

/-! ### Triggers -/

/-- Attaches a substream to a slot, or detaches whatever it holds. -/
def trigger (slot : Slot) (substream : Option SubstreamId) : Lifecycle :=
  match slot with
  | .pcm direction => lifecycle.triggerPcm direction substream
  | .midi direction port => lifecycle.triggerMidi direction port substream

section Trigger

variable (slot : Slot) (substream : Option SubstreamId)

@[simp] theorem state_trigger : (lifecycle.trigger slot substream).state = lifecycle.state := by
  cases slot <;> rfl

@[simp] theorem rate_trigger :
    (lifecycle.trigger slot substream).transport.rate = lifecycle.transport.rate := by
  cases slot <;> rfl

@[simp] theorem stops_trigger :
    (lifecycle.trigger slot substream).transport.stops = lifecycle.transport.stops := by
  cases slot <;> rfl

@[simp] theorem slots_trigger :
    (lifecycle.trigger slot substream).slots = lifecycle.slots.attach slot substream := by
  cases slot <;> rfl

@[simp] theorem attachments_trigger :
    (lifecycle.trigger slot substream).transport.attachments =
      lifecycle.transport.attachments.attach slot substream := by
  cases slot <;> rfl

@[simp] theorem events_trigger :
    (lifecycle.trigger slot substream).transport.events =
      lifecycle.transport.events ++ [slot.event substream] := by
  cases slot <;> rfl

end Trigger

/-! ### Moves -/

/-- A lifecycle on a fresh transport. -/
def attached (clock : Clock) (drivesClock : Bool) : Lifecycle where
  hardware := { clock, drivesClock }

/-- What a run consists of: requests to the lifecycle and injected failures of the next start. -/
inductive Move
  | ask (action : Action)
  | failNext (reason : String)
  deriving DecidableEq, Repr

def perform : Move → Lifecycle
  | .ask action => (lifecycle.step action).2
  | .failNext reason => (lifecycle.stepTransport (.failNext reason)).2

/-- The lifecycle after a sequence of moves. -/
def after (moves : List Move) : Lifecycle := moves.foldl perform lifecycle

theorem after_cons (move : Move) (moves : List Move) :
    lifecycle.after (move :: moves) = (lifecycle.perform move).after moves :=
  rfl

theorem after_append_singleton (moves : List Move) (move : Move) :
    lifecycle.after (moves ++ [move]) = (lifecycle.after moves).perform move :=
  List.foldl_append

end DuplexAudio.Lifecycle
