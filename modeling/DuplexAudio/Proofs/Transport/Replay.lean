import DuplexAudio.Lifecycle
import DuplexAudio.Proofs.Transport.Journal
import Mathlib.Logic.Function.Basic

/-!
The journal as the history of the transport. Every request changes the state and publishes the event
that says so, hence replaying all events from the empty state yields the state, whenever and however
often events were taken in between.
-/

namespace DuplexAudio

/-! ### What a journal tells -/

/-- The rate a transport runs at and what each of its slots holds. -/
structure Account where
  rate : Option UInt32 := none
  holder : Slot → Option SubstreamId := fun _ => none

namespace Account

/-- A start sets the rate, a stop clears everything, an attachment sets or clears its slot, and a
failed start tells nothing. -/
def apply (account : Account) : TransportEvent → Account
  | .started rate => { account with rate := some rate }
  | .startFailed _ => account
  | .stopped => {}
  | .pcmAttached direction substream =>
    { account with holder := Function.update account.holder (.pcm direction) substream }
  | .midiAttached direction port substream =>
    { account with holder := Function.update account.holder (.midi direction port) substream }

def ofEvents (events : List TransportEvent) : Account := events.foldl apply {}

theorem ofEvents_append_singleton (events : List TransportEvent) (event : TransportEvent) :
    ofEvents (events ++ [event]) = (ofEvents events).apply event := by
  rw [ofEvents, List.foldl_append]
  rfl

end Account

def Transport.account (transport : Transport) : Account :=
  ⟨transport.rate, transport.attachments.holder⟩

def Transport.replayed (transport : Transport) : Replayed :=
  ⟨transport.rate, transport.attachments⟩

theorem Replayed.ofEvents_append_singleton (events : List TransportEvent)
    (event : TransportEvent) : ofEvents (events ++ [event]) = (ofEvents events).apply event := by
  rw [ofEvents, List.foldl_append]
  rfl

namespace Attachments

theorem holder_attach_eq_update (attachments : Attachments) (slot : Slot)
    (substream : Option SubstreamId) :
    (attachments.attach slot substream).holder =
      Function.update attachments.holder slot substream := by
  funext other
  rw [holder_attach, Function.update_apply]

theorem holder_empty : ({} : Attachments).holder = fun _ => none := by
  funext slot
  exact vacant_empty slot

end Attachments

/-! ### Recordings -/

/-- A lifecycle whose transport is driven directly, with the events that were taken so far. -/
structure Recording where
  lifecycle : Lifecycle := {}
  taken : List TransportEvent := []

namespace Recording

inductive Action
  | request (action : Lifecycle.TransportAction)
  | takeEvents
  deriving DecidableEq, Repr

def transport (recording : Recording) : Transport := recording.lifecycle.transport

/-- All events since the beginning, whether they were taken or are still pending. -/
def journal (recording : Recording) : List TransportEvent :=
  recording.taken ++ recording.transport.events

def step (recording : Recording) : Action → Recording
  | .request action =>
    { recording with lifecycle := (recording.lifecycle.stepTransport action).2 }
  | .takeEvents =>
    { lifecycle := recording.lifecycle.mapTransport (·.takeEvents.2)
      taken := recording.taken ++ recording.transport.takeEvents.1 }

/-- What becomes of fresh hardware, whether or not it drives its clock. -/
def after (clock : Clock) (drivesClock : Bool) (actions : List Action) : Recording :=
  actions.foldl step { lifecycle := { hardware := { clock, drivesClock } } }

theorem after_append_singleton (clock : Clock) (drivesClock : Bool) (actions : List Action)
    (action : Action) :
    after clock drivesClock (actions ++ [action]) =
      (after clock drivesClock actions).step action := by
  rw [after, List.foldl_append]
  rfl

/-- The journal tells the state of the transport and counts its starts and stops. -/
structure Faithful (recording : Recording) : Prop where
  replayed : Replayed.ofEvents recording.journal = recording.transport.replayed
  account : Account.ofEvents recording.journal = recording.transport.account
  starts : (recording.journal.filterMap (·.startedAt?)).length = recording.transport.starts
  stops : recording.journal.count .stopped = recording.transport.stops

variable {recording next : Recording} {event : TransportEvent}

theorem faithful_fresh (clock : Clock) (drivesClock : Bool) :
    (after clock drivesClock []).Faithful where
  replayed := rfl
  account := congrArg (Account.mk none) Attachments.holder_empty.symm
  starts := rfl
  stops := rfl

namespace Faithful

/-- Nothing was published, and nothing that can be told has changed. -/
theorem silent (hfaithful : recording.Faithful) (hjournal : next.journal = recording.journal)
    (hreplayed : next.transport.replayed = recording.transport.replayed)
    (hstarts : next.transport.starts = recording.transport.starts)
    (hstops : next.transport.stops = recording.transport.stops) : next.Faithful where
  replayed := by rw [hjournal, hreplayed, hfaithful.replayed]
  account := by
    have haccount : next.transport.account = recording.transport.account :=
      congrArg (fun state : Replayed => Account.mk state.rate state.attachments.holder) hreplayed
    rw [hjournal, haccount, hfaithful.account]
  starts := by rw [hjournal, hstarts, hfaithful.starts]
  stops := by rw [hjournal, hstops, hfaithful.stops]

/-- One event was published, and the transport changed the way it says. -/
theorem publish (hfaithful : recording.Faithful)
    (hjournal : next.journal = recording.journal ++ [event])
    (hreplayed : next.transport.replayed = recording.transport.replayed.apply event)
    (haccount : next.transport.account = recording.transport.account.apply event)
    (hstarts : next.transport.starts =
      recording.transport.starts + event.startedAt?.toList.length)
    (hstops : next.transport.stops = recording.transport.stops + [event].count .stopped) :
    next.Faithful where
  replayed := by
    rw [hjournal, Replayed.ofEvents_append_singleton, hfaithful.replayed, hreplayed]
  account := by
    rw [hjournal, Account.ofEvents_append_singleton, hfaithful.account, haccount]
  starts := by
    rw [hjournal, List.filterMap_append, List.length_append, hfaithful.starts, hstarts]
    cases hevent : event.startedAt? <;> simp [hevent]
  stops := by rw [hjournal, List.count_append, hfaithful.stops, hstops]

theorem request (hfaithful : recording.Faithful) (action : Lifecycle.TransportAction) :
    (recording.step (.request action)).Faithful := by
  have hjournal (event : TransportEvent) :
      recording.taken ++ (recording.transport.events ++ [event]) =
        recording.journal ++ [event] :=
    (List.append_assoc _ _ _).symm
  have hattach (slot : Slot) (substream : Option SubstreamId) :=
    recording.transport.attachments.holder_attach_eq_update slot substream
  cases action with
  | failNext reason => exact hfaithful.silent rfl rfl rfl rfl
  | start rate =>
    obtain ⟨⟨state, slots, transport, clock, drivesClock⟩, taken⟩ := recording
    obtain ⟨running, attachments, _ | reason, starts, stops, events⟩ := transport
    · exact hfaithful.publish (hjournal (.started rate)) rfl rfl rfl rfl
    · exact hfaithful.publish (hjournal (.startFailed rate)) rfl rfl rfl rfl
  | stop =>
    exact hfaithful.publish (hjournal .stopped) rfl
      (congrArg (Account.mk none) Attachments.holder_empty) rfl rfl
  | attachPcm direction substream =>
    exact hfaithful.publish (hjournal (.pcmAttached direction substream)) rfl
      (congrArg (Account.mk _) (hattach (.pcm direction) substream)) rfl rfl
  | attachMidi direction port substream =>
    exact hfaithful.publish (hjournal (.midiAttached direction port substream)) rfl
      (congrArg (Account.mk _) (hattach (.midi direction port) substream)) rfl rfl

theorem step (hfaithful : recording.Faithful) (action : Action) :
    (recording.step action).Faithful := by
  cases action with
  | request action => exact hfaithful.request action
  | takeEvents => exact hfaithful.silent (List.append_nil _) rfl rfl rfl

end Faithful

theorem faithful_after (clock : Clock) (drivesClock : Bool) (actions : List Action) :
    (after clock drivesClock actions).Faithful := by
  induction actions using List.reverseRecOn with
  | nil => exact faithful_fresh clock drivesClock
  | append_singleton actions action ih =>
    rw [after_append_singleton]
    exact ih.step action

/-! ### Failing starts -/

/-- A failure was injected, and no start was attempted since. -/
def FailureDue (actions : List Action) : Prop :=
  ∃ before reason after, actions = before ++ .request (.failNext reason) :: after ∧
    ∀ rate, .request (.start rate) ∉ after

theorem not_failureDue_nil : ¬ FailureDue [] := by
  rintro ⟨before, reason, after, heq, -⟩
  simp at heq

theorem failureDue_append_failNext (actions : List Action) (reason : String) :
    FailureDue (actions ++ [.request (.failNext reason)]) :=
  ⟨actions, reason, [], rfl, fun _ => List.not_mem_nil⟩

theorem not_failureDue_append_start (actions : List Action) (rate : UInt32) :
    ¬ FailureDue (actions ++ [.request (.start rate)]) := by
  rintro ⟨before, reason, after, hsplit, hafter⟩
  rcases split_append_singleton hsplit with ⟨-, heq, -⟩ | ⟨rest, rfl, -⟩
  · cases heq
  · exact hafter rate (by simp)

theorem failureDue_append_iff {actions : List Action} {action : Action}
    (hinject : ∀ reason, action ≠ .request (.failNext reason))
    (hstart : ∀ rate, action ≠ .request (.start rate)) :
    FailureDue (actions ++ [action]) ↔ FailureDue actions := by
  constructor
  · rintro ⟨before, reason, after, hsplit, hafter⟩
    rcases split_append_singleton hsplit with ⟨-, heq, -⟩ | ⟨rest, rfl, hactions⟩
    · exact absurd heq.symm (hinject reason)
    · exact ⟨before, reason, rest, hactions, fun rate hmem =>
        hafter rate (List.mem_append_left _ hmem)⟩
  · rintro ⟨before, reason, after, rfl, hafter⟩
    refine ⟨before, reason, after ++ [action], by simp, fun rate => ?_⟩
    rw [List.mem_append, List.mem_singleton]
    exact not_or.2 ⟨hafter rate, (hstart rate).symm⟩

theorem failNext_step_start (recording : Recording) (rate : UInt32) :
    (recording.step (.request (.start rate))).transport.failNext = none := by
  obtain ⟨⟨state, slots, transport, clock, drivesClock⟩, taken⟩ := recording
  obtain ⟨running, attachments, _ | reason, starts, stops, events⟩ := transport <;> rfl

theorem failNext_after (clock : Clock) (drivesClock : Bool) (actions : List Action) :
    (after clock drivesClock actions).transport.failNext.isSome = true ↔ FailureDue actions := by
  induction actions using List.reverseRecOn with
  | nil => exact iff_of_false Bool.false_ne_true not_failureDue_nil
  | append_singleton actions action ih =>
    rw [after_append_singleton]
    cases action with
    | takeEvents =>
      rw [failureDue_append_iff (fun _ => Action.noConfusion) fun _ => Action.noConfusion]
      exact ih
    | request action =>
      cases action with
      | failNext reason => exact iff_of_true rfl (failureDue_append_failNext actions reason)
      | start rate =>
        rw [failNext_step_start]
        exact iff_of_false Bool.false_ne_true (not_failureDue_append_start actions rate)
      | _ =>
        rw [failureDue_append_iff (fun _ heq => by cases heq) fun _ heq => by cases heq]
        exact ih

theorem exists_fault_start_iff (lifecycle : Lifecycle) (rate : UInt32) :
    (∃ fault, (lifecycle.stepTransport (.start rate)).1 = .fault fault) ↔
      lifecycle.transport.failNext.isSome = true := by
  obtain ⟨state, slots, transport, clock, drivesClock⟩ := lifecycle
  obtain ⟨running, attachments, _ | reason, starts, stops, events⟩ := transport
  · refine iff_of_false (fun ⟨fault, hfault⟩ => ?_) Bool.false_ne_true
    cases hfault
  · exact iff_of_true ⟨.startFailed rate reason, rfl⟩ rfl

/-- **The journal is faithful.** Whatever is asked of fresh hardware and whenever events are taken,
replaying all of them yields the rate and every attachment of the transport; they contain one start
for every start that succeeded and one stop for every stop. A start fails if and only if a failure
was injected since the previous attempt. -/
theorem journal_faithful (clock : Clock) (drivesClock : Bool) (actions : List Action) :
    let recording := after clock drivesClock actions
    (Account.ofEvents recording.journal).rate = recording.transport.rate ∧
    (∀ direction, (Account.ofEvents recording.journal).holder (.pcm direction) =
      recording.transport.attachments.pcm.get direction) ∧
    (∀ direction port, (Account.ofEvents recording.journal).holder (.midi direction port) =
      recording.transport.attachments.midi? direction port) ∧
    Replayed.ofEvents recording.journal =
      ⟨recording.transport.rate, recording.transport.attachments⟩ ∧
    (recording.journal.filterMap (·.startedAt?)).length = recording.transport.starts ∧
    recording.journal.count .stopped = recording.transport.stops ∧
    ∀ rate, (∃ fault, (recording.lifecycle.stepTransport (.start rate)).1 = .fault fault) ↔
      FailureDue actions := by
  intro recording
  have hfaithful : recording.Faithful := faithful_after clock drivesClock actions
  have haccount := hfaithful.account
  refine ⟨congrArg Account.rate haccount, fun direction => ?_, fun direction port => ?_,
    hfaithful.replayed, hfaithful.starts, hfaithful.stops, fun rate => ?_⟩
  · exact congrFun (congrArg Account.holder haccount) (.pcm direction)
  · exact congrFun (congrArg Account.holder haccount) (.midi direction port)
  · rw [exists_fault_start_iff]
    exact failNext_after clock drivesClock actions

end Recording
end DuplexAudio
