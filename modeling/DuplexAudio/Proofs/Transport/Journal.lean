import DuplexAudio.Proofs.Transport.Slots
import Mathlib.Data.List.Induction

/-!
Journals of a transport that is used in order: substreams are attached only while the pair is up,
and every one of them is detached again before the pair goes down.
-/

namespace DuplexAudio

/-- Where an item can stand in a list that another one was added to. -/
theorem split_append_singleton {α : Type} {items before after : List α} {item added : α}
    (hsplit : items ++ [added] = before ++ item :: after) :
    (before = items ∧ item = added ∧ after = []) ∨
      ∃ rest, after = rest ++ [added] ∧ items = before ++ item :: rest := by
  rcases List.eq_nil_or_concat after with rfl | ⟨rest, last, rfl⟩
  · obtain ⟨rfl, heq⟩ := List.append_inj' hsplit rfl
    exact Or.inl ⟨rfl, (List.singleton_inj.1 heq).symm, rfl⟩
  · rw [List.concat_eq_append, ← List.cons_append, ← List.append_assoc] at hsplit
    obtain ⟨hitems, heq⟩ := List.append_inj' hsplit rfl
    exact Or.inr ⟨rest, by rw [List.singleton_inj.1 heq, List.concat_eq_append], hitems⟩

/-! ### Slots in a journal -/

namespace TransportEvent

/-- What a slot holds after an event, if it held `holder` before. -/
def update (event : TransportEvent) (slot : Slot) (holder : Option SubstreamId) :
    Option SubstreamId :=
  match event with
  | .pcmAttached direction substream => if slot = .pcm direction then substream else holder
  | .midiAttached direction port substream =>
    if slot = .midi direction port then substream else holder
  | .started _ | .startFailed _ | .stopped => holder

/-- The rate of a start that succeeded. -/
def startedAt? : TransportEvent → Option UInt32
  | .started rate => some rate
  | _ => none

variable {event : TransportEvent} {slot other : Slot} {substream holder : Option SubstreamId}

theorem update_event :
    (slot.event substream).update other holder = if other = slot then substream else holder := by
  cases slot <;> rfl

theorem update_of_forall_ne (hne : ∀ substream, event ≠ slot.event substream) :
    event.update slot holder = holder := by
  cases event with
  | pcmAttached direction substream => exact if_neg fun heq => hne substream (by rw [heq]; rfl)
  | midiAttached direction port substream =>
    exact if_neg fun heq => hne substream (by rw [heq]; rfl)
  | _ => rfl

end TransportEvent

namespace Journal

variable {events : List TransportEvent} {event : TransportEvent} {slot : Slot}

/-- What the last of the events about a slot attached to it. -/
def holder (events : List TransportEvent) (slot : Slot) : Option SubstreamId :=
  events.foldl (fun holder event => event.update slot holder) none

theorem holder_append_singleton (events : List TransportEvent) (event : TransportEvent)
    (slot : Slot) : holder (events ++ [event]) slot = event.update slot (holder events slot) := by
  rw [holder, List.foldl_append]
  rfl

/-- The rate of the latest start that succeeded. -/
def latestStart (events : List TransportEvent) : Option UInt32 :=
  (events.filterMap (·.startedAt?)).getLast?

theorem latestStart_append_singleton (events : List TransportEvent) (event : TransportEvent) :
    latestStart (events ++ [event]) = event.startedAt?.or (latestStart events) := by
  rw [latestStart, List.filterMap_append]
  cases hevent : event.startedAt? with
  | none => simp [latestStart, hevent]
  | some rate => simp [hevent]

/-- A slot that is free again after an attachment was detached, and then left alone. -/
theorem exists_detachment (before between : List TransportEvent) (id : SubstreamId)
    (hfree : holder (before ++ slot.event (some id) :: between) slot = none) :
    ∃ earlier later, between = earlier ++ slot.event none :: later ∧
      ∀ substream, slot.event substream ∉ later := by
  induction between using List.reverseRecOn with
  | nil =>
    rw [holder_append_singleton, TransportEvent.update_event, if_pos rfl] at hfree
    cases hfree
  | append_singleton between event ih =>
    rw [← List.cons_append, ← List.append_assoc, holder_append_singleton] at hfree
    by_cases hslot : ∃ substream, event = slot.event substream
    · obtain ⟨substream, rfl⟩ := hslot
      rw [TransportEvent.update_event, if_pos rfl] at hfree
      refine ⟨between, [], by rw [hfree], fun _ => List.not_mem_nil⟩
    · have hother : ∀ substream, event ≠ slot.event substream := not_exists.1 hslot
      rw [TransportEvent.update_of_forall_ne hother] at hfree
      obtain ⟨earlier, later, rfl, hlater⟩ := ih hfree
      refine ⟨earlier, later ++ [event], by simp, fun substream => ?_⟩
      rw [List.mem_append, List.mem_singleton]
      exact not_or.2 ⟨hlater substream, (hother substream).symm⟩

/-! ### Up and down -/

/-- The pair is up after these events: it was started, and not stopped since. -/
def Up (events : List TransportEvent) : Prop :=
  ∃ before rate after, events = before ++ .started rate :: after ∧ .stopped ∉ after

theorem up_append_started (events : List TransportEvent) (rate : UInt32) :
    Up (events ++ [.started rate]) :=
  ⟨events, rate, [], rfl, List.not_mem_nil⟩

theorem Up.append_singleton (hup : Up events) (hevent : event ≠ .stopped) :
    Up (events ++ [event]) := by
  obtain ⟨before, rate, after, rfl, hafter⟩ := hup
  refine ⟨before, rate, after ++ [event], by simp, ?_⟩
  rw [List.mem_append, List.mem_singleton]
  exact not_or.2 ⟨hafter, hevent.symm⟩

/-- Whatever is attached is attached while the pair is up, and before the next stop the last event
of its slot is a detachment. -/
structure Bracketed (events : List TransportEvent) : Prop where
  attached : ∀ before slot id after,
    events = before ++ Slot.event slot (some id) :: after → Up before
  detached : ∀ before slot id between after,
    events = before ++ Slot.event slot (some id) :: (between ++ .stopped :: after) →
    ∃ earlier later, between = earlier ++ slot.event none :: later ∧
      ∀ substream, slot.event substream ∉ later

theorem bracketed_nil : Bracketed [] where
  attached _ _ _ _ heq := by simp at heq
  detached _ _ _ _ _ heq := by simp at heq

/-- The journal stays in order if a substream is attached only while the pair is up, and the pair is
stopped only when every slot is free. -/
theorem Bracketed.append_singleton (hbracketed : Bracketed events)
    (hup : ∀ slot id, event = Slot.event slot (some id) → Up events)
    (hfree : event = .stopped → ∀ slot, holder events slot = none) :
    Bracketed (events ++ [event]) where
  attached before slot id after hsplit := by
    rcases split_append_singleton hsplit with ⟨rfl, hevent, -⟩ | ⟨rest, -, hevents⟩
    · exact hup slot id hevent.symm
    · exact hbracketed.attached before slot id rest hevents
  detached before slot id between after hsplit := by
    have hstop : events ++ [event] =
        (before ++ Slot.event slot (some id) :: between) ++ .stopped :: after := by
      rw [hsplit, List.append_assoc, List.cons_append]
    rcases split_append_singleton hstop with ⟨hevents, hevent, -⟩ | ⟨rest, -, hevents⟩
    · refine exists_detachment before between id ?_
      rw [hevents]
      exact hfree hevent.symm slot
    · refine hbracketed.detached before slot id between rest ?_
      rw [hevents, List.append_assoc, List.cons_append]

end Journal
end DuplexAudio
