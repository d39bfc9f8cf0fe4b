import DuplexAudio.Transport

/-!
The slots of a stream: one for PCM in each direction and one for each MIDI port. Attaching to a slot
decides what it holds and leaves every other slot as it was.
-/

namespace DuplexAudio

/-- A place of the stream that holds at most one substream. -/
inductive Slot
  | pcm (direction : Direction)
  | midi (direction : Direction) (port : UInt8)
  deriving DecidableEq, Repr

/-- The event of attaching to a slot, or of detaching whatever it holds. -/
def Slot.event (slot : Slot) (substream : Option SubstreamId) : TransportEvent :=
  match slot with
  | .pcm direction => .pcmAttached direction substream
  | .midi direction port => .midiAttached direction port substream

theorem Slot.event_injective {slot other : Slot} {substream holder : Option SubstreamId}
    (hevent : slot.event substream = other.event holder) : slot = other ∧ substream = holder := by
  cases slot <;> cases other <;> cases hevent <;> exact ⟨rfl, rfl⟩

theorem Slot.event_ne_stopped (slot : Slot) {substream : Option SubstreamId} :
    slot.event substream ≠ .stopped := by
  cases slot <;> exact TransportEvent.noConfusion

namespace Attachments

variable (attachments : Attachments)

/-- The substream that a slot holds. -/
def holder : Slot → Option SubstreamId
  | .pcm direction => attachments.pcm.get direction
  | .midi direction port => attachments.midi? direction port

def attach (slot : Slot) (substream : Option SubstreamId) : Attachments :=
  match slot with
  | .pcm direction => attachments.attachPcm direction substream
  | .midi direction port => attachments.attachMidi direction port substream

/-- No slot holds anything. -/
def Vacant : Prop := ∀ slot, attachments.holder slot = none

theorem vacant_empty : Vacant {} := by
  intro slot
  cases slot with
  | pcm direction => exact PerDirection.get_both none direction
  | midi direction port => rfl

theorem midi?_attachMidi_self (direction : Direction) (port : UInt8)
    (substream : Option SubstreamId) :
    (attachments.attachMidi direction port substream).midi? direction port = substream := by
  unfold attachMidi midi?
  rw [List.find?_append, List.find?_filter]
  have hgone : attachments.midi.find? (fun entry =>
      decide ((!(entry.direction == direction && entry.port == port)) = true ∧
        (entry.direction == direction && entry.port == port) = true)) = none := by
    rw [List.find?_eq_none]
    intro entry _
    cases entry.direction == direction && entry.port == port <;> simp
  rw [hgone]
  cases substream <;> simp

theorem midi?_attachMidi_of_ne {direction other : Direction} {port otherPort : UInt8}
    (substream : Option SubstreamId) (hne : ¬ (other = direction ∧ otherPort = port)) :
    (attachments.attachMidi direction port substream).midi? other otherPort =
      attachments.midi? other otherPort := by
  unfold attachMidi midi?
  rw [List.find?_append, List.find?_filter]
  have hkept : attachments.midi.find? (fun entry =>
      decide ((!(entry.direction == direction && entry.port == port)) = true ∧
        (entry.direction == other && entry.port == otherPort) = true)) =
      attachments.midi.find? fun entry =>
        entry.direction == other && entry.port == otherPort := by
    congr 1
    funext entry
    grind
  have hnew : (substream.map (MidiAttachment.mk direction port ·)).toList.find? (fun entry =>
      entry.direction == other && entry.port == otherPort) = none := by
    cases substream with
    | none => rfl
    | some id =>
      have hother : ¬ (direction == other && port == otherPort) = true := by
        rw [Bool.and_eq_true, beq_iff_eq, beq_iff_eq]
        exact fun hsame => hne ⟨hsame.1.symm, hsame.2.symm⟩
      exact List.find?_cons_of_neg hother
  rw [hkept, hnew, Option.or_none]

/-- Attaching decides what one slot holds. -/
theorem holder_attach (slot other : Slot) (substream : Option SubstreamId) :
    (attachments.attach slot substream).holder other =
      if other = slot then substream else attachments.holder other := by
  by_cases hsame : other = slot
  · rw [if_pos hsame, hsame]
    cases slot with
    | pcm direction => exact attachments.pcm.get_set_self direction substream
    | midi direction port => exact attachments.midi?_attachMidi_self direction port substream
  · rw [if_neg hsame]
    cases slot with
    | pcm direction =>
      cases other with
      | pcm other =>
        have hdirection : other ≠ direction := fun heq => hsame (congrArg Slot.pcm heq)
        change (attachments.pcm.set direction substream).get other = attachments.pcm.get other
        rw [PerDirection.get_set, if_neg hdirection]
      | midi other port => rfl
    | midi direction port =>
      cases other with
      | pcm other => rfl
      | midi other otherPort =>
        refine attachments.midi?_attachMidi_of_ne substream fun heq => hsame ?_
        rw [heq.1, heq.2]

end Attachments
end DuplexAudio
