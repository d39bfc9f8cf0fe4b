import DuplexAudio.Proofs.Device.Accounting
import DuplexAudio.Proofs.Fallible

/-!
What may follow a state of an orderly run, and where an open PCM substream comes from: it was opened
in some earlier state, on a table of the formats of that moment, and has kept that table since.
-/

namespace DuplexAudio

namespace Clock

variable {clock : Clock} {window rates : Interval} {active : PerDirection Bool}

/-- What the policy leaves of a window when the clock answers. -/
def allowance (clock : Clock) (window : Interval) (active : PerDirection Bool) : Interval :=
  if clock.source.isInternal && !active.capture && !active.playback then window
  else .single clock.rate

theorem constrain_of_reachable (hreachable : clock.unreachable = false) :
    clock.constrain window active = .ok (clock.allowance window active) := by
  rw [constrain, readSource, if_neg (by simp [hreachable])]
  change clock.pin window clock.source active = _
  unfold pin allowance
  split
  · rfl
  · rw [readRate, if_neg (by simp [hreachable])]
    rfl

theorem constrain_eq_ok_iff : clock.constrain window active = .ok rates ↔
    clock.unreachable = false ∧ rates = clock.allowance window active := by
  cases hreachable : clock.unreachable with
  | true =>
    rw [constrain, readSource, if_pos hreachable]
    simp
  | false =>
    rw [constrain_of_reachable hreachable]
    simp [eq_comm]

end Clock

namespace Device

variable {limit : Nat} {device next : Device} {ledger : Ledger} {request : Request} {reply : Reply}
  {pcm : PcmSubstream}

/-- The states that permitted requests lead to before one of them is an `ending`, with fewer than
`limit` additions outstanding. -/
inductive Onward (limit : Nat) (ending : Request → Reply → Prop) (device : Device)
    (ledger : Ledger) : Device → Ledger → Prop
  | refl : Onward limit ending device ledger device ledger
  | step {later : Device} {entries : Ledger} (request : Request)
      (honward : Onward limit ending device ledger later entries)
      (hpermits : entries.Permits request)
      (hfew : (later.step request).2.additions
        (entries.record request (later.step request).1) < limit)
      (hgoes : ¬ ending request (later.step request).1) :
      Onward limit ending device ledger (later.step request).2
        (entries.record request (later.step request).1)

theorem Onward.reachable {ending : Request → Reply → Prop} {later : Device} {entries : Ledger}
    (hreachable : Reachable limit device ledger)
    (honward : Onward limit ending device ledger later entries) :
    Reachable limit later entries := by
  induction honward with
  | refl => exact hreachable
  | step request _ hpermits hfew _ ih => exact ih.step request hpermits hfew

/-! ### Openings -/

/-- The request gave up the open substream. -/
def Closes : Request → Reply → Prop
  | .close, .done | .drop, .flag true => True
  | _, _ => False

theorem substream_settleDetached (device : Device) :
    device.settleDetached.substream = device.substream := by
  unfold settleDetached
  split <;> rfl

theorem substream_close (device : Device) (substream : Substream) :
    (device.close substream).substream = none :=
  substream_settleDetached _

theorem substream_step_of_closes (hcloses : Closes request (device.step request).1) :
    (device.step request).2.substream = none := by
  cases request with
  | close =>
    unfold step at hcloses ⊢
    cases hopen : device.substream with
    | none =>
      rw [hopen] at hcloses
      exact hcloses.elim
    | some substream => exact substream_close device substream
  | drop =>
    unfold step at hcloses ⊢
    cases hopen : device.substream with
    | none =>
      rw [hopen] at hcloses
      exact hcloses.elim
    | some substream => exact substream_close device substream
  | _ => exact hcloses.elim

theorem offer_of_window {formats : StreamFormats} {direction : Direction}
    {window : CapabilityWindow} (hwindow : (formats.forDirection direction).window = .ok window) :
    device.offer formats direction =
      if window.isEmpty then .error (.unsatisfiable window.rates window.channels)
      else (device.clock.constrain window.rates device.transport.attachments.active).map
        fun rates => ⟨direction, formats.forDirection direction, { window with rates }⟩ := by
  rw [offer, hwindow]
  cases hempty : window.isEmpty with
  | true => simp only [hempty, mapError_ok, bind, Except.bind, if_true]; rfl
  | false =>
    cases hrates : device.clock.constrain window.rates device.transport.attachments.active <;>
      simp only [hempty, hrates, mapError_ok, bind, Except.bind] <;> rfl

/-- An offer is the window of the table, with the rates that the clock leaves. -/
theorem offer_eq_ok_iff {formats : StreamFormats} {direction : Direction}
    {constraints : Constraints} :
    device.offer formats direction = .ok constraints ↔
      ∃ window rates, (formats.forDirection direction).window = .ok window ∧
        window.isEmpty = false ∧
        device.clock.constrain window.rates device.transport.attachments.active = .ok rates ∧
        constraints = ⟨direction, formats.forDirection direction, { window with rates }⟩ := by
  constructor
  · intro hoffer
    obtain ⟨window, hwindow, -⟩ := exists_of_bind_eq_ok hoffer
    rw [mapError_eq_ok_iff] at hwindow
    rw [offer_of_window hwindow] at hoffer
    split at hoffer
    · cases hoffer
    · next hsome =>
      cases hrates : device.clock.constrain window.rates device.transport.attachments.active with
      | error fault =>
        rw [hrates] at hoffer
        cases hoffer
      | ok rates =>
        rw [hrates] at hoffer
        exact ⟨window, rates, hwindow, Bool.eq_false_iff.2 hsome, hrates,
          (Except.ok.inj hoffer).symm⟩
  · rintro ⟨window, rates, hwindow, hsome, hrates, rfl⟩
    rw [offer_of_window hwindow, if_neg (by simp [hsome]), hrates]
    rfl

/-- An open PCM substream keeps what it may negotiate about from before the step, or was opened by
the step on a table of the formats of that moment. -/
theorem Transition.origin (htransition : Transition device request reply next)
    (hopen : next.substream = some (.pcm pcm)) :
    (∃ before, device.substream = some (.pcm before) ∧ before.constraints = pcm.constraints) ∨
      (request = .openPcm pcm.direction ∧ reply = .opened pcm.constraints.window ∧
        pcm.constraints.table = device.source.formats.forDirection pcm.direction) := by
  cases htransition with
  | openedPcm direction constraints _ hoffer =>
    cases hopen
    obtain ⟨window, rates, -, -, -, rfl⟩ := offer_eq_ok_iff.1 hoffer
    exact Or.inr ⟨rfl, rfl, rfl⟩
  | committed _ _ before _ hbefore
  | recommitted _ _ before _ hbefore
  | freedUncounted before hbefore
  | freed before hbefore
  | prepared before _ _ _ hbefore
  | started _ before _ hbefore
  | stopped _ before _ hbefore =>
    cases hopen
    exact Or.inl ⟨before, hbefore, rfl⟩
  | openedMidi | triggeredMidi => cases hopen
  | closed | dropped =>
    rw [substream_close] at hopen
    cases hopen
  | detached =>
    rw [detach, substream_settleDetached] at hopen
    exact Or.inl ⟨pcm, hopen, rfl⟩
  | _ => exact Or.inl ⟨pcm, hopen, rfl⟩

/-- `pcm` was opened at `earlier`, on a table of the formats of that moment. -/
structure OpenedAt (pcm : PcmSubstream) (earlier : Device) : Prop where
  table : pcm.constraints.table = earlier.source.formats.forDirection pcm.direction
  window : (earlier.step (.openPcm pcm.direction)).1 = .opened pcm.constraints.window

/-- An open PCM substream was opened in some state of the run, and not closed since. -/
theorem exists_opening (hreachable : Reachable limit device ledger)
    (hopen : device.substream = some (.pcm pcm)) :
    ∃ earlier entries, Reachable limit earlier entries ∧ OpenedAt pcm earlier ∧
      Onward limit Closes (earlier.step (.openPcm pcm.direction)).2
        (entries.record (.openPcm pcm.direction) (earlier.step (.openPcm pcm.direction)).1)
        device ledger := by
  induction hreachable generalizing pcm with
  | attach => cases hopen
  | @step device ledger request hreachable hpermits hfew ih =>
    rcases (step_transition device request).origin hopen with
      ⟨before, hbefore, hsame⟩ | ⟨rfl, hwindow, htable⟩
    · obtain ⟨earlier, entries, hearlier, ⟨htable, hwindow⟩, honward⟩ := ih hbefore
      have hdirection : before.direction = pcm.direction := congrArg (·.direction) hsame
      rw [hdirection] at htable hwindow honward
      rw [hsame] at htable hwindow
      refine ⟨earlier, entries, hearlier, ⟨htable, hwindow⟩,
        honward.step request hpermits hfew fun hcloses => ?_⟩
      rw [substream_step_of_closes hcloses] at hopen
      cases hopen
    · exact ⟨device, ledger, hreachable, ⟨htable, hwindow⟩, .refl⟩

end Device
end DuplexAudio
