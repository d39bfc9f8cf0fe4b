import DuplexAudio.Proofs.Device.Transition
import DuplexAudio.Proofs.Lifecycle.Count

/-!
Accounting over whole runs. A ledger is kept from the requests and the replies alone. In every state
that a run can reach with fewer than `2 ^ 32` additions outstanding, the lock, the open substream,
the count of the lifecycle and the running pair agree with it. With one addition more the count may
wrap around below a running substream.
-/

namespace DuplexAudio

theorem SubstreamState.afterStop_eq_opened_iff (state : SubstreamState) :
    state.afterStop = .opened ↔ state = .opened := by
  cases state <;> decide

/-- What an open substream adds to the count: a PCM substream from its first commit on, a MIDI port
at once. -/
def Substream.counted : Substream → Nat
  | .pcm substream => if substream.state = .opened then 0 else 1
  | .midi _ => 1

def Substream.slot : Substream → Slot
  | .pcm substream => .pcm substream.direction
  | .midi substream => .midi substream.direction substream.port

/-- A PCM substream is attached while it is running, a MIDI port while it is triggered. -/
def Substream.IsAttached : Substream → Prop
  | .pcm substream => substream.state = .running
  | .midi substream => substream.triggered = true

instance : DecidablePred Substream.IsAttached
  | .pcm substream => inferInstanceAs (Decidable (substream.state = .running))
  | .midi substream => inferInstanceAs (Decidable (substream.triggered = true))

/-- What the open substream, if there is one, adds to the count. -/
def Device.counted (device : Device) : Nat := (device.substream.map (·.counted)).getD 0

/-- How often a substream was opened and closed, and how often the lifecycle was joined and left
from outside, going by the replies. -/
structure Ledger where
  opened : Nat := 0
  closed : Nat := 0
  joined : Nat := 0
  left : Nat := 0
  deriving DecidableEq, Repr

namespace Ledger

def record (ledger : Ledger) : Device.Request → Device.Reply → Ledger
  | .openPcm _, .opened _ => { ledger with opened := ledger.opened + 1 }
  | .openMidi _ _, .done => { ledger with opened := ledger.opened + 1 }
  | .close, .done => { ledger with closed := ledger.closed + 1 }
  | .drop, .flag true => { ledger with closed := ledger.closed + 1 }
  | .lifecycle (.join _), .lifecycle (.outcome _) => { ledger with joined := ledger.joined + 1 }
  | .lifecycle .leave, .lifecycle _ => { ledger with left := ledger.left + 1 }
  | _, _ => ledger

/-- Joins from outside that were not left yet. -/
def outstanding (ledger : Ledger) : Nat := ledger.joined - ledger.left

/-- The requests of an orderly run. From outside the lifecycle is only joined, and left while such a
join is outstanding; the transport is only told to fail; the handle of the device stays. -/
def Permits (ledger : Ledger) : Device.Request → Prop
  | .lifecycle (.join _) | .lifecycle .isRunning => True
  | .lifecycle .leave => 0 < ledger.outstanding
  | .lifecycle _ => False
  | .transport (.failNext _) => True
  | .transport _ => False
  | .detach => False
  | _ => True

end Ledger

namespace Device

/-- The additions that are outstanding: what the open substream adds, and the joins from outside
that were not left yet. -/
def additions (device : Device) (ledger : Ledger) : Nat := device.counted + ledger.outstanding

/-- The states of the orderly runs of freshly attached devices in which fewer than `limit` additions
are outstanding after every request, each with the ledger of the run. Every orderly run has such a
limit. -/
inductive Reachable (limit : Nat) : Device → Ledger → Prop
  | attach (name : String) (formats : StreamFormats) (clock : Clock) (drivesClock : Bool) :
      Reachable limit (.attach name formats clock drivesClock) {}
  | step {device : Device} {ledger : Ledger} (request : Request)
      (hreachable : Reachable limit device ledger) (hpermits : ledger.Permits request)
      (hfew : (device.step request).2.additions
        (ledger.record request (device.step request).1) < limit) :
      Reachable limit (device.step request).2 (ledger.record request (device.step request).1)

variable {device next : Device} {ledger : Ledger} {request : Request} {reply : Reply}

/-- What holds of the open substream holds of every one that is open. -/
theorem forall_open {property : Substream → Prop} {substream : Substream}
    (hopen : device.substream = some substream) (hproperty : property substream) :
    ∀ other, device.substream = some other → property other := by
  intro other hother
  rw [hopen] at hother
  exact Option.some.inj hother ▸ hproperty

theorem forall_open_of_eq_none {property : Substream → Prop} (hnone : device.substream = none) :
    ∀ other, device.substream = some other → property other := by
  intro other hother
  rw [hnone] at hother
  cases hother

theorem counted_of_open {substream : Substream} (hopen : device.substream = some substream) :
    device.counted = substream.counted := by
  rw [counted, hopen]
  rfl

/-- What the substream will add, where none or an uncounted one is open. -/
theorem additions_add_one (huncounted : device.counted = 0) :
    device.additions ledger + 1 = 1 + ledger.outstanding := by
  rw [additions, huncounted, Nat.zero_add, Nat.add_comm]

/-! ### Entries -/

theorem record_of_idle (hidle : reply.IsIdle) : ledger.record request reply = ledger := by
  unfold Ledger.record
  split <;> first | rfl | cases hidle

theorem record_of_command {command : TriggerCommand} (hcommand : request.command? = some command) :
    ledger.record request reply = ledger := by
  cases request with
  | trigger => rfl
  | triggerCode => rfl
  | _ => cases hcommand

theorem record_of_changedClock {clock changed : Clock}
    (hclock : request.changedClock? clock = some changed) :
    ledger.record request reply = ledger := by
  cases request with
  | clockSource => rfl
  | clockRate => rfl
  | clockUnreachable => rfl
  | _ => cases hclock

/-! ### Closing -/

/-- The lifecycle after a substream that goes away was detached from its slot. -/
def withdraw (lifecycle : Lifecycle) (substream : Substream) : Lifecycle :=
  if substream.IsAttached then lifecycle.trigger substream.slot none else lifecycle

@[simp] theorem state_withdraw (lifecycle : Lifecycle) (substream : Substream) :
    (withdraw lifecycle substream).state = lifecycle.state := by
  unfold withdraw
  split
  · exact lifecycle.state_trigger substream.slot none
  · rfl

@[simp] theorem rate_withdraw (lifecycle : Lifecycle) (substream : Substream) :
    (withdraw lifecycle substream).transport.rate = lifecycle.transport.rate := by
  unfold withdraw
  split
  · exact lifecycle.rate_trigger substream.slot none
  · rfl

theorem retire_cases (lifecycle : Lifecycle) (substream : Substream) :
    (substream.counted = 0 ∧ retire lifecycle substream = withdraw lifecycle substream) ∨
      (substream.counted = 1 ∧
        retire lifecycle substream = (withdraw lifecycle substream).leave.2) := by
  rcases substream with pcm | midi
  · by_cases hopened : pcm.state = .opened
    · exact Or.inl ⟨if_pos hopened, if_pos hopened⟩
    · exact Or.inr ⟨if_neg hopened, if_neg hopened⟩
  · exact Or.inr ⟨rfl, rfl⟩

theorem retire_sound {lifecycle : Lifecycle} (hsound : lifecycle.Sound) (substream : Substream) :
    (retire lifecycle substream).Sound := by
  have hwithdrawn : (withdraw lifecycle substream).Sound :=
    hsound.frame (state_withdraw lifecycle substream) (rate_withdraw lifecycle substream)
  rcases retire_cases lifecycle substream with ⟨-, hretire⟩ | ⟨-, hretire⟩
  · rw [hretire]
    exact hwithdrawn
  · rw [hretire]
    exact hwithdrawn.leave

theorem count_retire (lifecycle : Lifecycle) (substream : Substream) :
    ((retire lifecycle substream).state.activeSubstreams : Nat) =
      lifecycle.state.activeSubstreams - substream.counted := by
  rcases retire_cases lifecycle substream with ⟨hcounted, hretire⟩ | ⟨hcounted, hretire⟩
  · rw [hretire, hcounted, state_withdraw, Nat.sub_zero]
  · rw [hretire, hcounted, Lifecycle.count_leave, state_withdraw]

theorem close_of_attached (hattached : device.attached = true) (substream : Substream) :
    device.close substream =
      { device with
        lock := device.lock.release
        lifecycle := retire device.lifecycle substream
        substream := none } := by
  unfold close settleDetached
  rw [if_pos (by simp [release, hattached])]
  rfl

/-! ### The balance -/

/-- The device agrees with the ledger of its run. -/
structure Balanced (device : Device) (ledger : Ledger) : Prop where
  attached : device.attached = true
  sound : device.lifecycle.Sound
  locked : device.lock.held = device.substream.isSome
  opened : ledger.opened = ledger.closed + device.substream.isSome.toNat
  left : ledger.left ≤ ledger.joined
  count : (device.lifecycle.state.activeSubstreams : Nat) + ledger.left =
    device.counted + ledger.joined

theorem balanced_attach (name : String) (formats : StreamFormats) (clock : Clock)
    (drivesClock : Bool) : Balanced (.attach name formats clock drivesClock) {} where
  attached := rfl
  sound := Lifecycle.sound_attached clock drivesClock
  locked := rfl
  opened := rfl
  left := Nat.le_refl 0
  count := rfl

namespace Balanced

theorem substream_eq_none (hbalanced : Balanced device ledger) (hfree : device.lock.held = false) :
    device.substream = none := by
  have hlocked := hbalanced.locked
  rw [hfree] at hlocked
  exact Option.isNone_iff_eq_none.1 (Option.isSome_eq_false_iff.1 hlocked.symm)

theorem counted_eq_zero (hbalanced : Balanced device ledger) (hfree : device.lock.held = false) :
    device.counted = 0 := by
  rw [counted, hbalanced.substream_eq_none hfree]
  rfl

theorem turnedAway (hbalanced : Balanced device ledger) (hfree : device.lock.held = false)
    (queries : Nat) {lifecycle : Lifecycle} (hsound : lifecycle.Sound)
    (hcount : lifecycle.state.activeSubstreams = device.lifecycle.state.activeSubstreams) :
    Balanced { device.turnedAway queries with lifecycle } ledger where
  attached := hbalanced.attached
  sound := hsound
  locked := hfree.symm.trans hbalanced.locked
  opened := hbalanced.opened
  left := hbalanced.left
  count := hcount ▸ hbalanced.count

theorem withOpened (hbalanced : Balanced device ledger) (hfree : device.lock.held = false)
    {substream : Substream} {lifecycle : Lifecycle} (hsound : lifecycle.Sound)
    (hcount : (lifecycle.state.activeSubstreams : Nat) =
      device.lifecycle.state.activeSubstreams + substream.counted) :
    Balanced { device.withOpened substream with lifecycle }
      { ledger with opened := ledger.opened + 1 } where
  attached := hbalanced.attached
  sound := hsound
  locked := rfl
  opened := by
    have hopened := hbalanced.opened
    rw [hbalanced.substream_eq_none hfree] at hopened
    exact congrArg (· + 1) hopened
  left := hbalanced.left
  count := by
    have hbefore := hbalanced.count
    rw [hbalanced.counted_eq_zero hfree] at hbefore
    change lifecycle.state.activeSubstreams.toNat + ledger.left = substream.counted + ledger.joined
    omega

theorem withSubstream (hbalanced : Balanced device ledger) {old new : Substream}
    (hopen : device.substream = some old) {lifecycle : Lifecycle} (hsound : lifecycle.Sound)
    (hcount : (lifecycle.state.activeSubstreams : Nat) + old.counted =
      device.lifecycle.state.activeSubstreams + new.counted) :
    Balanced { device with lifecycle, substream := some new } ledger where
  attached := hbalanced.attached
  sound := hsound
  locked := by
    rw [hbalanced.locked, hopen]
    rfl
  opened := by
    rw [hbalanced.opened, hopen]
    rfl
  left := hbalanced.left
  count := by
    have hbefore := hbalanced.count
    rw [counted_of_open hopen] at hbefore
    change lifecycle.state.activeSubstreams.toNat + ledger.left = new.counted + ledger.joined
    omega

theorem withLifecycle (hbalanced : Balanced device ledger) {lifecycle : Lifecycle}
    (hsound : lifecycle.Sound)
    (hcount : lifecycle.state.activeSubstreams = device.lifecycle.state.activeSubstreams) :
    Balanced { device with lifecycle } ledger where
  attached := hbalanced.attached
  sound := hsound
  locked := hbalanced.locked
  opened := hbalanced.opened
  left := hbalanced.left
  count := hcount ▸ hbalanced.count

theorem withSource (hbalanced : Balanced device ledger) (source : FormatSource) :
    Balanced { device with source } ledger :=
  ⟨hbalanced.attached, hbalanced.sound, hbalanced.locked, hbalanced.opened, hbalanced.left,
    hbalanced.count⟩

theorem count_eq_additions (hbalanced : Balanced device ledger) :
    (device.lifecycle.state.activeSubstreams : Nat) = device.additions ledger := by
  have hleft := hbalanced.left
  have hcount := hbalanced.count
  unfold additions Ledger.outstanding
  omega

/-- The count does not wrap around as long as there is room for one addition more. -/
theorem count_addSubstream (hbalanced : Balanced device ledger)
    (hroom : device.additions ledger + 1 < UInt32.size) :
    (device.lifecycle.addSubstream.state.activeSubstreams : Nat) =
      device.lifecycle.state.activeSubstreams + 1 := by
  rw [Lifecycle.count_addSubstream, hbalanced.count_eq_additions, Nat.mod_eq_of_lt hroom]

theorem used_addSubstream (hbalanced : Balanced device ledger)
    (hroom : device.additions ledger + 1 < UInt32.size) :
    0 < device.lifecycle.addSubstream.state.activeSubstreams := by
  refine UInt32.lt_iff_toNat_lt.2 ?_
  rw [hbalanced.count_addSubstream hroom]
  exact Nat.succ_pos _

/-- The count covers the open substream, since no more joins were left than made. -/
theorem counted_le (hbalanced : Balanced device ledger) {substream : Substream}
    (hopen : device.substream = some substream) :
    substream.counted ≤ (device.lifecycle.state.activeSubstreams : Nat) := by
  have hleft := hbalanced.left
  have hcount := hbalanced.count
  rw [counted_of_open hopen] at hcount
  omega

theorem close (hbalanced : Balanced device ledger) {substream : Substream}
    (hopen : device.substream = some substream) :
    Balanced (device.close substream) { ledger with closed := ledger.closed + 1 } := by
  have hbefore := hbalanced.count
  have hopened := hbalanced.opened
  rw [counted_of_open hopen] at hbefore
  rw [hopen] at hopened
  rw [close_of_attached hbalanced.attached]
  refine ⟨hbalanced.attached, retire_sound hbalanced.sound substream, rfl, hopened,
    hbalanced.left, ?_⟩
  change ((retire device.lifecycle substream).state.activeSubstreams : Nat) + ledger.left =
    0 + ledger.joined
  rw [count_retire]
  have hleft := hbalanced.left
  omega

end Balanced

/-! ### One step -/

theorem Balanced.lifecycle_step (hbalanced : Balanced device ledger) {action : Lifecycle.Action}
    (hpermits : ledger.Permits (.lifecycle action))
    (hfew : device.counted + (ledger.record (.lifecycle action)
      (.lifecycle (device.lifecycle.step action).1)).outstanding < UInt32.size) :
    Balanced { device with lifecycle := (device.lifecycle.step action).2 }
      (ledger.record (.lifecycle action) (.lifecycle (device.lifecycle.step action).1)) := by
  have hbefore := hbalanced.count
  have hleft := hbalanced.left
  cases action with
  | join rate =>
    rcases hjoin : device.lifecycle.join rate with ⟨fault | outcome, lifecycle⟩
    · have hsound := hbalanced.sound.of_join_eq_error hjoin
      have hcount := Lifecycle.activeSubstreams_of_join_eq_error hjoin
      simp only [Lifecycle.step, hjoin]
      exact hbalanced.withLifecycle hsound hcount
    · simp only [Lifecycle.step, hjoin] at hfew ⊢
      have hroom : device.additions ledger + 1 < UInt32.size := by
        change device.counted + (ledger.joined + 1 - ledger.left) < UInt32.size at hfew
        unfold additions Ledger.outstanding
        omega
      have hsound := hbalanced.sound.of_join_eq_ok hjoin (hbalanced.used_addSubstream hroom)
      have hcount := hbalanced.count_addSubstream hroom
      refine ⟨hbalanced.attached, hsound, hbalanced.locked, hbalanced.opened,
        Nat.le_succ_of_le hleft, ?_⟩
      change (lifecycle.state.activeSubstreams : Nat) + ledger.left =
        device.counted + (ledger.joined + 1)
      rw [Lifecycle.activeSubstreams_of_join_eq_ok hjoin]
      omega
  | leave =>
    have houtstanding : 0 < ledger.joined - ledger.left := hpermits
    refine ⟨hbalanced.attached, hbalanced.sound.leave, hbalanced.locked, hbalanced.opened, ?_, ?_⟩
    · exact Nat.lt_of_sub_pos houtstanding
    · have hcount := device.lifecycle.count_leave
      change (device.lifecycle.leave.2.state.activeSubstreams : Nat) + (ledger.left + 1) =
        device.counted + ledger.joined
      omega
  | isRunning => exact hbalanced
  | _ => exact hpermits.elim

/-- A permitted request keeps the balance, whichever transition it takes, unless it is an addition
that finds no room. -/
theorem Balanced.of_transition (hbalanced : Balanced device ledger)
    (hpermits : ledger.Permits request) (htransition : Transition device request reply next)
    (hfew : next.additions (ledger.record request reply) < UInt32.size) :
    Balanced next (ledger.record request reply) := by
  have hsound := hbalanced.sound
  cases htransition with
  | idle _ _ hidle =>
    rw [record_of_idle hidle]
    exact hbalanced
  | turnedAway _ fault queries _ hfree =>
    have hidle : (Reply.fault fault).IsIdle := trivial
    rw [record_of_idle hidle]
    exact hbalanced.turnedAway hfree queries hsound rfl
  | openedPcm direction constraints hfree =>
    exact hbalanced.withOpened hfree hsound rfl
  | joinRefused direction port rate fault lifecycle hfree _ hjoin =>
    exact hbalanced.turnedAway hfree _ (hsound.of_join_eq_error hjoin)
      (Lifecycle.activeSubstreams_of_join_eq_error hjoin)
  | openedMidi direction port rate outcome lifecycle hfree _ hjoin =>
    have hroom : device.additions ledger + 1 < UInt32.size := by
      rw [additions_add_one (hbalanced.counted_eq_zero hfree)]
      exact hfew
    refine hbalanced.withOpened hfree
      (hsound.of_join_eq_ok hjoin (hbalanced.used_addSubstream hroom)) ?_
    rw [Lifecycle.activeSubstreams_of_join_eq_ok hjoin]
    exact hbalanced.count_addSubstream hroom
  | committed rate channels pcm params hopen hstate =>
    have huncounted : (Substream.pcm pcm).counted = 0 := if_pos hstate
    have hroom : device.additions ledger + 1 < UInt32.size := by
      rw [additions_add_one ((counted_of_open hopen).trans huncounted)]
      exact hfew
    refine hbalanced.withSubstream hopen
      (hsound.addSubstream (hbalanced.used_addSubstream hroom)) ?_
    rw [huncounted]
    exact hbalanced.count_addSubstream hroom
  | recommitted rate channels pcm params hopen hstate =>
    refine hbalanced.withSubstream hopen hsound ?_
    simp [Substream.counted, hstate]
  | freedUncounted pcm hopen hstate =>
    refine hbalanced.withSubstream hopen hsound.ensureStopped ?_
    simp [Substream.counted, hstate, Lifecycle.activeSubstreams_ensureStopped]
  | freed pcm hopen hcounted =>
    refine hbalanced.withSubstream hopen hsound.leave ?_
    have hle := hbalanced.counted_le hopen
    have hone : (Substream.pcm pcm).counted = 1 := if_neg hcounted
    rw [hone] at hle
    rw [Lifecycle.count_leave, hone, Nat.sub_add_cancel hle]
    rfl
  | startRefused pcm params fault lifecycle hopen _ hstart =>
    have hrefused := hsound.ensureStarted params.rate
    have hcount := device.lifecycle.activeSubstreams_ensureStarted params.rate
    rw [hstart] at hrefused hcount
    exact hbalanced.withLifecycle hrefused hcount
  | prepared pcm params outcome lifecycle hopen hparams hstart =>
    have hstarted := hsound.ensureStarted params.rate
    have hcount := device.lifecycle.activeSubstreams_ensureStarted params.rate
    rw [hstart] at hstarted hcount
    refine hbalanced.withSubstream hopen hstarted ?_
    have hone : (Substream.pcm pcm).counted = 1 := by
      rcases (paramsToPrepare_eq_ok hparams).1 with hstate | hstate
      all_goals simp [Substream.counted, hstate]
    rw [hone, hcount]
    rfl
  | started _ pcm hcommand hopen hstate =>
    rw [record_of_command hcommand]
    refine hbalanced.withSubstream hopen (hsound.frame rfl rfl) ?_
    simp [Substream.counted, hstate, Lifecycle.triggerPcm]
  | stopped _ pcm hcommand hopen =>
    rw [record_of_command hcommand]
    refine hbalanced.withSubstream hopen (hsound.frame rfl rfl) ?_
    simp only [Substream.counted, SubstreamState.afterStop_eq_opened_iff]
    rfl
  | triggeredMidi up midi hopen =>
    exact hbalanced.withSubstream hopen (hsound.frame rfl rfl) rfl
  | closed substream hopen => exact hbalanced.close hopen
  | dropped substream hopen => exact hbalanced.close hopen
  | clockChanged _ clock hclock =>
    rw [record_of_changedClock hclock]
    exact hbalanced.withLifecycle (hsound.frame rfl rfl) rfl
  | formatsFailing on => exact hbalanced.withSource _
  | formatsReplaced formats => exact hbalanced.withSource _
  | formatsQueried => exact hbalanced.withSource _
  | lifecycleAsked action => exact hbalanced.lifecycle_step hpermits hfew
  | transportAsked action =>
    cases action with
    | failNext reason => exact hbalanced.withLifecycle (hsound.frame rfl rfl) rfl
    | _ => exact hpermits.elim
  | detached => exact hpermits.elim

theorem balanced_of_reachable (hreachable : Reachable UInt32.size device ledger) :
    Balanced device ledger := by
  induction hreachable with
  | attach name formats clock drivesClock => exact balanced_attach name formats clock drivesClock
  | step request _ hpermits hfew ih =>
    exact ih.of_transition hpermits (step_transition _ request) hfew

/-- In every state of an orderly run with fewer than `2 ^ 32` additions outstanding, at most one
substream is open and the lock is held iff one is; the count is what the open substream adds, and
one for each outstanding join; a running pair is counted; and the flag, the committed rate and the
transport say the same. -/
theorem accounting_exact (hreachable : Reachable UInt32.size device ledger) :
    (ledger.closed ≤ ledger.opened ∧ ledger.opened ≤ ledger.closed + 1) ∧
    (device.lock.held = true ↔ ledger.opened = ledger.closed + 1) ∧
    (device.substream.isSome = true ↔ ledger.opened = ledger.closed + 1) ∧
    (device.lifecycle.state.activeSubstreams : Nat) = device.counted + ledger.outstanding ∧
    (device.lifecycle.state.running = true → 0 < device.lifecycle.state.activeSubstreams) ∧
    (device.lifecycle.state.running = true ↔ ∃ rate,
      device.lifecycle.state.committedRate = some rate ∧ device.transport.rate = some rate) ∧
    ∀ rate, device.lifecycle.state.committedRate = some rate ↔
      device.transport.rate = some rate := by
  have hbalanced := balanced_of_reachable hreachable
  have hopened := hbalanced.opened
  have hiff : device.substream.isSome = true ↔ ledger.opened = ledger.closed + 1 := by
    rw [hopened]
    cases device.substream.isSome <;> simp
  refine ⟨⟨?_, ?_⟩, ?_, hiff, hbalanced.count_eq_additions, hbalanced.sound.needed,
    hbalanced.sound.running_iff, ?_⟩
  · exact hopened ▸ Nat.le_add_right _ _
  · exact hopened ▸ Nat.add_le_add_left (Bool.toNat_le _) _
  · rw [hbalanced.locked]
    exact hiff
  · intro rate
    rw [← hbalanced.sound.rate]
    rfl

/-- A device with two channels at the low and the middle rates in both directions. -/
def stereo : Device :=
  .attach "stereo" ⟨.ofClockRates (2, 0) (2, 0) (0, 0), .ofClockRates (2, 1) (2, 1) (0, 0)⟩ {} false

/-- A capture substream comes to run while the lifecycle is joined twice and left once. -/
def sharedSession : List Request :=
  [.openPcm .capture, .lifecycle (.join 48000), .lifecycle (.join 44100), .lifecycle .leave,
    .commit 48000 2, .prepare, .trigger .start]

theorem reachable_sharedSession {limit : Nat} (hlimit : 2 < limit) :
    Reachable limit (stereo.run sharedSession) { opened := 1, joined := 2, left := 1 } := by
  have hattached : Reachable limit stereo {} := .attach _ _ _ _
  have hopened : Reachable limit _ { opened := 1 } :=
    hattached.step (.openPcm .capture) trivial (Nat.lt_of_le_of_lt (by decide +kernel) hlimit)
  have hjoined : Reachable limit _ { opened := 1, joined := 1 } :=
    hopened.step (.lifecycle (.join 48000)) trivial
      (Nat.lt_of_le_of_lt (by decide +kernel) hlimit)
  have hagain : Reachable limit _ { opened := 1, joined := 2 } :=
    hjoined.step (.lifecycle (.join 44100)) trivial
      (Nat.lt_of_le_of_lt (by decide +kernel) hlimit)
  have hleft : Reachable limit _ { opened := 1, joined := 2, left := 1 } :=
    hagain.step (.lifecycle .leave) (show 0 < 2 by decide)
      (Nat.lt_of_le_of_lt (by decide +kernel) hlimit)
  have hcommitted := hleft.step (.commit 48000 2) trivial
    (Nat.lt_of_le_of_lt (by decide +kernel) hlimit)
  have hprepared := hcommitted.step .prepare trivial
    (Nat.lt_of_le_of_lt (by decide +kernel) hlimit)
  exact hprepared.step (.trigger .start) trivial (Nat.lt_of_le_of_lt (by decide +kernel) hlimit)

/-- The substream and the remaining join are two, and the pair runs for them. -/
theorem accounting_exact_sharedSession :
    Reachable UInt32.size (stereo.run sharedSession) { opened := 1, joined := 2, left := 1 } ∧
      (stereo.run sharedSession).lock.held = true ∧
      (stereo.run sharedSession).lifecycle.state.activeSubstreams = 2 ∧
      (stereo.run sharedSession).transport.rate = some 48000 := by
  have hreachable := reachable_sharedSession (show 2 < UInt32.size by decide)
  obtain ⟨-, hlock, -, hcount, -, -, hrate⟩ := accounting_exact hreachable
  have hcounted : (stereo.run sharedSession).counted = 1 := by decide +kernel
  have hcommitted : (stereo.run sharedSession).lifecycle.state.committedRate = some 48000 := by
    decide +kernel
  refine ⟨hreachable, hlock.2 rfl, UInt32.toNat_inj.1 ?_, (hrate _).1 hcommitted⟩
  rw [hcount, hcounted]
  rfl

/-! ### Crowds -/

/-- Outsiders may join a running pair in any number. -/
theorem Reachable.crowd {limit : Nat} (hreachable : Reachable limit device ledger)
    (hattached : device.attached = true) (hrunning : device.lifecycle.state.running = true)
    (number : Nat) (hfew : device.counted + (ledger.joined + number - ledger.left) < limit) :
    Reachable limit { device with lifecycle := device.lifecycle.crowd number }
      { ledger with joined := ledger.joined + number } := by
  induction number with
  | zero =>
    rw [Lifecycle.crowd_zero]
    exact hreachable
  | succ number ih =>
    have hcrowded := ih (by omega)
    have hstill : (device.lifecycle.crowd number).state.running = true := hrunning
    obtain ⟨outcome, hjoin⟩ := Lifecycle.exists_join_of_running hstill 48000
    rw [Lifecycle.addSubstream_crowd] at hjoin
    have hstep : ({ device with lifecycle := device.lifecycle.crowd number } : Device).step
        (.lifecycle (.join 48000)) = (.lifecycle (.outcome outcome),
          { device with lifecycle := device.lifecycle.crowd (number + 1) }) := by
      rw [Device.step, withHandle, if_pos hattached]
      simp only [Lifecycle.step, hjoin]
      rfl
    have hjoined := hcrowded.step (.lifecycle (.join 48000)) trivial
    rw [hstep] at hjoined
    exact hjoined hfew

/-- The shared session is joined until `2 ^ 32` additions are outstanding. -/
def crowded : Device :=
  { stereo.run sharedSession with
    lifecycle := (stereo.run sharedSession).lifecycle.crowd (UInt32.size - 2) }

theorem reachable_crowded :
    Reachable (UInt32.size + 1) crowded { opened := 1, joined := UInt32.size, left := 1 } := by
  have hshared := reachable_sharedSession (show 2 < UInt32.size + 1 by decide)
  have hattached : (stereo.run sharedSession).attached = true := by decide +kernel
  have hrunning : (stereo.run sharedSession).lifecycle.state.running = true := by decide +kernel
  have hcounted : (stereo.run sharedSession).counted = 1 := by decide +kernel
  refine hshared.crowd hattached hrunning (UInt32.size - 2) ?_
  rw [hcounted]
  decide

/-- One addition more than the bound allows, and the count is zero under a running substream. -/
theorem accounting_lost_crowded :
    Reachable (UInt32.size + 1) crowded { opened := 1, joined := UInt32.size, left := 1 } ∧
      crowded.additions { opened := 1, joined := UInt32.size, left := 1 } = UInt32.size ∧
      crowded.lifecycle.state = ⟨0, true, some 48000⟩ ∧
      ¬ ∀ limit device ledger, Reachable limit device ledger →
        (device.lifecycle.state.activeSubstreams : Nat) = device.counted + ledger.outstanding ∧
        (device.lifecycle.state.running = true → 0 < device.lifecycle.state.activeSubstreams) := by
  have hstate : crowded.lifecycle.state = ⟨0, true, some 48000⟩ := by decide +kernel
  have hcounted : crowded.counted = 1 := by decide +kernel
  refine ⟨reachable_crowded, by rw [additions, hcounted]; rfl, hstate, fun hexact => ?_⟩
  obtain ⟨hcount, -⟩ := hexact _ _ _ reachable_crowded
  rw [hstate, hcounted] at hcount
  exact absurd hcount (by decide)

end Device
end DuplexAudio
