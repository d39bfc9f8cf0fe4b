import DuplexAudio.Proofs.Device.Offer
import DuplexAudio.Proofs.Lifecycle.Discipline

/-!
The counters of a device. Every opening uses up one number at most, and what is counted is the open
substream and whatever was counted from outside, so the requests of a run bound the counters.
-/

namespace DuplexAudio.Device

variable {start device next : Device} {request : Request} {reply : Reply} {openings additions : Nat}

def Request.opens : Request → Bool
  | .openPcm _ | .openMidi _ _ => true
  | _ => false

/-- The request may count a substream from outside. -/
def Request.adds : Request → Bool
  | .lifecycle .add | .lifecycle (.join _) => true
  | _ => false

theorem Request.opens_of_isOpening (hopening : request.IsOpening) : request.opens = true := by
  cases request with
  | openPcm => rfl
  | openMidi => rfl
  | _ => exact hopening.elim

/-- The counters are within the number of openings tried and of substreams counted from outside. -/
structure Bounded (device : Device) (openings additions : Nat) : Prop where
  locked : device.lock.held = device.substream.isSome
  lastId : device.lastId.toNat ≤ openings
  generation : device.lock.generation ≤ openings
  active : (device.lifecycle.state.activeSubstreams : Nat) ≤ device.counted + additions

theorem bounded_attach (name : String) (formats : StreamFormats) (clock : Clock)
    (drivesClock : Bool) : Bounded (.attach name formats clock drivesClock) 0 0 where
  locked := rfl
  lastId := Nat.le_refl 0
  generation := Nat.le_refl 0
  active := Nat.le_refl 0

theorem toNat_succ_le (number : UInt32) : (number + 1).toNat ≤ number.toNat + 1 := by
  rw [UInt32.toNat_add]
  exact Nat.mod_le _ _

theorem counted_le_one (device : Device) : device.counted ≤ 1 := by
  unfold counted
  rcases device.substream with _ | ⟨pcm⟩ | ⟨midi⟩
  · exact Nat.zero_le 1
  · change (if pcm.state = .opened then 0 else 1) ≤ 1
    split <;> decide
  · exact Nat.le_refl 1

namespace Bounded

variable (hbounded : Bounded device openings additions)
include hbounded

theorem mono {openings' additions' : Nat} (hopenings : openings ≤ openings')
    (hadditions : additions ≤ additions') :
    Bounded device openings' additions' where
  locked := hbounded.locked
  lastId := Nat.le_trans hbounded.lastId hopenings
  generation := Nat.le_trans hbounded.generation hopenings
  active := Nat.le_trans hbounded.active (Nat.add_le_add_left hadditions _)

theorem active_le : (device.lifecycle.state.activeSubstreams : Nat) ≤ 1 + additions :=
  Nat.le_trans hbounded.active (Nat.add_le_add_right device.counted_le_one additions)

/-- Nothing is open while the lock is free. -/
theorem counted_eq_zero (hfree : device.lock.held = false) : device.counted = 0 := by
  have hlocked := hbounded.locked
  rw [hfree] at hlocked
  rw [counted, Option.isNone_iff_eq_none.1 (Option.isSome_eq_false_iff.1 hlocked.symm)]
  rfl

theorem withLifecycle {lifecycle : Lifecycle}
    (hactive : (lifecycle.state.activeSubstreams : Nat) ≤
      device.lifecycle.state.activeSubstreams) :
    Bounded { device with lifecycle } openings additions :=
  ⟨hbounded.locked, hbounded.lastId, hbounded.generation, Nat.le_trans hactive hbounded.active⟩

theorem withSource (source : FormatSource) : Bounded { device with source } openings additions :=
  ⟨hbounded.locked, hbounded.lastId, hbounded.generation, hbounded.active⟩

theorem turnedAway (hfree : device.lock.held = false) (queries : Nat) {lifecycle : Lifecycle}
    (hactive : (lifecycle.state.activeSubstreams : Nat) ≤
      device.lifecycle.state.activeSubstreams) :
    Bounded { device.turnedAway queries with lifecycle } (openings + 1) additions where
  locked := hfree.symm.trans hbounded.locked
  lastId := Nat.le_succ_of_le hbounded.lastId
  generation := Nat.succ_le_succ hbounded.generation
  active := Nat.le_trans hactive hbounded.active

theorem withOpened (hfree : device.lock.held = false) {substream : Substream}
    {lifecycle : Lifecycle} (hactive : (lifecycle.state.activeSubstreams : Nat) ≤
      device.lifecycle.state.activeSubstreams + substream.counted) :
    Bounded { device.withOpened substream with lifecycle } (openings + 1) additions where
  locked := rfl
  lastId := Nat.le_trans (toNat_succ_le device.lastId) (Nat.succ_le_succ hbounded.lastId)
  generation := Nat.succ_le_succ hbounded.generation
  active := by
    have hbefore := hbounded.active
    rw [hbounded.counted_eq_zero hfree] at hbefore
    change (lifecycle.state.activeSubstreams : Nat) ≤ substream.counted + additions
    omega

theorem withSubstream {old new : Substream} (hopen : device.substream = some old)
    {lifecycle : Lifecycle} (hactive : (lifecycle.state.activeSubstreams : Nat) ≤
      device.lifecycle.state.activeSubstreams + new.counted - old.counted) :
    Bounded { device with lifecycle, substream := some new } openings additions where
  locked := by
    rw [hbounded.locked, hopen]
    rfl
  lastId := hbounded.lastId
  generation := hbounded.generation
  active := by
    have hbefore := hbounded.active
    rw [counted_of_open hopen] at hbefore
    change (lifecycle.state.activeSubstreams : Nat) ≤ new.counted + additions
    omega

theorem settleDetached : Bounded device.settleDetached openings additions := by
  unfold Device.settleDetached
  split
  · exact hbounded
  · exact hbounded.withLifecycle (Nat.le_refl _)

theorem close {substream : Substream} (hopen : device.substream = some substream) :
    Bounded (device.close substream) openings additions := by
  apply settleDetached
  refine ⟨rfl, hbounded.lastId, hbounded.generation, ?_⟩
  have hbefore := hbounded.active
  rw [counted_of_open hopen] at hbefore
  change ((retire device.lifecycle substream).state.activeSubstreams : Nat) ≤ 0 + additions
  rw [count_retire]
  omega

end Bounded

/-! ### One step -/

theorem count_addSubstream_le (lifecycle : Lifecycle) :
    (lifecycle.addSubstream.state.activeSubstreams : Nat) ≤
      lifecycle.state.activeSubstreams + 1 := by
  rw [Lifecycle.count_addSubstream]
  exact Nat.mod_le _ _

theorem count_step_le (lifecycle : Lifecycle) (action : Lifecycle.Action) :
    ((lifecycle.step action).2.state.activeSubstreams : Nat) ≤
      lifecycle.state.activeSubstreams + (Request.lifecycle action).adds.toNat := by
  rw [Lifecycle.count_step]
  refine Nat.le_trans (Nat.mod_le _ _) ?_
  cases action with
  | join rate =>
    change _ ≤ _ + 1
    unfold Lifecycle.tally
    split <;> omega
  | remove | leave => exact Nat.sub_le _ _
  | _ => exact Nat.le_refl _

theorem Bounded.of_transition (hbounded : Bounded device openings additions)
    (htransition : Transition device request reply next) :
    Bounded next (openings + request.opens.toNat) (additions + request.adds.toNat) := by
  -- Only openings and additions from outside need the new bounds.
  have hmore {after : Device} (hafter : Bounded after openings additions) :
      Bounded after (openings + request.opens.toNat) (additions + request.adds.toNat) :=
    hafter.mono (Nat.le_add_right _ _) (Nat.le_add_right _ _)
  cases htransition with
  | idle => exact hmore hbounded
  | turnedAway _ _ queries hopening hfree =>
    rw [Request.opens_of_isOpening hopening]
    exact (hbounded.turnedAway hfree queries (Nat.le_refl _)).mono (Nat.le_refl _)
      (Nat.le_add_right _ _)
  | openedPcm _ _ hfree => exact hbounded.withOpened hfree (Nat.le_refl _)
  | joinRefused _ _ _ _ lifecycle hfree _ hjoin =>
    have hcount := Lifecycle.activeSubstreams_of_join_eq_error hjoin
    exact hbounded.turnedAway hfree _ (Nat.le_of_eq (congrArg UInt32.toNat hcount))
  | openedMidi _ _ _ _ lifecycle hfree _ hjoin =>
    have hcount := Lifecycle.activeSubstreams_of_join_eq_ok hjoin
    refine hbounded.withOpened hfree ?_
    rw [hcount]
    exact count_addSubstream_le device.lifecycle
  | committed _ _ pcm _ hopen hstate =>
    have huncounted : (Substream.pcm pcm).counted = 0 := if_pos hstate
    refine hmore (hbounded.withSubstream hopen ?_)
    rw [huncounted]
    exact count_addSubstream_le device.lifecycle
  | recommitted _ _ pcm _ hopen hstate =>
    refine hmore (hbounded.withSubstream hopen ?_)
    simp [Substream.counted, hstate]
  | freedUncounted pcm hopen hstate =>
    refine hmore (hbounded.withSubstream hopen ?_)
    simp [Substream.counted, hstate, Lifecycle.activeSubstreams_ensureStopped]
  | freed pcm hopen hcounted =>
    refine hmore (hbounded.withSubstream hopen ?_)
    simp [Substream.counted, hcounted, Lifecycle.count_leave]
  | startRefused _ params _ lifecycle _ _ hstart =>
    have hcount := device.lifecycle.activeSubstreams_ensureStarted params.rate
    rw [hstart] at hcount
    exact hmore (hbounded.withLifecycle (Nat.le_of_eq (congrArg UInt32.toNat hcount)))
  | prepared pcm params _ lifecycle hopen hparams hstart =>
    have hcount := device.lifecycle.activeSubstreams_ensureStarted params.rate
    rw [hstart] at hcount
    refine hmore (hbounded.withSubstream hopen ?_)
    have hcounted : (Substream.pcm pcm).counted = 1 := by
      rcases (paramsToPrepare_eq_ok hparams).1 with hstate | hstate
      all_goals simp [Substream.counted, hstate]
    rw [hcounted, hcount]
    exact Nat.le_refl _
  | started _ pcm _ hopen hstate =>
    refine hmore (hbounded.withSubstream hopen ?_)
    simp [Substream.counted, hstate, Lifecycle.triggerPcm]
  | stopped _ pcm _ hopen =>
    refine hmore (hbounded.withSubstream hopen ?_)
    simp only [Substream.counted, SubstreamState.afterStop_eq_opened_iff, Nat.add_sub_cancel]
    exact Nat.le_refl _
  | triggeredMidi up midi hopen =>
    exact hmore (hbounded.withSubstream hopen (Nat.le_refl _))
  | closed _ hopen => exact hmore (hbounded.close hopen)
  | dropped _ hopen => exact hmore (hbounded.close hopen)
  | clockChanged => exact hmore (hbounded.withLifecycle (Nat.le_refl _))
  | formatsFailing | formatsReplaced | formatsQueried => exact hmore (hbounded.withSource _)
  | lifecycleAsked action =>
    refine ⟨hbounded.locked, hbounded.lastId, hbounded.generation, ?_⟩
    have hbefore := hbounded.active
    have hstep := count_step_le device.lifecycle action
    change ((device.lifecycle.step action).2.state.activeSubstreams : Nat) ≤
      device.counted + (additions + (Request.lifecycle action).adds.toNat)
    omega
  | transportAsked action =>
    have hstate := device.lifecycle.state_stepTransport action
    refine hmore (hbounded.withLifecycle (Nat.le_of_eq ?_))
    rw [hstate]
  | detached =>
    have hgone : Bounded { device with attached := false } openings additions :=
      ⟨hbounded.locked, hbounded.lastId, hbounded.generation, hbounded.active⟩
    exact hmore hgone.settleDetached

/-! ### Runs -/

theorem countP_append_singleton (counts : Request → Bool) (requests : List Request)
    (request : Request) : (requests ++ [request]).countP counts =
      requests.countP counts + (counts request).toNat := by
  rw [List.countP_append, List.countP_singleton]
  cases counts request <;> rfl

theorem bounded_run (hfresh : start.Fresh) (requests : List Request) :
    Bounded (start.run requests) (requests.countP Request.opens)
      (requests.countP Request.adds) := by
  induction requests using List.reverseRecOn with
  | nil =>
    obtain ⟨name, formats, clock, drivesClock, rfl⟩ := hfresh
    exact bounded_attach name formats clock drivesClock
  | append_singleton requests request ih =>
    rw [run_append_singleton, countP_append_singleton, countP_append_singleton]
    exact ih.of_transition (step_transition _ request)

end DuplexAudio.Device
