import DuplexAudio.Proofs.Lifecycle.Synchrony
import Mathlib.Data.List.Induction

/-!
The count over whole runs. It can be kept from the answers alone, as a number without a bound. The
word that the lifecycle keeps follows it modulo its size, move by move, and so agrees with it as
long as fewer than `2 ^ 32` additions are outstanding.
-/

namespace DuplexAudio.Lifecycle

variable {lifecycle : Lifecycle} {moves : List Move} {move : Move}

/-- What was asked in a run, with the answers. -/
def transcript (lifecycle : Lifecycle) : List Move → List (Action × Answer)
  | [] => []
  | .ask action :: rest =>
    (action, (lifecycle.step action).1) :: (lifecycle.step action).2.transcript rest
  | .failNext reason :: rest => (lifecycle.perform (.failNext reason)).transcript rest

/-- Keeps count from the answers: additions and successful joins count one more, removals and leaves
one fewer, never below none. -/
def tally (count : Nat) : Action × Answer → Nat
  | (.add, _) | (.join _, .outcome _) => count + 1
  | (.remove, _) | (.leave, _) => count - 1
  | _ => count

/-- The additions that are outstanding after a run, going by the answers. -/
def outstanding (lifecycle : Lifecycle) (moves : List Move) : Nat :=
  (lifecycle.transcript moves).foldl tally lifecycle.state.activeSubstreams

/-- At every point of the run fewer than `2 ^ 32` additions are outstanding. -/
def FewOutstanding (lifecycle : Lifecycle) (moves : List Move) : Prop :=
  ∀ done, done <+: moves → lifecycle.outstanding done < UInt32.size

/-! ### One move -/

theorem tally_le (count : Nat) (entry : Action × Answer) : tally count entry ≤ count + 1 := by
  unfold tally
  split <;> omega

theorem count_step (lifecycle : Lifecycle) (action : Action) :
    ((lifecycle.step action).2.state.activeSubstreams : Nat) =
      tally lifecycle.state.activeSubstreams (action, (lifecycle.step action).1) % UInt32.size := by
  have hsame : (lifecycle.state.activeSubstreams : Nat) =
      lifecycle.state.activeSubstreams % UInt32.size :=
    (Nat.mod_eq_of_lt (UInt32.toNat_lt _)).symm
  have hfewer : (lifecycle.state.activeSubstreams : Nat) - 1 =
      (lifecycle.state.activeSubstreams - 1) % UInt32.size :=
    (Nat.mod_eq_of_lt (Nat.lt_of_le_of_lt (Nat.sub_le _ _) (UInt32.toNat_lt _))).symm
  cases action with
  | add => exact lifecycle.count_addSubstream
  | remove => exact lifecycle.count_removeSubstream.trans hfewer
  | start rate =>
    exact (congrArg UInt32.toNat (lifecycle.activeSubstreams_ensureStarted rate)).trans hsame
  | stop => exact (congrArg UInt32.toNat lifecycle.activeSubstreams_ensureStopped).trans hsame
  | join rate =>
    change ((lifecycle.join rate).2.state.activeSubstreams : Nat) =
      tally lifecycle.state.activeSubstreams (.join rate, .ofOutcome (lifecycle.join rate).1) %
        UInt32.size
    cases hjoin : lifecycle.join rate with
    | mk outcome joined =>
      cases outcome with
      | ok outcome =>
        have hjoined := activeSubstreams_of_join_eq_ok hjoin
        exact (congrArg UInt32.toNat hjoined).trans lifecycle.count_addSubstream
      | error fault =>
        exact (congrArg UInt32.toNat (activeSubstreams_of_join_eq_error hjoin)).trans hsame
  | leave => exact lifecycle.count_leave.trans hfewer
  | triggerPcm | triggerMidi | isRunning => exact hsame

theorem count_perform (lifecycle : Lifecycle) (move : Move) :
    ((lifecycle.perform move).state.activeSubstreams : Nat) =
      lifecycle.outstanding [move] % UInt32.size := by
  cases move with
  | ask action => exact lifecycle.count_step action
  | failNext reason => exact (Nat.mod_eq_of_lt (UInt32.toNat_lt _)).symm

/-! ### Runs -/

theorem transcript_append (lifecycle : Lifecycle) (moves rest : List Move) :
    lifecycle.transcript (moves ++ rest) =
      lifecycle.transcript moves ++ (lifecycle.after moves).transcript rest := by
  induction moves generalizing lifecycle with
  | nil => rfl
  | cons move moves ih =>
    cases move with
    | ask action => exact congrArg ((action, (lifecycle.step action).1) :: ·) (ih _)
    | failNext reason => exact ih _

theorem length_transcript_le (lifecycle : Lifecycle) (moves : List Move) :
    (lifecycle.transcript moves).length ≤ moves.length := by
  induction moves generalizing lifecycle with
  | nil => exact Nat.le_refl 0
  | cons move moves ih =>
    cases move with
    | ask action => exact Nat.succ_le_succ (ih _)
    | failNext reason => exact Nat.le_succ_of_le (ih _)

theorem foldl_tally_le (count : Nat) (entries : List (Action × Answer)) :
    entries.foldl tally count ≤ count + entries.length := by
  induction entries generalizing count with
  | nil => exact Nat.le_refl count
  | cons entry entries ih =>
    have htally := tally_le count entry
    have hrest := ih (tally count entry)
    rw [List.foldl_cons, List.length_cons]
    omega

/-- A run of fewer than `2 ^ 32` moves cannot wrap the count around. -/
theorem fewOutstanding_of_length_lt
    (hshort : lifecycle.state.activeSubstreams + moves.length < UInt32.size) :
    lifecycle.FewOutstanding moves := by
  intro done hstarts
  have hlength := hstarts.length_le
  have hentries := lifecycle.length_transcript_le done
  have houtstanding := foldl_tally_le lifecycle.state.activeSubstreams (lifecycle.transcript done)
  unfold outstanding
  omega

theorem outstanding_append_singleton
    (hcount : ((lifecycle.after moves).state.activeSubstreams : Nat) =
      lifecycle.outstanding moves) :
    lifecycle.outstanding (moves ++ [move]) = (lifecycle.after moves).outstanding [move] := by
  unfold outstanding at *
  rw [transcript_append, List.foldl_append, hcount]

theorem FewOutstanding.of_append {rest : List Move}
    (hfew : lifecycle.FewOutstanding (moves ++ rest)) : lifecycle.FewOutstanding moves :=
  fun done hstarts => hfew done (hstarts.trans (List.prefix_append moves rest))

/-- The word keeps count of a run with few additions outstanding. -/
theorem count_after (hfew : lifecycle.FewOutstanding moves) :
    ((lifecycle.after moves).state.activeSubstreams : Nat) = lifecycle.outstanding moves := by
  induction moves using List.reverseRecOn with
  | nil => rfl
  | append_singleton moves move ih =>
    have hcount := ih hfew.of_append
    have hlast := hfew (moves ++ [move]) List.prefix_rfl
    rw [outstanding_append_singleton hcount] at hlast ⊢
    rw [after_append_singleton, count_perform, Nat.mod_eq_of_lt hlast]

/-! ### Crowds -/

/-- The lifecycle with `number` more substreams counted. -/
def crowd (lifecycle : Lifecycle) (number : Nat) : Lifecycle :=
  { lifecycle with
    state.activeSubstreams := lifecycle.state.activeSubstreams + UInt32.ofNat number }

theorem count_crowd (lifecycle : Lifecycle) (number : Nat) :
    ((lifecycle.crowd number).state.activeSubstreams : Nat) =
      (lifecycle.state.activeSubstreams + number) % UInt32.size := by
  change (lifecycle.state.activeSubstreams + UInt32.ofNat number).toNat = _
  rw [UInt32.toNat_add, UInt32.toNat_ofNat', Nat.add_mod_mod]

theorem crowd_zero (lifecycle : Lifecycle) : lifecycle.crowd 0 = lifecycle :=
  congrArg (fun count => { lifecycle with state.activeSubstreams := count }) (UInt32.add_zero _)

theorem addSubstream_crowd (lifecycle : Lifecycle) (number : Nat) :
    (lifecycle.crowd number).addSubstream = lifecycle.crowd (number + 1) := by
  have hcount : lifecycle.state.activeSubstreams + UInt32.ofNat number + 1 =
      lifecycle.state.activeSubstreams + UInt32.ofNat (number + 1) := by
    rw [UInt32.add_assoc, UInt32.ofNat_add]
    rfl
  exact congrArg (fun count => { lifecycle with state.activeSubstreams := count }) hcount

/-- Whoever joins a running pair is counted, even if that wraps the count around. -/
theorem exists_join_of_running (hrunning : lifecycle.state.running = true) (rate : UInt32) :
    ∃ outcome, lifecycle.join rate = (.ok outcome, lifecycle.addSubstream) := by
  rcases lifecycle.join_cases rate with
    ⟨-, hcase⟩ | ⟨-, -, hcase⟩ | ⟨-, hidle, -⟩ | ⟨-, hidle, -⟩
  · exact ⟨_, hcase⟩
  · exact ⟨_, hcase⟩
  · cases hrunning.symm.trans hidle
  · cases hrunning.symm.trans hidle

theorem after_replicate_join (hrunning : lifecycle.state.running = true) (rate : UInt32)
    (number : Nat) :
    lifecycle.after (List.replicate number (.ask (.join rate))) = lifecycle.crowd number := by
  induction number with
  | zero => exact lifecycle.crowd_zero.symm
  | succ number ih =>
    have hcrowded : (lifecycle.crowd number).state.running = true := hrunning
    obtain ⟨outcome, hjoin⟩ := exists_join_of_running hcrowded rate
    rw [List.replicate_succ', after_append_singleton, ih, ← addSubstream_crowd]
    exact congrArg Prod.snd hjoin

end DuplexAudio.Lifecycle
