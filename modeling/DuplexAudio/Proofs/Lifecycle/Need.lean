import DuplexAudio.Proofs.Lifecycle.Count
import DuplexAudio.Proofs.Transport.Journal

/-!
Pairs that run although nobody needs them. Uncounting a substream does not stop the pair, so the
removal of the last one leaves it running, until somebody is counted again or a stop is asked for.
As long as fewer than `2 ^ 32` additions are outstanding this is the only way: after every other run
of operations, a pair that runs is needed by a counted substream.
-/

namespace DuplexAudio.Lifecycle

variable {lifecycle : Lifecycle} {move : Move}

/-- The pair runs, and no substream is counted. -/
structure Unneeded (lifecycle : Lifecycle) : Prop where
  running : lifecycle.state.running = true
  unused : lifecycle.state.activeSubstreams = 0

/-- The pair runs for one substream alone. -/
structure RunsForOne (lifecycle : Lifecycle) : Prop where
  running : lifecycle.state.running = true
  last : lifecycle.state.activeSubstreams = 1

theorem not_unneeded_iff : ¬ lifecycle.Unneeded ↔
    (lifecycle.state.running = true → 0 < lifecycle.state.activeSubstreams) := by
  constructor
  · intro hneeded hrunning
    exact UInt32.pos_iff_ne_zero.2 fun hunused => hneeded ⟨hrunning, hunused⟩
  · rintro hneeded ⟨hrunning, hunused⟩
    exact UInt32.pos_iff_ne_zero.1 (hneeded hrunning) hunused

/-- Requests after which a pair does not run without need: they count a substream, or they stop a
pair that nobody needs. -/
def Action.Settles : Action → Prop
  | .add | .stop | .join _ | .leave => True
  | .remove | .start _ | .triggerPcm _ _ | .triggerMidi _ _ _ | .isRunning => False

def Move.Settles : Move → Prop
  | .ask action => action.Settles
  | .failNext _ => False

/-! ### One operation -/

theorem Unneeded.frame {next : Lifecycle} (hstate : next.state = lifecycle.state) :
    next.Unneeded ↔ lifecycle.Unneeded := by
  constructor
  · rintro ⟨hrunning, hunused⟩
    exact ⟨hstate ▸ hrunning, hstate ▸ hunused⟩
  · rintro ⟨hrunning, hunused⟩
    exact ⟨hstate.symm ▸ hrunning, hstate.symm ▸ hunused⟩

/-- The count after the move is the number that the answer tells: it was not wrapped around. -/
def Counts (lifecycle : Lifecycle) (move : Move) : Prop :=
  ((lifecycle.perform move).state.activeSubstreams : Nat) = lifecycle.outstanding [move]

theorem not_unneeded_addSubstream (hcounts : lifecycle.Counts (.ask .add)) :
    ¬ lifecycle.addSubstream.Unneeded := by
  intro hunneeded
  have hcount : (lifecycle.addSubstream.state.activeSubstreams : Nat) =
      lifecycle.state.activeSubstreams + 1 := hcounts
  rw [hunneeded.unused] at hcount
  exact absurd hcount.symm (Nat.succ_ne_zero _)

/-- Only the removal of the last substream can leave a pair running without need. -/
theorem unneeded_removeSubstream_iff :
    lifecycle.removeSubstream.Unneeded ↔ lifecycle.Unneeded ∨ lifecycle.RunsForOne := by
  have hcount := lifecycle.count_removeSubstream
  constructor
  · rintro ⟨hrunning, hunused⟩
    rw [hunused] at hcount
    rcases Nat.le_one_iff_eq_zero_or_eq_one.1 (Nat.sub_eq_zero_iff_le.1 hcount.symm) with
      hnone | hone
    · exact Or.inl ⟨hrunning, UInt32.toNat_inj.1 hnone⟩
    · exact Or.inr ⟨hrunning, UInt32.toNat_inj.1 hone⟩
  · rintro (⟨hrunning, hunused⟩ | ⟨hrunning, hlast⟩)
    · rw [hunused] at hcount
      exact ⟨hrunning, UInt32.toNat_inj.1 hcount⟩
    · rw [hlast] at hcount
      exact ⟨hrunning, UInt32.toNat_inj.1 hcount⟩

theorem unneeded_ensureStarted_iff (rate : UInt32) :
    (lifecycle.ensureStarted rate).2.Unneeded ↔ lifecycle.Unneeded := by
  rcases lifecycle.ensureStarted_cases rate with
    ⟨-, hcase⟩ | ⟨-, -, hcase⟩ | ⟨-, -, _, -, hcase⟩ | ⟨hused, hidle, -, hcase⟩
  · rw [hcase]
  · rw [hcase]
  · rw [hcase]
    exact Unneeded.frame rfl
  · rw [hcase]
    -- A start makes the pair run, but only for a substream that is counted.
    constructor
    · intro hunneeded
      exact absurd hunneeded.unused (UInt32.pos_iff_ne_zero.1 hused)
    · intro hunneeded
      exact absurd hunneeded.running (by simp [hidle])

theorem not_unneeded_ensureStopped : ¬ lifecycle.ensureStopped.2.Unneeded := by
  rintro ⟨hrunning, hunused⟩
  rcases lifecycle.ensureStopped_cases with ⟨hkeep, hcase⟩ | ⟨-, -, hcase⟩
  · rw [hcase] at hrunning hunused
    rcases hkeep with hused | hidle
    · exact absurd hunused (UInt32.pos_iff_ne_zero.1 hused)
    · exact absurd hrunning (by simp [hidle])
  · rw [hcase] at hrunning
    cases hrunning

theorem not_unneeded_join {rate : UInt32} (hcounts : lifecycle.Counts (.ask (.join rate))) :
    ¬ (lifecycle.join rate).2.Unneeded := by
  rintro ⟨hrunning, hunused⟩
  rcases lifecycle.join_cases rate with
    ⟨-, hcase⟩ | ⟨hused, -, hcase⟩ | ⟨-, hidle, _, -, hcase⟩ | ⟨hused, -, -, hcase⟩
  · have hcount : ((lifecycle.join rate).2.state.activeSubstreams : Nat) =
        tally lifecycle.state.activeSubstreams (.join rate, .ofOutcome (lifecycle.join rate).1) :=
      hcounts
    rw [hunused, hcase] at hcount
    exact absurd hcount.symm (Nat.succ_ne_zero _)
  · rw [hcase] at hunused
    exact UInt32.pos_iff_ne_zero.1 hused hunused
  · rw [hcase] at hrunning
    exact absurd (hidle.symm.trans hrunning) (by simp)
  · rw [hcase] at hunused
    exact UInt32.pos_iff_ne_zero.1 hused hunused

/-- All that a move can do about the need for the pair. -/
theorem unneeded_perform_iff (hcounts : lifecycle.Counts move) :
    (lifecycle.perform move).Unneeded ↔
      (lifecycle.Unneeded ∧ ¬ move.Settles) ∨ (move = .ask .remove ∧ lifecycle.RunsForOne) := by
  cases move with
  | failNext reason =>
    have hsame : (lifecycle.perform (.failNext reason)).Unneeded ↔ lifecycle.Unneeded :=
      Unneeded.frame rfl
    simp [hsame, Move.Settles]
  | ask action =>
    cases action with
    | add =>
      have hsettled : ¬ (lifecycle.perform (.ask .add)).Unneeded :=
        not_unneeded_addSubstream hcounts
      simp [hsettled, Move.Settles, Action.Settles]
    | remove =>
      have hremoved : (lifecycle.perform (.ask .remove)).Unneeded ↔
          lifecycle.Unneeded ∨ lifecycle.RunsForOne := unneeded_removeSubstream_iff
      simp [hremoved, Move.Settles, Action.Settles]
    | start rate =>
      have hsame : (lifecycle.perform (.ask (.start rate))).Unneeded ↔ lifecycle.Unneeded :=
        unneeded_ensureStarted_iff rate
      simp [hsame, Move.Settles, Action.Settles]
    | stop =>
      have hsettled : ¬ (lifecycle.perform (.ask .stop)).Unneeded := not_unneeded_ensureStopped
      simp [hsettled, Move.Settles, Action.Settles]
    | join rate =>
      have hsettled : ¬ (lifecycle.perform (.ask (.join rate))).Unneeded :=
        not_unneeded_join hcounts
      simp [hsettled, Move.Settles, Action.Settles]
    | leave =>
      have hsettled : ¬ (lifecycle.perform (.ask .leave)).Unneeded := not_unneeded_ensureStopped
      simp [hsettled, Move.Settles, Action.Settles]
    | triggerPcm direction substream =>
      have hsame : (lifecycle.perform (.ask (.triggerPcm direction substream))).Unneeded ↔
          lifecycle.Unneeded := Unneeded.frame rfl
      simp [hsame, Move.Settles, Action.Settles]
    | triggerMidi direction port substream =>
      have hsame : (lifecycle.perform (.ask (.triggerMidi direction port substream))).Unneeded ↔
          lifecycle.Unneeded := Unneeded.frame rfl
      simp [hsame, Move.Settles, Action.Settles]
    | isRunning =>
      have hsame : (lifecycle.perform (.ask .isRunning)).Unneeded ↔ lifecycle.Unneeded := Iff.rfl
      simp [hsame, Move.Settles, Action.Settles]

/-! ### Runs -/

/-- The run took the last substream from a running pair, and settled nothing since. -/
def StrandedBy (lifecycle : Lifecycle) (moves : List Move) : Prop :=
  ∃ done rest, moves = done ++ .ask .remove :: rest ∧ (lifecycle.after done).RunsForOne ∧
    ∀ move ∈ rest, ¬ move.Settles

theorem not_strandedBy_nil : ¬ lifecycle.StrandedBy [] := by
  rintro ⟨done, rest, heq, -⟩
  simp at heq

theorem strandedBy_append_singleton (moves : List Move) :
    lifecycle.StrandedBy (moves ++ [move]) ↔
      (lifecycle.StrandedBy moves ∧ ¬ move.Settles) ∨
        (move = .ask .remove ∧ (lifecycle.after moves).RunsForOne) := by
  constructor
  · rintro ⟨done, rest, heq, hone, hrest⟩
    rcases split_append_singleton heq with ⟨rfl, hremove, -⟩ | ⟨earlier, rfl, hmoves⟩
    · exact Or.inr ⟨hremove.symm, hone⟩
    · refine Or.inl ⟨⟨done, earlier, hmoves, hone, fun other hmem => ?_⟩, ?_⟩
      · exact hrest other (by simp [hmem])
      · exact hrest move (by simp)
  · rintro (⟨⟨done, rest, rfl, hone, hrest⟩, hmove⟩ | ⟨rfl, hone⟩)
    · refine ⟨done, rest ++ [move], by simp, hone, fun other hmem => ?_⟩
      rcases List.mem_append.1 hmem with hmem | hmem
      · exact hrest other hmem
      · rw [List.mem_singleton.1 hmem]
        exact hmove
    · exact ⟨moves, [], rfl, hone, by simp⟩

theorem unneeded_after_iff (hneeded : ¬ lifecycle.Unneeded) {moves : List Move}
    (hfew : lifecycle.FewOutstanding moves) :
    (lifecycle.after moves).Unneeded ↔ lifecycle.StrandedBy moves := by
  induction moves using List.reverseRecOn with
  | nil =>
    constructor
    · exact fun hunneeded => absurd hunneeded hneeded
    · exact fun hstranded => absurd hstranded not_strandedBy_nil
  | append_singleton moves move ih =>
    have hbefore := hfew.of_append
    have hcounts : (lifecycle.after moves).Counts move := by
      have hcount := count_after hfew
      rwa [after_append_singleton, outstanding_append_singleton (count_after hbefore)] at hcount
    rw [after_append_singleton, unneeded_perform_iff hcounts, strandedBy_append_singleton,
      ih hbefore]

/-- After every run with fewer than `2 ^ 32` additions outstanding, a pair that runs is needed by a
counted substream, unless the run took the last substream from a running pair and since then neither
counted one nor asked for a stop. -/
theorem running_needed_iff_not_stranded {clock : Clock} {drivesClock : Bool} {moves : List Move}
    (hfew : (attached clock drivesClock).FewOutstanding moves) :
    (((attached clock drivesClock).after moves).state.running = true →
      0 < ((attached clock drivesClock).after moves).state.activeSubstreams) ↔
      ¬ (attached clock drivesClock).StrandedBy moves := by
  have hidle : ¬ (attached clock drivesClock).Unneeded := fun hunneeded =>
    Bool.false_ne_true hunneeded.running
  rw [← not_unneeded_iff, unneeded_after_iff hidle hfew]

/-- The only substream is counted and the pair started, then the substream is removed. -/
def lastRemoved : List Move := [.ask (.join 48000), .ask .remove]

theorem strandedBy_lastRemoved : (attached {} false).StrandedBy lastRemoved :=
  ⟨[.ask (.join 48000)], [], rfl, ⟨rfl, rfl⟩, by simp⟩

/-- The removal of the last substream is followed by a start, which settles nothing. -/
theorem running_needed_iff_not_stranded_lastRemoved :
    (attached {} false).FewOutstanding (lastRemoved ++ [.ask (.start 48000)]) ∧
      ¬ (((attached {} false).after (lastRemoved ++ [.ask (.start 48000)])).state.running = true →
        0 < ((attached {} false).after
          (lastRemoved ++ [.ask (.start 48000)])).state.activeSubstreams) := by
  have hfew : (attached {} false).FewOutstanding (lastRemoved ++ [.ask (.start 48000)]) :=
    fewOutstanding_of_length_lt (by decide)
  refine ⟨hfew, fun hneeded => (running_needed_iff_not_stranded hfew).1 hneeded ?_⟩
  exact strandedBy_append_singleton _ |>.2 (Or.inl ⟨strandedBy_lastRemoved, id⟩)

/-- Joining a running pair until `2 ^ 32` additions are outstanding wraps the count around. -/
theorem unneeded_after_overflow (hrunning : lifecycle.state.running = true) (rate : UInt32) :
    (lifecycle.after (List.replicate (UInt32.size - lifecycle.state.activeSubstreams)
      (.ask (.join rate)))).Unneeded := by
  rw [after_replicate_join hrunning]
  have hcount : ((lifecycle.crowd (UInt32.size - lifecycle.state.activeSubstreams)).state
      |>.activeSubstreams : Nat) = 0 := by
    have hlt : (lifecycle.state.activeSubstreams : Nat) < UInt32.size := UInt32.toNat_lt _
    rw [count_crowd, Nat.add_sub_cancel' (Nat.le_of_lt hlt), Nat.mod_self]
  exact ⟨hrunning, UInt32.toNat_inj.1 hcount⟩

/-- The first join starts the pair, and `number` more follow. -/
def joins (number : Nat) : List Move :=
  .ask (.join 48000) :: List.replicate number (.ask (.join 48000))

theorem not_strandedBy_joins (number : Nat) : ¬ lifecycle.StrandedBy (joins number) := by
  rintro ⟨done, rest, heq, -⟩
  have hremoved : Move.ask .remove ∈ joins number := by simp [heq]
  rcases List.mem_cons.1 hremoved with hjoin | hjoins
  · cases hjoin
  · cases List.eq_of_mem_replicate hjoins

theorem unneeded_after_joins : ((attached {} false).after (joins (UInt32.size - 1))).Unneeded := by
  have hcount : (((attached {} false).perform (.ask (.join 48000))).state.activeSubstreams : Nat) =
      1 := rfl
  have hrunning : ((attached {} false).perform (.ask (.join 48000))).state.running = true := rfl
  rw [joins, after_cons, ← hcount]
  exact unneeded_after_overflow hrunning 48000

/-- The pair runs on with nobody counted, once the last substream was removed and once the count has
wrapped around. Only the first run is stranded. -/
theorem running_unneeded_by_removal_or_overflow :
    ((attached {} false).after lastRemoved).Unneeded ∧
      ((attached {} false).after (joins (UInt32.size - 1))).Unneeded ∧
      ¬ (attached {} false).StrandedBy (joins (UInt32.size - 1)) ∧
      ¬ ∀ moves, ((attached {} false).after moves).state.running = true →
        0 < ((attached {} false).after moves).state.activeSubstreams := by
  have hremoved : ((attached {} false).after lastRemoved).Unneeded := ⟨rfl, rfl⟩
  refine ⟨hremoved, unneeded_after_joins, not_strandedBy_joins _, fun hneeded => ?_⟩
  exact not_unneeded_iff.2 (hneeded lastRemoved) hremoved

end DuplexAudio.Lifecycle
