import DuplexAudio.Interval.Basic
import DuplexAudio.Midi

/-!
MIDI ports of a direction. The formats offer as many as the mode with the most of them, so there is
one exactly if some mode declares one, enabled or not.
-/

namespace DuplexAudio

namespace ModeTable

theorem lt_foldl_midiPorts_iff {modes : List OperatingMode} {bound most : UInt32} :
    bound < modes.foldl (fun most mode => max most mode.midiPorts) most ↔
      bound < most ∨ ∃ mode ∈ modes, bound < mode.midiPorts := by
  induction modes generalizing most with
  | nil => simp
  | cons first rest ih =>
    have hmax : bound < max most first.midiPorts ↔ bound < most ∨ bound < first.midiPorts := by
      simp only [UInt32.lt_iff_toNat_lt, Interval.toNat_max]
      omega
    rw [List.foldl_cons, ih, hmax]
    simp only [List.mem_cons, exists_eq_or_imp, or_assoc]

theorem midiPorts_pos_iff {table : ModeTable} :
    0 < table.midiPorts ↔ ∃ mode ∈ table.modes, 0 < mode.midiPorts := by
  rw [midiPorts, lt_foldl_midiPorts_iff]
  exact or_iff_right (UInt32.lt_irrefl 0)

theorem midiPorts_le (table : ModeTable) : table.midiPorts ≤ OperatingMode.maxMidiPorts := by
  rw [← UInt32.not_lt, midiPorts, lt_foldl_midiPorts_iff]
  rintro (hnone | ⟨mode, hmode, hlt⟩)
  · exact absurd hnone (by decide)
  · exact UInt32.not_lt.2 (table.wellFormed mode hmode).midiPorts_le hlt

theorem le_midiPorts {table : ModeTable} {mode : OperatingMode} (hmode : mode ∈ table.modes) :
    mode.midiPorts ≤ table.midiPorts := by
  rw [← UInt32.not_lt]
  intro hlt
  exact UInt32.lt_irrefl _ (lt_foldl_midiPorts_iff.2 (.inr ⟨mode, hmode, hlt⟩))

/-- The mode with the most ports declares them all. -/
theorem midiPorts_eq_zero_or_declared (table : ModeTable) :
    table.midiPorts = 0 ∨ ∃ mode ∈ table.modes, mode.midiPorts = table.midiPorts := by
  rw [Classical.or_iff_not_imp_left]
  intro hzero
  have hpos : 0 < table.midiPorts.toNat := Nat.pos_of_ne_zero fun h => hzero (UInt32.toNat_inj.1 h)
  have hone : (1 : UInt32) ≤ table.midiPorts := UInt32.le_iff_toNat_le.2 hpos
  have hbelow : table.midiPorts - 1 < table.midiPorts := by
    rw [UInt32.lt_iff_toNat_lt, UInt32.toNat_sub_of_le _ _ hone]
    exact Nat.sub_lt hpos Nat.one_pos
  rcases lt_foldl_midiPorts_iff.1 hbelow with hnone | ⟨mode, hmode, hlt⟩
  · exact absurd hnone (UInt32.not_lt.2 (UInt32.le_iff_toNat_le.2 (Nat.zero_le _)))
  · refine ⟨mode, hmode, UInt32.le_antisymm (le_midiPorts hmode) ?_⟩
    rw [UInt32.lt_iff_toNat_lt, UInt32.toNat_sub_of_le _ _ hone] at hlt
    exact UInt32.le_iff_toNat_le.2 (Nat.le_of_pred_lt hlt)

end ModeTable

namespace StreamFormats

variable {formats : StreamFormats} {direction : Direction}

/-- Formats without any port in either direction offer none, as their tables say. -/
theorem availablePorts_eq_midiPorts (formats : StreamFormats) (direction : Direction) :
    formats.availablePorts direction = formats.midiPorts direction := by
  unfold availablePorts MidiPorts.ofFormats?
  by_cases hnone : (formats.midiPorts .capture).toNat + (formats.midiPorts .playback).toNat = 0
  · obtain ⟨hcapture, hplayback⟩ := Nat.add_eq_zero_iff.1 hnone
    simp only [hnone, if_true]
    apply UInt32.toNat_inj.1
    cases direction with
    | capture => exact hcapture.symm
    | playback => exact hplayback.symm
  · simp only [hnone, if_false]
    cases direction <;> rfl

/-- Some mode of the direction declares a port. -/
def DeclaresPort (formats : StreamFormats) (direction : Direction) : Prop :=
  ∃ mode ∈ (formats.forDirection direction).modes, 0 < mode.midiPorts

instance (formats : StreamFormats) (direction : Direction) :
    Decidable (formats.DeclaresPort direction) :=
  inferInstanceAs (Decidable (∃ mode ∈ (formats.forDirection direction).modes, 0 < mode.midiPorts))

/-- The ports of both directions together are far from overflowing. -/
theorem midiPorts_add_lt (formats : StreamFormats) :
    (formats.midiPorts .capture).toNat + (formats.midiPorts .playback).toNat < UInt32.size := by
  have hcapture := UInt32.le_iff_toNat_le.1 (formats.transmit.midiPorts_le)
  have hplayback := UInt32.le_iff_toNat_le.1 (formats.receive.midiPorts_le)
  calc (formats.midiPorts .capture).toNat + (formats.midiPorts .playback).toNat
      ≤ 255 + 255 := Nat.add_le_add hcapture hplayback
    _ < UInt32.size := by decide

theorem availablePorts_pos_iff :
    0 < formats.availablePorts direction ↔ formats.DeclaresPort direction := by
  rw [availablePorts_eq_midiPorts, midiPorts, ModeTable.midiPorts_pos_iff, DeclaresPort]

end StreamFormats
end DuplexAudio
