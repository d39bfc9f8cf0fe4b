import DuplexAudio.Proofs.Device.Transition
import DuplexAudio.Proofs.Mode.Ports
import Mathlib.Data.List.Nodup

/-!
The MIDI ports that a device lists are the ones that can be opened on it, each under the name it is
listed with. Ports are counted in 32 bits and addressed by one byte; no table declares more than a
byte can address, so the list leaves none out.
-/

namespace DuplexAudio

/-- A name tells its port: decimal numerals of different numbers differ. -/
theorem midiPortName_injective (device : String) : Function.Injective (midiPortName device) := by
  intro first second hname
  have hnumber : (first.toNat + 1).repr = (second.toNat + 1).repr := by
    simpa [midiPortName, toString] using hname
  have hdigits : Nat.toDigits 10 (first.toNat + 1) = Nat.toDigits 10 (second.toNat + 1) := by
    rw [← Nat.toList_repr, ← Nat.toList_repr, hnumber]
  have hvalue := congrArg (Nat.ofDigitChars 10 · 0) hdigits
  simp only [Nat.ofDigitChars_ten_toDigits] at hvalue
  exact UInt8.toNat_inj.1 (Nat.succ_inj.1 hvalue)

namespace MidiPorts

variable {ports : MidiPorts} {device : String} {direction : Direction}

theorem length_portNames (hbyte : (ports.count direction).toNat ≤ 255) :
    (ports.portNames device direction).length = (ports.count direction).toNat := by
  rw [portNames, List.length_map, List.length_range]
  exact Nat.min_eq_left (Nat.le_succ_of_le hbyte)

theorem getElem?_portNames {port : UInt8} (hport : port.toNat < (ports.count direction).toNat) :
    (ports.portNames device direction)[port.toNat]? = some (midiPortName device port) := by
  have hlisted : port.toNat < min (ports.count direction).toNat 256 :=
    Nat.lt_min.2 ⟨hport, port.toNat_lt⟩
  rw [portNames, List.getElem?_map, List.getElem?_range hlisted, Option.map_some,
    UInt8.ofNat_toNat]

theorem nodup_portNames (ports : MidiPorts) (device : String) (direction : Direction) :
    (ports.portNames device direction).Nodup := by
  refine List.Nodup.map_on (fun first hfirst second hsecond hname => ?_) List.nodup_range
  have hbyte : ∀ port ∈ List.range (min (ports.count direction).toNat 256),
      (UInt8.ofNat port).toNat = port := by
    intro port hport
    exact Nat.mod_eq_of_lt (Nat.lt_of_lt_of_le (List.mem_range.1 hport) (Nat.min_le_right _ _))
  rw [← hbyte first hfirst, ← hbyte second hsecond, midiPortName_injective device hname]

end MidiPorts

namespace StreamFormats

variable {formats : StreamFormats} {direction : Direction}

/-- The names of the ports in one direction; formats without MIDI list none. -/
def portNames (formats : StreamFormats) (device : String) (direction : Direction) : List String :=
  match MidiPorts.ofFormats? formats with
  | some ports => ports.portNames device direction
  | none => []

/-- As many ports are listed as there are: one byte can address all of them. -/
theorem length_portNames (formats : StreamFormats) (device : String) (direction : Direction) :
    (formats.portNames device direction).length = (formats.availablePorts direction).toNat := by
  have hbyte : (formats.availablePorts direction).toNat ≤ 255 := by
    rw [availablePorts_eq_midiPorts]
    exact UInt32.le_iff_toNat_le.1 (formats.forDirection direction).midiPorts_le
  revert hbyte
  rw [portNames, availablePorts]
  cases MidiPorts.ofFormats? formats with
  | none => exact fun _ => rfl
  | some ports => exact MidiPorts.length_portNames

theorem getElem?_portNames {device : String} {port : UInt8}
    (hport : port.toNat < (formats.availablePorts direction).toNat) :
    (formats.portNames device direction)[port.toNat]? = some (midiPortName device port) := by
  revert hport
  rw [portNames, availablePorts]
  cases MidiPorts.ofFormats? formats with
  | none => exact fun hport => absurd hport (Nat.not_lt_zero _)
  | some ports => exact MidiPorts.getElem?_portNames

theorem nodup_portNames (formats : StreamFormats) (device : String) (direction : Direction) :
    (formats.portNames device direction).Nodup := by
  rw [portNames]
  split
  · exact MidiPorts.nodup_portNames _ _ _
  · exact .nil

end StreamFormats

namespace Device

section Opening

variable {device : Device} {direction : Direction} {port : UInt8}

theorem exists_joinRate (hreachable : device.clock.unreachable = false) :
    ∃ rate, device.joinRate = .ok rate := by
  unfold joinRate
  split
  · exact ⟨_, rfl⟩
  · rw [Clock.readRate, hreachable]
    exact ⟨_, rfl⟩

theorem exists_join (hready : device.transport.failNext = none) (rate : UInt32) :
    ∃ outcome lifecycle, device.lifecycle.join rate = (.ok outcome, lifecycle) := by
  rcases device.lifecycle.join_cases rate with
    ⟨-, hjoin⟩ | ⟨-, -, hjoin⟩ | ⟨-, -, reason, hfail, -⟩ | ⟨-, -, -, hjoin⟩
  · exact ⟨_, _, hjoin⟩
  · exact ⟨_, _, hjoin⟩
  · cases hready.symm.trans hfail
  · exact ⟨_, _, hjoin⟩

theorem availablePorts_le_iff (formats : StreamFormats) (name : String) (direction : Direction) :
    formats.availablePorts direction ≤ port.toUInt32 ↔
      ¬ port.toNat < (formats.portNames name direction).length := by
  rw [StreamFormats.length_portNames, UInt32.le_iff_toNat_le, UInt8.toNat_toUInt32, Nat.not_lt]

/-- Whether the pair runs already or has to be started, a listed port opens. -/
theorem exists_openMidi (hfree : device.lock.held = false)
    (havailable : device.source.failing = false) (hreachable : device.clock.unreachable = false)
    (hready : device.transport.failNext = none)
    (hport : port.toNat < (device.source.formats.portNames device.name direction).length) :
    ∃ next, device.openMidi direction port = (.ok { id := device.nextId, direction, port }, next) ∧
      next.name = device.name ∧
      next.substream = some (.midi { id := device.nextId, direction, port }) := by
  obtain ⟨rate, hrate⟩ := exists_joinRate hreachable
  obtain ⟨outcome, lifecycle, hjoin⟩ := exists_join hready rate
  have hlisted : ¬ device.source.formats.availablePorts direction ≤ port.toUInt32 := by
    rw [availablePorts_le_iff _ device.name]
    exact not_not_intro hport
  exact ⟨_, openMidi_of_join_eq_ok hfree havailable hlisted hrate hjoin, rfl, rfl⟩

end Opening

/-- **Listed and openable.** As many ports are listed as the mode with the most of them declares, all
under different names. On a device whose lock is free, whose formats and clock can be read and whose
pair starts, a port beyond the list is turned away for that, and any other opens under the name it is
listed with. -/
theorem openable_iff_listed (formats : StreamFormats) (name : String) (direction : Direction) :
    let names := formats.portNames name direction
    (∀ mode ∈ (formats.forDirection direction).modes, mode.midiPorts.toNat ≤ names.length) ∧
    (names.length = 0 ∨
      ∃ mode ∈ (formats.forDirection direction).modes, mode.midiPorts.toNat = names.length) ∧
    names.Nodup ∧
    ∀ device : Device, device.name = name → device.source.formats = formats →
      device.lock.held = false → device.source.failing = false →
      device.clock.unreachable = false → device.transport.failNext = none → ∀ port : UInt8,
        ((device.openMidi direction port).1 = .error (.noSuchPort direction port) ↔
          ¬ port.toNat < names.length) ∧
        (port.toNat < names.length → ∃ midi next,
          device.openMidi direction port = (.ok midi, next) ∧ next.substream = some (.midi midi) ∧
          midi.direction = direction ∧ midi.port = port ∧
          names[port.toNat]? = some (midiPortName next.name midi.port)) := by
  intro names
  have hlength : names.length = (formats.forDirection direction).midiPorts.toNat := by
    rw [StreamFormats.length_portNames, StreamFormats.availablePorts_eq_midiPorts]
    rfl
  refine ⟨?_, ?_, formats.nodup_portNames name direction, ?_⟩
  · intro mode hmode
    rw [hlength]
    exact UInt32.le_iff_toNat_le.1 (ModeTable.le_midiPorts hmode)
  · rw [hlength]
    rcases (formats.forDirection direction).midiPorts_eq_zero_or_declared with
      hzero | ⟨mode, hmode, hports⟩
    · exact .inl (congrArg UInt32.toNat hzero)
    · exact .inr ⟨mode, hmode, congrArg UInt32.toNat hports⟩
  · rintro device rfl rfl hfree havailable hreachable hready port
    have hopens (hport : port.toNat < names.length) :=
      exists_openMidi hfree havailable hreachable hready hport
    refine ⟨⟨fun hrefused hport => ?_, fun hport => ?_⟩, fun hport => ?_⟩
    · obtain ⟨next, hopen, -⟩ := hopens hport
      rw [hopen] at hrefused
      cases hrefused
    · rw [openMidi_of_no_port hfree havailable ((availablePorts_le_iff _ _ _).2 hport)]
    · obtain ⟨next, hopen, hname, hsubstream⟩ := hopens hport
      refine ⟨_, next, hopen, hsubstream, rfl, rfl, ?_⟩
      rw [hname]
      exact StreamFormats.getElem?_portNames (StreamFormats.length_portNames _ _ _ ▸ hport)

/-- Two ports to capture from and none to play back to. -/
def capturePorts : StreamFormats where
  transmit := (ModeTable.ofClockRates (8, 8) (8, 4) (8, 0)).withMidiPorts 2
  receive := .ofClockRates (8, 8) (8, 4) (8, 0)

theorem openable_iff_listed_capturePorts :
    let device : Device := .attach "Traveler" capturePorts {} false
    device.lock.held = false ∧ device.source.failing = false ∧
      device.clock.unreachable = false ∧ device.transport.failNext = none ∧
      (∃ midi next, device.openMidi .capture 1 = (.ok midi, next) ∧
        midiPortName next.name midi.port = "Traveler MIDI 2") ∧
      (device.openMidi .capture 2).1 = .error (.noSuchPort .capture 2) ∧
      (device.openMidi .playback 0).1 = .error (.noSuchPort .playback 0) := by
  intro device
  have hcapture : capturePorts.portNames "Traveler" .capture =
      ["Traveler MIDI 1", "Traveler MIDI 2"] := by
    decide +kernel
  have hplayback : capturePorts.portNames "Traveler" .playback = [] := by decide +kernel
  obtain ⟨-, -, -, hopens⟩ := openable_iff_listed capturePorts "Traveler" .capture
  obtain ⟨-, -, -, hrefuses⟩ := openable_iff_listed capturePorts "Traveler" .playback
  obtain ⟨-, hsecond⟩ := hopens device rfl rfl rfl rfl rfl rfl 1
  obtain ⟨hthird, -⟩ := hopens device rfl rfl rfl rfl rfl rfl 2
  obtain ⟨hfirst, -⟩ := hrefuses device rfl rfl rfl rfl rfl rfl 0
  rw [hcapture] at hsecond hthird
  rw [hplayback] at hfirst
  refine ⟨rfl, rfl, rfl, rfl, ?_, hthird.2 (by decide), hfirst.2 (by decide)⟩
  obtain ⟨midi, next, hopen, -, -, -, hname⟩ := hsecond (by decide)
  exact ⟨midi, next, hopen, (Option.some.inj hname).symm⟩

end Device
end DuplexAudio
