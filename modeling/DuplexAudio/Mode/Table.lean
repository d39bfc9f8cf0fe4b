import DuplexAudio.Mode.Basic

/-!
Mode tables: ordered sequences of operating modes in which every rate belongs to one mode. The
table carries the proof of that; `ModeTable.ofModes?` is the only check, and names the first fault.
-/

namespace DuplexAudio

/-- No rate is listed by two of the modes. -/
def RatesDisjoint (modes : List OperatingMode) : Prop :=
  modes.Pairwise fun first second => ∀ rate ∈ first.rates, rate ∉ second.rates

structure ModeTable where
  modes : List OperatingMode
  wellFormed : ∀ mode ∈ modes, mode.WellFormed
  disjoint : RatesDisjoint modes
  deriving DecidableEq

/-- Why a list of modes is not a mode table. -/
inductive TableFault
  | unsorted (index : Nat) (rates : List UInt32)
  | tooManyPorts (index : Nat) (ports : UInt32)
  | zeroRate (index : Nat)
  | sharedRate (rate : UInt32)
  deriving DecidableEq, Repr

def TableFault.reason : TableFault → String
  | .unsorted index rates =>
    s!"mode {index} rates are not strictly ascending: [" ++
      String.intercalate ", " (rates.map toString) ++ "]"
  | .tooManyPorts index ports =>
    s!"mode {index} has {ports} MIDI ports, at most {OperatingMode.maxMidiPorts} are addressable"
  | .zeroRate index => s!"mode {index} lists a zero rate"
  | .sharedRate rate => s!"rate {rate} belongs to more than one mode"

def TableFault.message (fault : TableFault) : String := "Invalid mode table: " ++ fault.reason

namespace ModeTable

/-- The first fault of the modes from position `index` on, when `seen` are the rates before it. -/
def firstFault (index : Nat) (seen : List UInt32) : List OperatingMode → Option TableFault
  | [] => none
  | mode :: rest =>
    if ¬ mode.rates.Pairwise (· < ·) then some (.unsorted index mode.rates)
    else if OperatingMode.maxMidiPorts < mode.midiPorts then
      some (.tooManyPorts index mode.midiPorts)
    else if 0 ∈ mode.rates then some (.zeroRate index)
    else match mode.rates.find? (seen.contains ·) with
      | some rate => some (.sharedRate rate)
      | none => firstFault (index + 1) (seen ++ mode.rates) rest

theorem firstFault_eq_none_iff (index : Nat) (seen : List UInt32) (modes : List OperatingMode) :
    firstFault index seen modes = none ↔
      (∀ mode ∈ modes, mode.WellFormed) ∧ RatesDisjoint modes ∧
        ∀ mode ∈ modes, ∀ rate ∈ mode.rates, rate ∉ seen := by
  induction modes generalizing index seen with
  | nil => simp [firstFault, RatesDisjoint]
  | cons mode rest ih =>
    rw [firstFault]
    by_cases hasc : ¬ mode.rates.Pairwise (· < ·)
    · simp only [hasc, not_false_eq_true, if_true, reduceCtorEq, false_iff]
      exact fun h => hasc (h.1 mode (by simp)).ascending
    replace hasc := Decidable.not_not.1 hasc
    by_cases hports : OperatingMode.maxMidiPorts < mode.midiPorts
    · simp only [hasc, hports, not_true_eq_false, if_true, if_false, reduceCtorEq, false_iff]
      exact fun h => absurd (h.1 mode (by simp)).midiPorts_le (UInt32.not_le.2 hports)
    by_cases hzero : 0 ∈ mode.rates
    · simp only [hasc, hports, hzero, not_true_eq_false, if_true, if_false, reduceCtorEq, false_iff]
      exact fun h => (h.1 mode (by simp)).zero_not_mem hzero
    have hmode : mode.WellFormed := ⟨hasc, hzero, UInt32.not_lt.1 hports⟩
    simp only [hasc, hports, hzero, not_true_eq_false, if_false]
    split
    · next rate hfind =>
      simp only [reduceCtorEq, false_iff]
      intro h
      have hseen : rate ∈ seen := by simpa using List.find?_some hfind
      exact h.2.2 mode (by simp) rate (List.mem_of_find?_eq_some hfind) hseen
    · next hfind =>
      have hfresh : ∀ rate ∈ mode.rates, rate ∉ seen := by simpa using hfind
      rw [ih]
      simp only [RatesDisjoint, List.pairwise_cons, List.mem_cons, List.mem_append, not_or,
        forall_eq_or_imp, hmode, true_and]
      constructor
      · rintro ⟨hall, hdis, hrest⟩
        exact ⟨hall, ⟨fun other ho rate hr hr' => (hrest other ho rate hr').2 hr, hdis⟩, hfresh,
          fun other ho rate hr => (hrest other ho rate hr).1⟩
      · rintro ⟨hall, ⟨hcross, hdis⟩, -, hrest⟩
        exact ⟨hall, hdis, fun other ho rate hr =>
          ⟨hrest other ho rate hr, fun hr' => hcross other ho rate hr' hr⟩⟩

def ofModes? (modes : List OperatingMode) : Except TableFault ModeTable :=
  match h : firstFault 0 [] modes with
  | some fault => .error fault
  | none =>
    .ok ⟨modes, ((firstFault_eq_none_iff 0 [] modes).1 h).1,
      ((firstFault_eq_none_iff 0 [] modes).1 h).2.1⟩

def empty : ModeTable := ⟨[], by simp, List.Pairwise.nil⟩

instance : Inhabited ModeTable := ⟨empty⟩

/-- The rates of the transport's clock, two for each mode. -/
def clockRates : List UInt32 := [44100, 48000, 88200, 96000, 176400, 192000]

/-- The table over the clock rates: a low, a middle and a high mode with the given fixed and
variable channels. -/
def ofClockRates (low middle high : UInt32 × UInt32) : ModeTable where
  modes :=
    [{ fixedChannels := low.1, variableChannels := low.2, rates := [44100, 48000] },
     { fixedChannels := middle.1, variableChannels := middle.2, rates := [88200, 96000] },
     { fixedChannels := high.1, variableChannels := high.2, rates := [176400, 192000] }]
  wellFormed := by
    simp only [List.mem_cons, List.not_mem_nil, or_false, forall_eq_or_imp, forall_eq,
      OperatingMode.wellFormed_iff]
    decide
  disjoint := by
    simp only [RatesDisjoint, List.pairwise_cons, List.mem_cons, List.not_mem_nil, or_false,
      forall_eq_or_imp, forall_eq, List.Pairwise.nil, false_implies, implies_true, and_true]
    decide

def withMidiPorts (table : ModeTable) (ports : UInt8) : ModeTable where
  modes := table.modes.map fun mode => { mode with midiPorts := ports.toUInt32 }
  wellFormed := by
    intro mode hmode
    obtain ⟨source, hsource, rfl⟩ := List.mem_map.1 hmode
    have hwell := table.wellFormed source hsource
    refine ⟨hwell.ascending, hwell.zero_not_mem, ?_⟩
    have hports := ports.toNat_lt
    rw [UInt32.le_iff_toNat_le]
    simp only [UInt8.toNat_toUInt32]
    exact Nat.le_of_lt_succ hports
  disjoint := by
    rw [RatesDisjoint, List.pairwise_map]
    exact table.disjoint

def isEmpty (table : ModeTable) : Bool := table.modes.isEmpty

def length (table : ModeTable) : Nat := table.modes.length

/-- Every mode with every rate it lists, in table order. -/
def pairs (table : ModeTable) : List (OperatingMode × UInt32) :=
  table.modes.flatMap fun mode => mode.rates.map (mode, ·)

def modeForRate? (table : ModeTable) (rate : UInt32) : Option OperatingMode :=
  table.modes.find? (·.supportsRate rate)

def midiPorts (table : ModeTable) : UInt32 :=
  table.modes.foldl (fun most mode => max most mode.midiPorts) 0

end ModeTable
end DuplexAudio
