import DuplexAudio.Mode.Table

/-!
Mode tables as partitions. The check accepts exactly the lists of modes in which every rate has one
place, and hands them on as they are, so a rate is looked up in the only mode that lists it.
-/

namespace DuplexAudio.ModeTable

/-- Every mode is well formed by itself, and no rate is listed by two of them. -/
def Valid (modes : List OperatingMode) : Prop :=
  (∀ mode ∈ modes, mode.WellFormed) ∧ RatesDisjoint modes

theorem valid_modes (table : ModeTable) : Valid table.modes :=
  ⟨table.wellFormed, table.disjoint⟩

/-! ### The check -/

theorem firstFault_start_eq_none_iff (modes : List OperatingMode) :
    firstFault 0 [] modes = none ↔ Valid modes := by
  rw [firstFault_eq_none_iff, Valid]
  simp

theorem ofModes?_eq_ok_of_valid {modes : List OperatingMode} (hvalid : Valid modes) :
    ofModes? modes = .ok ⟨modes, hvalid.1, hvalid.2⟩ := by
  have hnone := (firstFault_start_eq_none_iff modes).2 hvalid
  unfold ofModes?
  split
  · next fault hfault =>
    rw [hnone] at hfault
    cases hfault
  · rfl

theorem ofModes?_eq_error_of_not_valid {modes : List OperatingMode} (hinvalid : ¬ Valid modes) :
    ∃ fault, ofModes? modes = .error fault := by
  unfold ofModes?
  split
  · next fault hfault => exact ⟨fault, rfl⟩
  · next hnone => exact absurd ((firstFault_start_eq_none_iff modes).1 hnone) hinvalid

theorem ofModes?_eq_ok_iff {modes : List OperatingMode} {table : ModeTable} :
    ofModes? modes = .ok table ↔ table.modes = modes := by
  constructor
  · intro hok
    by_cases hvalid : Valid modes
    · rw [ofModes?_eq_ok_of_valid hvalid] at hok
      cases hok
      rfl
    · obtain ⟨fault, herror⟩ := ofModes?_eq_error_of_not_valid hvalid
      rw [herror] at hok
      cases hok
  · rintro rfl
    exact ofModes?_eq_ok_of_valid table.valid_modes

theorem exists_ofModes?_eq_ok_iff {modes : List OperatingMode} :
    (∃ table, ofModes? modes = .ok table) ↔ Valid modes := by
  constructor
  · rintro ⟨table, hok⟩
    rw [← ofModes?_eq_ok_iff.1 hok]
    exact table.valid_modes
  · exact fun hvalid => ⟨_, ofModes?_eq_ok_of_valid hvalid⟩

/-! ### Looking up a rate -/

/-- Once a mode lists the rate, no later mode does. -/
theorem filter_supportsRate_eq_toList_find? {modes : List OperatingMode}
    (hdisjoint : RatesDisjoint modes) (rate : UInt32) :
    modes.filter (·.supportsRate rate) = (modes.find? (·.supportsRate rate)).toList := by
  induction modes with
  | nil => rfl
  | cons mode rest ih =>
    obtain ⟨hcross, hrest⟩ := List.pairwise_cons.1 hdisjoint
    by_cases hlists : mode.supportsRate rate = true
    · have hnone : rest.filter (·.supportsRate rate) = [] := by
        rw [List.filter_eq_nil_iff]
        intro other hother hlists'
        rw [OperatingMode.supportsRate, List.contains_iff_mem] at hlists hlists'
        exact hcross other hother rate hlists hlists'
      simp [hlists, hnone]
    · simp only [List.filter_cons, List.find?_cons, hlists]
      exact ih hrest

variable {table : ModeTable} {mode other : OperatingMode} {rate : UInt32}

/-- The mode that is found is all that lists the rate. -/
theorem filter_supportsRate (table : ModeTable) (rate : UInt32) :
    table.modes.filter (·.supportsRate rate) = (table.modeForRate? rate).toList :=
  filter_supportsRate_eq_toList_find? table.disjoint rate

theorem modeForRate?_eq_some_iff :
    table.modeForRate? rate = some mode ↔ mode ∈ table.modes ∧ rate ∈ mode.rates := by
  rw [← Option.mem_toList, ← filter_supportsRate, List.mem_filter, OperatingMode.supportsRate,
    List.contains_iff_mem]

theorem modeForRate?_eq_none_iff :
    table.modeForRate? rate = none ↔ ∀ mode ∈ table.modes, rate ∉ mode.rates := by
  simp [modeForRate?, OperatingMode.supportsRate]

/-- Every rate belongs to one mode. -/
theorem mode_unique (hmode : mode ∈ table.modes) (hother : other ∈ table.modes)
    (hrate : rate ∈ mode.rates) (hrate' : rate ∈ other.rates) : mode = other := by
  have hfound := modeForRate?_eq_some_iff.2 ⟨hmode, hrate⟩
  have hfound' := modeForRate?_eq_some_iff.2 ⟨hother, hrate'⟩
  exact Option.some.inj (hfound.symm.trans hfound')

end DuplexAudio.ModeTable
