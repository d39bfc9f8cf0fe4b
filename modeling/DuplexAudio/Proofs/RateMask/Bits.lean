import DuplexAudio.RateMask
import Mathlib.Data.List.Nodup
import Mathlib.Data.Nat.Bitwise

/-!
Rate masks as sets of bits. Every rate stands for one bit, which it shares with no other rate if it
is a standard one, and with exactly the other rates outside the standard table if it is not.
-/

namespace DuplexAudio.RateMask

variable {mask : RateMask} {rates : List UInt32} {rate other : UInt32}

/-- The number of the bit that stands for the rate. -/
def bitOf (rate : UInt32) : Nat := (standard.idxOf? rate).getD 31

theorem standard_ascending : standard.Pairwise (· < ·) := by decide

theorem map_bitOf_standard : standard.map bitOf = List.range 13 := by decide

theorem table_eq : table = standard.map fun rate => (rate, (ofRate rate).bits) := by decide

/-! ### The bit of a rate -/

theorem bitOf_of_not_standard (hrate : rate ∉ standard) : bitOf rate = 31 := by
  rw [bitOf, List.idxOf?_eq_none_iff.2 hrate, Option.getD_none]

theorem ofRate_of_not_standard (hrate : rate ∉ standard) : ofRate rate = knot := by
  have hnone : table.find? (·.1 == rate) = none := by
    rw [List.find?_eq_none, table_eq, List.forall_mem_map]
    intro listed hlisted hequal
    exact hrate (beq_iff_eq.1 hequal ▸ hlisted)
  rw [ofRate, hnone]

theorem toNat_bits_ofRate (rate : UInt32) : (ofRate rate).bits.toNat = 2 ^ bitOf rate := by
  by_cases hrate : rate ∈ standard
  · have hstandard : standard.map (fun rate => (ofRate rate).bits.toNat) =
        standard.map fun rate => 2 ^ bitOf rate := by decide
    exact List.map_inj_left.1 hstandard rate hrate
  · rw [ofRate_of_not_standard hrate, bitOf_of_not_standard hrate]
    rfl

theorem bitOf_lt_of_standard (hrate : rate ∈ standard) : bitOf rate < 13 := by
  have hbit : bitOf rate ∈ standard.map bitOf := List.mem_map_of_mem hrate
  rw [map_bitOf_standard, List.mem_range] at hbit
  exact hbit

/-- The highest bit is the one of all rates outside the standard table. -/
theorem bitOf_eq_top_iff : bitOf rate = 31 ↔ rate ∉ standard := by
  constructor
  · intro htop hrate
    have hlow := bitOf_lt_of_standard hrate
    omega
  · exact bitOf_of_not_standard

theorem bitOf_eq_iff_of_standard (hrate : rate ∈ standard) :
    bitOf other = bitOf rate ↔ other = rate := by
  constructor
  · intro hbits
    have hother : other ∈ standard := by
      by_contra habsent
      have htop := bitOf_of_not_standard habsent
      have hlow := bitOf_lt_of_standard hrate
      omega
    have hdistinct : (standard.map bitOf).Nodup := by
      rw [map_bitOf_standard]
      exact List.nodup_range
    exact List.inj_on_of_nodup_map hdistinct hother hrate hbits
  · rintro rfl
    rfl

/-! ### Membership -/

/-- The bit of the rate is set. -/
def Has (mask : RateMask) (rate : UInt32) : Prop := mask.bits.toNat.testBit (bitOf rate) = true

theorem bits_and_ofRate (mask : RateMask) (rate : UInt32) :
    (mask.bits &&& (ofRate rate).bits).toNat =
      (mask.bits.toNat.testBit (bitOf rate)).toNat * 2 ^ bitOf rate := by
  rw [UInt32.toNat_and, toNat_bits_ofRate, Nat.and_two_pow]

theorem and_ofRate_ne_zero_iff :
    (mask.bits &&& (ofRate rate).bits != 0) = true ↔ mask.Has rate := by
  rw [bne_iff_ne, ne_eq, ← UInt32.toNat_inj, bits_and_ofRate, Has]
  cases mask.bits.toNat.testBit (bitOf rate) <;> simp

theorem contains_ofRate_iff : mask.contains (ofRate rate) = true ↔ mask.Has rate := by
  have hpower : 0 ≠ 2 ^ bitOf rate := Nat.ne_of_lt (Nat.two_pow_pos (bitOf rate))
  have hnonzero : (ofRate rate).bits ≠ 0 := by
    intro hzero
    have hbit := toNat_bits_ofRate rate
    rw [hzero] at hbit
    exact hpower hbit
  rw [contains, Bool.and_eq_true, bne_iff_ne, beq_iff_eq, ← UInt32.toNat_inj (a := mask.bits &&& _),
    bits_and_ofRate, toNat_bits_ofRate, Has]
  cases mask.bits.toNat.testBit (bitOf rate) <;> simp [hnonzero, hpower]

/-- A bit of the mask is set from the start, or stands for one of the rates that are added. -/
theorem testBit_foldl_union {bit : Nat} :
    (rates.foldl (fun mask rate => mask.union (ofRate rate)) mask).bits.toNat.testBit bit = true ↔
      mask.bits.toNat.testBit bit = true ∨ ∃ other ∈ rates, bitOf other = bit := by
  induction rates generalizing mask with
  | nil => simp
  | cons first rest ih =>
    rw [List.foldl_cons, ih, union, UInt32.toNat_or, toNat_bits_ofRate, Nat.testBit_or,
      Nat.testBit_two_pow, Bool.or_eq_true, decide_eq_true_eq]
    simp only [List.mem_cons, exists_eq_or_imp, or_assoc]

theorem testBit_ofRates {bit : Nat} :
    (ofRates rates).bits.toNat.testBit bit = true ↔ ∃ other ∈ rates, bitOf other = bit := by
  rw [ofRates, testBit_foldl_union]
  simp [empty]

theorem has_ofRates : (ofRates rates).Has rate ↔ ∃ other ∈ rates, bitOf other = bitOf rate :=
  testBit_ofRates

/-- Neither the order of the rates nor their repetition shows in the mask. -/
theorem ofRates_congr {others : List UInt32} (hsame : ∀ rate, rate ∈ rates ↔ rate ∈ others) :
    ofRates rates = ofRates others := by
  have hbits : (ofRates rates).bits = (ofRates others).bits := by
    apply UInt32.toNat_inj.1
    apply Nat.eq_of_testBit_eq
    intro bit
    rw [Bool.eq_iff_iff, testBit_ofRates, testBit_ofRates]
    simp only [hsame]
  exact congrArg RateMask.mk hbits

/-- A standard rate is in the mask of some rates if it is one of them. -/
theorem contains_ofRates_iff_of_standard (hrate : rate ∈ standard) :
    (ofRates rates).contains (ofRate rate) = true ↔ rate ∈ rates := by
  rw [contains_ofRate_iff, has_ofRates]
  simp only [bitOf_eq_iff_of_standard hrate, exists_eq_right]

theorem contains_knot_ofRates_iff :
    (ofRates rates).contains knot = true ↔ ∃ rate ∈ rates, rate ∉ standard := by
  have hzero : 0 ∉ standard := by decide
  rw [← ofRate_of_not_standard hzero, contains_ofRate_iff, has_ofRates,
    bitOf_of_not_standard hzero]
  simp only [bitOf_eq_top_iff]

/-! ### Enumeration -/

theorem standardRates_eq_filter (mask : RateMask) :
    mask.standardRates = standard.filter fun rate => mask.contains (ofRate rate) := by
  have hsame : ∀ rate ∈ standard,
      (mask.bits &&& (ofRate rate).bits != 0) = mask.contains (ofRate rate) := by
    intro rate _
    rw [Bool.eq_iff_iff, and_ofRate_ne_zero_iff, contains_ofRate_iff]
  rw [← List.filter_congr hsame, standardRates, table_eq, List.filter_map, List.map_map]
  exact List.map_id _

end DuplexAudio.RateMask
