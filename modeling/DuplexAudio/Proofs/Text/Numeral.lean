import DuplexAudio.Text.Blank
import DuplexAudio.Text.Numeral
import Mathlib.Data.List.DropRight
import Mathlib.Data.List.TakeWhile

/-!
Numerals and the white space around them, described apart from how they are read. A numeral is read
exactly if its value is below the bound, and trimming a text finds the numeral that white space
stands around.
-/

namespace DuplexAudio.Text

/-! ### Numerals -/

/-- An optional plus sign, and then digits that give `value` in base ten. -/
def IsNumeralOf (word : List Char) (value : Nat) : Prop :=
  ∃ digits, (word = digits ∨ word = '+' :: digits) ∧ digits ≠ [] ∧
    (∀ c ∈ digits, c.isDigit = true) ∧ Nat.ofDigitChars 10 digits 0 = value

theorem le_ofDigitChars (value : Nat) (digits : List Char) :
    value ≤ Nat.ofDigitChars 10 digits value := by
  rw [Nat.ofDigitChars_eq_ofDigitChars_zero]
  have hshift : 1 * value ≤ 10 ^ digits.length * value :=
    Nat.mul_le_mul_right value (Nat.pow_pos (by decide))
  omega

theorem ofDigitChars_cons_eq (c : Char) (rest : List Char) (value : Nat) :
    Nat.ofDigitChars 10 (c :: rest) value =
      Nat.ofDigitChars 10 rest (value * 10 + digitValue c) := by
  rw [Nat.ofDigitChars_cons, Nat.mul_comm]
  rfl

/-- Reading may stop at the first overflow, since no further digit makes the value smaller. -/
theorem readDigits_eq_ok_iff {bound value result : Nat} {digits : List Char}
    (hvalue : value < bound) :
    readDigits bound value digits = .ok result ↔ (∀ c ∈ digits, c.isDigit = true) ∧
      Nat.ofDigitChars 10 digits value = result ∧ result < bound := by
  induction digits generalizing value with
  | nil =>
    rw [readDigits, Except.ok.injEq, Nat.ofDigitChars_nil]
    constructor
    · rintro rfl
      exact ⟨nofun, rfl, hvalue⟩
    · exact fun hread => hread.2.1
  | cons c rest ih =>
    rw [readDigits, List.forall_mem_cons, ofDigitChars_cons_eq]
    by_cases hdigit : c.isDigit = true
    · rw [if_pos hdigit]
      by_cases hnext : value * 10 + digitValue c < bound
      · rw [if_pos hnext, ih hnext, and_iff_right hdigit]
      · rw [if_neg hnext]
        refine iff_of_false nofun ?_
        rintro ⟨-, rfl, hbelow⟩
        exact hnext (Nat.lt_of_le_of_lt (le_ofDigitChars _ rest) hbelow)
    · rw [if_neg hdigit]
      exact iff_of_false nofun fun hread => hdigit hread.1.1

theorem readNumeral_unsigned (bound : Nat) {digits : List Char} (hne : digits ≠ [])
    (hdigits : ∀ c ∈ digits, c.isDigit = true) :
    readNumeral bound digits = readDigits bound 0 digits := by
  unfold readNumeral
  split
  · exact absurd rfl hne
  · exact absurd (hdigits '+' List.mem_cons_self) (by decide)
  · exact absurd (hdigits '+' List.mem_cons_self) (by decide)
  · rfl

theorem readNumeral_signed (bound : Nat) {digits : List Char} (hne : digits ≠ []) :
    readNumeral bound ('+' :: digits) = readDigits bound 0 digits := by
  unfold readNumeral
  split
  · next hempty => cases hempty
  · next hsign => exact absurd (List.cons.inj hsign).2 hne
  · next hsign => rw [(List.cons.inj hsign).2]
  · next hother => exact absurd rfl (hother digits)

theorem exists_readDigits_of_readNumeral {bound value : Nat} {word : List Char}
    (hread : readNumeral bound word = .ok value) :
    ∃ digits, (word = digits ∨ word = '+' :: digits) ∧ digits ≠ [] ∧
      readDigits bound 0 digits = .ok value := by
  unfold readNumeral at hread
  split at hread
  · cases hread
  · cases hread
  · next digits hsign =>
    exact ⟨digits, .inr rfl, fun hnil => hsign (by rw [hnil]), hread⟩
  · next hne _ _ => exact ⟨word, .inl rfl, hne, hread⟩

theorem readNumeral_eq_ok_iff {bound value : Nat} {word : List Char} (hbound : 0 < bound) :
    readNumeral bound word = .ok value ↔ IsNumeralOf word value ∧ value < bound := by
  constructor
  · intro hread
    obtain ⟨digits, hword, hne, hdigits⟩ := exists_readDigits_of_readNumeral hread
    obtain ⟨hall, hvalue, hbelow⟩ := (readDigits_eq_ok_iff hbound).1 hdigits
    exact ⟨⟨digits, hword, hne, hall, hvalue⟩, hbelow⟩
  · rintro ⟨⟨digits, rfl | rfl, hne, hall, hvalue⟩, hbelow⟩
    · rw [readNumeral_unsigned bound hne hall]
      exact (readDigits_eq_ok_iff hbound).2 ⟨hall, hvalue, hbelow⟩
    · rw [readNumeral_signed bound hne]
      exact (readDigits_eq_ok_iff hbound).2 ⟨hall, hvalue, hbelow⟩

theorem readWord_eq_ok_iff {word : List Char} {value : UInt32} :
    readWord word = .ok value ↔ IsNumeralOf word value.toNat := by
  have hfits : IsNumeralOf word value.toNat ↔ readNumeral UInt32.size word = .ok value.toNat := by
    rw [readNumeral_eq_ok_iff (by decide), and_iff_left value.toNat_lt]
  rw [hfits, readWord]
  cases hread : readNumeral UInt32.size word with
  | error fault => exact iff_of_false nofun nofun
  | ok number =>
    have hbelow : number < UInt32.size := ((readNumeral_eq_ok_iff (by decide)).1 hread).2
    rw [Except.map, Except.ok.injEq, Except.ok.injEq, ← UInt32.toNat_inj,
      UInt32.toNat_ofNat_of_lt' hbelow]

theorem isNumeralOf_toDigits (value : Nat) : IsNumeralOf (Nat.toDigits 10 value) value :=
  ⟨_, .inl rfl, Nat.toDigits_ne_nil,
    fun _ hmem => Nat.isDigit_of_mem_toDigits (by decide) (by decide) hmem,
    Nat.ofDigitChars_ten_toDigits⟩

/-! ### White space -/

/-- The code points with the property `White_Space`, one by one. -/
def whiteSpace : List Nat :=
  [0x09, 0x0A, 0x0B, 0x0C, 0x0D, 0x20, 0x85, 0xA0, 0x1680, 0x2000, 0x2001, 0x2002, 0x2003, 0x2004,
    0x2005, 0x2006, 0x2007, 0x2008, 0x2009, 0x200A, 0x2028, 0x2029, 0x202F, 0x205F, 0x3000]

/-- Nothing but white space. -/
def IsWhite (text : List Char) : Prop := ∀ c ∈ text, c.toNat ∈ whiteSpace

instance (text : List Char) : Decidable (IsWhite text) :=
  List.decidableBAll _ text

/-- The text is `word` with white space before and after it. -/
def IsPadded (text word : List Char) : Prop :=
  ∃ before after, IsWhite before ∧ IsWhite after ∧ text = before ++ word ++ after

theorem isBlank_iff {c : Char} : isBlank c = true ↔ c.toNat ∈ whiteSpace := by
  simp only [isBlank, whiteSpace, Bool.or_eq_true, Bool.and_eq_true, decide_eq_true_eq,
    beq_iff_eq, UInt32.le_iff_toNat_le, ← UInt32.toNat_inj, UInt32.reduceToNat, List.mem_cons,
    List.not_mem_nil, or_false, Char.toNat]
  omega

theorem isPadded_trim (text : List Char) : IsPadded text (trim text) := by
  have hend : trim text ++ (text.dropWhile isBlank).rtakeWhile isBlank =
      text.dropWhile isBlank := List.rdropWhile_append_rtakeWhile
  refine ⟨text.takeWhile isBlank, (text.dropWhile isBlank).rtakeWhile isBlank, fun c hmem => ?_,
    fun c hmem => ?_, ?_⟩
  · exact isBlank_iff.1 (List.mem_takeWhile_imp hmem)
  · exact isBlank_iff.1 (List.mem_rtakeWhile_imp hmem)
  · rw [List.append_assoc, hend, List.takeWhile_append_dropWhile]

theorem trimEnd_append {word after : List Char} (hword : ∀ c ∈ word, isBlank c = false)
    (hafter : ∀ c ∈ after, isBlank c = true) : trimEnd (word ++ after) = word := by
  have hafter' : ∀ c ∈ after.reverse, isBlank c = true :=
    fun c hmem => hafter c (List.mem_reverse.1 hmem)
  rw [trimEnd, List.reverse_append, List.dropWhile_append_of_pos hafter']
  refine List.rdropWhile_eq_self_iff.2 fun hne hlast => ?_
  rw [hword _ (List.getLast_mem hne)] at hlast
  cases hlast

theorem trim_of_isPadded {text word : List Char} (hpadded : IsPadded text word)
    (hword : ∀ c ∈ word, isBlank c = false) : trim text = word := by
  obtain ⟨before, after, hbefore, hafter, rfl⟩ := hpadded
  replace hbefore : ∀ c ∈ before, isBlank c = true := fun c hmem => isBlank_iff.2 (hbefore c hmem)
  replace hafter : ∀ c ∈ after, isBlank c = true := fun c hmem => isBlank_iff.2 (hafter c hmem)
  rw [trim, List.append_assoc, List.dropWhile_append_of_pos hbefore]
  -- Around an empty word the front takes all the white space, and the end finds none.
  match word with
  | [] =>
    rw [List.nil_append, List.dropWhile_eq_nil_iff.2 hafter]
    rfl
  | c :: rest =>
    have hc : ¬ isBlank c = true := by
      rw [hword c List.mem_cons_self]
      exact Bool.false_ne_true
    rw [List.cons_append, List.dropWhile_cons_of_neg hc, ← List.cons_append]
    exact trimEnd_append hword hafter

theorem isBlank_eq_false_of_isDigit {c : Char} (hdigit : c.isDigit = true) : isBlank c = false := by
  have hapart : ∀ code ∈ whiteSpace, code < '0'.toNat ∨ '9'.toNat < code := by decide
  obtain ⟨hlower, hupper⟩ := Char.isDigit_iff_toNat.1 hdigit
  rw [← Bool.not_eq_true, isBlank_iff]
  intro hmem
  rcases hapart c.toNat hmem with hbelow | habove
  · exact Nat.not_lt.2 hlower hbelow
  · exact Nat.not_lt.2 hupper habove

theorem IsNumeralOf.isBlank_eq_false {word : List Char} {value : Nat}
    (hnumeral : IsNumeralOf word value) : ∀ c ∈ word, isBlank c = false := by
  obtain ⟨digits, hword, -, hdigits, -⟩ := hnumeral
  have hblank : ∀ c ∈ digits, isBlank c = false :=
    fun c hmem => isBlank_eq_false_of_isDigit (hdigits c hmem)
  rcases hword with rfl | rfl
  · exact hblank
  · exact List.forall_mem_cons.2 ⟨by decide, hblank⟩

/-- Trimming finds a numeral exactly where one stands with white space around it. -/
theorem isNumeralOf_trim_iff {text : List Char} {value : Nat} :
    IsNumeralOf (trim text) value ↔ ∃ word, IsPadded text word ∧ IsNumeralOf word value := by
  constructor
  · exact fun hnumeral => ⟨trim text, isPadded_trim text, hnumeral⟩
  · rintro ⟨word, hpadded, hnumeral⟩
    rwa [trim_of_isPadded hpadded hnumeral.isBlank_eq_false]

end DuplexAudio.Text
