/-!
The order of texts is the order of their UTF-8 bytes.
-/

namespace DuplexAudio.Text

theorem cons_byte_lt {a b : Nat} (hlt : a < b) (hb : b < 256) (first second : List UInt8) :
    UInt8.ofNat a :: first < UInt8.ofNat b :: second := by
  rw [List.cons_lt_cons_iff, UInt8.lt_iff_toNat_lt, UInt8.toNat_ofNat', UInt8.toNat_ofNat']
  omega

theorem cons_byte_le {a b : Nat} (hle : a ≤ b) (hb : b < 256) {first second : List UInt8}
    (hrest : a = b → first < second) : UInt8.ofNat a :: first < UInt8.ofNat b :: second := by
  rcases Nat.lt_or_eq_of_le hle with hlt | rfl
  · exact cons_byte_lt hlt hb first second
  · exact List.cons_lt_cons_iff.2 (.inr ⟨rfl, hrest rfl⟩)

/-- The bytes of a smaller character differ from those of a larger one before either run ends, and
are smaller there. -/
theorem utf8EncodeChar_append_lt {c d : Char} (hlt : c < d) (first second : List UInt8) :
    String.utf8EncodeChar c ++ first < String.utf8EncodeChar d ++ second := by
  have hval : c.val.toNat < d.val.toNat := UInt32.lt_iff_toNat_lt.1 hlt
  have hvalid : d.val.toNat < 0x110000 := by
    have hd : d.val.toNat.isValidChar := d.valid
    unfold Nat.isValidChar at hd
    omega
  unfold String.utf8EncodeChar
  simp only
  generalize c.val.toNat = low at hval
  generalize d.val.toNat = high at hval hvalid
  by_cases hone : low ≤ 0x7f
  · rw [if_pos hone]
    split
    · exact cons_byte_lt hval (by omega) _ _
    · split
      · exact cons_byte_lt (by omega) (by omega) _ _
      · split
        · exact cons_byte_lt (by omega) (by omega) _ _
        · exact cons_byte_lt (by omega) (by omega) _ _
  have hone' : ¬ high ≤ 0x7f := by omega
  rw [if_neg hone, if_neg hone']
  by_cases htwo : low ≤ 0x7ff
  · rw [if_pos htwo]
    split
    · exact cons_byte_le (by omega) (by omega) fun hfirst =>
        cons_byte_lt (by omega) (by omega) _ _
    · split
      · exact cons_byte_lt (by omega) (by omega) _ _
      · exact cons_byte_lt (by omega) (by omega) _ _
  have htwo' : ¬ high ≤ 0x7ff := by omega
  rw [if_neg htwo, if_neg htwo']
  by_cases hthree : low ≤ 0xffff
  · rw [if_pos hthree]
    split
    · exact cons_byte_le (by omega) (by omega) fun hfirst =>
        cons_byte_le (by omega) (by omega) fun hsecond => cons_byte_lt (by omega) (by omega) _ _
    · exact cons_byte_lt (by omega) (by omega) _ _
  · have hthree' : ¬ high ≤ 0xffff := by omega
    rw [if_neg hthree, if_neg hthree']
    exact cons_byte_le (by omega) (by omega) fun hfirst =>
      cons_byte_le (by omega) (by omega) fun hsecond =>
        cons_byte_le (by omega) (by omega) fun hthird => cons_byte_lt (by omega) (by omega) _ _

theorem flatMap_utf8EncodeChar_lt {first second : List Char} (hlt : first < second) :
    first.flatMap String.utf8EncodeChar < second.flatMap String.utf8EncodeChar := by
  induction first generalizing second with
  | nil =>
    match second with
    | [] => exact absurd hlt (List.not_lt_nil _)
    | c :: second =>
      have hne : String.utf8EncodeChar c ≠ [] := by
        rw [← List.length_pos_iff, String.length_utf8EncodeChar]
        exact Char.utf8Size_pos c
      obtain ⟨byte, others, hcons⟩ := List.exists_cons_of_ne_nil hne
      rw [List.flatMap_cons, hcons]
      exact List.nil_lt_cons _ _
  | cons c first ih =>
    match second with
    | [] => exact absurd hlt (List.not_lt_nil _)
    | d :: second =>
      rw [List.flatMap_cons, List.flatMap_cons]
      rcases List.cons_lt_cons_iff.1 hlt with hchar | ⟨rfl, hrest⟩
      · exact utf8EncodeChar_append_lt hchar _ _
      · exact List.append_left_lt (ih hrest)

theorem bytes_eq_flatMap (text : String) :
    text.toUTF8.data.toList = text.toList.flatMap String.utf8EncodeChar := by
  rw [String.toUTF8_eq_toByteArray, ← String.utf8Encode_toList, List.utf8Encode,
    List.data_toByteArray]

/-- A smaller text has smaller bytes. -/
theorem bytes_lt_of_lt {first second : String} (hlt : first < second) :
    first.toUTF8.data.toList < second.toUTF8.data.toList := by
  rw [bytes_eq_flatMap, bytes_eq_flatMap]
  exact flatMap_utf8EncodeChar_lt hlt

end DuplexAudio.Text
