import DuplexAudio.Proofs.Toml.Quoted
import DuplexAudio.Toml.Reader
import Mathlib.Data.List.Basic
import Mathlib.Data.List.TakeDrop

/-!
Plain values: texts, whole numbers, and sequences of these. Reading the written form of one stops
right after it and yields the value.
-/

namespace DuplexAudio.Toml

open Text

theorem span_append {p : Char → Bool} {word rest : List Char} (hword : ∀ c ∈ word, p c = true)
    (hrest : ∀ c ∈ rest.head?, p c = false) : (word ++ rest).span p = (word, rest) := by
  rw [List.span_eq_takeWhile_dropWhile, List.takeWhile_append_of_pos hword,
    List.dropWhile_append_of_pos hword]
  match rest with
  | [] => simp
  | c :: after =>
    have hstop : p c = false := hrest c rfl
    simp [hstop]

/-! ### Numerals -/

section Numeral

variable {word : List Char}

/-- Digits in their shortest form, without a zero before others. -/
structure IsNumeral (word : List Char) : Prop where
  ne_nil : word ≠ []
  digits : ∀ c ∈ word, c.isDigit = true
  leading : word.head? = some '0' → word = ['0']

theorem ofDigitChars_writeNatural (value : Nat) :
    Nat.ofDigitChars 10 (writeNatural value) 0 = value :=
  Nat.ofDigitChars_ten_toDigits

theorem isNumeral_writeNatural (value : Nat) : IsNumeral (writeNatural value) where
  ne_nil := Nat.toDigits_ne_nil
  digits _ hmem := Nat.isDigit_of_mem_toDigits (by decide) (by decide) hmem
  leading hhead := by
    induction value using Nat.strongRecOn with
    | ind value ih =>
      rcases Nat.lt_or_ge value 10 with hsmall | hlarge
      · have hone : writeNatural value = [value.digitChar] := Nat.toDigits_of_lt_base hsmall
        rw [hone] at hhead ⊢
        exact congrArg ([·]) (Option.some.inj hhead)
      · have happend : writeNatural value = writeNatural (value / 10) ++ [(value % 10).digitChar] :=
          Nat.toDigits_of_base_le (by decide) hlarge
        have hne : writeNatural (value / 10) ≠ [] := Nat.toDigits_ne_nil
        rw [happend, List.head?_append_of_ne_nil _ hne] at hhead
        have hzero : value / 10 = 0 := by
          rw [← ofDigitChars_writeNatural (value / 10), ih (value / 10) (by omega) hhead]
          rfl
        omega

namespace IsNumeral

theorem ne_of_mem (hword : IsNumeral word) {c d : Char} (hmem : c ∈ word)
    (hd : d.isDigit = false) : c ≠ d := by
  rintro rfl
  rw [hword.digits c hmem] at hd
  cases hd

theorem ungroup_eq (hword : IsNumeral word) : ungroup Char.isDigit word = some word := by
  obtain ⟨hne, hdigits, -⟩ := hword
  induction word with
  | nil => exact absurd rfl hne
  | cons c rest ih =>
    rw [List.forall_mem_cons] at hdigits
    match rest with
    | [] => rw [ungroup, if_pos hdigits.1]
    | d :: rest =>
      have hd : d ≠ '_' := by
        rintro rfl
        exact absurd (hdigits.2 '_' List.mem_cons_self) (by decide)
      rw [ungroup, if_pos hdigits.1, ih (List.cons_ne_nil _ _) hdigits.2, Option.map_some]
      · exact nofun
      · rintro after heq
        exact hd (List.cons.inj heq).1

theorem decimalDigits_eq (hword : IsNumeral word) : decimalDigits word = some word := by
  rw [decimalDigits, hword.ungroup_eq]
  split
  · next heq =>
    cases heq
    exact absurd (hword.leading rfl) (by simp)
  · rfl

theorem readDate_eq_none (hword : IsNumeral word) : readDate word = none := by
  unfold readDate
  split
  · exact absurd rfl (hword.ne_of_mem (c := '-') (by simp) (by decide))
  · rfl

theorem readTime_eq_none (hword : IsNumeral word) : readTime word = none := by
  unfold readTime
  split
  · exact absurd rfl (hword.ne_of_mem (c := ':') (by simp) (by decide))
  · rfl

theorem readInteger_eq (hword : IsNumeral word) :
    readInteger word = some (integerDocument (valueOf 10 word)) := by
  have hbase : ∀ mark rest, word ≠ '0' :: mark :: rest := by
    rintro mark rest rfl
    exact absurd (hword.leading rfl) (by simp)
  have hsign : splitSign word = (false, word) := by
    unfold splitSign
    split
    · exact absurd rfl (hword.ne_of_mem (c := '+') (by simp) (by decide))
    · exact absurd rfl (hword.ne_of_mem (c := '-') (by simp) (by decide))
    · rfl
  unfold readInteger
  split
  · exact absurd rfl (hbase _ _)
  · exact absurd rfl (hbase _ _)
  · exact absurd rfl (hbase _ _)
  · simp only [hsign, hword.decimalDigits_eq]
    rfl

theorem readWord_eq (hword : IsNumeral word) :
    readWord word = some (integerDocument (valueOf 10 word)) := by
  have htrue : (word == ['t', 'r', 'u', 'e']) = false := by
    rw [beq_eq_false_iff_ne]
    rintro rfl
    exact absurd (hword.digits 't' (by simp)) (by decide)
  have hfalse : (word == ['f', 'a', 'l', 's', 'e']) = false := by
    rw [beq_eq_false_iff_ne]
    rintro rfl
    exact absurd (hword.digits 'f' (by simp)) (by decide)
  have hdate : isDateTime word = false := by
    rw [isDateTime, hword.readDate_eq_none, hword.readTime_eq_none]
    rfl
  rw [readWord, htrue, hfalse, hdate, hword.readInteger_eq]
  rfl

/-- A numeral ends where a delimiter stands. -/
theorem readScalar_eq (hword : IsNumeral word) (rest : List Char)
    (hrest : ∀ c ∈ rest.head?, isDelimiter c = true) :
    readScalar (word ++ rest) = some (integerDocument (valueOf 10 word), rest) := by
  have hspan : (word ++ rest).span (fun c => !isDelimiter c) = (word, rest) := by
    refine span_append (fun c hmem => ?_) fun c hmem => by rw [hrest c hmem]; rfl
    have hdelimiter : ∀ d, isDelimiter d = true → d.isDigit = false := by
      simp [isDelimiter]
    rw [Bool.not_eq_true', Bool.eq_false_iff]
    exact fun hd => hword.ne_of_mem hmem (hdelimiter c hd) rfl
  rw [readScalar, hspan]
  simp only [hword.readDate_eq_none, hword.readWord_eq]
  rfl

end IsNumeral

theorem valueOf_writeNatural (value : Nat) : valueOf 10 (writeNatural value) = value := by
  have hstep : ∀ c ∈ writeNatural value, ∀ sofar : Nat,
      sofar * 10 + (hexValue? c).getD 0 = 10 * sofar + (c.toNat - '0'.toNat) := by
    intro c hmem sofar
    rw [hexValue?, if_pos ((isNumeral_writeNatural value).digits c hmem), Option.getD_some,
      Nat.mul_comm]
  calc valueOf 10 (writeNatural value)
      = Nat.ofDigitChars 10 (writeNatural value) 0 := by
        rw [valueOf, Nat.ofDigitChars_eq_foldl]
        exact List.foldl_ext _ _ _ fun sofar c hmem => hstep c hmem sofar
    _ = value := ofDigitChars_writeNatural value

end Numeral

/-! ### Scalars -/

/-- Texts, and whole numbers that the notation has room for. -/
inductive IsScalar : Document → Prop
  | text (value : String) : IsScalar (.text value)
  | natural (value : Nat) (hsize : value < 0x80000000000000000000000000000000) :
    IsScalar (.integer value)

theorem IsScalar.word (value : UInt32) : IsScalar (.word value) :=
  .natural value.toNat (Nat.lt_trans value.toNat_lt (by decide))

/-- What the written form of a scalar can begin with. -/
def BeginsScalar (c : Char) : Prop := c = '"' ∨ c = '\'' ∨ c.isDigit = true

theorem BeginsScalar.ne {c d : Char} (hbegins : BeginsScalar c) (hdouble : d ≠ '"')
    (hsingle : d ≠ '\'') (hdigit : d.isDigit = false) : c ≠ d := by
  rintro rfl
  rcases hbegins with rfl | rfl | htrue
  · exact hdouble rfl
  · exact hsingle rfl
  · rw [hdigit] at htrue
    cases htrue

theorem BeginsScalar.isSpace_eq_false {c : Char} (hbegins : BeginsScalar c) : isSpace c = false := by
  have hblank : c ≠ ' ' := hbegins.ne (by decide) (by decide) (by decide)
  have htab : c ≠ '\t' := hbegins.ne (by decide) (by decide) (by decide)
  simp [isSpace, hblank, htab]

theorem exists_writeText_eq_cons (text : List Char) :
    ∃ c rest, writeText text = c :: rest ∧ (c = '"' ∨ c = '\'') := by
  unfold writeText
  split
  · exact ⟨_, _, rfl, .inl rfl⟩
  · exact ⟨_, _, rfl, .inr rfl⟩
  · exact ⟨_, _, rfl, .inl rfl⟩
  · exact ⟨_, _, rfl, .inr rfl⟩

section Scalar

variable {value : Document} {fuel depth : Nat} {c : Char} {text rest : List Char}

theorem writeValue_natural (value : Nat) : writeValue (.integer value) = writeNatural value :=
  rfl

theorem IsScalar.exists_eq_cons (hscalar : IsScalar value) :
    ∃ c rest, writeValue value = c :: rest ∧ BeginsScalar c := by
  cases hscalar with
  | text value =>
    obtain ⟨c, rest, heq, hquote⟩ := exists_writeText_eq_cons value.toList
    exact ⟨c, rest, by rw [writeValue, heq], hquote.imp_right .inl⟩
  | natural value =>
    obtain ⟨c, rest, heq⟩ := List.exists_cons_of_ne_nil (isNumeral_writeNatural value).ne_nil
    exact ⟨c, rest, (writeValue_natural value).trans heq,
      .inr (.inr ((isNumeral_writeNatural value).digits c (heq ▸ List.mem_cons_self)))⟩

theorem readValue_of_begins (hbegins : BeginsScalar c) (rest : List Char) :
    readValue (fuel + 1) depth (c :: rest) =
      match readQuoted (c :: rest) with
      | some (content, rest) => some (.leaf (.text (String.ofList content)), rest)
      | none => (readScalar (c :: rest)).map fun (value, rest) => (.leaf value, rest) := by
  rw [readValue.eq_def]
  simp only
  split
  · next heq => exact absurd (List.cons.inj heq).1 (hbegins.ne (by decide) (by decide) (by decide))
  · next heq => exact absurd (List.cons.inj heq).1 (hbegins.ne (by decide) (by decide) (by decide))
  · rfl

theorem readQuoted_of_isDigit (hdigit : c.isDigit = true) (rest : List Char) :
    readQuoted (c :: rest) = none := by
  have hquotes : c ≠ '"' ∧ c ≠ '\'' := by
    constructor <;> rintro rfl <;> exact absurd hdigit (by decide)
  unfold readQuoted
  split
  · next heq => exact absurd (List.cons.inj heq).1 hquotes.1
  · next heq => exact absurd (List.cons.inj heq).1 hquotes.1
  · next heq => exact absurd (List.cons.inj heq).1 hquotes.2
  · next heq => exact absurd (List.cons.inj heq).1 hquotes.2
  · rfl

/-- A scalar is read back when a delimiter follows it. -/
theorem readValue_scalar (fuel depth : Nat) (hscalar : IsScalar value)
    (hc : isDelimiter c = true) (rest : List Char) :
    readValue (fuel + 1) depth (writeValue value ++ c :: rest) =
      some (.leaf value, c :: rest) := by
  have hquotes : c ≠ '"' ∧ c ≠ '\'' := by
    constructor <;> rintro rfl <;> exact absurd hc (by decide)
  obtain ⟨first, after, hcons, hbegins⟩ := hscalar.exists_eq_cons
  rw [hcons, List.cons_append, readValue_of_begins hbegins, ← List.cons_append, ← hcons]
  cases hscalar with
  | text value =>
    rw [writeValue, readQuoted_writeText value.toList (by simpa using hquotes.1)
      (by simpa using hquotes.2)]
    simp only [String.ofList_toList]
  | natural value hsize =>
    have hnumeral := isNumeral_writeNatural value
    rw [writeValue_natural] at hcons ⊢
    have hdigit : first.isDigit = true := hnumeral.digits first (hcons ▸ List.mem_cons_self)
    have hquoted : readQuoted (writeNatural value ++ c :: rest) = none := by
      rw [hcons]
      exact readQuoted_of_isDigit hdigit _
    have hdocument : integerDocument value = .integer value := by
      rw [integerDocument, if_pos]
      omega
    have hscan := hnumeral.readScalar_eq (c :: rest) (by simpa using hc)
    rw [hquoted, hscan, valueOf_writeNatural, hdocument]
    rfl

/-! ### Sequences -/

theorem skipVoid_of_solid (hline : c ≠ '\n' ∧ c ≠ '\r') (hspace : isSpace c = false)
    (hcomment : c ≠ '#') (rest : List Char) : skipVoid false (c :: rest) = some (c :: rest) := by
  rw [skipVoid.eq_def]
  split
  · next heq => cases heq
  · next heq => exact absurd (List.cons.inj heq).1 hline.1
  · next heq => exact absurd (List.cons.inj heq).1 hline.2
  · next heq =>
    cases heq
    rw [if_neg Bool.false_ne_true, if_neg (by rw [hspace]; exact Bool.false_ne_true),
      if_neg (by simpa using hcomment)]

theorem skipVoid_writeValue (hscalar : IsScalar value) (rest : List Char) :
    skipVoid false (writeValue value ++ rest) = some (writeValue value ++ rest) := by
  obtain ⟨c, after, hcons, hbegins⟩ := hscalar.exists_eq_cons
  rw [hcons]
  exact skipVoid_of_solid ⟨hbegins.ne (by decide) (by decide) (by decide),
    hbegins.ne (by decide) (by decide) (by decide)⟩ hbegins.isSpace_eq_false
    (hbegins.ne (by decide) (by decide) (by decide)) _

theorem readItems_closing (hvoid : skipVoid false text = some (']' :: rest)) :
    readItems (fuel + 1) depth text = some ([], rest) := by
  rw [readItems, hvoid]
  rfl

/-- One more item, up to the comma or the bracket after it. -/
theorem readItems_scalar (hscalar : IsScalar value)
    (hvoid : skipVoid false text = some (writeValue value ++ c :: rest)) (hc : c = ',' ∨ c = ']') :
    readItems (fuel + 2) depth text =
      if c = ',' then
        (readItems (fuel + 1) depth rest).map fun (items, rest) => (.leaf value :: items, rest)
      else some ([.leaf value], rest) := by
  obtain ⟨first, after, hcons, hbegins⟩ := hscalar.exists_eq_cons
  have hbracket : first ≠ ']' := hbegins.ne (by decide) (by decide) (by decide)
  have hdelimiter : isDelimiter c = true := by rcases hc with rfl | rfl <;> decide
  have hread := readValue_scalar fuel depth hscalar hdelimiter rest
  rw [readItems, hvoid]
  rw [hcons, List.cons_append] at hread ⊢
  simp only [bind, Option.bind]
  split
  · next heq => exact absurd (List.cons.inj heq).1 hbracket
  · rw [hread]
    rcases hc with rfl | rfl
    · have hcomma : skipVoid false (',' :: rest) = some (',' :: rest) :=
        skipVoid_of_solid (by decide) (by decide) (by decide) rest
      simp only [hcomma, if_true]
      cases readItems (fuel + 1) depth rest <;> rfl
    · have hbracket : skipVoid false (']' :: rest) = some (']' :: rest) :=
        skipVoid_of_solid (by decide) (by decide) (by decide) rest
      simp only [hbracket]
      rfl

/-- An item among several: on a line of its own, with a comma after it. -/
def itemLine (item : List Char) : List Char := "    ".toList ++ item ++ [',', '\n']

theorem readItems_lines {items : List Document} (hitems : ∀ item ∈ items, IsScalar item)
    (hfuel : items.length < fuel) (rest : List Char) :
    readItems fuel depth ('\n' :: ((items.map writeValue).flatMap itemLine ++ ']' :: rest)) =
      some (items.map .leaf, rest) := by
  induction items generalizing fuel with
  | nil =>
    obtain ⟨fuel, rfl⟩ := Nat.exists_eq_add_of_lt hfuel
    exact readItems_closing rfl
  | cons item items ih =>
    rw [List.length_cons] at hfuel
    obtain ⟨fuel, rfl⟩ : ∃ fuel', fuel = fuel' + 2 := ⟨fuel - 2, by omega⟩
    rw [List.forall_mem_cons] at hitems
    have hfewer : items.length < fuel + 1 := by omega
    have hrest := ih hitems.2 hfewer
    rw [List.map_cons, List.flatMap_cons, List.append_assoc]
    generalize (items.map writeValue).flatMap itemLine ++ ']' :: rest = more at hrest ⊢
    have hvoid : skipVoid false ('\n' :: (itemLine (writeValue item) ++ more)) =
        some (writeValue item ++ ',' :: '\n' :: more) := by
      rw [itemLine, List.append_assoc, List.append_assoc]
      exact skipVoid_writeValue hitems.1 _
    rw [readItems_scalar hitems.1 hvoid (.inl rfl), if_pos rfl, hrest]
    rfl

theorem writeItems_eq_map (items : List Document) : writeItems items = items.map writeValue := by
  induction items with
  | nil => rfl
  | cons item items ih => rw [writeItems, ih, List.map_cons]

/-- Values that stand in the section of their table. -/
inductive IsPlain : Document → Prop
  | scalar {value : Document} (hscalar : IsScalar value) : IsPlain value
  | sequence {items : List Document} (hitems : ∀ item ∈ items, IsScalar item) :
    IsPlain (.sequence items)

/-- The node that the written form of a plain value is read as. -/
def Node.ofPlain : Document → Node
  | .sequence items => .array (items.map .leaf)
  | value => .leaf value

theorem IsScalar.ofPlain_eq (hscalar : IsScalar value) : Node.ofPlain value = .leaf value := by
  cases hscalar <;> rfl

theorem readItems_layItems (fuel depth : Nat) {items : List Document}
    (hitems : ∀ item ∈ items, IsScalar item) (hfuel : items.length + 1 < fuel) (rest : List Char) :
    ∃ inner, layItems (writeItems items) ++ rest = '[' :: inner ∧
      readItems fuel depth inner = some (items.map .leaf, rest) := by
  rw [writeItems_eq_map]
  obtain ⟨fuel, rfl⟩ : ∃ fuel', fuel = fuel' + 2 := ⟨fuel - 2, by omega⟩
  match items with
  | [] => exact ⟨']' :: rest, rfl, readItems_closing rfl⟩
  | [item] =>
    have hitem := hitems item List.mem_cons_self
    refine ⟨writeValue item ++ ']' :: rest, by simp [layItems], ?_⟩
    rw [readItems_scalar hitem (skipVoid_writeValue hitem _) (.inr rfl), if_neg (by decide)]
    rfl
  | first :: second :: items =>
    refine ⟨_, ?_, readItems_lines hitems (Nat.lt_of_succ_lt hfuel) rest⟩
    exact (List.append_assoc _ [']'] rest).trans rfl

/-- As much fuel as the text is long suffices for the items. -/
theorem length_lt_length_layItems (items : List Document) :
    items.length < (layItems (writeItems items)).length := by
  rw [writeItems_eq_map]
  match items with
  | [] => decide
  | [item] => simp [layItems]
  | first :: second :: items =>
    have hlines : ∀ lines : List (List Char), lines.length ≤ (lines.flatMap itemLine).length := by
      intro lines
      induction lines with
      | nil => exact Nat.le_refl 0
      | cons line lines ih =>
        simp only [List.flatMap_cons, List.length_append, List.length_cons, itemLine] at ih ⊢
        omega
    have htotal := hlines ((first :: second :: items).map writeValue)
    rw [List.length_map] at htotal
    have hlay : layItems ((first :: second :: items).map writeValue) =
        '[' :: '\n' :: ((first :: second :: items).map writeValue).flatMap itemLine ++ [']'] := rfl
    rw [hlay, List.length_append]
    exact Nat.lt_of_le_of_lt htotal (by simp only [List.length_cons]; omega)

/-- A plain value is read back when a delimiter follows it. -/
theorem readValue_plain (hplain : IsPlain value) (hdepth : depth < maxDepth)
    (hfuel : (writeValue value).length + 2 ≤ fuel) (hc : isDelimiter c = true) (rest : List Char) :
    readValue fuel depth (writeValue value ++ c :: rest) = some (.ofPlain value, c :: rest) := by
  obtain ⟨fuel, rfl⟩ := Nat.exists_eq_add_of_le' (Nat.le_of_add_left_le hfuel)
  cases hplain with
  | scalar hscalar =>
    rw [readValue_scalar _ _ hscalar hc, hscalar.ofPlain_eq]
  | @sequence items hitems =>
    rw [writeValue] at hfuel ⊢
    have hlength := length_lt_length_layItems items
    obtain ⟨inner, hinner, hread⟩ := readItems_layItems (fuel + 1) (depth + 1) hitems
      (by omega) (c :: rest)
    rw [hinner, readValue, if_pos hdepth, hread]
    rfl

end Scalar

end DuplexAudio.Toml
