import DuplexAudio.Interval.Parse
import DuplexAudio.Proofs.Fallible
import DuplexAudio.Proofs.Interval.Values
import DuplexAudio.Proofs.Text.Numeral

/-!
The grammar of intervals, and that the parser accepts exactly it. A text is divided at its first
`..` if it has one; what stands before and after are bounds, each a numeral with white space around.
-/

namespace DuplexAudio.Interval

open Text

/-! ### The grammar -/

/-- `..` stands between the two parts of the text. -/
def DividedInto (text before after : List Char) : Prop := text = before ++ '.' :: '.' :: after

/-- No other `..` of the text stands further left. -/
def FirstDividedInto (text before after : List Char) : Prop :=
  DividedInto text before after ∧
    ∀ before' after', DividedInto text before' after' → before.length ≤ before'.length

/-- A numeral for the value with white space around it. -/
def WritesBound (text : List Char) (value : UInt32) : Prop :=
  ∃ word, IsPadded text word ∧ IsNumeralOf word value.toNat

/-- The texts that stand for an interval: a bound alone, which is both, or two of them in order. -/
inductive Writes : List Char → Interval → Prop
  | value {text value} (hwhole : ∀ before after, ¬ DividedInto text before after)
      (hvalue : WritesBound text value) : Writes text ⟨value, value, true⟩
  | range {text before after lower upper} (hfirst : FirstDividedInto text before after)
      (hlower : WritesBound before lower) (hupper : WritesBound after upper)
      (hle : lower ≤ upper) : Writes text ⟨lower, upper, true⟩

/-! ### Division at the first dots -/

section Division

variable {c : Char} {text rest before after before' after' : List Char}

theorem not_dividedInto_nil : ¬ DividedInto [] before after := by
  cases before <;> nofun

theorem dividedInto_cons_iff : DividedInto (c :: rest) before after ↔
    (before = [] ∧ c = '.' ∧ rest = '.' :: after) ∨
      ∃ inner, before = c :: inner ∧ DividedInto rest inner after := by
  cases before with
  | nil => simp [DividedInto]
  | cons first inner =>
    simp only [DividedInto, List.cons_append, List.cons.injEq]
    constructor
    · rintro ⟨rfl, hrest⟩
      exact .inr ⟨inner, ⟨rfl, rfl⟩, hrest⟩
    · rintro (⟨hnil, -⟩ | ⟨_, ⟨rfl, rfl⟩, hrest⟩)
      · cases hnil
      · exact ⟨rfl, hrest⟩

theorem FirstDividedInto.unique (hfirst : FirstDividedInto text before after)
    (hfirst' : FirstDividedInto text before' after') : before = before' ∧ after = after' := by
  have hlength : before.length = before'.length :=
    Nat.le_antisymm (hfirst.2 _ _ hfirst'.1) (hfirst'.2 _ _ hfirst.1)
  obtain ⟨hbefore, hafter⟩ := List.append_inj (hfirst.1.symm.trans hfirst'.1) hlength
  simp only [List.cons.injEq, true_and] at hafter
  exact ⟨hbefore, hafter⟩

/-- Dots cannot stand further left than where the text before them has none. -/
theorem firstDividedInto_of_not_mem (hdots : '.' ∉ before) :
    FirstDividedInto (before ++ '.' :: '.' :: after) before after := by
  refine ⟨rfl, fun before' after' hdivided => ?_⟩
  rcases List.append_eq_append_iff.1 hdivided with ⟨between, rfl, -⟩ | ⟨between, rfl, hrest⟩
  · rw [List.length_append]
    exact Nat.le_add_right _ _
  · match between with
    | [] => rw [List.append_nil]
    | d :: between =>
      obtain ⟨rfl, -⟩ := List.cons.inj hrest
      exact absurd (List.mem_append_right before' List.mem_cons_self) hdots

theorem splitAtDots_spec (text : List Char) : match splitAtDots text with
    | some (before, after) => FirstDividedInto text before after
    | none => ∀ before after, ¬ DividedInto text before after := by
  -- Dots at the front are the first; without them the first ones are those of the rest.
  fun_induction splitAtDots text with
  | case1 rest => exact ⟨rfl, fun _ _ _ => Nat.zero_le _⟩
  | case2 c rest hfront ih =>
    have hlater : ∀ {before after}, DividedInto (c :: rest) before after →
        ∃ inner, before = c :: inner ∧ DividedInto rest inner after := by
      intro before after hdivided
      rcases dividedInto_cons_iff.1 hdivided with ⟨-, hc, hrest⟩ | hinner
      · exact (hfront _ hc hrest).elim
      · exact hinner
    cases hsplit : splitAtDots rest with
    | none =>
      rw [hsplit] at ih
      intro before after hdivided
      obtain ⟨inner, -, hinner⟩ := hlater hdivided
      exact ih inner after hinner
    | some parts =>
      obtain ⟨inner, after⟩ := parts
      rw [hsplit] at ih
      refine ⟨dividedInto_cons_iff.2 (.inr ⟨inner, rfl, ih.1⟩), fun before' after' hdivided => ?_⟩
      obtain ⟨inner', rfl, hinner⟩ := hlater hdivided
      exact Nat.succ_le_succ (ih.2 inner' after' hinner)
  | case3 => exact fun _ _ => not_dividedInto_nil

theorem splitAtDots_eq_some_iff :
    splitAtDots text = some (before, after) ↔ FirstDividedInto text before after := by
  have hspec := splitAtDots_spec text
  cases hsplit : splitAtDots text with
  | none =>
    rw [hsplit] at hspec
    exact iff_of_false nofun fun hfirst => hspec _ _ hfirst.1
  | some parts =>
    rw [hsplit] at hspec
    constructor
    · intro hparts
      rw [Option.some.inj hparts] at hspec
      exact hspec
    · intro hfirst
      obtain ⟨hbefore, hafter⟩ := FirstDividedInto.unique hspec hfirst
      rw [← hbefore, ← hafter]

theorem splitAtDots_eq_none_iff :
    splitAtDots text = none ↔ ∀ before after, ¬ DividedInto text before after := by
  have hspec := splitAtDots_spec text
  cases hsplit : splitAtDots text with
  | none =>
    rw [hsplit] at hspec
    exact iff_of_true rfl hspec
  | some parts =>
    rw [hsplit] at hspec
    exact iff_of_false nofun fun hwhole => hwhole _ _ hspec.1

end Division

/-! ### What the parser accepts -/

section Parser

variable {text : List Char} {value lower upper : UInt32} {interval : Interval}

theorem readBound_eq_ok_iff : readBound text = .ok value ↔ WritesBound text value := by
  rw [readBound, mapError_eq_ok_iff, readWord_eq_ok_iff, isNumeralOf_trim_iff, WritesBound]

theorem parseChars_eq_ok (hwrites : Writes text interval) : parseChars text = .ok interval := by
  rw [parseChars]
  cases hwrites with
  | value hwhole hvalue =>
    rw [splitAtDots_eq_none_iff.2 hwhole, readBound_eq_ok_iff.2 hvalue]
    rfl
  | range hfirst hlower hupper hle =>
    rw [splitAtDots_eq_some_iff.2 hfirst]
    dsimp only
    rw [readBound_eq_ok_iff.2 hlower, readBound_eq_ok_iff.2 hupper]
    exact if_neg (UInt32.not_lt.2 hle)

theorem writes_of_parseChars (hparse : parseChars text = .ok interval) : Writes text interval := by
  rw [parseChars] at hparse
  split at hparse
  · next hsplit =>
    cases hread : readBound text with
    | error fault =>
      rw [hread] at hparse
      cases hparse
    | ok value =>
      rw [hread] at hparse
      obtain rfl := Except.ok.inj hparse
      exact .value (splitAtDots_eq_none_iff.1 hsplit) (readBound_eq_ok_iff.1 hread)
  · next before after hsplit =>
    obtain ⟨lower, hlower, hparse⟩ := exists_of_bind_eq_ok hparse
    obtain ⟨upper, hupper, hparse⟩ := exists_of_bind_eq_ok hparse
    split at hparse
    · cases hparse
    · next hle =>
      obtain rfl := Except.ok.inj hparse
      exact .range (splitAtDots_eq_some_iff.1 hsplit) (readBound_eq_ok_iff.1 hlower)
        (readBound_eq_ok_iff.1 hupper) (UInt32.not_lt.1 hle)

theorem parse_eq_ok_iff {text : String} : parse text = .ok interval ↔ Writes text.toList interval :=
  ⟨writes_of_parseChars, parseChars_eq_ok⟩

theorem Writes.isEmpty_eq_false (hwrites : Writes text interval) : interval.isEmpty = false := by
  cases hwrites with
  | value => exact isEmpty_eq_false_iff.2 (UInt32.le_refl _)
  | range _ _ _ hle => exact isEmpty_eq_false_iff.2 hle

theorem Writes.integer_eq_true (hwrites : Writes text interval) : interval.integer = true := by
  cases hwrites <;> rfl

/-! ### Decimal texts -/

/-- The decimal text of a value between two other texts. -/
def spaced (before : String) (value : UInt32) (after : String) : String :=
  before ++ toString value ++ after

variable {before after : String}

theorem toList_spaced (before : String) (value : UInt32) (after : String) :
    (spaced before value after).toList =
      before.toList ++ Nat.toDigits 10 value.toNat ++ after.toList := by
  have hdigits : (toString value).toList = Nat.toDigits 10 value.toNat := Nat.toList_repr
  rw [spaced, String.toList_append, String.toList_append, hdigits]

theorem writesBound_spaced (hbefore : IsWhite before.toList) (hafter : IsWhite after.toList) :
    WritesBound (spaced before value after).toList value :=
  ⟨_, ⟨_, _, hbefore, hafter, toList_spaced before value after⟩, isNumeralOf_toDigits _⟩

theorem dot_not_mem_spaced (hbefore : IsWhite before.toList) (hafter : IsWhite after.toList) :
    '.' ∉ (spaced before value after).toList := by
  have hwhite : '.'.toNat ∉ whiteSpace := by decide
  rw [toList_spaced, List.mem_append, List.mem_append]
  rintro ((hmem | hmem) | hmem)
  · exact hwhite (hbefore _ hmem)
  · exact absurd (Nat.isDigit_of_mem_toDigits (by decide) (by decide) hmem) (by decide)
  · exact hwhite (hafter _ hmem)

theorem writes_spaced {first second third fourth : String} (hle : lower ≤ upper)
    (hfirst : IsWhite first.toList) (hsecond : IsWhite second.toList)
    (hthird : IsWhite third.toList) (hfourth : IsWhite fourth.toList) :
    Writes (spaced first lower second ++ ".." ++ spaced third upper fourth).toList
      ⟨lower, upper, true⟩ := by
  have hdivided : (spaced first lower second ++ ".." ++ spaced third upper fourth).toList =
      (spaced first lower second).toList ++ '.' :: '.' :: (spaced third upper fourth).toList := by
    rw [String.toList_append, String.toList_append, List.append_assoc]
    rfl
  rw [hdivided]
  exact .range (firstDividedInto_of_not_mem (dot_not_mem_spaced hfirst hsecond))
    (writesBound_spaced hfirst hsecond) (writesBound_spaced hthird hfourth) hle

end Parser

/-- **The parser accepts exactly the grammar.** It yields an interval just for the texts that stand
for it, and the interval then has values and is integral. The decimal texts of two bounds in order,
with any white space around them, are read back as the range between the bounds. -/
theorem parse_accepts_grammar :
    (∀ text interval, parse text = .ok interval ↔ Writes text.toList interval) ∧
      (∀ text interval, parse text = .ok interval →
        interval.isEmpty = false ∧ interval.integer = true) ∧
      ∀ lower upper, lower ≤ upper → ∀ first second third fourth : String,
        IsWhite first.toList → IsWhite second.toList →
        IsWhite third.toList → IsWhite fourth.toList →
          parse (spaced first lower second ++ ".." ++ spaced third upper fourth) =
            .ok ⟨lower, upper, true⟩ := by
  refine ⟨fun text interval => parse_eq_ok_iff, fun text interval hparse => ?_, ?_⟩
  · have hwrites : Writes text.toList interval := parse_eq_ok_iff.1 hparse
    exact ⟨hwrites.isEmpty_eq_false, hwrites.integer_eq_true⟩
  · intro lower upper hle first second third fourth hfirst hsecond hthird hfourth
    exact parse_eq_ok_iff.2 (writes_spaced hle hfirst hsecond hthird hfourth)

/-- A sign and leading zeros are read over, as is white space beyond ASCII. Of three dots the last
is left to the upper bound, which it spoils. -/
theorem parse_accepts_grammar_signed :
    Writes "\t+044100 ".toList ⟨44100, 44100, true⟩ ∧
      (∀ interval, ¬ Writes "2...8".toList interval) ∧
      parse (spaced "" 2 "\u3000" ++ ".." ++ spaced "\n" 8 "") = .ok ⟨2, 8, true⟩ := by
  obtain ⟨haccepts, -, hrange⟩ := parse_accepts_grammar
  have hsigned : parse "\t+044100 " = .ok ⟨44100, 44100, true⟩ := rfl
  have hspoilt : parse "2...8" = .error (.bound ".8" .invalidDigit) := rfl
  refine ⟨(haccepts _ _).1 hsigned, fun interval hwrites => ?_, ?_⟩
  · rw [(haccepts _ _).2 hwrites] at hspoilt
    cases hspoilt
  · exact hrange 2 8 (by decide) "" "\u3000" "\n" "" (by decide) (by decide) (by decide) (by decide)

end DuplexAudio.Interval
