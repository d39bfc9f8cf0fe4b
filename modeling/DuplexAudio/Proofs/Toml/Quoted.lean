import DuplexAudio.Toml.Printer
import DuplexAudio.Toml.Quoted

/-!
Strings in quotes. Whichever of the four styles a text is written in, reading it back stops right
after the closing quotes and yields the text.
-/

namespace DuplexAudio.Toml

open Text

variable {c : Char} {text rest : List Char}

/-! ### Escapes -/

theorem hex_of_ascii : ∀ code < 0x80,
    (writeHex 4 code).length = 4 ∧ readHex? (writeHex 4 code) = some code := by
  decide +kernel

theorem charOfCode?_toNat (c : Char) : charOfCode? c.toNat = some c := by
  have hvalid : c.toNat.isValidChar := c.valid
  rw [charOfCode?, if_pos hvalid, Char.ofNat_toNat]

theorem toNat_lt_of_needsCode (hcode : needsCode c = true) : c.toNat < 0x80 := by
  have hval : c.val < 0x20 ∨ c.val = 0x7F := by
    simp only [needsCode, Bool.or_eq_true, Bool.and_eq_true, decide_eq_true_eq, beq_iff_eq] at hcode
    exact hcode.imp (fun hlow => hlow.1.1) id
  rcases hval with hlow | hdel
  · have hnat : c.val.toNat < (0x20 : UInt32).toNat := UInt32.lt_iff_toNat_lt.1 hlow
    exact Nat.lt_trans hnat (by decide)
  · change c.val.toNat < 0x80
    rw [hdel]
    decide

/-- The four digits of a code are read back, whatever follows. -/
theorem readEscape_writeHex (hcode : needsCode c = true) (rest : List Char) :
    readEscape ('u' :: writeHex 4 c.toNat ++ rest) = some (c, rest) := by
  obtain ⟨hlength, hread⟩ := hex_of_ascii c.toNat (toNat_lt_of_needsCode hcode)
  match hdigits : writeHex 4 c.toNat, hlength with
  | [first, second, third, fourth], _ =>
    rw [hdigits] at hread
    simp [readEscape, hread, charOfCode?_toNat]

theorem plain_or_newline (hcode : needsCode c = false) : isPlain c = true ∨ c = '\n' := by
  simp only [needsCode, Bool.or_eq_false_iff, Bool.and_eq_false_iff, bne_eq_false_iff_eq,
    decide_eq_false_iff_not, UInt32.not_lt, beq_eq_false_iff_ne] at hcode
  simp only [isPlain, Bool.or_eq_true, Bool.and_eq_true, decide_eq_true_eq, bne_iff_ne, beq_iff_eq]
  rcases hcode with ⟨(hlow | htab) | hnewline, hdel⟩
  · exact .inl (.inr ⟨hlow, hdel⟩)
  · exact .inl (.inl htab)
  · exact .inr hnewline

/-- Characters that are written as they are. -/
structure Unescaped (c : Char) : Prop where
  plain : isPlain c = true
  ne_quote : c ≠ '"'
  ne_backslash : c ≠ '\\'
  ne_newline : c ≠ '\n'
  ne_return : c ≠ '\r'

/-- A character stands for itself, or is escaped in a way that is read back. -/
theorem escape?_cases (c : Char) :
    (escape? c = none ∧ Unescaped c) ∨
      ∃ code, escape? c = some ('\\' :: code) ∧
        ∀ rest, readEscape (code ++ rest) = some (c, rest) := by
  unfold escape?
  split
  · exact .inr ⟨['b'], rfl, fun _ => rfl⟩
  · exact .inr ⟨['t'], rfl, fun _ => rfl⟩
  · exact .inr ⟨['n'], rfl, fun _ => rfl⟩
  · exact .inr ⟨['f'], rfl, fun _ => rfl⟩
  · exact .inr ⟨['r'], rfl, fun _ => rfl⟩
  · exact .inr ⟨['"'], rfl, fun _ => rfl⟩
  · exact .inr ⟨['\\'], rfl, fun _ => rfl⟩
  · next _ _ hnewline _ hreturn hquote hbackslash =>
    cases hcode : needsCode c with
    | true => exact .inr ⟨'u' :: writeHex 4 c.toNat, rfl, readEscape_writeHex hcode⟩
    | false =>
      have hplain := (plain_or_newline hcode).resolve_right hnewline
      exact .inl ⟨rfl, hplain, hquote, hbackslash, hnewline, hreturn⟩

/-! ### One line -/

theorem readBasic_escape {code after : List Char} (hread : readEscape code = some (c, after)) :
    readBasic ('\\' :: code) = (readBasic after).map fun (content, rest) => (c :: content, rest) := by
  rw [readBasic]
  split
  · next heq => rw [hread] at heq; cases heq; rfl
  · next heq => rw [hread] at heq; cases heq

theorem readBasic_unescaped (hplain : Unescaped c) (rest : List Char) :
    readBasic (c :: rest) = (readBasic rest).map fun (content, rest) => (c :: content, rest) := by
  rw [readBasic, if_pos hplain.plain]
  · exact fun heq => hplain.ne_quote heq
  · exact fun heq => hplain.ne_backslash heq

theorem readBasic_writeBasic (text rest : List Char) :
    readBasic (writeBasic text ++ '"' :: rest) = some (text, rest) := by
  induction text with
  | nil => rw [writeBasic, List.flatMap_nil, List.nil_append, readBasic]
  | cons c text ih =>
    have hwrite : writeBasic (c :: text) = (escape? c).getD [c] ++ writeBasic text := rfl
    rw [hwrite, List.append_assoc]
    rcases escape?_cases c with ⟨hescape, hplain⟩ | ⟨code, hescape, hread⟩
    · rw [hescape, Option.getD_none, List.singleton_append, readBasic_unescaped hplain, ih]
      rfl
    · rw [hescape, Option.getD_some, List.cons_append, readBasic_escape (hread _), ih]
      rfl

theorem readLiteral_append (hplain : ∀ c ∈ text, isPlain c = true) (hquote : '\'' ∉ text)
    (rest : List Char) : readLiteral (text ++ '\'' :: rest) = some (text, rest) := by
  induction text with
  | nil => rfl
  | cons c text ih =>
    have hne : c ≠ '\'' := fun heq => hquote (heq ▸ List.mem_cons_self)
    rw [List.cons_append, readLiteral, if_pos (hplain c List.mem_cons_self),
      ih (fun other hmem => hplain other (List.mem_cons_of_mem c hmem))
        (fun hmem => hquote (List.mem_cons_of_mem c hmem))]
    · rfl
    · exact fun heq => hne heq

/-! ### Closing quotes -/

section Closing

variable {quote : Char}

theorem closing?_replicate {count : Nat} (hcount : count ≤ 2) (hrest : rest.head? ≠ some quote) :
    closing? quote (List.replicate count quote ++ quote :: quote :: quote :: rest) =
      some (List.replicate count quote, rest) := by
  have hhead : ∀ c after, rest = c :: after → (c == quote) = false := by
    rintro c after rfl
    simpa using hrest
  match count, hcount with
  | 0, _ =>
    match rest with
    | [] => simp [closing?]
    | [c] => simp [closing?, hhead c [] rfl]
    | c :: d :: after => simp [closing?, hhead c _ rfl]
  | 1, _ =>
    match rest with
    | [] => simp [closing?]
    | c :: after => simp [closing?, hhead c _ rfl]
  | 2, _ => simp [closing?]

theorem closing?_eq_none (hopen : ¬ [quote, quote, quote] <+: text) :
    closing? quote text = none := by
  have hdiffer : ∀ a b c after, text = a :: b :: c :: after →
      (a == quote && b == quote && c == quote) = false := by
    rintro a b c after rfl
    rw [Bool.eq_false_iff]
    intro hall
    simp only [Bool.and_eq_true, beq_iff_eq] at hall
    obtain ⟨⟨rfl, rfl⟩, rfl⟩ := hall
    exact hopen ⟨after, rfl⟩
  unfold closing?
  split
  · next a b c d e after => rw [hdiffer a b c _ rfl, if_neg Bool.false_ne_true]
  · next a b c d => rw [hdiffer a b c _ rfl, if_neg Bool.false_ne_true]
  · next a b c => rw [hdiffer a b c _ rfl, if_neg Bool.false_ne_true]
  · rfl

theorem not_closing_of_head_ne (hhead : text.head? ≠ some quote) :
    ¬ [quote, quote, quote] <+: text := by
  rintro ⟨after, rfl⟩
  exact hhead rfl

end Closing

/-! ### Several lines with escapes -/

theorem readBasicLines_closing {content : List Char}
    (hclosing : closing? '"' text = some (content, rest)) :
    readBasicLines text = some (content, rest) := by
  rw [readBasicLines.eq_def, hclosing]

theorem readBasicLines_escape {code after : List Char} (hread : readEscape code = some (c, after)) :
    readBasicLines ('\\' :: code) =
      (readBasicLines after).map fun (content, rest) => (c :: content, rest) := by
  rw [readBasicLines.eq_def, closing?_eq_none (not_closing_of_head_ne (by simp))]
  simp only
  split
  · next heq => rw [hread] at heq; cases heq; rfl
  · next heq => rw [hread] at heq; cases heq

theorem readBasicLines_newline (rest : List Char) :
    readBasicLines ('\n' :: rest) =
      (readBasicLines rest).map fun (content, rest) => ('\n' :: content, rest) := by
  rw [readBasicLines.eq_def, closing?_eq_none (not_closing_of_head_ne (by simp))]
  rfl

/-- A quote that does not close the string, or any other character that stands for itself. -/
theorem readBasicLines_plain (hopen : closing? '"' (c :: rest) = none)
    (hplain : c = '"' ∨ Unescaped c) :
    readBasicLines (c :: rest) =
      (readBasicLines rest).map fun (content, rest) => (c :: content, rest) := by
  rw [readBasicLines.eq_def, hopen]
  rcases hplain with rfl | hplain
  · rfl
  · simp only
    split
    · next heq => cases heq; exact absurd rfl hplain.ne_backslash
    · next heq => cases heq; exact absurd rfl hplain.ne_newline
    · next heq => cases heq; exact absurd rfl hplain.ne_return
    · next heq => cases heq; rw [if_pos hplain.plain]
    · next heq => cases heq

theorem writeBasicLines_of_ne (hquote : c ≠ '"') (hnewline : c ≠ '\n') (quotes : Nat) :
    writeBasicLines quotes (c :: text) = (escape? c).getD [c] ++ writeBasicLines 0 text := by
  rw [writeBasicLines, if_neg hquote, if_neg hnewline]

/-- Only a quote that is still allowed is written as a quote. -/
theorem head_writeBasicLines (text : List Char) (quotes : Nat) (htext : c = '"' → 2 ≤ quotes) (after : List Char) :
    (writeBasicLines quotes (c :: text) ++ after).head? ≠ some '"' := by
  by_cases hquote : c = '"'
  · rw [writeBasicLines, if_pos hquote, if_neg (Nat.not_lt.2 (htext hquote))]
    simp
  by_cases hnewline : c = '\n'
  · rw [writeBasicLines, if_neg hquote, if_pos hnewline]
    simp
  rw [writeBasicLines_of_ne hquote hnewline]
  rcases escape?_cases c with ⟨hescape, -⟩ | ⟨code, hescape, -⟩
  · simpa [hescape] using hquote
  · simp [hescape]

/-- The closing quotes are not met before the content is over, but for at most two quotes at its
end. -/
theorem closes_or_goes_on (quotes : Nat) (text rest : List Char) :
    (∃ count ≤ 2, text = List.replicate count '"' ∧ writeBasicLines quotes text = text) ∨
      ¬ ['"', '"', '"'] <+: writeBasicLines quotes text ++ '"' :: '"' :: '"' :: rest := by
  match text with
  | [] => exact .inl ⟨0, by decide, rfl, rfl⟩
  | c :: text =>
    by_cases hfirst : c = '"' → 2 ≤ quotes
    · exact .inr (not_closing_of_head_ne (head_writeBasicLines _ quotes hfirst _))
    rw [Classical.not_imp, Nat.not_le] at hfirst
    obtain ⟨rfl, hquotes⟩ := hfirst
    have hwrite (text : List Char) :
        writeBasicLines quotes ('"' :: text) = '"' :: writeBasicLines (quotes + 1) text := by
      rw [writeBasicLines, if_pos rfl, if_pos hquotes]
    rw [hwrite, List.cons_append, List.cons_prefix_cons]
    match text with
    | [] => exact .inl ⟨1, by decide, rfl, rfl⟩
    | d :: text =>
      by_cases hsecond : d = '"' → 2 ≤ quotes + 1
      · have hhead := head_writeBasicLines text (quotes + 1) hsecond
          ('"' :: '"' :: '"' :: rest)
        exact .inr fun ⟨_, after, heq⟩ => hhead (heq ▸ rfl)
      rw [Classical.not_imp, Nat.not_le] at hsecond
      obtain ⟨rfl, hquotes'⟩ := hsecond
      rw [writeBasicLines, if_pos rfl, if_pos hquotes', List.cons_append, List.cons_prefix_cons]
      match text with
      | [] => exact .inl ⟨2, by decide, rfl, rfl⟩
      | e :: text =>
        have hthird := head_writeBasicLines text (quotes + 1 + 1)
          (fun _ : e = '"' => Nat.le_add_left 2 quotes) ('"' :: '"' :: '"' :: rest)
        exact .inr fun ⟨_, _, after, heq⟩ => hthird (heq ▸ rfl)

theorem readBasicLines_writeBasicLines (hrest : rest.head? ≠ some '"') (quotes : Nat)
    (text : List Char) :
    readBasicLines (writeBasicLines quotes text ++ '"' :: '"' :: '"' :: rest) =
      some (text, rest) := by
  induction text generalizing quotes with
  | nil => exact readBasicLines_closing (closing?_replicate (Nat.zero_le 2) hrest)
  | cons c text ih =>
    rcases closes_or_goes_on quotes (c :: text) rest with ⟨count, hcount, htext, hwrite⟩ | hopen
    · rw [hwrite, htext]
      exact readBasicLines_closing (closing?_replicate hcount hrest)
    have hopen := closing?_eq_none hopen
    by_cases hquote : c = '"'
    · subst hquote
      rw [writeBasicLines, if_pos rfl] at hopen ⊢
      split at hopen
      · next hquotes =>
        rw [List.cons_append] at hopen
        rw [if_pos hquotes, List.cons_append, readBasicLines_plain hopen (.inl rfl), ih]
        rfl
      · next hquotes =>
        have hread : readEscape ('"' :: (writeBasicLines 0 text ++ '"' :: '"' :: '"' :: rest)) =
            some ('"', writeBasicLines 0 text ++ '"' :: '"' :: '"' :: rest) := rfl
        rw [if_neg hquotes, List.cons_append, List.cons_append, readBasicLines_escape hread, ih]
        rfl
    by_cases hnewline : c = '\n'
    · rw [writeBasicLines, if_neg hquote, if_pos hnewline, List.cons_append,
        readBasicLines_newline, ih, hnewline]
      rfl
    rw [writeBasicLines_of_ne hquote hnewline] at hopen ⊢
    rw [List.append_assoc] at hopen ⊢
    rcases escape?_cases c with ⟨hescape, hplain⟩ | ⟨code, hescape, hread⟩
    · rw [hescape, Option.getD_none, List.singleton_append] at hopen ⊢
      rw [readBasicLines_plain hopen (.inr hplain), ih]
      rfl
    · rw [hescape, Option.getD_some, List.cons_append, readBasicLines_escape (hread _), ih]
      rfl

/-! ### Several lines without escapes -/

section Run

variable {mark : Char}

theorem longestRun_mono {first second : Nat} (hle : first ≤ second) (text : List Char) :
    longestRun mark first text ≤ longestRun mark second text := by
  induction text generalizing first second with
  | nil => exact hle
  | cons c rest ih =>
    rw [longestRun, longestRun]
    split
    · exact ih (Nat.add_le_add_right hle 1)
    · omega

theorem le_longestRun (current : Nat) (text : List Char) : current ≤ longestRun mark current text := by
  induction text generalizing current with
  | nil => exact Nat.le_refl current
  | cons c rest ih =>
    rw [longestRun]
    split
    · exact Nat.le_trans (Nat.le_succ current) (ih (current + 1))
    · exact Nat.le_max_left ..

theorem longestRun_tail_le (c : Char) (rest : List Char) :
    longestRun mark 0 rest ≤ longestRun mark 0 (c :: rest) := by
  rw [longestRun]
  split
  · exact longestRun_mono (Nat.zero_le 1) rest
  · exact Nat.le_max_right ..

/-- A text without three marks in a row is at most two marks, or does not begin with three of them
even when three more follow it. -/
theorem marks_or_other (hrun : longestRun mark 0 text ≤ 2) (rest : List Char) :
    (∃ count ≤ 2, text = List.replicate count mark) ∨
      ¬ [mark, mark, mark] <+: text ++ mark :: mark :: mark :: rest := by
  match text with
  | [] => exact .inl ⟨0, by decide, rfl⟩
  | c :: text =>
    by_cases hfirst : c ≠ mark
    · exact .inr (not_closing_of_head_ne (by simpa using hfirst))
    obtain rfl := Decidable.not_not.1 hfirst
    match text with
    | [] => exact .inl ⟨1, by decide, rfl⟩
    | d :: text =>
      by_cases hsecond : d ≠ c
      · exact .inr fun ⟨_, heq⟩ => hsecond (List.cons.inj (List.cons.inj heq).2).1.symm
      obtain rfl := Decidable.not_not.1 hsecond
      match text with
      | [] => exact .inl ⟨2, by decide, rfl⟩
      | e :: text =>
        refine .inr fun ⟨_, heq⟩ => ?_
        obtain rfl := (List.cons.inj (List.cons.inj (List.cons.inj heq).2).2).1
        have hthree : 3 ≤ longestRun d 0 (d :: d :: d :: text) := by
          simp only [longestRun, if_true]
          exact le_longestRun 3 text
        omega

end Run

theorem readLiteralLines_closing {content : List Char}
    (hclosing : closing? '\'' text = some (content, rest)) :
    readLiteralLines text = some (content, rest) := by
  rw [readLiteralLines.eq_def, hclosing]

theorem readLiteralLines_cons (hopen : closing? '\'' (c :: rest) = none)
    (hcode : needsCode c = false) :
    readLiteralLines (c :: rest) =
      (readLiteralLines rest).map fun (content, rest) => (c :: content, rest) := by
  rw [readLiteralLines.eq_def, hopen]
  rcases plain_or_newline hcode with hplain | rfl
  · simp only
    split
    · next heq => cases heq; rfl
    · next heq => cases heq; exact absurd hcode (by decide)
    · next heq => cases heq; rw [if_pos hplain]
    · next heq => cases heq
  · rfl

theorem readLiteralLines_append (hcodes : ∀ c ∈ text, needsCode c = false)
    (hrun : longestRun '\'' 0 text ≤ 2) (hrest : rest.head? ≠ some '\'') :
    readLiteralLines (text ++ '\'' :: '\'' :: '\'' :: rest) = some (text, rest) := by
  induction text with
  | nil => exact readLiteralLines_closing (closing?_replicate (Nat.zero_le 2) hrest)
  | cons c text ih =>
    rcases marks_or_other hrun rest with ⟨count, hcount, htext⟩ | hopen
    · rw [htext]
      exact readLiteralLines_closing (closing?_replicate hcount hrest)
    have htail := ih (fun other hmem => hcodes other (List.mem_cons_of_mem c hmem))
      (Nat.le_trans (longestRun_tail_le c text) hrun)
    rw [List.cons_append] at hopen ⊢
    rw [readLiteralLines_cons (closing?_eq_none hopen) (hcodes c List.mem_cons_self), htail]
    rfl

/-! ### Any style -/

theorem codes_of_any (hcodes : text.any needsCode = false) : ∀ c ∈ text, needsCode c = false :=
  fun c hmem => Bool.eq_false_iff.2 (List.any_eq_false.1 hcodes c hmem)

/-- A literal string holds no character that its notation could not express. -/
theorem of_style_literal (hstyle : style text = .literal) :
    text ≠ [] ∧ (∀ c ∈ text, isPlain c = true) ∧ '\'' ∉ text := by
  have hempty : text ≠ [] := by
    rintro rfl
    exact absurd hstyle (by decide)
  have hguard : text.any needsCode = false ∧ text.contains '\n' = false ∧
      text.contains '\'' = false := by
    unfold style at hstyle
    grind
  obtain ⟨hcodes, hlines, hquote⟩ := hguard
  refine ⟨hempty, fun c hmem => (plain_or_newline (codes_of_any hcodes c hmem)).resolve_right ?_,
    by simpa using hquote⟩
  rintro rfl
  simp_all

theorem of_style_literalLines (hstyle : style text = .literalLines) :
    (∀ c ∈ text, needsCode c = false) ∧ longestRun '\'' 0 text ≤ 2 := by
  have hguard : text.any needsCode = false ∧ longestRun '\'' 0 text ≤ 2 := by
    unfold style at hstyle
    grind
  exact ⟨codes_of_any hguard.1, hguard.2⟩

/-- The break after the opening quotes is dropped, and no break of the content in its place. -/
theorem skipFirstBreak_firstBreak {written : List Char}
    (hhead : '\n' ∉ text → written.head? ≠ some '\n' ∧ written.head? ≠ some '\r') :
    skipFirstBreak (firstBreak text ++ written) = written := by
  by_cases hlines : '\n' ∈ text
  · rw [firstBreak, if_pos (by simpa using hlines)]
    rfl
  · obtain ⟨hnewline, hreturn⟩ := hhead hlines
    rw [firstBreak, if_neg (by simpa using hlines), List.nil_append, skipFirstBreak]
    have hnone : newline? written = none := by
      unfold newline?
      split
      · exact absurd rfl hnewline
      · exact absurd rfl hreturn
      · rfl
    rw [hnone, Option.getD_none]

theorem head_writeBasicLines_of_not_mem (hlines : '\n' ∉ text) (after : List Char) :
    (writeBasicLines 0 text ++ '"' :: after).head? ≠ some '\n' ∧
      (writeBasicLines 0 text ++ '"' :: after).head? ≠ some '\r' := by
  match text with
  | [] => simp [writeBasicLines]
  | c :: text =>
    have hnewline : c ≠ '\n' := fun heq => hlines (heq ▸ List.mem_cons_self)
    by_cases hquote : c = '"'
    · rw [writeBasicLines, if_pos hquote, if_pos (by decide)]
      simp
    rw [writeBasicLines_of_ne hquote hnewline]
    rcases escape?_cases c with ⟨hescape, hplain⟩ | ⟨code, hescape, -⟩
    · simpa [hescape] using ⟨hnewline, hplain.ne_return⟩
    · simp [hescape]

theorem head_append_of_codes (hcodes : ∀ c ∈ text, needsCode c = false) (hlines : '\n' ∉ text)
    (after : List Char) :
    (text ++ '\'' :: after).head? ≠ some '\n' ∧ (text ++ '\'' :: after).head? ≠ some '\r' := by
  match text with
  | [] => simp
  | c :: text =>
    have hcode := hcodes c List.mem_cons_self
    refine ⟨fun heq => hlines ?_, fun heq => absurd hcode ?_⟩
    · simp_all
    · obtain rfl : c = '\r' := by simpa using heq
      decide

theorem readQuoted_basic (hhead : ¬ ['"', '"'] <+: text) :
    readQuoted ('"' :: text) = readBasic text := by
  unfold readQuoted
  split
  · next after heq => cases heq; exact absurd ⟨after, rfl⟩ hhead
  · next heq => cases heq; rfl
  · next heq => cases heq
  · next heq => cases heq
  · next _ hquote _ _ => exact absurd rfl (hquote text)

theorem readQuoted_literal (hhead : text.head? ≠ some '\'') :
    readQuoted ('\'' :: text) = readLiteral text := by
  unfold readQuoted
  split
  · next heq => cases heq
  · next heq => cases heq
  · next heq => cases heq; exact absurd rfl hhead
  · next heq => cases heq; rfl
  · next _ _ _ hquote => exact absurd rfl (hquote text)

/-- One quote alone follows the content of a basic string; in particular an empty string is not taken
for the opening of a string over several lines. -/
theorem not_opening_writeBasic (hrest : rest.head? ≠ some '"') (text : List Char) :
    ¬ ['"', '"'] <+: writeBasic text ++ '"' :: rest := by
  match text with
  | [] =>
    rintro ⟨after, heq⟩
    obtain rfl := (List.cons.inj heq).2
    exact hrest rfl
  | c :: text =>
    have hwrite : writeBasic (c :: text) = (escape? c).getD [c] ++ writeBasic text := rfl
    rw [hwrite]
    rintro ⟨after, heq⟩
    rcases escape?_cases c with ⟨hescape, hplain⟩ | ⟨code, hescape, -⟩
    · rw [hescape] at heq
      exact hplain.ne_quote (List.cons.inj heq).1.symm
    · rw [hescape] at heq
      exact absurd (List.cons.inj heq).1 (by decide)

/-- A written text is read back, and reading stops right after it. -/
theorem readQuoted_writeText (text : List Char) (hdouble : rest.head? ≠ some '"')
    (hsingle : rest.head? ≠ some '\'') :
    readQuoted (writeText text ++ rest) = some (text, rest) := by
  unfold writeText
  split
  · next hstyle =>
    simp only [List.cons_append, List.append_assoc, List.nil_append]
    rw [readQuoted_basic (not_opening_writeBasic hdouble text), readBasic_writeBasic]
  · next hstyle =>
    obtain ⟨hempty, hplain, hquote⟩ := of_style_literal hstyle
    simp only [List.cons_append, List.append_assoc, List.nil_append]
    rw [readQuoted_literal, readLiteral_append hplain hquote]
    obtain ⟨c, after, rfl⟩ := List.exists_cons_of_ne_nil hempty
    intro hhead
    obtain rfl : c = '\'' := by simpa using hhead
    exact hquote List.mem_cons_self
  · next hstyle =>
    simp only [List.cons_append, List.append_assoc, List.nil_append]
    rw [readQuoted, skipFirstBreak_firstBreak (head_writeBasicLines_of_not_mem · _),
      readBasicLines_writeBasicLines hdouble]
  · next hstyle =>
    obtain ⟨hcodes, hrun⟩ := of_style_literalLines hstyle
    simp only [List.cons_append, List.append_assoc, List.nil_append]
    rw [readQuoted, skipFirstBreak_firstBreak (head_append_of_codes hcodes · _),
      readLiteralLines_append hcodes hrun hsingle]

end DuplexAudio.Toml
