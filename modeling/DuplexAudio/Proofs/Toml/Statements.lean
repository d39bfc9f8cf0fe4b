import DuplexAudio.Proofs.Toml.Values

/-!
Sections as lines: the header of a section, an entry for each of its plain values, and empty lines
between sections. A written document is read as the statements that its sections ask for.
-/

namespace DuplexAudio.Toml

/-! ### Keys -/

/-- Keys that need no quotes. -/
def IsBareKey (key : String) : Prop := key.toList ≠ [] ∧ key.toList.all isBare = true

instance (key : String) : Decidable (IsBareKey key) := inferInstanceAs (Decidable (_ ∧ _))

section Key

variable {key : String} {path : List String} {rest : List Char}

theorem IsBareKey.exists_eq_cons (hkey : IsBareKey key) :
    ∃ c after, key.toList = c :: after ∧ isBare c = true := by
  obtain ⟨hne, hall⟩ := hkey
  obtain ⟨c, after, hcons⟩ := List.exists_cons_of_ne_nil hne
  exact ⟨c, after, hcons, List.all_eq_true.1 hall c (hcons ▸ List.mem_cons_self)⟩

theorem ne_of_isBare {c d : Char} (hc : isBare c = true) (hd : isBare d = false) : c ≠ d := by
  rintro rfl
  rw [hd] at hc
  cases hc

theorem isSpace_of_isBare {c : Char} (hc : isBare c = true) : isSpace c = false := by
  have hblank : c ≠ ' ' := ne_of_isBare hc (by decide)
  have htab : c ≠ '\t' := ne_of_isBare hc (by decide)
  simp [isSpace, hblank, htab]

theorem skipSpace_of_head {c : Char} (hc : isSpace c = false) (rest : List Char) :
    skipSpace (c :: rest) = c :: rest :=
  List.dropWhile_cons_of_neg (by simp [hc])

theorem readKey_append (hkey : IsBareKey key) (hrest : ∀ c ∈ rest.head?, isBare c = false) :
    readKey (key.toList ++ rest) = some (key, rest) := by
  have hspan := span_append (List.all_eq_true.1 hkey.2) hrest
  obtain ⟨c, after, hcons, hbare⟩ := hkey.exists_eq_cons
  unfold readKey
  split
  · next heq =>
    rw [hcons] at heq
    exact absurd (List.cons.inj heq).1 (ne_of_isBare hbare (by decide))
  · next heq =>
    rw [hcons] at heq
    exact absurd (List.cons.inj heq).1 (ne_of_isBare hbare (by decide))
  · rw [hspan]
    split
    · next heq => exact absurd (Prod.mk.inj heq).1 hkey.1
    · next heq =>
      obtain ⟨rfl, rfl⟩ := Prod.mk.inj heq
      rw [String.ofList_toList]

theorem toList_intercalate_cons (key second : String) (path : List String) :
    (String.intercalate "." (key :: second :: path)).toList =
      key.toList ++ '.' :: (String.intercalate "." (second :: path)).toList := by
  rw [String.intercalate_cons_cons]
  simp

theorem exists_intercalate_eq_cons (hpath : ∀ key ∈ path, IsBareKey key) (hne : path ≠ []) :
    ∃ c after, (String.intercalate "." path).toList = c :: after ∧ isBare c = true := by
  obtain ⟨key, path, rfl⟩ := List.exists_cons_of_ne_nil hne
  obtain ⟨c, after, hcons, hc⟩ := (hpath key List.mem_cons_self).exists_eq_cons
  match path with
  | [] => exact ⟨c, after, by rw [String.intercalate_singleton, hcons], hc⟩
  | second :: path =>
    exact ⟨c, _, by rw [toList_intercalate_cons, hcons, List.cons_append], hc⟩

theorem skipSpace_intercalate (hpath : ∀ key ∈ path, IsBareKey key) (hne : path ≠ [])
    (rest : List Char) :
    skipSpace ((String.intercalate "." path).toList ++ rest) =
      (String.intercalate "." path).toList ++ rest := by
  obtain ⟨c, after, hcons, hc⟩ := exists_intercalate_eq_cons hpath hne
  rw [hcons]
  exact skipSpace_of_head (isSpace_of_isBare hc) _

/-- A path ends at the first character that neither belongs to a key nor joins two of them. -/
theorem readKeys_intercalate {limit : Nat} (hpath : ∀ key ∈ path, IsBareKey key)
    (hne : path ≠ []) (hlimit : path.length ≤ limit) (hbare : ∀ c ∈ rest.head?, isBare c = false)
    (hpoint : (skipSpace rest).head? ≠ some '.') :
    readKeys limit ((String.intercalate "." path).toList ++ rest) =
      some (path, skipSpace rest) := by
  induction path generalizing limit with
  | nil => exact absurd rfl hne
  | cons key path ih =>
    rw [List.length_cons] at hlimit
    rw [List.forall_mem_cons] at hpath
    obtain ⟨limit, rfl⟩ := Nat.exists_eq_add_of_le' (Nat.le_of_add_left_le hlimit)
    match path with
    | [] =>
      rw [String.intercalate_singleton, readKeys, readKey_append hpath.1 hbare]
      simp only [bind, Option.bind]
      split
      · next heq => exact absurd (congrArg List.head? heq) hpoint
      · rfl
    | second :: path =>
      have hrest := ih hpath.2 (List.cons_ne_nil _ _) (Nat.le_of_add_le_add_right hlimit)
      have hskip := skipSpace_intercalate hpath.2 (List.cons_ne_nil _ _) rest
      rw [toList_intercalate_cons, List.append_assoc, List.cons_append]
      generalize (String.intercalate "." (second :: path)).toList ++ rest = more at hrest hskip ⊢
      have hstop : ∀ c ∈ ('.' :: more).head?, isBare c = false := by
        rintro c ⟨⟩
        decide
      rw [readKeys, readKey_append hpath.1 hstop]
      simp only [bind, Option.bind, skipSpace_of_head (c := '.') (by decide), hskip, hrest]
      rfl

theorem readPath_intercalate (hpath : ∀ key ∈ path, IsBareKey key) (hne : path ≠ [])
    (hlength : path.length ≤ maxDepth) {c : Char} (hbare : isBare c = false) (hpoint : c ≠ '.')
    (hspace : isSpace c = false) (rest : List Char) :
    readPath ((String.intercalate "." path).toList ++ c :: rest) = some (path, c :: rest) := by
  have hskip := skipSpace_of_head hspace rest
  rw [readPath, readKeys_intercalate hpath hne hlength, hskip]
  · rintro d ⟨⟩
    exact hbare
  · rw [hskip]
    simpa using hpoint

end Key

/-! ### Lines -/

/-- Whatever follows it, the line asks for the statement. -/
structure IsLine (line : List Char) (statement : Statement) : Prop where
  begins : ∃ c after, line = c :: after ∧ (isBare c = true ∨ c = '[')
  read : ∀ rest, readStatement (line ++ '\n' :: rest) = some (statement, '\n' :: rest)

section Line

variable {path : List String} {key : String} {value : Document}

theorem isLine_openTable (hpath : ∀ key ∈ path, IsBareKey key) (hne : path ≠ [])
    (hlength : path.length ≤ maxDepth) :
    IsLine ('[' :: (String.intercalate "." path).toList ++ [']']) (.openTable path) where
  begins := ⟨_, _, rfl, .inr rfl⟩
  read rest := by
    have hread := readPath_intercalate hpath hne hlength (c := ']') (by decide) (by decide)
      (by decide) ('\n' :: rest)
    have hskip := skipSpace_intercalate hpath hne (']' :: '\n' :: rest)
    obtain ⟨c, after, hcons, hc⟩ := exists_intercalate_eq_cons hpath hne
    rw [List.append_assoc, List.cons_append, List.singleton_append]
    rw [hcons, List.cons_append] at hread hskip ⊢
    unfold readStatement
    split
    · next heq =>
      exact absurd (List.cons.inj (List.cons.inj heq).2).1 (ne_of_isBare hc (by decide))
    · next heq =>
      cases heq
      simp only [hskip, hread, bind, Option.bind]
      rfl
    · next hopen => exact absurd rfl (hopen _)

theorem isLine_openElement (hpath : ∀ key ∈ path, IsBareKey key) (hne : path ≠ [])
    (hlength : path.length ≤ maxDepth) :
    IsLine ('[' :: '[' :: (String.intercalate "." path).toList ++ [']', ']'])
      (.openElement path) where
  begins := ⟨_, _, rfl, .inr rfl⟩
  read rest := by
    have hread := readPath_intercalate hpath hne hlength (c := ']') (by decide) (by decide)
      (by decide) (']' :: '\n' :: rest)
    have hskip := skipSpace_intercalate hpath hne (']' :: ']' :: '\n' :: rest)
    rw [List.append_assoc, List.cons_append, List.cons_append, readStatement]
    simp only [List.cons_append, List.nil_append, hskip, hread, bind, Option.bind]
    rfl

theorem skipSpace_writeValue (hplain : IsPlain value) (rest : List Char) :
    skipSpace (writeValue value ++ rest) = writeValue value ++ rest := by
  cases hplain with
  | scalar hscalar =>
    obtain ⟨c, after, hcons, hbegins⟩ := hscalar.exists_eq_cons
    rw [hcons]
    exact skipSpace_of_head hbegins.isSpace_eq_false _
  | @sequence items hitems =>
    obtain ⟨inner, hinner, -⟩ := readItems_layItems (items.length + 2) 0 hitems
      (Nat.lt_succ_self _) rest
    rw [writeValue, hinner]
    exact skipSpace_of_head (by decide) _

theorem isLine_assign (hkey : IsBareKey key) (hplain : IsPlain value) :
    IsLine (key.toList ++ [' ', '=', ' '] ++ writeValue value) (.assign [key] (.ofPlain value)) where
  begins := by
    obtain ⟨c, after, hcons, hc⟩ := hkey.exists_eq_cons
    exact ⟨c, _, by rw [hcons]; rfl, .inl hc⟩
  read rest := by
    have hpath : readPath (key.toList ++ ' ' :: '=' :: ' ' :: (writeValue value ++ '\n' :: rest)) =
        some ([key], '=' :: ' ' :: (writeValue value ++ '\n' :: rest)) := by
      generalize ' ' :: (writeValue value ++ '\n' :: rest) = more
      have hskip : skipSpace (' ' :: '=' :: more) = '=' :: more := rfl
      have hread : readKeys maxDepth
          ((String.intercalate "." [key]).toList ++ ' ' :: '=' :: more) =
            some ([key], skipSpace (' ' :: '=' :: more)) :=
        readKeys_intercalate (by simpa using hkey) (List.cons_ne_nil _ _) (Nat.le_add_left 1 79)
          (by rintro c ⟨⟩; decide) (by simp [hskip])
      rw [String.intercalate_singleton, hskip] at hread
      exact hread
    have hvalue : ∀ fuel, (writeValue value).length + 2 ≤ fuel →
        readValue fuel 0 (skipSpace (' ' :: (writeValue value ++ '\n' :: rest))) =
          some (.ofPlain value, '\n' :: rest) := by
      intro fuel hfuel
      have hskip : skipSpace (' ' :: (writeValue value ++ '\n' :: rest)) =
          writeValue value ++ '\n' :: rest := skipSpace_writeValue hplain _
      rw [hskip]
      exact readValue_plain hplain (by decide) hfuel (by decide) rest
    obtain ⟨c, after, hcons, hc⟩ := hkey.exists_eq_cons
    have hbracket : c ≠ '[' := ne_of_isBare hc (by decide)
    simp only [List.append_assoc, List.cons_append, List.nil_append]
    unfold readStatement
    split
    · next heq =>
      rw [hcons] at heq
      exact absurd (List.cons.inj heq).1 hbracket
    · next heq =>
      rw [hcons] at heq
      exact absurd (List.cons.inj heq).1 hbracket
    · simp only [hpath, bind, Option.bind]
      rw [hvalue _ (by simp only [List.length_append, List.length_cons]; omega)]
      rfl

end Line

/-! ### Whole texts -/

/-- With fuel for every character, the text is read as the statements. -/
def Yields (text : List Char) (statements : List Statement) : Prop :=
  ∀ fuel, text.length < fuel → readStatements fuel text = some statements

namespace Yields

variable {text line : List Char} {statement : Statement} {statements : List Statement}

theorem nil : Yields [] [] := by
  intro fuel hfuel
  obtain ⟨fuel, rfl⟩ := Nat.exists_eq_add_of_lt hfuel
  rfl

theorem cons_blank (htext : Yields text statements) : Yields ('\n' :: text) statements := by
  intro fuel hfuel
  obtain ⟨fuel, rfl⟩ := Nat.exists_eq_add_of_le' (Nat.zero_lt_of_lt hfuel)
  exact htext fuel (Nat.lt_of_succ_lt_succ hfuel)

theorem cons_line (hline : IsLine line statement) (htext : Yields text statements) :
    Yields (line ++ '\n' :: text) (statement :: statements) := by
  intro fuel hfuel
  obtain ⟨fuel, rfl⟩ := Nat.exists_eq_add_of_le' (Nat.zero_lt_of_lt hfuel)
  obtain ⟨c, after, rfl, hbegins⟩ := hline.begins
  have hrest := htext fuel (by
    simp only [List.length_append, List.length_cons] at hfuel
    omega)
  have hread := hline.read text
  rw [List.cons_append] at hread ⊢
  have hspace : isSpace c = false := by
    rcases hbegins with hbare | rfl
    · exact isSpace_of_isBare hbare
    · decide
  have hne : ∀ d, isBare d = false → d ≠ '[' → c ≠ d := by
    rintro d hd hbracket rfl
    rcases hbegins with hbare | rfl
    · exact absurd rfl (ne_of_isBare hbare hd)
    · exact hbracket rfl
  have hopen : endLine (c :: (after ++ '\n' :: text)) = none := by
    have hcomment : ((c :: (after ++ '\n' :: text)).head? == some '#') = false := by
      simpa using hne '#' (by decide) (by decide)
    have hbreak : newline? (c :: (after ++ '\n' :: text)) = none := by
      unfold newline?
      split
      · next heq => exact absurd (List.cons.inj heq).1 (hne '\n' (by decide) (by decide))
      · next heq => exact absurd (List.cons.inj heq).1 (hne '\r' (by decide) (by decide))
      · rfl
    rw [endLine, skipSpace_of_head hspace, hcomment]
    exact hbreak
  have hclose : endLine ('\n' :: text) = some text := rfl
  rw [readStatements, skipSpace_of_head hspace]
  simp only [hopen, hread, hclose, hrest, bind, Option.bind]
  rfl

end Yields

/-- The statements that assign plain values to the open table. -/
def assignments (entries : List (String × Document)) : List Statement :=
  entries.map fun entry => .assign [entry.1] (.ofPlain entry.2)

/-- What a section asks for: to open its table, unless that is the root, and to assign its values. -/
def Section.statements (part : Section) : List Statement :=
  (if part.path.isEmpty then []
    else [if part.isElement then .openElement part.path else .openTable part.path]) ++
  assignments part.entries

/-- Every key is written without quotes, every value is plain, and the path is not too long. -/
structure Section.Sound (part : Section) : Prop where
  path : ∀ key ∈ part.path, IsBareKey key
  length_le : part.path.length ≤ maxDepth
  entries : ∀ entry ∈ part.entries, IsBareKey entry.1 ∧ IsPlain entry.2

theorem yields_entries {entries : List (String × Document)}
    (hentries : ∀ entry ∈ entries, IsBareKey entry.1 ∧ IsPlain entry.2) {rest : List Char}
    {statements : List Statement} (hrest : Yields rest statements) :
    Yields (entries.flatMap writeEntry ++ rest) (assignments entries ++ statements) := by
  induction entries with
  | nil => exact hrest
  | cons entry entries ih =>
    rw [List.forall_mem_cons] at hentries
    have hline := (ih hentries.2).cons_line (isLine_assign hentries.1.1 hentries.1.2)
    rw [List.flatMap_cons, List.append_assoc, writeEntry, List.append_assoc]
    exact hline

theorem yields_writeSection {part : Section} (hsound : part.Sound) {rest : List Char}
    {statements : List Statement} (hrest : Yields rest statements) :
    Yields (writeSection part ++ rest) (part.statements ++ statements) := by
  have hentries := yields_entries hsound.entries hrest
  rw [writeSection, Section.statements, List.append_assoc, List.append_assoc, writeHeader]
  by_cases hroot : part.path = []
  · rw [hroot]
    exact hentries
  have hpath : part.path.isEmpty = false := by simpa using hroot
  rw [hpath]
  cases helement : part.isElement with
  | false =>
    have hline := hentries.cons_line (isLine_openTable hsound.path hroot hsound.length_le)
    simpa using hline
  | true =>
    have hline := hentries.cons_line (isLine_openElement hsound.path hroot hsound.length_le)
    simpa using hline

theorem yields_writeSections {parts : List Section} (hsound : ∀ part ∈ parts, part.Sound) :
    Yields (writeSections parts) (parts.flatMap Section.statements) := by
  induction parts with
  | nil => exact .nil
  | cons part parts ih =>
    rw [List.forall_mem_cons] at hsound
    rw [List.flatMap_cons]
    match parts with
    | [] =>
      have hlast := yields_writeSection hsound.1 .nil
      rw [List.append_nil] at hlast
      exact hlast
    | second :: parts => exact yields_writeSection hsound.1 (ih hsound.2).cons_blank

/-- Nothing begins with a byte order mark that is read without skipping one. -/
theorem Yields.statements?_eq {text : List Char} {statements : List Statement}
    (htext : Yields text statements) : statements? text = some statements := by
  have hmark : (text.head? == some '\uFEFF') = false := by
    rw [beq_eq_false_iff_ne]
    intro hhead
    match text with
    | c :: text =>
      obtain rfl := Option.some.inj hhead
      have hread := htext (text.length + 2) (by simp)
      cases hread
  rw [statements?, hmark]
  exact htext _ (Nat.lt_succ_self _)

theorem statements?_writeSections {parts : List Section} (hsound : ∀ part ∈ parts, part.Sound) :
    statements? (writeSections parts) = some (parts.flatMap Section.statements) :=
  (yields_writeSections hsound).statements?_eq

end DuplexAudio.Toml
