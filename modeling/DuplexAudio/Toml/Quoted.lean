import DuplexAudio.Text.Hex

/-!
The four kinds of TOML strings. Each reader takes the text after the opening quotes and returns the
content with the text after the closing ones.
-/

namespace DuplexAudio.Toml

open Text

/-- Characters that stand for themselves: all but the control characters, tabs allowed. -/
def isPlain (c : Char) : Bool := c == '\t' || (0x20 ≤ c.val && c.val != 0x7F)

def isSpace (c : Char) : Bool := c == ' ' || c == '\t'

def newline? : List Char → Option (List Char)
  | '\n' :: rest => some rest
  | '\r' :: '\n' :: rest => some rest
  | _ => none

def simpleEscape? : Char → Option Char
  | 'b' => some '\x08'
  | 't' => some '\t'
  | 'n' => some '\n'
  | 'f' => some '\x0c'
  | 'r' => some '\r'
  | 'e' => some '\x1b'
  | '"' => some '"'
  | '\\' => some '\\'
  | _ => none

/-- The character that an escape denotes, given the text after its backslash. -/
def readEscape : List Char → Option (Char × List Char)
  | 'x' :: a :: b :: rest => do
    return (← charOfCode? (← readHex? [a, b]), rest)
  | 'u' :: a :: b :: c :: d :: rest => do
    return (← charOfCode? (← readHex? [a, b, c, d]), rest)
  | 'U' :: a :: b :: c :: d :: e :: f :: g :: h :: rest => do
    return (← charOfCode? (← readHex? [a, b, c, d, e, f, g, h]), rest)
  | c :: rest => (simpleEscape? c).map (·, rest)
  | [] => none

theorem length_readEscape {text : List Char} {c : Char} {rest : List Char}
    (h : readEscape text = some (c, rest)) : rest.length < text.length := by
  unfold readEscape at h
  split at h <;> simp_all [Option.bind_eq_some_iff] <;> grind

/-- White space and line breaks from here on are dropped. -/
def skipBreaks : List Char → List Char
  | ' ' :: rest => skipBreaks rest
  | '\t' :: rest => skipBreaks rest
  | '\n' :: rest => skipBreaks rest
  | '\r' :: '\n' :: rest => skipBreaks rest
  | text => text

theorem length_skipBreaks (text : List Char) : (skipBreaks text).length ≤ text.length := by
  fun_induction skipBreaks text <;> simp_all <;> omega

/-- A backslash at the end of a line hides the break and all white space after it. -/
def readContinuation (text : List Char) : Option (List Char) :=
  (newline? (text.dropWhile isSpace)).map skipBreaks

theorem length_newline {text rest : List Char} (h : newline? text = some rest) :
    rest.length < text.length := by
  unfold newline? at h
  split at h
  · simp_all
  · simp_all only [Option.some.injEq, List.length_cons]
    omega
  · simp at h

theorem length_readContinuation {text rest : List Char} (h : readContinuation text = some rest) :
    rest.length < text.length := by
  obtain ⟨after, hafter, rfl⟩ := Option.map_eq_some_iff.1 h
  have hdrop : (text.dropWhile isSpace).length ≤ text.length :=
    (List.dropWhile_sublist isSpace).length_le
  have hskip := length_skipBreaks after
  have hline := length_newline hafter
  omega

/-- A basic string: escapes, and no line breaks. -/
def readBasic (text : List Char) : Option (List Char × List Char) :=
  match text with
  | '"' :: rest => some ([], rest)
  | '\\' :: rest =>
    match _hread : readEscape rest with
    | some (c, after) => (readBasic after).map fun (content, rest) => (c :: content, rest)
    | none => none
  | c :: rest =>
    if isPlain c then (readBasic rest).map fun (content, rest) => (c :: content, rest) else none
  | [] => none
termination_by text.length
decreasing_by
  · have := length_readEscape _hread
    simp only [List.length_cons]
    omega
  · simp

/-- A literal string: no escapes, no line breaks. -/
def readLiteral : List Char → Option (List Char × List Char)
  | '\'' :: rest => some ([], rest)
  | c :: rest =>
    if isPlain c then (readLiteral rest).map fun (content, rest) => (c :: content, rest) else none
  | [] => none

/-- The end of a string over several lines: three quotes, before which up to two more belong to the
content. -/
def closing? (quote : Char) : List Char → Option (List Char × List Char)
  | a :: b :: c :: d :: e :: rest =>
    if a == quote && b == quote && c == quote then
      if d == quote && e == quote then some ([quote, quote], rest)
      else if d == quote then some ([quote], e :: rest)
      else some ([], d :: e :: rest)
    else none
  | [a, b, c, d] =>
    if a == quote && b == quote && c == quote then
      if d == quote then some ([quote], []) else some ([], [d])
    else none
  | [a, b, c] => if a == quote && b == quote && c == quote then some ([], []) else none
  | _ => none

/-- A basic string over several lines. Line breaks are kept as they are written. -/
def readBasicLines (text : List Char) : Option (List Char × List Char) :=
  match closing? '"' text with
  | some (content, rest) => some (content, rest)
  | none =>
    match text with
    | '\\' :: rest =>
      match _hread : readEscape rest with
      | some (c, after) => (readBasicLines after).map fun (content, rest) => (c :: content, rest)
      | none =>
        match _hread : readContinuation rest with
        | some after => readBasicLines after
        | none => none
    | '\n' :: rest => (readBasicLines rest).map fun (content, rest) => ('\n' :: content, rest)
    | '\r' :: '\n' :: rest =>
      (readBasicLines rest).map fun (content, rest) => ('\r' :: '\n' :: content, rest)
    | c :: rest =>
      if isPlain c then (readBasicLines rest).map fun (content, rest) => (c :: content, rest)
      else none
    | [] => none
termination_by text.length
decreasing_by
  · have := length_readEscape _hread
    simp only [List.length_cons]
    omega
  · have := length_readContinuation _hread
    simp only [List.length_cons]
    omega
  all_goals
    simp only [List.length_cons]
    omega

def readLiteralLines (text : List Char) : Option (List Char × List Char) :=
  match closing? '\'' text with
  | some (content, rest) => some (content, rest)
  | none =>
    match text with
    | '\n' :: rest => (readLiteralLines rest).map fun (content, rest) => ('\n' :: content, rest)
    | '\r' :: '\n' :: rest =>
      (readLiteralLines rest).map fun (content, rest) => ('\r' :: '\n' :: content, rest)
    | c :: rest =>
      if isPlain c then (readLiteralLines rest).map fun (content, rest) => (c :: content, rest)
      else none
    | [] => none

/-- A line break right after the opening quotes does not belong to the content. -/
def skipFirstBreak (text : List Char) : List Char := (newline? text).getD text

def readQuoted : List Char → Option (List Char × List Char)
  | '"' :: '"' :: '"' :: rest => readBasicLines (skipFirstBreak rest)
  | '"' :: rest => readBasic rest
  | '\'' :: '\'' :: '\'' :: rest => readLiteralLines (skipFirstBreak rest)
  | '\'' :: rest => readLiteral rest
  | _ => none

end DuplexAudio.Toml
