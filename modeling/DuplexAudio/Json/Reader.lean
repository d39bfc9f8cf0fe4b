import DuplexAudio.Document.Records
import DuplexAudio.Text.Hex
import DuplexAudio.Text.Numeral

/-!
Documents from JSON. The reader follows the text as far as it is sound and leaves a broken leaf
where it is not; nothing after such a leaf is looked at.
-/

namespace DuplexAudio.Json

open Text

/-- What was read and the text after it, or nothing after a broken leaf. -/
abbrev Read (α : Type) := α × Option (List Char)

def isSpace (c : Char) : Bool := c == ' ' || c == '\t' || c == '\n' || c == '\r'

def skipSpace (text : List Char) : List Char := text.dropWhile isSpace

/-- The character that a one-letter escape denotes. -/
def simpleEscape? : Char → Option Char
  | '"' => some '"'
  | '\\' => some '\\'
  | '/' => some '/'
  | 'b' => some '\x08'
  | 'f' => some '\x0c'
  | 'n' => some '\n'
  | 'r' => some '\r'
  | 't' => some '\t'
  | _ => none

/-- The characters of a string after its opening quote. A lone surrogate makes the string one that
is no text but may still be passed over. -/
def readString : List Char → Option (Option (List Char) × List Char)
  | '"' :: rest => some (some [], rest)
  | '\\' :: 'u' :: a :: b :: c :: d :: '\\' :: 'u' :: e :: f :: g :: h :: rest =>
    match readHex? [a, b, c, d], readHex? [e, f, g, h] with
    | some high, some low =>
      if isHighSurrogate high && isLowSurrogate low then
        (readString rest).map fun (text, after) =>
          (text.map (charOfSurrogates high low :: ·), after)
      else
        (readString ('\\' :: 'u' :: e :: f :: g :: h :: rest)).map fun (text, after) =>
          (text.bind fun cs => (charOfCode? high).map (· :: cs), after)
    | _, _ => none
  | '\\' :: 'u' :: a :: b :: c :: d :: rest =>
    match readHex? [a, b, c, d] with
    | some code =>
      (readString rest).map fun (text, after) =>
        (text.bind fun cs => (charOfCode? code).map (· :: cs), after)
    | none => none
  | '\\' :: c :: rest =>
    match simpleEscape? c with
    | some escaped => (readString rest).map fun (text, after) => (text.map (escaped :: ·), after)
    | none => none
  | c :: rest =>
    if c.val < 0x20 || c == '\\' then none
    else (readString rest).map fun (text, after) => (text.map (c :: ·), after)
  | [] => none

/-- A run of digits, which must not be empty. -/
def readRun (text : List Char) : Option (List Char × List Char) :=
  match text.span Char.isDigit with
  | ([], _) => none
  | (digits, rest) => some (digits, rest)

/-- Passes over a fraction, if there is one, and says whether there was. -/
def skipFraction : List Char → Option (Bool × List Char)
  | '.' :: rest => (readRun rest).map fun (_, after) => (true, after)
  | text => some (false, text)

def skipExponent : List Char → Option (Bool × List Char)
  | c :: rest =>
    if c == 'e' || c == 'E' then
      (readRun (match rest with
        | '+' :: digits => digits
        | '-' :: digits => digits
        | digits => digits)).map fun (_, after) => (true, after)
    else some (false, c :: rest)
  | [] => some (false, [])

/-- An integer stays one only without a fraction, an exponent or a negative zero. -/
def readNumber (negative : Bool) (text : List Char) : Option (Document × List Char) := do
  let (digits, rest) ← readRun text
  if digits.head? == some '0' && digits.length != 1 then none
  let (fraction, rest) ← skipFraction rest
  let (exponent, rest) ← skipExponent rest
  let value := digits.foldl (fun value c => value * 10 + digitValue c) 0
  if fraction || exponent || (negative && value == 0) then return (.foreign, rest)
  else return (.integer (if negative then -value else value), rest)

def readLiteral (word : List Char) (value : Document) (text : List Char) : Read Document :=
  if word.isPrefixOf text then (value, some (text.drop word.length)) else (.broken, none)

mutual

/-- One value, read with as much fuel as there can be values and separators in the text. -/
def readValue (fuel : Nat) (text : List Char) : Read Document :=
  match fuel with
  | 0 => (.broken, none)
  | fuel + 1 =>
    match skipSpace text with
    | '\x7b' :: rest =>
      match skipSpace rest with
      | '\x7d' :: after => (.mapping [], some after)
      | inner =>
        let (members, after) := readMembers fuel inner
        (.mapping members, after)
    | '[' :: rest =>
      match skipSpace rest with
      | ']' :: after => (.sequence [], some after)
      | inner =>
        let (items, after) := readItems fuel inner
        (.sequence items, after)
    | '"' :: rest =>
      match readString rest with
      | some (some text, after) => (.text (String.ofList text), some after)
      | some (none, after) => (.foreign, some after)
      | none => (.broken, none)
    | 'n' :: rest => readLiteral ['u', 'l', 'l'] .null rest
    | 't' :: rest => readLiteral ['r', 'u', 'e'] (.boolean true) rest
    | 'f' :: rest => readLiteral ['a', 'l', 's', 'e'] (.boolean false) rest
    | '-' :: rest =>
      match readNumber true rest with
      | some (value, after) => (value, some after)
      | none => (.broken, none)
    | inner =>
      match readNumber false inner with
      | some (value, after) => (value, some after)
      | none => (.broken, none)

/-- The items of a sequence up to its closing bracket. -/
def readItems (fuel : Nat) (text : List Char) : Read (List Document) :=
  match fuel with
  | 0 => ([.broken], none)
  | fuel + 1 =>
    match readValue fuel text with
    | (item, none) => ([item], none)
    | (item, some rest) =>
      match skipSpace rest with
      | ']' :: after => ([item], some after)
      | ',' :: rest =>
        let (items, after) := readItems fuel rest
        (item :: items, after)
      | _ => ([item, .broken], none)

/-- The members of a mapping up to its closing brace. -/
def readMembers (fuel : Nat) (text : List Char) : Read (List (Option String × Document)) :=
  match fuel with
  | 0 => ([(none, .broken)], none)
  | fuel + 1 =>
    match skipSpace text with
    | '"' :: rest =>
      match readString rest with
      | none => ([(none, .broken)], none)
      | some (key, rest) =>
        let key := key.map String.ofList
        match skipSpace rest with
        | ':' :: rest =>
          match readValue fuel rest with
          | (value, none) => ([(key, value)], none)
          | (value, some rest) =>
            match skipSpace rest with
            | '\x7d' :: after => ([(key, value)], some after)
            | ',' :: rest =>
              let (members, after) := readMembers fuel rest
              ((key, value) :: members, after)
            | _ => ([(key, value), (none, .broken)], none)
        | _ => ([(key, .broken)], none)
    | _ => ([(none, .broken)], none)

end

/-- A record may not be followed by anything, and nothing stands for the content of a bare
choice. -/
def dialect : Dialect where
  surplusItems := false
  isUnit
    | .null => true
    | _ => false

/-- The value that a JSON text holds. After the value only white space may follow. -/
def decode {α : Type} (schema : Schema α) (text : String) : Except ReadFault α := do
  let chars := text.toList
  let (document, rest) := readValue (2 * chars.length + 2) chars
  let value ← schema.read dialect document
  match rest with
  | some rest => if (skipSpace rest).isEmpty then return value else throw .unreadable
  | none => throw .unreadable

end DuplexAudio.Json
