import DuplexAudio.Document.Basic
import DuplexAudio.Text.Hex
import DuplexAudio.Text.Numeral

/-!
TOML values written without quotes or brackets: truth values, integers, fractions, dates and times.
-/

namespace DuplexAudio.Toml

open Text

/-- The digits of a numeral without its underscores, each of which stands between two digits. -/
def ungroup (isDigit : Char → Bool) : List Char → Option (List Char)
  | [] => none
  | [c] => if isDigit c then some [c] else none
  | c :: '_' :: rest => if isDigit c then (ungroup isDigit rest).map (c :: ·) else none
  | c :: rest => if isDigit c then (ungroup isDigit rest).map (c :: ·) else none

def decimalDigits (text : List Char) : Option (List Char) :=
  match ungroup Char.isDigit text with
  | some ('0' :: _ :: _) => none
  | digits => digits

def valueOf (base : Nat) (digits : List Char) : Nat :=
  digits.foldl (fun value c => value * base + (hexValue? c).getD 0) 0

/-- Whether there is a minus sign, and the text after the sign. -/
def splitSign : List Char → Bool × List Char
  | '+' :: rest => (false, rest)
  | '-' :: rest => (true, rest)
  | text => (false, text)

def applySign (negative : Bool) (value : Nat) : Int := if negative then -(value : Int) else value

/-- Every underscore after the first character stands between two hexadecimal digits. -/
def isGrouped : List Char → Bool
  | [] => true
  | [c] => c != '_'
  | c :: d :: rest =>
    (c != '_' || (hexValue? d).isSome) && (d != '_' || (hexValue? c).isSome) &&
      isGrouped (d :: rest)

/-- Whether a text without its sign passes for a decimal integer. From the first underscore on, only
the characters beside underscores are looked at. -/
def resemblesInteger (text : List Char) : Bool :=
  match text.span Char.isDigit with
  | (first :: _, '_' :: rest) =>
    first != '0' && isGrouped text && !rest.any (['.', 'e', 'E'].contains ·)
  | _ => false

/-- Integers of up to 128 bits are sound; larger ones cannot even be passed over. -/
def integerDocument (value : Int) : Document :=
  if -0x80000000000000000000000000000000 ≤ value ∧
      value < 0x100000000000000000000000000000000 then .integer value
  else .broken

/-- An integer after the mark of its base. Without any digits it is broken. -/
def readBased (base : Nat) (isDigit : Char → Bool) (text : List Char) : Option Document :=
  if text.isEmpty then some .broken
  else (ungroup isDigit text).map fun digits => integerDocument (valueOf base digits)

/-- An integer. One that only resembles a numeral is broken, but the text around it stands. -/
def readInteger (text : List Char) : Option Document :=
  match text with
  | '0' :: 'x' :: rest => readBased 16 (hexValue? · |>.isSome) rest
  | '0' :: 'o' :: rest => readBased 8 (fun c => '0' ≤ c && c ≤ '7') rest
  | '0' :: 'b' :: rest => readBased 2 (fun c => c == '0' || c == '1') rest
  | text =>
    let (negative, rest) := splitSign text
    match decimalDigits rest with
    | some digits => some (integerDocument (applySign negative (valueOf 10 digits)))
    | none => if resemblesInteger rest then some .broken else none

/-- Whether `mantissa * 10 ^ exponent` is rounded to a finite number of double precision. -/
def isFinite (mantissa : Nat) (exponent : Int) : Bool :=
  let magnitude : Int := (Nat.toDigits 10 mantissa).length + exponent
  if mantissa = 0 || magnitude < 300 then true
  else if 320 < magnitude then false
  else mantissa * Nat.pow 10 exponent.toNat <
    (Nat.pow 2 1024 - Nat.pow 2 970) * Nat.pow 10 (-exponent).toNat

/-- The fractional digits after a point, if there is one. -/
def readFraction : List Char → Option (List Char)
  | [] => some []
  | '.' :: rest => ungroup Char.isDigit rest
  | _ => none

def readExponent : List Char → Option Int
  | [] => some 0
  | _ :: rest =>
    let (negative, digits) := splitSign rest
    (ungroup Char.isDigit digits).map fun digits => applySign negative (valueOf 10 digits)

def readFloat (text : List Char) : Option Document :=
  let (_, rest) := splitSign text
  if rest == ['i', 'n', 'f'] || rest == ['n', 'a', 'n'] then some .foreign
  else do
    let (mantissa, exponent) := rest.span fun c => c != 'e' && c != 'E'
    let (whole, fraction) := mantissa.span (· != '.')
    if fraction.isEmpty && exponent.isEmpty then none
    let whole ← decimalDigits whole
    let fraction ← readFraction fraction
    let exponent ← readExponent exponent
    return if isFinite (valueOf 10 (whole ++ fraction)) (exponent - fraction.length) then .foreign
      else .broken

def twoDigits? (tens ones : Char) : Option Nat :=
  if tens.isDigit && ones.isDigit then some (digitValue tens * 10 + digitValue ones) else none

def daysInMonth (year month : Nat) : Nat :=
  if month = 2 then
    if year % 4 = 0 ∧ (year % 100 ≠ 0 ∨ year % 400 = 0) then 29 else 28
  else if month = 4 ∨ month = 6 ∨ month = 9 ∨ month = 11 then 30
  else 31

def readDate : List Char → Option (List Char)
  | a :: b :: c :: d :: '-' :: e :: f :: '-' :: g :: h :: rest => do
    let year := (← twoDigits? a b) * 100 + (← twoDigits? c d)
    let month ← twoDigits? e f
    let day ← twoDigits? g h
    if 1 ≤ month ∧ month ≤ 12 ∧ 1 ≤ day ∧ day ≤ daysInMonth year month then some rest else none
  | _ => none

/-- A time of day. Seconds may be missing, and only seconds have fractions. -/
def readTime : List Char → Option (List Char)
  | a :: b :: ':' :: c :: d :: rest => do
    let hour ← twoDigits? a b
    let minute ← twoDigits? c d
    if 23 < hour ∨ 59 < minute then none
    match rest with
    | ':' :: e :: f :: rest => do
      let second ← twoDigits? e f
      if 60 < second then none
      match rest with
      | '.' :: rest =>
        let (digits, rest) := rest.span Char.isDigit
        if digits.isEmpty then none else some rest
      | rest => some rest
    | rest => some rest
  | _ => none

def isOffset : List Char → Bool
  | [] => true
  | ['Z'] => true
  | ['z'] => true
  | [sign, a, b, ':', c, d] =>
    (sign == '+' || sign == '-') &&
      match twoDigits? a b, twoDigits? c d with
      | some hours, some minutes => hours ≤ 23 && minutes ≤ 59
      | _, _ => false
  | _ => false

def isDateTime (text : List Char) : Bool :=
  match readDate text with
  | some [] => true
  | some (separator :: rest) =>
    (separator == 'T' || separator == 't' || separator == ' ') &&
      match readTime rest with
      | some offset => isOffset offset
      | none => false
  | none => readTime text == some []

/-- A date or a time reads as a mapping whose only key is one that no record has. -/
def dateTimeDocument : Document := .mapping [(some "$datetime", .foreign)]

def readWord (word : List Char) : Option Document :=
  if word == ['t', 'r', 'u', 'e'] then some (.boolean true)
  else if word == ['f', 'a', 'l', 's', 'e'] then some (.boolean false)
  else if isDateTime word then some dateTimeDocument
  else readInteger word <|> readFloat word

/-- Characters that end an unquoted word; quotes are not among them. -/
def isDelimiter (c : Char) : Bool :=
  [' ', '\t', '\n', '\r', ',', '#', '=', '[', ']', '\x7b', '\x7d'].contains c

/-- An unquoted value at the start of the text. A date may go on after one blank with a time. -/
def readScalar (text : List Char) : Option (Document × List Char) :=
  let (word, rest) := text.span fun c => !isDelimiter c
  match readDate word, rest with
  | some [], ' ' :: c :: after =>
    if c.isDigit then
      let (time, rest) := (c :: after).span fun c => !isDelimiter c
      (readWord (word ++ ' ' :: time)).map (·, rest)
    else (readWord word).map (·, rest)
  | _, _ => (readWord word).map (·, rest)

end DuplexAudio.Toml
