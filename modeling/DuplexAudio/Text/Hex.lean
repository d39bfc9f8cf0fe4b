/-!
Hexadecimal digits and the characters that escapes denote by number.
-/

namespace DuplexAudio.Text

def hexValue? (c : Char) : Option Nat :=
  if c.isDigit then some (c.toNat - '0'.toNat)
  else if 'a' ≤ c ∧ c ≤ 'f' then some (c.toNat - 'a'.toNat + 10)
  else if 'A' ≤ c ∧ c ≤ 'F' then some (c.toNat - 'A'.toNat + 10)
  else none

/-- The number that a run of hexadecimal digits denotes. -/
def readHex? (digits : List Char) : Option Nat :=
  digits.foldlM (fun value c => (hexValue? c).map (value * 16 + ·)) 0

/-- The character with a code point; surrogates and numbers past the last plane have none. -/
def charOfCode? (code : Nat) : Option Char :=
  if code.isValidChar then some (Char.ofNat code) else none

def isHighSurrogate (code : Nat) : Bool := 0xD800 ≤ code && code ≤ 0xDBFF

def isLowSurrogate (code : Nat) : Bool := 0xDC00 ≤ code && code ≤ 0xDFFF

/-- The character that a pair of surrogates stands for. -/
def charOfSurrogates (high low : Nat) : Char :=
  Char.ofNat (0x10000 + (high - 0xD800) * 0x400 + (low - 0xDC00))

/-- Upper-case hexadecimal digits of `value`, filled up with zeros to `width`. -/
def writeHex (width value : Nat) : List Char :=
  let digits := (Nat.toDigits 16 value).map Char.toUpper
  List.replicate (width - digits.length) '0' ++ digits

end DuplexAudio.Text
