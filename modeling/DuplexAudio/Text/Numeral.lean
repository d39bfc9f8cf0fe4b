/-!
Decimal numerals for 32-bit values. A numeral is an optional plus sign and at least one ASCII digit;
leading zeros are allowed. Of several faults the leftmost one is reported.
-/

namespace DuplexAudio.Text

inductive NumeralFault
  | noDigits
  | invalidDigit
  | tooLarge
  deriving DecidableEq, Repr

def NumeralFault.message : NumeralFault → String
  | .noDigits => "cannot parse integer from empty string"
  | .invalidDigit => "invalid digit found in string"
  | .tooLarge => "number too large to fit in target type"

def digitValue (c : Char) : Nat := c.toNat - '0'.toNat

/-- Reads digits onto the value read so far, which must stay below `bound`. -/
def readDigits (bound : Nat) (value : Nat) : List Char → Except NumeralFault Nat
  | [] => .ok value
  | c :: rest =>
    if c.isDigit then
      if value * 10 + digitValue c < bound then readDigits bound (value * 10 + digitValue c) rest
      else .error .tooLarge
    else .error .invalidDigit

/-- A sign alone is not a numeral without digits but one with an invalid digit. -/
def readNumeral (bound : Nat) : List Char → Except NumeralFault Nat
  | [] => .error .noDigits
  | ['+'] => .error .invalidDigit
  | '+' :: digits => readDigits bound 0 digits
  | digits => readDigits bound 0 digits

def readWord (text : List Char) : Except NumeralFault UInt32 :=
  (readNumeral UInt32.size text).map (UInt32.ofNat ·)

/-- The digits of `value` in base ten, most significant first. -/
def writeNatural (value : Nat) : List Char := Nat.toDigits 10 value

end DuplexAudio.Text
