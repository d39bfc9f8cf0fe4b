import DuplexAudio.Interval.Basic
import DuplexAudio.Text.Blank
import DuplexAudio.Text.Numeral

/-!
The written form of an interval, `N` or `MIN..MAX`, with white space allowed around the numerals.
-/

namespace DuplexAudio.Interval

open Text

inductive ParseFault
  | bound (text : String) (fault : NumeralFault)
  | reversed (lower upper : UInt32)
  deriving DecidableEq, Repr

def ParseFault.message : ParseFault → String
  | .bound text fault => s!"invalid bound '{text}': {fault.message}"
  | .reversed lower upper => s!"empty interval {lower}..{upper}"

/-- The texts before and after the first `..`. -/
def splitAtDots : List Char → Option (List Char × List Char)
  | '.' :: '.' :: rest => some ([], rest)
  | c :: rest => (splitAtDots rest).map fun (before, after) => (c :: before, after)
  | [] => none

def readBound (text : List Char) : Except ParseFault UInt32 :=
  (readWord (trim text)).mapError (.bound (String.ofList (trim text)))

def parseChars (text : List Char) : Except ParseFault Interval :=
  match splitAtDots text with
  | none => (readBound text).map single
  | some (before, after) => do
    let lower ← readBound before
    let upper ← readBound after
    if upper < lower then .error (.reversed lower upper) else .ok { lower, upper }

/-- The interval that `text` denotes; a faulty lower bound is reported before a faulty upper one. -/
def parse (text : String) : Except ParseFault Interval := parseChars text.toList

end DuplexAudio.Interval
