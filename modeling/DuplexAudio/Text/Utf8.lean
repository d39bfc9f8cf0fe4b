/-!
Text from bytes that may not be well-formed UTF-8: every longest stretch that starts like a
character but cannot become one is shown as a replacement character.
-/

namespace DuplexAudio.Text

def replacement : Char := '\uFFFD'

/-- A character of which some bytes have been read: `pending` more are to come, the next of them
between `first` and `last`. -/
structure Unfinished where
  pending : Nat
  value : Nat
  first : Nat
  last : Nat
  deriving DecidableEq, Repr

/-- The narrow ranges keep out overlong forms, surrogates and numbers past the last plane. -/
def Unfinished.ofByte? (byte : UInt8) : Option Unfinished :=
  let value := byte.toNat
  if 0xC2 ≤ value ∧ value ≤ 0xDF then some ⟨1, value - 0xC0, 0x80, 0xBF⟩
  else if value = 0xE0 then some ⟨2, 0, 0xA0, 0xBF⟩
  else if value = 0xED then some ⟨2, 0xD, 0x80, 0x9F⟩
  else if 0xE1 ≤ value ∧ value ≤ 0xEF then some ⟨2, value - 0xE0, 0x80, 0xBF⟩
  else if value = 0xF0 then some ⟨3, 0, 0x90, 0xBF⟩
  else if 0xF1 ≤ value ∧ value ≤ 0xF3 then some ⟨3, value - 0xF0, 0x80, 0xBF⟩
  else if value = 0xF4 then some ⟨3, 4, 0x80, 0x8F⟩
  else none

/-- Decodes bytes with an unfinished character before them. -/
def decodeFrom : Option Unfinished → List UInt8 → List Char
  | none, [] => []
  | some _, [] => [replacement]
  | unfinished, byte :: rest =>
    let fresh : List Char × Option Unfinished :=
      if byte < 0x80 then ([Char.ofNat byte.toNat], none)
      else match Unfinished.ofByte? byte with
        | some started => ([], some started)
        | none => ([replacement], none)
    match unfinished with
    | none => fresh.1 ++ decodeFrom fresh.2 rest
    | some ⟨pending, value, first, last⟩ =>
      if first ≤ byte.toNat ∧ byte.toNat ≤ last then
        let value := value * 64 + (byte.toNat - 0x80)
        if pending ≤ 1 then Char.ofNat value :: decodeFrom none rest
        else decodeFrom (some ⟨pending - 1, value, 0x80, 0xBF⟩) rest
      else replacement :: (fresh.1 ++ decodeFrom fresh.2 rest)

/-- All bytes as text. -/
def decodeReplacing (bytes : ByteArray) : String := String.ofList (decodeFrom none bytes.toList)

end DuplexAudio.Text
