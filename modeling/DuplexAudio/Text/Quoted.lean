import DuplexAudio.Text.Invisible

/-!
Quoted text for accounts of a value: quotes, backslashes and characters without a visible form are
escaped.
-/

namespace DuplexAudio.Text

def escapeQuoted (c : Char) : List Char :=
  match c with
  | '"' => ['\\', '"']
  | '\\' => ['\\', '\\']
  | '\n' => ['\\', 'n']
  | '\r' => ['\\', 'r']
  | '\t' => ['\\', 't']
  | '\x00' => ['\\', '0']
  | c =>
    if isInvisible c then ['\\', 'u', '\x7b'] ++ Nat.toDigits 16 c.toNat ++ ['\x7d'] else [c]

def quote (text : String) : String :=
  "\"" ++ String.ofList (text.toList.flatMap escapeQuoted) ++ "\""

end DuplexAudio.Text
