import DuplexAudio.Document.Basic
import DuplexAudio.Text.Hex

/-!
JSON texts of documents, one member or item a line, indented by two spaces.
-/

namespace DuplexAudio.Json

open Text

def escapeChar (c : Char) : List Char :=
  match c with
  | '"' => ['\\', '"']
  | '\\' => ['\\', '\\']
  | '\x08' => ['\\', 'b']
  | '\x0c' => ['\\', 'f']
  | '\n' => ['\\', 'n']
  | '\r' => ['\\', 'r']
  | '\t' => ['\\', 't']
  | c => if c.val < 0x20 then '\\' :: 'u' :: (writeHex 4 c.toNat).map Char.toLower else [c]

def quote (text : String) : String :=
  "\"" ++ String.ofList (text.toList.flatMap escapeChar) ++ "\""

def indent (depth : Nat) : String := String.ofList (List.replicate (2 * depth) ' ')

mutual

/-- The text of a document at a depth of indentation. -/
def render (depth : Nat) : Document → String
  | .null => "null"
  | .boolean value => if value then "true" else "false"
  | .integer value => toString value
  | .text value => quote value
  | .sequence [] => "[]"
  | .sequence items => "[\n" ++ renderItems (depth + 1) items ++ "\n" ++ indent depth ++ "]"
  | .mapping [] => "\x7b\x7d"
  | .mapping members =>
    "\x7b\n" ++ renderMembers (depth + 1) members ++ "\n" ++ indent depth ++ "\x7d"
  | .foreign => "null"
  | .broken => "null"

def renderItems (depth : Nat) : List Document → String
  | [] => ""
  | [item] => indent depth ++ render depth item
  | item :: rest => indent depth ++ render depth item ++ ",\n" ++ renderItems depth rest

def renderMembers (depth : Nat) : List (Option String × Document) → String
  | [] => ""
  | [(key, value)] => indent depth ++ quote (key.getD "") ++ ": " ++ render depth value
  | (key, value) :: rest =>
    indent depth ++ quote (key.getD "") ++ ": " ++ render depth value ++ ",\n" ++
      renderMembers depth rest

end

def pretty (document : Document) : String := render 0 document

end DuplexAudio.Json
