import DuplexAudio.Document.Records
import DuplexAudio.Text.Hex
import DuplexAudio.Text.Numeral

/-!
TOML texts of documents. A table is written as a section: its plain values first, then its
sub-tables as sections of their own.
-/

namespace DuplexAudio.Toml

open Text

inductive Style
  | basic
  | literal
  | basicLines
  | literalLines
  deriving DecidableEq, Repr

/-- Control characters that need an escape wherever they stand. -/
def needsCode (c : Char) : Bool := (c.val < 0x20 && c != '\t' && c != '\n') || c.val == 0x7F

/-- The length of the longest run of `mark` in a text, when one of length `current` precedes it. -/
def longestRun (mark : Char) (current : Nat) : List Char → Nat
  | [] => current
  | c :: rest =>
    if c = mark then longestRun mark (current + 1) rest
    else max current (longestRun mark 0 rest)

/-- The plainest style that needs no escapes, or else one with escapes. -/
def style (text : List Char) : Style :=
  let codes := text.any needsCode
  let backslash := text.contains '\\'
  let lines := text.contains '\n'
  if !codes && !backslash && !lines && !text.contains '"' then .basic
  else if !codes && !lines && !text.contains '\'' then .literal
  else if !codes && !backslash && longestRun '"' 0 text ≤ 2 then .basicLines
  else if !codes && longestRun '\'' 0 text ≤ 2 then .literalLines
  else if lines then .basicLines
  else .basic

def escape? (c : Char) : Option (List Char) :=
  match c with
  | '\x08' => some ['\\', 'b']
  | '\t' => some ['\\', 't']
  | '\n' => some ['\\', 'n']
  | '\x0c' => some ['\\', 'f']
  | '\r' => some ['\\', 'r']
  | '"' => some ['\\', '"']
  | '\\' => some ['\\', '\\']
  | c => if needsCode c then some ('\\' :: 'u' :: writeHex 4 c.toNat) else none

def writeBasic (text : List Char) : List Char :=
  text.flatMap fun c => (escape? c).getD [c]

/-- In a string over several lines a line break stands for itself, and so do two quotes in a row;
the third one is escaped. -/
def writeBasicLines (quotes : Nat) : List Char → List Char
  | [] => []
  | c :: rest =>
    if c = '"' then
      if quotes < 2 then '"' :: writeBasicLines (quotes + 1) rest
      else '\\' :: '"' :: writeBasicLines 0 rest
    else if c = '\n' then '\n' :: writeBasicLines 0 rest
    else (escape? c).getD [c] ++ writeBasicLines 0 rest

/-- The line break after the opening quotes, for a text that has line breaks itself. -/
def firstBreak (text : List Char) : List Char := if text.contains '\n' then ['\n'] else []

def writeText (text : List Char) : List Char :=
  match style text with
  | .basic => '"' :: writeBasic text ++ ['"']
  | .literal => '\'' :: text ++ ['\'']
  | .basicLines =>
    ['"', '"', '"'] ++ firstBreak text ++ writeBasicLines 0 text ++ ['"', '"', '"']
  | .literalLines => ['\'', '\'', '\''] ++ firstBreak text ++ text ++ ['\'', '\'', '\'']

def writeInteger (value : Int) : List Char :=
  match value with
  | .ofNat value => writeNatural value
  | .negSucc value => '-' :: writeNatural (value + 1)

/-- One item alone stands between the brackets; several stand on lines of their own. -/
def layItems : List (List Char) → List Char
  | [] => ['[', ']']
  | [item] => '[' :: item ++ [']']
  | items =>
    '[' :: '\n' :: items.flatMap (fun item => "    ".toList ++ item ++ [',', '\n']) ++ [']']

mutual

def writeValue : Document → List Char
  | .boolean value => (if value then "true" else "false").toList
  | .integer value => writeInteger value
  | .text value => writeText value.toList
  | .sequence items => layItems (writeItems items)
  | .mapping members => ['\x7b', ' '] ++ writeMembers members ++ ['\x7d']
  | .null | .foreign | .broken => []

def writeItems : List Document → List (List Char)
  | [] => []
  | item :: rest => writeValue item :: writeItems rest

def writeMembers : List (Option String × Document) → List Char
  | [] => []
  | (key, value) :: rest =>
    (key.getD "").toList ++ [' ', '=', ' '] ++ writeValue value ++ [' '] ++ writeMembers rest

end

/-- A table or an element of an array of tables, with the plain values of its own. -/
structure Section where
  isElement : Bool := false
  path : List String
  entries : List (String × Document)

def isMapping : Document → Bool
  | .mapping _ => true
  | _ => false

/-- A value that is written in its table's section; a mapping and a sequence of mappings get
sections instead, and an absent value is left out. -/
def isPlainValue : Document → Bool
  | .null => false
  | .mapping _ => false
  | .sequence items => items.isEmpty || !items.all isMapping
  | _ => true

def plainEntries (members : List (Option String × Document)) : List (String × Document) :=
  (members.filter fun member => isPlainValue member.2).map fun (key, value) => (key.getD "", value)

mutual

def subsections (path : List String) : List (Option String × Document) → List Section
  | [] => []
  | (key, .mapping members) :: rest =>
    let inner := path ++ [key.getD ""]
    let entries := plainEntries members
    let below := subsections inner members
    (if entries.isEmpty && !below.isEmpty then below else { path := inner, entries } :: below) ++
      subsections path rest
  | (key, .sequence items) :: rest =>
    (if items.all isMapping then elementSections (path ++ [key.getD ""]) items else []) ++
      subsections path rest
  | _ :: rest => subsections path rest

def elementSections (path : List String) : List Document → List Section
  | [] => []
  | .mapping members :: rest =>
    { isElement := true, path, entries := plainEntries members } ::
      (subsections path members ++ elementSections path rest)
  | _ :: rest => elementSections path rest

end

/-- The sections of a whole document; the first one has no header. -/
def sections (members : List (Option String × Document)) : List Section :=
  let entries := plainEntries members
  (if entries.isEmpty then [] else [{ path := [], entries }]) ++ subsections [] members

def writeHeader (part : Section) : List Char :=
  let path := (String.intercalate "." part.path).toList
  if part.path.isEmpty then []
  else if part.isElement then ['[', '['] ++ path ++ [']', ']', '\n']
  else '[' :: path ++ [']', '\n']

def writeEntry (entry : String × Document) : List Char :=
  entry.1.toList ++ [' ', '=', ' '] ++ writeValue entry.2 ++ ['\n']

def writeSection (part : Section) : List Char :=
  writeHeader part ++ part.entries.flatMap writeEntry

/-- Sections are set apart by an empty line. -/
def writeSections : List Section → List Char
  | [] => []
  | [last] => writeSection last
  | first :: rest => writeSection first ++ '\n' :: writeSections rest

/-- The TOML text of a document; only a mapping has one. -/
def render? : Document → Option String
  | .mapping members => some (String.ofList (writeSections (sections members)))
  | _ => none

def encode? {α : Type} (schema : Schema α) (value : α) : Option String :=
  render? (schema.write value)

end DuplexAudio.Toml
