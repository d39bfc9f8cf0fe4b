import DuplexAudio.Document.Records
import DuplexAudio.Toml.Quoted
import DuplexAudio.Toml.Scalar
import DuplexAudio.Toml.Tree

/-!
Documents from TOML 1.1. A text is read into statements, the statements build a tree, and a value is
read from the tree; a text with any fault in its notation holds no value at all.
-/

namespace DuplexAudio.Toml

/-- The deepest nesting of arrays and inline tables, and the most keys that points can join. -/
def maxDepth : Nat := 80

def isBare (c : Char) : Bool := c.isAlphanum || c == '-' || c == '_'

def skipSpace (text : List Char) : List Char := text.dropWhile isSpace

def readKey : List Char → Option (String × List Char)
  | '"' :: rest => (readBasic rest).map fun (key, rest) => (String.ofList key, rest)
  | '\'' :: rest => (readLiteral rest).map fun (key, rest) => (String.ofList key, rest)
  | text =>
    match text.span isBare with
    | ([], _) => none
    | (key, rest) => some (String.ofList key, rest)

/-- Keys joined by points, no more of them than `limit`. -/
def readKeys (limit : Nat) (text : List Char) : Option (List String × List Char) :=
  match limit with
  | 0 => none
  | limit + 1 => do
    let (key, rest) ← readKey text
    match skipSpace rest with
    | '.' :: rest => do
      let (keys, rest) ← readKeys limit (skipSpace rest)
      return (key :: keys, rest)
    | rest => return ([key], rest)

def readPath (text : List Char) : Option (List String × List Char) := readKeys maxDepth text

/-- Passes over white space, line breaks and comments between the parts of a value. -/
def skipVoid (inComment : Bool) : List Char → Option (List Char)
  | [] => some []
  | '\n' :: rest => skipVoid false rest
  | '\r' :: '\n' :: rest => skipVoid false rest
  | c :: rest =>
    if inComment then if isPlain c then skipVoid true rest else none
    else if isSpace c then skipVoid false rest
    else if c == '#' then skipVoid true rest
    else some (c :: rest)

mutual

def readValue (fuel depth : Nat) (text : List Char) : Option (Node × List Char) :=
  match fuel with
  | 0 => none
  | fuel + 1 =>
    match text with
    | '[' :: rest =>
      if depth < maxDepth then
        (readItems fuel (depth + 1) rest).map fun (items, rest) => (.array items, rest)
      else none
    | '\x7b' :: rest =>
      if depth < maxDepth then
        (readEntries fuel (depth + 1) [] rest).map fun (entries, rest) =>
          (.table .inline entries, rest)
      else none
    | text =>
      match readQuoted text with
      | some (content, rest) => some (.leaf (.text (String.ofList content)), rest)
      | none => (readScalar text).map fun (value, rest) => (.leaf value, rest)

def readItems (fuel depth : Nat) (text : List Char) : Option (List Node × List Char) :=
  match fuel with
  | 0 => none
  | fuel + 1 => do
    match ← skipVoid false text with
    | ']' :: rest => return ([], rest)
    | inner =>
      let (item, rest) ← readValue fuel depth inner
      match ← skipVoid false rest with
      | ',' :: rest =>
        let (items, rest) ← readItems fuel depth rest
        return (item :: items, rest)
      | ']' :: rest => return ([item], rest)
      | _ => none

/-- The assignments of an inline table up to its closing brace. Lines may end anywhere but within a
path. -/
def readEntries (fuel depth : Nat) (entries : Entries) (text : List Char) :
    Option (Entries × List Char) :=
  match fuel with
  | 0 => none
  | fuel + 1 => do
    match ← skipVoid false text with
    | '\x7d' :: rest => return (entries, rest)
    | inner =>
      let (path, rest) ← readPath inner
      match ← skipVoid false rest with
      | '=' :: rest =>
        let (value, rest) ← readValue fuel depth (← skipVoid false rest)
        let entries ← entries.assign path value .inline
        match ← skipVoid false rest with
        | ',' :: rest => readEntries fuel depth entries rest
        | '\x7d' :: rest => return (entries, rest)
        | _ => none
      | _ => none

end

def readStatement (text : List Char) : Option (Statement × List Char) := do
  match text with
  | '[' :: '[' :: rest =>
    let (path, rest) ← readPath (skipSpace rest)
    match rest with
    | ']' :: ']' :: rest => return (.openElement path, rest)
    | _ => none
  | '[' :: rest =>
    let (path, rest) ← readPath (skipSpace rest)
    match rest with
    | ']' :: rest => return (.openTable path, rest)
    | _ => none
  | text =>
    let (path, rest) ← readPath text
    match rest with
    | '=' :: rest =>
      let (value, rest) ← readValue (2 * text.length) 0 (skipSpace rest)
      return (.assign path value, rest)
    | _ => none

/-- The end of a line after its statement: blanks, a comment, a line break. -/
def endLine (text : List Char) : Option (List Char) :=
  let text := skipSpace text
  let text := if text.head? == some '#' then text.dropWhile isPlain else text
  match text with
  | [] => some []
  | text => newline? text

def readStatements (fuel : Nat) (text : List Char) : Option (List Statement) :=
  match fuel with
  | 0 => none
  | fuel + 1 =>
    match skipSpace text with
    | [] => some []
    | text =>
      match endLine text with
      | some rest => readStatements fuel rest
      | none => do
        let (statement, rest) ← readStatement text
        let rest ← endLine rest
        let statements ← readStatements fuel rest
        return statement :: statements

/-- The statements of a text, which may begin with a byte order mark. -/
def statements? (text : List Char) : Option (List Statement) :=
  let text := if text.head? == some '\uFEFF' then text.drop 1 else text
  readStatements (text.length + 1) text

/-- A record written as an array may be followed by further items, and an empty array or table
stands for the content of a bare choice. -/
def dialect : Dialect where
  surplusItems := true
  isUnit
    | .sequence [] => true
    | .mapping [] => true
    | _ => false

def decode {α : Type} (schema : Schema α) (text : String) : Except ReadFault α :=
  match (statements? text.toList).bind Tree.ofStatements? with
  | some tree => schema.read dialect tree.document
  | none => .error .unreadable

end DuplexAudio.Toml
