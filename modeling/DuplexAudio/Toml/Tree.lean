import DuplexAudio.Document.Basic

/-!
The tree of a TOML text and the statements that build it. Every table remembers how it came about,
because that decides which later statements may still add to it.
-/

namespace DuplexAudio.Toml

inductive Origin
  /-- Named by a header of its own, or an element of an array of tables. -/
  | explicit
  /-- Named only on the way to a table that a header opens. -/
  | implicit
  /-- Named on the way to a value by a dotted key. -/
  | dotted
  | inline
  deriving DecidableEq, Repr

inductive Node
  | leaf (value : Document)
  | array (items : List Node)
  | table (origin : Origin) (entries : List (String × Node))
  /-- An array of tables, which later headers extend and whose last element is the open one. -/
  | elements (tables : List (List (String × Node)))
  deriving Inhabited

abbrev Entries := List (String × Node)

/-- What a text asks for, line by line. Paths are not empty. -/
inductive Statement
  | openTable (path : List String)
  | openElement (path : List String)
  | assign (path : List String) (value : Node)
  deriving Inhabited

namespace Entries

/-- Puts a node under a key, in place of the one that may be there. -/
def put (key : String) (node : Node) : Entries → Entries
  | [] => [(key, node)]
  | (other, value) :: rest =>
    if key = other then (key, node) :: rest
    else if key < other then (key, node) :: (other, value) :: rest
    else (other, value) :: put key node rest

/-- Changes the table at the end of a path, and creates the tables on the way that are missing.
A dotted key may not pass through a table with a header of its own, and nothing passes through an
inline table or a plain value. -/
def descend (dotted : Bool) (change : Origin → Entries → Option Entries) (origin : Origin)
    (entries : Entries) : List String → Option Entries
  | [] => change origin entries
  | key :: path =>
    match entries.lookup key with
    | none =>
      let created : Origin := if dotted then .dotted else .implicit
      (descend dotted change created [] path).map fun inner =>
        put key (.table created inner) entries
    | some (.table origin inner) =>
      if origin = .inline || (dotted && origin = .explicit) then none
      else (descend dotted change origin inner path).map fun inner =>
        put key (.table origin inner) entries
    | some (.elements tables) =>
      (descend dotted change .explicit (tables.getLast?.getD []) path).map fun inner =>
        put key (.elements (tables.dropLast ++ [inner])) entries
    | some _ => none

/-- Opens the table `key` by a header: it is new, or was so far only named on the way. -/
def openTable (key : String) (entries : Entries) : Option Entries :=
  match entries.lookup key with
  | none => some (put key (.table .explicit []) entries)
  | some (.table .implicit inner) => some (put key (.table .explicit inner) entries)
  | some _ => none

def openElement (key : String) (entries : Entries) : Option Entries :=
  match entries.lookup key with
  | none => some (put key (.elements [[]]) entries)
  | some (.elements tables) => some (put key (.elements (tables ++ [[]])) entries)
  | some _ => none

/-- Assigns a new key. A dotted key ends only in a table that dotted keys made. -/
def assign (path : List String) (value : Node) (origin : Origin) (entries : Entries) :
    Option Entries :=
  descend true
    (fun origin entries =>
      let key := path.getLast?.getD ""
      if (entries.lookup key).isSome || (1 < path.length && origin != .dotted) then none
      else some (put key value entries))
    origin entries path.dropLast

end Entries

/-- The root table and the path of the table that assignments go to. -/
structure Tree where
  root : Entries := []
  current : List String := []

namespace Tree

def apply (tree : Tree) : Statement → Option Tree
  | .openTable path =>
    let change := fun _ => Entries.openTable (path.getLast?.getD "")
    (Entries.descend false change .explicit tree.root path.dropLast).map fun root =>
      { root, current := path }
  | .openElement path =>
    let change := fun _ => Entries.openElement (path.getLast?.getD "")
    (Entries.descend false change .explicit tree.root path.dropLast).map fun root =>
      { root, current := path }
  | .assign path value =>
    (Entries.descend false (Entries.assign path value) .explicit tree.root tree.current).map
      fun root => { tree with root }

def ofStatements? (statements : List Statement) : Option Tree :=
  statements.foldlM apply {}

end Tree

mutual

def Node.document : Node → Document
  | .leaf value => value
  | .array items => .sequence (documents items)
  | .table _ entries => .mapping (members entries)
  | .elements tables => .sequence (tableDocuments tables)

def documents : List Node → List Document
  | [] => []
  | node :: rest => node.document :: documents rest

def members : List (String × Node) → List (Option String × Document)
  | [] => []
  | (key, node) :: rest => (some key, node.document) :: members rest

def tableDocuments : List (List (String × Node)) → List Document
  | [] => []
  | entries :: rest => .mapping (members entries) :: tableDocuments rest

end

def Tree.document (tree : Tree) : Document := .mapping (members tree.root)

end DuplexAudio.Toml
