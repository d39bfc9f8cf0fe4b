import DuplexAudio.Store.Path

/-!
A tree of directories and files, with the operations of a file system on it and the reasons why
they fail.
-/

namespace DuplexAudio

inductive FileFault
  | notFound
  | notADirectory
  | isADirectory
  | alreadyExists
  | invalidData
  | invalidInput
  | invalidFilename
  deriving DecidableEq, Repr

def FileFault.kind : FileFault → String
  | .notFound => "NotFound"
  | .notADirectory => "NotADirectory"
  | .isADirectory => "IsADirectory"
  | .alreadyExists => "AlreadyExists"
  | .invalidData => "InvalidData"
  | .invalidInput => "InvalidInput"
  | .invalidFilename => "InvalidFilename"

def FileFault.message : FileFault → String
  | .notFound => "No such file or directory (os error 2)"
  | .notADirectory => "Not a directory (os error 20)"
  | .isADirectory => "Is a directory (os error 21)"
  | .alreadyExists => "File exists (os error 17)"
  | .invalidData => "stream did not contain valid UTF-8"
  | .invalidInput => "file name contained an unexpected NUL byte"
  | .invalidFilename => "File name too long (os error 36)"

inductive FileNode
  | directory
  | file (content : ByteArray)

def FileNode.isSame : FileNode → FileNode → Bool
  | .directory, .directory => true
  | .file content, .file other => content.data == other.data
  | _, _ => false

/-- Where a node is: the names of the directories on the way from the root, and its own. -/
abbrev Location := List String

/-- Where a path leads if every name on the way is a directory. -/
def FilePath.location (current : Location) (path : FilePath) : Location :=
  path.names.foldl (fun location name =>
      if name == ".." then location.dropLast else location ++ [name])
    (if path.absolute then [] else current)

/-- Every node but the root, which is a directory. -/
structure FileTree where
  nodes : List (Location × FileNode) := []

namespace FileTree

def node? (tree : FileTree) (location : Location) : Option FileNode :=
  if location.isEmpty then some .directory else tree.nodes.lookup location

def remove (tree : FileTree) (location : Location) : FileTree :=
  { nodes := tree.nodes.filter (·.1 != location) }

def insert (tree : FileTree) (location : Location) (node : FileNode) : FileTree :=
  { nodes := (tree.remove location).nodes ++ [(location, node)] }

def maxNameSize : Nat := 255

def maxPathSize : Nat := 4095

/-- Walks down from an existing directory; every name on the way has to be one as well. -/
def walk (tree : FileTree) (location : Location) : List String → Except FileFault Location
  | [] => .ok location
  | ".." :: rest => tree.walk location.dropLast rest
  | name :: rest =>
    if maxNameSize < name.utf8ByteSize then .error .invalidFilename
    else match tree.node? (location ++ [name]) with
      | none => .error .notFound
      | some (.file _) => .error .notADirectory
      | some .directory => tree.walk (location ++ [name]) rest

def follow (tree : FileTree) (current : Location) (path : FilePath) :
    Except FileFault Location := do
  let start ← if path.absolute then pure [] else tree.walk [] current
  let parent ← tree.walk start path.way
  match path.last with
  | none => return parent
  | some name =>
    if maxNameSize < name.utf8ByteSize then throw .invalidFilename else return parent ++ [name]

def resolve (tree : FileTree) (current : Location) (text : String) :
    Except FileFault Location := do
  if text.toList.contains '\x00' then throw .invalidInput
  if text.isEmpty then throw .notFound
  if maxPathSize < text.utf8ByteSize then throw .invalidFilename
  tree.follow current (.ofText text)

/-- The location that a written path leads to and what is there. -/
def find (tree : FileTree) (current : Location) (text : String) :
    Except FileFault (Location × Option FileNode) := do
  let location ← tree.resolve current text
  match tree.node? location with
  | some (.file content) =>
    if (FilePath.ofText text).slash then throw .notADirectory
    else return (location, some (.file content))
  | node => return (location, node)

def doesExist (tree : FileTree) (current : Location) (text : String) : Bool :=
  match tree.find current text with
  | .ok (_, some _) => true
  | _ => false

def read (tree : FileTree) (current : Location) (text : String) : Except FileFault ByteArray := do
  match ← tree.find current text with
  | (_, some (.file content)) => return content
  | (_, some .directory) => throw .isADirectory
  | (_, none) => throw .notFound

def readText (tree : FileTree) (current : Location) (text : String) : Except FileFault String := do
  match String.fromUTF8? (← tree.read current text) with
  | some content => return content
  | none => throw .invalidData

/-- Writes a file anew; the directory it is in has to exist. -/
def write (tree : FileTree) (current : Location) (text : String) (content : ByteArray) :
    Except FileFault FileTree := do
  match ← tree.find current text with
  | (_, some .directory) => throw .isADirectory
  | (location, some (.file _)) => return tree.insert location (.file content)
  | (location, none) =>
    if (FilePath.ofText text).slash then throw .isADirectory
    else return tree.insert location (.file content)

def unlink (tree : FileTree) (current : Location) (text : String) : Except FileFault FileTree := do
  match ← tree.find current text with
  | (location, some (.file _)) => return tree.remove location
  | (_, some .directory) => throw .isADirectory
  | (_, none) => throw .notFound

def children (tree : FileTree) (location : Location) : List String :=
  tree.nodes.filterMap fun (other, _) =>
    if other.dropLast = location then other.getLast? else none

/-- The nodes that `after` has anew or with another content. -/
def changes (before after : FileTree) : List (Location × FileNode) :=
  after.nodes.filter fun (location, node) => !(before.node? location).any node.isSame

/-- Every node below a directory, with the way to it from there. -/
def below (tree : FileTree) (location : Location) : List (Location × FileNode) :=
  tree.nodes.filterMap fun (other, node) =>
    if location.isPrefixOf other && location.length < other.length then
      some (other.drop location.length, node)
    else none

def list (tree : FileTree) (current : Location) (text : String) :
    Except FileFault (List String) := do
  match ← tree.find current text with
  | (location, some .directory) => return tree.children location
  | (_, some (.file _)) => throw .notADirectory
  | (_, none) => throw .notFound

def makeDirectory (tree : FileTree) (current : Location) (text : String) :
    Except FileFault FileTree := do
  let location ← tree.resolve current text
  match tree.node? location with
  | some _ => throw .alreadyExists
  | none => return tree.insert location .directory

def isDirectory (tree : FileTree) (current : Location) (text : String) : Bool :=
  match tree.find current text with
  | .ok (_, some .directory) => true
  | _ => false

/-- Makes a directory unless it is there already. -/
def ensureDirectory (tree : FileTree) (current : Location) (text : String) :
    Except FileFault FileTree :=
  match tree.makeDirectory current text with
  | .ok made => .ok made
  | .error fault => if tree.isDirectory current text then .ok tree else .error fault

/-- Makes sure of a directory and, if `depth` allows, first of the ones it lies in. What was made
before a fault stays. -/
def ensureDirectories (depth : Nat) (tree : FileTree) (current : Location) (text : String) :
    Except FileFault Unit × FileTree :=
  if text.isEmpty then (.ok (), tree)
  else match tree.ensureDirectory current text, depth with
    | .ok made, _ => (.ok (), made)
    | .error .notFound, depth + 1 =>
      match ensureDirectories depth tree current (PathText.containing text) with
      | (.error fault, tree) => (.error fault, tree)
      | (.ok (), tree) =>
        match tree.ensureDirectory current text with
        | .ok made => (.ok (), made)
        | .error fault => (.error fault, tree)
    | .error fault, _ => (.error fault, tree)

def createAll (tree : FileTree) (current : Location) (text : String) :
    Except FileFault Unit × FileTree :=
  ensureDirectories text.length tree current text

def writeWithParents (tree : FileTree) (current : Location) (text : String)
    (content : ByteArray) : Except FileFault Unit × FileTree :=
  match tree.createAll current (PathText.containing text) with
  | (.error fault, tree) => (.error fault, tree)
  | (.ok (), tree) =>
    match tree.write current text content with
    | .error fault => (.error fault, tree)
    | .ok tree => (.ok (), tree)

/-- Copies the content of a file; anything but a file is not copied. -/
def copy (tree : FileTree) (current : Location) (source target : String) :
    Except FileFault FileTree := do
  match ← tree.find current source with
  | (_, some (.file content)) => tree.write current target content
  | (_, some .directory) => throw .invalidInput
  | (_, none) => throw .notFound

end FileTree
end DuplexAudio
