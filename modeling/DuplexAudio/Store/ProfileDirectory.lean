import DuplexAudio.Store.FileTree
import DuplexAudio.Toml.Printer
import DuplexAudio.Toml.Reader

/-!
Saved profiles: one TOML file for each, all in one directory.
-/

namespace DuplexAudio

/-- Why a saved value cannot be had, kept or removed. -/
inductive StoreFault
  | file (fault : FileFault)
  | unreadable (fault : ReadFault)
  | notWritable
  | profileNotFound (name : String)
  deriving DecidableEq, Repr

namespace StoreFault

def cause? : StoreFault → Option String
  | .file fault => some fault.message
  | .unreadable fault =>
    some ("TOML parse error at an unknown place: " ++ fault.message?.getD "not the value expected")
  | .notWritable => some "a value without a TOML form"
  | .profileNotFound _ => none

def message (fault : StoreFault) : String :=
  match fault with
  | .file _ => "IO error: " ++ fault.cause?.getD ""
  | .unreadable _ => "TOML parsing error: " ++ fault.cause?.getD ""
  | .notWritable => "TOML serialization error: " ++ fault.cause?.getD ""
  | .profileNotFound name => "Profile not found: " ++ name

end StoreFault

namespace FileTree

def loadToml {α : Type} (schema : Schema α) (tree : FileTree) (current : Location)
    (path : String) : Except StoreFault α :=
  match tree.readText current path with
  | .error fault => .error (.file fault)
  | .ok text => (Toml.decode schema text).mapError .unreadable

def saveToml {α : Type} (schema : Schema α) (value : α) (tree : FileTree) (current : Location)
    (path : String) : Except StoreFault Unit × FileTree :=
  match tree.createAll current (PathText.containing path) with
  | (.error fault, tree) => (.error (.file fault), tree)
  | (.ok (), tree) =>
    match Toml.encode? schema value with
    | none => (.error .notWritable, tree)
    | some text =>
      match tree.write current path text.toUTF8 with
      | .error fault => (.error (.file fault), tree)
      | .ok tree => (.ok (), tree)

end FileTree

/-- A directory of profiles, as seen from a current location. -/
structure ProfileDirectory where
  path : String
  current : Location := []
  deriving DecidableEq, Repr

namespace ProfileDirectory

variable (directory : ProfileDirectory)

def profilePath (name : String) : String := PathText.join directory.path (name ++ ".toml")

def profileName? (file : String) : Option String :=
  match PathText.splitExtension file.toList with
  | some (stem, extension) =>
    if extension = ['t', 'o', 'm', 'l'] then some (String.ofList stem) else none
  | none => none

/-- The names of all profiles, sorted; a directory that is missing holds none. -/
def list (tree : FileTree) : Except StoreFault (List String) :=
  if tree.doesExist directory.current directory.path then
    match tree.list directory.current directory.path with
    | .error fault => .error (.file fault)
    | .ok files => .ok ((files.filterMap profileName?).mergeSort (· ≤ ·))
  else .ok []

def contains (tree : FileTree) (name : String) : Bool :=
  tree.doesExist directory.current (directory.profilePath name)

def load (tree : FileTree) (name : String) : Except StoreFault DeviceProfile :=
  if directory.contains tree name then
    tree.loadToml DeviceProfile.schema directory.current (directory.profilePath name)
  else .error (.profileNotFound name)

def save (tree : FileTree) (name : String) (profile : DeviceProfile) :
    Except StoreFault Unit × FileTree :=
  tree.saveToml DeviceProfile.schema profile directory.current (directory.profilePath name)

def delete (tree : FileTree) (name : String) : Except StoreFault Unit × FileTree :=
  if directory.contains tree name then
    match tree.unlink directory.current (directory.profilePath name) with
    | .error fault => (.error (.file fault), tree)
    | .ok tree => (.ok (), tree)
  else (.error (.profileNotFound name), tree)

end ProfileDirectory
end DuplexAudio
