import DuplexAudio.Store.ProfileDirectory

/-!
The main configuration file. Loading it always yields a configuration: a missing file is created
with the factory default, and a damaged one is copied aside and left as it is.
-/

namespace DuplexAudio

structure ConfigDirectory where
  path : String
  current : Location := []
  deriving DecidableEq, Repr

namespace ConfigDirectory

variable (directory : ConfigDirectory)

def configPath : String := PathText.join directory.path "config.toml"

/-- Where the bytes of a damaged file are kept. -/
def backupPath : String := directory.configPath ++ ".corrupt"

def doesExist (tree : FileTree) : Bool := tree.doesExist directory.current directory.configPath

def save (tree : FileTree) (configuration : Configuration) : Except StoreFault Unit × FileTree :=
  match tree.createAll directory.current directory.path with
  | (.error fault, tree) => (.error (.file fault), tree)
  | (.ok (), tree) =>
    tree.saveToml Configuration.schema configuration directory.current directory.configPath

/-- The factory default with its profiles beside the configuration file. -/
def initial : Configuration :=
  { Configuration.factory with
    app.profileDir := PathText.join directory.path "profiles" }

/-- Keeps a copy of a damaged file, if it can be copied. -/
def backUp (tree : FileTree) : FileTree :=
  match tree.copy directory.current directory.configPath directory.backupPath with
  | .ok copied => copied
  | .error _ => tree

def load (tree : FileTree) : Configuration × FileTree :=
  if directory.doesExist tree then
    match tree.loadToml Configuration.schema directory.current directory.configPath with
    | .ok configuration => (configuration, tree)
    | .error _ => (.factory, directory.backUp tree)
  else (directory.initial, (directory.save tree directory.initial).2)

end ConfigDirectory
end DuplexAudio
