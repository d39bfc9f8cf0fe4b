import DuplexAudio.CommandLine.Run

/-!
The program: it takes a look at the files that a run may need, runs, and writes down what the run
changed.
-/

namespace DuplexAudio.Program

/-- The written form of a location. -/
def pathText (location : Location) : String := "/" ++ String.intercalate "/" location

/-- The names in a directory; anything else has none. -/
def namesIn (location : Location) : IO (Option (List String)) := do
  try
    let entries ← ((← IO.currentDir) / pathText location).readDir
    return some (entries.toList.map (·.fileName))
  catch _ => return none

/-- Takes the node at a location into the tree, if there is one. -/
def look (files : FileTree) (location : Location) : IO FileTree := do
  match ← namesIn location with
  | some _ => return files.insert location .directory
  | none =>
    try return files.insert location (.file (← IO.FS.readBinFile (pathText location)))
    catch _ => return files

/-- Takes the node at a location into the tree, with the directories it lies in and what lies
directly in it. -/
def lookAround (files : FileTree) (location : Location) : IO FileTree := do
  let mut files := files
  for depth in List.range location.length do
    files ← look files (location.take (depth + 1))
  for name in (← namesIn location).getD [] do
    files ← look files (location ++ [name])
  return files

/-- The current directory, and the directory for configurations that the environment names. -/
def place : IO CommandLine.Place := do
  let current := (FilePath.ofText (← IO.currentDir).toString).location []
  let home := (← IO.getEnv "HOME").getD "/"
  let configHome ← IO.getEnv "XDG_CONFIG_HOME"
  match configHome.filter fun path => (FilePath.ofText path).absolute with
  | some path => return { current, configHome := path }
  | none => return { current, configHome := PathText.join home ".config" }

/-- The files that an invocation concerns. -/
def gather (place : CommandLine.Place) (invocation : CommandLine.Invocation) : IO FileTree := do
  let around (files : FileTree) (path : String) :=
    lookAround files ((FilePath.ofText path).location place.current)
  let files ← around (← lookAround {} place.current) place.config.path
  let files ← around files place.config.configPath
  (invocation.paths place files).foldlM around files

def writeChange (location : Location) : FileNode → IO Unit
  | .directory => IO.FS.createDirAll (pathText location)
  | .file content => IO.FS.writeBinFile (pathText location) content

end DuplexAudio.Program

def main (arguments : List String) : IO UInt32 := do
  let place ← DuplexAudio.Program.place
  let before ← match DuplexAudio.CommandLine.Invocation.read arguments with
    | .ok invocation => DuplexAudio.Program.gather place invocation
    | .error _ => pure {}
  let (outcome, after) := DuplexAudio.CommandLine.run place before arguments
  for (location, node) in before.changes after do
    DuplexAudio.Program.writeChange location node
  IO.print outcome.output
  IO.eprint outcome.errors
  return outcome.code.toUInt32
