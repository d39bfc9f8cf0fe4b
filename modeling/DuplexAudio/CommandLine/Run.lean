import DuplexAudio.CommandLine.Invocation
import DuplexAudio.CommandLine.Report
import DuplexAudio.Store.ConfigDirectory

/-!
One run of the program: from the arguments and the files around it to what it prints, its exit code
and the files afterwards.
-/

namespace DuplexAudio.CommandLine

/-- Why a run fails. -/
inductive Failure
  | usage (fault : UsageFault)
  | profile (path : String) (fault : StoreFault)
  | store (fault : StoreFault)
  | incompatible (rates channels : Interval)
  | stream (fault : StreamFault)
  deriving DecidableEq, Repr

namespace Failure

/-- A channel count that does not fit is a defect and not a failure of the request. -/
def code : Failure → UInt8
  | .usage _ => 2
  | .stream .channelOverflow => 101
  | _ => 1

/-- One cause stands alone, several are numbered. -/
def listCauses : List String → String
  | [] => ""
  | [cause] => "\n\nCaused by:\n    " ++ cause
  | causes =>
    "\n\nCaused by:" ++
      String.join (causes.zipIdx.map fun (cause, index) => s!"\n    {index}: {cause}")

def message : Failure → String
  | .usage fault => fault.message
  | .profile path fault =>
    "loading profile " ++ path ++ listCauses (fault.message :: fault.cause?.toList)
  | .store fault => fault.message ++ listCauses fault.cause?.toList
  | .incompatible rates channels =>
    s!"parameters incompatible: rate {rates.display} channels {channels.display}"
  | .stream fault => fault.message

def ofStreamFault : StreamFault → Failure
  | .unsatisfiable rates channels => .incompatible rates channels
  | fault => .stream fault

end Failure

/-- Where a run takes place: the current directory, and the directory in which programs keep their
configuration. -/
structure Place where
  current : Location
  configHome : String
  deriving DecidableEq, Repr

namespace Place

variable (place : Place)

def config : ConfigDirectory :=
  { path := PathText.join place.configHome "fwpcm", current := place.current }

def profiles (configuration : Configuration) : ProfileDirectory :=
  { path := configuration.app.profileDir, current := place.current }

end Place

/-- What a run has printed, and the failure that ended it. -/
structure Printed where
  lines : List String := []
  failure : Option Failure := none
  deriving DecidableEq, Repr

namespace Printed

def ofFailure (failure : Failure) : Printed := { failure := some failure }

def ofResult : Except Failure (List String) → Printed
  | .ok lines => { lines }
  | .error failure => ofFailure failure

end Printed

/-- The profile asked for, or else the default profile of the configuration, or else its device. -/
def chooseProfile (place : Place) (files : FileTree) (path : Option String) :
    Except Failure DeviceProfile × FileTree :=
  match path with
  | some path =>
    ((files.loadToml DeviceProfile.schema place.current path).mapError (.profile path), files)
  | none =>
    let (configuration, files) := place.config.load files
    match configuration.app.defaultProfile with
    | some name => (((place.profiles configuration).load files name).mapError .store, files)
    | none => (.ok configuration.device, files)

def showWindow (profile : DeviceProfile) (direction : Direction) (json : Bool) :
    Except Failure (List String) :=
  match (profile.formats.forDirection direction).window with
  | .error overflow => .error (.stream (.ofOverflow overflow))
  | .ok window =>
    .ok (if json then jsonLines CapabilityWindow.schema window
      else windowLines profile direction window)

def showRefined (profile : DeviceProfile) (direction : Direction) (rates channels : Interval)
    (json : Bool) : Except Failure (List String) :=
  let table := profile.formats.forDirection direction
  match table.window with
  | .error overflow => .error (.stream (.ofOverflow overflow))
  | .ok window =>
    match ({ direction, table, window } : Constraints).refine rates channels with
    | .error fault => .error (.ofStreamFault fault)
    | .ok result =>
      .ok (if json then jsonLines Negotiated.schema result else [negotiatedLine result])

def showSimulated (profile : DeviceProfile) (rate : Option UInt32) (source : ClockSource)
    (clockRate : UInt32) : Printed :=
  let (result, state) := simulate profile rate source clockRate
  let lines := state.remarks.flatMap remarkLines
  match result with
  | .ok () => { lines }
  | .error fault => { lines, failure := some (.stream fault) }

/-- Carries out what was asked for. -/
def Invocation.perform (invocation : Invocation) (place : Place) (files : FileTree) :
    Printed × FileTree :=
  let withProfile (act : DeviceProfile → Printed) : Printed × FileTree :=
    match chooseProfile place files invocation.profile with
    | (.error failure, files) => (.ofFailure failure, files)
    | (.ok profile, files) => (act profile, files)
  match invocation.command with
  | .window direction =>
    withProfile fun profile => .ofResult (showWindow profile direction invocation.json)
  | .refine direction rates channels =>
    withProfile fun profile =>
      .ofResult (showRefined profile direction rates channels invocation.json)
  | .simulate rate source clockRate =>
    withProfile fun profile => showSimulated profile rate source clockRate
  | .listProfiles =>
    let (configuration, files) := place.config.load files
    (.ofResult (((place.profiles configuration).list files).mapError .store), files)
  | .initProfile name =>
    let (configuration, files) := place.config.load files
    let profiles := place.profiles configuration
    match profiles.save files name .factory with
    | (.error fault, files) => (.ofFailure (.store fault), files)
    | (.ok (), files) => ({ lines := ["saved " ++ profiles.profilePath name] }, files)

/-- The paths that a run looks at or writes to, once the files of the configuration are known. -/
def Invocation.paths (invocation : Invocation) (place : Place) (files : FileTree) : List String :=
  let configuration := (place.config.load files).1
  let profiles := place.profiles configuration
  let named := match invocation.command with
    | .initProfile name => [profiles.profilePath name]
    | _ => []
  invocation.profile.toList ++ profiles.path ::
    configuration.app.defaultProfile.toList.map profiles.profilePath ++ named

/-- What a run leaves to be seen from outside. -/
structure Outcome where
  code : UInt8
  output : String
  errors : String
  deriving DecidableEq, Repr

def Outcome.ofPrinted (printed : Printed) : Outcome where
  code := printed.failure.elim 0 Failure.code
  output := ofLines printed.lines
  errors := printed.failure.elim "" fun failure => ofLines ["Error: " ++ failure.message]

/-- A run with arguments that cannot be understood touches no file. -/
def run (place : Place) (files : FileTree) (arguments : List String) : Outcome × FileTree :=
  match Invocation.read arguments with
  | .error fault => (.ofPrinted (.ofFailure (.usage fault)), files)
  | .ok invocation =>
    let (printed, files) := invocation.perform place files
    (.ofPrinted printed, files)

end DuplexAudio.CommandLine
