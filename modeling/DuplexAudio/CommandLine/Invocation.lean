import DuplexAudio.Clock
import DuplexAudio.CommandLine.Arguments
import DuplexAudio.Direction
import DuplexAudio.Interval.Parse

/-!
What the program can be asked to do, and how an invocation is read from the command line. Some
options are understood at every level; the innermost one wins.
-/

namespace DuplexAudio.CommandLine

inductive Command
  | window (direction : Direction)
  | refine (direction : Direction) (rates channels : Interval)
  | simulate (rate : Option UInt32) (source : ClockSource) (clockRate : UInt32)
  | listProfiles
  | initProfile (name : String)
  deriving DecidableEq, Repr

structure Invocation where
  command : Command
  profile : Option String := none
  json : Bool := false
  deriving DecidableEq, Repr

/-- There is no log, so asking for more of it changes nothing. -/
def globalOptions : List OptionForm :=
  [{ long := "verbose", short := some 'v' },
   { long := "profile", short := some 'p', takesValue := true },
   { long := "json" }]

def directionOption : OptionForm := { long := "direction", short := some 'd', takesValue := true }

/-- The value of an option as `read` understands it. -/
def Level.valueAs? {α : Type} (level : Level) (long : String) (read : String → Option α) :
    Except UsageFault (Option α) :=
  match level.value? long with
  | none => .ok none
  | some text =>
    match read text with
    | some value => .ok (some value)
    | none => .error (.invalidValue long text)

def readDirection? : String → Option Direction
  | "capture" => some .capture
  | "playback" => some .playback
  | _ => none

def readSource? : String → Option ClockSource
  | "internal" => some .internal
  | "word" => some .wordOnBnc
  | "spdif" => some .spdifCoax
  | "adat" => some .adatOptical
  | _ => none

/-- A number is signed, but a negative one is out of range unless it is zero. -/
def readNumber? (text : String) : Option UInt32 :=
  match text.toList with
  | '-' :: digits =>
    if digits.head?.any Char.isDigit then
      (Text.readDigits 1 0 digits).toOption.map fun _ => 0
    else none
  | digits => (Text.readWord digits).toOption

def readPath? (text : String) : Option String := if text.isEmpty then none else some text

/-- A level without words or commands of its own. -/
def readPlain (options : List OptionForm) (arguments : List String) : Except UsageFault Level := do
  let level ← Level.read (globalOptions ++ options) false {} none arguments
  match level.words with
  | [] => return level
  | word :: _ => throw (.superfluousWord word)

/-- A level that ends in a command. -/
def readToCommand (arguments : List String) : Except UsageFault (Level × String × List String) := do
  let level ← Level.read globalOptions true {} none arguments
  match level.command, level.words with
  | some command, _ => return (level, command)
  | none, word :: _ => throw (.superfluousWord word)
  | none, [] => throw .missingCommand

def readInterval? (text : String) : Option Interval := (Interval.parse text).toOption

def readWindow (arguments : List String) : Except UsageFault (Command × List Level) := do
  let level ← readPlain [directionOption] arguments
  let direction ← level.valueAs? "direction" readDirection?
  return (.window (direction.getD .capture), [level])

def readRefine (arguments : List String) : Except UsageFault (Command × List Level) := do
  let options := [
    directionOption, { long := "rate", takesValue := true },
    { long := "channels", takesValue := true }]
  let level ← readPlain options arguments
  let direction ← level.valueAs? "direction" readDirection?
  let rates ← level.valueAs? "rate" readInterval?
  let channels ← level.valueAs? "channels" readInterval?
  return (.refine (direction.getD .capture) (rates.getD .full) (channels.getD .full), [level])

def readSimulate (arguments : List String) : Except UsageFault (Command × List Level) := do
  let options := [
    { long := "rate", takesValue := true }, { long := "clock", takesValue := true },
    { long := "clock-rate", takesValue := true }]
  let level ← readPlain options arguments
  let rate ← level.valueAs? "rate" readNumber?
  let source ← level.valueAs? "clock" readSource?
  let clockRate ← level.valueAs? "clock-rate" readNumber?
  return (.simulate rate (source.getD .internal) (clockRate.getD 48000), [level])

def readProfiles (arguments : List String) : Except UsageFault (Command × List Level) := do
  let (outer, command, arguments) ← readToCommand arguments
  match command with
  | "list" => return (.listProfiles, [← readPlain [] arguments, outer])
  | "init" =>
    let level ← Level.read globalOptions false {} none arguments
    match level.words with
    | [name] => return (.initProfile name, [level, outer])
    | [] => throw (.missingWord "NAME")
    | _ :: word :: _ => throw (.superfluousWord word)
  | _ => throw (.unknownCommand command)

def readCommand (command : String) (arguments : List String) :
    Except UsageFault (Command × List Level) :=
  match command with
  | "window" => readWindow arguments
  | "refine" => readRefine arguments
  | "simulate" => readSimulate arguments
  | "profiles" => readProfiles arguments
  | _ => .error (.unknownCommand command)

namespace Invocation

/-- The invocation that the arguments after the name of the program ask for. -/
def read (arguments : List String) : Except UsageFault Invocation := do
  let (outer, command, arguments) ← readToCommand arguments
  let (command, levels) ← readCommand command arguments
  let levels := levels ++ [outer]
  let profiles ← levels.mapM (·.valueAs? "profile" readPath?)
  return {
    command
    profile := profiles.findSome? id
    json := levels.any (·.isGiven "json") }

end Invocation
end DuplexAudio.CommandLine
