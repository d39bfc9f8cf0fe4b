/-!
Substreams: their numbers, the states of a PCM substream and the trigger commands of the host.
-/

namespace DuplexAudio

/-- The number of an opened substream. -/
structure SubstreamId where
  number : UInt32
  deriving DecidableEq, Repr, Inhabited

def SubstreamId.display (id : SubstreamId) : String := s!"#{id.number}"

inductive SubstreamState
  | opened
  | setup
  | prepared
  | running
  deriving DecidableEq, Repr, Inhabited

def SubstreamState.name : SubstreamState → String
  | .opened => "Open"
  | .setup => "Setup"
  | .prepared => "Prepared"
  | .running => "Running"

/-- Stopping takes a running substream back to `prepared` and leaves every other state alone. -/
def SubstreamState.afterStop : SubstreamState → SubstreamState
  | .running => .prepared
  | state => state

inductive TriggerCommand
  | stop
  | start
  | pausePush
  | pauseRelease
  | suspend
  | resume
  | drain
  deriving DecidableEq, Repr

namespace TriggerCommand

def all : List TriggerCommand :=
  [.stop, .start, .pausePush, .pauseRelease, .suspend, .resume, .drain]

def name : TriggerCommand → String
  | .stop => "Stop"
  | .start => "Start"
  | .pausePush => "PausePush"
  | .pauseRelease => "PauseRelease"
  | .suspend => "Suspend"
  | .resume => "Resume"
  | .drain => "Drain"

/-- The code of a command; the code 2 is not in use. -/
def code : TriggerCommand → Int
  | .stop => 0
  | .start => 1
  | .pausePush => 3
  | .pauseRelease => 4
  | .suspend => 5
  | .resume => 6
  | .drain => 7

def ofCode? (code : Int) : Option TriggerCommand := all.find? (·.code == code)

def ofName? (name : String) : Option TriggerCommand := all.find? (·.name == name)

end TriggerCommand
end DuplexAudio
