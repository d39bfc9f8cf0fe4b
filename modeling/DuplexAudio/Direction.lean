/-!
The two directions of a duplex stream, and a value for each of them.
-/

namespace DuplexAudio

/-- A direction as the host sees it: the device transmits what the host captures. -/
inductive Direction
  | capture
  | playback
  deriving DecidableEq, Repr, Inhabited

namespace Direction

def all : List Direction := [.capture, .playback]

def display : Direction → String
  | .capture => "capture"
  | .playback => "playback"

def index : Direction → Nat
  | .capture => 0
  | .playback => 1

end Direction

/-- One value for each direction. -/
structure PerDirection (α : Type) where
  capture : α
  playback : α
  deriving DecidableEq, Repr

namespace PerDirection

variable {α : Type}

def both (value : α) : PerDirection α := ⟨value, value⟩

def get (pair : PerDirection α) : Direction → α
  | .capture => pair.capture
  | .playback => pair.playback

def set (pair : PerDirection α) (direction : Direction) (value : α) : PerDirection α :=
  match direction with
  | .capture => { pair with capture := value }
  | .playback => { pair with playback := value }

def toList (pair : PerDirection α) : List α := [pair.capture, pair.playback]

@[simp] theorem get_both (value : α) (direction : Direction) :
    (both value).get direction = value := by
  cases direction <;> rfl

@[simp] theorem get_set_self (pair : PerDirection α) (direction : Direction) (value : α) :
    (pair.set direction value).get direction = value := by
  cases direction <;> rfl

theorem get_set (pair : PerDirection α) (direction other : Direction) (value : α) :
    (pair.set direction value).get other = if other = direction then value else pair.get other := by
  cases direction <;> cases other <;> rfl

end PerDirection
end DuplexAudio
