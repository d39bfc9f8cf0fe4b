/-!
Exclusive use of a device. A lock is only ever tried for, never waited on, and it counts its
acquisitions. A family of locks hands out tokens, which are kept in named slots; several handles
may stand for one lock.
-/

namespace DuplexAudio

structure Lock where
  held : Bool := false
  generation : Nat := 0
  deriving DecidableEq, Repr, Inhabited

namespace Lock

/-- The lock after a successful attempt, or nothing while it is held. -/
def acquire? (lock : Lock) : Option Lock :=
  if lock.held then none else some { held := true, generation := lock.generation + 1 }

def release (lock : Lock) : Lock := { lock with held := false }

end Lock

/-- Proof of an acquisition: the lock that granted it and how many it had granted by then. -/
structure Token where
  lock : Nat
  generation : Nat
  deriving DecidableEq, Repr

namespace Exclusivity

/-- Locks, the handles that stand for them, and the tokens held in named slots. -/
structure State where
  locks : List Lock
  handles : List Nat
  tokens : List (String × Token) := []
  deriving DecidableEq, Repr

/-- Fresh locks with one handle each. -/
def State.fresh (count : Nat) : State where
  locks := List.replicate count {}
  handles := List.range count

inductive Action
  | acquire (handle : Nat) (slot : String)
  | release (handle : Nat) (slot : String)
  | drop (slot : String)
  | belongs (handle : Nat) (slot : String)
  | generation (slot : String)
  | clone (handle : Nat)
  deriving DecidableEq, Repr

inductive Answer
  | granted (generation : Nat)
  | busy
  | released
  | noToken
  | dropped (present : Bool)
  | belongs (answer : Option Bool)
  | generation (answer : Option Nat)
  | handle (index : Nat)
  deriving DecidableEq, Repr

namespace State

def lockAt (state : State) (index : Nat) : Lock := state.locks.getD index {}

def setLock (state : State) (index : Nat) (lock : Lock) : State :=
  { state with locks := state.locks.set index lock }

/-- The lock that a handle stands for. -/
def lockOf (state : State) (handle : Nat) : Nat := state.handles.getD handle 0

def held (state : State) (handle : Nat) : Bool := (state.lockAt (state.lockOf handle)).held

def token? (state : State) (slot : String) : Option Token := state.tokens.lookup slot

/-- Empties a slot and frees the lock that issued the token in it, whichever lock that is. -/
def drop (state : State) (slot : String) : State :=
  match state.token? slot with
  | none => state
  | some token =>
    { state.setLock token.lock (state.lockAt token.lock).release with
      tokens := state.tokens.filter (·.1 != slot) }

def put (state : State) (slot : String) (token : Token) : State :=
  { state with tokens := (slot, token) :: state.tokens }

/-- A token already in the slot is dropped only after the new one was granted. -/
def acquire (state : State) (handle : Nat) (slot : String) : Answer × State :=
  let index := state.lockOf handle
  match (state.lockAt index).acquire? with
  | none => (.busy, state)
  | some lock =>
    (.granted lock.generation,
      ((state.setLock index lock).drop slot).put slot ⟨index, lock.generation⟩)

def step (state : State) : Action → Answer × State
  | .acquire handle slot => state.acquire handle slot
  | .release _ slot =>
    ((if (state.token? slot).isSome then .released else .noToken), state.drop slot)
  | .drop slot => (.dropped (state.token? slot).isSome, state.drop slot)
  | .belongs handle slot =>
    (.belongs ((state.token? slot).map fun token => token.lock == state.lockOf handle), state)
  | .generation slot => (.generation ((state.token? slot).map (·.generation)), state)
  | .clone handle =>
    (.handle state.handles.length,
      { state with handles := state.handles ++ [state.lockOf handle] })

/-- The state after a finite sequence of actions. -/
def run (state : State) (actions : List Action) : State :=
  actions.foldl (fun current action => (current.step action).2) state

end State
end Exclusivity
end DuplexAudio
