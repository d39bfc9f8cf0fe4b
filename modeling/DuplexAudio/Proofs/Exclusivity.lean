import DuplexAudio.Exclusivity
import Mathlib.Data.List.Nodup
import Mathlib.Data.List.Range

/-!
Locks and tokens over whole runs. Whatever is acquired, released and dropped through whichever
handle, a lock is held exactly while the one token that it issued last is out, and it has numbered
its tokens from one.
-/

namespace DuplexAudio.Exclusivity

/-- The action goes through handles that are there. -/
def Action.Names (state : State) : Action → Prop
  | .acquire handle _ | .release handle _ | .belongs handle _ | .clone handle =>
    handle < state.handles.length
  | .drop _ | .generation _ => True

instance (state : State) : DecidablePred (Action.Names state)
  | .acquire _ _ | .release _ _ | .belongs _ _ | .clone _ => inferInstanceAs (Decidable (_ < _))
  | .drop _ | .generation _ => inferInstanceAs (Decidable True)

namespace State

variable {state : State} {action : Action} {handle index other : Nat} {slot : String}
  {token : Token} {lock : Lock}

/-- The tokens that are out for a lock, each with the slot that it is in. -/
def outstanding (state : State) (index : Nat) : List (String × Token) :=
  state.tokens.filter (·.2.lock == index)

/-- The token in the slot, if there is one, was issued by the lock. -/
def issuedIn (state : State) (slot : String) (index : Nat) : Bool :=
  (state.token? slot).any (·.lock == index)

/-! ### What an operation does to one lock -/

theorem lockAt_setLock (hindex : index < state.locks.length) :
    (state.setLock index lock).lockAt other =
      if other = index then lock else state.lockAt other := by
  simp only [lockAt, setLock, List.getD_eq_getElem?_getD, List.getElem?_set]
  by_cases hother : other = index
  · subst hother
    simp [hindex]
  · simp [hother, Ne.symm hother]

theorem length_locks_setLock : (state.setLock index lock).locks.length = state.locks.length :=
  List.length_set

theorem token?_eq_some_iff (hslots : (state.tokens.map (·.1)).Nodup) :
    state.token? slot = some token ↔ (slot, token) ∈ state.tokens := by
  rw [token?, List.lookup_eq_some_iff]
  constructor
  · rintro ⟨before, after, htokens, -⟩
    rw [htokens]
    exact List.mem_append_right before List.mem_cons_self
  · intro hmem
    obtain ⟨before, after, htokens⟩ := List.append_of_mem hmem
    refine ⟨before, after, htokens, fun entry hentry => ?_⟩
    rw [htokens, List.map_append, List.map_cons, List.nodup_append] at hslots
    have hdistinct := hslots.2.2 entry.1 (List.mem_map_of_mem hentry) slot List.mem_cons_self
    exact bne_iff_ne.2 hdistinct.symm

theorem drop_of_none (hnone : state.token? slot = none) : state.drop slot = state := by
  rw [drop, hnone]

theorem drop_of_some (hsome : state.token? slot = some token) :
    state.drop slot =
      { state.setLock token.lock (state.lockAt token.lock).release with
        tokens := state.tokens.filter (·.1 != slot) } := by
  rw [drop, hsome]

theorem tokens_drop (state : State) (slot : String) :
    (state.drop slot).tokens = state.tokens.filter (·.1 != slot) := by
  cases htoken : state.token? slot with
  | some token => rw [drop_of_some htoken]
  | none =>
    rw [drop_of_none htoken, eq_comm, List.filter_eq_self]
    intro entry hentry
    have hdiffers := List.lookup_eq_none_iff.1 htoken entry hentry
    rwa [bne_comm] at hdiffers

theorem handles_drop (state : State) (slot : String) :
    (state.drop slot).handles = state.handles := by
  unfold drop
  split <;> rfl

theorem length_locks_drop (state : State) (slot : String) :
    (state.drop slot).locks.length = state.locks.length := by
  unfold drop
  split
  · rfl
  · exact length_locks_setLock

theorem outstanding_drop (state : State) (slot : String) (index : Nat) :
    (state.drop slot).outstanding index = (state.outstanding index).filter (·.1 != slot) := by
  rw [outstanding, tokens_drop, List.filter_comm, outstanding]

theorem issuedIn_eq_true_iff : state.issuedIn slot index = true ↔
    ∃ token, state.token? slot = some token ∧ token.lock = index := by
  simp [issuedIn, Option.any_eq_true]

/-! ### The invariant -/

/-- Handles and tokens are those of locks that are there, a slot holds one token, and a lock that is
held has one token out, a free one none. -/
structure Exclusive (state : State) : Prop where
  handles : ∀ index ∈ state.handles, index < state.locks.length
  slots : (state.tokens.map (·.1)).Nodup
  issuers : ∀ entry ∈ state.tokens, entry.2.lock < state.locks.length
  outstanding : ∀ index < state.locks.length,
    (state.outstanding index).length = (state.lockAt index).held.toNat

theorem lockAt_fresh (count index : Nat) : (fresh count).lockAt index = {} := by
  simp only [lockAt, fresh, List.getD_eq_getElem?_getD, List.getElem?_replicate]
  split <;> rfl

theorem exclusive_fresh (count : Nat) : Exclusive (.fresh count) where
  handles index hindex := by simpa [fresh] using hindex
  slots := List.nodup_nil
  issuers entry hentry := by cases hentry
  outstanding index hindex := by
    rw [lockAt_fresh]
    rfl

namespace Exclusive

variable (hexclusive : state.Exclusive)
include hexclusive

theorem lockOf_lt (hhandle : handle < state.handles.length) :
    state.lockOf handle < state.locks.length := by
  apply hexclusive.handles
  rw [lockOf, List.getD_eq_getElem?_getD, List.getElem?_eq_getElem hhandle]
  exact List.getElem_mem hhandle

theorem lock_lt (htoken : state.token? slot = some token) : token.lock < state.locks.length :=
  hexclusive.issuers _ ((token?_eq_some_iff hexclusive.slots).1 htoken)

theorem mem_outstanding (htoken : state.token? slot = some token) :
    (slot, token) ∈ state.outstanding token.lock := by
  have hmem := (token?_eq_some_iff hexclusive.slots).1 htoken
  exact List.mem_filter.2 ⟨hmem, beq_self_eq_true token.lock⟩

/-- A token that is out keeps its lock held, and it is the only one of that lock. -/
theorem outstanding_eq (htoken : state.token? slot = some token) :
    (state.lockAt token.lock).held = true ∧ state.outstanding token.lock = [(slot, token)] := by
  have hmem := hexclusive.mem_outstanding htoken
  have hlength := hexclusive.outstanding token.lock (hexclusive.lock_lt htoken)
  have hpos := List.length_pos_of_mem hmem
  cases hheld : (state.lockAt token.lock).held with
  | false =>
    rw [hheld, Bool.toNat_false] at hlength
    omega
  | true =>
    rw [hheld, Bool.toNat_true] at hlength
    obtain ⟨entry, hentry⟩ := List.length_eq_one_iff.1 hlength
    rw [hentry, List.mem_singleton] at hmem
    exact ⟨rfl, hmem ▸ hentry⟩

theorem lockAt_drop : (state.drop slot).lockAt index =
    if state.issuedIn slot index then (state.lockAt index).release else state.lockAt index := by
  cases htoken : state.token? slot with
  | none =>
    rw [drop_of_none htoken]
    simp [issuedIn, htoken]
  | some token =>
    have hlock : (state.drop slot).lockAt index =
        (state.setLock token.lock (state.lockAt token.lock).release).lockAt index := by
      rw [drop_of_some htoken]
      rfl
    rw [hlock, lockAt_setLock (hexclusive.lock_lt htoken)]
    by_cases hindex : index = token.lock
    · subst hindex
      simp [issuedIn, htoken]
    · simp [issuedIn, htoken, hindex, Ne.symm hindex]

theorem length_outstanding_drop : ((state.drop slot).outstanding index).length =
    if state.issuedIn slot index then 0 else (state.outstanding index).length := by
  rw [outstanding_drop]
  split
  · next hissued =>
    -- It was the only token of its lock, so emptying its slot leaves the lock none.
    obtain ⟨token, htoken, rfl⟩ := issuedIn_eq_true_iff.1 hissued
    rw [(hexclusive.outstanding_eq htoken).2]
    simp
  · next hforeign =>
    have hkept : (state.outstanding index).filter (·.1 != slot) = state.outstanding index := by
      rw [List.filter_eq_self]
      rintro ⟨name, token⟩ hentry
      obtain ⟨hmem, hlock⟩ := List.mem_filter.1 hentry
      rw [bne_iff_ne]
      rintro rfl
      have htoken := (token?_eq_some_iff hexclusive.slots).2 hmem
      exact hforeign (issuedIn_eq_true_iff.2 ⟨token, htoken, beq_iff_eq.1 hlock⟩)
    rw [hkept]

/-- Giving a token back frees the lock that issued it. -/
theorem drop (slot : String) : (state.drop slot).Exclusive where
  handles index hindex := by
    rw [handles_drop] at hindex
    rw [length_locks_drop]
    exact hexclusive.handles index hindex
  slots := by
    rw [tokens_drop]
    exact hexclusive.slots.sublist (List.filter_sublist.map _)
  issuers entry hentry := by
    rw [tokens_drop] at hentry
    rw [length_locks_drop]
    exact hexclusive.issuers entry (List.mem_filter.1 hentry).1
  outstanding index hindex := by
    rw [length_locks_drop] at hindex
    rw [hexclusive.length_outstanding_drop, hexclusive.lockAt_drop]
    split
    · rfl
    · exact hexclusive.outstanding index hindex

/-- A free lock may issue a token into an empty slot. -/
theorem issue (hindex : index < state.locks.length) (hfree : (state.lockAt index).held = false)
    (hslot : slot ∉ state.tokens.map (·.1)) (generation : Nat) :
    ((state.setLock index ⟨true, generation⟩).put slot ⟨index, generation⟩).Exclusive where
  handles other hother := by
    change other < (state.setLock index ⟨true, generation⟩).locks.length
    rw [length_locks_setLock]
    exact hexclusive.handles other hother
  slots := List.nodup_cons.2 ⟨hslot, hexclusive.slots⟩
  issuers entry hentry := by
    change entry.2.lock < (state.setLock index ⟨true, generation⟩).locks.length
    rw [length_locks_setLock]
    rcases List.mem_cons.1 hentry with rfl | hmem
    · exact hindex
    · exact hexclusive.issuers entry hmem
  outstanding other hother := by
    change other < (state.setLock index ⟨true, generation⟩).locks.length at hother
    rw [length_locks_setLock] at hother
    have hbefore := hexclusive.outstanding other hother
    change (((slot, ⟨index, generation⟩) :: state.tokens).filter (·.2.lock == other)).length =
      ((state.setLock index ⟨true, generation⟩).lockAt other).held.toNat
    rw [lockAt_setLock hindex]
    by_cases hsame : other = index
    · -- The lock was free and had no token out; now the new one is its only token.
      subst hsame
      rw [hfree, Bool.toNat_false] at hbefore
      simp only [List.filter_cons, beq_self_eq_true, if_true, List.length_cons]
      exact congrArg (· + 1) hbefore
    · rw [if_neg hsame, ← hbefore]
      simp [State.outstanding, Ne.symm hsame]

theorem not_issuedIn_of_free (hfree : (state.lockAt index).held = false) (slot : String) :
    state.issuedIn slot index = false := by
  rw [← Bool.not_eq_true]
  intro hissued
  obtain ⟨token, htoken, rfl⟩ := issuedIn_eq_true_iff.1 hissued
  have hheld := (hexclusive.outstanding_eq htoken).1
  rw [hfree] at hheld
  cases hheld

/-- A token in the slot is that of another lock, so it may as well be dropped first. -/
theorem drop_setLock (hfree : (state.lockAt index).held = false) (slot : String) (lock : Lock) :
    (state.setLock index lock).drop slot = (state.drop slot).setLock index lock := by
  have hforeign := hexclusive.not_issuedIn_of_free hfree slot
  cases htoken : state.token? slot with
  | none =>
    have hnone : (state.setLock index lock).token? slot = none := htoken
    rw [drop_of_none htoken, drop_of_none hnone]
  | some token =>
    have hsome : (state.setLock index lock).token? slot = some token := htoken
    have hdiffers : token.lock ≠ index := by
      intro hsame
      simp [issuedIn, htoken, hsame] at hforeign
    have hlocks : (state.setLock index lock).lockAt token.lock = state.lockAt token.lock := by
      simp [lockAt, setLock, List.getD_eq_getElem?_getD, Ne.symm hdiffers]
    rw [drop_of_some htoken, drop_of_some hsome, hlocks]
    simp only [setLock]
    rw [List.set_comm _ _ (Ne.symm hdiffers)]

end Exclusive

/-! ### Attempts -/

theorem acquire_of_held (hheld : state.held handle = true) (slot : String) :
    state.acquire handle slot = (.busy, state) := by
  have hrefused : (state.lockAt (state.lockOf handle)).acquire? = none := if_pos hheld
  rw [acquire]
  simp only [hrefused]

theorem Exclusive.acquire_of_free (hexclusive : state.Exclusive)
    (hfree : state.held handle = false) (slot : String) :
    state.acquire handle slot =
      (.granted ((state.lockAt (state.lockOf handle)).generation + 1),
        ((state.drop slot).setLock (state.lockOf handle)
          ⟨true, (state.lockAt (state.lockOf handle)).generation + 1⟩).put slot
            ⟨state.lockOf handle, (state.lockAt (state.lockOf handle)).generation + 1⟩) := by
  have hgranted : (state.lockAt (state.lockOf handle)).acquire? =
      some ⟨true, (state.lockAt (state.lockOf handle)).generation + 1⟩ :=
    if_neg (by rw [Bool.not_eq_true]; exact hfree)
  rw [acquire]
  simp only [hgranted]
  rw [hexclusive.drop_setLock hfree]

/-- The token that the action gets out of a lock, if it gets one. -/
def issued? (state : State) (action : Action) : Option Token :=
  match action, (state.step action).1 with
  | .acquire handle _, .granted generation => some ⟨state.lockOf handle, generation⟩
  | _, _ => none

/-- What an action can do to locks and tokens: nothing, clone a handle, empty a slot, or issue the
next token of a free lock. -/
theorem Exclusive.step_cases (hexclusive : state.Exclusive) (hnames : action.Names state) :
    (state.issued? action = none ∧
      ((state.step action).2 = state ∨
        (∃ handle < state.handles.length, (state.step action).2 =
          { state with handles := state.handles ++ [state.lockOf handle] }) ∨
        ∃ slot, (state.step action).2 = state.drop slot)) ∨
    ∃ handle slot generation, handle < state.handles.length ∧ state.held handle = false ∧
      generation = (state.lockAt (state.lockOf handle)).generation + 1 ∧
      state.issued? action = some ⟨state.lockOf handle, generation⟩ ∧
      (state.step action).2 = ((state.drop slot).setLock (state.lockOf handle)
        ⟨true, generation⟩).put slot ⟨state.lockOf handle, generation⟩ := by
  cases action with
  | acquire handle slot =>
    cases hheld : state.held handle with
    | true =>
      have hacquire := acquire_of_held hheld slot
      refine Or.inl ⟨?_, Or.inl ?_⟩
      · simp only [issued?, step, hacquire]
      · simp only [step, hacquire]
    | false =>
      have hacquire := hexclusive.acquire_of_free hheld slot
      refine Or.inr ⟨handle, slot, _, hnames, hheld, rfl, ?_, ?_⟩
      · simp only [issued?, step, hacquire]
      · simp only [step, hacquire]
  | release handle slot => exact Or.inl ⟨rfl, Or.inr (Or.inr ⟨slot, rfl⟩)⟩
  | drop slot => exact Or.inl ⟨rfl, Or.inr (Or.inr ⟨slot, rfl⟩)⟩
  | belongs handle slot => exact Or.inl ⟨rfl, Or.inl rfl⟩
  | generation slot => exact Or.inl ⟨rfl, Or.inl rfl⟩
  | clone handle => exact Or.inl ⟨rfl, Or.inr (Or.inl ⟨handle, hnames, rfl⟩)⟩

/-! ### Runs -/

/-- The states of all runs of `count` fresh locks, each with the tokens issued on the way to it. -/
inductive Reachable (count : Nat) : State → List Token → Prop
  | fresh : Reachable count (.fresh count) []
  | step {state : State} {issued : List Token} (action : Action)
      (hreachable : Reachable count state issued) (hnames : action.Names state) :
      Reachable count (state.step action).2 (issued ++ (state.issued? action).toList)

/-- The numbers of the tokens that a lock has issued, in order. -/
def numbers (issued : List Token) (index : Nat) : List Nat :=
  (issued.filter (·.lock == index)).map (·.generation)

/-- A lock has numbered its tokens from one up to its generation. -/
structure Numbered (state : State) (issued : List Token) : Prop extends Exclusive state where
  numbers : ∀ index < state.locks.length,
    numbers issued index = List.range' 1 (state.lockAt index).generation

variable {count : Nat} {issued : List Token}

theorem numbered_fresh (count : Nat) : Numbered (.fresh count) [] where
  toExclusive := exclusive_fresh count
  numbers index hindex := by
    rw [lockAt_fresh]
    rfl

theorem Numbered.drop (hnumbered : state.Numbered issued) (slot : String) :
    (state.drop slot).Numbered issued where
  toExclusive := hnumbered.toExclusive.drop slot
  numbers index hindex := by
    rw [length_locks_drop] at hindex
    have hgeneration : ((state.drop slot).lockAt index).generation =
        (state.lockAt index).generation := by
      rw [hnumbered.lockAt_drop]
      split <;> rfl
    rw [hgeneration]
    exact hnumbered.numbers index hindex

theorem numbers_append (issued : List Token) (token : Token) (index : Nat) :
    numbers (issued ++ [token]) index =
      numbers issued index ++ if token.lock = index then [token.generation] else [] := by
  unfold numbers
  rw [List.filter_append, List.map_append]
  by_cases hlock : token.lock = index <;> simp [hlock]

theorem Numbered.issue (hnumbered : state.Numbered issued) (hindex : index < state.locks.length)
    (hfree : (state.lockAt index).held = false) (hslot : slot ∉ state.tokens.map (·.1))
    {generation : Nat} (hnext : generation = (state.lockAt index).generation + 1) :
    ((state.setLock index ⟨true, generation⟩).put slot ⟨index, generation⟩).Numbered
      (issued ++ [⟨index, generation⟩]) where
  toExclusive := hnumbered.toExclusive.issue hindex hfree hslot generation
  numbers other hother := by
    change other < (state.setLock index ⟨true, generation⟩).locks.length at hother
    rw [length_locks_setLock] at hother
    change State.numbers (issued ++ [⟨index, generation⟩]) other =
      List.range' 1 ((state.setLock index ⟨true, generation⟩).lockAt other).generation
    rw [numbers_append, hnumbered.numbers other hother, lockAt_setLock hindex]
    by_cases hsame : other = index
    · subst hsame
      rw [if_pos rfl, if_pos rfl, hnext, List.range'_1_concat, Nat.add_comm 1]
    · rw [if_neg (Ne.symm hsame), if_neg hsame, List.append_nil]

/-- Dropping the token in a slot first makes room for the next one. -/
theorem Numbered.reissue (hnumbered : state.Numbered issued)
    (hindex : index < state.locks.length) (hfree : (state.lockAt index).held = false)
    (slot : String) {generation : Nat}
    (hnext : generation = (state.lockAt index).generation + 1) :
    (((state.drop slot).setLock index ⟨true, generation⟩).put slot ⟨index, generation⟩).Numbered
      (issued ++ [⟨index, generation⟩]) := by
  have hsame : (state.drop slot).lockAt index = state.lockAt index := by
    rw [hnumbered.lockAt_drop, hnumbered.not_issuedIn_of_free hfree slot]
    rfl
  have hempty : slot ∉ (state.drop slot).tokens.map (·.1) := by
    rw [tokens_drop]
    simp
  refine (hnumbered.drop slot).issue ?_ ?_ hempty ?_
  · rwa [length_locks_drop]
  · rwa [hsame]
  · rwa [hsame]

theorem Numbered.clone (hnumbered : state.Numbered issued)
    (hhandle : handle < state.handles.length) :
    Numbered { state with handles := state.handles ++ [state.lockOf handle] } issued where
  handles index hmem := by
    rcases List.mem_append.1 hmem with hmem | hmem
    · exact hnumbered.handles index hmem
    · rw [List.mem_singleton.1 hmem]
      exact hnumbered.lockOf_lt hhandle
  slots := hnumbered.slots
  issuers := hnumbered.issuers
  outstanding := hnumbered.outstanding
  numbers := hnumbered.numbers

theorem Numbered.step (hnumbered : state.Numbered issued) (hnames : action.Names state) :
    (state.step action).2.Numbered (issued ++ (state.issued? action).toList) := by
  rcases hnumbered.step_cases hnames with
    ⟨hnone, hnext | ⟨handle, hhandle, hnext⟩ | ⟨slot, hnext⟩⟩ |
    ⟨handle, slot, generation, hhandle, hfree, hgeneration, hsome, hnext⟩
  · rw [hnone, hnext, Option.toList_none, List.append_nil]
    exact hnumbered
  · rw [hnone, hnext, Option.toList_none, List.append_nil]
    exact hnumbered.clone hhandle
  · rw [hnone, hnext, Option.toList_none, List.append_nil]
    exact hnumbered.drop slot
  · rw [hsome, hnext]
    exact hnumbered.reissue (hnumbered.lockOf_lt hhandle) hfree slot hgeneration

theorem Exclusive.length_locks_step (hexclusive : state.Exclusive) (hnames : action.Names state) :
    (state.step action).2.locks.length = state.locks.length := by
  rcases hexclusive.step_cases hnames with
    ⟨-, hnext | ⟨handle, -, hnext⟩ | ⟨slot, hnext⟩⟩ | ⟨handle, slot, generation, -, -, -, -, hnext⟩
  · rw [hnext]
  · rw [hnext]
  · rw [hnext, length_locks_drop]
  · rw [hnext]
    change ((state.drop slot).setLock _ _).locks.length = _
    rw [length_locks_setLock, length_locks_drop]

theorem numbered_of_reachable (hreachable : Reachable count state issued) :
    state.Numbered issued ∧ state.locks.length = count := by
  induction hreachable with
  | fresh => exact ⟨numbered_fresh count, List.length_replicate⟩
  | step action _ hnames ih =>
    obtain ⟨hnumbered, hlength⟩ := ih
    exact ⟨hnumbered.step hnames, (hnumbered.length_locks_step hnames).trans hlength⟩

/-! ### What every handle sees -/

/-- An attempt is answered busy exactly while the lock is held, and changes nothing then. Otherwise
it puts the next token of the lock into the slot, and frees the lock whose token was there. -/
structure Attempt (state : State) (handle : Nat) (slot : String) : Prop where
  busy_iff : (state.step (.acquire handle slot)).1 = .busy ↔ state.held handle = true
  refused : state.held handle = true → (state.step (.acquire handle slot)).2 = state
  granted : state.held handle = false → ∃ generation,
    (state.step (.acquire handle slot)).1 = .granted generation ∧
    (state.step (.acquire handle slot)).2.token? slot = some ⟨state.lockOf handle, generation⟩ ∧
    ∀ other < state.handles.length, (state.step (.acquire handle slot)).2.held other =
      if state.lockOf other = state.lockOf handle then true
      else if state.issuedIn slot (state.lockOf other) then false else state.held other

/-- The token in the slot is gone from `state` to `next`, and with it the hold on the lock that
issued it; all other tokens and locks are as they were. -/
structure GivesBack (state next : State) (slot : String) (token : Token) : Prop where
  freed : ∀ handle < state.handles.length, state.lockOf handle = token.lock →
    state.held handle = true ∧ next.held handle = false
  others : ∀ handle < state.handles.length, state.lockOf handle ≠ token.lock →
    next.held handle = state.held handle
  tokens : next.tokens = state.tokens.filter (·.1 != slot)

theorem lockOf_drop (state : State) (slot : String) (handle : Nat) :
    (state.drop slot).lockOf handle = state.lockOf handle := by
  rw [lockOf, handles_drop, lockOf]

theorem Exclusive.held_drop (hexclusive : state.Exclusive) (slot : String) (handle : Nat) :
    (state.drop slot).held handle =
      if state.issuedIn slot (state.lockOf handle) then false else state.held handle := by
  rw [held, lockOf_drop, hexclusive.lockAt_drop]
  split <;> rfl

theorem held_put_setLock (hindex : index < state.locks.length) :
    ((state.setLock index lock).put slot token).held handle =
      if state.lockOf handle = index then lock.held else state.held handle := by
  change ((state.setLock index lock).lockAt (state.lockOf handle)).held = _
  rw [lockAt_setLock hindex]
  split <;> rfl

theorem Exclusive.givesBack (hexclusive : state.Exclusive)
    (htoken : state.token? slot = some token) :
    state.GivesBack (state.drop slot) slot token where
  freed handle _ hissuer := by
    have hissued : state.issuedIn slot (state.lockOf handle) = true :=
      issuedIn_eq_true_iff.2 ⟨token, htoken, hissuer.symm⟩
    constructor
    · rw [held, hissuer]
      exact (hexclusive.outstanding_eq htoken).1
    · rw [hexclusive.held_drop, if_pos hissued]
  others handle _ hother := by
    have hforeign : ¬ state.issuedIn slot (state.lockOf handle) = true := by
      simp [issuedIn, htoken, Ne.symm hother]
    rw [hexclusive.held_drop, if_neg hforeign]
  tokens := state.tokens_drop slot

theorem Exclusive.attempt (hexclusive : state.Exclusive) (hhandle : handle < state.handles.length)
    (slot : String) : state.Attempt handle slot := by
  cases hheld : state.held handle with
  | true =>
    have hacquire := acquire_of_held hheld slot
    constructor
    · simp only [step, hacquire, hheld]
    · intro _
      simp only [step, hacquire]
    · intro hfree
      rw [hheld] at hfree
      cases hfree
  | false =>
    have hacquire := hexclusive.acquire_of_free hheld slot
    constructor
    · simp [step, hacquire, hheld]
    · intro hbusy
      rw [hheld] at hbusy
      cases hbusy
    · intro _
      refine ⟨_, by simp only [step, hacquire]; rfl, ?_, fun other hother => ?_⟩
      · simp only [step, hacquire]
        exact List.lookup_cons_self
      · have hindex : state.lockOf handle < (state.drop slot).locks.length := by
          rw [length_locks_drop]
          exact hexclusive.lockOf_lt hhandle
        simp only [step, hacquire]
        rw [held_put_setLock hindex, lockOf_drop, hexclusive.held_drop]

/-- **Exclusivity.** However many locks and handles there are, and whatever is acquired, released
and dropped through them: a lock has one token out while it is held and none while it is free;
whether an attempt is granted depends on that alone; a token that is given back, through whichever
handle or by being dropped, frees the lock that issued it and no other; and the tokens of a lock are
numbered in the order of their issue, from one. -/
theorem exclusive_throughout (hreachable : Reachable count state issued) :
    (∀ handle < state.handles.length,
      (state.outstanding (state.lockOf handle)).length = (state.held handle).toNat) ∧
    (∀ handle < state.handles.length, ∀ slot, state.Attempt handle slot) ∧
    (∀ slot token, state.token? slot = some token →
      state.GivesBack (state.step (.drop slot)).2 slot token ∧
      ∀ handle, state.GivesBack (state.step (.release handle slot)).2 slot token) ∧
    (∀ handle < state.handles.length,
      (state.step (.clone handle)).2.lockOf state.handles.length = state.lockOf handle) ∧
    ∀ index < count, numbers issued index = List.range' 1 (numbers issued index).length := by
  obtain ⟨hnumbered, hlength⟩ := numbered_of_reachable hreachable
  have hexclusive := hnumbered.toExclusive
  refine ⟨fun handle hhandle => ?_, fun handle hhandle => hexclusive.attempt hhandle,
    fun slot token htoken => ?_, fun handle _ => ?_, fun index hindex => ?_⟩
  · exact hexclusive.outstanding _ (hexclusive.lockOf_lt hhandle)
  · exact ⟨hexclusive.givesBack htoken, fun _ => hexclusive.givesBack htoken⟩
  · change (state.handles ++ [state.lockOf handle]).getD state.handles.length 0 = _
    rw [List.getD_eq_getElem?_getD, List.getElem?_concat_length, Option.getD_some]
  · rw [hnumbered.numbers index (hlength ▸ hindex), List.length_range']

/-- The first lock is cloned and tried for through the clone, its token is released through the
second lock, and the next one is dropped for a token of the second lock. -/
def handedOver : List Action :=
  [.acquire 0 "near", .clone 0, .acquire 2 "far", .release 1 "near", .acquire 2 "far",
    .acquire 1 "far"]

theorem reachable_handedOver :
    Reachable 2 ((fresh 2).run handedOver) [⟨0, 1⟩, ⟨0, 2⟩, ⟨1, 1⟩] := by
  have hfresh : Reachable 2 (fresh 2) [] := .fresh
  have hacquired := hfresh.step (.acquire 0 "near") (by decide)
  have hcloned := hacquired.step (.clone 0) (by decide)
  have hrefused := hcloned.step (.acquire 2 "far") (by decide)
  have hreleased := hrefused.step (.release 1 "near") (by decide)
  have hagain := hreleased.step (.acquire 2 "far") (by decide)
  exact hagain.step (.acquire 1 "far") (by decide)

/-- In the end the first lock is free and has issued two tokens, the second is held by its only
one. -/
theorem exclusive_throughout_handedOver :
    Reachable 2 ((fresh 2).run handedOver) [⟨0, 1⟩, ⟨0, 2⟩, ⟨1, 1⟩] ∧
      ((fresh 2).run handedOver).held 2 = false ∧
      ((fresh 2).run handedOver).outstanding 0 = [] ∧
      (((fresh 2).run handedOver).step (.acquire 1 "near")).1 = .busy ∧
      (((fresh 2).run handedOver).step (.release 0 "far")).2.held 1 = false := by
  have hreachable := reachable_handedOver
  have hfree : ((fresh 2).run handedOver).held 2 = false := by decide +kernel
  have hheld : ((fresh 2).run handedOver).held 1 = true := by decide +kernel
  have htoken : ((fresh 2).run handedOver).token? "far" = some ⟨1, 1⟩ := by decide +kernel
  obtain ⟨hone, hattempt, hback, -, -⟩ := exclusive_throughout hreachable
  refine ⟨hreachable, hfree, ?_, ?_, ?_⟩
  · have hnone := hone 2 (by decide +kernel)
    rw [hfree] at hnone
    exact List.eq_nil_of_length_eq_zero hnone
  · exact (hattempt 1 (by decide +kernel) "near").busy_iff.2 hheld
  · exact (((hback "far" ⟨1, 1⟩ htoken).2 0).freed 1 (by decide +kernel) (by decide +kernel)).2

end State
end DuplexAudio.Exclusivity
