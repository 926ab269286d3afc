import StoryState.Directive.Tag
import StoryState.Scope
import StoryState.State.Payload
import StoryState.Story.Store
import StoryState.Task.Basic

/-!
The story of one script: the states of its scopes as they are in memory, and the store that keeps
them. What is done to a scope is done while its lock is held; only reading macros does without.
-/

namespace StoryState

/-- The state of a scope in memory. -/
structure Cell where
  state : State := {}
  /-- Whether the state has been opened, and not closed since. -/
  isOpen : Bool := false
  /-- Whether the state has changed since it was stored. -/
  isDirty : Bool := false

/-- The states of a script in memory. -/
structure Story where
  scriptId : Option String
  names : TagNames := .standard
  global : Cell := {}
  /-- The cells of characters, in the order in which they were opened. -/
  characters : Entries Cell := []

namespace Story

/-- The cell of a scope. -/
def cell (scope : Scope) (s : Story) : Cell :=
  match scope with
  | .global => s.global
  | .character id => (Entries.get? id s.characters).getD {}

/-- Sets the cell of a scope. -/
def setCell (scope : Scope) (c : Cell) (s : Story) : Story :=
  match scope with
  | .global => { s with global := c }
  | .character id => { s with characters := s.characters.put id c }

/-- Opens a scope with a state. A character that was not open goes to the end. -/
def openWith (scope : Scope) (state : State) (s : Story) : Story :=
  let c := s.cell scope
  let s :=
    match scope with
    | .character id => if c.isOpen then s else { s with characters := s.characters.erase id }
    | .global => s
  s.setCell scope { c with state, isOpen := true }

/-- Closes the scope of a character. Whoever works on its state still can. -/
def close (id : String) (s : Story) : Story :=
  s.setCell (.character id) { s.cell (.character id) with isOpen := false, isDirty := false }

/-- The state of a scope, if it can be read. The global one always can. -/
def state? (scope : Scope) (s : Story) : Option State :=
  match scope with
  | .global => some s.global.state
  | .character _ => if (s.cell scope).isOpen then some (s.cell scope).state else none

/-- The characters that are open. -/
def openCharacters (s : Story) : List String :=
  (s.characters.filter (·.2.isOpen)).map (·.1)

/-- The scopes that are open. -/
def openScopes (s : Story) : List Scope :=
  (if s.global.isOpen then [.global] else []) ++ s.openCharacters.map .character

/-- The scopes whose states have changed since they were stored. -/
def dirtyScopes (s : Story) : List Scope :=
  (if s.global.isDirty then [.global] else []) ++
    (s.characters.filter (·.2.isDirty)).map fun (id, _) => .character id

/-- The states of all scopes. -/
def snapshot (s : Story) : Snapshot :=
  ⟨s.global.state, (s.characters.filter (·.2.isOpen)).map fun (id, c) => (id, c.state)⟩

/-- Whose feed a macro of a scope means unless it says so. -/
def defaultId (scope : Scope) (s : Story) : Option String :=
  match scope with
  | .global | .character "" => s.scriptId
  | .character id => some id

end Story

/-- A script: its story in memory and its store. -/
structure Script where
  story : Story
  store : Store := {}

/-- A task on a script; its locks go by the names of scopes' locks. -/
abbrev ScriptTask := Task String Script

namespace Script

/-- Sets the state of a scope. -/
def setState (scope : Scope) (state : State) (s : Script) : Script :=
  { s with story := s.story.setCell scope { s.story.cell scope with state } }

/-- Marks a scope as changed since it was stored, or not. -/
def setDirty (scope : Scope) (dirty : Bool) (s : Script) : Script :=
  { s with story := s.story.setCell scope { s.story.cell scope with isDirty := dirty } }

/-! ### Loading and storing -/

/-- The payload under a key. -/
def loadPayload (key : String) : ScriptTask (Option ByteArray) := do
  .rests (← get).store.loadRests
  .ofExcept ((← get).store.load key)

/-- Saves a payload under a key. -/
def savePayload (key : String) (payload : ByteArray) : ScriptTask Unit := do
  if (← get).store.refuses key then throw (.storage key)
  .rests (← get).store.saveRests
  modify fun s => { s with store := s.store.save key payload }

/-- The state in a payload, if it can be read. -/
def readPayload (payload : ByteArray) : Option State := (State.ofBytes payload).toOption

/-- Whether a payload that cannot be read for this fault is passed over. -/
def isPassedOver (e : Fault) : Bool :=
  match e.family with
  | .value | .key | .kind | .member => true
  | .other => false

/-- The state in a payload, or nothing if the payload is passed over. -/
def recoverState (payload : ByteArray) : Except Fault (Option State) :=
  match State.ofBytes payload with
  | .ok state => .ok (some state)
  | .error e => if isPassedOver e then .ok none else .error e

/-- The stored state of a scope, unless there is none that can be read. -/
def loadState (scope : Scope) : ScriptTask (Option State) := do
  match ← loadPayload scope.storageKey with
  | none => return none
  | some payload => .ofExcept (recoverState payload)

/-- Marks a scope as stored. A character that has been closed stays as it is. -/
def markStored (scope : Scope) (s : Script) : Script :=
  if (s.story.cell scope).isDirty then s.setDirty scope false else s

/-- Stores the state of a scope. -/
def persist (scope : Scope) : ScriptTask Unit := do
  let payload ← .ofExcept ((← get).story.cell scope).state.payload
  savePayload scope.storageKey payload.toUTF8
  modify (markStored scope)

/-- Opens a scope with a state. -/
def openWith (scope : Scope) (state : State) (s : Script) : Script :=
  { s with story := s.story.openWith scope state }

/-- Opens a scope: from a configuration, else with its stored state, else with nothing. What is not
the stored state is stored at once. -/
def initialise (scope : Scope) (config : Option (Except Fault State)) : ScriptTask Unit := do
  match config with
  | some config => do
    let state ← .ofExcept config
    modify (openWith scope state)
    persist scope
  | none => do
    match ← loadState scope with
    | some state => modify (openWith scope state)
    | none => do
      modify (openWith scope {})
      persist scope

/-- Opens a scope unless it is open. -/
def ensureOpen (scope : Scope) : ScriptTask Unit := do
  if !((← get).story.cell scope).isOpen then initialise scope none

/-- Runs a task while the lock of a scope is held. -/
def holding {α : Type} (scope : Scope) (t : ScriptTask α) : ScriptTask α :=
  Task.holding scope.lockName t

/-- Runs a task on a scope that is open, while its lock is held. -/
def onOpen {α : Type} (scope : Scope) (t : ScriptTask α) : ScriptTask α :=
  holding scope do
    ensureOpen scope
    t

/-- Runs a task; a fault leaves the answer of another. -/
def orElse {α : Type} (t : ScriptTask α) (fallback : α) : ScriptTask α := tryCatch t fun _ => pure fallback

end Script

end StoryState
