import StoryState.Story.Basic

/-!
Snapshots of a script: taking one, at once or scope by scope, and putting one in the place of all
states.
-/

namespace StoryState.Script

/-! ### Taking -/

/-- The state of a scope, read while its lock is held. -/
def lockedState (scope : Scope) : ScriptTask (Option State) :=
  holding scope do return (← get).story.state? scope

/-- The states of characters, one after another. -/
def characterStates : List String → ScriptTask (Entries State)
  | [] => pure []
  | id :: ids => do
    let state ← lockedState (.character id)
    let rest ← characterStates ids
    return (state.map fun s => (id, s)).toList ++ rest

/-- The states of all scopes, each read while its lock is held. -/
def takeSnapshot : ScriptTask Snapshot := do
  let global ← lockedState .global
  let characters ← characterStates (← get).story.openCharacters
  return ⟨global.getD {}, characters⟩

/-! ### Putting back -/

/-- Opens a scope with a state and stores it. -/
def replaceState (scope : Scope) (state : State) : ScriptTask Unit :=
  holding scope do
    modify (openWith scope state)
    persist scope

/-- Opens characters with their states. -/
def replaceStates : Entries State → ScriptTask Unit
  | [] => pure ()
  | (id, state) :: states => do
    replaceState (.character id) state
    replaceStates states

/-- Closes the characters that a snapshot does not hold. -/
def closeOthers (s : Snapshot) (script : Script) : Script :=
  let gone := script.story.openCharacters.filter fun id => !Entries.has id s.characters
  { script with story := gone.foldl (fun story id => story.close id) script.story }

/-- Puts a snapshot in the place of all states and stores it. -/
def putSnapshot (s : Snapshot) : ScriptTask Unit := do
  replaceState .global s.global
  modify (closeOthers s)
  replaceStates s.characters

end StoryState.Script
