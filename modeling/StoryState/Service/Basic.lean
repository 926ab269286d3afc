import StoryState.Files.Config
import StoryState.Story.Batch
import StoryState.Story.Direct
import StoryState.Story.Snapshot
import StoryState.System

/-!
The stories of many scripts. A script's story is opened when it is first asked for, by one task only,
from the script's configuration or its stored state; it stays open until it is dropped.
-/

namespace StoryState

/-- The stories of many scripts. -/
structure Service where
  /-- All stories that were ever opened, by number. -/
  stories : List Story := []
  /-- The numbers of the stories that are open, by script. -/
  openStories : Entries Nat := []
  /-- The stores, by script. -/
  stores : Entries Store := []
  /-- The names of tags in new stories. -/
  names : TagNames := .standard
  history : History := .empty
  files : Files := {}
  /-- The directory of the configurations. -/
  configs : String := "scripts"
  /-- Why configurations cannot be read, if they cannot. -/
  configFault : Option Fault := none

/-- The locks of a service: one for the opening of each script, and those of each story. -/
inductive ServiceLock where
  | opening (scriptId : String)
  | scope (number : Nat) (name : String)
deriving DecidableEq, Repr

/-- A task on a service. -/
abbrev ServiceTask := Task ServiceLock Service

namespace Service

/-! ### Stories -/

/-- The story of a number. -/
def story (number : Nat) (s : Service) : Story := (s.stories[number]?).getD { scriptId := none }

/-- The story of a number, and the store of its script. -/
def script (number : Nat) (s : Service) : Script :=
  ⟨s.story number, (Entries.get? ((s.story number).scriptId.getD "") s.stores).getD {}⟩

/-- Sets the story of a number, and the store of its script. -/
def setScript (number : Nat) (script : Script) (s : Service) : Service :=
  { s with
    stories := s.stories.set number script.story
    stores := s.stores.put (script.story.scriptId.getD "") script.store }

/-- A task on one story. -/
def onStory {α : Type} (number : Nat) (t : ScriptTask α) : ServiceTask α :=
  t.within (.scope number) (script number) (setScript number)

/-- Makes the store of a script unless there is one. -/
def addStore (id : String) (s : Service) : Service :=
  { s with stores := s.stores.put id ((Entries.get? id s.stores).getD {}) }

/-! ### Opening and dropping -/

/-- The configuration of a script, if it has one that says anything. -/
def readConfig (id : String) : ServiceTask (Option (Except Fault State)) := do
  .yield
  let s ← get
  match s.configFault with
  | some e => throw e
  | none =>
    match Config.load s.configs id s.files with
    | none | some [] => return none
    | some fields => return some (State.ofValue (.object fields))

/-- Adds a story that nobody has opened before; answers its number. -/
def addStory (id : String) : ServiceTask Nat := do
  let s ← get
  let number := s.stories.length
  set (({ s with stories := s.stories ++ [{ scriptId := some id, names := s.names }] } : Service).addStore id)
  return number

/-- Opens the story of a script and registers the variables that every script has. -/
def openNew (id : String) : ServiceTask Nat := do
  let number ← addStory id
  let config ← readConfig id
  discard (onStory number (Script.tryOpen .global config))
  discard (onStory number (Script.tryRegistrations .global systemDirective))
  modify fun s => { s with openStories := s.openStories.put id number }
  return number

/-- The story of a script, which is opened if it is not open. -/
def find (id : String) : ServiceTask Nat := do
  match Entries.get? id (← get).openStories with
  | some number => return number
  | none =>
    Task.holding (.opening id) do
      match Entries.get? id (← get).openStories with
      | some number => return number
      | none => openNew id

/-- Runs a task on the story of a script. -/
def onScript {α : Type} (id : String) (t : ScriptTask α) : ServiceTask α := do
  onStory (← find id) t

/-- Drops the story of a script; answers whether it was open. -/
def drop (id : String) : ServiceTask Bool := do
  let s ← get
  set { s with openStories := s.openStories.erase id }
  return Entries.has id s.openStories

/-- Drops the story of a script after storing what has changed, as far as that can be stored;
answers whether it was open. -/
def retire (id : String) : ServiceTask Bool := do
  match Entries.get? id (← get).openStories with
  | none => return false
  | some number => do
    discard (onStory number Script.flush).outcome
    drop id

/-- Drops all stories. -/
def dropAll : ServiceTask Unit := modify fun s => { s with openStories := [] }

/-- Writes the configuration of a script. -/
def saveConfig (id : String) (config : Value) : ServiceTask Unit := do
  .yield
  let s ← get
  let (outcome, files) := Config.save s.configs id config s.files
  set { s with files }
  .ofExcept outcome

/-- Gives a script another configuration and opens it anew; answers whether all went well. -/
def reconfigure (id : String) (config : Value) : ServiceTask Bool :=
  tryCatch (do
    saveConfig id config
    discard (retire id)
    discard (find id)
    return true) fun _ => return false

/-- Opens a character of a script; answers whether it could be opened and stored. -/
def openCharacter (id character : String) (config : Value) : ServiceTask Bool :=
  onScript id (Script.tryOpen (.character character) (Script.configOf config))

/-- Stores what has changed in some stories, as far as it can be stored. -/
def flushStories : List Nat → ServiceTask Unit
  | [] => pure ()
  | number :: numbers => do
    discard (onStory number Script.flush).outcome
    flushStories numbers

/-- Stores what has changed in the open stories, as far as it can be stored. -/
def flushOpen : ServiceTask Unit := do flushStories (Entries.values (← get).openStories)

end Service

end StoryState
