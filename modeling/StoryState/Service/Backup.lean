import StoryState.Service.Basic
import StoryState.Service.Clock
import StoryState.Storage.Gateway

/-!
Backups of snapshots: for each script the newest ones, as files whose names begin with the script and
end with the time.
-/

namespace StoryState

/-- Where backups go, how many of them are kept for a script, and the clock that stamps them. -/
structure Backups where
  directory : String := "snapshots"
  limit : Int := 24
  clock : Clock := {}

namespace Backups

/-- What the names of a script's backups begin with. -/
def lead (id : String) : String := Gateway.safeName id ++ "_"

/-- The name of a script's backup at a time. -/
def name (id : String) (time : Int) : String := lead id ++ Clock.stamp time ++ Files.ending

/-- Whether a name looks like that of a script's backup. -/
def isBackupOf (id name : String) : Bool :=
  (Text.dropLead? (lead id).toList name.toList).isSome && (Files.dropEnd? Files.ending name).isSome

/-- The names of a script's backups, the newest first. -/
def list (b : Backups) (id : String) (fs : Files) : List String :=
  (((fs.list? b.directory).getD []).filter (isBackupOf id)).reverse

/-- What is left of a list when the first `n` are taken away, or all but the last `-n`. -/
def beyond {α : Type} (n : Int) (items : List α) : List α :=
  match n with
  | .ofNat k => items.drop k
  | .negSucc k => items.drop (items.length - (k + 1))

/-- The path of a backup. -/
def path (b : Backups) (name : String) : String := Files.join b.directory name

/-- Removes a backup. -/
def removeOne (b : Backups) (fs : Files) (name : String) : Files :=
  match fs.place (b.path name) with
  | .ok place => fs.remove place
  | .error _ => fs

/-- Removes the backups of a script that are more than the limit. -/
def prune (b : Backups) (id : String) (fs : Files) : Files :=
  let names := b.list id fs
  if (names.length : Int) > b.limit then (beyond b.limit names).foldl b.removeOne fs else fs

/-- The document in a script's newest backup. -/
def latest (b : Backups) (id : String) (fs : Files) : Except Fault Value :=
  match b.list id fs with
  | [] => .ok .null
  | name :: _ => do Json.read (← fs.readText (b.path name))

/-- Writes a backup. A snapshot that cannot be written leaves a draft. -/
def write (b : Backups) (id : String) (time : Int) (s : Snapshot) (fs : Files) :
    Except Fault Unit × Files :=
  match fs.writeText (b.path (name id time)) (Json.draft .pretty s.toValue) with
  | .error e => (.error (.file e), fs)
  | .ok fs => ((Json.render .pretty s.toValue).map fun _ => (), fs)

/-- Backs up one story; answers whether that went well. -/
def backUp (b : Backups) (time : Int) (id : String) (number : Nat) : ServiceTask Bool :=
  tryCatch (do
    let snapshot ← Service.onStory number Script.takeSnapshot
    .yield
    let s ← get
    let (outcome, files) := b.write id time snapshot s.files
    set { s with files }
    .ofExcept outcome
    modify fun s => { s with files := b.prune id s.files }
    return true) fun _ => return false

/-- Backs up some stories; answers how many, and the clock. -/
def backUpEach (b : Backups) : List (String × Nat) → ServiceTask (Nat × Clock)
  | [] => return (0, b.clock)
  | (id, number) :: more => do
    let clock := b.clock.next
    let done ← b.backUp clock.now id number
    let (count, clock) ← backUpEach { b with clock } more
    return ((if done then 1 else 0) + count, clock)

/-- Backs up all open stories; answers how many, and the clock. -/
def backUpAll (b : Backups) : ServiceTask (Nat × Clock) := do
  let s ← get
  match s.files.makeDirectory b.directory with
  | (some _, files) => do
    set { s with files }
    return (0, b.clock)
  | (none, files) => do
    set { s with files }
    b.backUpEach s.openStories

end Backups

end StoryState
