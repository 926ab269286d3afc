import StoryState.Files.Basic
import StoryState.Number.Basic

/-!
Watching the configurations of scripts: when the file of a script changes, the script is to be
opened anew, but not more than once in a short while.
-/

namespace StoryState

/-- When each path was last acted on. -/
structure Watcher where
  last : Entries Number := []

namespace Watcher

/-- The seconds that must have passed before the same path is acted on again. -/
def pause : Nat := 2

/-- Whether a span of time is longer than the pause. -/
def isLong : Number → Bool
  | .int n => n > pause
  | .float x => x > pause.toFloat

/-- The script that a path belongs to. -/
def scriptOf? (path : String) : Option String :=
  let name := Files.baseName path
  if (Files.dropEnd? Files.ending name).isSome then some (Files.stem name) else none

/-- A path has changed; answers which script is to be opened anew. -/
def notice (path : String) (now : Number) (w : Watcher) : Except Fault (Option String × Watcher) :=
  match scriptOf? path with
  | none => .ok (none, w)
  | some id => do
    let span ← Number.sub now ((Entries.get? path w.last).getD (.int 0))
    if isLong span then return (some id, { last := w.last.put path now })
    else return (none, w)

end Watcher

end StoryState
