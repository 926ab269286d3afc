/-!
Lines at locks. Everyone who asks for a lock joins its line; the first in the line holds the lock,
and a lock that nobody asks for has no line.
-/

namespace StoryState

/-- The lines at the locks `κ`, of members `ι`. -/
abbrev Lines (κ ι : Type) := List (κ × List ι)

namespace Lines

variable {κ ι : Type} [DecidableEq κ]

/-- The line at a lock. -/
def line (key : κ) : Lines κ ι → List ι
  | [] => []
  | (k, members) :: ls => if k = key then members else line key ls

/-- Sets the line at a lock; an empty line vanishes. -/
def setLine (key : κ) (members : List ι) : Lines κ ι → Lines κ ι
  | [] => if members.isEmpty then [] else [(key, members)]
  | (k, old) :: ls =>
    if k = key then (if members.isEmpty then ls else (k, members) :: ls)
    else (k, old) :: setLine key members ls

/-- Joins the line at a lock; answers whether the lock was free. -/
def join (key : κ) (i : ι) (ls : Lines κ ι) : Lines κ ι × Bool :=
  (ls.setLine key (ls.line key ++ [i]), (ls.line key).isEmpty)

/-- The holder leaves a lock; answers who holds it next. -/
def leave (key : κ) (ls : Lines κ ι) : Lines κ ι × Option ι :=
  (ls.setLine key (ls.line key).tail, (ls.line key).tail.head?)

/-- Whether a lock is held. -/
def isHeld (key : κ) (ls : Lines κ ι) : Bool := !(ls.line key).isEmpty

end Lines

end StoryState
