import StoryState.Lock.Lines

/-!
Sessions: each asks for a lock, stays inside once it holds it, and goes when it is told to. All
locks can be forgotten at once; then those who hold or await one keep to it, and newcomers find it
free.
-/

namespace StoryState

/-- A session, which may fail when it is told to go. -/
structure Session where
  id : String
  fails : Bool := false
deriving DecidableEq, Repr

/-- What a session does. -/
inductive SessionEvent where
  | enter (id : String)
  | leave (id : String)
  | fail (id : String)
deriving DecidableEq, Repr

/-- The line that reports an event. -/
def SessionEvent.line : SessionEvent → String
  | .enter id => id ++ ":enter"
  | .leave id => id ++ ":exit"
  | .fail id => id ++ ":boom"

/-- How a session goes. -/
def Session.going (s : Session) : SessionEvent := if s.fails then .fail s.id else .leave s.id

/-- The sessions at all locks. A lock is named together with the number of times that all locks had
been forgotten when it was first asked for. -/
structure Sessions where
  epoch : Nat := 0
  lines : Lines (Nat × String) Session := []
  /-- Who has been told to go. -/
  told : List String := []

namespace Sessions

/-- A line whose first session has just got the lock: those who were told to go enter and go. -/
def drain (told : List String) : List Session → List SessionEvent × List Session
  | [] => ([], [])
  | s :: rest =>
    if told.contains s.id then
      let (events, left) := drain told rest
      (.enter s.id :: s.going :: events, left)
    else ([.enter s.id], s :: rest)

/-- A session asks for a lock. -/
def ask (key : String) (s : Session) (all : Sessions) : List SessionEvent × Sessions :=
  let (lines, free) := all.lines.join (all.epoch, key) s
  (if free then [.enter s.id] else [], { all with lines })

/-- The line in which a session stands. -/
def lineOf? (id : String) (all : Sessions) : Option ((Nat × String) × List Session) :=
  all.lines.find? fun (_, members) => members.any (·.id = id)

/-- Tells a session to go, which it does as soon as it is inside. -/
def tell (id : String) (all : Sessions) : List SessionEvent × Sessions :=
  match all.lineOf? id with
  | none | some (_, []) => ([], all)
  | some (key, s :: rest) =>
    if s.id = id then
      let (events, left) := drain all.told rest
      (s.going :: events, { all with lines := all.lines.setLine key left })
    else ([], { all with told := all.told ++ [id] })

/-- Forgets all locks. -/
def forget (all : Sessions) : Sessions := { all with epoch := all.epoch + 1 }

/-- Whether a lock is held. -/
def isHeld (key : String) (all : Sessions) : Bool := all.lines.isHeld (all.epoch, key)

/-- How many locks are held. -/
def heldCount (all : Sessions) : Nat := (all.lines.filter (·.1.1 = all.epoch)).length

end Sessions

end StoryState
