import StoryState.Entries
import StoryState.Text.Basic
import StoryState.Text.Percent

/-!
Routes: which request goes where. A part of a path that names a script or a character is not empty.
-/

namespace StoryState

/-- What a request asks for. -/
inductive Route where
  | health
  | process (script : String)
  | macros (script : String)
  | changes (script : String)
  | registrations (script : String)
  | preview (script : String)
  | state (script : String)
  | summary (script : String)
  | takeSnapshot (script : String)
  | putSnapshot (script : String)
  | openCharacter (script character : String)
  | configure (script : String)
  | renameTags (script : String)
  | addResponse (script : String)
  | addMessage
  | drop (script : String)
deriving DecidableEq, Repr

namespace Route

/-- The routes of a script's own path, by method. -/
def ofScript (script : String) : List String → List (String × Route)
  | [] => [("DELETE", .drop script)]
  | ["process"] => [("POST", .process script)]
  | ["macros"] => [("POST", .macros script)]
  | ["commands"] => [("POST", .changes script)]
  | ["register"] => [("POST", .registrations script)]
  | ["preview"] => [("POST", .preview script)]
  | ["variables"] => [("GET", .state script)]
  | ["variables", "summary"] => [("GET", .summary script)]
  | ["snapshot"] => [("GET", .takeSnapshot script), ("POST", .putSnapshot script)]
  | ["characters", character, "init"] =>
    if character = "" then [] else [("POST", .openCharacter script character)]
  | ["config"] => [("PUT", .configure script)]
  | ["tags"] => [("PUT", .renameTags script)]
  | ["history"] => [("POST", .addResponse script)]
  | _ => []

/-- The routes of a path, by method. -/
def ofParts : List String → List (String × Route)
  | ["", "health"] => [("GET", .health)]
  | ["", "chats", "messages"] => [("POST", .addMessage)]
  | "" :: "scripts" :: script :: rest => if script = "" then [] else ofScript script rest
  | _ => []

/-- Why a request goes nowhere. -/
inductive Miss where
  | noPath
  | noMethod
deriving DecidableEq, Repr

/-- The parts of a path without those that only lead around. -/
def plainParts (parts : List (List Char)) : List (List Char) :=
  let step (out : List (List Char)) (part : List Char) : List (List Char) :=
    if part = ['.'] then out
    else if part = ['.', '.'] then (if out = [[]] then out else out.dropLast)
    else out ++ [part]
  parts.foldl step []

/-- The parts of a path, in which bytes may be written with percent signs. -/
def parts (path : String) : List String :=
  let plain := Text.joinWith ['/'] (plainParts (Text.splitOn '/' path.toList))
  (Text.splitOn '/' (Text.percentDecode plain)).map String.ofList

/-- Where a request goes. -/
def find (method path : String) : Except Miss Route :=
  match ofParts (parts path) with
  | [] => .error .noPath
  | routes =>
    match routes.lookup method with
    | some route => .ok route
    | none => .error .noMethod

end Route

end StoryState
