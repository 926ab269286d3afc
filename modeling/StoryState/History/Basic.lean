import StoryState.State.Payload
import StoryState.Macro.Basic
import StoryState.Text.Blank

/-!
Histories: what a script has told so far and what was said in its chats, and how the entries of
either are read, whatever their shape.
-/

namespace StoryState

open StoryState.Text

/-! ### Messages -/

/-- Who speaks. -/
inductive Role where
  | system
  | user
  | assistant
deriving DecidableEq, Repr

/-- The name of a role. -/
def Role.name : Role → String
  | .system => "system"
  | .user => "user"
  | .assistant => "assistant"

/-- The role of a name. -/
def Role.ofName? (s : String) : Option Role := [Role.system, .user, .assistant].find? (·.name = s)

/-- A message of a chat. -/
structure Message where
  role : Role
  content : String
  metadata : Entries Value := []

/-- The record of a message. -/
def Message.toValue (m : Message) : Value :=
  .object [("role", .text m.role.name), ("content", .text m.content),
    ("metadata", .object m.metadata)]

/-- The first of a message's parts, if it has any. -/
def firstPart? (parts : Value) : Except Fault (Option Value) :=
  if !parts.truthy then .ok none
  else
    match parts with
    | .list (part :: _) => .ok (some part)
    | .text s => .ok ((s.toList.head?).map fun c => .text (String.ofList [c]))
    | .object _ => .error (.missingField "0")
    | v => .error (.noParts v.typeName)

/-- The text of a record of a message: its content, the text of its first part, or its text. -/
def messageText (v : Value) : Except Fault String := do
  match ← v.fieldOrNull "content" with
  | .text content => return content
  | _ =>
    let part ← firstPart? (← v.fieldOrNull "parts")
    match (part.bind Value.fields?).bind (Entries.get? "text") with
    | some (.text content) => return content
    | _ => return ((← v.fieldOrNull "text").text?).getD ""

/-- The message of a record; an unknown role counts as the assistant's. -/
def Message.ofValue (v : Value) : Except Fault Message := do
  let role := ((← v.fieldOrNull "role").text?.bind Role.ofName?).getD .assistant
  let content ← messageText v
  let metadata := (← v.fieldOrNull "metadata").ifTruthy.getD (.object [])
  return ⟨role, content, ← metadata.toEntries⟩

/-! ### Plots -/

/-- The content of the first page of a record, if it has one. -/
def firstPage? (fields : Entries Value) : Option String :=
  match Entries.get? "pages" fields with
  | some (.list (page :: _)) =>
    match page.fields?.bind (Entries.get? "content") with
    | some (.text content) => if content = "" then none else some content
    | _ => none
  | _ => none

/-- The fields that may hold a plot, the likelier first. -/
def plotFields : List String := ["plotContent", "content", "story", "narrative", "text"]

/-- The text of a field that is a text and not empty. -/
def filledField? (fields : Entries Value) (name : String) : Option String :=
  match Entries.get? name fields with
  | some (.text s) => if s = "" then none else some s
  | _ => none

/-- The first text among values that is not blank. -/
def firstText? (values : List Value) : Option String :=
  values.findSome? fun
    | .text s => if Text.strip s.toList = [] then none else some s
    | _ => none

/-- The plot that a response tells: a text itself; of a record the first page, a usual field, or the
first text in it. -/
def plotOf : Value → String
  | .text s => s
  | .object fields =>
    ((firstPage? fields).or ((plotFields.findSome? (filledField? fields)).or
      (firstText? (Entries.values fields)))).getD ""
  | _ => ""

/-! ### Histories -/

/-- Where the entries of feeds come from. -/
inductive History where
  /-- Responses of scripts and messages of chats, kept by id. -/
  | kept (scripts : Entries (List Value)) (chats : Entries (List Message))
  /-- Answers by id in any shape, whole however many entries are asked for. -/
  | given (scripts chats : Entries Value)
  /-- A source that fails. -/
  | broken

namespace History

/-- The history without entries. -/
def empty : History := .kept [] []

/-- Adds a response of a script. -/
def addResponse (id : String) (response : Value) : History → History
  | .kept scripts chats =>
    .kept (scripts.put id ((Entries.get? id scripts).getD [] ++ [response])) chats
  | h => h

/-- Adds a message of a chat. -/
def addMessage (id : String) (m : Message) : History → History
  | .kept scripts chats => .kept scripts (chats.put id ((Entries.get? id chats).getD [] ++ [m]))
  | h => h

/-- Forgets the entries of one id, or all. -/
def clear (id : Option String) : History → History
  | .kept scripts chats =>
    match id with
    | none => .kept [] []
    | some id => .kept (scripts.erase id) (chats.erase id)
  | h => h

end History

end StoryState
