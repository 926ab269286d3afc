import StoryState.Http.Route
import StoryState.Service.Response

/-!
The service over HTTP: what a request must hold, what is done for it, and how what became of it is
told.
-/

namespace StoryState.Http

/-- What comes with a request. -/
inductive Content where
  | absent
  /-- A text that should be a document. -/
  | raw (text : String)
  | document (v : Value)

/-- A request. -/
structure Request where
  method : String
  path : String
  characterId : Option String := none
  content : Content := .absent

/-- What a reply holds. -/
inductive Body where
  | document (v : Value)
  | text (s : String)
  /-- The complaints about a request that does not hold what it must. -/
  | complaints

/-- A reply. -/
structure Reply where
  status : Nat
  body : Body

namespace Reply

/-- A reply with a document. -/
def ok (v : Value) : Reply := ⟨200, .document v⟩

/-- A reply that says what is wrong. -/
def detail (status : Nat) (s : String) : Reply := ⟨status, .document (.object [("detail", .text s)])⟩

/-- The reply to a request that does not hold what it must. -/
def unprocessable : Reply := ⟨422, .complaints⟩

/-- The reply when nothing better can be said. -/
def failed : Reply := ⟨500, .text "Internal Server Error"⟩

/-- The reply that tells of a fault. -/
def ofFault : Fault → Reply
  | .scopeNotOpen id => detail 404 (Fault.scopeNotOpen id).message
  | e =>
    match e with
    | .noTable _ | .missingCell .. | .storage _ | .disk => detail 400 e.message
    | _ => detail 500 "服务器内部错误。"

/-- The reply that says that something was done. -/
def success (more : Entries Value := []) : Reply :=
  ok (.object (("status", .text "success") :: more))

end Reply

/-! ### What requests hold -/

/-- The fields of a request's document, or the reply when there is none. -/
def Content.fields : Content → Except Reply (Entries Value)
  | .absent => .error .unprocessable
  | .document (.object fields) => .ok fields
  | .document _ => .error .unprocessable
  | .raw text =>
    let s := text.toList
    let s := if s.head? = some '\ufeff' then s.tail else s
    match Json.read (String.ofList s) with
    | .ok (.object fields) => .ok fields
    | .ok _ | .error (.notJson _) => .error .unprocessable
    | .error _ => .error (.detail 400 "There was an error parsing the body")

/-- A field that must be there. -/
def required (fields : Entries Value) (name : String) : Except Reply Value :=
  match Entries.get? name fields with
  | some v => .ok v
  | none => .error .unprocessable

/-- A field that must be a text. -/
def requiredText (fields : Entries Value) (name : String) : Except Reply String := do
  match ← required fields name with
  | .text s => return s
  | _ => throw .unprocessable

/-- A field that must be an object. -/
def requiredObject (fields : Entries Value) (name : String) : Except Reply (Entries Value) := do
  match ← required fields name with
  | .object fields => return fields
  | _ => throw .unprocessable

/-- A field that must be a text if it is there. -/
def optionalText (fields : Entries Value) (name : String) : Except Reply (Option String) :=
  match Entries.get? name fields with
  | none | some .null => .ok none
  | some (.text s) => .ok (some s)
  | some _ => .error .unprocessable

/-- A field that must be an object if it is there. -/
def optionalObject (fields : Entries Value) (name : String) : Except Reply Value :=
  match Entries.get? name fields with
  | none | some .null => .ok .null
  | some (.object fields) => .ok (.object fields)
  | some _ => .error .unprocessable

/-- A text and the scope that it is for. -/
def textAndScope (fields : Entries Value) : Except Reply (String × Scope) := do
  return (← requiredText fields "text", Scope.ofId (← optionalText fields "character_id"))

/-- New names of tags. -/
def overrides (fields : Entries Value) : Except Reply (Entries Value) := do
  let names ← requiredObject fields "overrides"
  if names.all fun (_, v) => v.text?.isSome then return names else throw .unprocessable

/-- A message and the chat that it belongs to. -/
def message (fields : Entries Value) : Except Reply (String × Message) := do
  let chat ← requiredText fields "chat_id"
  let role ← requiredText fields "role"
  let content ← requiredText fields "content"
  match Role.ofName? role with
  | some role => return (chat, ⟨role, content, []⟩)
  | none => throw .unprocessable

/-! ### What is done -/

/-- A task whose faults are told. -/
def told (t : ServiceTask Reply) : ServiceTask Reply := tryCatch t fun e => return .ofFault e

/-- A task whose faults are not told. -/
def untold (t : ServiceTask Reply) : ServiceTask Reply := tryCatch t fun _ => return .failed

/-- Adds to the history, if it is one that can be added to. -/
def addHistory (f : History → History) : ServiceTask Reply := do
  let s ← get
  match s.history with
  | .kept .. =>
    set { s with history := f s.history }
    return .success
  | _ => return .failed

/-- Drops a script after storing what has changed. -/
def dropScript (id : String) : ServiceTask Reply := do
  match Entries.get? id (← get).openStories with
  | none => return .detail 404 "该剧本没有已加载的变量管理器。"
  | some number =>
    told do
      discard (Service.onStory number Script.flush)
      discard (Service.drop id)
      return .success

/-- Puts a snapshot in the place of a script's states. -/
def putSnapshot (id : String) (fields : Entries Value) : ServiceTask Reply := do
  let number ← Service.find id
  let snapshot ← .ofExcept (Snapshot.ofValue (.object fields))
  Service.onStory number (Script.putSnapshot snapshot)
  let ids := (Entries.keys snapshot.characters).mergeSort (· ≤ ·)
  return .success [("characters", .list (ids.map .text))]

/-- Whether something was done, or what to say if it was not. -/
def done (ok : Bool) (otherwise : String) (more : Entries Value := []) : Reply :=
  if ok then .success more else .detail 400 otherwise

/-- What is done for a request of a route. -/
def serve (characterId : Option String) (content : Content) (route : Route) :
    Except Reply (ServiceTask Reply) := do
  let scope := Scope.ofId characterId
  match route with
  | .health =>
    return do
      let ids := Entries.keys (← get).openStories
      return .ok (.object [("status", .text "ok"), ("initialized_scripts", .list (ids.map .text))])
  | .process id => do
    let (text, scope) ← textAndScope (← content.fields)
    return untold do return .ok (← Service.process id scope text).toValue
  | .macros id => do
    let (text, scope) ← textAndScope (← content.fields)
    return told do return .ok (.object [("text", .text (← Service.renderMacros id scope text))])
  | .changes id => do
    let (text, scope) ← textAndScope (← content.fields)
    return told do return .ok (← Service.onScript id (Script.applyChanges scope text)).toValue
  | .registrations id => do
    let (text, scope) ← textAndScope (← content.fields)
    return told do return .ok (← Service.onScript id (Script.applyRegistrations scope text)).toValue
  | .preview id => do
    let (text, _) ← textAndScope (← content.fields)
    return untold do return .ok (← Service.preview id text).toValue
  | .state id =>
    return do
      match ← Service.describe id scope with
      | some v => return .ok v
      | none => return .detail 404 "未找到该作用域的变量数据。"
  | .summary id =>
    return told do return .ok (.object [("summary", .text (← Service.summary id scope))])
  | .takeSnapshot id =>
    return told do
      let number ← Service.find id
      return .ok ((← get).story number).snapshot.toValue
  | .putSnapshot id => do
    let fields ← requiredObject (← content.fields) "snapshot"
    return told (putSnapshot id fields)
  | .openCharacter id character => do
    let config ← optionalObject (← content.fields) "config"
    return untold do
      return done (← Service.openCharacter id character config) "角色变量初始化失败。"
        [("character_id", .text character)]
  | .configure id => do
    let config ← requiredObject (← content.fields) "config"
    return do return done (← Service.reconfigure id (.object config)) "剧本变量配置更新失败。"
  | .renameTags id => do
    let names ← overrides (← content.fields)
    return told do return .ok (← Service.onScript id (Script.renameTags names)).toValue
  | .addResponse id => do
    let response ← required (← content.fields) "ai_response"
    return addHistory (·.addResponse id response)
  | .addMessage => do
    let (chat, m) ← message (← content.fields)
    return addHistory (·.addMessage chat m)
  | .drop id => return dropScript id

/-! ### How it is told -/

/-- What the names of fields begin with that are never told. -/
def reservedLead : List Char := ['_', 's', 'a']

/-- Whether a field of a name is told. -/
def isToldName (name : String) : Bool := !reservedLead.isPrefixOf name.toList

mutual

/-- A value without the fields that are never told. -/
def toldPart : Value → Value
  | .list items => .list (toldItems items)
  | .object fields => .object (toldFields fields)
  | v => v

/-- Items without the fields that are never told. -/
def toldItems : List Value → List Value
  | [] => []
  | v :: vs => toldPart v :: toldItems vs

/-- The fields that are told, and what is told of them. -/
def toldFields : List (String × Value) → List (String × Value)
  | [] => []
  | (k, v) :: fs => if isToldName k then (k, toldPart v) :: toldFields fs else toldFields fs

end

mutual

/-- Whether a value can be told: every number in it is finite and short enough. -/
def isTellable : Value → Bool
  | .int n => Number.isWritable n
  | .float x => Number.isFinite x
  | .list items => allTellable items
  | .object fields => allFieldsTellable fields
  | _ => true

/-- Whether all values can be told. -/
def allTellable : List Value → Bool
  | [] => true
  | v :: vs => isTellable v && allTellable vs

/-- Whether the values of all fields can be told. -/
def allFieldsTellable : List (String × Value) → Bool
  | [] => true
  | (_, v) :: fs => isTellable v && allFieldsTellable fs

end

/-- The reply, if it can be told. -/
def Reply.told (r : Reply) : Reply :=
  match r.body with
  | .document v => if isTellable (toldPart v) then { r with body := .document (toldPart v) } else .failed
  | _ => r

/-- Answers a request. -/
def answer (r : Request) : ServiceTask Reply :=
  match Route.find r.method r.path with
  | .error .noPath => return .detail 404 "Not Found"
  | .error .noMethod => return .detail 405 "Method Not Allowed"
  | .ok route =>
    match serve r.characterId r.content route with
    | .error reply => return reply
    | .ok t => do return (← t).told

end StoryState.Http
