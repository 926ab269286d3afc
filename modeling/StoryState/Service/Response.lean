import StoryState.Directive.Preview
import StoryState.Service.Basic
import StoryState.State.Summary

/-!
Texts that come in for a script: registering, changing, replacing macros, in this order; and showing
a script without changing it.
-/

namespace StoryState

/-- What became of a text. -/
structure Response where
  cleanText : String
  logs : List String := []
  hadDirectives : Bool := false

/-- The record of what became of a text. -/
def Response.toValue (r : Response) : Value :=
  .object [("cleanText", .text r.cleanText), ("logs", .list (r.logs.map .text)),
    ("hasVariableOperations", .bool r.hadDirectives)]

/-- What a text holds. -/
structure Preview where
  hasDirectives : Bool
  directives : List String
  cleanText : String

/-- The record of what a text holds. -/
def Preview.toValue (p : Preview) : Value :=
  .object [("hasOperations", .bool p.hasDirectives), ("operations", .list (p.directives.map .text)),
    ("cleanText", .text p.cleanText)]

namespace Service

/-! ### Carrying out -/

/-- Carries out the registrations of a text; answers the text that is left, and the log. If that
fails the text stays as it is. -/
def registerPart (number : Nat) (scope : Scope) (text : String) : ServiceTask (String × List String) :=
  tryCatch (do
    let r ← onStory number (Script.applyRegistrations scope text)
    return (r.cleanText, r.logs ++ r.errors.map ("❌ 注册错误: " ++ ·)))
    fun e => return (text, ["⚠️ 处理注册命令失败: " ++ e.message])

/-- Carries out a text with directives. -/
def carryOut (number : Nat) (scope : Scope) (text : String) : ServiceTask Response := do
  let (rest, logs) ← registerPart number scope text
  let r ← onStory number (Script.applyChanges scope rest)
  let clean ← onStory number (Script.renderMacros (← get).history scope r.cleanText)
  return ⟨clean, logs ++ r.logs ++ r.errors.map ("❌ 操作错误: " ++ ·), true⟩

/-- Carries out a text; if that fails the text stays as it is. -/
def process (id : String) (scope : Scope) (text : String) : ServiceTask Response :=
  tryCatch (do
    let number ← find id
    if Directive.occurs ((← get).story number).names text then carryOut number scope text
    else
      let clean ← onStory number (Script.renderMacros (← get).history scope text)
      return { cleanText := clean })
    fun e => return { cleanText := text, logs := ["❌ 变量处理出错: " ++ e.message] }

/-- The text with the macros of a script replaced. -/
def renderMacros (id : String) (scope : Scope) (text : String) : ServiceTask String := do
  let number ← find id
  onStory number (Script.renderMacros (← get).history scope text)

/-- The text with the macros of a script replaced, or the text as it is if that fails. -/
def tryMacros (id : String) (scope : Scope) (text : String) : ServiceTask String :=
  tryCatch (renderMacros id scope text) fun _ => return text

/-! ### Showing -/

/-- The state of a scope, which is opened if it is not open. -/
def stateOf (id : String) (scope : Scope) : ServiceTask (Option State) :=
  onScript id (Script.openedState scope)

/-- The record of a state, with the script and the character that it belongs to. -/
def stateRecord (id : String) (scope : Scope) (s : State) : Value :=
  .object (((s.toValue.fields?).getD []) ++ [("scriptId", .text id)] ++
    (scope.characterId?.map fun c => ("characterId", Value.text c)).toList)

/-- The record of a scope's state, unless it cannot be opened. -/
def describe (id : String) (scope : Scope) : ServiceTask (Option Value) :=
  tryCatch (do return (← stateOf id scope).map (stateRecord id scope)) fun _ => return none

/-- The document of a script's global state, unless it cannot be opened. -/
def exportState (id : String) : ServiceTask (Option String) := do
  match ← describe id .global with
  | none => return none
  | some v => return some (← .ofExcept (Json.render .pretty v))

/-- The summary of a scope's state. -/
def summary (id : String) (scope : Scope) : ServiceTask String := do
  match ← stateOf id scope with
  | some s => .ofExcept s.summary
  | none => return "#### 普通变量：\n暂无变量数据。\n"

/-- What a text holds, by the names that tags have in new stories. Nothing is carried out. -/
def preview (id : String) (text : String) : ServiceTask Preview := do
  let names := (← get).names
  if Directive.occurs names text then
    let clean ← tryMacros id .global (Directive.strip names text)
    return ⟨true, Directive.extract names text, clean⟩
  else return ⟨false, [], ← tryMacros id .global text⟩

end Service

end StoryState
