import StoryState.Directive.Change

/-!
Carrying out the directives that register and unregister. A directive with a declaration that is
refused stays in the text; an item of a block is passed over then.
-/

namespace StoryState

open StoryState.Text

namespace Batch

/-- The cases that a directive declares, if any. -/
def branchesOf (literal : Option String) : Except DeclarationFault (Option (List Branch)) :=
  match literal with
  | none | some "" => .ok none
  | some literal => (readBranches literal).map some

/-- Registers a variable; answers whether its cases were accepted. -/
def registerVariable (f : VariableFields) : BatchM Bool := do
  match branchesOf f.branches with
  | .error e => do
    error ("变量 " ++ f.name ++ " 的条件分支解析失败: " ++ e.message)
    return false
  | .ok branches => do
    match Kind.ofName? f.declared with
    | none => log ("⚠️ 忽略未知类型的变量注册: " ++ f.name ++ " (类型: " ++ f.declared ++ ")")
    | some kind => do
      let value ← Value.ofLiteral (some kind) (.text f.initial)
      putVariable f.name
        { declared := .text f.declared, value, isConditional := branches.isSome, branches }
      log ("📝 已注册变量宏: $\x7b" ++ f.name ++ "\x7d" ++ (if branches.isSome then " (条件变量)" else ""))
    return true

/-- Registers a hidden variable. -/
def registerHidden (f : HiddenFields) : BatchM Unit := do
  putHidden f.name (hiddenOf f)
  log ("🔒 已注册隐变量宏: $\x7b" ++ f.name ++ "\x7d " ++
    (if f.hasExpiration then "(有期限)" else "(无期限)"))
  log ("   - 条件: " ++ f.condition)

/-- Registers a table without rows; answers whether its columns were accepted. -/
def registerTable (name literal : String) : BatchM Bool := do
  match readColumns literal with
  | .error e => do
    error ("表格 " ++ name ++ " 的列定义解析失败: " ++ e.message)
    return false
  | .ok columns => do
    putTable name { name := .text name, columns }
    log ("📊 已注册表格宏: $\x7b" ++ name ++ ".columnName\x7d 或 $\x7b" ++ name ++
      ".columnName.rowIndex\x7d")
    columns.forM fun c => log ("   - 列: $\x7b" ++ name ++ "." ++ c.name.shown ++ "\x7d")
    return true

/-- Logs that something of a name is no more registered. -/
def logDropped (sort name : String) : BatchM Unit := log ("🗑️ 已注销" ++ sort ++ ": " ++ name)

/-- Drops a variable. -/
def dropVariable (name : String) : BatchM Unit := do
  if (← get).state.vars.has name then
    modify fun b => { b with state.vars := b.state.vars.erase name }
    logDropped "变量" name

/-- Drops a table. -/
def dropTable (name : String) : BatchM Unit := do
  if (← get).state.tables.has name then
    modify fun b => { b with state.tables := b.state.tables.erase name }
    logDropped "表格" name

/-- Drops a hidden variable. -/
def dropHidden (name : String) : BatchM Unit := do
  if (← get).state.hidden.has name then
    modify fun b => { b with state.hidden := b.state.hidden.erase name }
    logDropped "隐变量" name

/-- Carries out a registration and answers what it leaves in the text. -/
def register (raw : List Char) (r : Registration) : BatchM (List Char) := do
  match r with
  | .newVariable fields => return if ← registerVariable fields then [] else raw
  | .newVariables items => do
    items.forM fun fields => discard (registerVariable fields)
    return []
  | .newHidden fields => do
    registerHidden fields
    return []
  | .newTable name columns => return if ← registerTable name columns then [] else raw
  | .dropVariable name => do
    dropVariable name
    return []
  | .dropVariables names => do
    names.forM dropVariable
    return []
  | .dropTable name => do
    dropTable name
    return []
  | .dropHidden name => do
    dropHidden name
    return []

end Batch

/-- Carries out the registrations of a text. -/
def State.applyRegistrations (names : TagNames) (text : String) (s : State) :
    Except Fault BatchResult × State :=
  Batch.run (Directive.registrationForms names) Batch.register text s

end StoryState
