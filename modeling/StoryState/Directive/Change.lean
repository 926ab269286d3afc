import StoryState.Directive.Batch
import StoryState.State.Declaration
import StoryState.Text.Word
import StoryState.Value.Path

/-!
Carrying out the directives that change variables, table rows and hidden variables.
-/

namespace StoryState

open StoryState.Text

namespace Batch

/-! ### Variables that come into being -/

/-- The name of the variable that begins with a template. -/
def todoList : String := "ToDoList"

/-- The template of the to-do list. -/
def todoTemplate : Entries Value :=
  [("chapterList", .list []), ("currentChapter", .text ""), ("currentToDoList", .list []),
    ("completed", .list []), ("in_progress", .list []), ("pending", .list [])]

/-- The value with which a variable begins that is only written below. -/
def rootValue (name : String) : Value := .object (if name = todoList then todoTemplate else [])

/-- The kind and value that a literal gives to a variable that is not declared. -/
def undeclared (name literal : String) : Except Fault (Kind × Value) :=
  if name = todoList then
    match (Json.read literal).toOption.bind Value.fields? with
    | some fields => .ok (.object, .object (Entries.putAll todoTemplate fields))
    | none => .ok (.object, .object todoTemplate)
  else Value.ofSuggested (.text literal)

/-- Registers a variable that is not declared; a literal that cannot be read is only logged. -/
def autoRegister (name literal : String) : BatchM (Option Variable) :=
  match undeclared name literal with
  | .error e => do
    log ("❌ 自动注册变量失败: " ++ name ++ " - " ++ e.message)
    return none
  | .ok (kind, value) => do
    let x : Variable := { declared := .text kind.name, value }
    putVariable name x
    return some x

/-! ### Dotted names -/

/-- The root of a dotted name and the path below it. -/
def rootAndPath (name : String) : String × String :=
  match cutAt? ['.'] name.toList with
  | some (root, path) => (String.ofList root, String.ofList path)
  | none => (name, "")

/-- The root variable of a name, which is registered if it is missing. -/
def rootVariable (root : String) : BatchM Variable := do
  match ← findVariable? root with
  | some x => return x
  | none => do
    let x : Variable := { declared := .text Kind.object.name, value := rootValue root }
    putVariable root x
    log ("✅ 自动注册根变量: " ++ root ++ " (类型: object, 使用默认模板)")
    return x

/-- Sets a value below a root variable, which is registered if it is missing. -/
def setBelow (name value : String) : BatchM Unit := do
  let (root, path) := rootAndPath name
  let x ← rootVariable root
  if x.kind? ≠ some .object && x.kind? ≠ some .array then
    log ("❌ 变量 " ++ root ++ " 不是对象或数组类型，无法使用点号路径")
  else
    let container := if x.value.isContainer then x.value else rootValue root
    let (container, failure) := container.writePath path (.text value)
    putVariable root { x with value := container }
    match failure with
    | none => log ("🔄 点号路径设置: " ++ name ++ " -> " ++ value ++ " (属性格式)")
    | some e => log ("❌ 点号路径设置失败: " ++ name ++ " - " ++ e)

/-! ### Assignments -/

/-- Sets a variable as an attribute says. -/
def setVariable (name value : String) : BatchM Unit := do
  if name.toList.contains '.' then setBelow name value
  else
    match ← findVariable? name with
    | some x => do
      let new ← Value.ofLiteral x.kind? (.text value)
      putVariable name { x with value := new }
      log ("🔄 变量 " ++ name ++ ": " ++ (← x.value.format) ++ " -> " ++ (← new.format) ++
        " (属性格式)")
    | none => do
      if let some x ← autoRegister name value then
        log ("✅ 自动注册变量: " ++ name ++ " (类型: " ++ (← x.declared.display) ++ ", 值: " ++ value ++
          ") (属性格式)")

/-- How an assignment changes a variable. -/
inductive AssignOp where
  | set
  | add
  | subtract
deriving DecidableEq, Repr

/-- The sign of an assignment. -/
def AssignOp.sign : AssignOp → String
  | .set => "="
  | .add => "+="
  | .subtract => "-="

/-- One statement of a content. -/
inductive Statement where
  | step (name : String) (up : Bool)
  | assign (name : String) (op : AssignOp) (literal : String)
deriving DecidableEq, Repr

/-- The sign at the head of a text. -/
def assignOp? : List Char → Option (AssignOp × List Char)
  | '+' :: '=' :: s => some (.add, s)
  | '-' :: '=' :: s => some (.subtract, s)
  | '=' :: s => some (.set, s)
  | _ => none

/-- The statement that a stripped text makes. -/
def Statement.ofText? (s : List Char) : Option Statement :=
  match s with
  | [] => none
  | c :: r =>
    if isAsciiNameStart c then
      let name := String.ofList (c :: r.takeWhile isWord)
      let rest := skipBlanks (r.dropWhile isWord)
      if rest = ['+', '+'] then some (.step name true)
      else if rest = ['-', '-'] then some (.step name false)
      else (assignOp? rest).map fun (op, r) => .assign name op (String.ofList (Text.strip r))
    else none

/-- The value as an operand; nothing counts as zero. -/
def operand (v : Value) : Except Fault Number :=
  match v with
  | .null => .ok (.int 0)
  | v => v.toNumber

/-- The variable that a step changes, which is registered with zero if it is missing. -/
def stepVariable? (name : String) : BatchM (Option Variable) := do
  match ← findVariable? name with
  | some x => return some x
  | none => do
    let x? ← autoRegister name "0"
    if x?.isSome then log ("✅ 自动注册变量: " ++ name ++ " (类型: number, 初始值: 0)")
    return x?

/-- Adds one to a number, or takes one from it. -/
def step (name : String) (up : Bool) : BatchM Unit := do
  let sign := if up then "++" else "--"
  match ← stepVariable? name with
  | none => return
  | some x =>
    if x.kind? ≠ some .number then
      log ("⚠️ 忽略非数字变量的" ++ sign ++ "操作: " ++ name ++ " (类型: " ++ (← x.declared.display) ++ ")")
    else
      let old ← operand x.value
      let new ← if up then old.add (.int 1) else old.sub (.int 1)
      putVariable name { x with value := .ofNumber new }
      log ("🔄 变量 " ++ name ++ ": " ++ (← (Value.ofNumber old).format) ++ " -> " ++
        (← (Value.ofNumber new).format) ++ " (" ++ sign ++ ")")

/-- Carries out an assignment; `source` is its text. -/
def assign (source name : String) (op : AssignOp) (literal : String) : BatchM Unit := do
  match ← findVariable? name with
  | none => do
    if let some x ← autoRegister name literal then
      log ("✅ 自动注册变量: " ++ name ++ " (类型: " ++ (← x.declared.display) ++ ", 值: " ++ literal ++
        ") (内容格式)")
  | some x => do
    let new ← Value.ofLiteral x.kind? (.text literal)
    match op, x.kind? with
    | .set, _ => do
      putVariable name { x with value := new }
      log ("🔄 变量 " ++ name ++ ": " ++ (← x.value.format) ++ " -> " ++ (← new.format) ++
        " (内容格式)")
    | op, some .number => do
      let delta ← operand new
      let base ← operand x.value
      let sum ← if op = .add then base.add delta else base.sub delta
      putVariable name { x with value := .ofNumber sum }
      log ("🔄 变量 " ++ name ++ ": " ++ (← (Value.ofNumber base).format) ++ " -> " ++
        (← (Value.ofNumber sum).format) ++ " (" ++ op.sign ++ ")")
    | .add, some .string => do
      let old ← x.value.format
      let all := old ++ (← new.format)
      putVariable name { x with value := .text all }
      log ("🔄 变量 " ++ name ++ ": " ++ old ++ " -> " ++ all ++ " (" ++ op.sign ++ ")")
    | op, _ =>
      log ("⚠️ 忽略不支持的赋值操作: " ++ source ++ " (变量类型: " ++ (← x.declared.display) ++
        ", 操作符: " ++ op.sign ++ ")")

/-- Carries out the statements of a content. -/
def assignAll (content : String) : BatchM Unit :=
  (splitOn ';' content.toList).forM fun part => do
    let source := Text.strip part
    if source = [] then return
    match Statement.ofText? source with
    | some (.step name up) => step name up
    | some (.assign name op literal) => assign (String.ofList source) name op literal
    | none => log ("⚠️ 忽略无法解析的赋值: " ++ String.ofList source)

/-! ### Table rows -/

/-- The columns and literals of a content. -/
def cells (content : String) : List (String × String) :=
  (splitOn ';' content.toList).filterMap fun part =>
    match cutAt? ['='] part with
    | none => none
    | some (column, literal) =>
      let column := Text.strip column
      if column = [] then none else some (String.ofList column, String.ofList (Text.strip literal))

/-- The place that a row attribute names among `size` rows. -/
def rowIndex? (row : String) (size : Nat) : Except Fault (Option Nat) := do
  match ← Value.leadingInt? row.toList with
  | some (.ofNat i) => return if i < size then some i else none
  | _ => return none

/-- The line of a row in the log. -/
def rowText (row : Entries Value) : Except Fault String := Json.render .spaced (.object row)

/-- Sets a cell of the row at `index`. -/
def setCell (table : String) (index : Nat) (column literal : String) : BatchM Unit := do
  if let some t ← findTable? table then
    if let some c := t.column? column then
      let row := t.rows.getD index []
      let old := (Entries.get? column row).getD .null
      let new ← Value.ofLiteral c.kind? (.text literal)
      putTable table { t with rows := t.rows.set index (row.put column new) }
      log ("📊 表格 " ++ table ++ "[" ++ toString index ++ "]." ++ column ++ ": " ++
        (← old.format) ++ " -> " ++ (← new.format))

/-- Sets cells of a row. -/
def setCells (table row content : String) : BatchM Unit := do
  if let some t ← findTable? table then
    if let some index ← rowIndex? row t.rows.length then
      (cells content).forM fun (column, literal) => setCell table index column literal

/-- The row that the literals of declared columns make. -/
def rowOf (t : Table) : List (String × String) → Entries Value → Except Fault (Entries Value)
  | [], row => .ok row
  | (column, literal) :: more, row =>
    match t.column? column with
    | none => rowOf t more row
    | some c => do rowOf t more (row.put column (← Value.ofLiteral c.kind? (.text literal)))

/-- Whether a row has a cell under a name, which may be any value that makes a key. -/
def hasCell (row : Entries Value) (name : Value) : Except Fault Bool :=
  match name with
  | .text name => .ok (row.has name)
  | .list _ | .object _ => .error (.notKey name.typeName)
  | _ => .ok false

/-- The names of the required columns that a row lacks. -/
def missing (row : Entries Value) : List Column → Except Fault (List Value)
  | [] => .ok []
  | c :: cs => do
    if c.required && !(← hasCell row c.name) then return c.name :: (← missing row cs)
    else missing row cs

/-- The names in a row, which must be texts. -/
def nameList (names : List Value) : Except Fault String := do
  let texts ← names.zipIdx.mapM fun (name, i) =>
    match name with
    | .text s => .ok s
    | v => .error (.nameNotText i v.typeName)
  return ", ".intercalate texts

/-- Adds a row, unless a required column is missing. -/
def addRow (table content : String) : BatchM Unit := do
  if let some t ← findTable? table then
    let row ← rowOf t (cells content) []
    let lacking ← missing row t.columns
    if lacking.isEmpty then
      putTable table { t with rows := t.rows ++ [row] }
      log ("➕ 表格 " ++ table ++ " 添加新行[" ++ toString t.rows.length ++ "]: " ++ (← rowText row))
    else
      log ("❌ 表格 " ++ table ++ " 添加行失败: 缺少必填字段 (" ++ (← nameList lacking) ++ ")")

/-- Removes a row. -/
def removeRow (table row : String) : BatchM Unit := do
  if let some t ← findTable? table then
    match ← rowIndex? row t.rows.length with
    | some index =>
      putTable table { t with rows := t.rows.eraseIdx index }
      log ("➖ 表格 " ++ table ++ " 删除行[" ++ toString index ++ "]: " ++
        (← rowText (t.rows.getD index [])))
    | none => log ("❌ 表格 " ++ table ++ " 删除行失败: 索引 " ++ row ++ " 无效")

/-! ### Hidden variables -/

/-- The hidden variable that a directive describes. -/
def hiddenOf (f : HiddenFields) : Hidden :=
  { condition := .text f.condition, value := .text (String.ofList (Text.strip f.content.toList)),
    hasExpiration := f.hasExpiration }

/-- Sets a hidden variable anew. -/
def setHidden (f : HiddenFields) : BatchM Unit := do
  let previous ← findHidden? f.name
  let h := hiddenOf f
  putHidden f.name h
  match previous with
  | some old =>
    log ("🔒 隐变量 " ++ f.name ++ ": " ++ (← old.value.format) ++ " -> " ++ (← h.value.format) ++
      " (条件: " ++ f.condition ++ ")")
  | none =>
    log ("🔒 隐变量 " ++ f.name ++ ": 新建 = " ++ (← h.value.format) ++ " (条件: " ++ f.condition ++ ")")

/-- Carries out a change, which leaves nothing of itself in the text. -/
def change (_ : List Char) (c : Change) : BatchM (List Char) := do
  match c with
  | .setVariable name value => setVariable name value
  | .assign content => assignAll content
  | .setCells table row content => setCells table row content
  | .addRow table content => addRow table content
  | .removeRow table row => removeRow table row
  | .setHidden fields => setHidden fields
  return []

end Batch

/-- Carries out the changes of a text. -/
def State.applyChanges (names : TagNames) (text : String) (s : State) :
    Except Fault BatchResult × State :=
  Batch.run (Directive.changeForms names) Batch.change text s

end StoryState
