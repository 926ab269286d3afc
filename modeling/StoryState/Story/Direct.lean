import StoryState.Directive.Change
import StoryState.Macro.Resolve
import StoryState.Story.Basic

/-!
Operations on a script that name what they work on: opening scopes, registering, setting, reading.
-/

namespace StoryState.Script

/-! ### Opening -/

/-- The state that a configuration gives: a record, or the text of one. -/
def readConfig : Value → Except Fault State
  | .text s => do
    match ← Json.read s with
    | .object fields => State.ofValue (.object fields)
    | _ => throw .configNotObject
  | .object fields => State.ofValue (.object fields)
  | _ => .error .configNotObject

/-- The state that a configuration gives, if there is one. -/
def configOf : Value → Option (Except Fault State)
  | .null => none
  | v => some (readConfig v)

/-- Opens a scope; answers whether it could be opened and stored. -/
def tryOpen (scope : Scope) (config : Option (Except Fault State)) : ScriptTask Bool :=
  orElse (do
    holding scope (initialise scope config)
    return true) false

/-- The state of a scope, which is opened if it is not open. -/
def openedState (scope : Scope) : ScriptTask (Option State) := do
  if !((← get).story.cell scope).isOpen then discard (tryOpen scope none)
  return (← get).story.state? scope

/-- The state of a scope that is open. -/
def scopeState (scope : Scope) : ScriptTask State := do
  match (← get).story.state? scope with
  | some state => return state
  | none => throw (.scopeNotOpen (scope.characterId?.getD ""))

/-! ### Registering -/

/-- Changes the state of a scope and stores it. -/
def edit (scope : Scope) (f : State → Except Fault State) : ScriptTask Unit :=
  onOpen scope do
    let state ← .ofExcept (f ((← get).story.cell scope).state)
    modify (setState scope state)
    persist scope

/-- Changes the state of a scope and stores it, unless there is nothing to change. -/
def editIf {α : Type} (scope : Scope) (otherwise : α)
    (f : State → Except Fault (Option (α × State))) : ScriptTask α :=
  onOpen scope do
    match ← .ofExcept (f ((← get).story.cell scope).state) with
    | none => return otherwise
    | some (a, state) => do
      modify (setState scope state)
      persist scope
      return a

/-- Registers a variable. -/
def registerVariable (scope : Scope) (name : String) (declared literal : Value)
    (branches : Option (List Branch)) : ScriptTask Unit :=
  edit scope fun s => do
    let value ← Value.ofLiteral (Kind.ofValue? declared) literal
    return { s with
      vars := s.vars.put name
        { declared, value, isConditional := branches.isSome, branches } }

/-- Drops a variable. -/
def dropVariable (scope : Scope) (name : String) : ScriptTask Unit :=
  edit scope fun s => .ok { s with vars := s.vars.erase name }

/-- Registers a table without rows. -/
def registerTable (scope : Scope) (name : String) (columns : List Column) : ScriptTask Unit :=
  edit scope fun s => .ok { s with tables := s.tables.put name { name := .text name, columns } }

/-- Drops a table. -/
def dropTable (scope : Scope) (name : String) : ScriptTask Unit :=
  edit scope fun s => .ok { s with tables := s.tables.erase name }

/-- Registers a hidden variable. -/
def registerHidden (scope : Scope) (name : String) (h : Hidden) : ScriptTask Unit :=
  edit scope fun s => .ok { s with hidden := s.hidden.put name h }

/-- Drops a hidden variable. -/
def dropHidden (scope : Scope) (name : String) : ScriptTask Unit :=
  edit scope fun s => .ok { s with hidden := s.hidden.erase name }

/-! ### Setting -/

/-- The place of a row among `size` rows. -/
def rowAt? (row : Int) (size : Nat) : Option Nat :=
  match row with
  | .ofNat i => if i < size then some i else none
  | .negSucc _ => none

/-- Sets a cell; answers whether the row and the column exist. -/
def setCell (scope : Scope) (table : String) (row : Int) (column : String) (literal : Value) :
    ScriptTask Bool :=
  editIf scope false fun s =>
    match Entries.get? table s.tables with
    | none => .error (.noTable table)
    | some t =>
      match t.column? column, rowAt? row t.rows.length with
      | some c, some i => do
        let cells := (t.rows.getD i []).put column (← Value.ofLiteral c.kind? literal)
        return some (true,
          { s with tables := s.tables.put table { t with rows := t.rows.set i cells } })
      | _, _ => .ok none

/-- The row that the cells of a record make; a required cell must be there. -/
def rowOfCells (table : String) (cells : Entries Value) :
    List Column → Entries Value → Except Fault (Entries Value)
  | [], row => .ok row
  | c :: cs, row => do
    let given ← if ← Batch.hasCell cells c.name then pure (Entries.get? (← c.name.key) cells) else pure none
    match given with
    | none | some .null =>
      if c.required then throw (.missingCell table (← c.name.display))
      rowOfCells table cells cs row
    | some literal =>
      rowOfCells table cells cs (row.put (← c.name.key) (← Value.ofLiteral c.kind? literal))

/-- Adds a row; answers its place. -/
def addRow (scope : Scope) (table : String) (cells : Entries Value) : ScriptTask Nat :=
  editIf scope 0 fun s =>
    match Entries.get? table s.tables with
    | none => .error (.noTable table)
    | some t => do
      let row ← rowOfCells table cells t.columns []
      return some (t.rows.length, { s with tables := s.tables.put table { t with rows := t.rows ++ [row] } })

/-- Removes a row; answers whether it exists. -/
def removeRow (scope : Scope) (table : String) (row : Int) : ScriptTask Bool :=
  editIf scope false fun s =>
    match Entries.get? table s.tables with
    | none => .ok none
    | some t =>
      match rowAt? row t.rows.length with
      | none => .ok none
      | some i =>
        .ok (some (true, { s with tables := s.tables.put table { t with rows := t.rows.eraseIdx i } }))

/-- Sets a variable; answers whether it exists. -/
def setVariable (scope : Scope) (name : String) (literal : Value) : ScriptTask Bool :=
  editIf scope false fun s =>
    match Entries.get? name s.vars with
    | none => .ok none
    | some x => do
      let value ← Value.ofLiteral x.kind? literal
      return some (true, { s with vars := s.vars.put name { x with value } })

/-! ### Reading -/

/-- The rows of a table. -/
def rows (scope : Scope) (table : String) : ScriptTask (List (Entries Value)) := do
  return (((← get).story.state? scope).bind fun s => (Entries.get? table s.tables).map (·.rows)).getD []

/-- The value of a variable, without regard to conditions. -/
def variableValue (scope : Scope) (name : String) : ScriptTask Value := do
  return (((← get).story.state? scope).bind fun s =>
    (Entries.get? name s.vars).map (·.value)).getD .null

/-- The value of a hidden variable that can be seen. It does not expire by this. -/
def hiddenValue (scope : Scope) (name : String) : ScriptTask Value := do
  match (← get).story.state? scope with
  | none => return .null
  | some s =>
    match Entries.get? name s.hidden with
    | none => return .null
    | some h =>
      if h.isSpent then return .null
      else if ← .ofExcept (s.meets h.condition) then return h.value
      else return .null

/-- Renames tags; answers their names. -/
def renameTags (overrides : Entries Value) : ScriptTask TagNames := do
  modify fun s => { s with story.names := s.story.names.updated overrides }
  return (← get).story.names

end StoryState.Script
