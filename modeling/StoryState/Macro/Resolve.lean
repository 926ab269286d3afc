import StoryState.Condition.Basic
import StoryState.Macro.Basic
import StoryState.State.Basic
import StoryState.Value.Path

/-!
Replacing the macros of a text by what they stand for. Nested macros are replaced from the inside in
rounds. The only change that this makes to a state is that hidden variables with an expiry, once
seen, expire.
-/

namespace StoryState

open StoryState.Text

/-! ### Conditions of a state -/

/-- Whether a condition holds in a state. -/
def State.meets (s : State) (condition : Value) : Except Fault Bool :=
  Condition.check condition s.values

/-- The value of the first of the cases whose condition holds or is missing, or else a fallback. -/
def State.firstCase (s : State) (fallback : Value) : List Branch → Except Fault Value
  | [] => .ok fallback
  | b :: bs =>
    match b.condition with
    | none => .ok b.value
    | some condition => do if ← s.meets condition then return b.value else s.firstCase fallback bs

/-- The value that a variable has in a state. -/
def State.valueOf (s : State) (x : Variable) : Except Fault Value :=
  if x.isConditional then s.firstCase x.value (x.branches.getD []) else .ok x.value

/-! ### Cells of tables -/

/-- The row that a segment names: by a number at its head, or by a variable that holds one. -/
def State.rowNumber (s : State) (segment : List Char) : Except Fault Int := do
  match ← Value.leadingInt? segment with
  | some i => return i
  | none =>
    match Entries.get? (String.ofList segment) s.vars with
    | none => return 0
    | some x =>
      match Number.ofText (← x.value.format).toList with
      | .error e => throw e
      | .ok (.int i) => return i
      | .ok (.float y) => return (Number.truncate? y).getD 0

/-- A cell of a table, or the empty text where there is none. -/
def Table.cell (t : Table) (column : List Char) (row : Int) : Value :=
  match (Value.item? t.rows row).bind (Entries.get? (String.ofList column)) with
  | none | some .null => .text ""
  | some v => v

/-! ### Macros -/

namespace Macro

/-- A state under reading, with the hidden variables that have expired on the way. -/
structure Reading where
  state : State
  expired : List String := []

/-- A step of reading. What has expired stays so if it stops. -/
abbrev ReadM := ExceptT Fault (StateM Reading)

/-- The value of a hidden variable, if it can be seen. -/
def seeHidden (name : String) (h : Hidden) : ReadM Value := do
  if h.isSpent then return .text ""
  if ← (← get).state.meets h.condition then
    if h.hasExpiration then
      modify fun r =>
        { state := { r.state with hidden := r.state.hidden.put name { h with isExpired := true } }
          expired := r.expired ++ [name] }
    return h.value
  return .text ""

/-- How many entries a feed's macro asks for. -/
def feedCount (literal : List Char) : Except Fault Int := do
  if literal = [] then return Feed.defaultCount
  match ← Number.ofText literal with
  | .int n => return if 0 < n then n else Feed.defaultCount
  | .float x =>
    match Number.truncate? x with
    | some n => return if 0.0 < x then n else Feed.defaultCount
    | none => return Feed.defaultCount

/-- What stands for a feed: a placeholder, or the text of an empty feed if nothing says whose feed
it is. -/
def feedText (feed : Feed) (defaultId : Option String) (arguments : List (List Char)) :
    Except Fault String := do
  let count ← feedCount (arguments[1]?.getD [])
  let id :=
    match arguments[0]? with
    | none | some [] => defaultId.getD ""
    | some id => String.ofList id
  if id = "" then return feed.emptyText
  return Placeholder.text ⟨feed.name, id, String.ofList (Json.intChars count)⟩

/-- The table that the first of several segments names. -/
def tableOf? (s : State) : List (List Char) → Option Table
  | table :: _ :: _ => Entries.get? (String.ofList table) s.tables
  | _ => none

/-- The variable that the first of several segments names. -/
def rootOf? (s : State) : List (List Char) → Option Variable
  | root :: _ :: _ => Entries.get? (String.ofList root) s.vars
  | _ => none

/-- What a body without a path stands for. -/
def resolveName (defaultId : Option String) (body : List Char) : ReadM Value := do
  let name := String.ofList body
  let s := (← get).state
  match Entries.get? name s.hidden with
  | some h => seeHidden name h
  | none =>
    match feed? body with
    | some feed => return .text (← feedText feed defaultId ((splitOn ':' body).drop 1))
    | none =>
      match Entries.get? name s.vars with
      | some x => s.valueOf x
      | none => return .text ""

/-- What a body stands for: a cell of a table, a place below a variable, a hidden variable, a feed,
or a variable, in this order. -/
def resolve (defaultId : Option String) (body : List Char) : ReadM Value := do
  let parts := splitOn '.' body
  let s := (← get).state
  match tableOf? s parts, parts with
  | some t, [_, column] => return t.cell column 0
  | some t, [_, column, row] => return t.cell column (← s.rowNumber row)
  | _, _ =>
    match rootOf? s parts with
    | some x => x.value.follow (parts.drop 1)
    | none => resolveName defaultId body

/-- The text that replaces a macro. -/
def replacement (defaultId : Option String) (body : List Char) : ReadM (List Char) := do
  return (← (← resolve defaultId body).format).toList

/-- So many rounds of replacement, or fewer if no macro is left. -/
def rounds (defaultId : Option String) : Nat → List Char → ReadM (List Char)
  | 0, s => pure s
  | n + 1, s =>
    if (hits macro? s).isEmpty then pure s
    else do rounds defaultId n (← substituteM macro? (fun _ => replacement defaultId) s)

end Macro

/-- What came of reading a state. -/
structure Seen (α : Type) where
  result : Except Fault α
  state : State
  /-- The hidden variables that have expired. -/
  expired : List String

/-- Runs a reading of a state. -/
def State.see {α : Type} (s : State) (read : Macro.ReadM α) : Seen α :=
  let (result, r) := read.run { state := s }
  ⟨result, r.state, r.expired⟩

/-- The text with its macros replaced. -/
def State.replaceMacros (s : State) (defaultId : Option String) (text : String)
    (depth : Nat := Macro.defaultDepth) : Seen String :=
  s.see do return String.ofList (← Macro.rounds defaultId depth text.toList)

/-- The value that the body of a macro stands for. -/
def State.resolveMacro (s : State) (defaultId : Option String) (body : String) : Seen Value :=
  s.see (Macro.resolve defaultId body.toList)

end StoryState
