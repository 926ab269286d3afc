import StoryState.Directive.Basic
import StoryState.State.Basic
import StoryState.Text.Entity

/-!
A batch carries out the directives of one text on a state. It writes a log and a list of errors;
if it stops, what it did before stays done.
-/

namespace StoryState

open StoryState.Text

/-- A state under change, with the log and the errors so far. -/
structure Batch where
  state : State
  logs : List String := []
  errors : List String := []

/-- A step of a batch. What it did stays done if it stops. -/
abbrev BatchM := ExceptT Fault (StateM Batch)

namespace Batch

/-- Adds a line to the log. -/
def log (line : String) : BatchM Unit := modify fun b => { b with logs := b.logs ++ [line] }

/-- Adds an error. -/
def error (line : String) : BatchM Unit := modify fun b => { b with errors := b.errors ++ [line] }

/-- The variable of a name. -/
def findVariable? (name : String) : BatchM (Option Variable) := do
  return Entries.get? name (← get).state.vars

/-- Puts a variable under a name. -/
def putVariable (name : String) (x : Variable) : BatchM Unit :=
  modify fun b => { b with state.vars := b.state.vars.put name x }

/-- The table of a name. -/
def findTable? (name : String) : BatchM (Option Table) := do
  return Entries.get? name (← get).state.tables

/-- Puts a table under a name. -/
def putTable (name : String) (t : Table) : BatchM Unit :=
  modify fun b => { b with state.tables := b.state.tables.put name t }

/-- The hidden variable of a name. -/
def findHidden? (name : String) : BatchM (Option Hidden) := do
  return Entries.get? name (← get).state.hidden

/-- Puts a hidden variable under a name. -/
def putHidden (name : String) (h : Hidden) : BatchM Unit :=
  modify fun b => { b with state.hidden := b.state.hidden.put name h }

/-- Runs the forms one after another, each over the text that the one before left. -/
def passes {α : Type} (carryOut : List Char → α → BatchM (List Char)) :
    List (Scanner α) → List Char → BatchM (List Char)
  | [], s => pure s
  | form :: forms, s => do passes carryOut forms (← substituteM form carryOut s)

end Batch

/-- What became of the text of a batch. -/
structure BatchResult where
  cleanText : String
  logs : List String := []
  errors : List String := []

/-- Whether the batch reported anything done. -/
def BatchResult.changed (r : BatchResult) : Bool := !r.logs.isEmpty

/-- The record of a result. -/
def BatchResult.toValue (r : BatchResult) : Value :=
  .object [("cleanText", .text r.cleanText), ("logs", .list (r.logs.map .text)),
    ("changed", .bool r.changed),
    ("errors", if r.errors.isEmpty then .null else .list (r.errors.map .text))]

/-- Carries out the directives of a text that the forms find. The state comes back also when the
batch stops. -/
def Batch.run {α : Type} (forms : List (Scanner α)) (carryOut : List Char → α → BatchM (List Char))
    (text : String) (state : State) : Except Fault BatchResult × State :=
  let (outcome, b) := (Batch.passes carryOut forms (decodeEntities text.toList)).run { state }
  (outcome.map fun s => ⟨String.ofList s, b.logs, b.errors⟩, b.state)

end StoryState
