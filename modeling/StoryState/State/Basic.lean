import StoryState.Value.Kind

/-!
The state of one scope: typed variables, tables of rows, and hidden variables. What a stored state
declares (kinds, conditions, names) may be any value; a reader of a declaration decides what counts.
-/

namespace StoryState

/-- One case of a conditional variable; the case without a condition is the last resort. -/
structure Branch where
  value : Value
  condition : Option Value

/-- A variable, whose value may depend on conditions. -/
structure Variable where
  declared : Value
  value : Value
  isConditional : Bool := false
  branches : Option (List Branch) := none

/-- The kind of a variable, if it declares one. -/
def Variable.kind? (v : Variable) : Option Kind := Kind.ofValue? v.declared

/-- A column of a table. -/
structure Column where
  name : Value
  declared : Value := .text "string"
  required : Bool := false

/-- The kind of a column, if it declares one. -/
def Column.kind? (c : Column) : Option Kind := Kind.ofValue? c.declared

/-- A table; its rows are found by their place only. -/
structure Table where
  name : Value
  columns : List Column := []
  rows : List (Entries Value) := []

/-- The first column of a name. -/
def Table.column? (t : Table) (name : String) : Option Column :=
  t.columns.find? fun c => c.name.text? = some name

/-- A variable seen only while its condition holds, and at most once if it expires. -/
structure Hidden where
  condition : Value
  value : Value
  hasExpiration : Bool := false
  isExpired : Bool := false

/-- Whether the variable has been seen and must not be seen again. -/
def Hidden.isSpent (h : Hidden) : Bool := h.hasExpiration && h.isExpired

/-- The variables, tables and hidden variables of one scope. -/
structure State where
  vars : Entries Variable := []
  tables : Entries Table := []
  hidden : Entries Hidden := []

/-- The values of the variables, as conditions read them. -/
def State.values (s : State) : Entries Value := s.vars.mapValues (·.value)

end StoryState
