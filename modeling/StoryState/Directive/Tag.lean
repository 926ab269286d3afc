import StoryState.Value.Basic

/-!
The tags of directives and the names under which they are written. Every tag can be renamed; the
attributes and contents of its directive stay as they are.
-/

namespace StoryState

/-- The tags of directives. -/
inductive Tag where
  | setVar
  | registerVar
  | registerVars
  | unregisterVar
  | unregisterVars
  | registerTable
  | unregisterTable
  | registerHiddenVar
  | unregisterHiddenVar
  | setTable
  | addTableRow
  | removeTableRow
  | setHiddenVar
deriving DecidableEq, Repr

namespace Tag

/-- All tags, in the order of their listing. -/
def all : List Tag :=
  [.setVar, .registerVar, .registerVars, .unregisterVar, .unregisterVars, .registerTable,
    .unregisterTable, .registerHiddenVar, .unregisterHiddenVar, .setTable, .addTableRow,
    .removeTableRow, .setHiddenVar]

/-- The name of a tag unless it is renamed. -/
def key : Tag → String
  | .setVar => "setVar"
  | .registerVar => "registerVar"
  | .registerVars => "registerVars"
  | .unregisterVar => "unregisterVar"
  | .unregisterVars => "unregisterVars"
  | .registerTable => "registerTable"
  | .unregisterTable => "unregisterTable"
  | .registerHiddenVar => "registerHiddenVar"
  | .unregisterHiddenVar => "unregisterHiddenVar"
  | .setTable => "setTable"
  | .addTableRow => "addTableRow"
  | .removeTableRow => "removeTableRow"
  | .setHiddenVar => "setHiddenVar"

/-- The other spelling of a tag in a configuration, with low lines between its words. -/
def spacedKey : Tag → String
  | .setVar => "set_var"
  | .registerVar => "register_var"
  | .registerVars => "register_vars"
  | .unregisterVar => "unregister_var"
  | .unregisterVars => "unregister_vars"
  | .registerTable => "register_table"
  | .unregisterTable => "unregister_table"
  | .registerHiddenVar => "register_hidden_var"
  | .unregisterHiddenVar => "unregister_hidden_var"
  | .setTable => "set_table"
  | .addTableRow => "add_table_row"
  | .removeTableRow => "remove_table_row"
  | .setHiddenVar => "set_hidden_var"

/-- The tag of a configuration key in either spelling. -/
def ofKey? (key : String) : Option Tag := all.find? fun t => t.key = key || t.spacedKey = key

end Tag

/-- The names under which the tags are written. -/
abbrev TagNames := Tag → String

namespace TagNames

/-- Every tag under its own name. -/
def standard : TagNames := Tag.key

/-- The names with one of them replaced. -/
def rename (names : TagNames) (tag : Tag) (name : String) : TagNames :=
  fun t => if t = tag then name else names t

/-- The names with one replaced as a configuration says; an unknown key and a name that is empty
or no text are passed over. -/
def override (names : TagNames) (key : String) (name : Value) : TagNames :=
  match Tag.ofKey? key, name with
  | some tag, .text name => if name = "" then names else names.rename tag name
  | _, _ => names

/-- The names after the overrides of a configuration. -/
def updated (names : TagNames) (overrides : Entries Value) : TagNames :=
  overrides.foldl (fun names (key, name) => names.override key name) names

/-- The record of the names. -/
def toValue (names : TagNames) : Value := .object (Tag.all.map fun t => (t.key, .text (names t)))

end TagNames

end StoryState
