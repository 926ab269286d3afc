import StoryState.Directive.Field
import StoryState.Directive.Tag

/-!
Directives inside a text and the scanners that find them. A text is scanned once for each form of a
directive, in the order of the lists of forms.
-/

namespace StoryState

open StoryState.Text StoryState.Directive

/-- What a directive says about a hidden variable. -/
structure HiddenFields where
  name : String
  condition : String
  hasExpiration : Bool
  content : String
deriving DecidableEq, Repr

/-- What a directive says about a new variable. -/
structure VariableFields where
  name : String
  declared : String
  initial : String
  branches : Option String
deriving DecidableEq, Repr

/-- A directive that changes what is registered. -/
inductive Change where
  | setVariable (name value : String)
  | assign (content : String)
  | setCells (table row content : String)
  | addRow (table content : String)
  | removeRow (table row : String)
  | setHidden (fields : HiddenFields)
deriving DecidableEq, Repr

/-- A directive that registers or unregisters. -/
inductive Registration where
  | newVariable (fields : VariableFields)
  | newVariables (items : List VariableFields)
  | newHidden (fields : HiddenFields)
  | newTable (name columns : String)
  | dropVariable (name : String)
  | dropVariables (names : List String)
  | dropTable (name : String)
  | dropHidden (name : String)
deriving DecidableEq, Repr

namespace Directive

/-! ### Parts shared by several forms -/

/-- A hidden variable: name, condition, perhaps an expiry, and the content. -/
def hiddenFields? (tag : String) : Scanner HiddenFields := fun s => do
  let s ← opening? tag s
  let (name, s) ← attributeNonEmpty? "name" s
  let (condition, s) ← attributeNonEmpty? "condition" s
  let (expires, s) :=
    match attribute? "hasExpiration" s with
    | some ("true", rest) => (true, rest)
    | some ("false", rest) => (false, rest)
    | _ => (false, s)
  let s ← tagEnd? ['>'] s
  let (content, s) ← content? tag s
  return (⟨name, condition, expires, content⟩, s)

/-- A new variable: name, kind, initial value, and perhaps its cases. -/
def variableFields? (tag : String) : Scanner VariableFields := fun s => do
  let s ← opening? tag s
  let (name, s) ← attributeNonEmpty? "name" s
  let (declared, s) ← attributeNonEmpty? "type" s
  let (initial, s) ← attribute? "initVal" s
  let (branches, s) :=
    match attributeEither? "conditional" quoted? s with
    | some (literal, rest) => (some literal, rest)
    | none => (none, s)
  let s ← tagEnd? ['/', '>'] s
  return (⟨name, declared, initial, branches⟩, s)

/-- A tag with a name and nothing else. -/
def nameOnly? (tag : String) : Scanner String := fun s => do
  let s ← opening? tag s
  let (name, s) ← attributeNonEmpty? "name" s
  let s ← tagEnd? ['/', '>'] s
  return (name, s)

/-- A tag without attributes, and its content. -/
def block? (tag : String) : Scanner String := fun s => do
  content? tag (← dropLead? ['>'] (← opening? tag s))

/-- The end of a tag whose other attributes are ignored: a slash before the first `>`, or a closing
tag somewhere behind it. -/
def ignoringEnd? (tag : String) (s : List Char) : Option (List Char) :=
  match s.dropWhile (· ≠ '>') with
  | [] => none
  | _ :: rest =>
    if (s.takeWhile (· ≠ '>')).getLast? = some '/' then some rest
    else (content? tag rest).map (·.2)

/-! ### Changes -/

/-- A variable set by attributes. -/
def setVariable? (tag : String) : Scanner Change := fun s => do
  let s ← opening? tag s
  let (name, s) ← attributeNonEmpty? "name" s
  let (value, s) ← attribute? "value" s
  return (.setVariable name value, ← ignoringEnd? tag s)

/-- Assignments in the content. -/
def assign? (tag : String) : Scanner Change := fun s =>
  (block? tag s).map fun (content, s) => (.assign content, s)

/-- Cells of a row. -/
def setCells? (tag : String) : Scanner Change := fun s => do
  let s ← opening? tag s
  let (table, s) ← attributeNonEmpty? "table" s
  let (row, s) ← attributeNonEmpty? "row" s
  let s ← tagEnd? ['>'] s
  let (content, s) ← content? tag s
  return (.setCells table row content, s)

/-- A new row. -/
def addRow? (tag : String) : Scanner Change := fun s => do
  let s ← opening? tag s
  let (table, s) ← attributeNonEmpty? "table" s
  let s ← tagEnd? ['>'] s
  let (content, s) ← content? tag s
  return (.addRow table content, s)

/-- A row to be removed. -/
def removeRow? (tag : String) : Scanner Change := fun s => do
  let s ← opening? tag s
  let (table, s) ← attributeNonEmpty? "table" s
  let (row, s) ← attributeNonEmpty? "row" s
  let s ←
    match tagEnd? ['/', '>'] s with
    | some s => some s
    | none => (tagEnd? ['>'] s).bind (tagEnd? (closing tag))
  return (.removeRow table row, s)

/-- A hidden variable set anew. -/
def setHidden? (tag : String) : Scanner Change := fun s =>
  (hiddenFields? tag s).map fun (fields, s) => (.setHidden fields, s)

/-- The forms of changes, in the order in which they are carried out. -/
def changeForms (names : TagNames) : List (Scanner Change) :=
  [setVariable? (names .setVar), assign? (names .setVar), setCells? (names .setTable),
    addRow? (names .addTableRow), removeRow? (names .removeTableRow),
    setHidden? (names .setHiddenVar)]

/-! ### Registrations -/

/-- The tag of an item inside a block of variables. -/
def itemTag : String := "var"

/-- A variable. -/
def newVariable? (tag : String) : Scanner Registration := fun s =>
  (variableFields? tag s).map fun (fields, s) => (.newVariable fields, s)

/-- A block of variables. -/
def newVariables? (tag : String) : Scanner Registration := fun s =>
  (block? tag s).map fun (content, s) =>
    (.newVariables (hits (variableFields? itemTag) content.toList), s)

/-- A hidden variable. -/
def newHidden? (tag : String) : Scanner Registration := fun s =>
  (hiddenFields? tag s).map fun (fields, s) => (.newHidden fields, s)

/-- A table. -/
def newTable? (tag : String) : Scanner Registration := fun s => do
  let s ← opening? tag s
  let (name, s) ← attributeNonEmpty? "name" s
  let (columns, s) ← attributeEither? "columns" quotedNonEmpty? s
  let s ← tagEnd? ['/', '>'] s
  return (.newTable name columns, s)

/-- A variable to be dropped. -/
def dropVariable? (tag : String) : Scanner Registration := fun s =>
  (nameOnly? tag s).map fun (name, s) => (.dropVariable name, s)

/-- A block of variables to be dropped. -/
def dropVariables? (tag : String) : Scanner Registration := fun s =>
  (block? tag s).map fun (content, s) => (.dropVariables (hits (nameOnly? itemTag) content.toList), s)

/-- A table to be dropped. -/
def dropTable? (tag : String) : Scanner Registration := fun s =>
  (nameOnly? tag s).map fun (name, s) => (.dropTable name, s)

/-- A hidden variable to be dropped. -/
def dropHidden? (tag : String) : Scanner Registration := fun s =>
  (nameOnly? tag s).map fun (name, s) => (.dropHidden name, s)

/-- The forms of registrations, in the order in which they are carried out. -/
def registrationForms (names : TagNames) : List (Scanner Registration) :=
  [newVariable? (names .registerVar), newVariables? (names .registerVars),
    newHidden? (names .registerHiddenVar), newTable? (names .registerTable),
    dropVariable? (names .unregisterVar), dropVariables? (names .unregisterVars),
    dropTable? (names .unregisterTable), dropHidden? (names .unregisterHiddenVar)]

end Directive

end StoryState
