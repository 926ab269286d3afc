import StoryState.Json.Reader
import StoryState.Value.Format

/-!
The five kinds of variables and columns, the reading of a literal by a declared kind, and the kind
that a literal suggests where none is declared.
-/

namespace StoryState

/-- The kinds of variables and table columns. -/
inductive Kind where
  | string
  | number
  | boolean
  | object
  | array
deriving DecidableEq, Repr

namespace Kind

/-- The name of a kind. -/
def name : Kind → String
  | .string => "string"
  | .number => "number"
  | .boolean => "boolean"
  | .object => "object"
  | .array => "array"

/-- All kinds. -/
def all : List Kind := [.string, .number, .boolean, .object, .array]

/-- The kind of a name. -/
def ofName? (name : String) : Option Kind := all.find? (·.name = name)

/-- The kind that a declaration names; a declaration may hold any value. -/
def ofValue? : Value → Option Kind
  | .text s => ofName? s
  | _ => none

@[simp] theorem ofName?_name (k : Kind) : ofName? k.name = some k := by cases k <;> decide

end Kind

namespace Value

open StoryState.Text

/-- The number that the display of a value denotes. -/
def readNumber (v : Value) : Except Fault Number := do Number.ofText (← v.display).toList

/-- The number that a value denotes: a truth value counts as zero or one, and anything that is no
number is read from its display. -/
def toNumber : Value → Except Fault Number
  | .bool b => .ok (.int (if b then 1 else 0))
  | .int n => .ok (.int n)
  | .float x => .ok (.float x)
  | v => v.readNumber

/-- The document in a text, or `fallback` if it is none. -/
def readOr (fallback : Value) : Value → Value
  | .list items => .list items
  | .object fields => .object fields
  | .text s => (Json.read s).toOption.getD fallback
  | _ => fallback

/-- A literal as a value of the given kind; without a kind it stays as it is. -/
def ofLiteral (kind : Option Kind) (literal : Value) : Except Fault Value :=
  match kind with
  | some .number => literal.toNumber.map ofNumber
  | some .boolean =>
    match literal with
    | .bool b => .ok (.bool b)
    | v => .ok (.bool (v.text? = some "true"))
  | some .object => .ok (readOr (.object []) literal)
  | some .array => .ok (readOr (.list []) literal)
  | some .string | none => .ok literal

/-- The literal in lower case, if it spells a truth value in any case. -/
def truthWord? (s : List Char) : Option Bool :=
  let word := Number.lowerAscii (strip s)
  if word = "true".toList then some true
  else if word = "false".toList then some false
  else none

/-- An optional minus, digits, and perhaps a point and more digits. -/
def looksNumeric (s : List Char) : Bool :=
  let body := if s.head? = some '-' then s.drop 1 else s
  match splitOn '.' body with
  | [whole] => whole ≠ [] && whole.all isDigit
  | [whole, fraction] =>
    whole ≠ [] && whole.all isDigit && fraction ≠ [] && fraction.all isDigit
  | _ => false

/-- The kind that a literal suggests: a truth value, a number or a string. -/
def suggestedKind (s : List Char) : Kind :=
  if (truthWord? s).isSome then .boolean
  else if looksNumeric (strip s) then .number
  else .string

/-- A literal read by the kind that it suggests. -/
def ofSuggested (literal : Value) : Except Fault (Kind × Value) := do
  let s := (← literal.display).toList
  match suggestedKind s with
  | .boolean => return (.boolean, .bool (truthWord? s = some true))
  | .number => return (.number, ofNumber (← Number.ofText s))
  | kind => return (kind, literal)

end Value

end StoryState
