import StoryState.Entries
import StoryState.Number.Basic

/-!
Values of variables and table cells: those of JSON, with whole numbers and doubles kept apart.
-/

namespace StoryState

/-- A value. The fields of an object keep the order of their keys' arrival. -/
inductive Value where
  | null
  | bool (b : Bool)
  | int (n : Int)
  | float (x : Float)
  | text (s : String)
  | list (items : List Value)
  | object (fields : List (String × Value))
deriving Inhabited

namespace Value

/-- A number as a value. -/
def ofNumber : Number → Value
  | .int n => .int n
  | .float x => .float x

/-- A list. -/
def isList : Value → Bool
  | .list _ => true
  | _ => false

/-- A list or an object. -/
def isContainer : Value → Bool
  | .list _ | .object _ => true
  | _ => false

/-- The truth of a value: nothing, zero and what is empty are false. -/
def truthy : Value → Bool
  | .null => false
  | .bool b => b
  | .int n => n != 0
  | .float x => x != 0.0
  | .text s => s != ""
  | .list items => !items.isEmpty
  | .object fields => !fields.isEmpty

/-- The name of a value's type in messages. -/
def typeName : Value → String
  | .null => "NoneType"
  | .bool _ => "bool"
  | .int _ => "int"
  | .float _ => "float"
  | .text _ => "str"
  | .list _ => "list"
  | .object _ => "dict"

/-- The text, if the value is one. -/
def text? : Value → Option String
  | .text s => some s
  | _ => none

/-- The fields, if the value is an object. -/
def fields? : Value → Option (Entries Value)
  | .object fields => some fields
  | _ => none

mutual

/-- Whether every whole number in the value is short enough to be written. -/
def isWritable : Value → Bool
  | .int n => Number.isWritable n
  | .list items => allWritable items
  | .object fields => allFieldsWritable fields
  | _ => true

/-- Whether every whole number in the values is short enough to be written. -/
def allWritable : List Value → Bool
  | [] => true
  | v :: vs => v.isWritable && allWritable vs

/-- Whether every whole number in the fields is short enough to be written. -/
def allFieldsWritable : List (String × Value) → Bool
  | [] => true
  | (_, v) :: fs => v.isWritable && allFieldsWritable fs

end

end Value

end StoryState
