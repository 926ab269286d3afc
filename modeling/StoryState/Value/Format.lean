import StoryState.Value.Display

/-!
The text of a value as macros and logs show it: nothing is the empty text, a double that is a whole
number has no point, and lists and objects are compact JSON.
-/

namespace StoryState.Value

/-- The text of a double. -/
def formatFloat (x : Float) : String :=
  if Number.isNaN x then "NaN"
  else
    match Number.toInt? x with
    | some n => String.ofList (Json.intChars n)
    | none => Number.floatText x

/-- The text of a value, refused when it holds a whole number too long to be written. -/
def format : Value → Except Fault String
  | .null => .ok ""
  | .bool b => .ok (if b then "true" else "false")
  | .int n =>
    if Number.isWritable n then .ok (String.ofList (Json.intChars n)) else .error .numberTooLong
  | .float x => .ok (formatFloat x)
  | .text s => .ok s
  | v => Json.render .compact v

end StoryState.Value
