import StoryState.Number.Numeral
import StoryState.Fault

/-!
Numbers of a story: whole numbers of any size, and doubles.
-/

namespace StoryState

/-- A whole number or a double. -/
inductive Number where
  | int (n : Int)
  | float (x : Float)

namespace Number

open StoryState.Text

/-- The number as a double; a whole number beyond the doubles is refused. -/
def toFloat : Number → Except Fault Float
  | .float x => .ok x
  | .int n =>
    match ofInt? n with
    | some x => .ok x
    | none => .error .numberTooLarge

/-- The sum: exact for whole numbers, of doubles as soon as one is involved. -/
def add : Number → Number → Except Fault Number
  | .int a, .int b => .ok (.int (a + b))
  | a, b => do return .float ((← a.toFloat) + (← b.toFloat))

/-- The difference: exact for whole numbers, of doubles as soon as one is involved. -/
def sub : Number → Number → Except Fault Number
  | .int a, .int b => .ok (.int (a - b))
  | a, b => do return .float ((← a.toFloat) - (← b.toFloat))

/-- The number that a text denotes: zero for a blank text, NaN for a text that is no number. -/
def ofText (text : List Char) : Except Fault Number :=
  let s := strip text
  if s = [] then .ok (.int 0)
  else
    match wholeNumber? s with
    | some (negative, digits) =>
      if digitLimit < digits.length then .error (.numeralTooLong digits.length)
      else .ok (.int (signed negative digits))
    | none =>
      match decimal? s with
      | some x => .ok (.float x)
      | none => .ok (.float notANumber)

end Number

end StoryState
