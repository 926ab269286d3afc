import StoryState.Json.Writer
import StoryState.Text.Basic
import StoryState.Text.Printable

/-!
The display of a value in messages: texts stand as they are at the top and in quotes inside lists and
objects, and truth values and nothing have capital letters.
-/

namespace StoryState.Value

open StoryState.Text (hexDigits)

/-- A character of a displayed text between quotes of the given kind. -/
def displayChar (quote c : Char) : List Char :=
  if c = quote || c = '\\' then ['\\', c]
  else if c = '\n' then ['\\', 'n']
  else if c = '\r' then ['\\', 'r']
  else if c = '\t' then ['\\', 't']
  else if Text.isPrintable c then [c]
  else if c.toNat < 0x100 then '\\' :: 'x' :: hexDigits 2 c.toNat
  else if c.toNat < 0x10000 then '\\' :: 'u' :: hexDigits 4 c.toNat
  else '\\' :: 'U' :: hexDigits 8 c.toNat

/-- A text in quotes: single ones, unless it holds these and no double ones. -/
def displayQuoted (s : List Char) : List Char :=
  let quote := if s.contains '\'' && !s.contains '"' then '"' else '\''
  quote :: (s.flatMap (displayChar quote) ++ [quote])

mutual

/-- A value inside a list or an object. -/
def inner : Value → List Char
  | .null => "None".toList
  | .bool b => (if b then "True" else "False").toList
  | .int n => Json.intChars n
  | .float x => (Number.floatText x).toList
  | .text s => displayQuoted s.toList
  | .list items => '[' :: (Text.joinWith [',', ' '] (innerItems items) ++ [']'])
  | .object fields => '\x7b' :: (Text.joinWith [',', ' '] (innerFields fields) ++ ['\x7d'])

/-- The displays of items. -/
def innerItems : List Value → List (List Char)
  | [] => []
  | v :: vs => inner v :: innerItems vs

/-- The displays of fields. -/
def innerFields : List (String × Value) → List (List Char)
  | [] => []
  | (k, v) :: fs => (displayQuoted k.toList ++ [':', ' '] ++ inner v) :: innerFields fs

end

/-- The display of a value. -/
def shown : Value → String
  | .text s => s
  | v => String.ofList (inner v)

/-- The display of a value, refused when it holds a whole number too long to be written. -/
def display (v : Value) : Except Fault String :=
  if v.isWritable then .ok v.shown else .error .numberTooLong

end StoryState.Value
