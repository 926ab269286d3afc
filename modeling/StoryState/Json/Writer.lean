import StoryState.Number.Shortest
import StoryState.Value.Basic

/-!
Values written as JSON. Characters outside ASCII stand for themselves; doubles have their shortest
digits, and `NaN` and the infinities are written as such.
-/

namespace StoryState.Json

/-- How a document is laid out: the texts after an item and after a key, and the blanks by which
each level is indented if every item has a line of its own. -/
structure Layout where
  afterItem : String
  afterKey : String
  indent : Option Nat := none

/-- Everything on one line, without blanks. -/
def Layout.compact : Layout := ⟨",", ":", none⟩

/-- Everything on one line, with a blank after commas and colons. -/
def Layout.spaced : Layout := ⟨", ", ": ", none⟩

/-- A line for each item, indented by two blanks a level. -/
def Layout.pretty : Layout := ⟨",", ": ", some 2⟩

/-- A line break and the blanks of a level, in a layout with lines. -/
def Layout.newLine (l : Layout) (level : Nat) : List Char :=
  match l.indent with
  | none => []
  | some width => '\n' :: List.replicate (width * level) ' '

/-- A character inside quotes. -/
def escapeChar (c : Char) : List Char :=
  if c = '"' then ['\\', '"']
  else if c = '\\' then ['\\', '\\']
  else if c = '\n' then ['\\', 'n']
  else if c = '\r' then ['\\', 'r']
  else if c = '\t' then ['\\', 't']
  else if c = '\x08' then ['\\', 'b']
  else if c = '\x0c' then ['\\', 'f']
  else if c.toNat < 32 then
    ['\\', 'u'] ++ Text.hexDigits 4 c.toNat
  else [c]

/-- A quoted text. -/
def quote (s : String) : List Char := '"' :: (s.toList.flatMap escapeChar ++ ['"'])

/-- A double. -/
def floatChars (x : Float) : List Char :=
  match Number.parts x with
  | .nan => "NaN".toList
  | .infinite negative => (if negative then "-Infinity" else "Infinity").toList
  | .finite .. => (Number.floatText x).toList

/-- A whole number. -/
def intChars (n : Int) : List Char :=
  match n with
  | .ofNat k => Nat.toDigits 10 k
  | .negSucc k => '-' :: Nat.toDigits 10 (k + 1)

mutual

/-- A value at a level of nesting. -/
def write (l : Layout) (level : Nat) : Value → List Char
  | .null => "null".toList
  | .bool b => (if b then "true" else "false").toList
  | .int n => intChars n
  | .float x => floatChars x
  | .text s => quote s
  | .list [] => ['[', ']']
  | .list (v :: vs) =>
    '[' :: (l.newLine (level + 1) ++ write l (level + 1) v ++ writeItems l (level + 1) vs ++
      l.newLine level ++ [']'])
  | .object [] => ['{', '}']
  | .object ((k, v) :: fs) =>
    '{' :: (l.newLine (level + 1) ++ quote k ++ l.afterKey.toList ++ write l (level + 1) v ++
      writeFields l (level + 1) fs ++ l.newLine level ++ ['}'])

/-- The items after the first one. -/
def writeItems (l : Layout) (level : Nat) : List Value → List Char
  | [] => []
  | v :: vs => l.afterItem.toList ++ l.newLine level ++ write l level v ++ writeItems l level vs

/-- The fields after the first one. -/
def writeFields (l : Layout) (level : Nat) : List (String × Value) → List Char
  | [] => []
  | (k, v) :: fs =>
    l.afterItem.toList ++ l.newLine level ++ quote k ++ l.afterKey.toList ++ write l level v ++
      writeFields l level fs

end

/-- The document of a value, refused when it holds a whole number too long to be written. -/
def render (l : Layout) (v : Value) : Except Fault String :=
  if v.isWritable then .ok (String.ofList (write l 0 v)) else .error .numberTooLong

end StoryState.Json
