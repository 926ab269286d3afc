import StoryState.Text.Ranges

/-!
Blank characters: those with the Unicode property of a white space or a bidirectional class of a
separator. Stripping drops them from both ends.
-/

namespace StoryState.Text

/-- The code points of the blank characters. -/
def blankRanges : List (Nat × Nat) :=
  [(0x9, 0xd), (0x1c, 0x20), (0x85, 0x85), (0xa0, 0xa0), (0x1680, 0x1680), (0x2000, 0x200a),
    (0x2028, 0x2029), (0x202f, 0x202f), (0x205f, 0x205f), (0x3000, 0x3000)]

/-- A blank character. -/
def isBlank (c : Char) : Bool := inRanges blankRanges c.toNat

/-- The text after its leading blanks. -/
def skipBlanks (s : List Char) : List Char := s.dropWhile isBlank

/-- The text after at least one leading blank. -/
def skipBlanks1? : List Char → Option (List Char)
  | [] => none
  | c :: s => if isBlank c then some (skipBlanks s) else none

/-- The text without the blanks at its end. -/
def dropTrailingBlanks : List Char → List Char
  | [] => []
  | c :: s =>
    match dropTrailingBlanks s with
    | [] => if isBlank c then [] else [c]
    | r => c :: r

/-- The text without the blanks at both ends. -/
def strip (s : List Char) : List Char := dropTrailingBlanks (skipBlanks s)

end StoryState.Text
