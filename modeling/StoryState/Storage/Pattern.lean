/-!
Patterns of texts in which a percent sign stands for any characters and a low line for one. The case
of ASCII letters does not matter.
-/

namespace StoryState.Storage

/-- Characters that match each other. -/
def alike (a b : Char) : Bool := a.toLower = b.toLower

/-- Whether a pattern matches a whole text. -/
def matchesAll : List Char → List Char → Bool
  | [], s => s.isEmpty
  | '%' :: p, [] => matchesAll p []
  | '%' :: p, c :: s => matchesAll p (c :: s) || matchesAll ('%' :: p) s
  | _ :: _, [] => false
  | q :: p, c :: s => (q = '_' || alike q c) && matchesAll p s
termination_by p s => p.length + s.length

/-- The part of a text that is looked at: nothing behind a null character. -/
def visible (s : List Char) : List Char := s.takeWhile (· ≠ '\x00')

/-- Whether a pattern matches a text. -/
def like (pattern s : String) : Bool := matchesAll (visible pattern.toList) (visible s.toList)

end StoryState.Storage
