import StoryState.Text.Basic
import StoryState.Text.Blank

/-!
The parts of a directive's tag: its opening, its attributes, and what lies before the closing tag.
-/

namespace StoryState.Directive

open StoryState.Text

/-- The text behind `<tag`. -/
def opening? (tag : String) (s : List Char) : Option (List Char) := dropLead? ('<' :: tag.toList) s

/-- The closing tag. -/
def closing (tag : String) : List Char := '<' :: '/' :: (tag.toList ++ ['>'])

/-- A field in quotes of the given kind, which it cannot hold. -/
def quoted? (quote : Char) (s : List Char) : Option (String × List Char) :=
  match dropLead? [quote] s with
  | none => none
  | some s =>
    match s.dropWhile (· ≠ quote) with
    | _ :: rest => some (String.ofList (s.takeWhile (· ≠ quote)), rest)
    | [] => none

/-- A field in quotes that is not empty. -/
def quotedNonEmpty? (quote : Char) (s : List Char) : Option (String × List Char) :=
  match quoted? quote s with
  | some ("", _) | none => none
  | some found => some found

/-- The text behind blanks and `name=`. -/
def attributeName? (name : String) (s : List Char) : Option (List Char) :=
  (skipBlanks1? s).bind (dropLead? (name.toList ++ ['=']))

/-- An attribute, whose value may be empty. -/
def attribute? (name : String) (s : List Char) : Option (String × List Char) :=
  (attributeName? name s).bind (quoted? '"')

/-- An attribute with a value that is not empty. -/
def attributeNonEmpty? (name : String) (s : List Char) : Option (String × List Char) :=
  (attributeName? name s).bind (quotedNonEmpty? '"')

/-- An attribute in quotes of either kind. -/
def attributeEither? (name : String) (read : Char → Scanner String) (s : List Char) :
    Option (String × List Char) :=
  (attributeName? name s).bind fun s => (read '"' s).orElse fun _ => read '\'' s

/-- The text behind blanks and the end of a tag. -/
def tagEnd? (mark : List Char) (s : List Char) : Option (List Char) := dropLead? mark (skipBlanks s)

/-- The content up to the first closing tag. -/
def content? (tag : String) (s : List Char) : Option (String × List Char) :=
  (cutAt? (closing tag) s).map fun (content, rest) => (String.ofList content, rest)

end StoryState.Directive
