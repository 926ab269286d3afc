import StoryState.Text.Basic

/-!
Character entities in texts. Each of the five entities is replaced everywhere before the next one is
looked for, the ampersand last.
-/

namespace StoryState.Text

/-- The entities and the characters that they stand for, in the order of their replacement. -/
def entities : List (List Char × Char) :=
  [("&quot;".toList, '"'), ("&#39;".toList, '\''), ("&lt;".toList, '<'), ("&gt;".toList, '>'),
    ("&amp;".toList, '&')]

/-- The text with its entities replaced by their characters. -/
def decodeEntities (s : List Char) : List Char :=
  entities.foldl (fun s (entity, c) => replaceAll entity [c] s) s

end StoryState.Text
