import StoryState.Text.Basic
import StoryState.Text.Blank

/-!
The spellings of a condition. Operators may be written with signs or with words; the signs are
replaced by the words everywhere except inside quoted texts.
-/

namespace StoryState.Condition

open StoryState.Text

/-- The text behind the body of a quoted text, in which a back slash takes the next character with
it unless that is a line break. -/
def quotedBody? (quote : Char) : List Char → Option (List Char)
  | [] => none
  | '\\' :: c :: s => if c = '\n' then none else quotedBody? quote s
  | c :: s => if c = quote then some s else if c = '\\' then none else quotedBody? quote s

/-- A quoted text at the head. -/
def quotedText? : Scanner Unit
  | '"' :: s => (quotedBody? '"' s).map ((), ·)
  | '\'' :: s => (quotedBody? '\'' s).map ((), ·)
  | _ => none

/-- Replaces each exclamation mark by a word, unless an equals sign follows. -/
def spellNot : List Char → List Char
  | [] => []
  | '!' :: '=' :: s => '!' :: '=' :: spellNot s
  | '!' :: s => " not ".toList ++ spellNot s
  | c :: s => c :: spellNot s

/-- The signs and the words that replace them, in order. -/
def spellings : List (List Char × List Char) :=
  [("===".toList, "==".toList), ("!==".toList, "!=".toList), ("&&".toList, " and ".toList),
    ("||".toList, " or ".toList)]

/-- The text between quoted texts with words for signs. -/
def spellWords (s : List Char) : List Char :=
  spellNot (spellings.foldl (fun s (sign, word) => replaceAll sign word s) s)

/-- Spells the stretches between quoted texts; `plain` is the stretch so far, in reverse. -/
def spellBetween (plain : List Char) : List (Segment Unit) → List Char
  | [] => spellWords plain.reverse
  | .plain c :: more => spellBetween (c :: plain) more
  | .hit raw _ :: more => spellWords plain.reverse ++ raw ++ spellBetween [] more

/-- The condition with words for signs. -/
def normalize (s : List Char) : List Char := strip (spellBetween [] (segments quotedText? (strip s)))

end StoryState.Condition
