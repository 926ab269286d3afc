/-!
Searching and cutting texts as lists of characters: the first occurrence of a needle, splitting at a
separator, replacing every occurrence, and cutting a text into the matches of a scanner and the
characters between them.
-/

namespace StoryState.Text

/-- What follows `needle` at the head of the text. -/
def dropLead? : List Char → List Char → Option (List Char)
  | [], s => some s
  | _ :: _, [] => none
  | n :: ns, c :: s => if n = c then dropLead? ns s else none

/-- The text before and after the first occurrence of `needle`. -/
def cutAt? (needle : List Char) : List Char → Option (List Char × List Char)
  | [] => if needle = [] then some ([], []) else none
  | c :: s =>
    match dropLead? needle (c :: s) with
    | some rest => some ([], rest)
    | none => (cutAt? needle s).map fun (before, after) => (c :: before, after)

/-- The pieces between the separators; there is one more of them than there are separators. -/
def splitOn (sep : Char) : List Char → List (List Char)
  | [] => [[]]
  | c :: s =>
    if c = sep then [] :: splitOn sep s
    else
      match splitOn sep s with
      | [] => [[c]]
      | piece :: pieces => (c :: piece) :: pieces

/-- The pieces put together again with a separator between neighbours. -/
def joinWith (sep : List Char) : List (List Char) → List Char
  | [] => []
  | [piece] => piece
  | piece :: pieces => piece ++ sep ++ joinWith sep pieces

/-- Replaces the occurrences of `old` after the first `k` characters, which an occurrence found
earlier covers. -/
def replaceFrom (old new : List Char) : Nat → List Char → List Char
  | _, [] => []
  | k + 1, _ :: s => replaceFrom old new k s
  | 0, c :: s =>
    if (dropLead? old (c :: s)).isSome then new ++ replaceFrom old new (old.length - 1) s
    else c :: replaceFrom old new 0 s

/-- Replaces every occurrence of `old`, from left to right and without overlap. -/
def replaceAll (old new s : List Char) : List Char := replaceFrom old new 0 s

/-! ### Cutting a text by a scanner -/

/-- A scanner looks at the head of a text and gives what it read and the rest. -/
abbrev Scanner (α : Type) := List Char → Option (α × List Char)

/-- A piece of a text: a character outside every match, or a match with what was read from it. -/
inductive Segment (α : Type) where
  | plain (c : Char)
  | hit (raw : List Char) (fields : α)

/-- The characters that a segment covers. -/
def Segment.raw {α : Type} : Segment α → List Char
  | .plain c => [c]
  | .hit raw _ => raw

/-- The segments after the first `k` characters, which the match found last covers. -/
def segmentsFrom {α : Type} (scan : Scanner α) : Nat → List Char → List (Segment α)
  | _, [] => []
  | k + 1, _ :: s => segmentsFrom scan k s
  | 0, c :: s =>
    match scan (c :: s) with
    | none => .plain c :: segmentsFrom scan 0 s
    | some (fields, rest) =>
      let size := s.length + 1 - rest.length
      .hit ((c :: s).take size) fields :: segmentsFrom scan (size - 1) s

/-- The text cut into the scanner's matches, found from left to right and without overlap, and the
characters between them. -/
def segments {α : Type} (scan : Scanner α) (s : List Char) : List (Segment α) :=
  segmentsFrom scan 0 s

/-- The text with every match replaced. -/
def substitute {α : Type} (scan : Scanner α) (f : List Char → α → List Char) (s : List Char) :
    List Char :=
  (segments scan s).flatMap fun
    | .plain c => [c]
    | .hit raw fields => f raw fields

/-- The text with every match replaced by what an action answers for it, in text order. -/
def substituteM {m : Type → Type} [Monad m] {α : Type} (scan : Scanner α)
    (f : List Char → α → m (List Char)) (s : List Char) : m (List Char) := do
  let pieces ← (segments scan s).mapM fun
    | .plain c => pure [c]
    | .hit raw fields => f raw fields
  return pieces.flatten

/-- What the scanner reads from its matches, in text order. -/
def hits {α : Type} (scan : Scanner α) (s : List Char) : List α :=
  (segments scan s).filterMap fun
    | .plain _ => none
    | .hit _ fields => some fields

/-! ### Laws -/

theorem dropLead?_eq_some_iff {n s r : List Char} : dropLead? n s = some r ↔ s = n ++ r := by
  induction n generalizing s with
  | nil => simp [dropLead?, eq_comm]
  | cons c n ih =>
    cases s with
    | nil => simp [dropLead?]
    | cons d s =>
      by_cases h : c = d
      · simp [dropLead?, h, ih]
      · simp [dropLead?, h, Ne.symm h]

end StoryState.Text
