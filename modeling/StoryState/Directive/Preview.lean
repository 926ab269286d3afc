import StoryState.Directive.Basic
import StoryState.Text.Entity

/-!
What a text says without being carried out: whether any directive begins in it, which directives it
holds, and what is left without them.
-/

namespace StoryState.Directive

open StoryState.Text

/-- A scanner that forgets what it reads. -/
def forget {α : Type} (scan : Scanner α) : Scanner Unit := fun s => (scan s).map fun (_, s) => ((), s)

/-- The forms of all directives. -/
def allForms (names : TagNames) : List (Scanner Unit) :=
  (changeForms names).map forget ++ (registrationForms names).map forget

/-- Whether an opening tag is at the head: a tag's name, then a blank, `>` or `/`. -/
def opensHere (names : TagNames) (s : List Char) : Bool :=
  Tag.all.any fun t =>
    match opening? (names t) s with
    | some (c :: _) => isBlank c || c == '>' || c == '/'
    | _ => false

/-- Whether an opening tag is anywhere. -/
def opensSomewhere (names : TagNames) : List Char → Bool
  | [] => false
  | c :: s => opensHere names (c :: s) || opensSomewhere names s

/-- Whether any directive begins in the text. -/
def occurs (names : TagNames) (text : String) : Bool :=
  opensSomewhere names (decodeEntities text.toList)

/-- A match in a text, from its first place to the place behind it. -/
structure Occurrence where
  start : Nat
  stop : Nat
  raw : List Char
deriving DecidableEq, Repr

/-- The matches among segments that begin at a place. -/
def occurrencesFrom {α : Type} (start : Nat) : List (Segment α) → List Occurrence
  | [] => []
  | .plain _ :: more => occurrencesFrom (start + 1) more
  | .hit raw _ :: more =>
    ⟨start, start + raw.length, raw⟩ :: occurrencesFrom (start + raw.length) more

/-- The order by first place, then by the place behind. -/
def Occurrence.le (a b : Occurrence) : Bool :=
  a.start < b.start || (a.start == b.start && a.stop ≤ b.stop)

/-- Keeps those matches that begin where the one kept last has ended. -/
def disjoint (free : Nat) : List Occurrence → List Occurrence
  | [] => []
  | o :: more => if o.start < free then disjoint free more else o :: disjoint o.stop more

/-- The matches of all forms, without those that overlap an earlier one. -/
def occurrences (names : TagNames) (s : List Char) : List Occurrence :=
  let all := (allForms names).flatMap fun scan => occurrencesFrom 0 (segments scan s)
  disjoint 0 (all.mergeSort Occurrence.le)

/-- The directives of a text, in its order. -/
def extract (names : TagNames) (text : String) : List String :=
  (occurrences names (decodeEntities text.toList)).map fun o => String.ofList o.raw

/-- The text without its directives. -/
def strip (names : TagNames) (text : String) : String :=
  String.ofList <| (allForms names).foldl (fun s scan => substitute scan (fun _ _ => []) s)
    (decodeEntities text.toList)

end StoryState.Directive
