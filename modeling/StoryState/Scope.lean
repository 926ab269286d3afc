/-!
Scopes: the global one, and one for each character. A scope has a name for its lock and a key for
its stored payload.
-/

namespace StoryState

/-- The scope of a state. -/
inductive Scope where
  | global
  | character (id : String)
deriving DecidableEq, Repr

namespace Scope

/-- The scope of a character, or the global one where no character is named. -/
def ofId (id : Option String) : Scope :=
  match id with
  | none | some "" => .global
  | some id => .character id

/-- Whose scope it is. -/
def characterId? : Scope → Option String
  | .global => none
  | .character id => some id

/-- The name of the scope's lock. -/
def lockName : Scope → String
  | .global => "parse_commands_global"
  | .character id => "parse_commands_" ++ id

/-- The key of the scope's payload. -/
def storageKey : Scope → String
  | .global => "global"
  | .character id => "character_" ++ id

/-- The name of the scope in logs. -/
def name : Scope → String
  | .global => "global"
  | .character id => "character:" ++ id

end Scope

end StoryState
