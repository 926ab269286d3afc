import StoryState.Text.Basic

/-!
Macros: names in `${…}` that stand for values of a scope. A macro may stand for a feed of recent
history instead; such a macro becomes a placeholder, which is filled when the history is read.
-/

namespace StoryState

open StoryState.Text

namespace Macro

/-- The rounds of replacement unless they are given. -/
def defaultDepth : Nat := 10

/-- The body of a macro: everything between its braces, which holds no brace and is not empty. -/
def macro? : Scanner (List Char) := fun s => do
  let s ← dropLead? ['$', '\x7b'] s
  let body := s.takeWhile fun c => c ≠ '\x7b' && c ≠ '\x7d'
  if body = [] then none
  else
    match s.drop body.length with
    | '\x7d' :: rest => some (body, rest)
    | _ => none

end Macro

/-- The feeds of history that a macro can stand for. -/
inductive Feed where
  | script
  | chat
deriving DecidableEq, Repr

namespace Feed

/-- All feeds. -/
def all : List Feed := [.script, .chat]

/-- The name of the macro that stands for a feed. -/
def macroName : Feed → String
  | .script => "scriptHistoryRecent"
  | .chat => "characterChatRecent"

/-- The name of a feed in placeholders. -/
def name : Feed → String
  | .script => "scriptHistory"
  | .chat => "chatHistory"

/-- What is shown for a feed without entries. -/
def emptyText : Feed → String
  | .script => "暂无剧本历史"
  | .chat => "暂无聊天历史"

/-- The feed of a macro's name. -/
def ofMacroName? (s : List Char) : Option Feed := all.find? fun f => f.macroName.toList = s

/-- The feed of a name in a placeholder. -/
def ofName? (s : String) : Option Feed := all.find? fun f => f.name = s

/-- The entries of a feed that a macro asks for unless it says how many. -/
def defaultCount : Nat := 10

end Feed

/-- The feed that a macro's body stands for: its part before the first colon names it. -/
def Macro.feed? (body : List Char) : Option Feed :=
  (splitOn ':' body).head?.bind Feed.ofMacroName?

/-- A place for the newest entries of a feed. -/
structure Placeholder where
  /-- What kind of feed, by its name. -/
  feed : String
  /-- Whose feed. -/
  id : String
  /-- How many entries, in digits. -/
  count : String
deriving DecidableEq, Repr

/-- The text of a placeholder. -/
def Placeholder.text (p : Placeholder) : String :=
  "[DYNAMIC:" ++ p.feed ++ ":" ++ p.id ++ ":" ++ p.count ++ "]"

end StoryState
