import StoryState.Json.Writer
import StoryState.Scope

/-!
Events of a story, as one line of JSON that says which script and scope they concern.
-/

namespace StoryState

/-- An event. -/
structure Event where
  kind : Value
  details : Value
  scriptId : Option Value := none
  scope : Option Scope := none

/-- The record of an event; what it does not concern is left out. -/
def Event.toValue (e : Event) : Value :=
  .object ([("event_type", e.kind)] ++ (e.scriptId.map fun id => ("script_id", id)).toList ++
    (e.scope.map fun s => ("scope", Value.text s.name)).toList ++ [("details", e.details)])

/-- The line of an event. -/
def Event.line (e : Event) : Except Fault String := Json.render .spaced e.toValue

end StoryState
