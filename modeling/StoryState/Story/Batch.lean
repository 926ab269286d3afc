import StoryState.Directive.Registration
import StoryState.History.Feed
import StoryState.Macro.Resolve
import StoryState.Story.Basic

/-!
Texts carried out on a scope: their directives, which are stored at once, and their macros, which
are read without the lock of the scope; what expires on reading is stored afterwards.
-/

namespace StoryState.Script

/-! ### Directives -/

/-- Carries out a batch on a scope and stores its state if the batch reported anything, or if
something else is still to be stored. -/
def carryOut (scope : Scope) (run : TagNames → State → Except Fault BatchResult × State) :
    ScriptTask BatchResult :=
  onOpen scope do
    let story := (← get).story
    let (outcome, state) := run story.names (story.cell scope).state
    modify (setState scope state)
    let result ← .ofExcept outcome
    if result.changed || ((← get).story.cell scope).isDirty then persist scope
    return result

/-- Carries out the changes of a text. -/
def applyChanges (scope : Scope) (text : String) : ScriptTask BatchResult :=
  carryOut scope (State.applyChanges · text)

/-- Carries out the registrations of a text. -/
def applyRegistrations (scope : Scope) (text : String) : ScriptTask BatchResult :=
  carryOut scope (State.applyRegistrations · text)

/-- Carries out the changes of a text; if that fails the text is its own result. -/
def tryChanges (scope : Scope) (text : String) : ScriptTask BatchResult :=
  orElse (applyChanges scope text) ⟨text, [], []⟩

/-- Carries out the registrations of a text; answers whether none was refused. -/
def tryRegistrations (scope : Scope) (text : String) : ScriptTask Bool :=
  orElse (do return (← applyRegistrations scope text).errors.isEmpty) false

/-! ### Macros -/

/-- The text with its macros replaced, as far as the scope can be read. Feeds become placeholders. -/
def replaceMacros (scope : Scope) (text : String) : ScriptTask String := do
  let story := (← get).story
  match story.state? scope with
  | none => return text
  | some state => do
    let seen := state.replaceMacros (story.defaultId scope) text
    modify (setState scope seen.state)
    let result ← .ofExcept seen.result
    if !seen.expired.isEmpty then modify (setDirty scope true)
    return result

/-- Stores the state of a scope if it has changed since it was stored; answers whether it had. The
lock of the scope is held. -/
def storeMarked (scope : Scope) : ScriptTask Bool := do
  let story := (← get).story
  if (story.cell scope).isDirty && (story.state? scope).isSome then
    persist scope
    return true
  return false

/-- Stores the state of a scope if it has changed since it was stored; answers whether it had. -/
def persistIfDirty (scope : Scope) : ScriptTask Bool := holding scope (storeMarked scope)

/-- The text with its macros replaced and its placeholders filled. What has expired is stored. -/
def renderOpen (history : History) (scope : Scope) (text : String) : ScriptTask String := do
  let result ← replaceMacros scope text
  if ((← get).story.cell scope).isDirty then discard (persistIfDirty scope)
  .ofExcept (history.fillPlaceholders result)

/-- The text with its macros replaced and its placeholders filled. The scope is opened first, and
what has expired is stored. -/
def renderMacros (history : History) (scope : Scope) (text : String) : ScriptTask String := do
  if !((← get).story.cell scope).isOpen then holding scope (ensureOpen scope)
  renderOpen history scope text

/-- The text with its macros replaced and its placeholders filled, or the text as it is if that
fails. -/
def tryMacros (history : History) (scope : Scope) (text : String) : ScriptTask String :=
  orElse (renderMacros history scope text) text

/-- Stores the states of some scopes as far as they have changed; answers how many had. -/
def flushAll : List Scope → ScriptTask Nat
  | [] => pure 0
  | scope :: scopes => do
    let stored ← persistIfDirty scope
    return (← flushAll scopes) + (if stored then 1 else 0)

/-- Stores all states that have changed since they were stored; answers how many. -/
def flush : ScriptTask Nat := do flushAll (← get).story.dirtyScopes

end StoryState.Script
