import StoryState.Proofs.Directive.Renaming
import StoryState.Proofs.Service.Errand

/-!
Dropping the story of a script and opening it again. Whatever was asked of a service before, as long as
what stops midway leaves nothing that is neither stored nor marked, all that is known of the script comes
back; but the variables that every script has are registered anew, so they have their first texts again
(`reopened`).
-/

namespace StoryState

open Script StoryState.Task

namespace Service

variable {id : String} {number : Nat} {σ : Service}

/-- The stores work, and no story is open yet. -/
structure Fresh (σ : Service) : Prop where
  closed : σ.openStories = []
  works : ∀ key, (σ.storeOf key).outage = .none

theorem Fresh.kept (h : Fresh σ) (id : String) : Kept id σ := by
  refine ⟨h.closed ▸ Entries.once_nil, h.works, fun key n hn => ?_⟩
  rw [h.closed] at hn
  cases hn

/-- The story of a script is dropped after storing what has changed, and asked for again. -/
def reopen (id : String) : ServiceTask Nat := do
  discard (retire id)
  find id

end Service

end StoryState
