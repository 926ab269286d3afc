import StoryState.Proofs.Story.Made

/-!
What no act on a script ever changes, at any of its strokes: whose script it is and how its store
behaves; and the global scope is not closed (`Made.lasts`).
-/

namespace StoryState

namespace Script

/-- Whose script it is and how its store behaves is the same, and the global scope has not been closed. -/
structure Lasts (s s' : Script) : Prop where
  scriptId : s'.story.scriptId = s.story.scriptId
  outage : s'.store.outage = s.store.outage
  isOpen : s.story.global.isOpen = true → s'.story.global.isOpen = true

variable {α : Type} {c : Scope} {s s' s'' : Script}

theorem Lasts.refl (s : Script) : Lasts s s := ⟨rfl, rfl, id⟩

theorem Lasts.trans (h : Lasts s s') (h' : Lasts s' s'') : Lasts s s'' :=
  ⟨h'.scriptId.trans h.scriptId, h'.outage.trans h.outage, h'.isOpen ∘ h.isOpen⟩

theorem Write.lasts {C : Scope → Prop} (h : Write C s s') : Lasts s s' := by
  cases h with
  | @setCell c own x stays =>
    cases c with
    | global => exact ⟨rfl, rfl, stays rfl⟩
    | character _ => exact ⟨rfl, rfl, fun h => h⟩
  | @openWith c own state =>
    cases c with
    | global => exact ⟨rfl, rfl, fun _ => rfl⟩
    | character _ =>
      unfold Script.openWith Story.openWith
      dsimp only
      split <;> exact ⟨rfl, rfl, fun h => h⟩
  | save own payload => exact ⟨rfl, rfl, id⟩
  | rename all names => exact ⟨rfl, rfl, id⟩

theorem lasts_of_writes {C : Scope → Prop} (h : Writes C s s') : Lasts s s' := by
  induction h with
  | refl => exact .refl s
  | tail _ hwrite ih => exact ih.trans hwrite.lasts

theorem Made.lasts {C : Scope → Prop} {held : Bool} {t : ScriptTask α} (h : Made C held t) :
    t.Along Lasts :=
  (h.confined (K := fun _ => True) (fun _ _ => trivial) fun _ _ => lasts_of_writes).along

theorem lasts_tryOpen (config : Option (Except Fault State)) : (tryOpen c config).Along Lasts :=
  (made_tryOpen (C := (· = c)) rfl config).lasts

theorem lasts_tryRegistrations (text : String) : (tryRegistrations c text).Along Lasts :=
  (made_tryRegistrations (C := (· = c)) rfl text).lasts

theorem lasts_persistIfDirty : (persistIfDirty c).Along Lasts :=
  (made_persistIfDirty (C := (· = c)) rfl).lasts

theorem lasts_flush : flush.Along Lasts := (made_flush fun _ => trivial).lasts

end Script

open Script

theorem Deed.lasts (d : Deed) : d.task.Along Lasts := d.made.lasts

end StoryState
