import StoryState.Proofs.Story.Once
import StoryState.Proofs.Story.Short

/-!
Scripts whose states can all be written. An act may put a state in memory that is too long to be
written, but then it stops, since it cannot store it; so what goes through leaves only states that can
be written (`Deed.writable`).
-/

namespace StoryState

namespace Script

open StoryState.Task

/-- Every state that can be read is short enough to be written. -/
def Writable (s : Script) : Prop := ∀ c m, s.story.state? c = some m → m.Short

variable {α β : Type} {c d : Scope} {s s₁ s' : Script}

theorem state?_of_isOpen (h : (s.story.cell c).isOpen = true) : s.story.state? c = some (s.memory c) := by
  cases c with
  | global => rfl
  | character id =>
    unfold Story.state?
    rw [if_pos h]
    rfl

theorem Same.state? (h : Same c s s') : s'.story.state? c = s.story.state? c := by
  cases c with
  | global => exact congrArg (fun x : Cell => some x.state) h.cell
  | character id => rw [Story.state?, Story.state?, h.cell]

theorem Writable.short (h : Writable s) (hopen : (s.story.cell c).isOpen = true) : (s.memory c).Short :=
  h c _ (state?_of_isOpen hopen)

/-- What changes only one scope has only that to answer for. -/
theorem Writable.onlyAt (h : Writable s) (only : OnlyAt c s s')
    (own : (s'.story.state? c).isSome → (s'.memory c).Short) : Writable s' := by
  intro d m hm
  by_cases hd : d = c
  · subst hd
    obtain rfl := memory_of_state? hm
    exact own (by rw [hm]; rfl)
  · exact h d m ((only.2 d hd).state?.trans hm)

theorem LocalTo.onlyAt_of_ok {t : ScriptTask α} (h : LocalTo c t) {a : α}
    (hend : t.alone s = (.ok a, s')) : OnlyAt c s s' := by
  have honly := h.onlyAt s
  rwa [hend] at honly

/-! ### Opening and storing -/

theorem short_of_persist {u : Unit} (h : (persist c).alone s = (.ok u, s')) : (s'.memory c).Short := by
  by_cases hstore : CanStore c s
  · obtain ⟨text, hpayload, hend⟩ := alone_persist_of_canStore hstore
    rw [hend] at h
    cases h
    rw [memory_markStored]
    exact State.payload_iff_short.1 ⟨text, hpayload⟩
  · obtain ⟨e, hend⟩ := alone_persist_of_not_canStore hstore
    rw [hend] at h
    cases h

theorem short_of_initialise {u : Unit} (h : (initialise c none).alone s = (.ok u, s')) :
    (s'.memory c).Short := by
  rw [alone_initialise] at h
  split at h
  · cases h
  · cases hstored : s.storedState c with
    | some m =>
      rw [hstored] at h
      cases h
      rw [memory_openWith]
      exact short_of_storedState hstored
    | none =>
      rw [hstored] at h
      exact short_of_persist h

theorem short_of_ensureOpen {u : Unit} (hs : Writable s) (h : (ensureOpen c).alone s = (.ok u, s')) :
    (s'.memory c).Short := by
  rw [alone_ensureOpen] at h
  split at h
  · rename_i hopen
    cases h
    exact hs.short hopen
  · exact short_of_initialise h

theorem writable_persist : (persist c).Preserves Writable :=
  fun _ _ _ h hs => hs.onlyAt (local_persist.onlyAt_of_ok h) fun _ => short_of_persist h

theorem writable_ensureOpen : (ensureOpen c).Preserves Writable :=
  fun _ _ _ h hs => hs.onlyAt (local_ensureOpen.onlyAt_of_ok h) fun _ => short_of_ensureOpen hs h

/-- Opening a scope with a state that is stored behind it. -/
theorem writable_openAndPersist {m : State} {u : Unit} (hs : Writable s)
    (h : (persist c).alone (openWith c m s) = (.ok u, s')) : Writable s' :=
  hs.onlyAt (openWith_onlyAt.trans (local_persist.onlyAt_of_ok h)) fun _ => short_of_persist h

theorem writable_initialise (config : Option (Except Fault State)) :
    (initialise c config).Preserves Writable := by
  cases config with
  | none =>
    exact fun s u s' h hs =>
      hs.onlyAt ((local_initialise none).onlyAt_of_ok h) fun _ => short_of_initialise h
  | some config =>
    refine .bind (.ofExcept _) fun m s u s' h hs => ?_
    rw [alone_modify] at h
    exact writable_openAndPersist hs h

/-! ### Operations -/

/-- Who rewrites the state of a scope and goes through has stored it, or left it as it was opened. -/
theorem Rewrites.short {R : TagNames → State → State → Prop} {t : ScriptTask β} (h : Rewrites c R t)
    (hs : Writable s) {b : β} (hend : t.alone s = (.ok b, s')) : (s'.memory c).Short := by
  cases h with
  | @carryOut run f along silent =>
    obtain ⟨result, hend⟩ := alone_map_ok hend
    obtain ⟨s₁, m, hopen, hrun, hend⟩ := alone_carryOut_ok hend
    split at hend
    · exact short_of_persist hend
    · rename_i hkept
      simp only [Bool.or_eq_true, not_or, Bool.not_eq_true] at hkept
      have hsame := silent s₁.story.names (s₁.memory c) result (by rw [hrun]) hkept.1
      rw [hend, memory_setState, show m = _ from hrun ▸ hsame]
      exact short_of_ensureOpen hs hopen
  | edit f along =>
    obtain ⟨_, hend⟩ := alone_map_ok hend
    obtain ⟨s₁, hopen, -⟩ := alone_onOpen_ok hend
    rw [alone_edit hopen] at hend
    split at hend
    · cases hend
    · exact short_of_persist hend
  | editIf f along =>
    obtain ⟨_, hend⟩ := alone_map_ok hend
    obtain ⟨s₁, hopen, -⟩ := alone_onOpen_ok hend
    rw [alone_editIf hopen] at hend
    split at hend
    · cases hend
    · cases hend
      exact short_of_ensureOpen hs hopen
    · obtain ⟨_, s₂, hpersist, hdone⟩ := alone_bind_ok hend
      cases hdone
      exact short_of_persist hpersist

theorem writable_replaceMacros (text : String) : (replaceMacros c text).Preserves Writable := by
  intro s r s' h hs
  have hages := ((inside_replaceMacros Eq).endsIn (endsIn_alone (fun _ => rfl) (replaceMacros c text) s)).1
  rw [h] at hages
  refine hs.onlyAt hages.1 fun hread => ?_
  have hshort : (s.memory c).Short := by
    cases c with
    | global => exact hs .global _ rfl
    | character id =>
      unfold Story.state? at hread
      dsimp only at hread
      rw [hages.2.isOpen] at hread
      split at hread
      · exact hs.short ‹_›
      · cases hread
  exact hages.2.state.short hshort

theorem writable_storeMarked : (storeMarked c).Preserves Writable := by
  refine .get fun s => ?_
  dsimp only
  split
  · exact .bind writable_persist fun _ => .pure _
  · exact .pure _

theorem writable_persistIfDirty : (persistIfDirty c).Preserves Writable := .holding writable_storeMarked

theorem writable_renderMacros (history : History) (text : String) :
    (renderMacros history c text).Preserves Writable := by
  have hopen : (renderOpen history c text).Preserves Writable := by
    refine .bind (writable_replaceMacros text) fun _ => .get fun s => ?_
    split
    · exact .bind (.map writable_persistIfDirty) fun _ => .ofExcept _
    · exact .ofExcept _
  refine .get fun s => ?_
  split
  · exact .bind (.holding writable_ensureOpen) fun _ => hopen
  · exact hopen

theorem writable_flush : flush.Preserves Writable := by
  have hall : ∀ scopes, (flushAll scopes).Preserves Writable := by
    intro scopes
    induction scopes with
    | nil => exact .pure _
    | cons c scopes ih => exact .bind writable_persistIfDirty fun _ => .map ih
  exact .get fun s => hall _

/-! ### Snapshots -/

theorem writable_closeOthers (snap : Snapshot) (hs : Writable s) : Writable (closeOthers snap s) := by
  intro d m hm
  rcases cell_closeOthers snap s d with h | ⟨id, rfl, -, hcell⟩
  · exact hs d m (h.state?.symm.trans hm)
  · rw [Story.state?, hcell] at hm
    cases hm

theorem writable_putSnapshot (snap : Snapshot) : (putSnapshot snap).Preserves Writable := by
  have hreplace : ∀ c m, (replaceState c m).Preserves Writable := by
    refine fun c m => .holding fun s u s' h hs => ?_
    rw [alone_modify] at h
    exact writable_openAndPersist hs h
  have hall : ∀ states, (replaceStates states).Preserves Writable := by
    intro states
    induction states with
    | nil => exact .pure _
    | cons entry states ih => exact .bind (hreplace _ _) fun _ => ih
  exact .bind (hreplace _ _) fun _ =>
    .bind (.modify fun _ => writable_closeOthers snap) fun _ => hall _

theorem writable_takeSnapshot : Script.takeSnapshot.Preserves Writable := by
  intro s snap s' h hs
  have hsame := endsIn_takeSnapshot (endsIn_alone (fun s => weather_of_eq rfl) Script.takeSnapshot s)
  rw [h] at hsame
  obtain rfl : s' = s := hsame
  exact hs

end Script

open Script

/-- A deed that goes through leaves only states that can be written. -/
theorem Deed.writable (d : Deed) : d.task.Preserves Writable := by
  cases d with
  | operation op =>
    cases op with
    | on c call =>
      intro s a s' h hs
      have honly := (call.guarded c).onlyAt s
      replace h : (call.task c).alone s = (.ok a, s') := h
      rw [h] at honly
      exact hs.onlyAt honly fun _ => (call.rewrites c).short hs h
    | readMacros c text => exact .map (writable_replaceMacros text)
    | renderMacros history c text => exact .map (writable_renderMacros history text)
    | flush => exact .map writable_flush
  | initialise c config => exact .map (.holding (writable_initialise config))
  | putSnapshot snap => exact .map (writable_putSnapshot snap)
  | takeSnapshot => exact .map writable_takeSnapshot
  | renameTags overrides =>
    refine .map (.bind (.modify fun s hs c => ?_) fun _ => .get fun _ => .pure _)
    cases c with
    | global => exact hs .global
    | character id => exact hs (.character id)
  | look f => exact .get fun s => .ofExcept _

end StoryState
