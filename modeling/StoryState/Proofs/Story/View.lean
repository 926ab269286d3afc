import StoryState.Proofs.Entries
import StoryState.Story.Basic

/-!
What belongs to a scope: its cell in memory and the payload under its key. Two scripts agree on a
scope (`Script.Agree`) if these are the same and both work by the same rules; what is done to a
scope leaves what belongs to the others as it is (`Script.OnlyAt`).
-/

namespace StoryState

/-! ### Keys -/

/-- No two scopes store under one key. -/
theorem Scope.storageKey_injective {c d : Scope} (h : c.storageKey = d.storageKey) : c = d := by
  have hne : ∀ id : String, "global" ≠ "character_" ++ id := by
    intro id heq
    have := congrArg (fun s : String => s.toList.head?) heq
    simp at this
  cases c with
  | global =>
    cases d with
    | global => rfl
    | character id => exact absurd h (hne id)
  | character id =>
    cases d with
    | global => exact absurd h.symm (hne id)
    | character id' =>
      have hlist := congrArg String.toList h
      simp only [storageKey, String.toList_append] at hlist
      rw [String.toList_inj.1 (List.append_cancel_left hlist)]

namespace Story

variable {c d : Scope} {x : Cell} {s : Story}

/-- The cell of a character of which nothing is held is the empty one. -/
theorem mem_characters {id : String} (h : s.cell (.character id) ≠ {}) :
    (id, s.cell (.character id)) ∈ s.characters := by
  unfold cell at h ⊢
  dsimp only at h ⊢
  cases hcell : Entries.get? id s.characters with
  | none =>
    rw [hcell] at h
    exact absurd rfl h
  | some x => exact Entries.mem_of_get? hcell

@[simp] theorem cell_setCell_self : (s.setCell c x).cell c = x := by
  cases c with
  | global => rfl
  | character id => simp [setCell, cell, Entries.get?_put_self]

theorem cell_setCell_of_ne (h : d ≠ c) : (s.setCell c x).cell d = s.cell d := by
  cases c with
  | global =>
    cases d with
    | global => exact absurd rfl h
    | character id => rfl
  | character id =>
    cases d with
    | global => rfl
    | character id' =>
      have hid : id ≠ id' := fun heq => h (heq ▸ rfl)
      simp [setCell, cell, Entries.get?_put_of_ne hid]

theorem openWith_cell_self {state : State} :
    (s.openWith c state).cell c = { s.cell c with state, isOpen := true } := cell_setCell_self

theorem openWith_cell_of_ne {state : State} (h : d ≠ c) :
    (s.openWith c state).cell d = s.cell d := by
  unfold openWith
  rw [cell_setCell_of_ne h]
  cases c with
  | global => rfl
  | character id =>
    dsimp only
    split
    · rfl
    · cases d with
      | global => rfl
      | character id' =>
        have hid : id ≠ id' := fun heq => h (heq ▸ rfl)
        simp [cell, Entries.get?_erase_of_ne hid]

end Story

namespace Script

/-- By which rules a script works: whose it is, the names of its tags, and how its store behaves. -/
structure SameRules (s s' : Script) : Prop where
  scriptId : s.story.scriptId = s'.story.scriptId
  names : s.story.names = s'.story.names
  outage : s.store.outage = s'.store.outage
  loadRests : s.store.loadRests = s'.store.loadRests
  saveRests : s.store.saveRests = s'.store.saveRests

/-- The payload of a scope. -/
def payload? (c : Scope) (s : Script) : Option ByteArray :=
  Entries.get? c.storageKey s.store.payloads

/-- Two scripts are the same as far as a scope can tell. -/
structure Agree (c : Scope) (s s' : Script) : Prop where
  rules : SameRules s s'
  cell : s.story.cell c = s'.story.cell c
  payload : s.payload? c = s'.payload? c

/-- Nothing has changed but what belongs to a scope. -/
def OnlyAt (c : Scope) (s s' : Script) : Prop := SameRules s s' ∧ ∀ d, d ≠ c → Agree d s s'

section Agree

variable {c d : Scope} {s t u : Script}

theorem SameRules.refl (s : Script) : SameRules s s := ⟨rfl, rfl, rfl, rfl, rfl⟩

theorem SameRules.symm (h : SameRules s t) : SameRules t s :=
  ⟨h.scriptId.symm, h.names.symm, h.outage.symm, h.loadRests.symm, h.saveRests.symm⟩

theorem SameRules.trans (h : SameRules s t) (h' : SameRules t u) : SameRules s u :=
  ⟨h.scriptId.trans h'.scriptId, h.names.trans h'.names, h.outage.trans h'.outage,
    h.loadRests.trans h'.loadRests, h.saveRests.trans h'.saveRests⟩

theorem Agree.refl (c : Scope) (s : Script) : Agree c s s := ⟨.refl s, rfl, rfl⟩

theorem Agree.symm (h : Agree c s t) : Agree c t s := ⟨h.rules.symm, h.cell.symm, h.payload.symm⟩

theorem Agree.trans (h : Agree c s t) (h' : Agree c t u) : Agree c s u :=
  ⟨h.rules.trans h'.rules, h.cell.trans h'.cell, h.payload.trans h'.payload⟩

theorem OnlyAt.refl (c : Scope) (s : Script) : OnlyAt c s s := ⟨.refl s, fun d _ => .refl d s⟩

theorem OnlyAt.trans (h : OnlyAt c s t) (h' : OnlyAt c t u) : OnlyAt c s u :=
  ⟨h.1.trans h'.1, fun d hd => (h.2 d hd).trans (h'.2 d hd)⟩

theorem Agree.state? (h : Agree c s t) : s.story.state? c = t.story.state? c := by
  cases c with
  | global => exact congrArg (fun x : Cell => some x.state) h.cell
  | character id => rw [Story.state?, Story.state?, h.cell]

end Agree

/-! ### Changes of what belongs to a scope -/

section Changes

variable {c d : Scope} {s t : Script}

theorem setCell_agree (h : Agree c s t) {f : Cell → Cell} :
    Agree c { s with story := s.story.setCell c (f (s.story.cell c)) }
      { t with story := t.story.setCell c (f (t.story.cell c)) } := by
  refine ⟨?_, ?_, h.payload⟩
  · cases c <;> exact ⟨h.rules.1, h.rules.2, h.rules.3, h.rules.4, h.rules.5⟩
  · rw [Story.cell_setCell_self, Story.cell_setCell_self, h.cell]

theorem setCell_onlyAt {x : Cell} : OnlyAt c s { s with story := s.story.setCell c x } := by
  have hrules : SameRules s { s with story := s.story.setCell c x } := by
    cases c <;> exact ⟨rfl, rfl, rfl, rfl, rfl⟩
  exact ⟨hrules, fun d hd => ⟨hrules, (Story.cell_setCell_of_ne hd).symm, rfl⟩⟩

theorem setState_agree (h : Agree c s t) (state : State) :
    Agree c (s.setState c state) (t.setState c state) :=
  setCell_agree h (f := fun x => { x with state })

theorem setDirty_agree (h : Agree c s t) (dirty : Bool) :
    Agree c (s.setDirty c dirty) (t.setDirty c dirty) :=
  setCell_agree h (f := fun x => { x with isDirty := dirty })

theorem markStored_agree (h : Agree c s t) : Agree c (s.markStored c) (t.markStored c) := by
  unfold markStored
  rw [h.cell]
  split
  · exact setDirty_agree h false
  · exact h

theorem markStored_onlyAt : OnlyAt c s (s.markStored c) := by
  unfold markStored
  split
  · exact setCell_onlyAt
  · exact .refl c s

theorem openWith_onlyAt {state : State} : OnlyAt c s (s.openWith c state) := by
  have hrules : SameRules s (s.openWith c state) := by
    unfold openWith Story.openWith
    cases c with
    | global => exact ⟨rfl, rfl, rfl, rfl, rfl⟩
    | character id =>
      dsimp only
      split <;> exact ⟨rfl, rfl, rfl, rfl, rfl⟩
  exact ⟨hrules, fun d hd => ⟨hrules, (Story.openWith_cell_of_ne hd).symm, rfl⟩⟩

theorem openWith_agree (h : Agree c s t) (state : State) :
    Agree c (s.openWith c state) (t.openWith c state) := by
  refine ⟨?_, ?_, h.payload⟩
  · exact openWith_onlyAt.1.symm.trans (h.rules.trans openWith_onlyAt.1)
  · simp only [openWith, Story.openWith_cell_self, h.cell]

theorem save_agree (h : Agree c s t) (payload : ByteArray) :
    Agree c { s with store := s.store.save c.storageKey payload }
      { t with store := t.store.save c.storageKey payload } := by
  refine ⟨⟨h.rules.1, h.rules.2, h.rules.3, h.rules.4, h.rules.5⟩, h.cell, ?_⟩
  simp [payload?, Store.save, Entries.get?_put_self]

theorem save_onlyAt {payload : ByteArray} :
    OnlyAt c s { s with store := s.store.save c.storageKey payload } := by
  have hrules : SameRules s { s with store := s.store.save c.storageKey payload } :=
    ⟨rfl, rfl, rfl, rfl, rfl⟩
  refine ⟨hrules, fun d hd => ⟨hrules, rfl, ?_⟩⟩
  have hkey : c.storageKey ≠ d.storageKey := fun heq => hd (Scope.storageKey_injective heq).symm
  simp [payload?, Store.save, Entries.get?_put_of_ne hkey]

end Changes

end Script

end StoryState
