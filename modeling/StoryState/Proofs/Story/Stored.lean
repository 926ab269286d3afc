import StoryState.Proofs.State.Expiry
import StoryState.Proofs.Story.Recovery
import StoryState.Proofs.Story.View
import StoryState.Proofs.Task.Inside

/-!
What the store holds of a scope and what memory does. While a task works on a scope others may let
the state drift (`Drift`): not at all if there are none, and by expiry if they read macros. A scope
is accounted for up to a drift (`UpTo`) if it is closed, or marked, or the store holds a state from
which memory has only drifted; `Does` carries this through the tasks that open and store a scope.
-/

namespace StoryState

/-! ### Drift -/

/-- How a state may change at the hands of others. -/
structure Drift (D : State → State → Prop) : Prop where
  refl : ∀ m, D m m
  trans : ∀ {a b c}, D a b → D b c → D a c
  storable : ∀ {a b : State}, D a b → a.Storable → b.Storable

/-- No change at all. -/
theorem drift_eq : Drift Eq := ⟨fun _ => rfl, fun h h' => h.trans h', fun h ha => h ▸ ha⟩

theorem drift_expiry : Drift Expiry := ⟨fun _ => .refl, fun h h' => h.trans h', fun h => h.storable⟩

namespace Script

/-- The state of a scope in memory. -/
def memory (c : Scope) (s : Script) : State := (s.story.cell c).state

/-- The state that the store holds of a scope, if it can be read. -/
def storedState (c : Scope) (s : Script) : Option State := (s.payload? c).bind readPayload

/-- A scope that is open and not marked is stored as it is. -/
def Accounted (c : Scope) (s : Script) : Prop :=
  (s.story.cell c).isOpen = true → (s.story.cell c).isDirty = false →
    s.storedState c = some (s.memory c)

/-- A scope that is open and not marked is stored as it is, but for a drift. -/
def UpTo (D : State → State → Prop) (c : Scope) (s : Script) : Prop :=
  (s.story.cell c).isOpen = true → (s.story.cell c).isDirty = false →
    ∃ stored, s.storedState c = some stored ∧ D stored (s.memory c)

theorem upTo_eq {c : Scope} {s : Script} : UpTo Eq c s ↔ Accounted c s := by
  refine forall_congr' fun _ => forall_congr' fun _ => ⟨?_, fun h => ⟨_, h, rfl⟩⟩
  rintro ⟨stored, h, rfl⟩
  exact h

/-- What others may do to a scope while its lock is held. -/
structure Drifts (D : State → State → Prop) (c : Scope) (s s' : Script) : Prop where
  state : D (s.memory c) (s'.memory c)
  isOpen : (s'.story.cell c).isOpen = (s.story.cell c).isOpen
  marked : (s.story.cell c).isDirty = true → (s'.story.cell c).isDirty = true
  payload : s'.payload? c = s.payload? c

/-- What a task does that works on a scope. -/
def Touches (c : Scope) (s s' : Script) : Prop := OnlyAt c s s' ∧ (s'.memory c).Storable

/-- Every scope is storable and accounted for. -/
structure Settled (s : Script) : Prop where
  storable : ∀ c, (s.memory c).Storable
  accounted : ∀ c, Accounted c s

section Drifts

variable {D : State → State → Prop} {c : Scope} {s t u : Script}

theorem Drifts.refl (hD : Drift D) (c : Scope) (s : Script) : Drifts D c s s :=
  ⟨hD.refl _, rfl, id, rfl⟩

theorem Drifts.trans (hD : Drift D) (h : Drifts D c s t) (h' : Drifts D c t u) : Drifts D c s u :=
  ⟨hD.trans h.state h'.state, h'.isOpen.trans h.isOpen, h'.marked ∘ h.marked,
    h'.payload.trans h.payload⟩

theorem Drifts.of_agree (hD : Drift D) (h : Agree c s t) : Drifts D c s t := by
  have hmemory : s.memory c = t.memory c := congrArg Cell.state h.cell
  refine ⟨hmemory ▸ hD.refl _, ?_, ?_, h.payload.symm⟩
  · rw [h.cell]
  · rw [h.cell]
    exact id

theorem Drifts.storedState (h : Drifts D c s t) : t.storedState c = s.storedState c := by
  unfold Script.storedState
  rw [h.payload]

/-- A drift leaves a scope accounted for up to a drift. -/
theorem UpTo.drift (hD : Drift D) (h : UpTo D c s) (hd : Drifts D c s t) : UpTo D c t := by
  intro hopen hclean
  have hclean' : (s.story.cell c).isDirty = false := by
    cases hm : (s.story.cell c).isDirty with
    | false => rfl
    | true =>
      rw [hd.marked hm] at hclean
      cases hclean
  obtain ⟨stored, hstored, hdrift⟩ := h (hd.isOpen.symm.trans hopen) hclean'
  exact ⟨stored, hd.storedState.trans hstored, hD.trans hdrift hd.state⟩

end Drifts

/-! ### Cells and payloads after a change -/

section Changes

variable {c : Scope} {s : Script} {state : State} {dirty : Bool} {payload : ByteArray}

@[simp] theorem cell_setState :
    (s.setState c state).story.cell c = { s.story.cell c with state } := Story.cell_setCell_self

@[simp] theorem cell_setDirty :
    (s.setDirty c dirty).story.cell c = { s.story.cell c with isDirty := dirty } :=
  Story.cell_setCell_self

@[simp] theorem cell_openWith :
    (openWith c state s).story.cell c = { s.story.cell c with state, isOpen := true } :=
  Story.openWith_cell_self

@[simp] theorem cell_markStored :
    (s.markStored c).story.cell c = { s.story.cell c with isDirty := false } := by
  unfold markStored
  split
  · exact cell_setDirty
  · rename_i h
    rw [Bool.not_eq_true] at h
    rw [← h]

@[simp] theorem payload_setState {d : Scope} : (s.setState c state).payload? d = s.payload? d := rfl

@[simp] theorem payload_openWith {d : Scope} : (openWith c state s).payload? d = s.payload? d := rfl

@[simp] theorem payload_markStored {d : Scope} : (s.markStored c).payload? d = s.payload? d := by
  unfold markStored
  split <;> rfl

@[simp] theorem payload_save :
    payload? c { s with store := s.store.save c.storageKey payload } = some payload :=
  Entries.get?_put_self ..

@[simp] theorem memory_setState : (s.setState c state).memory c = state := by simp [memory]

@[simp] theorem memory_setDirty : (s.setDirty c dirty).memory c = s.memory c := by simp [memory]

@[simp] theorem memory_openWith : (openWith c state s).memory c = state := by simp [memory]

@[simp] theorem memory_markStored : (s.markStored c).memory c = s.memory c := by simp [memory]

theorem fromUTF8?_toUTF8 (text : String) : String.fromUTF8? text.toUTF8 = some text :=
  dif_pos text.isValidUTF8

/-- A storable state is read back from its payload. -/
theorem readPayload_payload {m : State} {text : String} (hm : m.Storable) (h : m.payload = .ok text) :
    readPayload text.toUTF8 = some m :=
  readPayload_eq_some_iff.2 ⟨text, fromUTF8?_toUTF8 text, State.ofPayload_payload hm h⟩

theorem storedState_of_payload {m : State} {text : String} (hm : m.Storable) (h : m.payload = .ok text)
    (hpayload : s.payload? c = some text.toUTF8) : s.storedState c = some m := by
  unfold storedState
  rw [hpayload, Option.bind_some, readPayload_payload hm h]

theorem storable_of_storedState {m : State} (h : s.storedState c = some m) : m.Storable := by
  obtain ⟨payload, -, h⟩ := Option.bind_eq_some_iff.1 h
  obtain ⟨document, -, hread⟩ := readPayload_eq_some_iff.1 h
  exact State.storable_of_ofPayload hread

end Changes

/-- A script of which nothing has been opened yet. -/
theorem settled_fresh {scriptId : Option String} {names : TagNames} {store : Store} :
    Settled ⟨{ scriptId, names }, store⟩ where
  storable c := by cases c <;> exact State.storable_empty
  accounted c hopen := by cases c <;> cases hopen

end Script

end StoryState
