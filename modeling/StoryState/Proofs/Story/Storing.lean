import StoryState.Proofs.Story.Recovery
import StoryState.Proofs.Story.Stored
import StoryState.Story.Batch
import StoryState.Story.Direct

/-!
Tasks that open a scope and store it. `Does D c t s Q` says that the task, while it holds the lock of
the scope and others let its state drift along `D`, keeps the state storable and ends with `Q`. A
task that works on an open scope accounts for the scope if it goes through, and if it stops it has
saved nothing, unless it saved the empty state where the store held none (`Stops`).
-/

namespace StoryState.Script

variable {α β : Type} {D : State → State → Prop} {c : Scope} {s s' s'' : Script}

/-- What a task does to a scope that it works on alone. -/
def Does (D : State → State → Prop) (c : Scope) (t : ScriptTask α) (s : Script)
    (Q : Except Fault α → Script → Prop) : Prop :=
  (s.memory c).Storable →
    t.Inside (Drifts D c) (Touches c) s fun r s' => (s'.memory c).Storable ∧ Q r s'

section Rules

variable {Q Q' : Except Fault α → Script → Prop}

theorem Does.mono {t : ScriptTask α} (h : Does D c t s Q) (hQ : ∀ r s', Q r s' → Q' r s') :
    Does D c t s Q' := fun hs => (h hs).mono fun r s' hr => ⟨hr.1, hQ r s' hr.2⟩

theorem Does.assume {t : ScriptTask α} (h : (s.memory c).Storable → Does D c t s Q) : Does D c t s Q :=
  fun hs => h hs hs

theorem Does.done {r : Except Fault α} (h : Q r s) : Does D c (.done r) s Q := fun hs => ⟨hs, h⟩

theorem Does.bind {t : ScriptTask β} {f : β → ScriptTask α}
    (h : Does D c t s fun r s' => match r with
      | .ok b => Does D c (f b) s' Q
      | .error e => Q (.error e) s') : Does D c (t >>= f) s Q := by
  intro hs
  rw [Task.inside_bind]
  refine (h hs).mono fun r s' hr => ?_
  cases r with
  | ok b => exact hr.2 hr.1
  | error e => exact hr

theorem Does.get {f : Script → ScriptTask α} (h : Does D c (f s) s Q) :
    Does D c (MonadState.get >>= f) s Q := h

theorem Does.modify {f : Script → Script} {Q : Except Fault Unit → Script → Prop}
    (only : OnlyAt c s (f s)) (storable : (s.memory c).Storable → ((f s).memory c).Storable)
    (h : Q (.ok ()) (f s)) : Does D c (modify f) s Q :=
  fun hs => ⟨⟨only, storable hs⟩, storable hs, h⟩

theorem Does.rests (hD : Drift D) {n : Nat} {Q : Except Fault Unit → Script → Prop}
    (h : ∀ s', Drifts D c s s' → Q (.ok ()) s') : Does D c (.rests n) s Q := by
  induction n generalizing s with
  | zero => exact fun hs => ⟨hs, h s (.refl hD c s)⟩
  | succ n ih =>
    intro hs s' hdrift
    exact ih (fun s'' hd => h s'' (hdrift.trans hD hd)) (hD.storable hdrift.state hs)

end Rules

/-! ### Loading and saving -/

theorem does_loadPayload (hD : Drift D) :
    Does D c (loadPayload c.storageKey) s fun r s' =>
      Drifts D c s s' ∧ ∀ p, r = .ok p → p = s.payload? c := by
  refine .get (.bind (.rests hD fun s' hd => .get (.done ⟨hd, fun p hp => ?_⟩)))
  unfold Store.load at hp
  split at hp
  · cases hp
  · cases hp
    exact hd.payload

theorem does_loadState (hD : Drift D) :
    Does D c (loadState c) s fun r s' =>
      Drifts D c s s' ∧ ∀ found, r = .ok found → found = s.storedState c := by
  rw [loadState_eq]
  refine .bind ((does_loadPayload hD).mono fun r s' hr => ?_)
  obtain ⟨hd, hp⟩ := hr
  cases r with
  | error e => exact ⟨hd, fun found hf => nomatch hf⟩
  | ok p =>
    refine .done ⟨hd, fun found hf => ?_⟩
    cases hf
    rw [hp p rfl]
    rfl

/-- A scope has been stored as it was, and may have drifted meanwhile. -/
structure Saved (D : State → State → Prop) (c : Scope) (s s' : Script) : Prop where
  stored : ∃ text, (s.memory c).payload = .ok text ∧ s'.payload? c = some text.toUTF8
  state : D (s.memory c) (s'.memory c)
  isOpen : (s'.story.cell c).isOpen = (s.story.cell c).isOpen
  unmarked : (s'.story.cell c).isDirty = false

/-- A scope cannot be stored: what it holds is too long to be written, or the store fails. -/
def Stuck (c : Scope) (s : Script) : Prop :=
  (∃ e, (s.memory c).payload = .error e) ∨ s.store.refuses c.storageKey = true

/-- A scope that cannot be stored stays as it is. -/
theorem does_persist (hD : Drift D) :
    Does D c (persist c) s fun r s' => match r with
      | .ok () => Saved D c s s'
      | .error _ => s' = s ∧ Stuck c s := by
  refine .get (.bind ?_)
  show Does D c (.done (s.memory c).payload) s _
  cases hp : (s.memory c).payload with
  | error e => exact .done ⟨rfl, .inl ⟨e, hp⟩⟩
  | ok text =>
    refine .done (.bind (.get ?_))
    split
    · rename_i hrefuses
      exact .done ⟨rfl, .inr hrefuses⟩
    · refine .get (.bind (.rests hD fun s' hd => .modify save_onlyAt id ?_))
      refine .modify markStored_onlyAt ?_ ⟨⟨text, hp, ?_⟩, ?_, ?_, ?_⟩
      · rw [memory_markStored]
        exact id
      · rw [payload_markStored, payload_save]
      · rw [memory_markStored]
        exact hd.state
      · rw [cell_markStored]
        exact hd.isOpen
      · rw [cell_markStored]

theorem Saved.storedState (h : Saved D c s s') (hs : (s.memory c).Storable) :
    s'.storedState c = some (s.memory c) := by
  obtain ⟨text, htext, hpayload⟩ := h.stored
  exact storedState_of_payload hs htext hpayload

theorem Saved.upTo (h : Saved D c s s') (hs : (s.memory c).Storable) : UpTo D c s' :=
  fun _ _ => ⟨s.memory c, h.storedState hs, h.state⟩

/-! ### Opening -/

/-- Nothing has been saved of a scope, and it has not lost its mark. -/
structure Unsaved (c : Scope) (s s' : Script) : Prop where
  payload : s'.payload? c = s.payload? c
  marked : (s.story.cell c).isDirty = true → (s'.story.cell c).isDirty = true

/-- How a task stops that works on an open scope: it has saved nothing, unless it opened the scope
where the store held no state that could be read. -/
def Stops (c : Scope) (s s' : Script) : Prop :=
  Unsaved c s s' ∨ ((s.story.cell c).isOpen = false ∧ s.storedState c = none)

theorem Unsaved.refl (c : Scope) (s : Script) : Unsaved c s s := ⟨rfl, id⟩

theorem Unsaved.trans (h : Unsaved c s s') (h' : Unsaved c s' s'') : Unsaved c s s'' :=
  ⟨h'.payload.trans h.payload, h'.marked ∘ h.marked⟩

theorem Drifts.unsaved (h : Drifts D c s s') : Unsaved c s s' := ⟨h.payload, h.marked⟩

theorem Stops.unsaved (h : Stops c s s') (h' : Unsaved c s' s'') : Stops c s s'' := by
  rcases h with h | h
  · exact .inl (h.trans h')
  · exact .inr h

theorem unsaved_openWith {state : State} : Unsaved c s (openWith c state s) :=
  ⟨payload_openWith, by rw [cell_openWith]; exact id⟩

theorem unsaved_setState {state : State} : Unsaved c s (s.setState c state) :=
  ⟨payload_setState, by rw [cell_setState]; exact id⟩

/-- A scope is opened with a storable state and stored. -/
theorem does_openAndPersist (hD : Drift D) {state : State} (hstate : state.Storable) :
    Does D c (Script.persist c) (openWith c state s) fun r s' => match r with
      | .ok () => UpTo D c s' ∧ (s'.story.cell c).isOpen = true
      | .error _ => Unsaved c s s' := by
  refine (does_persist hD).mono fun r s' hr => ?_
  cases r with
  | error e => exact hr.1 ▸ unsaved_openWith
  | ok _ =>
    refine ⟨hr.upTo ?_, ?_⟩
    · rw [memory_openWith]
      exact hstate
    · rw [hr.isOpen, cell_openWith]

theorem does_modifyOpenWith {state : State} (hstate : state.Storable)
    {Q : Except Fault Unit → Script → Prop} (h : Q (.ok ()) (openWith c state s)) :
    Does D c (modify (openWith c state)) s Q :=
  .modify openWith_onlyAt (fun _ => by rw [memory_openWith]; exact hstate) h

/-- A configuration that gives a state gives a storable one. -/
def FitConfig (config : Option (Except Fault State)) : Prop :=
  ∀ state, config = some (.ok state) → state.Storable

theorem fitConfig_none : FitConfig none := by
  intro state h
  cases h

theorem does_initialise (hD : Drift D) {config : Option (Except Fault State)} (hf : FitConfig config) :
    Does D c (initialise c config) s fun r s' => match r with
      | .ok () => UpTo D c s' ∧ (s'.story.cell c).isOpen = true ∧
          (config = none → Unsaved c s s' ∨ s.storedState c = none)
      | .error _ => Unsaved c s s' := by
  cases config with
  | some config =>
    cases config with
    | error e => exact .bind (.done (.refl c s))
    | ok state =>
      have hstate := hf state rfl
      refine .bind (.done (.bind (does_modifyOpenWith hstate ?_)))
      refine (does_openAndPersist hD hstate).mono fun r s' hr => ?_
      cases r with
      | error e => exact hr
      | ok _ => exact ⟨hr.1, hr.2, fun h => nomatch h⟩
  | none =>
    refine .bind ((does_loadState hD).mono fun r s' hr => ?_)
    obtain ⟨hd, hfound⟩ := hr
    cases r with
    | error e => exact hd.unsaved
    | ok found =>
      have hstored : found = s'.storedState c := (hfound found rfl).trans hd.storedState.symm
      cases found with
      | some state =>
        refine does_modifyOpenWith (storable_of_storedState hstored.symm) ⟨fun _ _ => ⟨state, ?_, ?_⟩, ?_, ?_⟩
        · rw [storedState, payload_openWith]
          exact hstored.symm
        · rw [memory_openWith]
          exact hD.refl state
        · rw [cell_openWith]
        · exact fun _ => .inl (hd.unsaved.trans unsaved_openWith)
      | none =>
        refine .bind (does_modifyOpenWith State.storable_empty ?_)
        refine (does_openAndPersist hD State.storable_empty).mono fun r s'' hr => ?_
        cases r with
        | error e => exact hd.unsaved.trans hr
        | ok _ =>
          refine ⟨hr.1, hr.2, fun _ => .inr ?_⟩
          rw [← hd.storedState]
          exact hstored.symm

/-- A scope is open behind this, and accounted for if it was when it was open. -/
theorem does_ensureOpen (hD : Drift D) (hs : UpTo D c s) :
    Does D c (ensureOpen c) s fun r s' => match r with
      | .ok () => UpTo D c s' ∧ (s'.story.cell c).isOpen = true ∧ Stops c s s'
      | .error _ => Stops c s s' := by
  refine .get ?_
  cases hopen : (s.story.cell c).isOpen with
  | true => exact .done ⟨hs, hopen, .inl (.refl c s)⟩
  | false =>
    show Does D c (initialise c none) s _
    refine (does_initialise hD fitConfig_none).mono fun r s' hr => ?_
    cases r with
    | error e => exact .inl hr
    | ok _ =>
      obtain ⟨hupTo, hopen', hsaved⟩ := hr
      refine ⟨hupTo, hopen', ?_⟩
      rcases hsaved rfl with hunsaved | hnone
      · exact .inl hunsaved
      · exact .inr ⟨hopen, hnone⟩

/-! ### Working on an open scope -/

/-- What a task on an open scope is to do: to account for the scope, or to save nothing and stop. -/
def Works (D : State → State → Prop) (c : Scope) (s : Script) (r : Except Fault α) (s' : Script) : Prop :=
  match r with
  | .ok _ => UpTo D c s'
  | .error _ => Unsaved c s s'

/-- A task on an open scope, which is opened first. -/
theorem does_onOpen (hD : Drift D) {t : ScriptTask α} (hs : UpTo D c s)
    (h : ∀ s, UpTo D c s → (s.story.cell c).isOpen = true → Does D c t s (Works D c s)) :
    Does D c (do ensureOpen c; t) s fun r s' => match r with
      | .ok _ => UpTo D c s'
      | .error _ => Stops c s s' := by
  refine .bind ((does_ensureOpen hD hs).mono fun r s₁ hr => ?_)
  cases r with
  | error e => exact hr
  | ok _ =>
    obtain ⟨hupTo, hopen, hstops⟩ := hr
    refine (h s₁ hupTo hopen).mono fun r s₂ hw => ?_
    cases r with
    | ok a => exact hw
    | error e => exact hstops.unsaved hw

theorem does_modifySetState {state : State} (hstate : (s.memory c).Storable → state.Storable)
    {Q : Except Fault Unit → Script → Prop} (h : Q (.ok ()) (s.setState c state)) :
    Does D c (modify (setState c state)) s Q :=
  .modify setCell_onlyAt (fun hs => by rw [memory_setState]; exact hstate hs) h

/-- A change of a state is stored behind it. -/
theorem does_persistChange (hD : Drift D) {state : State} (hstate : state.Storable) :
    Does D c (persist c) (s.setState c state) (Works D c s) := by
  refine (does_persist hD).mono fun r s' hr => ?_
  cases r with
  | error e => exact hr.1 ▸ unsaved_setState
  | ok _ =>
    refine hr.upTo ?_
    rw [memory_setState]
    exact hstate

end StoryState.Script
