import StoryState.Proofs.Story.Failure
import StoryState.Proofs.Task.Strokes

/-!
What the tasks that open and store a scope do when they run alone, from their first step to their last,
and so those that change what an opened scope has; and that a task on one scope then leaves the others as
they are (`LocalTo.onlyAt`).
-/

namespace StoryState

namespace Task

variable {κ σ α β : Type} {s : σ}

theorem alone_modify {f : σ → σ} {g : Unit → Task κ σ α} :
    (modify f >>= g : Task κ σ α).alone s = (g ()).alone (f s) := rfl

theorem alone_ofExcept {r : Except Fault β} {f : β → Task κ σ α} :
    (ofExcept r >>= f : Task κ σ α).alone s = match r with
      | .ok b => (f b).alone s
      | .error e => (.error e, s) := by
  cases r <;> rfl

theorem alone_rests (n : Nat) {f : Unit → Task κ σ α} :
    (rests n >>= f : Task κ σ α).alone s = (f ()).alone s := by
  induction n with
  | zero => rfl
  | succ n ih => exact ih

theorem alone_discard {t : Task κ σ α} :
    (discard t).alone s = ((t.alone s).1.map fun _ => (), (t.alone s).2) := alone_map

/-- A fault that is turned into an answer leaves the same behind. -/
theorem alone_tryCatch {t : Task κ σ α} {f : Fault → α} :
    ((tryCatch t fun e => pure (f e) : Task κ σ α).alone s).2 = (t.alone s).2 := by
  show ((t.andThen _).alone s).2 = _
  rw [alone_andThen]
  cases (t.alone s).1 <;> rfl

/-- A task whose faults are turned into an answer goes through. -/
theorem alone_tryCatch_ok {t : Task κ σ α} {a : α} : (tryCatch t fun _ => pure a : Task κ σ α).alone s =
    (.ok ((t.alone s).1.toOption.getD a), (t.alone s).2) := by
  refine Prod.ext ?_ alone_tryCatch
  show ((t.andThen _).alone s).1 = _
  rw [alone_andThen]
  cases (t.alone s).1 <;> rfl

end Task

namespace Script

open StoryState.Task

variable {α β : Type} {c d : Scope} {s : Script}

/-- A scope can be stored: its state has a payload, and the store takes it. -/
def CanStore (c : Scope) (s : Script) : Prop :=
  (s.memory c).payload.isOk = true ∧ s.store.refuses c.storageKey = false

/-! ### Loading and storing -/

theorem alone_loadPayload (key : String) : (loadPayload key).alone s = (s.store.load key, s) := by
  unfold loadPayload
  rw [alone_get, alone_rests, alone_get]
  rfl

theorem alone_savePayload (key : String) (payload : ByteArray) :
    (savePayload key payload).alone s =
      if s.store.refuses key then (.error (.storage key), s)
      else (.ok (), { s with store := s.store.save key payload }) := by
  unfold savePayload
  rw [alone_get]
  split
  · rfl
  · rw [alone_get, alone_rests]
    rfl

theorem alone_persist :
    (persist c).alone s = match (s.memory c).payload with
      | .error e => (.error e, s)
      | .ok text =>
        if s.store.refuses c.storageKey then (.error (.storage c.storageKey), s)
        else (.ok (), markStored c { s with store := s.store.save c.storageKey text.toUTF8 }) := by
  unfold persist
  rw [alone_get, alone_ofExcept]
  unfold memory
  cases (s.story.cell c).state.payload with
  | error e => rfl
  | ok text =>
    dsimp only
    rw [alone_bind, alone_savePayload]
    cases s.store.refuses c.storageKey <;> rfl

theorem alone_persist_of_not_canStore (h : ¬ CanStore c s) :
    ∃ e, (persist c).alone s = (.error e, s) := by
  rw [alone_persist]
  cases hpayload : (s.memory c).payload with
  | error e => exact ⟨e, rfl⟩
  | ok text =>
    cases hrefuses : s.store.refuses c.storageKey with
    | true => exact ⟨_, rfl⟩
    | false => exact absurd ⟨by rw [hpayload]; rfl, hrefuses⟩ h

theorem alone_persist_of_canStore (h : CanStore c s) : ∃ text, (s.memory c).payload = .ok text ∧
    (persist c).alone s =
      (.ok (), markStored c { s with store := s.store.save c.storageKey text.toUTF8 }) := by
  obtain ⟨hok, hrefuses⟩ := h
  rw [alone_persist]
  cases hpayload : (s.memory c).payload with
  | error e =>
    rw [hpayload] at hok
    cases hok
  | ok text =>
    refine ⟨text, rfl, ?_⟩
    rw [hrefuses]
    rfl

/-- Storing a scope changes nothing of it but the mark. -/
theorem cell_persist :
    ∃ isDirty, ((persist c).alone s).2.story.cell c = { s.story.cell c with isDirty } := by
  rw [alone_persist]
  cases (s.memory c).payload with
  | error e => exact ⟨_, rfl⟩
  | ok text =>
    dsimp only
    split
    · exact ⟨_, rfl⟩
    · exact ⟨false, cell_markStored⟩

theorem memory_persist : ((persist c).alone s).2.memory c = s.memory c := by
  obtain ⟨_, hcell⟩ := cell_persist (c := c) (s := s)
  rw [memory, hcell, memory]

theorem isOpen_persist : (((persist c).alone s).2.story.cell c).isOpen = (s.story.cell c).isOpen := by
  obtain ⟨_, hcell⟩ := cell_persist (c := c) (s := s)
  rw [hcell]

/-- A scope is opened with its stored state, or with nothing, which is stored at once. -/
theorem alone_initialise :
    (initialise c none).alone s =
      if s.store.outage = .loading then (.error (.storage c.storageKey), s)
      else match s.storedState c with
        | some state => (.ok (), openWith c state s)
        | none => (persist c).alone (openWith c {} s) := by
  have hload : (loadState c).alone s =
      if s.store.outage = .loading then (.error (.storage c.storageKey), s)
      else (.ok (s.storedState c), s) := by
    rw [loadState_eq, alone_map, alone_loadPayload, Store.load]
    split <;> rfl
  unfold initialise
  dsimp only
  rw [alone_bind, hload]
  by_cases hfails : s.store.outage = .loading
  · rw [if_pos hfails, if_pos hfails]
  · rw [if_neg hfails, if_neg hfails]
    cases s.storedState c <;> rfl

theorem alone_initialise_of_works (works : s.store.outage = .none) :
    (initialise c none).alone s =
      match s.storedState c with
      | some state => (.ok (), openWith c state s)
      | none => (persist c).alone (openWith c {} s) := by
  rw [alone_initialise, if_neg (by rw [works]; decide)]

theorem alone_ensureOpen :
    (ensureOpen c).alone s =
      if (s.story.cell c).isOpen then (.ok (), s) else (initialise c none).alone s := by
  unfold ensureOpen
  rw [alone_get]
  cases (s.story.cell c).isOpen <;> rfl

theorem isOpen_ensureOpen {u : Unit} (hopen : ((ensureOpen c).alone s).1 = .ok u) :
    (((ensureOpen c).alone s).2.story.cell c).isOpen = true := by
  rw [alone_ensureOpen] at hopen ⊢
  split
  · assumption
  · rename_i hclosed
    rw [if_neg hclosed, alone_initialise] at hopen
    rw [alone_initialise]
    split
    · rename_i hfails
      rw [if_pos hfails] at hopen
      cases hopen
    · cases s.storedState c with
      | some state => exact congrArg Cell.isOpen cell_openWith
      | none => exact isOpen_persist.trans (congrArg Cell.isOpen cell_openWith)

/-- Looking at a scope opens it if it is not open. -/
theorem alone_openedState : ((openedState c).alone s).2 = ((ensureOpen c).alone s).2 := by
  rw [alone_ensureOpen, openedState, alone_get]
  cases (s.story.cell c).isOpen with
  | true => rfl
  | false =>
    show ((discard (tryOpen c none) >>= fun _ => _ : ScriptTask (Option State)).alone s).2 = _
    rw [alone_bind, alone_discard]
    have htry : ((tryOpen c none).alone s).2 = ((initialise c none).alone s).2 := by
      unfold tryOpen orElse
      rw [alone_tryCatch, alone_map, holding, alone_holding]
    rw [htry]
    cases ((tryOpen c none).alone s).1 <;> rfl

/-! ### On a scope that could be opened -/

section Opened

variable {s₁ s' : Script}

theorem alone_onOpen {t : ScriptTask α} (hopen : (ensureOpen c).alone s = (.ok (), s₁)) :
    (onOpen c t).alone s = t.alone s₁ := by
  unfold onOpen holding
  rw [alone_holding, alone_bind, hopen]

theorem alone_onOpen_ok {t : ScriptTask α} {a : α} (h : (onOpen c t).alone s = (.ok a, s')) :
    ∃ s₁, (ensureOpen c).alone s = (.ok (), s₁) ∧ t.alone s₁ = (.ok a, s') := by
  unfold onOpen holding at h
  rw [alone_holding] at h
  obtain ⟨_, s₁, hopen, hend⟩ := alone_bind_ok h
  exact ⟨s₁, hopen, hend⟩

/-- What a batch makes of the state stays in memory also if the batch stops. -/
theorem alone_carryOut {run : TagNames → State → Except Fault BatchResult × State}
    (hopen : (ensureOpen c).alone s = (.ok (), s₁)) :
    (carryOut c run).alone s = match run s₁.story.names (s₁.memory c) with
      | (.error e, m) => (.error e, s₁.setState c m)
      | (.ok result, m) => (if result.changed || (s₁.story.cell c).isDirty then
          persist c >>= fun _ => pure result else pure result : ScriptTask BatchResult).alone
            (s₁.setState c m) := by
  unfold carryOut
  rw [alone_onOpen hopen, alone_get]
  show ((modify (setState c (run s₁.story.names (s₁.memory c)).2) >>= fun _ =>
    Task.ofExcept (run s₁.story.names (s₁.memory c)).1 >>= _ : ScriptTask BatchResult)).alone s₁ = _
  generalize run s₁.story.names (s₁.memory c) = p
  obtain ⟨outcome, m⟩ := p
  rw [alone_modify, alone_ofExcept]
  cases outcome with
  | error e => rfl
  | ok result =>
    dsimp only
    rw [alone_get, cell_setState]

/-- A batch that goes through has been carried out on the state with which the scope was opened, and what
came of it has been stored if the batch reported anything or something else was still to be stored. -/
theorem alone_carryOut_ok {run : TagNames → State → Except Fault BatchResult × State}
    {result : BatchResult} (h : (carryOut c run).alone s = (.ok result, s')) :
    ∃ s₁ m, (ensureOpen c).alone s = (.ok (), s₁) ∧
      run s₁.story.names (s₁.memory c) = (.ok result, m) ∧
      if result.changed || (s₁.story.cell c).isDirty then (persist c).alone (s₁.setState c m) = (.ok (), s')
      else s' = s₁.setState c m := by
  obtain ⟨s₁, hopen, -⟩ := alone_onOpen_ok h
  rw [alone_carryOut hopen] at h
  rcases hrun : run s₁.story.names (s₁.memory c) with ⟨e | result', m⟩ <;> rw [hrun] at h
  · cases h
  · dsimp only at h
    split at h
    · obtain ⟨_, _, hpersist, hdone⟩ := alone_bind_ok h
      cases hdone
      exact ⟨s₁, m, hopen, hrun, by rwa [if_pos ‹_›]⟩
    · cases h
      exact ⟨s₁, m, hopen, hrun, by rw [if_neg ‹_›]⟩

/-- A change is made to the state with which its scope is opened, and stored. -/
theorem alone_edit {f : State → Except Fault State} (hopen : (ensureOpen c).alone s = (.ok (), s₁)) :
    (edit c f).alone s = match f (s₁.memory c) with
      | .error e => (.error e, s₁)
      | .ok m => (persist c).alone (s₁.setState c m) := by
  unfold edit
  rw [alone_onOpen hopen, alone_get]
  show (Task.ofExcept (f (s₁.memory c)) >>= _ : ScriptTask Unit).alone s₁ = _
  rw [alone_ofExcept]
  cases f (s₁.memory c) <;> rfl

/-- A change with an answer, which there may be nothing to make of. -/
theorem alone_editIf {otherwise : α} {f : State → Except Fault (Option (α × State))}
    (hopen : (ensureOpen c).alone s = (.ok (), s₁)) :
    (editIf c otherwise f).alone s = match f (s₁.memory c) with
      | .error e => (.error e, s₁)
      | .ok none => (.ok otherwise, s₁)
      | .ok (some (a, m)) => (persist c >>= fun _ => pure a : ScriptTask α).alone (s₁.setState c m) := by
  unfold editIf
  rw [alone_onOpen hopen, alone_get]
  show (Task.ofExcept (f (s₁.memory c)) >>= _ : ScriptTask α).alone s₁ = _
  rw [alone_ofExcept]
  rcases f (s₁.memory c) with e | _ | ⟨a, m⟩ <;> rfl

end Opened

/-! ### What is left as it is -/

/-- A task that minds only one scope changes only that. -/
theorem LocalTo.onlyAt {t : ScriptTask α} (h : LocalTo c t) (s : Script) : OnlyAt c s (t.alone s).2 := by
  have hrest : ∀ t t' : Script, t = t' → Spares c t t' ∧ OnlyAt c t t' := by
    rintro t _ rfl
    exact ⟨fun d _ => .refl d t, .refl c t⟩
  have hboth := (h s s (.refl c s)).along (.refl c) .trans (fun _ _ h => h) hrest
  exact (hboth.endsIn (endsIn_alone (fun _ => rfl) t s)).2

theorem Guarded.onlyAt {t : ScriptTask α} (h : Guarded c t) (s : Script) : OnlyAt c s (t.alone s).2 := by
  obtain ⟨β, body, f, hbody, rfl⟩ := h
  rw [alone_map]
  show OnlyAt c s ((Task.holding _ body).alone s).2
  rw [alone_holding]
  exact hbody.onlyAt s

theorem onlyAt_replaceMacros {text : String} : OnlyAt c s ((replaceMacros c text).alone s).2 :=
  ((inside_replaceMacros Eq).endsIn (endsIn_alone (fun _ => rfl) _ s)).1.1

theorem local_storeMarked : LocalTo c (storeMarked c) := by
  refine .get (fun s s₀ hs => ?_) fun s => ?_
  · dsimp only
    rw [hs.cell, hs.state?]
  · dsimp only
    split
    · exact .bind local_persist fun _ => .pure _
    · exact .pure _

theorem alone_persistIfDirty : (persistIfDirty c).alone s = (storeMarked c).alone s := alone_holding ..

/-- Reading and storing behind it, once the scope is open. -/
theorem alone_renderMacros {history : History} {text : String} :
    (renderMacros history c text).alone s = match (ensureOpen c).alone s with
      | (.ok _, s₁) => (renderOpen history c text).alone s₁
      | (.error e, s₁) => (.error e, s₁) := by
  unfold renderMacros
  rw [alone_get]
  cases hopen : (s.story.cell c).isOpen with
  | true =>
    have hensure : (ensureOpen c).alone s = (.ok (), s) := by rw [alone_ensureOpen, if_pos hopen]
    rw [hensure]
    rfl
  | false =>
    show ((holding c (ensureOpen c)) >>= fun _ => renderOpen history c text).alone s = _
    rw [alone_bind, holding, alone_holding]
    rcases (ensureOpen c).alone s with ⟨_ | _, s₁⟩ <;> rfl

end Script

end StoryState
