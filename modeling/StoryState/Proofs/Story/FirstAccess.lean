import StoryState.Proofs.Story.Replacing
import StoryState.Proofs.Story.Writable

/-!
The first access to a scope. Whatever bytes the store has for the scope, it is opened without a fault: with
the state that the bytes hold, and nothing is stored; or with nothing, and that is stored in their place
(`Script.Loads`). Every operation that opens the scope by itself then does what it does where the scope has
been opened so before (`Script.loads_on_first_access`).
-/

namespace StoryState

/-- A payload holds a state: it is the text of a document, and the document is a record that gives the
state. -/
def State.HeldBy (m : State) (payload : ByteArray) : Prop :=
  ∃ document record, String.fromUTF8? payload = some document ∧ Json.read document = .ok record ∧
    State.ofValue record = .ok m

theorem State.heldBy_iff {m : State} {payload : ByteArray} :
    m.HeldBy payload ↔ Script.readPayload payload = some m := by
  rw [Script.readPayload_eq_some_iff]
  constructor
  · rintro ⟨document, record, hdocument, hread, hrecord⟩
    refine ⟨document, hdocument, ?_⟩
    unfold State.ofPayload
    rw [hread]
    exact hrecord
  · rintro ⟨document, hdocument, hstate⟩
    obtain ⟨record, hread, hrecord⟩ := exists_of_bind_ok hstate
    exact ⟨document, record, hdocument, hread, hrecord⟩

namespace Script

open StoryState.Task

variable {α β : Type} {c : Scope} {s s' : Script} {payload : ByteArray}

/-- A scope has been opened over a payload. -/
structure Loads (c : Scope) (payload : ByteArray) (s s' : Script) : Prop where
  isOpen : (s'.story.cell c).isOpen = true
  /-- A state that the payload holds is taken over, and nothing is written. -/
  intact : ∀ m : State, m.HeldBy payload → s'.memory c = m ∧ s'.store = s.store
  /-- In the place of a payload that holds no state the empty one is stored. -/
  broken : (∀ m : State, ¬ m.HeldBy payload) → s'.memory c = {} ∧
    ∃ document, State.payload {} = .ok document ∧
      s'.store = s.store.save c.storageKey document.toUTF8
  /-- The other scopes stay as they are. -/
  only : OnlyAt c s s'

theorem store_markStored : (s.markStored c).store = s.store := by
  unfold markStored
  split <;> rfl

/-- Opening a scope over any payload goes through. -/
theorem loads_initialise (works : s.store.outage = .none) (stored : s.payload? c = some payload) :
    ∃ s', (initialise c none).alone s = (.ok (), s') ∧ Loads c payload s s' := by
  have hstored : s.storedState c = readPayload payload := by rw [storedState, stored, Option.bind_some]
  rw [alone_initialise_of_works works, hstored]
  cases hread : readPayload payload with
  | some m =>
    refine ⟨_, rfl, congrArg Cell.isOpen cell_openWith, fun m' hm => ⟨?_, rfl⟩, fun hnone => ?_,
      openWith_onlyAt⟩
    · rw [memory_openWith]
      rw [State.heldBy_iff, hread] at hm
      exact Option.some.inj hm
    · exact absurd (State.heldBy_iff.2 hread) (hnone m)
  | none =>
    have hempty : CanStore c (openWith c {} s) := by
      refine (canStore_iff (by exact works)).2 ?_
      rw [memory_openWith]
      exact State.short_empty
    obtain ⟨document, hdocument, hend⟩ := alone_persist_of_canStore hempty
    rw [memory_openWith] at hdocument
    refine ⟨_, hend, ?_, fun m hm => ?_, fun _ => ⟨?_, document, hdocument, store_markStored⟩, ?_⟩
    · rw [cell_markStored]
      exact congrArg Cell.isOpen cell_openWith
    · rw [State.heldBy_iff, hread] at hm
      cases hm
    · rw [memory_markStored]
      exact memory_openWith
    · exact openWith_onlyAt.trans (save_onlyAt.trans markStored_onlyAt)

/-! ### Operations that open a scope -/

section Opening

variable (closed : (s.story.cell c).isOpen = false) (hopens : (initialise c none).alone s = (.ok (), s'))
  (isOpen : (s'.story.cell c).isOpen = true)

include closed hopens in
theorem alone_ensureOpen_closed : (ensureOpen c).alone s = (.ok (), s') := by
  rw [alone_ensureOpen, closed]
  exact hopens

include closed hopens isOpen

/-- A task on a scope that it opens goes on from the opened scope. -/
theorem alone_onOpen_closed (t : ScriptTask α) : (onOpen c t).alone s = (onOpen c t).alone s' := by
  have hopen : (ensureOpen c).alone s' = (.ok (), s') := by rw [alone_ensureOpen, if_pos isOpen]
  rw [alone_onOpen (alone_ensureOpen_closed closed hopens), alone_onOpen hopen]

theorem alone_map_onOpen_closed (t : ScriptTask α) (f : α → β) :
    (onOpen c t >>= fun a => pure (f a)).alone s = (onOpen c t >>= fun a => pure (f a)).alone s' := by
  rw [alone_map, alone_map, alone_onOpen_closed closed hopens isOpen]

theorem alone_scopeCall_closed (op : ScopeCall) : (op.task c).alone s = (op.task c).alone s' := by
  cases op <;> exact alone_map_onOpen_closed closed hopens isOpen _ _

theorem alone_renderMacros_closed (history : History) (text : String) :
    (renderMacros history c text).alone s = (renderMacros history c text).alone s' := by
  have hopen : (ensureOpen c).alone s' = (.ok (), s') := by rw [alone_ensureOpen, if_pos isOpen]
  rw [alone_renderMacros, alone_renderMacros, alone_ensureOpen_closed closed hopens, hopen]

omit closed isOpen in
theorem alone_tryOpen_closed : (tryOpen c none).alone s = (.ok true, s') := by
  unfold tryOpen orElse holding
  rw [alone_tryCatch_ok, alone_map, alone_holding, hopens]
  rfl

theorem alone_openedState_closed : (openedState c).alone s = (.ok (some (s'.memory c)), s') := by
  have hstate : s'.story.state? c = some (s'.memory c) := state?_of_isOpen isOpen
  unfold openedState
  rw [alone_get, closed]
  show (discard (tryOpen c none) >>= fun _ => _ : ScriptTask (Option State)).alone s = _
  rw [alone_bind, alone_discard, alone_tryOpen_closed hopens]
  exact congrArg (fun m => (Except.ok m, s')) hstate

end Opening

/-- No payload breaks a scope: over a store that works the first access opens it, whatever operation it is,
with the state in the payload or else with nothing. -/
theorem loads_on_first_access (closed : (s.story.cell c).isOpen = false)
    (works : s.store.outage = .none) (stored : s.payload? c = some payload) :
    ∃ s', Loads c payload s s' ∧
      (tryOpen c none).alone s = (.ok true, s') ∧
      (openedState c).alone s = (.ok (some (s'.memory c)), s') ∧
      (∀ op : ScopeCall, (op.task c).alone s = (op.task c).alone s') ∧
      ∀ history text, (renderMacros history c text).alone s = (renderMacros history c text).alone s' := by
  obtain ⟨s', hopens, hloads⟩ := loads_initialise works stored
  exact ⟨s', hloads, alone_tryOpen_closed hopens, alone_openedState_closed closed hopens hloads.isOpen,
    alone_scopeCall_closed closed hopens hloads.isOpen,
    alone_renderMacros_closed closed hopens hloads.isOpen⟩

/-- A script over a payload that is no text. -/
def unreadable : Script :=
  ⟨{ scriptId := some "s" }, { payloads := [(Scope.global.storageKey, ⟨#[255]⟩)] }⟩

theorem loads_on_first_access_unreadable :
    ∃ s', Loads .global ⟨#[255]⟩ unreadable s' ∧ s'.memory .global = {} ∧
      ∀ op : ScopeCall, (op.task .global).alone unreadable = (op.task .global).alone s' := by
  have stored : unreadable.payload? .global = some ⟨#[255]⟩ := by decide
  obtain ⟨s', hloads, -, -, hcalls, -⟩ := loads_on_first_access rfl rfl stored
  refine ⟨s', hloads, (hloads.broken fun m hm => ?_).1, hcalls⟩
  have hread : readPayload ⟨#[255]⟩ = some m := State.heldBy_iff.1 hm
  have hnone : readPayload ⟨#[255]⟩ = none := by decide
  rw [hnone] at hread
  cases hread

end Script

end StoryState
