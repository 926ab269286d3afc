import StoryState.Proofs.Story.Alone
import StoryState.Proofs.Story.Expiring
import StoryState.Proofs.Story.Payload

/-!
What putting a snapshot in the place of all states leaves behind, as looking at characters shows it.
Memory then has the states of the snapshot and nothing else, and the store has them too; but it keeps
what it had of characters that the snapshot does not hold, and whoever looks at one of these gets it
back (`Script.offered`).
-/

namespace StoryState

namespace Entries

variable {α : Type}

/-- Looking up among the entries that are kept. -/
theorem get?_filter {es : Entries α} (once : Once es) (keep : α → Bool) (key : String) :
    get? key (es.filter fun e => keep e.2) = (get? key es).filter keep := by
  induction es with
  | nil => rfl
  | cons e es ih =>
    obtain ⟨k, v⟩ := e
    obtain ⟨fresh, once⟩ := List.nodup_cons.1 once
    rw [List.filter_cons]
    by_cases hk : k = key
    · subst hk
      cases hkeep : keep v with
      | true => simp [get?, Option.filter, hkeep]
      | false =>
        have hnone : get? k es = none := get?_eq_none_iff.2 fresh
        simp [get?, Option.filter, hkeep, ih once, hnone]
    · cases hkeep : keep v <;> simp [get?, hk, ih once]

theorem get?_map (f : α → β) (key : String) (es : Entries α) :
    get? key (es.map fun e => (e.1, f e.2)) = (get? key es).map f := by
  induction es with
  | nil => rfl
  | cons e es ih =>
    by_cases hk : e.1 = key
    · simp [get?, hk]
    · simp [get?, hk, ih]

end Entries

namespace Story

variable {c : Scope} {s : Story}

theorem once_setCell {x : Cell} (h : Entries.Once s.characters) :
    Entries.Once (s.setCell c x).characters := by
  cases c with
  | global => exact h
  | character id => exact h.put id x

theorem once_openWith {state : State} (h : Entries.Once s.characters) :
    Entries.Once (s.openWith c state).characters := by
  refine once_setCell ?_
  cases c with
  | global => exact h
  | character id =>
    dsimp only
    split
    · exact h
    · exact h.erase id

/-- The characters of a snapshot are those that are open. -/
theorem get?_snapshot (h : Entries.Once s.characters) (id : String) :
    Entries.get? id s.snapshot.characters =
      if (s.cell (.character id)).isOpen then some (s.cell (.character id)).state else none := by
  unfold snapshot
  rw [Entries.get?_map Cell.state, Entries.get?_filter h, cell]
  cases Entries.get? id s.characters with
  | none => rfl
  | some x => cases hopen : x.isOpen <;> simp [Option.filter, hopen]

end Story

namespace Script

variable {c d : Scope} {m : State} {id : String} {s s' s'' : Script}

/-! ### Looking at characters -/

/-- The state that looking at a character gives: what memory has while it is open, else what the store
has, or nothing. -/
def offered (id : String) (s : Script) : State :=
  if (s.story.cell (.character id)).isOpen then s.memory (.character id)
  else (s.storedState (.character id)).getD {}

/-- What is left after looking at characters one after another. -/
def afterLooks : List String → Script → Script
  | [], s => s
  | id :: ids, s => afterLooks ids ((openedState (.character id)).alone s).2

/-- A scope is open with a state that the store holds too, and no other scope has changed. -/
structure Installs (c : Scope) (m : State) (s s' : Script) : Prop where
  isOpen : (s'.story.cell c).isOpen = true
  memory : s'.memory c = m
  stored : s'.storedState c = some m
  only : OnlyAt c s s'
  once : Entries.Once s.story.characters → Entries.Once s'.story.characters

theorem once_markStored (h : Entries.Once s.story.characters) :
    Entries.Once (s.markStored c).story.characters := by
  unfold markStored
  split
  · exact Story.once_setCell h
  · exact h

/-- A store that works takes every state that has a payload. -/
theorem canStore_iff (works : s.store.outage = .none) :
    CanStore c s ↔ (s.memory c).Short := by
  have haccepts : s.store.refuses c.storageKey = false := by rw [Store.refuses, works]
  rw [CanStore, haccepts, and_iff_left rfl, ← State.payload_iff_short]
  cases (s.memory c).payload <;> simp [Except.isOk, Except.toBool]

/-- Storing a scope that has just been opened. -/
theorem installs_persist (storable : m.Storable) (hstore : CanStore c (openWith c m s)) :
    ∃ s', (persist c).alone (openWith c m s) = (.ok (), s') ∧ Installs c m s s' := by
  obtain ⟨text, hpayload, hend⟩ := alone_persist_of_canStore hstore
  rw [memory_openWith] at hpayload
  refine ⟨_, hend, ?_, ?_, ?_, ?_, fun once => ?_⟩
  · rw [cell_markStored]
    exact congrArg Cell.isOpen cell_openWith
  · rw [memory_markStored]
    exact memory_openWith
  · refine storedState_of_payload storable hpayload ?_
    rw [payload_markStored, payload_save]
  · exact openWith_onlyAt.trans (save_onlyAt.trans markStored_onlyAt)
  · exact once_markStored (Story.once_openWith once)

/-- Opening a scope with what the store has of it. -/
theorem installs_openWith (stored : s.storedState c = some m) : Installs c m s (openWith c m s) where
  isOpen := congrArg Cell.isOpen cell_openWith
  memory := memory_openWith
  stored := stored
  only := openWith_onlyAt
  once := Story.once_openWith

/-- A scope that is opened without a configuration gets what the store has, or nothing. -/
theorem installs_initialise (works : s.store.outage = .none) :
    ∃ s', (initialise c none).alone s = (.ok (), s') ∧ Installs c ((s.storedState c).getD {}) s s' := by
  rw [alone_initialise_of_works works]
  cases hstored : s.storedState c with
  | some m => exact ⟨_, rfl, installs_openWith hstored⟩
  | none =>
    refine installs_persist State.storable_empty ((canStore_iff (by exact works)).2 ?_)
    rw [memory_openWith]
    exact ⟨by simp, by simp, by simp⟩

theorem offered_of_same (h : Same (.character id) s s') : s'.offered id = s.offered id := by
  rw [offered, offered, h.cell, h.memory, storedState, storedState, h.payload]

/-- Whoever opens a character with what it offers changes nothing of what characters offer. -/
theorem Installs.offered (h : Installs (.character id) (s.offered id) s s') (k : String) :
    s'.offered k = s.offered k := by
  by_cases hk : k = id
  · rw [hk, Script.offered, if_pos h.isOpen, h.memory]
  · exact offered_of_same (h.only.2 _ (by simpa using hk)).same

/-- Looking at a character gives what it offers, and changes nothing of what characters offer. -/
theorem alone_openedState_character (works : s.store.outage = .none) (id : String) :
    ∃ s', (openedState (.character id)).alone s = (.ok (some (s.offered id)), s') ∧
      s'.store.outage = .none ∧ ∀ k, s'.offered k = s.offered k := by
  unfold openedState
  rw [Task.alone_get]
  cases hopen : (s.story.cell (.character id)).isOpen with
  | true =>
    refine ⟨s, ?_, works, fun _ => rfl⟩
    show (Except.ok (s.story.state? (.character id)), s) = _
    rw [Story.state?, if_pos hopen, offered, if_pos hopen]
    rfl
  | false =>
    obtain ⟨s', hinit, hinstalls⟩ := installs_initialise (c := .character id) works
    have hoffered : (s.storedState (.character id)).getD {} = s.offered id := by
      rw [offered, hopen]
      rfl
    rw [hoffered] at hinstalls
    refine ⟨s', ?_, hinstalls.only.1.outage.symm.trans works, hinstalls.offered⟩
    have htry : (tryOpen (.character id) none).alone s = (.ok true, s') := by
      show ((Task.holding _ (initialise _ none) >>= fun _ => _ : ScriptTask Bool).andThen _).alone s = _
      rw [Task.alone_andThen, Task.alone_map, Task.alone_holding, hinit]
      rfl
    show (discard (tryOpen (.character id) none) >>= fun _ => _ : ScriptTask (Option State)).alone s = _
    rw [Task.alone_bind, Task.alone_discard, htry]
    show (Except.ok (s'.story.state? (.character id)), s') = _
    rw [Story.state?, if_pos hinstalls.isOpen]
    exact Prod.ext (congrArg (fun m => Except.ok (some m)) hinstalls.memory) rfl

/-- However one looks at characters, each offers what it did. -/
theorem offered_afterLooks (works : s.store.outage = .none) (ids : List String) :
    (afterLooks ids s).store.outage = .none ∧ ∀ k, (afterLooks ids s).offered k = s.offered k := by
  induction ids generalizing s with
  | nil => exact ⟨works, fun _ => rfl⟩
  | cons id ids ih =>
    obtain ⟨s', hlook, works', hoffered⟩ := alone_openedState_character works id
    obtain ⟨houtage, hall⟩ := ih works'
    rw [afterLooks, hlook]
    exact ⟨houtage, fun k => (hall k).trans (hoffered k)⟩

/-! ### Putting a snapshot in place -/

/-- A state is installed just if it can be stored. -/
theorem alone_replaceState (storable : m.Storable) (works : s.store.outage = .none) :
    (m.Short → ∃ s', (replaceState c m).alone s = (.ok (), s') ∧ Installs c m s s') ∧
      (¬ m.Short → ∃ e s', (replaceState c m).alone s = (.error e, s')) := by
  have hrun : (replaceState c m).alone s = (persist c).alone (openWith c m s) := by
    rw [replaceState, holding, Task.alone_holding, Task.alone_modify]
  have hcan : CanStore c (openWith c m s) ↔ m.Short := by
    rw [canStore_iff (by exact works), memory_openWith]
  rw [hrun, ← hcan]
  refine ⟨installs_persist storable, fun h => ?_⟩
  obtain ⟨e, hend⟩ := alone_persist_of_not_canStore h
  exact ⟨e, _, hend⟩

/-- The characters of a list are installed, and nothing else has changed. -/
structure InstallsAll (states : Entries State) (s s' : Script) : Prop where
  installed : ∀ id m, (id, m) ∈ states → (s'.story.cell (.character id)).isOpen = true ∧
    s'.memory (.character id) = m ∧ s'.storedState (.character id) = some m
  others : ∀ d, (∀ id ∈ Entries.keys states, d ≠ .character id) → Same d s s'
  outage : s'.store.outage = s.store.outage
  once : Entries.Once s.story.characters → Entries.Once s'.story.characters

theorem alone_replaceStates {states : Entries State} (once : Entries.Once states)
    (storable : ∀ id m, (id, m) ∈ states → m.Storable) (works : s.store.outage = .none) :
    ((∀ id m, (id, m) ∈ states → m.Short) →
      ∃ s', (replaceStates states).alone s = (.ok (), s') ∧ InstallsAll states s s') ∧
      ((¬ ∀ id m, (id, m) ∈ states → m.Short) → ∃ e s', (replaceStates states).alone s = (.error e, s')) := by
  induction states generalizing s with
  | nil =>
    refine ⟨fun _ => ⟨s, rfl, ⟨by simp, fun d _ => .refl d s, rfl, id⟩⟩, fun h => absurd ?_ h⟩
    simp
  | cons entry states ih =>
    obtain ⟨id, m⟩ := entry
    obtain ⟨fresh, once⟩ := List.nodup_cons.1 once
    obtain ⟨hgood, hbad⟩ := alone_replaceState (c := .character id) (storable id m (by simp)) works
    have hrun : (replaceStates ((id, m) :: states)).alone s = _ := Task.alone_bind
    by_cases hshort : m.Short
    · obtain ⟨s₁, hfirst, hinstalls⟩ := hgood hshort
      have works₁ := hinstalls.only.1.outage.symm.trans works
      obtain ⟨hgood', hbad'⟩ := ih once (fun k w h => storable k w (List.mem_cons_of_mem _ h)) works₁
      rw [hfirst] at hrun
      rw [hrun]
      refine ⟨fun hall => ?_, fun hsome => hbad' fun hrest => hsome ?_⟩
      · obtain ⟨s', hend, hrest⟩ := hgood' fun k w h => hall k w (List.mem_cons_of_mem _ h)
        refine ⟨s', hend, ⟨?_, ?_, hrest.outage.trans (works₁.trans works.symm), ?_⟩⟩
        · intro k w hk
          rcases List.mem_cons.1 hk with hk | hk
          · obtain ⟨rfl, rfl⟩ := Prod.mk.inj hk
            have hkept := hrest.others (.character k) fun j hj hne => by
              cases hne
              exact fresh hj
            rw [hkept.cell, hkept.memory, storedState, hkept.payload]
            exact ⟨hinstalls.isOpen, hinstalls.memory, hinstalls.stored⟩
          · exact hrest.installed k w hk
        · intro d hd
          have hhead : d ≠ .character id := hd id (by simp)
          exact (hinstalls.only.2 d hhead).same.trans (hrest.others d fun k hk => hd k (by simp [hk]))
        · exact fun h => hrest.once (hinstalls.once h)
      · intro k w hk
        rcases List.mem_cons.1 hk with hk | hk
        · obtain ⟨rfl, rfl⟩ := Prod.mk.inj hk
          exact hshort
        · exact hrest k w hk
    · obtain ⟨e, s', hfirst⟩ := hbad hshort
      rw [hfirst] at hrun
      exact ⟨fun hall => absurd (hall id m (by simp)) hshort, fun _ => ⟨e, s', hrun⟩⟩

/-! ### Closing the others -/

theorem isOpen_closeAll {story : Story} {ids : List String} (h : id ∈ ids) :
    ((ids.foldl (fun story id => story.close id) story).cell (.character id)).isOpen = false := by
  induction ids generalizing story with
  | nil => cases h
  | cons k ids ih =>
    by_cases hmem : id ∈ ids
    · exact ih hmem
    · obtain rfl : id = k := (List.mem_cons.1 h).resolve_right hmem
      have hclosed : ((story.close id).cell (.character id)).isOpen = false :=
        congrArg Cell.isOpen Story.cell_setCell_self
      rcases cell_closeAll (.character id) (story.close id) ids with h | ⟨_, _, _, h⟩
      · exact (congrArg Cell.isOpen h).trans hclosed
      · exact congrArg Cell.isOpen h

theorem mem_openCharacters {story : Story} (h : (story.cell (.character id)).isOpen = true) :
    id ∈ story.openCharacters := by
  have hheld := Story.mem_characters (fun hempty => by rw [hempty] at h; cases h)
  exact List.mem_map.2 ⟨_, List.mem_filter.2 ⟨hheld, h⟩, rfl⟩

/-- A character that the snapshot does not hold is closed. -/
theorem isOpen_closeOthers {snap : Snapshot} (h : Entries.has id snap.characters = false) :
    ((closeOthers snap s).story.cell (.character id)).isOpen = false := by
  cases hopen : (s.story.cell (.character id)).isOpen with
  | true =>
    refine isOpen_closeAll (List.mem_filter.2 ⟨mem_openCharacters hopen, ?_⟩)
    rw [h]
    rfl
  | false =>
    rcases cell_closeOthers snap s (.character id) with hsame | ⟨_, _, _, hcell⟩
    · exact (congrArg Cell.isOpen hsame.cell).trans hopen
    · exact congrArg Cell.isOpen hcell

theorem once_closeOthers {snap : Snapshot} (h : Entries.Once s.story.characters) :
    Entries.Once (closeOthers snap s).story.characters := by
  unfold closeOthers
  generalize s.story.openCharacters.filter (fun id => !Entries.has id snap.characters) = ids
  dsimp only
  generalize s.story = story at h
  induction ids generalizing story with
  | nil => exact h
  | cons k ids ih => exact ih (story.close k) (Story.once_setCell h)

end Script

/-! ### All states replaced -/

/-- A snapshot of states that can be stored. -/
structure Snapshot.Short (snap : Snapshot) : Prop where
  global : snap.global.Short
  characters : ∀ id m, (id, m) ∈ snap.characters → m.Short

/-- The state of a character once a snapshot is in the place of all states: the one of the snapshot, or
else what the store had before. -/
def Snapshot.over (snap : Snapshot) (s : Script) (id : String) : State :=
  (Entries.get? id snap.characters).getD ((s.storedState (.character id)).getD {})

namespace Script

variable {snap : Snapshot} {s s' : Script}

/-- The states of a snapshot are installed, and the other characters closed; the store keeps what it had
of them. -/
structure Replaced (snap : Snapshot) (s s' : Script) : Prop where
  outage : s'.store.outage = s.store.outage
  once : Entries.Once s.story.characters → Entries.Once s'.story.characters
  global : s'.memory .global = snap.global
  installed : ∀ id m, Entries.get? id snap.characters = some m →
    (s'.story.cell (.character id)).isOpen = true ∧ s'.memory (.character id) = m ∧
      s'.storedState (.character id) = some m
  closed : ∀ id, Entries.get? id snap.characters = none →
    (s'.story.cell (.character id)).isOpen = false ∧
      s'.storedState (.character id) = s.storedState (.character id)

theorem alone_putSnapshot (fit : snap.Fit) (works : s.store.outage = .none) :
    (snap.Short → ∃ s', (putSnapshot snap).alone s = (.ok (), s') ∧ Replaced snap s s') ∧
      (¬ snap.Short → ∃ e s', (putSnapshot snap).alone s = (.error e, s')) := by
  obtain ⟨hgood, hbad⟩ := alone_replaceState (c := .global) (s := s) fit.global works
  have hrun : (putSnapshot snap).alone s = _ := Task.alone_bind
  by_cases hshort : snap.global.Short
  · obtain ⟨s₁, hfirst, hinstalls⟩ := hgood hshort
    have works₁ : (closeOthers snap s₁).store.outage = .none :=
      hinstalls.only.1.outage.symm.trans works
    obtain ⟨hgood', hbad'⟩ := alone_replaceStates fit.once fit.characters works₁
    rw [hfirst] at hrun
    dsimp only at hrun
    rw [Task.alone_modify] at hrun
    rw [hrun]
    refine ⟨fun h => ?_, fun h => hbad' fun hall => h ⟨hshort, hall⟩⟩
    obtain ⟨s', hend, hrest⟩ := hgood' h.characters
    refine ⟨s', hend, ?_, ?_, ?_, ?_, ?_⟩
    · exact hrest.outage.trans (works₁.trans works.symm)
    · exact fun once => hrest.once (once_closeOthers (hinstalls.once once))
    · rw [(hrest.others .global (by simp)).memory,
        (closeOthers_same (d := .global) (by simp)).memory, hinstalls.memory]
    · exact fun id m hm => hrest.installed id m (Entries.mem_of_get? hm)
    · intro id hnone
      have hhas : Entries.has id snap.characters = false := by
        rw [Entries.has, hnone]
        rfl
      have hkept := hrest.others (.character id) fun k hk hne => by
        cases hne
        exact Entries.get?_eq_none_iff.1 hnone hk
      refine ⟨(congrArg Cell.isOpen hkept.cell).trans (isOpen_closeOthers hhas), ?_⟩
      rw [storedState, storedState, hkept.payload]
      exact congrArg (Option.bind · readPayload) (hinstalls.only.2 _ (by simp)).same.payload
  · obtain ⟨e, s', hfirst⟩ := hbad hshort
    rw [hfirst] at hrun
    exact ⟨fun h => absurd h.global hshort, fun _ => ⟨e, s', hrun⟩⟩

/-- What characters offer then, to whoever has seen the snapshot put in place and to whoever opens the
same store anew. -/
theorem Replaced.offered (h : Replaced snap s s') (id : String) (scriptId : Option String)
    (names : TagNames) : s'.offered id = snap.over s id ∧
      Script.offered id ⟨{ scriptId, names }, s'.store⟩ = snap.over s id := by
  have hfresh : Script.offered id ⟨{ scriptId, names }, s'.store⟩ =
      (s'.storedState (.character id)).getD {} := rfl
  rw [hfresh, Snapshot.over, Script.offered]
  cases hfound : Entries.get? id snap.characters with
  | some m =>
    obtain ⟨hopen, hmemory, hstored⟩ := h.installed id m hfound
    rw [if_pos hopen, hmemory, hstored]
    exact ⟨rfl, rfl⟩
  | none =>
    obtain ⟨hclosed, hstored⟩ := h.closed id hfound
    rw [hclosed, hstored]
    exact ⟨rfl, rfl⟩

/-- Putting a snapshot in the place of all states goes through just if its states can be stored. Then all
states are those of the snapshot; and each character, whichever are looked at before, and also if the store
is opened anew, has its state of the snapshot, or else the one that the store had of it before, or none. -/
theorem putSnapshot_replaces (fit : snap.Fit) (works : s.store.outage = .none)
    (once : Entries.Once s.story.characters) :
    (((putSnapshot snap).alone s).1 = .ok () ↔ snap.Short) ∧
      ∀ s', (putSnapshot snap).alone s = (.ok (), s') →
        s'.story.snapshot.global = snap.global ∧
        (∀ id, Entries.get? id s'.story.snapshot.characters = Entries.get? id snap.characters) ∧
        ∀ ids id,
          ((openedState (.character id)).alone (afterLooks ids s')).1 = .ok (some (snap.over s id)) ∧
          ∀ scriptId names,
            ((openedState (.character id)).alone (afterLooks ids ⟨{ scriptId, names }, s'.store⟩)).1 =
              .ok (some (snap.over s id)) := by
  obtain ⟨hgood, hbad⟩ := alone_putSnapshot fit works
  refine ⟨⟨fun hok => ?_, fun hshort => ?_⟩, fun s' hend => ?_⟩
  · by_contra hlong
    obtain ⟨e, s', hend⟩ := hbad hlong
    rw [hend] at hok
    cases hok
  · obtain ⟨s', hend, -⟩ := hgood hshort
    rw [hend]
  have hreplaced : Replaced snap s s' := by
    by_cases hshort : snap.Short
    · obtain ⟨s'', hend', h⟩ := hgood hshort
      rw [hend'] at hend
      exact (Prod.mk.inj hend).2 ▸ h
    · obtain ⟨e, s'', hend'⟩ := hbad hshort
      rw [hend'] at hend
      cases (Prod.mk.inj hend).1
  have works' := hreplaced.outage.trans works
  -- whoever starts where a character offers a state finds it, after any looks at others
  have hlooks : ∀ (start : Script) (ids : List String) (id : String), start.store.outage = .none →
      start.offered id = snap.over s id →
        ((openedState (.character id)).alone (afterLooks ids start)).1 = .ok (some (snap.over s id)) := by
    intro start ids id hworks hoffered
    obtain ⟨hworks', hkept⟩ := offered_afterLooks hworks ids
    obtain ⟨_, hlook, -, -⟩ := alone_openedState_character hworks' id
    rw [hlook, hkept, hoffered]
  refine ⟨hreplaced.global, fun id => ?_, fun ids id => ⟨?_, fun scriptId names => ?_⟩⟩
  · rw [Story.get?_snapshot (hreplaced.once once)]
    cases hfound : Entries.get? id snap.characters with
    | some m =>
      obtain ⟨hopen, hmemory, -⟩ := hreplaced.installed id m hfound
      rw [if_pos hopen]
      exact congrArg some hmemory
    | none =>
      rw [(hreplaced.closed id hfound).1]
      rfl
  · exact hlooks s' ids id works' (hreplaced.offered id none .standard).1
  · exact hlooks _ ids id works' (hreplaced.offered id scriptId names).2

/-! ### A character that comes back -/

section Leftover

/-- A state with one hidden variable. -/
def leftover : State := { hidden := [("h", fleeting)] }

/-- The text of its payload. -/
def leftoverText : String := String.ofList (Json.write .pretty 0 leftover.toValue)

/-- A script with one character, which is open and stored. -/
def leftoverScript : Script :=
  ⟨{ scriptId := none, characters := [("bob", { state := leftover, isOpen := true })] },
    { payloads := [("character_bob", leftoverText.toUTF8)] }⟩

/-- A snapshot with another character. -/
def otherCast : Snapshot := ⟨{}, [("alice", leftover)]⟩

theorem once_leftoverScript : Entries.Once leftoverScript.story.characters := by
  simp [leftoverScript, Entries.Once]

theorem fit_otherCast : otherCast.Fit where
  once := by simp [otherCast, Entries.Once]
  global := State.storable_empty
  characters := by
    rintro id m hm
    obtain ⟨rfl, rfl⟩ : id = "alice" ∧ m = leftover := by simpa [otherCast] using hm
    exact storable_fleeting

theorem short_otherCast : otherCast.Short where
  global := State.isWritable_toValue.1 rfl
  characters := by
    rintro id m hm
    obtain ⟨rfl, rfl⟩ : id = "alice" ∧ m = leftover := by simpa [otherCast] using hm
    exact State.isWritable_toValue.1 rfl

/-- The character of the snapshot has its state, also when the store is opened anew. -/
theorem putSnapshot_replaces_otherCast :
    otherCast.Fit ∧ leftoverScript.store.outage = .none ∧
      Entries.Once leftoverScript.story.characters ∧
      ∃ s', (putSnapshot otherCast).alone leftoverScript = (.ok (), s') ∧
        Entries.get? "bob" s'.story.snapshot.characters = none ∧
        ((openedState (.character "alice")).alone s').1 = .ok (some leftover) ∧
        ((openedState (.character "alice")).alone ⟨{ scriptId := none }, s'.store⟩).1 =
          .ok (some leftover) := by
  obtain ⟨hdone, hall⟩ := putSnapshot_replaces fit_otherCast rfl once_leftoverScript
  have hend := Prod.ext (hdone.2 short_otherCast) rfl
  obtain ⟨-, hcharacters, hlooks⟩ := hall _ hend
  exact ⟨fit_otherCast, rfl, once_leftoverScript, _, hend, hcharacters "bob", (hlooks [] "alice").1,
    (hlooks [] "alice").2 none .standard⟩

/-- A character that the snapshot does not hold has its old state again as soon as one looks at it. -/
theorem offered_dropped_character :
    otherCast.Fit ∧ leftoverScript.store.outage = .none ∧
      Entries.Once leftoverScript.story.characters ∧
      Entries.get? "bob" otherCast.characters = none ∧
      ∃ s', (putSnapshot otherCast).alone leftoverScript = (.ok (), s') ∧
        ((openedState (.character "bob")).alone s').1 = .ok (some leftover) ∧ leftover ≠ {} := by
  have works : leftoverScript.store.outage = .none := rfl
  obtain ⟨s', hend, hreplaced⟩ := (alone_putSnapshot fit_otherCast works).1 short_otherCast
  have hstored : leftoverScript.storedState (.character "bob") = some leftover :=
    storedState_of_payload storable_fleeting rfl rfl
  have hover : otherCast.over leftoverScript "bob" = leftover := by
    rw [Snapshot.over, hstored]
    rfl
  obtain ⟨_, hlook, -, -⟩ := alone_openedState_character (hreplaced.outage.trans works) "bob"
  refine ⟨fit_otherCast, works, once_leftoverScript, rfl, s', hend, ?_, fun h => ?_⟩
  · rw [hlook, (hreplaced.offered "bob" none .standard).1, hover]
  · cases congrArg State.hidden h

end Leftover

end Script

end StoryState
