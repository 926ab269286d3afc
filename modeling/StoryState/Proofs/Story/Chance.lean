import StoryState.Proofs.Directive.Hidden
import StoryState.Proofs.Macro.Evaluation
import StoryState.Proofs.Story.Alone

/-!
How often a hidden variable with an expiry can still be shown on a scope. That is settled by the one
that memory has, or the store if memory has none (`Script.current?`): what shows it takes the chance
away, and nothing gives it back but opening an open scope anew while the store lacks the expiry
(`Script.Lags`). `Turns` carries this through the tasks on a script.
-/

namespace StoryState

open Macro

namespace Script

/-- The hidden variable of a name as memory has it, if the scope is open. -/
def remembered? (c : Scope) (name : String) (s : Script) : Option Hidden :=
  if (s.story.cell c).isOpen then Entries.get? name (s.memory c).hidden else none

/-- The hidden variable of a name as the store has it. -/
def stored? (c : Scope) (name : String) (s : Script) : Option Hidden :=
  (s.storedState c).bind fun m => Entries.get? name m.hidden

/-- The hidden variable of a name as memory has it, or else the store. -/
def current? (c : Scope) (name : String) (s : Script) : Option Hidden :=
  (s.remembered? c name).or (s.stored? c name)

/-- Whether a hidden variable has expired in memory, but not in the store. -/
def lags (c : Scope) (name : String) (s : Script) : Bool :=
  match s.remembered? c name, s.stored? c name with
  | some x, some y => x.isSpent && !y.isSpent
  | _, _ => false

/-- Wherever a scope has a hidden variable of a name it is the same but for its expiry, and it can be
read only where it is remembered. -/
structure Holds (c : Scope) (name : String) (h : Hidden) (s : Script) : Prop where
  storable : (s.memory c).Storable
  remembered : ∀ x, s.remembered? c name = some x → h.Version x
  stored : ∀ x, s.stored? c name = some x → h.Version x
  visible : (s.story.state? c).isSome = true →
    Entries.get? name (s.memory c).hidden = s.remembered? c name

/-- The macros that are evaluated when those of a text are replaced on a scope as it is. -/
def evaluations (c : Scope) (text : String) (s : Script) : List Evaluation :=
  match s.story.state? c with
  | none => []
  | some state => state.evaluations (s.story.defaultId c) text

/-- What a task does to the chances of a hidden variable: its evaluations take away as many as they
show it, and it gives so many back. -/
def Turns (c : Scope) (name : String) (h : Hidden) (evaluations : List Evaluation) (regained : Nat)
    (s s' : Script) : Prop :=
  Holds c name h s → Holds c name h s' ∧
    evaluations.countP (·.shows name) + Hidden.chances (s'.current? c name) ≤
      Hidden.chances (s.current? c name) + regained ∧ Honest name h evaluations

section Turns

variable {c d : Scope} {name : String} {h : Hidden} {s s' s'' : Script}
  {evaluations evaluations' : List Evaluation} {regained regained' : Nat}

/-- A character can be read while it is open. -/
theorem isSome_state? : (s.story.state? c).isSome = true ↔ c = .global ∨ (s.story.cell c).isOpen = true := by
  cases c with
  | global => simp [Story.state?]
  | character id =>
    unfold Story.state?
    dsimp only
    split <;> simp [*]

/-- A task that evaluates no macro. -/
theorem Turns.silent (hturns : Holds c name h s → Holds c name h s' ∧
    Hidden.chances (s'.current? c name) ≤ Hidden.chances (s.current? c name) + regained) :
    Turns c name h [] regained s s' := by
  intro hs
  obtain ⟨hs', hle⟩ := hturns hs
  exact ⟨hs', by simpa using hle, honest_nil⟩

theorem Turns.refl (s : Script) : Turns c name h [] 0 s s := .silent fun hs => ⟨hs, Nat.le_refl _⟩

theorem Turns.trans (h₁ : Turns c name h evaluations regained s s')
    (h₂ : Turns c name h evaluations' regained' s' s'') :
    Turns c name h (evaluations ++ evaluations') (regained + regained') s s'' := by
  intro hs
  obtain ⟨hs', hle, hhonest⟩ := h₁ hs
  obtain ⟨hs'', hle', hhonest'⟩ := h₂ hs'
  refine ⟨hs'', ?_, hhonest.append hhonest'⟩
  rw [List.countP_append]
  omega

/-- Going on without a macro. -/
theorem Turns.next (h₁ : Turns c name h evaluations 0 s s') (h₂ : Turns c name h [] 0 s' s'') :
    Turns c name h evaluations 0 s s'' := by
  have hboth := h₁.trans h₂
  rw [List.append_nil] at hboth
  exact hboth

theorem Turns.gain (h₁ : Turns c name h evaluations 0 s s') :
    Turns c name h evaluations regained s s' := by
  intro hs
  obtain ⟨hs', hle, hhonest⟩ := h₁ hs
  exact ⟨hs', by omega, hhonest⟩

/-- Only what memory and the store have matters, and whether the scope is open. -/
theorem Turns.of_alike (hmemory : s'.memory c = s.memory c)
    (hopen : (s'.story.cell c).isOpen = (s.story.cell c).isOpen)
    (hpayload : s'.payload? c = s.payload? c) : Turns c name h [] 0 s s' := by
  have hremembered : s'.remembered? c name = s.remembered? c name := by
    rw [remembered?, remembered?, hopen, hmemory]
  have hstored : s'.stored? c name = s.stored? c name := by
    rw [stored?, stored?, storedState, storedState, hpayload]
  refine .silent fun hs => ⟨⟨?_, ?_, ?_, fun hread => ?_⟩, ?_⟩
  · rw [hmemory]
    exact hs.storable
  · rw [hremembered]
    exact hs.remembered
  · rw [hstored]
    exact hs.stored
  · rw [hmemory, hremembered]
    exact hs.visible (isSome_state?.2 (hopen ▸ isSome_state?.1 hread))
  · rw [current?, current?, hremembered, hstored, Nat.add_zero]

theorem Turns.of_same (hs : Same c s s') : Turns c name h [] 0 s s' :=
  .of_alike hs.memory (by rw [hs.cell]) hs.payload

theorem Turns.of_onlyAt (hs : OnlyAt d s s') (hd : c ≠ d) : Turns c name h [] 0 s s' :=
  .of_same (hs.2 c hd).same

/-- A script of which nothing has been opened yet has what the store has. -/
theorem holds_fresh {scriptId : Option String} {store : Store}
    (stored : ∀ x, stored? c name ⟨{ scriptId }, store⟩ = some x → h.Version x) :
    Holds c name h ⟨{ scriptId }, store⟩ := by
  have hempty : memory c ⟨{ scriptId }, store⟩ = {} := by cases c <;> rfl
  have hnone : remembered? c name ⟨{ scriptId }, store⟩ = none := by cases c <;> rfl
  refine ⟨?_, ?_, stored, fun _ => ?_⟩
  · rw [hempty]
    exact State.storable_empty
  · rw [hnone]
    exact fun x hx => nomatch hx
  · rw [hempty, hnone]
    rfl

/-! ### Opening -/

theorem remembered?_openWith {state : State} :
    (openWith c state s).remembered? c name = Entries.get? name state.hidden := by
  rw [remembered?, cell_openWith, memory_openWith, if_pos rfl]

theorem stored?_openWith {state : State} : (openWith c state s).stored? c name = s.stored? c name := by
  rw [stored?, storedState, payload_openWith]
  rfl

/-- A scope that is opened with a state has what that state has. -/
theorem Holds.openWith {state : State} (hs : Holds c name h s) (storable : state.Storable)
    (version : ∀ x, Entries.get? name state.hidden = some x → h.Version x) :
    Holds c name h (openWith c state s) where
  storable := by
    rw [memory_openWith]
    exact storable
  remembered := by
    rw [remembered?_openWith]
    exact version
  stored := by
    rw [stored?_openWith]
    exact hs.stored
  visible _ := by rw [remembered?_openWith, memory_openWith]

/-- What the store has takes no chance away, and gives one back only if the store lags. -/
theorem chances_stored_le (s : Script) : Hidden.chances (s.stored? c name) ≤
    Hidden.chances (s.current? c name) + (s.lags c name).toNat := by
  unfold current? lags
  cases s.remembered? c name with
  | none => exact Nat.le_add_right _ _
  | some x =>
    cases s.stored? c name with
    | none => exact Nat.zero_le _
    | some y =>
      simp only [Option.some_or, Hidden.chances]
      cases x.isSpent <;> cases y.isSpent <;> decide

/-- A scope is opened with the stored state. -/
theorem turns_openStored {state : State} (found : s.storedState c = some state) :
    Turns c name h [] (s.lags c name).toNat s (openWith c state s) := by
  have hstored : s.stored? c name = Entries.get? name state.hidden := by
    rw [stored?, found, Option.bind_some]
  refine .silent fun hs => ⟨hs.openWith (storable_of_storedState found) (hstored ▸ hs.stored), ?_⟩
  rw [current?, remembered?_openWith, stored?_openWith, ← hstored, Option.or_self]
  exact chances_stored_le s

/-- A scope is opened with nothing where nothing is stored. -/
theorem turns_openEmpty (found : s.storedState c = none) :
    Turns c name h [] 0 s (openWith c {} s) := by
  refine .silent fun hs => ⟨hs.openWith State.storable_empty (by simp), ?_⟩
  rw [current?, remembered?_openWith, stored?_openWith, stored?, found]
  exact Nat.zero_le _

/-- The store lags only behind a scope that is marked, or that is not accounted for. -/
theorem Accounted.lags_eq_false (hs : Accounted c s) (clean : (s.story.cell c).isDirty = false) :
    s.lags c name = false := by
  unfold lags remembered? stored?
  cases hopen : (s.story.cell c).isOpen with
  | false => rfl
  | true =>
    rw [hs hopen clean, if_pos rfl, Option.bind_some]
    cases Entries.get? name (s.memory c).hidden with
    | none => rfl
    | some x => exact Bool.and_not_self _

/-! ### Storing -/

/-- What memory has is stored. -/
theorem turns_persist (readable : (s.story.state? c).isSome = true) :
    Turns c name h [] 0 s ((persist c).alone s).2 := by
  rw [alone_persist]
  cases hpayload : (s.memory c).payload with
  | error e => exact .refl s
  | ok text =>
    dsimp only
    split
    · exact .refl s
    · refine .silent fun hs => ?_
      generalize hs' : markStored c { s with store := s.store.save c.storageKey text.toUTF8 } = s'
      have hcell : s'.story.cell c = { s.story.cell c with isDirty := false } := by
        rw [← hs', cell_markStored]
      have hmemory : s'.memory c = s.memory c := by rw [memory, hcell, memory]
      have hremembered : s'.remembered? c name = s.remembered? c name := by
        rw [remembered?, remembered?, hcell, hmemory]
      have hstored : s'.stored? c name = s.remembered? c name := by
        have hpaid : s'.payload? c = some text.toUTF8 := by rw [← hs', payload_markStored, payload_save]
        rw [stored?, storedState_of_payload hs.storable hpayload hpaid, Option.bind_some]
        exact hs.visible readable
      refine ⟨⟨?_, ?_, ?_, fun _ => ?_⟩, ?_⟩
      · rw [hmemory]
        exact hs.storable
      · rw [hremembered]
        exact hs.remembered
      · rw [hstored]
        exact hs.remembered
      · rw [hmemory, hremembered]
        exact hs.visible readable
      · rw [current?, current?, hremembered, hstored, Option.or_self]
        cases s.remembered? c name <;> simp [Hidden.chances]

/-- A scope is opened from the store, or with nothing. -/
theorem turns_initialise :
    Turns c name h [] (s.lags c name).toNat s ((initialise c none).alone s).2 := by
  rw [alone_initialise]
  split
  · exact (Turns.refl s).gain
  · cases found : s.storedState c with
    | some state => exact turns_openStored found
    | none =>
      have hopen : ((openWith c {} s).story.state? c).isSome = true :=
        isSome_state?.2 (.inr (by rw [cell_openWith]))
      exact ((turns_openEmpty found).next (turns_persist hopen)).gain

/-- Opening a scope that is not open gives no chance back. -/
theorem turns_ensureOpen : Turns c name h [] 0 s ((ensureOpen c).alone s).2 := by
  rw [alone_ensureOpen]
  split
  · exact .refl s
  · rename_i hclosed
    have hlags : s.lags c name = false := by
      rw [lags, remembered?, if_neg hclosed]
    have hturns : Turns c name h [] (s.lags c name).toNat s _ := turns_initialise
    rw [hlags] at hturns
    exact hturns

/-! ### Operations on a scope -/

/-- A state is put in the place of one that has the same hidden variable. -/
theorem turns_setState {state : State} (storable : (s.memory c).Storable → state.Storable)
    (kept : Entries.get? name state.hidden = Entries.get? name (s.memory c).hidden) :
    Turns c name h [] 0 s (s.setState c state) := by
  have hremembered : (s.setState c state).remembered? c name = s.remembered? c name := by
    rw [remembered?, remembered?, cell_setState, memory_setState, kept]
  have hreadable := isSome_state? (c := c) (s := s.setState c state)
  rw [cell_setState] at hreadable
  refine .silent fun hs => ⟨⟨?_, ?_, hs.stored, fun hread => ?_⟩, ?_⟩
  · rw [memory_setState]
    exact storable hs.storable
  · rw [hremembered]
    exact hs.remembered
  · rw [memory_setState, hremembered, kept]
    exact hs.visible (isSome_state?.2 (hreadable.1 hread))
  · rw [current?, hremembered]
    exact Nat.le_refl _

/-- A task on an open scope, which is opened first. -/
theorem turns_onOpen {α : Type} {t : ScriptTask α}
    (ht : ∀ s₁, s₁.story.names = s.story.names → (s₁.story.cell c).isOpen = true →
      Turns c name h [] 0 s₁ (t.alone s₁).2) : Turns c name h [] 0 s ((onOpen c t).alone s).2 := by
  have hnames := ((local_ensureOpen (c := c)).onlyAt s).1.names
  have hopened : ∀ u, ((ensureOpen c).alone s).1 = .ok u → _ := fun u => isOpen_ensureOpen
  have hturns : Turns c name h [] 0 s ((ensureOpen c).alone s).2 := turns_ensureOpen
  rw [onOpen, holding, Task.alone_holding, Task.alone_bind]
  generalize (ensureOpen c).alone s = p at hnames hopened hturns
  obtain ⟨r, s₁⟩ := p
  cases r with
  | error e => exact hturns
  | ok u => exact hturns.next (ht s₁ hnames.symm (hopened u rfl))

/-- A state is put in the place of one that has the same hidden variable, and stored. -/
theorem turns_storeState {state : State} (hopen : (s.story.cell c).isOpen = true)
    (storable : (s.memory c).Storable → state.Storable)
    (kept : Entries.get? name state.hidden = Entries.get? name (s.memory c).hidden) :
    Turns c name h [] 0 s ((persist c).alone (s.setState c state)).2 := by
  have hopen' : ((s.setState c state).story.cell c).isOpen = true := by rw [cell_setState]; exact hopen
  exact (turns_setState storable kept).next (turns_persist (isSome_state?.2 (.inr hopen')))

section Rewrites

variable {α : Type}

theorem turns_carryOut {run : TagNames → State → Except Fault BatchResult × State}
    (storable : ∀ m : State, m.Storable → (run s.story.names m).2.Storable)
    (kept : ∀ m, Entries.get? name (run s.story.names m).2.hidden = Entries.get? name m.hidden) :
    Turns c name h [] 0 s ((carryOut c run).alone s).2 := by
  refine turns_onOpen fun s₁ hnames hopen => ?_
  rw [Task.alone_get]
  dsimp only
  rw [hnames]
  have hstorable := storable (s₁.memory c)
  have hkept := kept (s₁.memory c)
  show Turns c name h [] 0 s₁ ((modify (setState c (run s.story.names (s₁.memory c)).2) >>= fun _ =>
    Task.ofExcept (run s.story.names (s₁.memory c)).1 >>= _ : ScriptTask BatchResult).alone s₁).2
  generalize run s.story.names (s₁.memory c) = p at hstorable hkept
  obtain ⟨outcome, state⟩ := p
  rw [Task.alone_modify, Task.alone_ofExcept]
  cases outcome with
  | error e => exact turns_setState hstorable hkept
  | ok result =>
    dsimp only
    rw [Task.alone_get]
    split
    · rw [Task.alone_map]
      exact turns_storeState hopen hstorable hkept
    · exact turns_setState hstorable hkept

theorem turns_edit {g : State → Except Fault State}
    (storable : ∀ m m', g m = .ok m' → m.Storable → m'.Storable)
    (kept : ∀ m m', g m = .ok m' → Entries.get? name m'.hidden = Entries.get? name m.hidden) :
    Turns c name h [] 0 s ((edit c g).alone s).2 := by
  refine turns_onOpen fun s₁ _ hopen => ?_
  rw [Task.alone_get, Task.alone_ofExcept]
  cases hg : g (s₁.story.cell c).state with
  | error e => exact .refl s₁
  | ok state => exact turns_storeState hopen (storable _ _ hg) (kept _ _ hg)

theorem turns_editIf {otherwise : α} {g : State → Except Fault (Option (α × State))}
    (storable : ∀ m a m', g m = .ok (some (a, m')) → m.Storable → m'.Storable)
    (kept : ∀ m a m', g m = .ok (some (a, m')) →
      Entries.get? name m'.hidden = Entries.get? name m.hidden) :
    Turns c name h [] 0 s ((editIf c otherwise g).alone s).2 := by
  refine turns_onOpen fun s₁ _ hopen => ?_
  rw [Task.alone_get, Task.alone_ofExcept]
  cases hg : g (s₁.story.cell c).state with
  | error e => exact .refl s₁
  | ok found =>
    cases found with
    | none => exact .refl s₁
    | some p =>
      obtain ⟨a, state⟩ := p
      dsimp only
      rw [Task.alone_modify, Task.alone_map]
      exact turns_storeState hopen (storable _ _ _ hg) (kept _ _ _ hg)

/-- An operation gives no chance back if it keeps the hidden variable. -/
theorem Rewrites.turns {R : TagNames → State → State → Prop} {t : ScriptTask α} (ht : Rewrites c R t)
    (storable : ∀ names m m', R names m m' → m.Storable → m'.Storable)
    (kept : ∀ m m', R s.story.names m m' → Entries.get? name m'.hidden = Entries.get? name m.hidden) :
    Turns c name h [] 0 s (t.alone s).2 := by
  cases ht with
  | carryOut f along silent =>
    rw [Task.alone_map]
    exact turns_carryOut (fun m => storable _ _ _ (along _ m)) fun m => kept _ _ (along _ m)
  | edit f along =>
    rw [Task.alone_map]
    exact turns_edit (fun m m' h => storable .standard m m' (along _ _ _ h))
      fun m m' h => kept m m' (along _ _ _ h)
  | editIf f along =>
    rw [Task.alone_map]
    exact turns_editIf (fun m a m' h => storable .standard m m' (along _ _ a _ h))
      fun m a m' h => kept m m' (along _ _ a _ h)

end Rewrites

/-- What is marked is stored. -/
theorem turns_persistIfDirty : Turns c name h [] 0 s ((persistIfDirty d).alone s).2 := by
  rw [alone_persistIfDirty]
  by_cases hd : c = d
  · subst hd
    unfold storeMarked
    rw [Task.alone_get]
    dsimp only
    split
    · rename_i hmarked
      rw [Task.alone_map]
      exact turns_persist (by simpa using (Bool.and_eq_true_iff.1 hmarked).2)
    · exact .refl s
  · exact .of_onlyAt (local_storeMarked.onlyAt s) hd

/-! ### Macros -/

theorem turns_setDirty {dirty : Bool} : Turns c name h [] 0 s (s.setDirty c dirty) :=
  .of_alike memory_setDirty (by rw [cell_setDirty]) rfl

/-- Reading takes a chance away for each time that it shows the hidden variable. -/
theorem turns_read {text : String} {defaultId : Option String} (expires : h.hasExpiration = true)
    (readable : (s.story.state? c).isSome = true) :
    Turns c name h ((s.memory c).evaluations defaultId text) 0 s
      (s.setState c ((s.memory c).replaceMacros defaultId text).state) := by
  intro hs
  have hread := hs.visible readable
  have hexpiry := ((s.memory c).replaceMacros_spec defaultId text defaultDepth).expiry
  have hglimpses := State.evaluations_spec expires (hread ▸ hs.remembered) defaultId text defaultDepth
  generalize (s.memory c).replaceMacros defaultId text = seen at hexpiry hglimpses
  have hremembered : (s.setState c seen.state).remembered? c name =
      Entries.get? name seen.state.hidden := by
    rw [remembered?, cell_setState, memory_setState]
    split
    · rfl
    · rename_i hclosed
      rw [hread, remembered?, if_neg hclosed] at hglimpses
      exact hglimpses.aged.eq_none.symm
  refine ⟨⟨?_, ?_, hs.stored, fun _ => ?_⟩, ?_, hglimpses.honest⟩
  · rw [memory_setState]
    exact hexpiry.storable hs.storable
  · rw [hremembered]
    exact hglimpses.aged.version (hread ▸ hs.remembered)
  · rw [memory_setState, hremembered]
  · rw [current?, hremembered]
    rw [hread] at hglimpses
    exact hglimpses.shown_or _

theorem turns_replaceMacros {text : String} (expires : h.hasExpiration = true) :
    Turns c name h (s.evaluations c text) 0 s ((replaceMacros c text).alone s).2 := by
  unfold Script.evaluations replaceMacros
  rw [Task.alone_get]
  dsimp only
  cases hstate : s.story.state? c with
  | none => exact .refl s
  | some state =>
    obtain rfl := memory_of_state? hstate
    have hread : (s.story.state? c).isSome = true := by rw [hstate]; rfl
    have hturns : Turns c name h ((s.memory c).evaluations (s.story.defaultId c) text) 0 s
        (s.setState c ((s.memory c).replaceMacros (s.story.defaultId c) text).state) :=
      turns_read expires hread
    dsimp only
    rw [Task.alone_modify, Task.alone_ofExcept]
    split
    · split
      · exact hturns.next turns_setDirty
      · exact hturns
    · exact hturns

/-- What is marked is stored behind the reading, which takes no chance away. -/
theorem turns_renderOpen {history : History} {text : String}
    (hread : Turns c name h evaluations 0 s ((replaceMacros d text).alone s).2) :
    Turns c name h evaluations 0 s ((renderOpen history d text).alone s).2 := by
  unfold renderOpen
  rw [Task.alone_bind]
  generalize (replaceMacros d text).alone s = p at hread
  obtain ⟨r, s₁⟩ := p
  cases r with
  | error e => exact hread
  | ok result =>
    dsimp only
    rw [Task.alone_get]
    split
    · have hstore : Turns c name h [] 0 s₁ ((persistIfDirty d).alone s₁).2 := turns_persistIfDirty
      rw [Task.alone_bind, Task.alone_discard]
      cases ((persistIfDirty d).alone s₁).1 <;> exact hread.next hstore
    · exact hread

theorem turns_flushAll {scopes : List Scope} :
    Turns c name h [] 0 s ((flushAll scopes).alone s).2 := by
  induction scopes generalizing s with
  | nil => exact .refl s
  | cons d scopes ih =>
    have hstore : Turns c name h [] 0 s ((persistIfDirty d).alone s).2 := turns_persistIfDirty
    rw [flushAll, Task.alone_bind]
    generalize (persistIfDirty d).alone s = p at hstore
    obtain ⟨r, s₁⟩ := p
    cases r with
    | error e => exact hstore
    | ok stored =>
      dsimp only
      rw [Task.alone_map]
      exact hstore.next ih

end Turns

end Script

end StoryState
