import StoryState.Proofs.Story.Failure
import StoryState.Proofs.Task.Confined
import StoryState.Proofs.Task.Orderly
import StoryState.Proofs.Task.Strokes

/-!
What is done to a script is made of a few things: it reads, rests and stops, it writes to a scope in a few
ways (`Write`), and it holds the locks of scopes, one at a time (`Made`). A deed that is done to one scope
writes to that one only and asks for no other lock (`Deed.made`). A relation along which all these writes go
is kept by every task that is so made, whatever others do meanwhile (`Made.confined`).

Two scopes may share a lock, so no scope's lock is asked for while that of another is held: opening, storing
and carrying out take none, and what works on several scopes gives back each lock before it asks for the next
(`Made.orderly`).
-/

namespace StoryState

/-- Whatever locks of scopes are held while the task runs, it takes none. -/
def ScriptTask.Lockless {α : Type} (t : ScriptTask α) : Prop := ∀ n, t.Orderly (fun _ => 0) n

/-- The task takes one lock of a scope at a time. -/
def ScriptTask.Orderly {α : Type} (t : ScriptTask α) : Prop := Task.Orderly (fun _ => 0) 0 t

namespace Script

open Relation (ReflTransGen)

/-! ### Writes -/

/-- A write to one of some scopes. The global scope is not closed by it. What belongs to no scope is written
only by whoever may write to all. -/
inductive Write (C : Scope → Prop) (s : Script) : Script → Prop
  | setCell {c : Scope} (own : C c) (x : Cell)
    (stays : c = .global → s.story.global.isOpen = true → x.isOpen = true) :
    Write C s { s with story := s.story.setCell c x }
  | openWith {c : Scope} (own : C c) (state : State) : Write C s (s.openWith c state)
  | save {c : Scope} (own : C c) (payload : ByteArray) :
    Write C s { s with store := s.store.save c.storageKey payload }
  | rename (all : ∀ c, C c) (names : TagNames) : Write C s { s with story := { s.story with names } }

/-- Writes one after another. -/
abbrev Writes (C : Scope → Prop) : Script → Script → Prop := ReflTransGen (Write C)

section Writes

variable {C : Scope → Prop} {c : Scope} {s : Script}

theorem writes_setState (own : C c) (state : State) (s : Script) : Writes C s (s.setState c state) :=
  .single (.setCell own _ fun hc hopen => by subst hc; exact hopen)

theorem writes_setDirty (own : C c) (dirty : Bool) (s : Script) : Writes C s (s.setDirty c dirty) :=
  .single (.setCell own _ fun hc hopen => by subst hc; exact hopen)

theorem writes_markStored (own : C c) (s : Script) : Writes C s (s.markStored c) := by
  unfold markStored
  split
  · exact writes_setDirty own false s
  · exact .refl

theorem writes_openWith (own : C c) (state : State) (s : Script) : Writes C s (s.openWith c state) :=
  .single (.openWith own state)

theorem writes_closeOthers (all : ∀ c, C c) (snap : Snapshot) (s : Script) :
    Writes C s (closeOthers snap s) := by
  have hclose : ∀ (ids : List String) (s : Script),
      Writes C s { s with story := ids.foldl (fun story id => story.close id) s.story } := by
    intro ids
    induction ids with
    | nil => exact fun s => .refl
    | cons id ids ih => exact fun s => .head (.setCell (all (.character id)) _ nofun) (ih _)
  exact hclose _ s

end Writes

/-! ### Tasks -/

/-- A task that reads, rests and stops, that writes to some scopes and holds their locks one at a time. The
flag is up while one is held. -/
inductive Made (C : Scope → Prop) : Bool → {α : Type} → ScriptTask α → Prop
  | done {held : Bool} {α : Type} (r : Except Fault α) : Made C held (.done r)
  | get {held : Bool} {α : Type} {f : Script → ScriptTask α} (h : ∀ s, Made C held (f s)) :
    Made C held (MonadState.get >>= f)
  | rests {held : Bool} (n : Nat) : Made C held (Task.rests n)
  | modify {held : Bool} {f : Script → Script} (h : ∀ s, Writes C s (f s)) : Made C held (modify f)
  | bind {held : Bool} {α β : Type} {t : ScriptTask α} {f : α → ScriptTask β} (ht : Made C held t)
    (hf : ∀ a, Made C held (f a)) : Made C held (t >>= f)
  | tryCatch {held : Bool} {α : Type} {t : ScriptTask α} {handle : Fault → ScriptTask α}
    (ht : Made C held t) (hf : ∀ e, Made C held (handle e)) : Made C held (tryCatch t handle)
  | holding {c : Scope} {α : Type} {t : ScriptTask α} (own : C c) (ht : Made C true t) :
    Made C false (holding c t)

namespace Made

variable {C : Scope → Prop} {held : Bool} {α β : Type} {t : ScriptTask α}

theorem pure (a : α) : Made C held (Pure.pure a) := done _

theorem ofExcept (r : Except Fault α) : Made C held (Task.ofExcept r) := done r

theorem map {f : α → β} (ht : Made C held t) : Made C held (t >>= fun a => Pure.pure (f a)) :=
  ht.bind fun _ => pure _

theorem orElse {fallback : α} (ht : Made C held t) : Made C held (Script.orElse t fallback) :=
  ht.tryCatch fun _ => pure _

/-- Whatever the writes go along, the task goes along, and asks only for locks of its scopes. -/
theorem confined {K : String → Prop} {Step : Script → Script → Prop} (h : Made C held t)
    (locks : ∀ c, C c → K c.lockName) (step : ∀ s s', Writes C s s' → Step s s') : t.Confined K Step := by
  induction h with
  | done r => exact .done r
  | get _ ih => exact .get ih
  | rests n => exact .rests n
  | modify h => exact .modify fun s => step s _ (h s)
  | bind _ _ iht ihf => exact iht.bind ihf
  | tryCatch _ _ iht ihf => exact iht.tryCatch ihf
  | holding own _ ih => exact .holding (locks _ own) ih

theorem orderlyAt (h : Made C held t) {n : Nat} (hn : held = false → n = 0) :
    Task.Orderly (fun _ => 0) n t := by
  induction h generalizing n with
  | done r => exact .done r
  | get _ ih => exact .get fun s => ih s hn
  | rests m => exact .rests m
  | modify _ => exact .modify _
  | bind _ _ iht ihf => exact (iht hn).bind fun a => ihf a hn
  | tryCatch _ _ iht ihf => exact (iht hn).tryCatch fun e => ihf e hn
  | holding _ _ ih =>
    obtain rfl := hn rfl
    exact .holding (Nat.le_refl 0) (ih nofun)

/-- What is done while a lock is held takes none. -/
theorem lockless (h : Made C true t) : t.Lockless := fun _ => h.orderlyAt nofun

theorem orderly (h : Made C false t) : t.Orderly := h.orderlyAt fun _ => rfl

end Made

/-! ### Opening and storing -/

section Tasks

variable {C : Scope → Prop} {held : Bool} {α β : Type} {c : Scope}

theorem made_loadState : Made C held (loadState c) := by
  rw [loadState_eq]
  exact .map (.get fun _ => .bind (.rests _) fun _ => .get fun _ => .ofExcept _)

theorem made_savePayload (own : C c) (payload : ByteArray) :
    Made C held (savePayload c.storageKey payload) := by
  refine .get fun s => ?_
  dsimp only
  split
  · exact .done _
  · exact .get fun _ => .bind (.rests _) fun _ => .modify fun s => .single (.save own payload)

theorem made_persist (own : C c) : Made C held (persist c) :=
  .get fun _ => .bind (.ofExcept _) fun _ => .bind (made_savePayload own _) fun _ =>
    .modify (writes_markStored own)

theorem made_openWith (own : C c) (state : State) : Made C held (modify (openWith c state)) :=
  .modify (writes_openWith own state)

theorem made_initialise (own : C c) (config : Option (Except Fault State)) :
    Made C held (initialise c config) := by
  cases config with
  | some config =>
    exact .bind (.ofExcept _) fun state => .bind (made_openWith own state) fun _ => made_persist own
  | none =>
    refine .bind made_loadState fun found => ?_
    cases found with
    | some state => exact made_openWith own state
    | none => exact .bind (made_openWith own {}) fun _ => made_persist own

theorem made_ensureOpen (own : C c) : Made C held (ensureOpen c) := by
  refine .get fun s => ?_
  split
  · exact made_initialise own none
  · exact .pure _

theorem made_tryOpen (own : C c) (config : Option (Except Fault State)) :
    Made C false (tryOpen c config) := .orElse (.map (.holding own (made_initialise own config)))

theorem made_openedState (own : C c) : Made C false (openedState c) := by
  refine .get fun s => ?_
  split
  · exact .bind (.map (made_tryOpen own none)) fun _ => .get fun _ => .pure _
  · exact .get fun _ => .pure _

theorem made_onOpen (own : C c) {t : ScriptTask α} (ht : Made C true t) : Made C false (onOpen c t) :=
  .holding own (.bind (made_ensureOpen own) fun _ => ht)

/-! ### Directives and macros -/

theorem made_setState (own : C c) (state : State) : Made C held (modify (setState c state)) :=
  .modify (writes_setState own state)

theorem made_carryOut (own : C c) (run : TagNames → State → Except Fault BatchResult × State) :
    Made C false (carryOut c run) := by
  refine made_onOpen own (.get fun s => .bind (made_setState own _) fun _ =>
    .bind (.ofExcept _) fun result => .get fun s => ?_)
  dsimp only
  split
  · exact .bind (made_persist own) fun _ => .pure _
  · exact .pure _

theorem Rewrites.made (own : C c) {R : TagNames → State → State → Prop} {t : ScriptTask β}
    (h : Rewrites c R t) : Made C false t := by
  cases h with
  | carryOut f => exact .map (made_carryOut own _)
  | edit f =>
    exact .map (made_onOpen own (.get fun s => .bind (.ofExcept _) fun state =>
      .bind (made_setState own state) fun _ => made_persist own))
  | editIf f =>
    refine .map (made_onOpen own (.get fun s => .bind (.ofExcept _) fun found => ?_))
    cases found with
    | none => exact .pure _
    | some p =>
      exact .bind (made_setState own _) fun _ => .bind (made_persist own) fun _ => .pure _

theorem made_tryRegistrations (own : C c) (text : String) : Made C false (tryRegistrations c text) :=
  .orElse (.map (made_carryOut own _))

theorem made_replaceMacros (own : C c) (text : String) : Made C held (replaceMacros c text) := by
  refine .get fun s => ?_
  dsimp only
  split
  · exact .pure _
  · refine .bind (made_setState own _) fun _ => .bind (.ofExcept _) fun result => ?_
    split
    · exact .bind (.modify (writes_setDirty own true)) fun _ => .pure _
    · exact .pure _

theorem made_persistIfDirty (own : C c) : Made C false (persistIfDirty c) := by
  refine .holding own (.get fun s => ?_)
  dsimp only
  split
  · exact .bind (made_persist own) fun _ => .pure _
  · exact .pure _

/-- Macros are read without a lock; the lock is taken before, to open the scope, and again behind, to store
what has expired. -/
theorem made_renderMacros (own : C c) (history : History) (text : String) :
    Made C false (renderMacros history c text) := by
  have hopen : Made C false (renderOpen history c text) := by
    refine .bind (made_replaceMacros own text) fun _ => .get fun s => ?_
    split
    · exact .bind (.map (made_persistIfDirty own)) fun _ => .ofExcept _
    · exact .ofExcept _
  refine .get fun s => ?_
  split
  · exact .bind (.holding own (made_ensureOpen own)) fun _ => hopen
  · exact hopen

/-! ### All scopes -/

theorem made_flush (all : ∀ c, C c) : Made C false flush := by
  have hall : ∀ scopes, Made C false (flushAll scopes) := by
    intro scopes
    induction scopes with
    | nil => exact .pure _
    | cons c scopes ih => exact .bind (made_persistIfDirty (all c)) fun _ => .map ih
  exact .get fun s => hall _

theorem made_putSnapshot (all : ∀ c, C c) (snap : Snapshot) : Made C false (putSnapshot snap) := by
  have hreplace : ∀ c state, Made C false (replaceState c state) := fun c state =>
    .holding (all c) (.bind (made_openWith (all c) state) fun _ => made_persist (all c))
  have hstates : ∀ states, Made C false (replaceStates states) := by
    intro states
    induction states with
    | nil => exact .pure _
    | cons entry states ih => exact .bind (hreplace _ _) fun _ => ih
  exact .bind (hreplace _ _) fun _ => .bind (.modify (writes_closeOthers all snap)) fun _ => hstates _

theorem made_takeSnapshot (all : ∀ c, C c) : Made C false Script.takeSnapshot := by
  have hlocked : ∀ c, Made C false (lockedState c) := fun c => .holding (all c) (.get fun _ => .pure _)
  have hstates : ∀ ids, Made C false (characterStates ids) := by
    intro ids
    induction ids with
    | nil => exact .pure _
    | cons id ids ih => exact .bind (hlocked _) fun _ => .map ih
  exact .bind (hlocked _) fun _ => .get fun _ => .map (hstates _)

end Tasks

end Script

open Script

/-! ### Deeds -/

/-- The scope to which a deed is done, if it is done to one. -/
def Deed.scope? : Deed → Option Scope
  | .operation (.on c _) | .operation (.readMacros c _) | .operation (.renderMacros _ c _)
  | .initialise c _ => some c
  | _ => none

/-- The scopes that may be written to by who has one of his own: that one, or all if he has none. -/
def Scope.OpenTo (own? : Option Scope) (c : Scope) : Prop := ∀ d ∈ own?, c = d

theorem Scope.openTo_some (c : Scope) : OpenTo (some c) c := fun _ hd => Option.some.inj hd

theorem Scope.openTo_none (c : Scope) : OpenTo none c := fun _ hd => nomatch hd

/-- A deed that is done to one scope writes to that one only, and asks for no lock but that of this one. -/
theorem Deed.made (d : Deed) : Made (Scope.OpenTo d.scope?) false d.task := by
  cases d with
  | operation op =>
    cases op with
    | on c call => exact (call.rewrites c).made (Scope.openTo_some c)
    | readMacros c text => exact .map (made_replaceMacros (Scope.openTo_some c) text)
    | renderMacros history c text => exact .map (made_renderMacros (Scope.openTo_some c) history text)
    | flush => exact .map (made_flush Scope.openTo_none)
  | initialise c config =>
    exact .map (.holding (Scope.openTo_some c) (made_initialise (Scope.openTo_some c) config))
  | putSnapshot snap => exact .map (made_putSnapshot Scope.openTo_none snap)
  | takeSnapshot => exact .map (made_takeSnapshot Scope.openTo_none)
  | renameTags overrides =>
    refine .map (.bind (.modify fun s => ?_) fun _ => .get fun _ => .pure _)
    exact .single (.rename Scope.openTo_none _)
  | look f => exact .get fun s => .ofExcept _

end StoryState
