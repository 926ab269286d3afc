import StoryState.Proofs.Story.Recovery
import StoryState.Proofs.Story.View
import StoryState.Proofs.Task.Inside
import StoryState.Story.Batch
import StoryState.Story.Direct

/-!
Tasks that mind only one scope. While the lock of the scope is held, others may do what they like to
other scopes whenever such a task rests: it does what it does when it runs alone (`LocalTo`).
-/

namespace StoryState.Script

/-- What others may do while the lock of a scope is held. -/
def Spares (c : Scope) (s s' : Script) : Prop := ∀ d : Scope, d.lockName = c.lockName → Agree d s s'

/-- What does not change for scopes that have the same lock. -/
def Beside (c : Scope) (s s' : Script) : Prop :=
  ∀ d : Scope, d ≠ c → d.lockName = c.lockName → Agree d s s'

/-- The task minds only one scope. -/
def LocalTo {α : Type} (c : Scope) (t : ScriptTask α) : Prop :=
  ∀ s s₀, Agree c s s₀ → t.Inside (Spares c) (OnlyAt c) s fun r s' =>
    r = (t.alone s₀).1 ∧ Agree c s' (t.alone s₀).2 ∧ Beside c s s'

namespace LocalTo

variable {α β : Type} {c : Scope}

theorem done (r : Except Fault α) : LocalTo c (.done r) :=
  fun s _ hs => ⟨rfl, hs, fun d _ _ => .refl d s⟩

theorem pure (a : α) : LocalTo c (Pure.pure a) := done _

theorem ofExcept (r : Except Fault α) : LocalTo c (.ofExcept r) := done r

theorem get {F : Script → ScriptTask α} (hF : ∀ s s₀, Agree c s s₀ → F s = F s₀)
    (h : ∀ s, LocalTo c (F s)) : LocalTo c (MonadState.get >>= F) := by
  intro s s₀ hs
  have hrun := h s s s₀ hs
  rw [hF s s₀ hs] at hrun
  show (F s).Inside _ _ s _
  rw [hF s s₀ hs]
  exact hrun

theorem modify {f : Script → Script} (agree : ∀ s s₀, Agree c s s₀ → Agree c (f s) (f s₀))
    (only : ∀ s, OnlyAt c s (f s)) : LocalTo c (modify f) :=
  fun s s₀ hs => ⟨only s, rfl, agree s s₀ hs, fun d hd _ => (only s).2 d hd⟩

theorem rests (n : Nat) : LocalTo c (.rests n) := by
  induction n with
  | zero => exact done _
  | succ n ih =>
    intro s s₀ hs s' hrest
    refine (ih s' s₀ ((hrest c rfl).symm.trans hs)).mono ?_
    rintro r s'' ⟨hr, hagree, hbeside⟩
    exact ⟨hr, hagree, fun d hd hlock => (hrest d hlock).trans (hbeside d hd hlock)⟩

theorem bind {t : ScriptTask α} {f : α → ScriptTask β} (ht : LocalTo c t)
    (hf : ∀ a, LocalTo c (f a)) : LocalTo c (t >>= f) := by
  intro s s₀ hs
  rw [Task.inside_bind, Task.alone_bind]
  have hrun := ht s s₀ hs
  generalize t.alone s₀ = p at hrun ⊢
  obtain ⟨o, s₁⟩ := p
  refine hrun.mono ?_
  rintro r s' ⟨rfl, hagree, hbeside⟩
  cases r with
  | error e => exact ⟨rfl, hagree, hbeside⟩
  | ok a =>
    refine (hf a s' s₁ hagree).mono ?_
    rintro r' s'' ⟨hr', hagree', hbeside'⟩
    exact ⟨hr', hagree', fun d hd hlock => (hbeside d hd hlock).trans (hbeside' d hd hlock)⟩

end LocalTo

/-! ### Loading and storing -/

section Storing

variable {c : Scope}

theorem local_loadPayload : LocalTo c (loadPayload c.storageKey) := by
  refine .get (fun s s₀ hs => ?_) fun s => .bind (.rests _) fun _ => .get (fun s s₀ hs => ?_) fun s => ?_
  · rw [hs.rules.loadRests]
  · have hpayload := hs.payload
    unfold payload? at hpayload
    simp only [Store.load, hs.rules.outage, hpayload]
  · exact .ofExcept _

theorem local_savePayload (payload : ByteArray) : LocalTo c (savePayload c.storageKey payload) := by
  refine .get (fun s s₀ hs => ?_) fun s => ?_
  · have hrefuses : s.store.refuses c.storageKey = s₀.store.refuses c.storageKey := by
      rw [Store.refuses, hs.rules.outage, Store.refuses]
    rw [hrefuses]
  · dsimp only
    split
    · exact .done _
    · refine .get (fun s s₀ hs => ?_) fun s => ?_
      · rw [hs.rules.saveRests]
      · refine .bind (.rests _) fun _ => .modify (fun s s₀ hs => ?_) fun s => ?_
        · exact save_agree hs payload
        · exact save_onlyAt

theorem local_loadState : LocalTo c (loadState c) := by
  rw [loadState_eq]
  exact .bind local_loadPayload fun _ => .pure _

theorem local_persist : LocalTo c (persist c) := by
  refine .get (fun s s₀ hs => ?_) fun s => ?_
  · rw [hs.cell]
  · refine .bind (.ofExcept _) fun payload => .bind (local_savePayload _) fun _ => ?_
    exact .modify (fun s s₀ hs => markStored_agree hs) fun s => markStored_onlyAt

theorem local_openWith (state : State) : LocalTo c (modify (openWith c state)) :=
  .modify (fun _ _ hs => openWith_agree hs state) fun _ => openWith_onlyAt

theorem local_initialise (config : Option (Except Fault State)) : LocalTo c (initialise c config) := by
  cases config with
  | some config =>
    exact .bind (.ofExcept _) fun state => .bind (local_openWith state) fun _ => local_persist
  | none =>
    refine .bind local_loadState fun found => ?_
    cases found with
    | some state => exact local_openWith state
    | none => exact .bind (local_openWith {}) fun _ => local_persist

theorem local_ensureOpen : LocalTo c (ensureOpen c) := by
  refine .get (fun s s₀ hs => ?_) fun s => ?_
  · rw [hs.cell]
  · split
    · exact local_initialise none
    · exact .pure _

theorem local_setState (state : State) : LocalTo c (modify (setState c state)) :=
  .modify (fun _ _ hs => setState_agree hs state) fun _ => setCell_onlyAt

end Storing

end StoryState.Script
