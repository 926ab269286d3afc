import StoryState.Fault
import Mathlib.Tactic.Common
import Mathlib.Tactic.Lemma

/-!
Steps that change a state and may stop, where what was done before stays done. `Gives m s Q` says
that `Q` holds of the outcome of `m` from `s` and of the state behind it; `Moves R m` says that `m`
takes every state along `R`, where `R` may ask more of a step that does not stop; `InStep R` compares two
runs.
-/

namespace StoryState

/-- A step on states `σ` that may stop. -/
abbrev StepM (σ : Type) := ExceptT Fault (StateM σ)

/-- `Q` holds of the outcome of a step and of the state behind it. -/
def Gives {σ α : Type} (m : StepM σ α) (s : σ) (Q : Except Fault α → σ → Prop) : Prop :=
  Q (m.run s).1 (m.run s).2

section Rules

variable {σ α β : Type} {s : σ}

theorem gives_get {Q : Except Fault σ → σ → Prop} : Gives get s Q ↔ Q (.ok s) s := Iff.rfl

theorem gives_modify {f : σ → σ} {Q : Except Fault Unit → σ → Prop} :
    Gives (modify f) s Q ↔ Q (.ok ()) (f s) := Iff.rfl

theorem gives_lift {r : Except Fault α} {Q : Except Fault α → σ → Prop} :
    Gives (liftM r) s Q ↔ Q r s := Iff.rfl

theorem run_bind (m : StepM σ α) (f : α → StepM σ β) (s : σ) :
    (m >>= f).run s = match (m.run s).1 with
      | .ok a => (f a).run (m.run s).2
      | .error e => (.error e, (m.run s).2) := by
  have hm : (ExceptT.bind m f).run s = (ExceptT.bindCont f (m.run s).1) (m.run s).2 := rfl
  refine hm.trans ?_
  cases (m.run s).1 <;> rfl

/-- What leaves a state alone one by one leaves it alone in a row. -/
theorem run_mapM {f : α → StepM σ β} {g : α → Except Fault β} (h : ∀ a, (f a).run s = (g a, s))
    (l : List α) : (l.mapM f).run s = (l.mapM g, s) := by
  induction l with
  | nil => rfl
  | cons a l ih =>
    rw [List.mapM_cons, List.mapM_cons, run_bind, h]
    cases g a with
    | error e => rfl
    | ok b =>
      dsimp only
      rw [run_bind, ih]
      cases l.mapM g <;> rfl

theorem gives_bind {m : StepM σ α} {f : α → StepM σ β} {Q : Except Fault β → σ → Prop} :
    Gives (m >>= f) s Q ↔
      Gives m s fun r s' => match r with
        | .ok a => Gives (f a) s' Q
        | .error e => Q (.error e) s' := by
  unfold Gives
  rw [run_bind]
  cases (m.run s).1 <;> rfl

theorem gives_lift_bind {r : Except Fault α} {f : α → StepM σ β} {Q : Except Fault β → σ → Prop} :
    Gives (liftM r >>= f) s Q ↔
      match r with
      | .ok a => Gives (f a) s Q
      | .error e => Q (.error e) s := by
  rw [gives_bind, gives_lift]

theorem gives_mono {m : StepM σ α} {Q Q' : Except Fault α → σ → Prop} (h : Gives m s Q)
    (hQ : ∀ r s', Q r s' → Q' r s') : Gives m s Q' := hQ _ _ h

end Rules

theorem isOk_iff {ε α : Type} {r : Except ε α} : r.isOk = true ↔ ∃ a, r = .ok a := by
  cases r <;> simp [Except.isOk, Except.toBool]

/-- What a step gives that goes on from another. -/
theorem exists_of_bind_ok {ε α β : Type} {x : Except ε α} {f : α → Except ε β} {b : β}
    (h : x >>= f = .ok b) : ∃ a, x = .ok a ∧ f a = .ok b := by
  cases x with
  | error e => cases h
  | ok a => exact ⟨a, rfl, h⟩

theorem exists_bind_ok {ε α β : Type} {r : Except ε α} {f : α → Except ε β} (hr : ∃ a, r = .ok a)
    (hf : ∀ a, ∃ b, f a = .ok b) : ∃ b, r >>= f = .ok b := by
  obtain ⟨a, rfl⟩ := hr
  exact hf a

theorem exists_mapM_ok {ε α β : Type} {f : α → Except ε β} {l : List α}
    (h : ∀ a ∈ l, ∃ b, f a = .ok b) : ∃ bs, l.mapM f = .ok bs := by
  induction l with
  | nil => exact ⟨[], rfl⟩
  | cons a l ih =>
    obtain ⟨b, hb⟩ := h a (by simp)
    obtain ⟨bs, hbs⟩ := ih fun c hc => h c (by simp [hc])
    rw [List.mapM_cons, hb, hbs]
    exact ⟨b :: bs, rfl⟩

/-! ### Relations that steps go along -/

/-- A relation between the states before and after a step, and whether the step went through,
that does not mind how a way is cut into steps. -/
structure Composes {σ : Type} (R : Bool → σ → σ → Prop) : Prop where
  refl : ∀ ok s, R ok s s
  trans : ∀ {ok s t u}, R true s t → R ok t u → R ok s u

/-- The step takes every state along `R`. -/
def Moves {σ α : Type} (R : Bool → σ → σ → Prop) (m : StepM σ α) : Prop :=
  ∀ s, Gives m s fun r s' => R r.isOk s s'

section Moves

variable {σ α β : Type} {R : Bool → σ → σ → Prop}

theorem Composes.pure (h : Composes R) (a : α) : Moves R (Pure.pure a : StepM σ α) :=
  fun s => h.refl _ s

theorem Composes.lift (h : Composes R) (r : Except Fault α) : Moves R (liftM r : StepM σ α) :=
  fun s => h.refl _ s

/-- Going on from a state reached along `R`. -/
theorem Composes.follow (h : Composes R) {m : StepM σ α} {s t : σ} (hs : R true s t)
    (hm : Gives m t fun r u => R r.isOk t u) : Gives m t fun r u => R r.isOk s u :=
  gives_mono hm fun _ _ hu => h.trans hs hu

theorem Composes.bind (h : Composes R) {m : StepM σ α} {f : α → StepM σ β} (hm : Moves R m)
    (hf : ∀ a, Moves R (f a)) : Moves R (m >>= f) := by
  intro s
  rw [gives_bind]
  refine gives_mono (hm s) fun r t ht => ?_
  cases r with
  | ok a => exact h.follow ht (hf a t)
  | error e => exact ht

/-- A value on which a step depends and which may fail. -/
theorem Composes.gives_lift (h : Composes R) {s : σ} (r : Except Fault α) {f : α → StepM σ β}
    (hf : ∀ a, r = .ok a → Gives (f a) s fun r t => R r.isOk s t) :
    Gives (liftM r >>= f) s fun r t => R r.isOk s t := by
  rw [gives_lift_bind]
  cases r with
  | ok a => exact hf a rfl
  | error e => exact h.refl _ s

theorem Composes.map (h : Composes R) {m : StepM σ α} {f : α → β} (hm : Moves R m) :
    Moves R (do return f (← m)) := h.bind hm fun _ => h.pure _

theorem Composes.mapM (h : Composes R) {f : α → StepM σ β} (l : List α)
    (hf : ∀ a ∈ l, Moves R (f a)) : Moves R (l.mapM f) := by
  induction l with
  | nil => exact h.pure _
  | cons a l ih =>
    rw [List.mapM_cons]
    refine h.bind (hf a (by simp)) fun b => h.bind (ih fun c hc => hf c (by simp [hc])) fun bs => ?_
    exact h.pure _

theorem Composes.forM (h : Composes R) {f : α → StepM σ PUnit} (l : List α)
    (hf : ∀ a ∈ l, Moves R (f a)) : Moves R (l.forM f) := by
  induction l with
  | nil => exact h.pure _
  | cons a l ih =>
    show Moves R (f a >>= fun _ => l.forM f)
    exact h.bind (hf a (by simp)) fun _ => ih fun c hc => hf c (by simp [hc])

end Moves

/-! ### Two runs side by side -/

/-- From two states two steps have one outcome, and the states behind them are related. -/
def InStep {σ α : Type} (R : σ → σ → Prop) (m : StepM σ α) (s : σ) (m' : StepM σ α) (t : σ) : Prop :=
  (m.run s).1 = (m'.run t).1 ∧ R (m.run s).2 (m'.run t).2

section InStep

variable {σ α β : Type} {R : σ → σ → Prop} {s t : σ}

theorem InStep.done (h : R s t) (r : Except Fault α) : InStep R (liftM r) s (liftM r) t := ⟨rfl, h⟩

theorem InStep.pure (h : R s t) (a : α) : InStep R (Pure.pure a) s (Pure.pure a) t := ⟨rfl, h⟩

theorem InStep.get {f f' : σ → StepM σ α} (h : InStep R (f s) s (f' t) t) :
    InStep R (MonadState.get >>= f) s (MonadState.get >>= f') t := h

theorem InStep.bind {m m' : StepM σ α} {f f' : α → StepM σ β} (h : InStep R m s m' t)
    (hf : ∀ a s' t', R s' t' → InStep R (f a) s' (f' a) t') :
    InStep R (m >>= f) s (m' >>= f') t := by
  obtain ⟨hresult, hstate⟩ := h
  unfold InStep
  rw [run_bind, run_bind, ← hresult]
  cases (m.run s).1 with
  | ok a => exact hf a _ _ hstate
  | error e => exact ⟨rfl, hstate⟩

theorem InStep.lift {r : Except Fault α} {f f' : α → StepM σ β} (h : R s t)
    (hf : ∀ a, r = .ok a → InStep R (f a) s (f' a) t) : InStep R (liftM r >>= f) s (liftM r >>= f') t := by
  cases r with
  | ok a => exact hf a rfl
  | error e => exact ⟨rfl, h⟩

theorem InStep.mapM {f : α → StepM σ β} (hst : R s t) (l : List α)
    (hf : ∀ a s' t', R s' t' → InStep R (f a) s' (f a) t') : InStep R (l.mapM f) s (l.mapM f) t := by
  induction l generalizing s t with
  | nil => exact .pure hst _
  | cons a l ih =>
    rw [List.mapM_cons]
    exact .bind (hf a s t hst) fun b s' t' h => .bind (ih h) fun bs s' t' h => .pure h _

end InStep

end StoryState
