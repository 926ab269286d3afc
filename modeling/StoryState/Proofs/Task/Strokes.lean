import StoryState.Proofs.Task.Confined
import StoryState.Proofs.Task.Sequence

/-!
Tasks that run alone: every stroke of which goes along a relation (`Along`), or which keep a property
unless they stop with a fault (`Preserves`). A relation that composes holds then between the states before
and behind the task; and what each stroke of a task on a part of a state keeps, the task on the whole state
keeps too.
-/

namespace StoryState.Task

variable {κ κ' σ σ' α β : Type}

/-- All that the task writes from a state on goes along `Step`. -/
def Strokes (Step : σ → σ → Prop) : Task κ σ α → σ → Prop
  | .done _, _ => True
  | .read next, s => (next s).Strokes Step s
  | .write s' next, s => Step s s' ∧ next.Strokes Step s'
  | .lock _ next, s | .unlock _ next, s | .rest next, s => next.Strokes Step s

/-- All that the task writes goes along `Step`, wherever it starts. -/
def Along (Step : σ → σ → Prop) (t : Task κ σ α) : Prop := ∀ s, t.Strokes Step s

variable {Step : σ → σ → Prop}

theorem Strokes.alone {t : Task κ σ α} {s : σ} (h : t.Strokes Step s) (refl : ∀ s, Step s s)
    (trans : ∀ {s t u}, Step s t → Step t u → Step s u) : Step s (t.alone s).2 := by
  induction t generalizing s with
  | done r => exact refl s
  | read next ih => exact ih s h
  | write s' next ih => exact trans h.1 (ih h.2)
  | lock key next ih => exact ih h
  | unlock key next ih => exact ih h
  | rest next ih => exact ih h

/-- What is confined whatever others do goes along its relation when it is left alone. -/
theorem Confined.along {K : κ → Prop} {t : Task κ σ α} (h : t.Confined K Step) : t.Along Step := by
  intro s
  have hs := h s
  clear h
  induction t generalizing s with
  | done r => trivial
  | read next ih => exact ih s s hs
  | write s' next ih => exact ⟨hs.1, ih s' hs.2⟩
  | lock key next ih => exact ih s (hs.2 s)
  | unlock key next ih => exact ih s hs.2
  | rest next ih => exact ih s (hs s)

/-- A task on a part of a state, which it keeps in its place. -/
theorem Along.within {rename : κ → κ'} {part : σ' → σ} {put : σ → σ' → σ'} {Step' : σ' → σ' → Prop}
    (G : σ' → Prop) (part_put : ∀ p s, G s → part (put p s) = p) (good : ∀ p s, G s → G (put p s))
    (step : ∀ p s, G s → Step (part s) p → Step' s (put p s)) {t : Task κ σ α} (ht : t.Along Step)
    {s : σ'} (hs : G s) : (t.within rename part put).Strokes Step' s := by
  have hstrokes := ht (part s)
  clear ht
  induction t generalizing s with
  | done r => trivial
  | read next ih => exact ih (part s) hs hstrokes
  | write p next ih =>
    refine ⟨step p s hs hstrokes.1, ih (good p s hs) ?_⟩
    rw [part_put p s hs]
    exact hstrokes.2
  | lock key next ih => exact ih hs hstrokes
  | unlock key next ih => exact ih hs hstrokes
  | rest next ih => exact ih hs hstrokes

/-! ### Tasks on a part of a state -/

section Within

variable {rename : κ → κ'} {part : σ' → σ} {put : σ → σ' → σ'}

theorem within_andThen {t : Task κ σ α} {f : Except Fault α → Task κ σ β} :
    (t.andThen f).within rename part put =
      (t.within rename part put).andThen fun r => (f r).within rename part put := by
  induction t with
  | done r => rfl
  | read next ih => simp [Task.andThen, Task.within, ih]
  | write s next ih => simp [Task.andThen, Task.within, ih]
  | lock key next ih => simp [Task.andThen, Task.within, ih]
  | unlock key next ih => simp [Task.andThen, Task.within, ih]
  | rest next ih => simp [Task.andThen, Task.within, ih]

theorem within_holding {key : κ} {t : Task κ σ α} :
    (holding key t).within rename part put = holding (rename key) (t.within rename part put) :=
  congrArg (Task.lock (rename key)) within_andThen

/-- Who takes no locks and is left alone does what it does alone. -/
theorem Inside.eq_alone {Rest Step : σ → σ → Prop} {t : Task κ σ α} {s : σ}
    {Q : Except Fault α → σ → Prop} (h : t.Inside Rest Step s Q) (refl : ∀ s, Rest s s) :
    t.Inside (· = ·) Step s fun r s' => r = (t.alone s).1 ∧ s' = (t.alone s).2 := by
  induction t generalizing s with
  | done r => exact ⟨rfl, rfl⟩
  | read next ih => exact ih s h
  | write s' next ih => exact ⟨h.1, ih h.2⟩
  | lock key next ih => exact h
  | unlock key next ih => exact h
  | rest next ih =>
    rintro s' rfl
    exact ih (h s (refl s))

/-- A task that takes no locks does on the part what it does alone, as long as the part stays as it is when the
task rests. -/
theorem Inside.within {Step : σ → σ → Prop} {Rest : σ' → σ' → Prop} (G : σ' → Prop)
    (part_put : ∀ p s, G s → part (put p s) = p)
    (good : ∀ p s, G s → Step (part s) p → G (put p s))
    (rest : ∀ s s', G s → Rest s s' → G s' ∧ part s' = part s) {t : Task κ σ α} {s : σ'} (hs : G s)
    {Q : Except Fault α → σ → Prop} (h : t.Inside (· = ·) Step (part s) Q) :
    (t.within rename part put).Inside Rest (fun s s' => G s ∧ ∃ p, Step (part s) p ∧ s' = put p s) s
      fun r s' => G s' ∧ Q r (part s') := by
  induction t generalizing s with
  | done r => exact ⟨hs, h⟩
  | read next ih => exact ih (part s) hs h
  | write p next ih =>
    refine ⟨⟨hs, p, h.1, rfl⟩, ih (good p s hs h.1) ?_⟩
    rw [part_put p s hs]
    exact h.2
  | lock key next ih => exact h.elim
  | unlock key next ih => exact h.elim
  | rest next ih =>
    intro s' hrest
    obtain ⟨hs', hpart⟩ := rest s s' hs hrest
    refine ih hs' ?_
    rw [hpart]
    exact h (part s) rfl

/-- What the task on the part does not touch stays as it was. -/
theorem holds_within {P : σ' → Prop} (hput : ∀ p s, P s → P (put p s)) (t : Task κ σ α) {s : σ'}
    (hs : P s) : P ((t.within rename part put).alone s).2 := by
  induction t generalizing s with
  | done r => exact hs
  | read next ih => exact ih (part s) hs
  | write p next ih => exact ih (hput p s hs)
  | lock key next ih => exact ih hs
  | unlock key next ih => exact ih hs
  | rest next ih => exact ih hs

end Within

/-! ### Tasks that go through -/

/-- If the task goes through, what held before holds behind it. -/
def Preserves (P : σ → Prop) (t : Task κ σ α) : Prop :=
  ∀ s a s', t.alone s = (.ok a, s') → P s → P s'

theorem alone_bind_ok {t : Task κ σ α} {f : α → Task κ σ β} {s s' : σ} {b : β}
    (h : (t >>= f).alone s = (.ok b, s')) :
    ∃ a s₁, t.alone s = (.ok a, s₁) ∧ (f a).alone s₁ = (.ok b, s') := by
  rw [alone_bind] at h
  generalize t.alone s = p at h
  obtain ⟨e | a, s₁⟩ := p
  · cases h
  · exact ⟨a, s₁, rfl, h⟩

theorem alone_map_ok {t : Task κ σ α} {f : α → β} {s s' : σ} {b : β}
    (h : (t >>= fun a => Pure.pure (f a)).alone s = (.ok b, s')) : ∃ a, t.alone s = (.ok a, s') := by
  obtain ⟨a, s₁, ht, hf⟩ := alone_bind_ok h
  cases hf
  exact ⟨a, ht⟩

namespace Preserves

variable {P : σ → Prop}

theorem pure (a : α) : (Pure.pure a : Task κ σ α).Preserves P := by
  intro s a s' h hs
  cases h
  exact hs

theorem ofExcept (r : Except Fault α) : (Task.ofExcept r : Task κ σ α).Preserves P := by
  intro s a s' h hs
  cases h
  exact hs

theorem get {f : σ → Task κ σ α} (h : ∀ s, (f s).Preserves P) :
    (MonadState.get >>= f : Task κ σ α).Preserves P := fun s => h s s

theorem modify {f : σ → σ} (h : ∀ s, P s → P (f s)) : (modify f : Task κ σ PUnit).Preserves P := by
  intro s a s' hend hs
  cases hend
  exact h s hs

theorem bind {t : Task κ σ α} {f : α → Task κ σ β} (ht : t.Preserves P) (hf : ∀ a, (f a).Preserves P) :
    (t >>= f).Preserves P := by
  intro s b s' h hs
  obtain ⟨a, s₁, h₁, h₂⟩ := alone_bind_ok h
  exact hf a s₁ b s' h₂ (ht s a s₁ h₁ hs)

theorem map {t : Task κ σ α} {f : α → β} (ht : t.Preserves P) :
    (t >>= fun a => Pure.pure (f a)).Preserves P := ht.bind fun _ => pure _

theorem holding {key : κ} {t : Task κ σ α} (ht : t.Preserves P) : (Task.holding key t).Preserves P := by
  intro s a s' h
  rw [alone_holding] at h
  exact ht s a s' h

end Preserves

/-! ### Tasks that only look -/

/-- The task writes nothing, and does not rest except at locks; it answers whatever it finds. -/
def Looks : Task κ σ α → Prop
  | .done r => ∃ a, r = .ok a
  | .read next => ∀ s, (next s).Looks
  | .lock _ next | .unlock _ next => next.Looks
  | .write _ _ | .rest _ => False

namespace Looks

theorem pure (a : α) : (Pure.pure a : Task κ σ α).Looks := ⟨a, rfl⟩

theorem get {f : σ → Task κ σ α} (h : ∀ s, (f s).Looks) : (MonadState.get >>= f : Task κ σ α).Looks := h

theorem andThen {t : Task κ σ α} {f : Except Fault α → Task κ σ β} (ht : t.Looks)
    (hf : ∀ a, (f (.ok a)).Looks) : (t.andThen f).Looks := by
  induction t with
  | done r =>
    obtain ⟨a, rfl⟩ := ht
    exact hf a
  | read next ih => exact fun s => ih s (ht s)
  | write s next ih => exact ht
  | lock key next ih => exact ih ht
  | unlock key next ih => exact ih ht
  | rest next ih => exact ht

theorem bind {t : Task κ σ α} {f : α → Task κ σ β} (ht : t.Looks) (hf : ∀ a, (f a).Looks) :
    (t >>= f).Looks := ht.andThen hf

theorem map {t : Task κ σ α} {f : α → β} (ht : t.Looks) : (t >>= fun a => Pure.pure (f a)).Looks :=
  ht.bind fun _ => pure _

theorem holding {key : κ} {t : Task κ σ α} (ht : t.Looks) : (Task.holding key t).Looks :=
  ht.andThen fun a => ⟨a, rfl⟩

/-- Such a task on a part of a state answers what it answers alone, and leaves all as it is. -/
theorem endsIn_within {rename : κ → κ'} {part : σ' → σ} {put : σ → σ' → σ'} {Rest : σ' → σ' → Prop}
    {t : Task κ σ α} (ht : t.Looks) {s s' : σ'} {r : Except Fault α}
    (hr : (t.within rename part put).EndsIn Rest s r s') :
    s' = s ∧ r = (t.alone (part s)).1 ∧ ∃ a, r = .ok a := by
  induction t with
  | done r₀ =>
    obtain ⟨rfl, rfl⟩ := endsIn_done.1 hr
    exact ⟨rfl, rfl, ht⟩
  | read next ih =>
    cases hr with
    | read hr => exact ih (part s) (ht (part s)) hr
  | write p next ih => exact ht.elim
  | lock key next ih =>
    cases hr with
    | lock hr => exact ih ht hr
  | unlock key next ih =>
    cases hr with
    | unlock hr => exact ih ht hr
  | rest next ih => exact ht.elim

end Looks

end StoryState.Task
