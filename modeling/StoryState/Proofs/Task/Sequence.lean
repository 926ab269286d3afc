import StoryState.Proofs.Task.Inside

/-!
Tasks that run one after another, while their surroundings may change whenever they rest.
`Task.EndsIn Rest t s r s'` says that the task, started in `s`, may end with `r` in `s'`.
-/

namespace StoryState.Task

variable {κ σ α β : Type}

theorem bind_assoc {γ : Type} (t : Task κ σ α) (f : α → Task κ σ β) (g : β → Task κ σ γ) :
    t >>= f >>= g = t >>= fun a => f a >>= g := by
  refine (andThen_assoc _ _ _).trans (congrArg t.andThen (funext fun r => ?_))
  cases r <;> rfl

/-- The task may end so if the surroundings change along `Rest` when it rests. All locks are free. -/
inductive EndsIn (Rest : σ → σ → Prop) : Task κ σ α → σ → Except Fault α → σ → Prop
  | done (r : Except Fault α) (s : σ) : EndsIn Rest (.done r) s r s
  | read {next : σ → Task κ σ α} {s s' : σ} {r : Except Fault α} (h : EndsIn Rest (next s) s r s') :
    EndsIn Rest (.read next) s r s'
  | write {next : Task κ σ α} {s₀ s s' : σ} {r : Except Fault α} (h : EndsIn Rest next s r s') :
    EndsIn Rest (.write s next) s₀ r s'
  | lock {key : κ} {next : Task κ σ α} {s s' : σ} {r : Except Fault α} (h : EndsIn Rest next s r s') :
    EndsIn Rest (.lock key next) s r s'
  | unlock {key : κ} {next : Task κ σ α} {s s' : σ} {r : Except Fault α} (h : EndsIn Rest next s r s') :
    EndsIn Rest (.unlock key next) s r s'
  | rest {next : Task κ σ α} {s₀ s s' : σ} {r : Except Fault α} (change : Rest s₀ s)
    (h : EndsIn Rest next s r s') : EndsIn Rest (.rest next) s₀ r s'

variable {Rest Step : σ → σ → Prop} {s s' : σ}

theorem endsIn_done {r r' : Except Fault α} :
    (Task.done r : Task κ σ α).EndsIn Rest s r' s' ↔ r' = r ∧ s' = s := by
  constructor
  · intro h
    cases h
    exact ⟨rfl, rfl⟩
  · rintro ⟨rfl, rfl⟩
    exact .done r' s'

/-- A task that goes on from another ends as the one behind does. -/
theorem endsIn_andThen {t : Task κ σ α} {f : Except Fault α → Task κ σ β} {r : Except Fault β} :
    (t.andThen f).EndsIn Rest s r s' ↔ ∃ r₁ s₁, t.EndsIn Rest s r₁ s₁ ∧ (f r₁).EndsIn Rest s₁ r s' := by
  constructor
  · intro h
    induction t generalizing s with
    | done r₁ => exact ⟨r₁, s, .done r₁ s, h⟩
    | read next ih =>
      cases h with
      | read h =>
        obtain ⟨r₁, s₁, h₁, h₂⟩ := ih s h
        exact ⟨r₁, s₁, .read h₁, h₂⟩
    | write s₀ next ih =>
      cases h with
      | write h =>
        obtain ⟨r₁, s₁, h₁, h₂⟩ := ih h
        exact ⟨r₁, s₁, .write h₁, h₂⟩
    | lock key next ih =>
      cases h with
      | lock h =>
        obtain ⟨r₁, s₁, h₁, h₂⟩ := ih h
        exact ⟨r₁, s₁, .lock h₁, h₂⟩
    | unlock key next ih =>
      cases h with
      | unlock h =>
        obtain ⟨r₁, s₁, h₁, h₂⟩ := ih h
        exact ⟨r₁, s₁, .unlock h₁, h₂⟩
    | rest next ih =>
      cases h with
      | rest change h =>
        obtain ⟨r₁, s₁, h₁, h₂⟩ := ih h
        exact ⟨r₁, s₁, .rest change h₁, h₂⟩
  · rintro ⟨r₁, s₁, h₁, h₂⟩
    induction h₁ with
    | done r s => exact h₂
    | read _ ih => exact .read (ih h₂)
    | write _ ih => exact .write (ih h₂)
    | lock _ ih => exact .lock (ih h₂)
    | unlock _ ih => exact .unlock (ih h₂)
    | rest change _ ih => exact .rest change (ih h₂)

/-- A task whose outcome is worked into another one ends in the same states. -/
theorem endsIn_andThen_done {t : Task κ σ α} {next : Except Fault α → Task κ σ β}
    {g : Except Fault α → Except Fault β} {r : Except Fault β} (h : ∀ r₁, next r₁ = .done (g r₁)) :
    (t.andThen next).EndsIn Rest s r s' ↔ ∃ r₁, t.EndsIn Rest s r₁ s' ∧ r = g r₁ := by
  refine endsIn_andThen.trans ⟨?_, ?_⟩
  · rintro ⟨r₁, s₁, h₁, h₂⟩
    rw [h] at h₂
    obtain ⟨rfl, rfl⟩ := endsIn_done.1 h₂
    exact ⟨r₁, h₁, rfl⟩
  · rintro ⟨r₁, h₁, rfl⟩
    refine ⟨r₁, s', h₁, ?_⟩
    rw [h]
    exact .done _ _

theorem endsIn_bind {t : Task κ σ α} {f : α → Task κ σ β} {r : Except Fault β} :
    (t >>= f).EndsIn Rest s r s' ↔
      (∃ a s₁, t.EndsIn Rest s (.ok a) s₁ ∧ (f a).EndsIn Rest s₁ r s') ∨
        ∃ e, t.EndsIn Rest s (.error e) s' ∧ r = .error e := by
  refine endsIn_andThen.trans ⟨?_, ?_⟩
  · rintro ⟨r₁ | a, s₁, h₁, h₂⟩
    · obtain ⟨rfl, rfl⟩ := endsIn_done.1 h₂
      exact .inr ⟨r₁, h₁, rfl⟩
    · exact .inl ⟨a, s₁, h₁, h₂⟩
  · rintro (⟨a, s₁, h₁, h₂⟩ | ⟨e, h, rfl⟩)
    · exact ⟨.ok a, s₁, h₁, h₂⟩
    · exact ⟨.error e, s', h, .done _ _⟩

theorem endsIn_map {t : Task κ σ α} {f : α → β} {r : Except Fault β} :
    (t >>= fun a => pure (f a)).EndsIn Rest s r s' ↔ ∃ r₁, t.EndsIn Rest s r₁ s' ∧ r = r₁.map f := by
  refine endsIn_andThen_done fun r₁ => ?_
  cases r₁ with
  | ok a => rfl
  | error e => rfl

theorem endsIn_get {f : σ → Task κ σ α} {r : Except Fault α} :
    (get >>= f : Task κ σ α).EndsIn Rest s r s' ↔ (f s).EndsIn Rest s r s' := by
  constructor
  · intro h
    cases h with
    | read h => exact h
  · exact fun h => .read h

theorem endsIn_modify {f : σ → σ} {r : Except Fault Unit} :
    (modify f : Task κ σ Unit).EndsIn Rest s r s' ↔ r = .ok () ∧ s' = f s := by
  constructor
  · intro h
    cases h with
    | read h =>
      cases h with
      | write h => exact endsIn_done.1 h
  · rintro ⟨rfl, rfl⟩
    exact .read (.write (.done _ _))

theorem endsIn_set {s₁ : σ} {f : PUnit → Task κ σ α} {r : Except Fault α} :
    (set s₁ >>= f : Task κ σ α).EndsIn Rest s r s' ↔ (f ⟨⟩).EndsIn Rest s₁ r s' := by
  constructor
  · intro h
    cases h with
    | write h => exact h
  · exact fun h => .write h

theorem endsIn_yield {f : Unit → Task κ σ α} {r : Except Fault α} :
    (yield >>= f).EndsIn Rest s r s' ↔ ∃ s₁, Rest s s₁ ∧ (f ()).EndsIn Rest s₁ r s' := by
  constructor
  · intro h
    cases h with
    | rest change h => exact ⟨_, change, h⟩
  · rintro ⟨s₁, change, h⟩
    exact .rest change h

/-- A lock is no hindrance to who runs alone. -/
theorem endsIn_holding {key : κ} {t : Task κ σ α} {r : Except Fault α} :
    (holding key t).EndsIn Rest s r s' ↔ t.EndsIn Rest s r s' := by
  constructor
  · intro h
    cases h with
    | lock h =>
      obtain ⟨r₁, s₁, h₁, h₂⟩ := endsIn_andThen.1 h
      cases h₂ with
      | unlock h₂ =>
        obtain ⟨rfl, rfl⟩ := endsIn_done.1 h₂
        exact h₁
  · exact fun h => .lock (endsIn_andThen.2 ⟨r, s', h, .unlock (.done r s')⟩)

/-- A task whose faults are turned into an answer ends in the same states. -/
theorem endsIn_tryCatch {t : Task κ σ α} {a : α} {r : Except Fault α} :
    (tryCatch t fun _ => pure a : Task κ σ α).EndsIn Rest s r s' ↔
      ∃ r₁, t.EndsIn Rest s r₁ s' ∧ r = .ok (r₁.toOption.getD a) := by
  refine endsIn_andThen_done (g := fun r₁ => .ok (r₁.toOption.getD a)) fun r₁ => ?_
  cases r₁ with
  | ok b => rfl
  | error e => rfl

/-- What holds whatever others do holds of each end. -/
theorem Inside.endsIn {t : Task κ σ α} {Q : Except Fault α → σ → Prop} {r : Except Fault α}
    (h : t.Inside Rest Step s Q) (hr : t.EndsIn Rest s r s') : Q r s' := by
  induction hr with
  | done r s => exact h
  | read _ ih => exact ih h
  | write _ ih => exact ih h.2
  | lock _ _ => exact h.elim
  | unlock _ _ => exact h.elim
  | rest change _ ih => exact ih (h _ change)

theorem EndsIn.mono {Change Change' : σ → σ → Prop} {t : Task κ σ α} {r : Except Fault α}
    (h : t.EndsIn Change s r s') (change : ∀ s s', Change s s' → Change' s s') :
    t.EndsIn Change' s r s' := by
  induction h with
  | done r s => exact .done r s
  | read _ ih => exact .read ih
  | write _ ih => exact .write ih
  | lock _ ih => exact .lock ih
  | unlock _ ih => exact .unlock ih
  | rest hchange _ ih => exact .rest (change _ _ hchange) ih

/-- A task that is left alone may end as it does alone. -/
theorem endsIn_alone (refl : ∀ s, Rest s s) (t : Task κ σ α) (s : σ) :
    t.EndsIn Rest s (t.alone s).1 (t.alone s).2 := by
  induction t generalizing s with
  | done r => exact .done r s
  | read next ih => exact .read (ih s s)
  | write s' next ih => exact .write (ih s')
  | lock key next ih => exact .lock (ih s)
  | unlock key next ih => exact .unlock (ih s)
  | rest next ih => exact .rest (refl s) (ih s)

end StoryState.Task
