import StoryState.Proofs.Lock.Lines
import StoryState.Proofs.Task.Run

/-!
How tasks share a state that locks protect. A `Protocol` says, for each lock, what those who do not
hold it may do to what it protects, and what holds of that while nobody holds it. `Task.Keeps` says
that a task abides by the protocol, whatever others do when it rests; if all tasks of a pool do,
every run keeps the protocol (`Pool.Run.sound`), and no run ends before all tasks have finished
(`Sound.finished`). A lenient protocol asks nothing of a task that stops with a fault, and then of no
other task.
-/

namespace StoryState

/-- What tasks with locks `κ` agree upon about a shared state. -/
structure Protocol (κ σ : Type) where
  /-- What may happen to the state at any time. -/
  Always : σ → σ → Prop
  /-- What may happen to the state while somebody else holds a lock. -/
  Others : κ → σ → σ → Prop
  /-- What holds of the state and of those who have held a lock while nobody holds it. -/
  Free : κ → σ → List Nat → Prop
  /-- Who holds a lock asks only for locks of a higher rank. -/
  rank : κ → Nat
  /-- Whether a task that stops with a fault may give back a lock as it is. -/
  lenient : Prop
  always_refl : ∀ s, Always s s
  always_trans : ∀ {s t u}, Always s t → Always t u → Always s u
  others_refl : ∀ key s, Others key s s
  others_trans : ∀ {key s t u}, Others key s t → Others key t u → Others key s u
  free_others : ∀ {key s t l}, Others key s t → Always s t → Free key s l → Free key t l

section Keeps

variable {κ σ α β : Type} [DecidableEq κ]

/-- What may happen at one stroke of a task that holds the locks `held`. -/
structure Protocol.Changes (P : Protocol κ σ) (held : List κ) (s s' : σ) : Prop where
  always : P.Always s s'
  others : ∀ key, key ∉ held → P.Others key s s'

/-- What may happen while a task rests that holds the locks `held`. -/
structure Protocol.Meanwhile (P : Protocol κ σ) (i : Nat) (held : List κ) (s : σ) (g : Log κ)
    (s' : σ) (g' : Log κ) : Prop where
  always : P.Always s s'
  others : ∀ key ∈ held, P.Others key s s'
  takers : ∀ key ∈ held, g'.takers key = g.takers key
  taken : g'.taken i = g.taken i
  log : g <+: g'

/-- The task gives back locks and stops with a fault. -/
def Task.Fails : Task κ σ α → Prop
  | .done (.error _) => True
  | .unlock _ next => next.Fails
  | _ => False

/-- Nothing is left of the task but its answer or its fault. -/
def Task.IsDone : Task κ σ α → Prop
  | .done _ => True
  | _ => False

omit [DecidableEq κ] in
/-- A task that goes on in any case is not done. -/
theorem Task.not_isDone_andThen {t : Task κ σ α} {f : Except Fault α → Task κ σ β}
    (h : t.IsDone → ∀ r, ¬ (f r).IsDone) : ¬ (t.andThen f).IsDone := by
  cases t with
  | done r => exact h trivial r
  | read | write | lock | unlock | rest => exact id

/-- The task of number `i`, with the locks `held`, abides by the protocol from a state and a log on
until it is done, and then `Q` holds. It does not end with asking for a lock. -/
def Task.Keeps (P : Protocol κ σ) (i : Nat) :
    Task κ σ α → List κ → σ → Log κ → (Except Fault α → List κ → σ → Log κ → Prop) → Prop
  | .done r, held, s, g, Q => Q r held s g
  | .read next, held, s, g, Q => (next s).Keeps P i held s g Q
  | .write s' next, held, s, g, Q => P.Changes held s s' ∧ next.Keeps P i held s' g Q
  | .lock key next, held, s, g, Q =>
    ((∀ k ∈ held, P.rank k < P.rank key) ∧ ¬ next.IsDone) ∧
      ∀ s' g', P.Meanwhile i held s g s' g' → P.Free key s' (g'.takers key) →
        ∀ s'' g'', P.Meanwhile i (key :: held) s' (g' ++ [(key, i)]) s'' g'' →
          next.Keeps P i (key :: held) s'' g'' Q
  | .unlock key next, held, s, g, Q =>
    key ∈ held ∧ ((P.lenient ∧ next.Fails) ∨ P.Free key s (g.takers key) ∧
      ∀ g', P.Meanwhile i (held.filter (· ≠ key)) s g s g' →
        next.Keeps P i (held.filter (· ≠ key)) s g' Q)
  | .rest next, held, s, g, Q => ∀ s' g', P.Meanwhile i held s g s' g' → next.Keeps P i held s' g' Q

variable {P : Protocol κ σ} {i : Nat} {held : List κ} {s s' s'' : σ} {g g' g'' : Log κ}

theorem Protocol.Meanwhile.refl : P.Meanwhile i held s g s g where
  always := P.always_refl s
  others _ _ := P.others_refl _ s
  takers _ _ := rfl
  taken := rfl
  log := List.prefix_refl g

theorem Protocol.Meanwhile.trans (h : P.Meanwhile i held s g s' g')
    (h' : P.Meanwhile i held s' g' s'' g'') : P.Meanwhile i held s g s'' g'' where
  always := P.always_trans h.always h'.always
  others key hk := P.others_trans (h.others key hk) (h'.others key hk)
  takers key hk := (h'.takers key hk).trans (h.takers key hk)
  taken := h'.taken.trans h.taken
  log := h.log.trans h'.log

/-- Another task's stroke. -/
theorem Protocol.Changes.meanwhile {others : List κ} (h : P.Changes others s s')
    (apart : ∀ key ∈ held, key ∉ others) : P.Meanwhile i held s g s' g where
  always := h.always
  others key hk := h.others key (apart key hk)
  takers _ _ := rfl
  taken := rfl
  log := List.prefix_refl g

/-- Another task obtains a lock. -/
theorem Protocol.meanwhile_grant {j : Nat} {key : κ} (h : key ∉ held) (hj : j ≠ i) :
    P.Meanwhile i held s g s (g ++ [(key, j)]) where
  always := P.always_refl s
  others _ _ := P.others_refl _ s
  takers k hk := by
    have hne : key ≠ k := fun h' => h (h' ▸ hk)
    rw [Log.takers_append, Log.takers_of_ne hne, List.append_nil]
  taken := by rw [Log.taken_append, Log.taken_of_ne hj, List.append_nil]
  log := List.prefix_append _ _

/-- A lock of a higher rank than those in hand is not one of them. -/
theorem filter_ne_cons {rank : κ → Nat} {key : κ} {held : List κ}
    (above : ∀ k ∈ held, rank k < rank key) :
    (key :: held).filter (fun k => decide (k ≠ key)) = held := by
  rw [List.filter_cons_of_neg (by simp)]
  refine List.filter_eq_self.2 fun k hk => decide_eq_true ?_
  rintro rfl
  exact Nat.lt_irrefl _ (above k hk)

/-! ### Rules -/

variable {Q Q' : Except Fault α → List κ → σ → Log κ → Prop}

theorem Task.Keeps.mono {t : Task κ σ α} (h : t.Keeps P i held s g Q)
    (hQ : ∀ r held s g, Q r held s g → Q' r held s g) : t.Keeps P i held s g Q' := by
  induction t generalizing held s g with
  | done r => exact hQ _ _ _ _ h
  | read next ih => exact ih s h
  | write s' next ih => exact ⟨h.1, ih h.2⟩
  | lock key next ih => exact ⟨h.1, fun s' g' hm hf s'' g'' hm' => ih (h.2 s' g' hm hf s'' g'' hm')⟩
  | unlock key next ih => exact ⟨h.1, h.2.imp_right fun h => ⟨h.1, fun g' hm => ih (h.2 g' hm)⟩⟩
  | rest next ih => exact fun s' g' hm => ih (h s' g' hm)

omit [DecidableEq κ] in
theorem Task.Fails.andThen {t : Task κ σ α} {f : Except Fault α → Task κ σ β} (h : t.Fails)
    (hf : ∀ e, (f (.error e)).Fails) : (t.andThen f).Fails := by
  induction t with
  | done r =>
    cases r with
    | ok a => exact h.elim
    | error e => exact hf e
  | unlock key next ih => exact ih h
  | read | write | lock | rest => exact h.elim

theorem Task.Keeps.andThen {t : Task κ σ α} {f : Except Fault α → Task κ σ β}
    {Q : Except Fault β → List κ → σ → Log κ → Prop} (hf : P.lenient → ∀ e, (f (.error e)).Fails)
    (h : t.Keeps P i held s g fun r held s g => (f r).Keeps P i held s g Q) :
    (t.andThen f).Keeps P i held s g Q := by
  induction t generalizing held s g with
  | done r => exact h
  | read next ih => exact ih s h
  | write s' next ih => exact ⟨h.1, ih h.2⟩
  | lock key next ih =>
    refine ⟨⟨h.1.1, not_isDone_andThen fun hdone => absurd hdone h.1.2⟩, ?_⟩
    exact fun s' g' hm hfree s'' g'' hm' => ih (h.2 s' g' hm hfree s'' g'' hm')
  | unlock key next ih =>
    refine ⟨h.1, ?_⟩
    rcases h.2 with ⟨lenient, fails⟩ | ⟨hfree, hnext⟩
    · exact .inl ⟨lenient, fails.andThen (hf lenient)⟩
    · exact .inr ⟨hfree, fun g' hm => ih (hnext g' hm)⟩
  | rest next ih => exact fun s' g' hm => ih (h s' g' hm)

theorem Task.Keeps.bind {t : Task κ σ α} {f : α → Task κ σ β}
    {Q : Except Fault β → List κ → σ → Log κ → Prop}
    (h : t.Keeps P i held s g fun r held s g => match r with
      | .ok a => (f a).Keeps P i held s g Q
      | .error e => Q (.error e) held s g) : (t >>= f).Keeps P i held s g Q := by
  refine Task.Keeps.andThen (fun _ _ => trivial) (h.mono fun r _ _ _ hr => ?_)
  cases r <;> exact hr

end Keeps

/-! ### Pools -/

section Sound

variable {κ σ α : Type} [DecidableEq κ] (P : Protocol κ σ)
  (Post : Nat → Except Fault α → σ → Log κ → Prop)

/-- A task that is done holds no lock and has what it was to give. -/
def Ends (i : Nat) (r : Except Fault α) (held : List κ) (s : σ) (g : Log κ) : Prop :=
  held = [] ∧ Post i r s g

/-- How a task stands that is not running: it is ready, or it waits for a lock, or it is done. -/
inductive Stands (s : σ) (lines : Lines κ Nat) (g : Log κ) (ready : List Nat) (i : Nat)
    (t : Task κ σ α) (held : List κ) : Prop
  | ready (isReady : i ∈ ready) (waits : ∀ k, ¬ lines.Waits i k)
    (go : ∀ s' g', P.Meanwhile i held s g s' g' → t.Keeps P i held s' g' (Ends Post i))
  | waiting (key : κ) (notReady : i ∉ ready) (waits : ∀ k, lines.Waits i k ↔ k = key)
    (rank : ∀ k ∈ held, P.rank k < P.rank key) (going : ¬ t.IsDone)
    (go : ∀ s' g', P.Meanwhile i held s g s' g' → P.Free key s' (g'.takers key) →
      ∀ s'' g'', P.Meanwhile i (key :: held) s' (g' ++ [(key, i)]) s'' g'' →
        t.Keeps P i (key :: held) s'' g'' (Ends Post i))
  | done (r : Except Fault α) (eq : t = .done r) (notReady : i ∉ ready)
    (waits : ∀ k, ¬ lines.Waits i k) (nothing : held = []) (post : Post i r s g)

/-- The locks that a task holds. -/
def Holding (lines : Lines κ Nat) (i : Nat) (held : List κ) : Prop :=
  ∀ key, key ∈ held ↔ lines.Holds i key

/-- The lines at the locks, the tasks that are ready and what is free are in order. -/
structure Ordered (size : Nat) (s : σ) (lines : Lines κ Nat) (g : Log κ) (ready : List Nat) :
    Prop where
  once : lines.Once
  nodup : ∀ key, (lines.line key).Nodup
  members : ∀ key, ∀ i ∈ lines.line key, i < size
  ready_nodup : ready.Nodup
  ready_lt : ∀ i ∈ ready, i < size
  log_lt : ∀ e ∈ g, e.2 < size
  free : ∀ key, lines.line key = [] → P.Free key s (g.takers key)

/-- A pool whose tasks abide by the protocol. -/
structure Sound (p : Pool κ σ α) (g : Log κ) : Prop where
  ordered : Ordered P p.tasks.length p.state p.lines g p.ready
  stands : ∀ i t, p.tasks[i]? = some t →
    ∃ held, Holding p.lines i held ∧ Stands P Post p.state p.lines g p.ready i t held

/-- A pool in the middle of a turn: the task of number `i` runs, what is left of it is `t`. -/
structure Running (tasks : List (Task κ σ α)) (i : Nat) (t : Task κ σ α) (held : List κ) (s : σ)
    (lines : Lines κ Nat) (g : Log κ) (ready : List Nat) : Prop where
  ordered : Ordered P tasks.length s lines g ready
  inside : i < tasks.length
  notReady : i ∉ ready
  holding : Holding lines i held
  waits : ∀ key, ¬ lines.Waits i key
  keeps : t.Keeps P i held s g (Ends Post i)
  stands : ∀ j u, j ≠ i → tasks[j]? = some u →
    ∃ held, Holding lines j held ∧ Stands P Post s lines g ready j u held

end Sound

end StoryState
