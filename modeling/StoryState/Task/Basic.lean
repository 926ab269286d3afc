import StoryState.Fault

/-!
Tasks over a shared state. Between two rests a task runs without a break; it rests where it asks for
a lock that is held, and where it says so, and then others may run.
-/

namespace StoryState

/-- A task over states `σ` with locks `κ` that answers an `α` or stops with a fault. -/
inductive Task (κ σ α : Type) where
  | done (result : Except Fault α)
  | read (next : σ → Task κ σ α)
  | write (s : σ) (next : Task κ σ α)
  | lock (key : κ) (next : Task κ σ α)
  | unlock (key : κ) (next : Task κ σ α)
  | rest (next : Task κ σ α)

namespace Task

variable {κ κ' σ σ' α β : Type}

/-- Goes on with what became of a task, also if it stopped with a fault. -/
def andThen : Task κ σ α → (Except Fault α → Task κ σ β) → Task κ σ β
  | .done r, f => f r
  | .read next, f => .read fun s => (next s).andThen f
  | .write s next, f => .write s (next.andThen f)
  | .lock key next, f => .lock key (next.andThen f)
  | .unlock key next, f => .unlock key (next.andThen f)
  | .rest next, f => .rest (next.andThen f)

/-- Goes on with the answer of a task. -/
def bind (t : Task κ σ α) (f : α → Task κ σ β) : Task κ σ β :=
  t.andThen fun
    | .ok a => f a
    | .error e => .done (.error e)

instance : Monad (Task κ σ) where
  pure a := .done (.ok a)
  bind := bind

instance : MonadExceptOf Fault (Task κ σ) where
  throw e := .done (.error e)
  tryCatch t handle :=
    t.andThen fun
      | .ok a => .done (.ok a)
      | .error e => handle e

instance : MonadStateOf σ (Task κ σ) where
  get := .read fun s => .done (.ok s)
  set s := .write s (.done (.ok ()))
  modifyGet f := .read fun s => let (a, s) := f s; .write s (.done (.ok a))

/-- A task that only answers. -/
def ofExcept (r : Except Fault α) : Task κ σ α := .done r

/-- What became of a task, as an answer. -/
def outcome (t : Task κ σ α) : Task κ σ (Except Fault α) := t.andThen fun r => .done (.ok r)

/-- Lets others run. -/
def yield : Task κ σ Unit := .rest (.done (.ok ()))

/-- Lets others run so many times. -/
def rests : Nat → Task κ σ Unit
  | 0 => pure ()
  | n + 1 => .rest (rests n)

/-- Runs a task while holding a lock, which is given back also if the task stops with a fault. -/
def holding (key : κ) (t : Task κ σ α) : Task κ σ α :=
  .lock key (t.andThen fun r => .unlock key (.done r))

/-- A task on a part of a state, with its locks renamed. -/
def within (rename : κ → κ') (get : σ' → σ) (put : σ → σ' → σ') : Task κ σ α → Task κ' σ' α
  | .done r => .done r
  | .read next => .read fun s => (next (get s)).within rename get put
  | .write part next => .read fun s => .write (put part s) (next.within rename get put)
  | .lock key next => .lock (rename key) (next.within rename get put)
  | .unlock key next => .unlock (rename key) (next.within rename get put)
  | .rest next => .rest (next.within rename get put)

/-- A task run by itself, from its first step to its last. -/
def alone : Task κ σ α → σ → Except Fault α × σ
  | .done r, s => (r, s)
  | .read next, s => (next s).alone s
  | .write s next, _ => next.alone s
  | .lock _ next, s | .unlock _ next, s | .rest next, s => next.alone s

/-! ### Laws -/

@[simp] theorem andThen_done (r : Except Fault α) (f : Except Fault α → Task κ σ β) :
    (Task.done r).andThen f = f r := rfl

theorem andThen_assoc {γ : Type} (t : Task κ σ α) (f : Except Fault α → Task κ σ β)
    (g : Except Fault β → Task κ σ γ) :
    (t.andThen f).andThen g = t.andThen fun r => (f r).andThen g := by
  induction t with
  | done r => rfl
  | read next ih => simp [andThen, ih]
  | write s next ih => simp [andThen, ih]
  | lock key next ih => simp [andThen, ih]
  | unlock key next ih => simp [andThen, ih]
  | rest next ih => simp [andThen, ih]

theorem alone_andThen (t : Task κ σ α) (f : Except Fault α → Task κ σ β) (s : σ) :
    (t.andThen f).alone s = (f (t.alone s).1).alone (t.alone s).2 := by
  induction t generalizing s with
  | done r => rfl
  | read next ih => simp [andThen, alone, ih]
  | write s next ih => simp [andThen, alone, ih]
  | lock key next ih => simp [andThen, alone, ih]
  | unlock key next ih => simp [andThen, alone, ih]
  | rest next ih => simp [andThen, alone, ih]

theorem alone_holding (key : κ) (t : Task κ σ α) (s : σ) : (holding key t).alone s = t.alone s := by
  simp [holding, alone, alone_andThen]

end Task

end StoryState
