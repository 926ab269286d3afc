import StoryState.Proofs.Lock.Lines
import StoryState.Proofs.Task.Run

/-!
Tasks that ask only for some locks and write only along a relation, whatever others do when they rest or wait
(`Task.Confined`). In a pool each task has locks and a relation of its own; a turn goes along the relation of
the task that takes it, and nobody ever stands at a lock that is not one of his (`Pool.Run.confined`).
-/

namespace StoryState

/-! ### Members of lines -/

namespace Lines

variable {κ ι : Type} [DecidableEq κ] {key k : κ} {i j : ι} {ls : Lines κ ι}

theorem mem_line_join (h : Once ls) (hj : j ∈ (ls.join key i).1.line k) :
    (k = key ∧ j = i) ∨ j ∈ ls.line k := by
  by_cases hk : key = k
  · subst hk
    rw [join, line_setLine_self h, List.mem_append, List.mem_singleton] at hj
    exact hj.elim .inr fun hj => .inl ⟨rfl, hj⟩
  · rw [join, line_setLine_of_ne hk] at hj
    exact .inr hj

theorem mem_line_leave (h : Once ls) (hj : j ∈ (ls.leave key).1.line k) : j ∈ ls.line k := by
  by_cases hk : key = k
  · subst hk
    rw [leave, line_setLine_self h] at hj
    exact List.mem_of_mem_tail hj
  · rwa [leave, line_setLine_of_ne hk] at hj

end Lines

namespace Task

variable {κ σ α β : Type} {K : κ → Prop} {Step : σ → σ → Prop}

/-- From this state on the task asks only for locks in `K` and gives back only such, and all that it writes
goes along `Step`, whatever it finds behind a rest or a lock. -/
def ConfinedAt (K : κ → Prop) (Step : σ → σ → Prop) : Task κ σ α → σ → Prop
  | .done _, _ => True
  | .read next, s => (next s).ConfinedAt K Step s
  | .write s' next, s => Step s s' ∧ next.ConfinedAt K Step s'
  | .lock key next, _ => K key ∧ ∀ s, next.ConfinedAt K Step s
  | .unlock key next, s => K key ∧ next.ConfinedAt K Step s
  | .rest next, _ => ∀ s, next.ConfinedAt K Step s

/-- Wherever it starts, the task asks only for locks in `K` and writes only along `Step`. -/
def Confined (K : κ → Prop) (Step : σ → σ → Prop) (t : Task κ σ α) : Prop := ∀ s, t.ConfinedAt K Step s

/-- Without bounds every task is confined. -/
theorem confined_free (t : Task κ σ α) : t.Confined (fun _ => True) fun _ _ => True := by
  induction t with
  | done r => exact fun _ => trivial
  | read next ih => exact fun s => ih s s
  | write s' next ih => exact fun _ => ⟨trivial, ih s'⟩
  | lock key next ih => exact fun _ => ⟨trivial, ih⟩
  | unlock key next ih => exact fun s => ⟨trivial, ih s⟩
  | rest next ih => exact fun _ => ih

theorem Confined.mono {K' : κ → Prop} {Step' : σ → σ → Prop} {t : Task κ σ α} (h : t.Confined K Step)
    (hK : ∀ key, K key → K' key) (hStep : ∀ s s', Step s s' → Step' s s') : t.Confined K' Step' := by
  intro s
  have hs := h s
  clear h
  induction t generalizing s with
  | done r => trivial
  | read next ih => exact ih s s hs
  | write s' next ih => exact ⟨hStep s s' hs.1, ih s' hs.2⟩
  | lock key next ih => exact ⟨hK key hs.1, fun s' => ih s' (hs.2 s')⟩
  | unlock key next ih => exact ⟨hK key hs.1, ih s hs.2⟩
  | rest next ih => exact fun s' => ih s' (hs s')

/-! ### Rules -/

namespace Confined

theorem done (r : Except Fault α) : (Task.done r : Task κ σ α).Confined K Step := fun _ => trivial

theorem get {f : σ → Task κ σ α} (h : ∀ s, (f s).Confined K Step) :
    (MonadState.get >>= f : Task κ σ α).Confined K Step := fun s => h s s

theorem modify {f : σ → σ} (h : ∀ s, Step s (f s)) : (modify f : Task κ σ PUnit).Confined K Step :=
  fun s => ⟨h s, trivial⟩

theorem rests (n : Nat) : (Task.rests n : Task κ σ Unit).Confined K Step := by
  induction n with
  | zero => exact done _
  | succ n ih => exact fun _ => ih

theorem andThen {t : Task κ σ α} {f : Except Fault α → Task κ σ β} (ht : t.Confined K Step)
    (hf : ∀ r, (f r).Confined K Step) : (t.andThen f).Confined K Step := by
  intro s
  have hs := ht s
  clear ht
  induction t generalizing s with
  | done r => exact hf r s
  | read next ih => exact ih s s hs
  | write s' next ih => exact ⟨hs.1, ih s' hs.2⟩
  | lock key next ih => exact ⟨hs.1, fun s' => ih s' (hs.2 s')⟩
  | unlock key next ih => exact ⟨hs.1, ih s hs.2⟩
  | rest next ih => exact fun s' => ih s' (hs s')

theorem bind {t : Task κ σ α} {f : α → Task κ σ β} (ht : t.Confined K Step)
    (hf : ∀ a, (f a).Confined K Step) : (t >>= f).Confined K Step := by
  refine ht.andThen fun r => ?_
  cases r with
  | ok a => exact hf a
  | error e => exact done _

theorem tryCatch {t : Task κ σ α} {handle : Fault → Task κ σ α} (ht : t.Confined K Step)
    (hf : ∀ e, (handle e).Confined K Step) : (tryCatch t handle).Confined K Step := by
  refine ht.andThen fun r => ?_
  cases r with
  | ok a => exact done _
  | error e => exact hf e

theorem holding {key : κ} {t : Task κ σ α} (hkey : K key) (ht : t.Confined K Step) :
    (Task.holding key t).Confined K Step :=
  fun _ => ⟨hkey, ht.andThen fun _ _ => ⟨hkey, trivial⟩⟩

end Confined

/-! ### Turns -/

variable [DecidableEq κ] {i : Nat} {lines : Lines κ Nat}

/-- A turn of a confined task goes along its relation, leaves it confined, and lets it join only lines at its
own locks. -/
theorem ConfinedAt.turn (refl : ∀ s, Step s s) (trans : ∀ {s t u}, Step s t → Step t u → Step s u)
    {t : Task κ σ α} {s : σ} (h : t.ConfinedAt K Step s) (once : lines.Once) (woken : List Nat) :
    Step s (t.turn i s lines woken).state ∧ (t.turn i s lines woken).left.Confined K Step ∧
      (t.turn i s lines woken).lines.Once ∧
        ∀ j key, j ∈ (t.turn i s lines woken).lines.line key → (K key ∧ j = i) ∨ j ∈ lines.line key := by
  induction t generalizing s lines woken with
  | done r => exact ⟨refl s, .done r, once, fun _ _ => .inr⟩
  | read next ih => exact ih s h once woken
  | write s' next ih =>
    obtain ⟨hstep, hrest⟩ := ih h.2 once woken
    exact ⟨trans h.1 hstep, hrest⟩
  | lock key next ih =>
    have hjoin : ∀ j k, j ∈ (lines.join key i).1.line k → (K k ∧ j = i) ∨ j ∈ lines.line k := by
      intro j k hj
      rcases Lines.mem_line_join once hj with ⟨rfl, rfl⟩ | hj
      · exact .inl ⟨h.1, rfl⟩
      · exact .inr hj
    have honce : (lines.join key i).1.Once := once.setLine
    rw [Task.turn]
    dsimp only
    split
    · obtain ⟨hstep, hleft, honce', hlines⟩ := ih (h.2 s) honce woken
      exact ⟨hstep, hleft, honce', fun j k hj => (hlines j k hj).elim .inl (hjoin j k)⟩
    · exact ⟨refl s, h.2, honce, hjoin⟩
  | unlock key next ih =>
    obtain ⟨hstep, hleft, honce, hlines⟩ :=
      ih h.2 (once.setLine : (lines.leave key).1.Once) (woken ++ (lines.leave key).2.toList)
    exact ⟨hstep, hleft, honce, fun j k hj => (hlines j k hj).imp_right (Lines.mem_line_leave once)⟩
  | rest next ih => exact ⟨refl s, h, once, fun _ _ => .inr⟩

end Task

/-! ### Pools -/

namespace Pool

variable {κ σ α : Type} [DecidableEq κ] {K : Nat → κ → Prop} {Step : Nat → σ → σ → Prop} {p q : Pool κ σ α}

/-- The task of each number is confined, and stands only in lines at its own locks. -/
structure Confined (K : Nat → κ → Prop) (Step : Nat → σ → σ → Prop) (p : Pool κ σ α) : Prop where
  once : p.lines.Once
  tasks : ∀ (i : Nat) (t : Task κ σ α), p.tasks[i]? = some t → t.Confined (K i) (Step i)
  lines : ∀ i key, i ∈ p.lines.line key → K i key

theorem confined_start {s : σ} {tasks : List (Task κ σ α)}
    (h : ∀ (i : Nat) (t : Task κ σ α), tasks[i]? = some t → t.Confined (K i) (Step i)) :
    Confined K Step (start s tasks) :=
  ⟨Lines.once_nil, h, fun _ _ hi => absurd hi List.not_mem_nil⟩

/-- A turn goes along the relation of the task that takes it, and leaves all tasks confined. -/
theorem Confined.turn (refl : ∀ i s, Step i s s) (trans : ∀ i {s t u}, Step i s t → Step i t u → Step i s u)
    (h : Confined K Step p) (i : Nat) : Step i p.state (p.turn i).state ∧ Confined K Step (p.turn i) := by
  unfold Pool.turn
  split
  · exact ⟨refl i p.state, h.once, h.tasks, h.lines⟩
  · rename_i t ht
    obtain ⟨hstep, hleft, honce, hlines⟩ :=
      (h.tasks i t ht p.state).turn (refl i) (trans i) h.once [] (i := i)
    refine ⟨hstep, honce, fun j u hu => ?_, fun j key hj => ?_⟩
    · by_cases hj : i = j
      · subst hj
        rw [List.getElem?_set_self (List.getElem?_eq_some_iff.1 ht).1] at hu
        exact Option.some.inj hu ▸ hleft
      · rw [List.getElem?_set_ne hj] at hu
        exact h.tasks j u hu
    · rcases hlines j key hj with ⟨hkey, rfl⟩ | hj
      · exact hkey
      · exact h.lines j key hj

theorem Run.confined (refl : ∀ i s, Step i s s) (trans : ∀ i {s t u}, Step i s t → Step i t u → Step i s u)
    {g : Log κ} (run : Run p g q) (h : Confined K Step p) : Confined K Step q := by
  induction run with
  | stop p => exact h
  | turn ready run ih => exact ih (h.turn refl trans _).2

end Pool

end StoryState
