import StoryState.Task.Pool
import Mathlib.Tactic.Common

/-!
Runs of a pool. `Pool.Run p g q` says that turns of ready tasks, in any order, lead from `p` to `q`,
and that meanwhile the locks were obtained as the log `g` says.
-/

namespace StoryState

/-! ### Logs -/

/-- Who obtained which lock, in this order. -/
abbrev Log (κ : Type) := List (κ × Nat)

namespace Log

variable {κ : Type} [DecidableEq κ]

/-- Those who obtained a lock, in order. -/
def takers (key : κ) (g : Log κ) : List Nat := (g.filter (·.1 = key)).map (·.2)

/-- The locks that a task obtained, in order. -/
def taken (i : Nat) (g : Log κ) : List κ := (g.filter (·.2 = i)).map (·.1)

variable {key k : κ} {i j : Nat} {g g' : Log κ}

@[simp] theorem takers_nil : takers key ([] : Log κ) = [] := rfl

omit [DecidableEq κ] in
@[simp] theorem taken_nil : taken i ([] : Log κ) = [] := rfl

@[simp] theorem takers_append : takers key (g ++ g') = takers key g ++ takers key g' := by
  simp [takers]

omit [DecidableEq κ] in
@[simp] theorem taken_append : taken i (g ++ g') = taken i g ++ taken i g' := by
  simp [taken]

@[simp] theorem takers_self : takers key [(key, i)] = [i] := by simp [takers]

theorem takers_of_ne (h : k ≠ key) : takers key [(k, i)] = [] := by simp [takers, h]

omit [DecidableEq κ] in
@[simp] theorem taken_self : taken i [(key, i)] = [key] := by simp [taken]

omit [DecidableEq κ] in
theorem taken_of_ne (h : j ≠ i) : taken i [(key, j)] = [] := by simp [taken, h]

theorem takers_mono (h : g <+: g') : takers key g <+: takers key g' := by
  obtain ⟨t, rfl⟩ := h
  rw [takers_append]
  exact List.prefix_append _ _

/-- A task is among the takers of a lock as often as the lock is among those that it took. -/
theorem count_takers : (takers key g).count i = (taken i g).count key := by
  induction g with
  | nil => rfl
  | cons e g ih =>
    obtain ⟨k, j⟩ := e
    by_cases hk : k = key <;> by_cases hj : j = i <;>
      simp_all [takers, taken]

end Log

/-! ### Turns -/

variable {κ σ α : Type} [DecidableEq κ]

/-- The locks obtained in a turn of the task of number `i`, by it or by those who waited for it. -/
def Task.grants (i : Nat) : Task κ σ α → σ → Lines κ Nat → Log κ
  | .done _, _, _ => []
  | .read next, s, lines => (next s).grants i s lines
  | .write s next, _, lines => next.grants i s lines
  | .lock key next, s, lines =>
    if (lines.join key i).2 then (key, i) :: next.grants i s (lines.join key i).1 else []
  | .unlock key next, s, lines =>
    (lines.leave key).2.toList.map (fun j => (key, j)) ++ next.grants i s (lines.leave key).1
  | .rest _, _, _ => []

namespace Pool

/-- The locks obtained in a turn. -/
def grants (p : Pool κ σ α) (i : Nat) : Log κ :=
  match p.tasks[i]? with
  | none => []
  | some t => t.grants i p.state p.lines

/-- Turns of ready tasks, in any order. -/
inductive Run : Pool κ σ α → Log κ → Pool κ σ α → Prop
  | stop (p : Pool κ σ α) : Run p [] p
  | turn {p q : Pool κ σ α} {g : Log κ} {i : Nat} (ready : i ∈ p.ready) (run : Run (p.turn i) g q) :
    Run p (p.grants i ++ g) q

/-- Whether all tasks have finished. -/
def Finished (p : Pool κ σ α) : Prop := ∀ t ∈ p.tasks, ∃ r, t = .done r

/-- The run in which each turn goes to the task that has been ready longest is one of them, and in
the end no task is ready. -/
theorem run_run (p : Pool κ σ α) : ∃ g, Run p g p.run ∧ p.run.ready = [] := by
  induction p using Pool.run.induct with
  | case1 p h =>
    rw [Pool.run]
    split
    · exact ⟨[], .stop p, h⟩
    · rename_i i is hi
      rw [h] at hi
      cases hi
  | case2 p i is h hi ih =>
    obtain ⟨g, hrun, hstop⟩ := ih
    rw [Pool.run]
    split
    · rename_i hnil
      rw [h] at hnil
      cases hnil
    · rename_i j js hj
      rw [h] at hj
      cases hj
      exact ⟨_, .turn hi hrun, hstop⟩

theorem length_tasks_turn (p : Pool κ σ α) (i : Nat) :
    (p.turn i).tasks.length = p.tasks.length := by
  unfold turn
  split <;> simp

theorem Run.length_tasks {p q : Pool κ σ α} {g : Log κ} (run : Run p g q) :
    q.tasks.length = p.tasks.length := by
  induction run with
  | stop p => rfl
  | turn _ _ ih => rw [ih, length_tasks_turn]

end Pool

end StoryState
