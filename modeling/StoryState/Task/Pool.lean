import StoryState.Lock.Lines
import StoryState.Task.Basic

/-!
Tasks that run side by side. A pool holds the tasks that were started together, the state that they
share, and the lines at their locks. In a turn one of the tasks that are ready runs up to its next
rest; `Pool.run` gives the turns in the order in which the tasks became ready.
-/

namespace StoryState

/-! ### Order of remainders -/

namespace Task

variable {κ σ α : Type}

/-- What is left of a task after its first step. -/
inductive Next : Task κ σ α → Task κ σ α → Prop
  | read (next : σ → Task κ σ α) (s : σ) : Next (next s) (.read next)
  | write (s : σ) (next : Task κ σ α) : Next next (.write s next)
  | lock (key : κ) (next : Task κ σ α) : Next next (.lock key next)
  | unlock (key : κ) (next : Task κ σ α) : Next next (.unlock key next)
  | rest (next : Task κ σ α) : Next next (.rest next)

theorem next_wf : WellFounded (@Next κ σ α) := by
  constructor
  intro t
  induction t with
  | done r => exact ⟨_, fun _ h => nomatch h⟩
  | read next ih => exact ⟨_, fun | _, .read _ s => ih s⟩
  | write s next ih => exact ⟨_, fun | _, .write _ _ => ih⟩
  | lock key next ih => exact ⟨_, fun | _, .lock _ _ => ih⟩
  | unlock key next ih => exact ⟨_, fun | _, .unlock _ _ => ih⟩
  | rest next ih => exact ⟨_, fun | _, .rest _ => ih⟩

/-- What is left of a task after some of its steps, at least one. -/
abbrev Left : Task κ σ α → Task κ σ α → Prop := Relation.TransGen Next

theorem left_wf : WellFounded (@Left κ σ α) := next_wf.transGen

end Task

/-- A list with one of its items replaced by a lesser one. -/
inductive Lowered {α : Type} (r : α → α → Prop) : List α → List α → Prop
  | head {b a : α} (l : List α) : r b a → Lowered r (b :: l) (a :: l)
  | tail (a : α) {m l : List α} : Lowered r m l → Lowered r (a :: m) (a :: l)

theorem lowered_wf {α : Type} {r : α → α → Prop} (wf : WellFounded r) :
    WellFounded (Lowered r) := by
  constructor
  intro l
  induction l with
  | nil => exact ⟨_, fun _ h => nomatch h⟩
  | cons a l ih =>
    induction wf.apply a generalizing l with
    | intro a _ iha =>
      induction ih with
      | intro l hl ihl =>
        refine ⟨_, fun m h => ?_⟩
        cases h with
        | head _ hr => exact iha _ hr l ⟨l, hl⟩
        | tail _ ht => exact ihl _ ht

theorem lowered_set {α : Type} {r : α → α → Prop} {l : List α} {i : Nat} {a b : α}
    (h : l[i]? = some a) (hr : r b a) : Lowered r (l.set i b) l := by
  induction l generalizing i with
  | nil => simp at h
  | cons x l ih =>
    cases i with
    | zero =>
      obtain rfl : x = a := by simpa using h
      exact .head l hr
    | succ i => exact .tail x (ih (by simpa using h))

/-! ### Turns -/

/-- What came of a turn of a task. -/
structure Turn (κ σ α : Type) where
  state : σ
  lines : Lines κ Nat
  /-- Those who got a lock in the turn. -/
  woken : List Nat
  /-- What is left of the task. -/
  left : Task κ σ α
  /-- Whether the task is ready again. -/
  again : Bool

namespace Task

variable {κ σ α : Type} [DecidableEq κ]

/-- Runs the task of number `i` up to its next rest. -/
def turn (i : Nat) : Task κ σ α → σ → Lines κ Nat → List Nat → Turn κ σ α
  | .done r, s, lines, woken => ⟨s, lines, woken, .done r, false⟩
  | .read next, s, lines, woken => (next s).turn i s lines woken
  | .write s next, _, lines, woken => next.turn i s lines woken
  | .lock key next, s, lines, woken =>
    let (lines, free) := lines.join key i
    if free then next.turn i s lines woken else ⟨s, lines, woken, next, false⟩
  | .unlock key next, s, lines, woken =>
    let (lines, first) := lines.leave key
    next.turn i s lines (woken ++ first.toList)
  | .rest next, s, lines, woken => ⟨s, lines, woken, next, true⟩

theorem turn_left (i : Nat) (t : Task κ σ α) (s : σ) (lines : Lines κ Nat) (woken : List Nat) :
    (∃ r, t = .done r) ∨ Left (t.turn i s lines woken).left t := by
  induction t generalizing s lines woken with
  | done r => exact .inl ⟨r, rfl⟩
  | read next ih =>
    refine .inr ?_
    rcases ih s s lines woken with ⟨r, h⟩ | h
    · simpa [turn, h] using Relation.TransGen.single (h ▸ Next.read next s)
    · exact h.tail (.read next s)
  | write s' next ih =>
    refine .inr ?_
    rcases ih s' lines woken with ⟨r, h⟩ | h
    · simpa [turn, h] using Relation.TransGen.single (h ▸ Next.write s' next)
    · exact h.tail (.write s' next)
  | lock key next ih =>
    refine .inr ?_
    simp only [turn]
    split
    · rcases ih s (lines.join key i).1 woken with ⟨r, h⟩ | h
      · simpa [turn, h] using Relation.TransGen.single (h ▸ Next.lock key next)
      · exact h.tail (.lock key next)
    · exact .single (.lock key next)
  | unlock key next ih =>
    refine .inr ?_
    simp only [turn]
    rcases ih s (lines.leave key).1 (woken ++ (lines.leave key).2.toList) with ⟨r, h⟩ | h
    · simpa [turn, h] using Relation.TransGen.single (h ▸ Next.unlock key next)
    · exact h.tail (.unlock key next)
  | rest next ih => exact .inr (.single (.rest next))

end Task

/-- Tasks side by side. -/
structure Pool (κ σ α : Type) where
  state : σ
  /-- What is left of the tasks. -/
  tasks : List (Task κ σ α)
  /-- The tasks that can run, in the order in which they became ready. -/
  ready : List Nat
  lines : Lines κ Nat := []

namespace Pool

variable {κ σ α : Type}

/-- Tasks started together. -/
def start (s : σ) (tasks : List (Task κ σ α)) : Pool κ σ α :=
  ⟨s, tasks, List.range tasks.length, []⟩

/-- What became of the tasks, as far as they have finished. -/
def results (p : Pool κ σ α) : List (Option (Except Fault α)) :=
  p.tasks.map fun
    | .done r => some r
    | _ => none

/-- The order in which turns descend: a task has less left, or fewer tasks are ready. -/
def Descends (p q : Pool κ σ α) : Prop :=
  Prod.Lex (Lowered Task.Left) (· < ·) (p.tasks, p.ready.length) (q.tasks, q.ready.length)

theorem descends_wf : WellFounded (@Descends κ σ α) :=
  InvImage.wf (fun p : Pool κ σ α => (p.tasks, p.ready.length))
    (Prod.lex ⟨_, lowered_wf Task.left_wf⟩ ⟨_, Nat.lt_wfRel.wf⟩).wf

instance : WellFoundedRelation (Pool κ σ α) := ⟨Descends, descends_wf⟩

variable [DecidableEq κ]

/-- The pool after a turn of the task of number `i`. -/
def turn (p : Pool κ σ α) (i : Nat) : Pool κ σ α :=
  match p.tasks[i]? with
  | none => { p with ready := p.ready.erase i }
  | some t =>
    let r := t.turn i p.state p.lines []
    { state := r.state
      tasks := p.tasks.set i r.left
      ready := p.ready.erase i ++ r.woken ++ (if r.again then [i] else [])
      lines := r.lines }

theorem turn_descends (p : Pool κ σ α) {i : Nat} (h : i ∈ p.ready) : Descends (p.turn i) p := by
  have shorter : (p.ready.erase i).length < p.ready.length := by
    have := List.length_pos_of_mem h
    rw [List.length_erase_of_mem h]
    omega
  unfold Descends turn
  split
  · exact .right _ shorter
  · rename_i t ht
    rcases t.turn_left i p.state p.lines [] with ⟨r, rfl⟩ | hl
    · have same : p.tasks.set i (.done r) = p.tasks :=
        List.ext_getElem? fun j => by
          rw [List.getElem?_set]
          split
          · rename_i e
            subst e
            obtain ⟨hi, e⟩ := List.getElem?_eq_some_iff.1 ht
            simp [hi, e]
          · rfl
      simp only [Task.turn, same]
      exact .right _ (by simpa using shorter)
    · exact .left _ _ (lowered_set ht hl)

/-- Runs all tasks as far as they can, each turn going to the task that has been ready longest. -/
def run (p : Pool κ σ α) : Pool κ σ α :=
  match h : p.ready with
  | [] => p
  | i :: _ =>
    have : i ∈ p.ready := by simp [h]
    run (p.turn i)
termination_by p
decreasing_by exact turn_descends p this

end Pool

end StoryState
