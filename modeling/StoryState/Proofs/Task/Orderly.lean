import StoryState.Proofs.Task.Sound

/-!
Tasks that ask for locks in the order of a rank: a task asks only for locks of a higher rank than those it
holds, gives back only what it holds, and ends with nothing in hand, whatever it reads. No run of such
tasks gets stuck, and once they are all done no lock is held (`Pool.Run.progress`).
-/

namespace StoryState

variable {κ κ' σ σ' α β : Type} [DecidableEq κ] [DecidableEq κ']

namespace Task

/-- Whatever the task reads, with the locks `held` in hand it asks only for locks that rank above all of
them, it does not end with asking for one, and it gives back only what it holds; when it is done it holds
`left`. -/
def Heeds (rank : κ → Nat) (left : List κ) : Task κ σ α → List κ → Prop
  | .done _, held => held = left
  | .read next, held => ∀ s, (next s).Heeds rank left held
  | .write _ next, held => next.Heeds rank left held
  | .lock key next, held =>
    ((∀ k ∈ held, rank k < rank key) ∧ ¬ next.IsDone) ∧ next.Heeds rank left (key :: held)
  | .unlock key next, held => key ∈ held ∧ next.Heeds rank left (held.filter (· ≠ key))
  | .rest next, held => next.Heeds rank left held

/-- The task can be run while any locks of ranks below `n` are held, and those it leaves as they are. -/
def Orderly (rank : κ → Nat) (n : Nat) (t : Task κ σ α) : Prop :=
  ∀ held, (∀ k ∈ held, rank k < n) → t.Heeds rank held held

variable {rank : κ → Nat} {n : Nat}

theorem Heeds.andThen {left mid held : List κ} {t : Task κ σ α} {f : Except Fault α → Task κ σ β}
    (ht : t.Heeds rank mid held) (hf : ∀ r, (f r).Heeds rank left mid) :
    (t.andThen f).Heeds rank left held := by
  induction t generalizing held with
  | done r =>
    obtain rfl : held = mid := ht
    exact hf r
  | read next ih => exact fun s => ih s (ht s)
  | write s next ih => exact ih ht
  | lock key next ih =>
    obtain ⟨⟨above, going⟩, hnext⟩ := ht
    exact ⟨⟨above, not_isDone_andThen fun hdone => absurd hdone going⟩, ih hnext⟩
  | unlock key next ih => exact ⟨ht.1, ih ht.2⟩
  | rest next ih => exact ih ht

/-! ### Rules -/

namespace Orderly

theorem done (r : Except Fault α) : (Task.done r : Task κ σ α).Orderly rank n := fun _ _ => rfl

theorem pure (a : α) : (Pure.pure a : Task κ σ α).Orderly rank n := done _

theorem ofExcept (r : Except Fault α) : (Task.ofExcept r : Task κ σ α).Orderly rank n := done r

theorem get {f : σ → Task κ σ α} (h : ∀ s, (f s).Orderly rank n) :
    (MonadState.get >>= f : Task κ σ α).Orderly rank n := fun held hheld s => h s held hheld

theorem modify (f : σ → σ) : (modify f : Task κ σ PUnit).Orderly rank n := fun _ _ _ => rfl

theorem set (s : σ) : (MonadStateOf.set s : Task κ σ PUnit).Orderly rank n := fun _ _ => rfl

theorem yield : (Task.yield : Task κ σ Unit).Orderly rank n := fun _ _ => rfl

theorem rests (m : Nat) : (Task.rests m : Task κ σ Unit).Orderly rank n := by
  induction m with
  | zero => exact done _
  | succ m ih => exact fun held hheld => ih held hheld

theorem andThen {t : Task κ σ α} {f : Except Fault α → Task κ σ β} (ht : t.Orderly rank n)
    (hf : ∀ r, (f r).Orderly rank n) : (t.andThen f).Orderly rank n :=
  fun held hheld => (ht held hheld).andThen fun r => hf r held hheld

theorem bind {t : Task κ σ α} {f : α → Task κ σ β} (ht : t.Orderly rank n)
    (hf : ∀ a, (f a).Orderly rank n) : (t >>= f).Orderly rank n := by
  refine ht.andThen fun r => ?_
  cases r with
  | ok a => exact hf a
  | error e => exact done _

theorem map {t : Task κ σ α} {f : α → β} (ht : t.Orderly rank n) :
    (t >>= fun a => Pure.pure (f a)).Orderly rank n := ht.bind fun _ => pure _

theorem outcome {t : Task κ σ α} (ht : t.Orderly rank n) : t.outcome.Orderly rank n :=
  ht.andThen fun _ => done _

theorem tryCatch {t : Task κ σ α} {handle : Fault → Task κ σ α} (ht : t.Orderly rank n)
    (hf : ∀ e, (handle e).Orderly rank n) : (tryCatch t handle).Orderly rank n := by
  refine ht.andThen fun r => ?_
  cases r with
  | ok a => exact done _
  | error e => exact hf e

/-- A task that can be run while more is held can be run while less is. -/
theorem mono {m : Nat} {t : Task κ σ α} (ht : t.Orderly rank n) (hm : m ≤ n) : t.Orderly rank m := by
  intro held hheld
  exact ht held fun k hk => Nat.lt_of_lt_of_le (hheld k hk) hm

/-- A task may hold a lock if what it does meanwhile can be done while locks up to that rank are held. -/
theorem holding {key : κ} {t : Task κ σ α} (hn : n ≤ rank key) (ht : t.Orderly rank (rank key + 1)) :
    (Task.holding key t).Orderly rank n := by
  intro held hheld
  have hbelow : ∀ k ∈ held, rank k < rank key := fun k hk => Nat.lt_of_lt_of_le (hheld k hk) hn
  refine ⟨⟨hbelow, not_isDone_andThen fun _ _ => id⟩, ?_⟩
  refine (ht (key :: held) fun k hk => ?_).andThen fun r => ⟨List.mem_cons_self, filter_ne_cons hbelow⟩
  rcases List.mem_cons.1 hk with rfl | hk
  · exact Nat.lt_succ_self _
  · exact Nat.lt_succ_of_lt (hbelow k hk)

end Orderly

/-! ### Tasks on a part of a state -/

section Within

variable {rename : κ → κ'} {part : σ' → σ} {put : σ → σ' → σ'}

omit [DecidableEq κ] [DecidableEq κ'] in
theorem isDone_within {t : Task κ σ α} : (t.within rename part put).IsDone ↔ t.IsDone := by
  cases t <;> exact Iff.rfl

/-- A task on a part holds, besides the locks that are held around it, those of the part. -/
theorem Heeds.within {rank' : κ' → Nat} {m : Nat} (injective : ∀ k l, rename k = rename l → k = l)
    (ranks : ∀ k, rank' (rename k) = m + rank k) {around : List κ'} (below : ∀ k ∈ around, rank' k < m)
    {left held : List κ} {t : Task κ σ α} (h : t.Heeds rank left held) :
    (t.within rename part put).Heeds rank' (left.map rename ++ around) (held.map rename ++ around) := by
  induction t generalizing held with
  | done r => exact congrArg (fun l => l.map rename ++ around) h
  | read next ih => exact fun s => ih (part s) (h (part s))
  | write p next ih => exact fun s => ih h
  | lock key next ih =>
    obtain ⟨⟨above, going⟩, hnext⟩ := h
    refine ⟨⟨fun k hk => ?_, fun hdone => going (isDone_within.1 hdone)⟩, ih hnext⟩
    rw [ranks]
    rcases List.mem_append.1 hk with hk | hk
    · obtain ⟨l, hl, rfl⟩ := List.mem_map.1 hk
      have := above l hl
      rw [ranks]
      omega
    · have := below k hk
      omega
  | unlock key next ih =>
    have hinside : ∀ k, (rename k ≠ rename key) ↔ (k ≠ key) := fun k =>
      not_congr ⟨injective k key, congrArg rename⟩
    have haround : ∀ k ∈ around, k ≠ rename key := by
      rintro k hk rfl
      have := below _ hk
      rw [ranks] at this
      omega
    have hrest : (held.map rename ++ around).filter (fun k => decide (k ≠ rename key)) =
        (held.filter fun k => decide (k ≠ key)).map rename ++ around := by
      rw [List.filter_append, List.filter_map,
        List.filter_eq_self.2 fun k hk => decide_eq_true (haround k hk)]
      congr 2
      exact List.filter_congr fun k _ => decide_eq_decide.2 (hinside k)
    refine ⟨List.mem_append_left _ (List.mem_map_of_mem h.1), ?_⟩
    rw [hrest]
    exact ih h.2
  | rest next ih => exact ih h

theorem Orderly.within {rank' : κ' → Nat} {m : Nat} (injective : ∀ k l, rename k = rename l → k = l)
    (ranks : ∀ k, rank' (rename k) = m + rank k) {t : Task κ σ α} (ht : t.Orderly rank 0) :
    (t.within rename part put).Orderly rank' m := by
  intro held hheld
  exact (ht [] (by simp)).within injective ranks hheld

end Within

end Task

/-! ### Pools -/

/-- The protocol that asks only for the order of locks. -/
def Protocol.ordering (σ : Type) (rank : κ → Nat) : Protocol κ σ where
  Always _ _ := True
  Others _ _ _ := True
  Free _ _ _ := True
  rank := rank
  lenient := False
  always_refl _ := trivial
  always_trans _ _ := trivial
  others_refl _ _ := trivial
  others_trans _ _ := trivial
  free_others _ _ _ := trivial

variable {rank : κ → Nat}

theorem Task.Heeds.keeps {t : Task κ σ α} {held : List κ} (h : t.Heeds rank [] held) (i : Nat) (s : σ)
    (g : Log κ) :
    t.Keeps (Protocol.ordering σ rank) i held s g (Ends (fun _ _ _ _ => True) i) := by
  induction t generalizing held s g with
  | done r => exact ⟨h, trivial⟩
  | read next ih => exact ih s (h s) s g
  | write s' next ih => exact ⟨⟨trivial, fun _ _ => trivial⟩, ih h s' g⟩
  | lock key next ih => exact ⟨h.1, fun _ _ _ _ s' g' _ => ih h.2 s' g'⟩
  | unlock key next ih => exact ⟨h.1, .inr ⟨trivial, fun g' _ => ih h.2 s g'⟩⟩
  | rest next ih => exact fun s' g' _ => ih h s' g'

/-- Tasks that ask for locks in order never come to a standstill: as long as some are not done, one of these
can take a turn, and when all are done no lock is held. -/
theorem Pool.Run.progress {s : σ} {tasks : List (Task κ σ α)} (orderly : ∀ t ∈ tasks, t.Orderly rank 0)
    {p : Pool κ σ α} {g : Log κ} (run : Pool.Run (Pool.start s tasks) g p) :
    (¬ p.Finished → ∃ i ∈ p.ready, ∃ t, p.tasks[i]? = some t ∧ ¬ ∃ r, t = .done r) ∧
      (p.Finished → ∀ key, p.lines.isHeld key = false) := by
  have hstart : Sound (Protocol.ordering σ rank) (fun _ _ _ _ => True) (Pool.start s tasks) [] := by
    refine sound_start (fun _ => trivial) fun i t ht s' g' _ => ?_
    exact (orderly t (List.mem_of_getElem? ht) [] (by simp)).keeps i s' g'
  have hsound : Sound (Protocol.ordering σ rank) (fun _ _ _ _ => True) p ([] ++ g) := by
    rcases run.sound (fun _ _ _ _ _ _ _ _ _ _ => trivial) hstart with h | ⟨lenient, -⟩
    · exact h
    · exact lenient.elim
  refine ⟨fun unfinished => ?_, fun finished key => ?_⟩
  · by_contra hstuck
    have idle : p.Idle := by
      intro i hi
      have hlt := hsound.ordered.ready_lt i hi
      by_contra hgoing
      refine hstuck ⟨i, hi, p.tasks[i], List.getElem?_eq_getElem hlt, ?_⟩
      rintro ⟨r, hr⟩
      exact hgoing ⟨r, hr ▸ List.getElem?_eq_getElem hlt⟩
    refine unfinished fun t ht => ?_
    obtain ⟨i, hi⟩ := List.mem_iff_getElem?.1 ht
    exact hsound.all_done idle i t hi
  · have hnobody := hsound.line_eq_nil (fun i t ht => finished t (List.mem_of_getElem? ht)) key
    simp [Lines.isHeld, hnobody]

end StoryState
