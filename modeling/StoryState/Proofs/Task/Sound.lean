import StoryState.Proofs.Task.Protocol

/-!
Tasks that abide by a protocol keep it together: each stroke of a turn leaves the pool in order and
the other tasks as they stood, so every turn does, and every run.
-/

namespace StoryState

variable {κ σ α : Type} [DecidableEq κ] {P : Protocol κ σ}
  {Post : Nat → Except Fault α → σ → Log κ → Prop}

/-- What a task was to give it still has given after whatever others do. -/
def Steady (P : Protocol κ σ) (Post : Nat → Except Fault α → σ → Log κ → Prop) : Prop :=
  ∀ i r s s' (g g' : Log κ), P.Always s s' → g'.taken i = g.taken i → g <+: g' → Post i r s g →
    Post i r s' g'

/-! ### Tasks that are not running -/

section Stands

variable {s s' : σ} {lines lines' : Lines κ Nat} {g g' : Log κ} {ready ready' : List Nat} {i : Nat}
  {t : Task κ σ α} {held : List κ}

/-- A task that is not running does not mind what happens meanwhile. -/
theorem Stands.meanwhile (steady : Steady P Post) (h : Stands P Post s lines g ready i t held)
    (hm : P.Meanwhile i held s g s' g') : Stands P Post s' lines g' ready i t held := by
  cases h with
  | ready isReady waits go => exact .ready isReady waits fun s'' g'' hm' => go s'' g'' (hm.trans hm')
  | waiting key notReady waits rank going go =>
    exact .waiting key notReady waits rank going fun s'' g'' hm' => go s'' g'' (hm.trans hm')
  | done r eq notReady waits nothing post =>
    exact .done r eq notReady waits nothing (steady i r s s' g g' hm.always hm.taken hm.log post)

theorem Stands.congr (h : Stands P Post s lines g ready i t held)
    (hw : ∀ k, lines'.Waits i k ↔ lines.Waits i k) (hr : i ∈ ready' ↔ i ∈ ready) :
    Stands P Post s lines' g ready' i t held := by
  cases h with
  | ready isReady waits go => exact .ready (hr.2 isReady) (fun k => by rw [hw]; exact waits k) go
  | waiting key notReady waits rank going go =>
    exact .waiting key (by rwa [hr]) (fun k => (hw k).trans (waits k)) rank going go
  | done r eq notReady waits nothing post =>
    exact .done r eq (by rwa [hr]) (fun k => by rw [hw]; exact waits k) nothing post

/-- How a task stands that waits for a lock. -/
theorem Stands.of_waits {key : κ} (h : Stands P Post s lines g ready i t held)
    (hw : lines.Waits i key) : i ∉ ready ∧ (∀ k, lines.Waits i k ↔ k = key) ∧
      (P.Free key s (g.takers key) → ∀ s' g', P.Meanwhile i (key :: held) s (g ++ [(key, i)]) s' g' →
        t.Keeps P i (key :: held) s' g' (Ends Post i)) := by
  cases h with
  | ready _ waits _ => exact absurd hw (waits key)
  | waiting key' notReady waits _ _ go =>
    obtain rfl := (waits key).1 hw
    exact ⟨notReady, waits, go s g .refl⟩
  | done _ _ _ waits _ _ => exact absurd hw (waits key)

/-- Who is given the lock that it waits for is ready. -/
theorem Stands.woken {key : κ} {others : List Nat} (h : Stands P Post s lines g ready i t held)
    (hw : lines.Waits i key) (free : P.Free key s (g.takers key)) (once : lines.Once)
    (nodup : (i :: others).Nodup) : Stands P Post s (lines.setLine key (i :: others))
      (g ++ [(key, i)]) (ready ++ [i]) i t (key :: held) := by
  obtain ⟨-, only, go⟩ := h.of_waits hw
  refine .ready (by simp) (fun k => ?_) (go free)
  rw [Lines.waits_setLine once, only]
  rintro (⟨rfl, hmem⟩ | ⟨hne, heq⟩)
  · exact (List.nodup_cons.1 nodup).1 hmem
  · exact hne heq

end Stands

/-! ### Lines and what is free -/

section Ordered

variable {size i : Nat} {s : σ} {lines : Lines κ Nat} {g : Log κ} {ready members : List Nat} {key : κ}

/-- A line may become any other one, as long as nobody stands in it twice. -/
theorem Ordered.setLine (h : Ordered P size s lines g ready) (nodup : members.Nodup)
    (inside : ∀ i ∈ members, i < size) (free : members = [] → P.Free key s (g.takers key)) :
    Ordered P size s (lines.setLine key members) g ready where
  once := h.once.setLine
  nodup k := by
    by_cases hk : key = k
    · rwa [← hk, Lines.line_setLine_self h.once]
    · rw [Lines.line_setLine_of_ne hk]
      exact h.nodup k
  members k := by
    by_cases hk : key = k
    · rwa [← hk, Lines.line_setLine_self h.once]
    · rw [Lines.line_setLine_of_ne hk]
      exact h.members k
  ready_nodup := h.ready_nodup
  ready_lt := h.ready_lt
  log_lt := h.log_lt
  free k := by
    by_cases hk : key = k
    · rwa [← hk, Lines.line_setLine_self h.once]
    · rw [Lines.line_setLine_of_ne hk]
      exact h.free k

/-- A lock that is not free may have been obtained once more. -/
theorem Ordered.grant (h : Ordered P size s lines g ready) (held : lines.line key ≠ [])
    (inside : i < size) : Ordered P size s lines (g ++ [(key, i)]) ready := by
  refine ⟨h.once, h.nodup, h.members, h.ready_nodup, h.ready_lt, fun e he => ?_, fun k hk => ?_⟩
  · rcases List.mem_append.1 he with he | he
    · exact h.log_lt e he
    · rw [List.mem_singleton.1 he]
      exact inside
  · have hne : key ≠ k := by
      rintro rfl
      exact held hk
    rw [Log.takers_append, Log.takers_of_ne hne, List.append_nil]
    exact h.free k hk

theorem Ordered.wake (h : Ordered P size s lines g ready) (inside : i < size) (asleep : i ∉ ready) :
    Ordered P size s lines g (ready ++ [i]) := by
  refine ⟨h.once, h.nodup, h.members, ?_, fun j hj => ?_, h.log_lt, h.free⟩
  · refine List.nodup_append.2 ⟨h.ready_nodup, by simp, fun a ha b hb => ?_⟩
    rintro rfl
    exact asleep (List.mem_singleton.1 hb ▸ ha)
  · rcases List.mem_append.1 hj with hj | hj
    · exact h.ready_lt j hj
    · exact List.mem_singleton.1 hj ▸ inside

end Ordered

/-! ### Strokes of a task that runs -/

namespace Running

variable {tasks : List (Task κ σ α)} {i : Nat} {held : List κ} {s : σ} {lines : Lines κ Nat}
  {g : Log κ} {ready : List Nat} {next : Task κ σ α} {key : κ}

theorem write {s' : σ} (steady : Steady P Post)
    (h : Running P Post tasks i (.write s' next) held s lines g ready) :
    Running P Post tasks i next held s' lines g ready := by
  obtain ⟨changes, keeps⟩ := h.keeps
  refine ⟨⟨h.ordered.once, h.ordered.nodup, h.ordered.members, h.ordered.ready_nodup,
    h.ordered.ready_lt, h.ordered.log_lt, fun k hk => ?_⟩, h.inside, h.notReady, h.holding, h.waits, keeps, ?_⟩
  · have hfree : k ∉ held := by
      rw [h.holding]
      unfold Lines.Holds
      simp [hk]
    exact P.free_others (changes.others k hfree) changes.always (h.ordered.free k hk)
  · intro j u hj hu
    obtain ⟨held', hh, hs⟩ := h.stands j u hj hu
    refine ⟨held', hh, hs.meanwhile steady (changes.meanwhile fun k hk hk' => hj ?_)⟩
    exact ((hh k).1 hk).eq ((h.holding k).1 hk')

/-- A lock that is free is obtained at once. -/
theorem lock_free (steady : Steady P Post)
    (h : Running P Post tasks i (.lock key next) held s lines g ready)
    (free : lines.line key = []) :
    Running P Post tasks i next (key :: held) s (lines.join key i).1 (g ++ [(key, i)]) ready := by
  obtain ⟨-, keeps⟩ := h.keeps
  have once := h.ordered.once
  have hjoin : (lines.join key i).1 = lines.setLine key [i] := by
    rw [Lines.join, free, List.nil_append]
  have notHeld : ∀ j, ¬ lines.Holds j key := by simp [Lines.Holds, free]
  have hwaits : ∀ j k, (lines.setLine key [i]).Waits j k ↔ lines.Waits j k := fun j k =>
    Lines.waits_setLine_iff once (by simp [Lines.Waits, free])
  rw [hjoin]
  refine ⟨?_, h.inside, h.notReady, fun k => ?_, fun k => ?_, ?_, fun j u hj hu => ?_⟩
  · refine (h.ordered.setLine (by simp) (by simpa using h.inside) (by simp)).grant ?_ h.inside
    simp [Lines.line_setLine_self once]
  · rw [List.mem_cons, h.holding, Lines.holds_setLine once]
    by_cases hk : k = key <;> simp [hk]
  · rw [hwaits]
    exact h.waits k
  · exact keeps s g .refl (h.ordered.free key free) s _ .refl
  · obtain ⟨held', hh, hs⟩ := h.stands j u hj hu
    have hkey : key ∉ held' := fun hk => notHeld j ((hh key).1 hk)
    have hholds : ∀ k, (lines.setLine key [i]).Holds j k ↔ lines.Holds j k := fun k =>
      Lines.holds_setLine_iff once (by simp [notHeld, Ne.symm hj])
    exact ⟨held', fun k => (hh k).trans (hholds k).symm,
      (hs.meanwhile steady (P.meanwhile_grant hkey (Ne.symm hj))).congr (hwaits j) Iff.rfl⟩

/-- Who asks for a lock that is held joins its line. -/
theorem lock_held (h : Running P Post tasks i (.lock key next) held s lines g ready)
    (taken : lines.line key ≠ []) :
    Sound P Post ⟨s, tasks.set i next, ready, (lines.join key i).1⟩ g := by
  obtain ⟨⟨rank, going⟩, keeps⟩ := h.keeps
  have once := h.ordered.once
  have absent : i ∉ lines.line key := by
    intro hi
    rcases Lines.mem_line_iff.1 hi with hi | hi
    · exact absurd (rank key ((h.holding key).2 hi)) (Nat.lt_irrefl _)
    · exact h.waits key hi
  have hhead : (lines.line key ++ [i]).head? = (lines.line key).head? := by
    cases hl : lines.line key with
    | nil => exact absurd hl taken
    | cons a l => rfl
  have hholds : ∀ j k, (lines.join key i).1.Holds j k ↔ lines.Holds j k := fun j k =>
    Lines.holds_setLine_iff once (by rw [hhead, Lines.Holds])
  have hwaits : ∀ j k, (lines.join key i).1.Waits j k ↔ (j = i ∧ k = key) ∨ lines.Waits j k := by
    intro j k
    rw [Lines.join, Lines.waits_setLine once, List.tail_append_of_ne_nil taken]
    by_cases hk : k = key <;> simp [hk, Lines.Waits, or_comm]
  refine ⟨?_, fun j u hu => ?_⟩
  · show Ordered P (tasks.set i next).length _ _ _ _
    rw [List.length_set]
    refine h.ordered.setLine ?_ (fun j hj => ?_) (by simp)
    · refine List.nodup_append.2 ⟨h.ordered.nodup key, by simp, fun a ha b hb => ?_⟩
      rintro rfl
      exact absent (List.mem_singleton.1 hb ▸ ha)
    · rcases List.mem_append.1 hj with hj | hj
      · exact h.ordered.members key j hj
      · exact List.mem_singleton.1 hj ▸ h.inside
  · by_cases hj : i = j
    · subst hj
      rw [List.getElem?_set_self h.inside, Option.some.injEq] at hu
      subst hu
      refine ⟨held, fun k => (h.holding k).trans (hholds i k).symm, ?_⟩
      refine .waiting key h.notReady (fun k => ?_) rank going keeps
      rw [hwaits]
      simp [h.waits k]
    · rw [List.getElem?_set_ne hj] at hu
      obtain ⟨held', hh, hs⟩ := h.stands j u (Ne.symm hj) hu
      refine ⟨held', fun k => (hh k).trans (hholds j k).symm, hs.congr (fun k => ?_) Iff.rfl⟩
      rw [hwaits]
      simp [Ne.symm hj]

/-- A task that stops running leaves a pool in which every task stands. -/
theorem stop {t left : Task κ σ α} (h : Running P Post tasks i t held s lines g ready) (again : Bool)
    (stands : Stands P Post s lines g (ready ++ if again then [i] else []) i left held) :
    Sound P Post ⟨s, tasks.set i left, ready ++ if again then [i] else [], lines⟩ g := by
  refine ⟨?_, fun j u hu => ?_⟩
  · show Ordered P (tasks.set i left).length _ _ _ _
    rw [List.length_set]
    cases again with
    | false => simpa using h.ordered
    | true => exact h.ordered.wake h.inside h.notReady
  · by_cases hj : i = j
    · subst hj
      rw [List.getElem?_set_self h.inside, Option.some.injEq] at hu
      exact ⟨held, h.holding, hu ▸ stands⟩
    · rw [List.getElem?_set_ne hj] at hu
      obtain ⟨held', hh, hs⟩ := h.stands j u (Ne.symm hj) hu
      refine ⟨held', hh, hs.congr (fun _ => Iff.rfl) ?_⟩
      cases again <;> simp [Ne.symm hj]

/-- A lock for which nobody waits is free when it is given back. -/
theorem unlock_free (h : Running P Post tasks i (.unlock key next) held s lines g ready)
    (free : P.Free key s (g.takers key))
    (keeps : ∀ g', P.Meanwhile i (held.filter (· ≠ key)) s g s g' →
      next.Keeps P i (held.filter (· ≠ key)) s g' (Ends Post i))
    (alone : (lines.line key).tail = []) :
    Running P Post tasks i next (held.filter (· ≠ key)) s (lines.leave key).1 g ready := by
  have hkey := h.keeps.1
  have once := h.ordered.once
  have mine : lines.Holds i key := (h.holding key).1 hkey
  have hleave : (lines.leave key).1 = lines.setLine key [] := by rw [Lines.leave, alone]
  have hwaits : ∀ j k, (lines.setLine key []).Waits j k ↔ lines.Waits j k := fun j k =>
    Lines.waits_setLine_iff once (by simp [Lines.Waits, alone])
  rw [hleave]
  refine ⟨h.ordered.setLine (by simp) (by simp) fun _ => free, h.inside, h.notReady, fun k => ?_,
    fun k => ?_, keeps g .refl, fun j u hj hu => ?_⟩
  · rw [List.mem_filter, h.holding, Lines.holds_setLine once]
    by_cases hk : k = key <;> simp [hk]
  · rw [hwaits]
    exact h.waits k
  · obtain ⟨held', hh, hs⟩ := h.stands j u hj hu
    have notMine : ¬ lines.Holds j key := fun hjk => hj (hjk.eq mine)
    have hholds : ∀ k, (lines.setLine key []).Holds j k ↔ lines.Holds j k := fun k =>
      Lines.holds_setLine_iff once (by simp [notMine])
    exact ⟨held', fun k => (hh k).trans (hholds k).symm, hs.congr (hwaits j) Iff.rfl⟩

/-- A lock for which somebody waits goes to the first who does. -/
theorem unlock_handed (steady : Steady P Post)
    (h : Running P Post tasks i (.unlock key next) held s lines g ready)
    (free : P.Free key s (g.takers key))
    (keeps : ∀ g', P.Meanwhile i (held.filter (· ≠ key)) s g s g' →
      next.Keeps P i (held.filter (· ≠ key)) s g' (Ends Post i)) {j : Nat}
    {others : List Nat} (queue : (lines.line key).tail = j :: others) :
    Running P Post tasks i next (held.filter (· ≠ key)) s (lines.leave key).1 (g ++ [(key, j)])
      (ready ++ [j]) := by
  have hkey := h.keeps.1
  have once := h.ordered.once
  have mine : lines.Holds i key := (h.holding key).1 hkey
  have hline : lines.line key = i :: j :: others := by rw [mine.line_eq, queue]
  have hnodup : (i :: j :: others).Nodup := hline ▸ h.ordered.nodup key
  have hji : j ≠ i := by
    rintro rfl
    simp at hnodup
  have hleave : (lines.leave key).1 = lines.setLine key (j :: others) := by rw [Lines.leave, queue]
  have hheld : ∀ l, lines.Holds l key ↔ l = i := by simp [Lines.Holds, hline, eq_comm]
  have hqueue : ∀ l, lines.Waits l key ↔ l ∈ j :: others := by simp [Lines.Waits, hline]
  have hwaits : ∀ l k, l ≠ j → ((lines.setLine key (j :: others)).Waits l k ↔ lines.Waits l k) :=
    fun l k hl => Lines.waits_setLine_iff once (by simp [hqueue, hl])
  have hsize : j < tasks.length := h.ordered.members key j (by simp [hline])
  have hasleep : j ∉ ready := by
    obtain ⟨held', -, hs⟩ := h.stands j _ hji (List.getElem?_eq_getElem hsize)
    exact (hs.of_waits ((hqueue j).2 (by simp))).1
  rw [hleave]
  refine ⟨?_, h.inside, ?_, fun k => ?_, fun k => ?_, ?_, fun l u hl hu => ?_⟩
  · refine ((h.ordered.setLine ?_ (fun l hl => ?_) (by simp)).grant ?_ hsize).wake hsize hasleep
    · exact (List.nodup_cons.1 hnodup).2
    · exact h.ordered.members key l (by rw [hline]; exact List.mem_cons_of_mem i hl)
    · simp [Lines.line_setLine_self once]
  · simp [h.notReady, Ne.symm hji]
  · rw [List.mem_filter, h.holding, Lines.holds_setLine once]
    by_cases hk : k = key <;> simp [hk, hji]
  · rw [hwaits i k (Ne.symm hji)]
    exact h.waits k
  · refine keeps _ (P.meanwhile_grant ?_ hji)
    simp
  · obtain ⟨held', hh, hs⟩ := h.stands l u hl hu
    by_cases hlj : l = j
    · subst hlj
      refine ⟨key :: held', fun k => ?_, ?_⟩
      · rw [List.mem_cons, hh, Lines.holds_setLine once]
        by_cases hk : k = key <;> simp [hk]
      · exact hs.woken ((hqueue l).2 (by simp)) free once (List.nodup_cons.1 hnodup).2
    · have hkey : key ∉ held' := fun hk => hl ((hheld l).1 ((hh key).1 hk))
      have hholds : ∀ k, (lines.setLine key (j :: others)).Holds l k ↔ lines.Holds l k := fun k =>
        Lines.holds_setLine_iff once (by simp [hheld, hl, Ne.symm hlj])
      refine ⟨held', fun k => (hh k).trans (hholds k).symm, ?_⟩
      refine (hs.meanwhile steady (P.meanwhile_grant hkey (Ne.symm hlj))).congr
        (fun k => hwaits l k hlj) ?_
      simp [hlj]

end Running

/-! ### Turns and runs -/

/-- The pool behind a turn of the task of number `i`; `ready` were ready before. -/
def Turn.pool (r : Turn κ σ α) (tasks : List (Task κ σ α)) (i : Nat) (ready : List Nat) :
    Pool κ σ α where
  state := r.state
  tasks := tasks.set i r.left
  ready := ready ++ r.woken ++ (if r.again then [i] else [])
  lines := r.lines

/-- A task that gives back locks and stops with a fault does so in its next turn. -/
theorem Task.Fails.turn {t : Task κ σ α} (h : t.Fails) (i : Nat) (s : σ) (lines : Lines κ Nat)
    (woken : List Nat) : ∃ e, (t.turn i s lines woken).left = .done (.error e) := by
  induction t generalizing lines woken with
  | done r =>
    cases r with
    | ok a => exact h.elim
    | error e => exact ⟨e, rfl⟩
  | unlock key next ih => exact ih h _ _
  | read | write | lock | rest => exact h.elim

/-- The rest of a turn of a task that runs. -/
theorem Running.turn {tasks : List (Task κ σ α)} {i : Nat} {t : Task κ σ α} {held : List κ} {s : σ}
    {lines : Lines κ Nat} {g : Log κ} {ready woken : List Nat} (steady : Steady P Post)
    (h : Running P Post tasks i t held s lines g (ready ++ woken)) :
    Sound P Post ((t.turn i s lines woken).pool tasks i ready) (g ++ t.grants i s lines) ∨
      P.lenient ∧ ∃ e, (t.turn i s lines woken).left = .done (.error e) := by
  induction t generalizing held s lines g woken with
  | done r =>
    obtain ⟨rfl, post⟩ := h.keeps
    rw [Task.grants, List.append_nil]
    refine .inl ?_
    exact h.stop false (.done r rfl (by simpa using h.notReady) h.waits rfl post)
  | read next ih => exact ih s ⟨h.ordered, h.inside, h.notReady, h.holding, h.waits, h.keeps, h.stands⟩
  | write s' next ih => exact ih (h.write steady)
  | lock key next ih =>
    by_cases free : lines.line key = []
    · have hturn : (Task.lock key next).turn i s lines woken =
          next.turn i s (lines.join key i).1 woken := by simp [Task.turn, Lines.join, free]
      have hgrants : (Task.lock key next).grants i s lines =
          (key, i) :: next.grants i s (lines.join key i).1 := by
        simp [Task.grants, Lines.join, free]
      rw [hturn, hgrants, List.append_cons]
      exact ih (h.lock_free steady free)
    · have hturn : (Task.lock key next).turn i s lines woken =
          ⟨s, (lines.join key i).1, woken, next, false⟩ := by simp [Task.turn, Lines.join, free]
      have hgrants : (Task.lock key next).grants i s lines = [] := by
        simp [Task.grants, Lines.join, free]
      rw [hturn, hgrants, List.append_nil]
      exact .inl (by simpa [Turn.pool] using h.lock_held free)
  | unlock key next ih =>
    rcases h.keeps.2 with ⟨lenient, fails⟩ | ⟨hfree, keeps⟩
    · exact .inr ⟨lenient, fails.turn i s _ _⟩
    cases queue : (lines.line key).tail with
    | nil =>
      have hturn : (Task.unlock key next).turn i s lines woken =
          next.turn i s (lines.leave key).1 woken := by simp [Task.turn, Lines.leave, queue]
      have hgrants : (Task.unlock key next).grants i s lines =
          next.grants i s (lines.leave key).1 := by simp [Task.grants, Lines.leave, queue]
      rw [hturn, hgrants]
      exact ih (h.unlock_free hfree keeps queue)
    | cons j others =>
      have hturn : (Task.unlock key next).turn i s lines woken =
          next.turn i s (lines.leave key).1 (woken ++ [j]) := by simp [Task.turn, Lines.leave, queue]
      have hgrants : (Task.unlock key next).grants i s lines =
          (key, j) :: next.grants i s (lines.leave key).1 := by
        simp [Task.grants, Lines.leave, queue]
      rw [hturn, hgrants, List.append_cons g]
      have handed := h.unlock_handed steady hfree keeps queue
      rw [List.append_assoc] at handed
      exact ih handed
  | rest next ih =>
    rw [Task.grants, List.append_nil]
    exact .inl <| h.stop true (.ready (by simp) h.waits h.keeps)

/-- Some task has stopped with a fault. -/
def Pool.Faulted (p : Pool κ σ α) : Prop := ∃ (i : Nat) (e : Fault), p.tasks[i]? = some (.done (.error e))

theorem Pool.Faulted.turn {p : Pool κ σ α} (h : p.Faulted) (j : Nat) : (p.turn j).Faulted := by
  obtain ⟨i, e, hi⟩ := h
  refine ⟨i, e, ?_⟩
  unfold Pool.turn
  split
  · exact hi
  · rename_i t ht
    by_cases hj : j = i
    · subst hj
      rw [hi] at ht
      cases ht
      exact List.getElem?_set_self (List.getElem?_eq_some_iff.1 hi).1
    · exact (List.getElem?_set_ne hj).trans hi

/-- A turn keeps the protocol, unless it ends with a fault. -/
theorem Sound.turn (steady : Steady P Post) {p : Pool κ σ α} {g : Log κ} (h : Sound P Post p g)
    {i : Nat} (hi : i ∈ p.ready) :
    Sound P Post (p.turn i) (g ++ p.grants i) ∨ P.lenient ∧ (p.turn i).Faulted := by
  have hlt : i < p.tasks.length := h.ordered.ready_lt i hi
  have ht : p.tasks[i]? = some p.tasks[i] := List.getElem?_eq_getElem hlt
  obtain ⟨held, holding, stands⟩ := h.stands i _ ht
  have hasleep : i ∉ p.ready.erase i := fun hmem =>
    (h.ordered.ready_nodup.mem_erase_iff.1 hmem).1 rfl
  have hkeeps : (∀ k, ¬ p.lines.Waits i k) ∧ p.tasks[i].Keeps P i held p.state g (Ends Post i) := by
    cases stands with
    | ready _ waits go => exact ⟨waits, go _ _ .refl⟩
    | waiting _ notReady _ _ _ _ => exact absurd hi notReady
    | done _ _ notReady _ _ _ => exact absurd hi notReady
  have running : Running P Post p.tasks i p.tasks[i] held p.state p.lines g (p.ready.erase i ++ []) := by
    rw [List.append_nil]
    refine ⟨⟨h.ordered.once, h.ordered.nodup, h.ordered.members, h.ordered.ready_nodup.erase i,
      fun j hj => h.ordered.ready_lt j (List.mem_of_mem_erase hj), h.ordered.log_lt,
      h.ordered.free⟩, hlt, hasleep, holding, hkeeps.1, hkeeps.2, fun j u hj hu => ?_⟩
    obtain ⟨held', hh, hs⟩ := h.stands j u hu
    exact ⟨held', hh, hs.congr (fun _ => Iff.rfl) (List.mem_erase_of_ne hj)⟩
  have hturn : p.turn i =
      (p.tasks[i].turn i p.state p.lines []).pool p.tasks i (p.ready.erase i) := by
    rw [Pool.turn, ht]
    rfl
  have hgrants : p.grants i = p.tasks[i].grants i p.state p.lines := by
    rw [Pool.grants, ht]
  rw [hturn, hgrants]
  refine (running.turn steady).imp_right fun ⟨lenient, e, hleft⟩ => ⟨lenient, i, e, ?_⟩
  rw [← hleft]
  exact List.getElem?_set_self hlt

theorem Pool.Run.faulted {p q : Pool κ σ α} {g : Log κ} (run : Pool.Run p g q) (h : p.Faulted) :
    q.Faulted := by
  induction run with
  | stop p => exact h
  | turn ready run ih => exact ih (h.turn _)

/-- Every run keeps the protocol, unless a task stops with a fault. -/
theorem Pool.Run.sound (steady : Steady P Post) {p q : Pool κ σ α} {g g' : Log κ}
    (run : Pool.Run p g' q) (h : Sound P Post p g) :
    Sound P Post q (g ++ g') ∨ P.lenient ∧ q.Faulted := by
  induction run generalizing g with
  | stop p => exact .inl (by rwa [List.append_nil])
  | turn ready run ih =>
    rw [← List.append_assoc]
    rcases h.turn steady ready with h | ⟨lenient, faulted⟩
    · exact ih h
    · exact .inr ⟨lenient, run.faulted faulted⟩

/-- Tasks that abide by a protocol, started together where every lock is free. -/
theorem sound_start {s : σ} {tasks : List (Task κ σ α)} (free : ∀ key, P.Free key s [])
    (keeps : ∀ i t, tasks[i]? = some t → ∀ s' g', P.Meanwhile i [] s [] s' g' →
      t.Keeps P i [] s' g' (Ends Post i)) : Sound P Post (Pool.start s tasks) [] := by
  refine ⟨⟨Lines.once_nil, by simp [Pool.start], by simp [Pool.start], List.nodup_range, ?_, by simp,
    fun key _ => free key⟩, fun i t ht => ⟨[], fun key => ?_, ?_⟩⟩
  · simp [Pool.start]
  · simp [Pool.start, Lines.Holds]
  · refine .ready ?_ (by simp [Pool.start, Lines.Waits]) (keeps i t ht)
    obtain ⟨hi, -⟩ := List.getElem?_eq_some_iff.1 ht
    simpa [Pool.start] using hi

/-! ### Pools that cannot go on -/

section Finished

variable {p : Pool κ σ α} {g : Log κ}

/-- The locks at which there are lines have ranks up to some bound. -/
theorem exists_rank_le (P : Protocol κ σ) (lines : Lines κ Nat) :
    ∃ bound, ∀ key, lines.line key ≠ [] → P.rank key ≤ bound := by
  have hlist : ∀ keys : List κ, ∃ bound, ∀ key ∈ keys, P.rank key ≤ bound := by
    intro keys
    induction keys with
    | nil => exact ⟨0, by simp⟩
    | cons key keys ih =>
      obtain ⟨bound, hb⟩ := ih
      refine ⟨max (P.rank key) bound, fun k hk => ?_⟩
      rcases List.mem_cons.1 hk with rfl | hk
      · exact Nat.le_max_left _ _
      · exact Nat.le_trans (hb k hk) (Nat.le_max_right _ _)
  obtain ⟨bound, hb⟩ := hlist (lines.map (·.1))
  refine ⟨bound, fun key hkey => hb key ?_⟩
  by_contra hmem
  exact hkey (Lines.line_eq_nil_of_not_mem hmem)

/-- A task that is done holds no lock and has what it was to give. -/
theorem Sound.of_done {i : Nat} {r : Except Fault α} (h : Sound P Post p g)
    (hi : p.tasks[i]? = some (.done r)) :
    Post i r p.state g ∧ ∀ key, ¬ p.lines.Holds i key := by
  obtain ⟨held, holding, stands⟩ := h.stands i _ hi
  have hends : Ends Post i r held p.state g := by
    cases stands with
    | ready _ _ go => exact go _ _ .refl
    | waiting _ _ _ _ going _ => exact absurd trivial going
    | done _ eq _ _ nothing post =>
      cases eq
      exact ⟨nothing, post⟩
  refine ⟨hends.2, fun key hkey => ?_⟩
  rw [← holding, hends.1] at hkey
  cases hkey

/-- No task that is not done can take a turn. -/
def Pool.Idle (p : Pool κ σ α) : Prop := ∀ i ∈ p.ready, ∃ r, p.tasks[i]? = some (.done r)

omit [DecidableEq κ] in
theorem Pool.idle_of_nil (h : p.ready = []) : p.Idle := by
  intro i hi
  rw [h] at hi
  cases hi

/-- If no task can go on then none waits: who holds the lock that is waited for would have to wait
for a lock of a higher rank, and so on. -/
theorem Sound.not_waits (h : Sound P Post p g) (idle : p.Idle) (i : Nat) (key : κ) :
    ¬ p.lines.Waits i key := by
  obtain ⟨bound, hb⟩ := exists_rank_le P p.lines
  have hwaits : ∀ n i key, bound < P.rank key + n → ¬ p.lines.Waits i key := by
    intro n
    induction n with
    | zero =>
      intro i key hn hw
      have hline : p.lines.line key ≠ [] := by
        rintro hnil
        simp [Lines.Waits, hnil] at hw
      have := hb key hline
      omega
    | succ n ih =>
      intro i key hn hw
      cases hline : p.lines.line key with
      | nil => simp [Lines.Waits, hline] at hw
      | cons j members =>
        have hj := h.ordered.members key j (by simp [hline])
        have hholds : p.lines.Holds j key := by simp [Lines.Holds, hline]
        obtain ⟨held, holding, stands⟩ := h.stands j _ (List.getElem?_eq_getElem hj)
        have hheld : key ∈ held := (holding key).2 hholds
        cases stands with
        | ready isReady _ _ =>
          obtain ⟨r, hr⟩ := idle j isReady
          exact (h.of_done hr).2 key hholds
        | waiting key' _ waits rank _ _ =>
          have := rank key hheld
          exact ih j key' (by omega) ((waits key').2 rfl)
        | done _ _ _ _ nothing _ => simp [nothing] at hheld
  exact hwaits (bound + 1) i key (by omega)

/-- Where all tasks are done, nobody stands at a lock. -/
theorem Sound.line_eq_nil (h : Sound P Post p g)
    (done : ∀ (i : Nat) (t : Task κ σ α), p.tasks[i]? = some t → ∃ r, t = .done r) (key : κ) :
    p.lines.line key = [] := by
  cases hline : p.lines.line key with
  | nil => rfl
  | cons i members =>
    have hi := h.ordered.members key i (by simp [hline])
    obtain ⟨r, hr⟩ := done i _ (List.getElem?_eq_getElem hi)
    have hdone : p.tasks[i]? = some (.done r) := hr ▸ List.getElem?_eq_getElem hi
    exact absurd (by simp [Lines.Holds, hline]) ((h.of_done hdone).2 key)

/-- A run that cannot go on has come to the end of all tasks. -/
theorem Sound.all_done (h : Sound P Post p g) (idle : p.Idle) (i : Nat) (t : Task κ σ α)
    (ht : p.tasks[i]? = some t) : ∃ r, t = .done r := by
  obtain ⟨held, holding, stands⟩ := h.stands i t ht
  cases stands with
  | ready isReady _ _ =>
    obtain ⟨r, hr⟩ := idle i isReady
    exact ⟨r, Option.some.inj (ht.symm.trans hr)⟩
  | waiting key _ waits _ _ _ => exact absurd ((waits key).2 rfl) (h.not_waits idle i key)
  | done r eq _ _ _ _ => exact ⟨r, eq⟩

/-- Then all tasks have what they were to give, and all locks are free. -/
theorem Sound.finished (h : Sound P Post p g) (idle : p.Idle) :
    (∀ i t, p.tasks[i]? = some t → ∃ r, t = .done r ∧ Post i r p.state g) ∧
      ∀ key, P.Free key p.state (g.takers key) := by
  have hdone := h.all_done idle
  refine ⟨fun i t ht => ?_, fun key => h.ordered.free key (h.line_eq_nil hdone key)⟩
  obtain ⟨r, rfl⟩ := hdone i t ht
  exact ⟨r, rfl, (h.of_done ht).1⟩

end Finished

end StoryState
