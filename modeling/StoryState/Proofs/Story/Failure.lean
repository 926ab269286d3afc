import StoryState.Proofs.Story.Deed

/-!
Deeds one after another over a store that may fail at any time. Between any two of them every scope
that is open and not marked is stored as it is, just as long as no deed that stops abandons a change
(`secure_iff_of_course`).
-/

namespace StoryState

open Script

/-! ### Deeds -/

/-- What can be done to a script. -/
inductive Deed where
  | operation (op : Operation)
  | initialise (c : Scope) (config : Option (Except Fault State))
  | putSnapshot (snap : Snapshot)
  | takeSnapshot
  | renameTags (overrides : Entries Value)
  /-- What only looks at the script. -/
  | look (f : Script → Except Fault Answer)

/-- The task of a deed. -/
def Deed.task : Deed → ScriptTask Answer
  | .operation op => op.task
  | .initialise c config => do
    let _ ← holding c (Script.initialise c config)
    return .nothing
  | .putSnapshot snap => do
    let _ ← Script.putSnapshot snap
    return .nothing
  | .takeSnapshot => do return .snapshot (← Script.takeSnapshot)
  | .renameTags overrides => do return .names (← Script.renameTags overrides)
  | .look f => do .ofExcept (f (← get))

/-- Arguments that a document can hold. -/
def Deed.Fit : Deed → Prop
  | .operation op => op.Fit
  | .initialise _ config => FitConfig config
  | .putSnapshot snap => snap.Fit
  | _ => True

section Deed

variable {d : Deed} {s s' : Script} {r : Except Fault Answer}

/-- A deed that goes through accounts for all scopes; one that stops has saved nothing of those for
which it does not. -/
theorem Deed.leaves (fit : d.Fit) (hs : Settled s) (hr : d.task.EndsIn Weather s r s') :
    Leaves s r s' := by
  cases d with
  | operation op => exact leaves_operation fit hs hr
  | initialise c config => exact leaves_map hr fun r s' hr => leaves_initialise fit hs hr
  | putSnapshot snap => exact leaves_map hr fun r s' hr => leaves_putSnapshot fit hs hr
  | takeSnapshot =>
    refine leaves_map hr fun r s' hr => ?_
    obtain rfl := endsIn_takeSnapshot hr
    exact hs.leaves r
  | renameTags overrides =>
    refine leaves_map hr fun r s' hr => ?_
    rcases Task.endsIn_bind.1 hr with ⟨_, s₁, h₁, hr⟩ | ⟨e, h₁, -⟩
    · obtain ⟨-, rfl⟩ := Task.endsIn_modify.1 h₁
      have hread := Task.endsIn_get.1 hr
      obtain ⟨-, rfl⟩ := Task.endsIn_done.1 hread
      have hnames : ∀ names c, Same c s { s with story := { s.story with names } } :=
        fun names c => ⟨by cases c <;> rfl, rfl⟩
      exact (hs.of_same (hnames _)).leaves r
    · obtain ⟨h, -⟩ := Task.endsIn_modify.1 h₁
      cases h
  | look f =>
    unfold Deed.task at hr
    have hread := Task.endsIn_get.1 hr
    obtain ⟨-, rfl⟩ := Task.endsIn_done.1 hread
    exact hs.leaves r

end Deed

/-! ### Courses -/

/-- A deed with the scripts before and after it. -/
structure Step where
  before : Script
  deed : Deed
  after : Script

/-- Deeds one after another, in any weather. A fault of a deed may be turned into an answer. -/
inductive Course : Script → List Step → Prop
  | stop (s : Script) : Course s []
  | deed {s s₁ s₂ : Script} {d : Deed} {r : Except Fault Answer} {steps : List Step}
    (weather : Weather s s₁) (ends : d.task.EndsIn Weather s₁ r s₂) (rest : Course s₂ steps) :
    Course s (⟨s₁, d, s₂⟩ :: steps)
  | tried {s s₁ s₂ : Script} {d : Deed} {f : Answer → Answer} {otherwise : Answer}
    {r : Except Fault Answer} {steps : List Step} (weather : Weather s s₁)
    (ends : (orElse (do return f (← d.task)) otherwise).EndsIn Weather s₁ r s₂)
    (rest : Course s₂ steps) : Course s (⟨s₁, d, s₂⟩ :: steps)
  | opened {s s₁ s₂ : Script} {c : Scope} {r : Except Fault (Option State)} {steps : List Step}
    (weather : Weather s s₁) (ends : (openedState c).EndsIn Weather s₁ r s₂)
    (rest : Course s₂ steps) : Course s (⟨s₁, .initialise c none, s₂⟩ :: steps)

/-- The deed has stopped with a fault. -/
def Step.Stopped (x : Step) : Prop := ∃ e, x.deed.task.EndsIn Weather x.before (.error e) x.after

namespace Script

variable {c : Scope} {s s' : Script}

/-- A change of a scope is abandoned: the scope is open and not marked, the store does not hold what
memory does, and memory does not hold what it did, or what it would have been opened with. -/
structure Abandons (c : Scope) (s s' : Script) : Prop where
  isOpen : (s'.story.cell c).isOpen = true
  unmarked : (s'.story.cell c).isDirty = false
  unstored : s'.storedState c ≠ some (s'.memory c)
  changed : if (s.story.cell c).isOpen = true then s'.memory c ≠ s.memory c
    else s.storedState c ≠ some (s'.memory c)

/-- A deed that stops leaves a scope accounted for unless it abandons a change of it. -/
theorem Stops.accounted (h : Stops c s s') (hs : Accounted c s) (kept : ¬ Abandons c s s') :
    Accounted c s' := by
  intro hopen hclean
  by_contra hunstored
  refine kept ⟨hopen, hclean, hunstored, ?_⟩
  split
  · rename_i hopen'
    intro hmemory
    rcases h with h | ⟨hclosed, -⟩
    · have hclean' : (s.story.cell c).isDirty = false := by
        cases hm : (s.story.cell c).isDirty with
        | false => rfl
        | true =>
          rw [h.marked hm] at hclean
          cases hclean
      refine hunstored ?_
      rw [storedState, h.payload, hmemory]
      exact hs hopen' hclean'
    · rw [hclosed] at hopen'
      cases hopen'
  · intro hstored
    rcases h with h | ⟨-, hnone⟩
    · refine hunstored ?_
      rw [storedState, h.payload]
      exact hstored
    · rw [hnone] at hstored
      cases hstored

/-- The script with a store that works. -/
def repaired (s : Script) : Script := { s with store := { s.store with outage := .none } }

/-- Every scope that is open and not marked is stored as it is. Once the store works, storing what is
marked leaves every open scope stored as it is; only a state too long to be written hinders that. -/
structure Secure (s : Script) : Prop where
  accounted : ∀ c, Accounted c s
  flushed : ∀ n s', flush.alone s.repaired = (.ok n, s') → ∀ c,
    s'.memory c = s.memory c ∧
      ((s'.story.cell c).isOpen = true → s'.storedState c = some (s'.memory c))
  hindered : ∀ e s', flush.alone s.repaired = (.error e, s') →
    ∃ c e, (s.memory c).payload = .error e

theorem Settled.secure (h : Settled s) : Secure s := by
  have hrepaired : Settled s.repaired := h.of_same fun c => ⟨rfl, rfl⟩
  have hends := Task.endsIn_alone (fun s => rfl) flush s.repaired
  refine ⟨h.accounted, fun n s' hrun c => ?_, fun e s' hrun => ?_⟩
  · rw [hrun] at hends
    obtain ⟨hstored, hclean⟩ := stored_flushAll hrepaired
      ((Task.endsIn_get.1 hends).mono fun _ _ => weather_of_eq)
    refine ⟨hstored.memory c, fun hopen => hstored.settled.accounted c hopen ?_⟩
    by_cases hmem : c ∈ s.repaired.story.dirtyScopes
    · exact hclean n rfl c hmem hopen
    · rw [(hstored.others c hmem).cell]
      by_contra hdirty
      exact hmem (mem_dirtyScopes (by simpa using hdirty))
  · rw [hrun] at hends
    obtain ⟨c, e', hc⟩ := unwritable_of_flushAll hrepaired rfl (Task.endsIn_get.1 hends)
    exact ⟨c, e', hc⟩

end Script

section Course

variable {s s₁ s₂ : Script} {d : Deed} {steps : List Step}

/-- A deed, whether it goes through or not, leaves the script settled unless it abandons a change. -/
theorem Step.settled {r : Except Fault Answer} (fit : d.Fit) (hs : Settled s)
    (ends : d.task.EndsIn Weather s r s₁)
    (kept : Step.Stopped ⟨s, d, s₁⟩ → ∀ c, ¬ Abandons c s s₁) : Settled s₁ := by
  have hleaves := d.leaves fit hs ends
  cases r with
  | ok a => exact hleaves.settled
  | error e =>
    refine ⟨hleaves.storable, fun c => ?_⟩
    rcases hleaves.stopped e rfl c with h | h
    · exact h
    · exact h.accounted (hs.accounted c) (kept ⟨e, ends⟩ c)

/-- Opening a scope to look at it does nothing, or it is opened and a fault is dropped. -/
theorem endsIn_openedState {c : Scope} {r : Except Fault (Option State)}
    (ends : (openedState c).EndsIn Weather s r s₁) :
    s₁ = s ∨ ∃ r, (Deed.initialise c none).task.EndsIn Weather s r s₁ := by
  replace ends := Task.endsIn_get.1 ends
  split at ends
  · refine .inr ?_
    rcases Task.endsIn_bind.1 ends with ⟨_, s₂, h, ends⟩ | ⟨e, h, -⟩
    · have hread := Task.endsIn_get.1 ends
      obtain ⟨-, rfl⟩ := Task.endsIn_done.1 hread
      obtain ⟨r₁, h, -⟩ := Task.endsIn_map.1 h
      obtain ⟨r₂, h, -⟩ := Task.endsIn_tryCatch.1 h
      obtain ⟨r₃, h, -⟩ := Task.endsIn_map.1 h
      exact ⟨_, Task.endsIn_map.2 ⟨r₃, h, rfl⟩⟩
    · obtain ⟨r₁, h, -⟩ := Task.endsIn_map.1 h
      obtain ⟨r₂, h, -⟩ := Task.endsIn_tryCatch.1 h
      obtain ⟨r₃, h, -⟩ := Task.endsIn_map.1 h
      exact ⟨_, Task.endsIn_map.2 ⟨r₃, h, rfl⟩⟩
  · have hread := Task.endsIn_get.1 ends
    exact .inl (Task.endsIn_done.1 hread).2

/-- In every course, all states between two deeds are secure just if no deed that stops abandons a
change of a scope. -/
theorem secure_iff_of_course (settled : Settled s) (fit : ∀ x ∈ steps, x.deed.Fit)
    (course : Course s steps) : (∀ x ∈ steps, Secure x.after) ↔
      ∀ x ∈ steps, x.Stopped → ∀ c, ¬ Abandons c x.before x.after := by
  refine ⟨fun h x hx _ c habandons => ?_, fun kept => ?_⟩
  · exact habandons.unstored ((h x hx).accounted c habandons.isOpen habandons.unmarked)
  · induction course with
    | stop s => simp
    | @deed s s₁ s₂ d r steps weather ends rest ih =>
      rw [List.forall_mem_cons] at fit kept ⊢
      have hsettled := Step.settled fit.1 (settled.weather weather) ends kept.1
      exact ⟨hsettled.secure, ih hsettled fit.2 kept.2⟩
    | @tried s s₁ s₂ d f otherwise r steps weather ends rest ih =>
      rw [List.forall_mem_cons] at fit kept ⊢
      obtain ⟨r₁, ends, -⟩ := Task.endsIn_tryCatch.1 ends
      obtain ⟨r₂, ends, -⟩ := Task.endsIn_map.1 ends
      have hsettled := Step.settled fit.1 (settled.weather weather) ends kept.1
      exact ⟨hsettled.secure, ih hsettled fit.2 kept.2⟩
    | @opened s s₁ s₂ c r steps weather ends rest ih =>
      rw [List.forall_mem_cons] at fit kept ⊢
      have hsettled : Settled s₂ := by
        rcases endsIn_openedState ends with rfl | ⟨r₁, ends⟩
        · exact settled.weather weather
        · exact Step.settled fit.1 (settled.weather weather) ends kept.1
      exact ⟨hsettled.secure, ih hsettled fit.2 kept.2⟩

/-- The steps of deeds that are left alone. -/
def stepsAlone (s : Script) : List Deed → List Step
  | [] => []
  | d :: ds => ⟨s, d, (d.task.alone s).2⟩ :: stepsAlone (d.task.alone s).2 ds

theorem course_stepsAlone (s : Script) (ds : List Deed) : Course s (stepsAlone s ds) := by
  induction ds generalizing s with
  | nil => exact .stop s
  | cons d ds ih =>
    exact .deed (weather_of_eq rfl) (Task.endsIn_alone (fun s => weather_of_eq rfl) d.task s) (ih _)

/-- The store refuses to save while a variable is registered. -/
theorem secure_iff_register_refused :
    (∀ x ∈ stepsAlone ⟨{ scriptId := none }, { outage := .savingAt "global" }⟩
        [.operation (.on .global (.registerVariable "x" (.text "number") (.int 1) none)),
          .operation .flush], Secure x.after) ↔
      ∀ x ∈ stepsAlone ⟨{ scriptId := none }, { outage := .savingAt "global" }⟩
        [.operation (.on .global (.registerVariable "x" (.text "number") (.int 1) none)),
          .operation .flush], x.Stopped → ∀ c, ¬ Abandons c x.before x.after := by
  refine secure_iff_of_course settled_fresh ?_ (course_stepsAlone _ _)
  simp [stepsAlone, Deed.Fit, Operation.Fit, ScopeCall.Fit]

end Course

/-! ### Changes that are abandoned -/

section Refused

variable {c : Scope} {s : Script}

theorem persist_refused (refuses : s.store.refuses c.storageKey = true) :
    ∃ e, (persist c).alone s = (.error e, s) := by
  show ∃ e, (Task.ofExcept (s.memory c).payload >>= _ : ScriptTask Unit).alone s = _
  rw [Task.alone_bind]
  cases (s.memory c).payload with
  | error e => exact ⟨e, rfl⟩
  | ok text =>
    refine ⟨.storage c.storageKey, ?_⟩
    show ((if s.store.refuses c.storageKey then throw (.storage c.storageKey) else _ :
      ScriptTask Unit) >>= _).alone s = _
    rw [if_pos refuses]
    rfl

/-- A change of an open scope that the store refuses to save stays in memory. -/
theorem edit_refused {g : State → Except Fault State} {state : State}
    (hopen : (s.story.cell c).isOpen = true) (refuses : s.store.refuses c.storageKey = true)
    (hg : g (s.memory c) = .ok state) : ∃ e, (edit c g).alone s = (.error e, s.setState c state) := by
  have hensure : (ensureOpen c).alone s = (.ok (), s) := by
    show (if !(s.story.cell c).isOpen then _ else _ : ScriptTask Unit).alone s = _
    rw [hopen]
    rfl
  obtain ⟨e, hpersist⟩ := persist_refused (s := s.setState c state) refuses
  refine ⟨e, ?_⟩
  unfold edit onOpen holding
  rw [Task.alone_holding, Task.alone_bind, hensure]
  show (Task.ofExcept (g (s.memory c)) >>= _ : ScriptTask Unit).alone s = _
  rw [hg]
  exact hpersist

/-- It is abandoned unless the scope was marked before. -/
theorem abandons_of_refused {g : State → Except Fault State} {state : State} (settled : Settled s)
    (hopen : (s.story.cell c).isOpen = true) (unmarked : (s.story.cell c).isDirty = false)
    (refuses : s.store.refuses c.storageKey = true) (hg : g (s.memory c) = .ok state)
    (changed : state ≠ s.memory c) : Abandons c s ((edit c g).alone s).2 := by
  obtain ⟨e, hedit⟩ := edit_refused hopen refuses hg
  rw [hedit]
  refine ⟨?_, ?_, ?_, ?_⟩
  · rw [cell_setState]
    exact hopen
  · rw [cell_setState]
    exact unmarked
  · rw [storedState, payload_setState, memory_setState]
    intro hstored
    exact changed (Option.some.inj (hstored.symm.trans (settled.accounted c hopen unmarked)))
  · rw [if_pos hopen, memory_setState]
    exact changed

theorem abandons_registerVariable {name : String} {declared literal v : Value}
    {branches : Option (List Branch)} (settled : Settled s)
    (hopen : (s.story.cell c).isOpen = true) (unmarked : (s.story.cell c).isDirty = false)
    (refuses : s.store.refuses c.storageKey = true)
    (hv : Value.ofLiteral (Kind.ofValue? declared) literal = .ok v)
    (fresh : Entries.get? name (s.memory c).vars = none) :
    Abandons c s ((registerVariable c name declared literal branches).alone s).2 := by
  have hstep : (do
      let value ← Value.ofLiteral (Kind.ofValue? declared) literal
      return { s.memory c with
        vars := (s.memory c).vars.put name
          { declared, value, isConditional := branches.isSome, branches } } : Except Fault State) =
      .ok { s.memory c with
        vars := (s.memory c).vars.put name
          { declared, value := v, isConditional := branches.isSome, branches } } := by
    rw [hv]
    rfl
  refine abandons_of_refused settled hopen unmarked refuses hstep fun heq => ?_
  have hget := congrArg (fun m : State => Entries.get? name m.vars) heq
  dsimp only at hget
  rw [Entries.get?_put_self, fresh] at hget
  cases hget

/-- A variable that is registered while the store refuses to save is not marked, and the store does
not hold it. -/
theorem not_accounted_register_refused :
    ∃ s₁ s₂ s₃ : Script, Course ⟨{ scriptId := none }, {}⟩
        [⟨⟨{ scriptId := none }, {}⟩, .initialise .global none, s₁⟩,
          ⟨s₂, .operation (.on .global (.registerVariable "x" (.text "number") (.int 1) none)), s₃⟩] ∧
      ¬ Accounted .global s₃ := by
  have refl : ∀ s, Weather s s := fun _ => weather_of_eq rfl
  have hopen := Task.endsIn_alone refl (Deed.initialise .global none).task ⟨{ scriptId := none }, {}⟩
  refine ⟨_, _, _, .deed (refl _) hopen (.deed ⟨.saving, rfl⟩ (Task.endsIn_alone refl _ _) (.stop _)),
    fun h => ?_⟩
  have hleaves := Deed.leaves (d := .initialise .global none) fitConfig_none settled_fresh hopen
  have hsettled := hleaves.settled.weather ⟨.saving, rfl⟩
  have hliteral : Value.ofLiteral (Kind.ofValue? (.text "number")) (.int 1) = .ok (.int 1) := rfl
  have habandons : Abandons .global _ ((registerVariable .global "x" (.text "number") (.int 1) none).alone
    _).2 := abandons_registerVariable hsettled rfl rfl rfl hliteral rfl
  exact habandons.unstored (h habandons.isOpen habandons.unmarked)

end Refused

end StoryState
