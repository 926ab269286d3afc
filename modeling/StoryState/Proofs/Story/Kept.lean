import StoryState.Proofs.Directive.Brief
import StoryState.Proofs.Directive.System
import StoryState.Proofs.Story.Lasting
import StoryState.Proofs.Story.Replacing
import StoryState.Proofs.Story.Writable

/-!
Scripts that lose nothing when they are dropped. Every state of them that is open is stored as it is, or
marked and short enough to be written (`Script.Kept`); acts that go through keep this (`Kept.act`), and
then the store holds all that is known of each scope once what is marked has been stored (`alone_flush`).
-/

namespace StoryState

open Script

/-- The act comes to a fault, also if the fault is turned into an answer. -/
def Act.Stops (s : Script) : Act → Prop
  | .deed d | .tried d _ _ => ∃ e, (d.task.alone s).1 = .error e
  | .opened _ => False

namespace Script

open StoryState.Task

/-- Every scope that is open is stored as it is, or marked; and every state can be written. -/
structure Held (s : Script) : Prop where
  accounted : ∀ c, Accounted c s
  writable : Writable s

/-- The script of an id over a store that works, which can store all that is in memory and not stored. -/
structure Kept (id : String) (s : Script) : Prop where
  scriptId : s.story.scriptId = some id
  works : s.store.outage = .none
  settled : Settled s
  writable : Writable s

/-- What is known of a scope: its state in memory while it is open, else the one that the store holds. -/
def known? (c : Scope) (s : Script) : Option State :=
  if (s.story.cell c).isOpen then some (s.memory c) else s.storedState c

section Kept

variable {c : Scope} {id : String} {s s' : Script}

theorem Same.known? (h : Same c s s') : s'.known? c = s.known? c := by
  rw [Script.known?, Script.known?, h.cell, h.memory, storedState, storedState, h.payload]

theorem Kept.lasts (h : Kept id s) (lasts : Lasts s s') (settled : Settled s') (writable : Writable s') :
    Kept id s' := ⟨lasts.scriptId.trans h.scriptId, lasts.outage.trans h.works, settled, writable⟩

theorem lasts_alone {α : Type} {t : ScriptTask α} (h : t.Along Lasts) (s : Script) :
    Lasts s (t.alone s).2 := (h s).alone .refl .trans

/-! ### Acts -/

/-- What a deed that goes through leaves behind. -/
theorem Kept.deed (h : Kept id s) {d : Deed} (fit : d.Fit) {a : Answer}
    (hend : d.task.alone s = (.ok a, s')) : Kept id s' := by
  have hlasts := lasts_alone d.lasts s
  have hleaves := Deed.leaves fit h.settled (endsIn_alone (fun s => weather_of_eq rfl) d.task s)
  rw [hend] at hlasts hleaves
  exact h.lasts hlasts hleaves.settled (d.writable s a s' hend h.writable)

/-- What opening a scope leaves behind if it goes through. -/
theorem Kept.initialise (h : Kept id s) {config : Option (Except Fault State)} (fit : FitConfig config)
    {u : Unit} (hend : (Script.initialise c config).alone s = (.ok u, s')) : Kept id s' := by
  refine h.deed (d := .initialise c config) (a := .nothing) fit ?_
  show (Task.holding _ (Script.initialise c config) >>= fun _ => _ : ScriptTask Answer).alone s = _
  rw [alone_map, alone_holding, hend]
  rfl

/-- A scope that is opened without a configuration has what is known of it, or nothing. -/
theorem Kept.ensureOpen (h : Kept id s) (c : Scope) :
    ∃ s', (Script.ensureOpen c).alone s = (.ok (), s') ∧ Kept id s' ∧
      (s'.story.cell c).isOpen = true ∧ s'.memory c = (s.known? c).getD {} ∧ OnlyAt c s s' := by
  rw [alone_ensureOpen]
  cases hopen : (s.story.cell c).isOpen with
  | true =>
    refine ⟨s, rfl, h, hopen, ?_, .refl c s⟩
    rw [Script.known?, if_pos hopen]
    rfl
  | false =>
    obtain ⟨s', hend, hinstalls⟩ := installs_initialise (c := c) h.works
    refine ⟨s', hend, h.initialise fitConfig_none hend, hinstalls.isOpen, ?_, hinstalls.only⟩
    rw [hinstalls.memory, Script.known?, hopen]
    rfl

/-- An act keeps a script unless it stops and leaves something that is not held. -/
theorem Kept.act (h : Kept id s) {x : Act} (fit : x.Fit) (held : x.Stops s → Held (x.after s)) :
    Kept id (x.after s) := by
  have hdeed : ∀ d : Deed, d.Fit → ((∃ e, (d.task.alone s).1 = .error e) → Held (d.task.alone s).2) →
      Kept id (d.task.alone s).2 := by
    intro d fit held
    have hleaves := Deed.leaves fit h.settled (endsIn_alone (fun s => weather_of_eq rfl) d.task s)
    cases hend : (d.task.alone s).1 with
    | ok a => exact h.deed fit (Prod.ext hend rfl)
    | error e =>
      obtain ⟨accounted, writable⟩ := held ⟨e, hend⟩
      exact h.lasts (lasts_alone d.lasts s) ⟨hleaves.storable, accounted⟩ writable
  cases x with
  | deed d => exact hdeed d fit held
  | tried d f otherwise =>
    rw [Act.Stops, Act.after_tried] at held
    rw [Act.after_tried]
    exact hdeed d fit held
  | opened c =>
    obtain ⟨s', hend, hkept, -⟩ := h.ensureOpen c
    show Kept id ((openedState c).alone s).2
    rw [alone_openedState, hend]
    exact hkept

/-! ### Storing what is marked -/

theorem isOpen_of_state? (hglobal : s.story.global.isOpen = true)
    (h : (s.story.state? c).isSome = true) : (s.story.cell c).isOpen = true := by
  cases c with
  | global => exact hglobal
  | character id =>
    unfold Story.state? at h
    dsimp only at h
    split at h
    · assumption
    · cases h

/-- What is known of a scope is the same; it has not been opened or marked. -/
structure Clears (c : Scope) (s s' : Script) : Prop where
  known : s'.known? c = s.known? c
  opened : (s'.story.cell c).isOpen = true → (s.story.cell c).isOpen = true
  clean : (s.story.cell c).isDirty = false → (s'.story.cell c).isDirty = false

theorem Clears.refl (c : Scope) (s : Script) : Clears c s s := ⟨rfl, id, id⟩

theorem Clears.trans {s'' : Script} (h : Clears c s s') (h' : Clears c s' s'') : Clears c s s'' :=
  ⟨h'.known.trans h.known, h.opened ∘ h'.opened, h'.clean ∘ h.clean⟩

theorem Same.clears (h : Same c s s') : Clears c s s' := by
  refine ⟨h.known?, ?_, ?_⟩
  · rw [h.cell]
    exact id
  · rw [h.cell]
    exact id

/-- Storing what is marked goes through. -/
theorem alone_persistIfDirty_ok (h : Kept id s) (hglobal : s.story.global.isOpen = true) (c : Scope) :
    ∃ b s', (persistIfDirty c).alone s = (.ok b, s') ∧ Clears c s s' := by
  rw [alone_persistIfDirty, storeMarked, alone_get]
  dsimp only
  split
  · rename_i hmarked
    rw [Bool.and_eq_true] at hmarked
    have hopen := isOpen_of_state? hglobal hmarked.2
    have hstores : CanStore c s := (canStore_iff h.works).2 (h.writable.short hopen)
    obtain ⟨text, -, hend⟩ := alone_persist_of_canStore hstores
    rw [alone_map, hend]
    refine ⟨true, _, rfl, ?_, fun _ => hopen, fun _ => ?_⟩
    · rw [Script.known?, Script.known?, cell_markStored, memory_markStored, if_pos hopen]
      exact (if_pos hopen).symm
    · rw [cell_markStored]
  · exact ⟨false, s, rfl, .refl c s⟩

theorem clears_persistIfDirty (h : Kept id s) (hglobal : s.story.global.isOpen = true) (c : Scope) :
    ∃ b s', (persistIfDirty c).alone s = (.ok b, s') ∧ Kept id s' ∧ s'.story.global.isOpen = true ∧
      (∀ d, Clears d s s') ∧ ((s'.story.cell c).isOpen = true → (s'.story.cell c).isDirty = false) := by
  obtain ⟨b, s', hend, hclears⟩ := alone_persistIfDirty_ok h hglobal c
  have hstored := stored_persistIfDirty h.settled
    (endsIn_alone (fun s => weather_of_eq rfl) (persistIfDirty c) s)
  have hlasts := lasts_alone (lasts_persistIfDirty (c := c)) s
  rw [hend] at hstored hlasts
  obtain ⟨⟨hsettled, -, hothers⟩, hunmarked, -⟩ := hstored
  have hkept := h.lasts hlasts hsettled (writable_persistIfDirty s b s' hend h.writable)
  refine ⟨b, s', hend, hkept, hlasts.isOpen hglobal, fun d => ?_, hunmarked b rfl⟩
  by_cases hd : d = c
  · exact hd ▸ hclears
  · exact (hothers d hd).clears

theorem clears_flushAll (h : Kept id s) (hglobal : s.story.global.isOpen = true) (scopes : List Scope) :
    ∃ n s', (flushAll scopes).alone s = (.ok n, s') ∧ Kept id s' ∧ (∀ d, Clears d s s') ∧
      ∀ c ∈ scopes, (s'.story.cell c).isOpen = true → (s'.story.cell c).isDirty = false := by
  induction scopes generalizing s with
  | nil => exact ⟨0, s, rfl, h, fun d => .refl d s, by simp⟩
  | cons c scopes ih =>
    obtain ⟨b, s₁, hfirst, hkept, hglobal₁, hclears, hclean⟩ := clears_persistIfDirty h hglobal c
    obtain ⟨n, s', hrest, hkept', hclears', hclean'⟩ := ih hkept hglobal₁
    refine ⟨n + if b then 1 else 0, s', ?_, hkept', fun d => (hclears d).trans (hclears' d), ?_⟩
    · show (persistIfDirty c >>= fun _ => _ : ScriptTask Nat).alone s = _
      rw [alone_bind, hfirst]
      dsimp only
      rw [alone_map, hrest]
      rfl
    · intro d hd hopen
      rcases List.mem_cons.1 hd with rfl | hd
      · exact (hclears' d).clean (hclean ((hclears' d).opened hopen))
      · exact hclean' d hd hopen

/-- Storing all that is marked goes through, and then the store holds what was known of each scope. -/
theorem alone_flush (h : Kept id s) (hglobal : s.story.global.isOpen = true) :
    ∃ n s', flush.alone s = (.ok n, s') ∧ Kept id s' ∧ ∀ c, s'.storedState c = s.known? c := by
  obtain ⟨n, s', hend, hkept, hclears, hclean⟩ := clears_flushAll h hglobal s.story.dirtyScopes
  refine ⟨n, s', hend, hkept, fun c => ?_⟩
  rw [← (hclears c).known, Script.known?]
  cases hopen : (s'.story.cell c).isOpen with
  | false => rfl
  | true =>
    have hunmarked : (s'.story.cell c).isDirty = false := by
      cases hdirty : (s.story.cell c).isDirty with
      | true => exact hclean c (mem_dirtyScopes hdirty) hopen
      | false => exact (hclears c).clean hdirty
    exact hkept.settled.accounted c hopen hunmarked

/-! ### Opening and registering -/

/-- A configuration that gives a state gives one that can be stored. -/
structure GoodConfig (config : Option (Except Fault State)) : Prop where
  fit : FitConfig config
  short : ∀ m, config = some (.ok m) → m.Short

/-- A scope is opened from a configuration that gives a state. -/
theorem Kept.installs_config (h : Kept id s) {m : State} (good : GoodConfig (some (.ok m))) :
    ∃ s', (Script.initialise c (some (.ok m))).alone s = (.ok (), s') ∧ Installs c m s s' := by
  have hstores : CanStore c (openWith c m s) := by
    refine (canStore_iff (by exact h.works)).2 ?_
    rw [memory_openWith]
    exact good.short m rfl
  obtain ⟨s', hend, hinstalls⟩ := installs_persist (good.fit m rfl) hstores
  refine ⟨s', ?_, hinstalls⟩
  unfold Script.initialise
  dsimp only
  rw [alone_ofExcept]
  dsimp only
  rw [alone_modify, hend]

theorem alone_tryOpen_snd (config : Option (Except Fault State)) :
    ((Script.tryOpen c config).alone s).2 = ((Script.initialise c config).alone s).2 := by
  unfold Script.tryOpen orElse holding
  rw [alone_tryCatch, alone_map, alone_holding]

/-- A script is kept when a scope is opened, also if the configuration gives no state. -/
theorem Kept.tryOpen (h : Kept id s) {config : Option (Except Fault State)} (good : GoodConfig config) :
    Kept id ((Script.tryOpen c config).alone s).2 := by
  rw [alone_tryOpen_snd]
  rcases config with _ | e | m
  · obtain ⟨s', hend, -⟩ := installs_initialise (c := c) h.works
    rw [hend]
    exact h.initialise fitConfig_none hend
  · exact h
  · obtain ⟨s', hend, -⟩ := h.installs_config (c := c) good
    rw [hend]
    exact h.initialise good.fit hend

/-- A state that is short enough to be written is stored. -/
theorem alone_persist_of_short (works : s.store.outage = .none) {m : State} (short : m.Short) :
    ∃ s', (persist c).alone (s.setState c m) = (.ok (), s') ∧
      (s'.story.cell c).isOpen = (s.story.cell c).isOpen ∧ s'.memory c = m := by
  have hstores : CanStore c (s.setState c m) := by
    refine (canStore_iff (by exact works)).2 ?_
    rwa [memory_setState]
  obtain ⟨_, -, hend⟩ := alone_persist_of_canStore hstores
  refine ⟨_, hend, ?_, ?_⟩
  · rw [cell_markStored]
    show ((s.setState c m).story.cell c).isOpen = _
    rw [cell_setState]
  · rw [memory_markStored]
    exact memory_setState

/-- A change that makes another state of what is known of a scope goes through. -/
theorem Kept.edit (h : Kept id s) {f : State → Except Fault State} {m : State}
    (hf : f ((s.known? c).getD {}) = .ok m) (short : m.Short) :
    ∃ s', (Script.edit c f).alone s = (.ok (), s') ∧ s'.memory c = m := by
  obtain ⟨s₁, hopen, hkept, -, hmemory, -⟩ := h.ensureOpen c
  obtain ⟨s', hend, -, hmemory'⟩ := alone_persist_of_short (c := c) hkept.works short
  refine ⟨s', ?_, hmemory'⟩
  rw [alone_edit hopen, hmemory, hf]
  exact hend

/-- A brief text of registrations is carried out on what is known of a scope, and this is stored. -/
theorem Kept.register (h : Kept id s) (c : Scope) {text : String}
    (brief : (Text.decodeEntities text.toList).length ≤ Number.digitLimit) :
    ∃ result s', (Script.applyRegistrations c text).alone s = (.ok result, s') ∧ Kept id s' ∧
      (s'.story.cell c).isOpen = true ∧ OnlyAt c s s' ∧
      s'.memory c = (((s.known? c).getD {}).applyRegistrations s.story.names text).2 := by
  obtain ⟨s₁, hopen, hkept, hisOpen, hmemory, honly⟩ := h.ensureOpen c
  obtain ⟨⟨result, hresult⟩, hshort⟩ :=
    (hkept.writable.short hisOpen).applyRegistrations s₁.story.names brief
  obtain ⟨m, hm⟩ : ∃ m, ((s₁.memory c).applyRegistrations s₁.story.names text) = (.ok result, m) :=
    ⟨_, Prod.ext hresult rfl⟩
  rw [hm] at hshort
  have hrun : (carryOut c (State.applyRegistrations · text)).alone s = _ := alone_carryOut hopen
  have hends : ∃ s', (Script.applyRegistrations c text).alone s = (.ok result, s') ∧
      (s'.story.cell c).isOpen = true ∧ s'.memory c = m := by
    unfold Script.applyRegistrations
    rw [hrun, hm]
    dsimp only
    split
    · obtain ⟨s', hend, hisOpen', hmemory'⟩ := alone_persist_of_short (c := c) hkept.works hshort
      rw [alone_map, hend]
      exact ⟨s', rfl, hisOpen'.trans hisOpen, hmemory'⟩
    · exact ⟨_, rfl, (congrArg Cell.isOpen cell_setState).trans hisOpen, memory_setState⟩
  obtain ⟨s', hend, hisOpen', hmemory'⟩ := hends
  have hcall : ((ScopeCall.applyRegistrations text).task c).alone s = (.ok (.batch result), s') := by
    show (Script.applyRegistrations c text >>= fun r => pure (Answer.batch r)).alone s = _
    rw [alone_map, hend]
    rfl
  have honly' := ((ScopeCall.applyRegistrations text).guarded c).onlyAt s
  rw [hcall] at honly'
  refine ⟨result, s', hend, ?_, hisOpen', honly', ?_⟩
  · exact h.deed (d := .operation (.on c (.applyRegistrations text))) trivial hcall
  · rw [hmemory', honly.1.names, ← hmemory, hm]

/-- A script whose global scope is opened from a configuration, and in which the variables that every script
has are registered. -/
def begun (config : Option (Except Fault State)) (s : Script) : Script :=
  ((tryRegistrations .global systemDirective).alone ((Script.tryOpen .global config).alone s).2).2

/-- A story that is begun is kept, its global scope is open, and the variables that every script has are
registered. -/
theorem Kept.begun (h : Kept id s) {config : Option (Except Fault State)} (good : GoodConfig config) :
    Kept id (s.begun config) ∧ (s.begun config).story.global.isOpen = true ∧
      ∃ m : State, (s.begun config).memory .global =
        (m.applyRegistrations s.story.names systemDirective).2 := by
  obtain ⟨result, s', hend, hkept, hopen, -, hmemory⟩ :=
    (h.tryOpen (c := .global) good).register .global brief_systemDirective
  have hrun : s.begun config = s' := by
    unfold Script.begun tryRegistrations orElse
    rw [alone_tryCatch, alone_map, hend]
  have hnames : ((Script.tryOpen .global config).alone s).2.story.names = s.story.names := by
    rw [alone_tryOpen_snd]
    exact ((local_initialise (c := .global) config).onlyAt s).1.names.symm
  rw [hnames] at hmemory
  rw [hrun]
  exact ⟨hkept, hopen, _, hmemory⟩

/-- Once the global scope has been opened with a state, it is that state in which the variables are registered,
and nothing else is done. -/
theorem begun_of_installs (h : Kept id s) {config : Option (Except Fault State)} (fit : FitConfig config)
    {m : State} (hfirst : (Script.initialise .global config).alone s = (.ok (), s'))
    (hinstalls : Installs .global m s s') :
    (s.begun config).memory .global = (m.applyRegistrations s.story.names systemDirective).2 ∧
      OnlyAt .global s (s.begun config) := by
  obtain ⟨result, s₁, hend, -, -, honly, hmemory⟩ :=
    (h.initialise fit hfirst).register .global brief_systemDirective
  have hrun : s.begun config = s₁ := by
    unfold Script.begun tryRegistrations orElse
    rw [alone_tryOpen_snd, hfirst, alone_tryCatch, alone_map, hend]
  rw [hrun]
  refine ⟨?_, hinstalls.only.trans honly⟩
  rw [hmemory, Script.known?, if_pos hinstalls.isOpen, hinstalls.memory, hinstalls.only.1.names]
  rfl

/-- Without a configuration all that is known of the scopes is taken over, but for the variables that are
registered. -/
theorem known?_begun (h : Kept id s) (closed : s.story.global.isOpen = false) :
    (s.begun none).memory .global =
        (((s.known? .global).getD {}).applyRegistrations s.story.names systemDirective).2 ∧
      ∀ c, c ≠ .global → (s.begun none).known? c = s.known? c := by
  obtain ⟨s₁, hfirst, hinstalls⟩ := installs_initialise (c := .global) h.works
  obtain ⟨hmemory, honly⟩ := begun_of_installs h fitConfig_none hfirst hinstalls
  refine ⟨?_, fun c hc => (honly.2 c hc).same.known?⟩
  rw [hmemory, Script.known?, if_neg (by rw [Story.cell, closed]; decide)]

/-- A configuration that gives a state gives the one in which the variables are registered. -/
theorem Kept.memory_begun (h : Kept id s) {m : State} (good : GoodConfig (some (.ok m))) :
    (s.begun (some (.ok m))).memory .global = (m.applyRegistrations s.story.names systemDirective).2 := by
  obtain ⟨s₁, hfirst, hinstalls⟩ := h.installs_config (c := .global) good
  exact (begun_of_installs h good.fit hfirst hinstalls).1

end Kept

end Script

end StoryState
