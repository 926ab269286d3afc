import StoryState.Proofs.Service.Errand
import StoryState.Service.Backup

/-!
Whatever is started together on a service, it never comes to a standstill (`Service.never_stuck`). The lock
for the opening of a script ranks below those of scopes, so who opens a story may go on to take these, one
at a time; nobody who holds the lock of a scope asks for another one.
-/

namespace StoryState

open Script

/-- Locks of openings rank below locks of scopes. -/
def ServiceLock.rank : ServiceLock → Nat
  | .opening _ => 0
  | .scope _ _ => 1

/-- The task takes the lock of an opening first, and then locks of scopes one at a time. -/
def ServiceTask.Orderly {α : Type} (t : ServiceTask α) : Prop := Task.Orderly ServiceLock.rank 0 t

namespace Service

open StoryState.Task.Orderly

variable {α : Type} {id : String} {number : Nat} {scope : Scope} {C : Scope → Prop} {t : ScriptTask α}

/-- A task on a story takes locks of scopes one at a time, whether or not a story is being opened. -/
theorem opening_orderly_onStory (ht : Made C false t) :
    Task.Orderly ServiceLock.rank 1 (onStory number t) := by
  have injective : ∀ name name', ServiceLock.scope number name = .scope number name' → name = name' := by
    intro name name' h
    injection h
  exact ht.orderly.within injective fun _ => rfl

theorem orderly_onStory (ht : Made C false t) : (onStory number t).Orderly :=
  (opening_orderly_onStory ht).mono (Nat.zero_le 1)

/-! ### Opening and dropping -/

theorem orderly_readConfig {n : Nat} : Task.Orderly ServiceLock.rank n (readConfig id) := by
  refine bind yield fun _ => get fun s => ?_
  split
  · exact done _
  · split <;> exact pure _

theorem orderly_openNew : Task.Orderly ServiceLock.rank 1 (openNew id) :=
  bind (get fun _ => bind (set _) fun _ => pure _) fun _ => bind orderly_readConfig fun _ =>
    bind (map (opening_orderly_onStory (made_tryOpen (Scope.openTo_some .global) _))) fun _ =>
      bind (map (opening_orderly_onStory (made_tryRegistrations (Scope.openTo_some .global) _))) fun _ =>
        bind (modify _) fun _ => pure _

theorem orderly_find : (find id).Orderly := by
  refine get fun s => ?_
  split
  · exact pure _
  · refine holding (Nat.le_refl 0) (get fun s => ?_)
    split
    · exact pure _
    · exact orderly_openNew

theorem orderly_onScript (ht : Made C false t) : (onScript id t).Orderly :=
  bind orderly_find fun _ => orderly_onStory ht

theorem orderly_drop : (drop id).Orderly := get fun _ => bind (set _) fun _ => pure _

theorem orderly_retire : (retire id).Orderly := by
  refine get fun s => ?_
  split
  · exact pure _
  · exact bind (map (outcome (orderly_onStory (made_flush Scope.openTo_none)))) fun _ => orderly_drop

theorem orderly_saveConfig (config : Value) : (saveConfig id config).Orderly :=
  bind yield fun _ => get fun _ => bind (set _) fun _ => ofExcept _

theorem orderly_reconfigure (config : Value) : (reconfigure id config).Orderly :=
  tryCatch (bind (orderly_saveConfig config) fun _ => bind (map orderly_retire) fun _ =>
    map (map orderly_find)) fun _ => pure _

theorem orderly_flushOpen : flushOpen.Orderly := by
  have hall : ∀ numbers, (flushStories numbers).Orderly := by
    intro numbers
    induction numbers with
    | nil => exact pure _
    | cons number numbers ih =>
      exact bind (map (outcome (orderly_onStory (made_flush Scope.openTo_none)))) fun _ => ih
  exact get fun s => hall _

theorem Errand.orderly (e : Errand) : e.task.Orderly := by
  cases e with
  | find id => exact map orderly_find
  | act id x => exact orderly_onScript x.made
  | retire id => exact map orderly_retire
  | drop id => exact map orderly_drop
  | dropAll => exact modify _
  | reconfigure id config => exact map (orderly_reconfigure config)
  | flushOpen => exact orderly_flushOpen
  | surroundings history files => exact modify _

/-! ### Requests -/

theorem orderly_renderMacros (text : String) : (renderMacros id scope text).Orderly :=
  bind orderly_find fun _ => get fun _ => orderly_onStory (made_renderMacros (Scope.openTo_some scope) _ text)

theorem orderly_tryMacros (text : String) : (tryMacros id scope text).Orderly :=
  tryCatch (orderly_renderMacros text) fun _ => pure _

theorem orderly_process (text : String) : (process id scope text).Orderly := by
  have hregister : ∀ number, (registerPart number scope text).Orderly := fun number =>
    tryCatch (map (orderly_onStory (made_carryOut (Scope.openTo_some scope) _))) fun _ => pure _
  have hcarry : ∀ number, (carryOut number scope text).Orderly := fun number =>
    bind (hregister number) fun _ =>
      bind (orderly_onStory (made_carryOut (Scope.openTo_some scope) _)) fun _ => get fun _ =>
        map (orderly_onStory (made_renderMacros (Scope.openTo_some scope) _ _))
  refine tryCatch (bind orderly_find fun number => get fun s => ?_) fun _ => pure _
  split
  · exact hcarry number
  · exact get fun _ => map (orderly_onStory (made_renderMacros (Scope.openTo_some scope) _ text))

theorem orderly_preview (text : String) : (preview id text).Orderly := by
  refine get fun s => ?_
  dsimp only
  split <;> exact map (orderly_tryMacros _)

theorem orderly_stateOf : (stateOf id scope).Orderly :=
  orderly_onScript (made_openedState (Scope.openTo_some scope))

theorem orderly_describe : (describe id scope).Orderly :=
  tryCatch (map orderly_stateOf) fun _ => pure _

theorem orderly_exportState : (exportState id).Orderly := by
  refine bind orderly_describe fun found => ?_
  cases found with
  | none => exact pure _
  | some v => exact map (ofExcept _)

theorem orderly_summary : (summary id scope).Orderly := by
  refine bind orderly_stateOf fun found => ?_
  cases found <;> exact ofExcept _

theorem Request.orderly (r : Request) : r.task.Orderly := by
  cases r with
  | errand e => exact e.orderly
  | openCharacter id character config => exact map (orderly_onScript (made_tryOpen (Scope.openTo_some _) _))
  | stateOf id scope => exact map orderly_stateOf
  | describe id scope => exact map orderly_describe
  | exportState id => exact map orderly_exportState
  | summary id scope => exact map orderly_summary
  | tryMacros id scope text => exact map (orderly_tryMacros text)
  | preview id text => exact map (orderly_preview text)
  | process id scope text => exact map (orderly_process text)

/-! ### Backups -/

theorem orderly_backUp (b : Backups) (time : Int) : (b.backUp time id number).Orderly :=
  tryCatch (bind (orderly_onStory (made_takeSnapshot Scope.openTo_none)) fun _ => bind yield fun _ => get fun _ =>
    bind (set _) fun _ => bind (ofExcept _) fun _ => bind (modify _) fun _ => pure _) fun _ => pure _

theorem orderly_backUpAll (b : Backups) : b.backUpAll.Orderly := by
  have heach : ∀ open_ (b : Backups), (b.backUpEach open_).Orderly := by
    intro open_
    induction open_ with
    | nil => exact fun b => pure _
    | cons entry more ih =>
      exact fun b => bind (orderly_backUp b _) fun _ => bind (ih _) fun _ => pure _
  refine get fun s => ?_
  generalize s.files.makeDirectory b.directory = made
  obtain ⟨_ | _, files⟩ := made
  · exact bind (set _) fun _ => heach _ b
  · exact bind (set _) fun _ => pure _

/-! ### What can be started together -/

/-- What can be started on a service: a request, an act on a story that has been found before, whether or
not it is still open, or a backup of all open stories. -/
inductive Work where
  | request (r : Request)
  | onStory (number : Nat) (x : Act)
  | backUpAll (b : Backups)

/-- The task of a piece of work. -/
def Work.task : Work → ServiceTask Unit
  | .request r => r.task
  | .onStory number x => Service.onStory number x.task
  | .backUpAll b => discard b.backUpAll

theorem Work.orderly (w : Work) : w.task.Orderly := by
  cases w with
  | request r => exact r.orderly
  | onStory number x => exact orderly_onStory x.made
  | backUpAll b => exact map (orderly_backUpAll b)

/-- Whatever work is started together, on whatever service, and in whatever order turns are taken: as long as
some of it is not done, a task that is not done can take a turn; and when all is done, with answers or with
faults, no lock is held. -/
theorem never_stuck {σ : Service} {works : List Work} {p : Pool ServiceLock Service Unit}
    {g : Log ServiceLock} (run : Pool.Run (Pool.start σ (works.map Work.task)) g p) :
    (¬ p.Finished → ∃ i ∈ p.ready, ∃ t, p.tasks[i]? = some t ∧ ¬ ∃ r, t = .done r) ∧
      (p.Finished → ∀ key, p.lines.isHeld key = false) := by
  have orderly : ∀ t ∈ works.map Work.task, t.Orderly := by
    intro t ht
    obtain ⟨w, -, rfl⟩ := List.mem_map.1 ht
    exact w.orderly
  exact Pool.Run.progress orderly run

/-- A story is asked for twice, given another configuration, dropped and backed up, while its global scope
and a character that shares its lock are worked on. -/
def bustle : List Work :=
  [.request (.errand (.find "s")), .request (.stateOf "s" (.character "global")),
    .request (.errand (.reconfigure "s" (.object []))), .onStory 0 (.deed (.operation .flush)),
    .onStory 0 (.deed .takeSnapshot), .backUpAll {}, .request (.errand (.retire "s")),
    .request (.errand (.find "s"))]

/-- All that is done in the end, and no lock is held. -/
theorem bustle_finished : let p := (Pool.start {} (bustle.map Work.task)).run
    p.Finished ∧ ∀ key, p.lines.isHeld key = false := by
  obtain ⟨g, run, idle⟩ := Pool.run_run (Pool.start {} (bustle.map Work.task))
  obtain ⟨goes, free⟩ := never_stuck run
  have finished : (Pool.start {} (bustle.map Work.task)).run.Finished := by
    by_contra unfinished
    obtain ⟨i, hi, -⟩ := goes unfinished
    rw [idle] at hi
    cases hi
  exact ⟨finished, free finished⟩

end Service

end StoryState
