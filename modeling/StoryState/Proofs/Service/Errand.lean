import StoryState.Proofs.Service.Standing

/-!
What can be asked of a service. An errand is a step: looking for a story, an act on it, dropping it. If an act
on the story of a script goes through, or stops and leaves nothing that is neither stored nor marked, the
story can still be dropped without a loss (`Service.Kept.errand`). A request that takes some errands leaves
behind what they do one after another (`Service.Request.after_eq`).
-/

namespace StoryState

open Script StoryState.Task

/-! ### Errands -/

/-- The task of an act. -/
def Act.task : Act → ScriptTask Unit
  | .deed d => discard d.task
  | .tried d f otherwise => discard (orElse (do return f (← d.task)) otherwise)
  | .opened c => discard (openedState c)

theorem Act.alone_task (x : Act) (s : Script) : (x.task.alone s).2 = x.after s := by
  cases x <;> exact congrArg Prod.snd alone_discard

/-- The scope to which an act is done, if it is done to one. -/
def Act.scope? : Act → Option Scope
  | .deed d | .tried d _ _ => d.scope?
  | .opened c => some c

/-- An act that is done to one scope writes to that one only, and asks for no lock but that of this one. -/
theorem Act.made (x : Act) : Made (Scope.OpenTo x.scope?) false x.task := by
  cases x with
  | deed d => exact .map d.made
  | tried d f otherwise => exact .map (.orElse (.map d.made))
  | opened c => exact .map (made_openedState (Scope.openTo_some c))

namespace Service

/-- What can be asked of a service. -/
inductive Errand where
  | find (id : String)
  /-- Something is done to the story of a script, which is opened if it is not open. -/
  | act (id : String) (x : Act)
  | retire (id : String)
  | drop (id : String)
  | dropAll
  | reconfigure (id : String) (config : Value)
  | flushOpen
  /-- The history and the files change. -/
  | surroundings (history : History) (files : Files)

namespace Errand

/-- The task of an errand. -/
def task : Errand → ServiceTask Unit
  | .find id => discard (Service.find id)
  | .act id x => onScript id x.task
  | .retire id => discard (Service.retire id)
  | .drop id => discard (Service.drop id)
  | .dropAll => Service.dropAll
  | .reconfigure id config => discard (Service.reconfigure id config)
  | .flushOpen => Service.flushOpen
  | .surroundings history files => modify fun σ => { σ with history, files }

/-- What an errand leaves behind. -/
def after (e : Errand) (σ : Service) : Service := (e.task.alone σ).2

/-- What is done to the story of a script has arguments that a document can hold; and if it stops midway, it
leaves nothing that is neither stored nor marked, and nothing that is too long to be written. -/
def Sound (id : String) (σ : Service) : Errand → Prop
  | .act key x => key = id → x.Fit ∧ ∀ number σ', (Service.find key).alone σ = (.ok number, σ') →
      x.Stops (σ'.script number) → (x.after (σ'.script number)).Held
  | _ => True

/-- What errands leave behind, one after another. -/
def afterAll : List Errand → Service → Service
  | [], σ => σ
  | e :: es, σ => afterAll es (e.after σ)

/-- All errands are sound for the story of a script when their turn comes. -/
def AllSound (id : String) : List Errand → Service → Prop
  | [], _ => True
  | e :: es, σ => e.Sound id σ ∧ AllSound id es (e.after σ)

end Errand

variable {id key : String} {number : Nat} {σ σ' : Service}

/-! ### What errands keep -/

theorem Kept.drop (h : Kept id σ) (key : String) :
    Kept id { σ with openStories := σ.openStories.erase key } where
  once := h.once.erase key
  works := h.works
  inPlace key' n hn := h.inPlace key' n (Entries.get?_of_erase hn)

/-- Storing what is marked of an open story, also if that stops midway. -/
theorem alone_flushStory : (discard (onStory number Script.flush).outcome).alone σ =
    (.ok (), ((onStory number Script.flush).alone σ).2) := by
  rw [alone_discard, outcome, alone_andThen]
  rfl

theorem Kept.flush (h : Kept id σ) (hopen : Entries.get? key σ.openStories = some number) :
    Kept id ((Service.onStory number Script.flush).alone σ).2 := by
  refine h.onStory hopen lasts_flush fun hkey => ?_
  subst hkey
  obtain ⟨n, s', hend, hkept, -⟩ := alone_flush (h.script hopen) (h.isOpen hopen)
  rw [hend]
  exact hkept

theorem Kept.retire (h : Kept id σ) (key : String) : Kept id ((Service.retire key).alone σ).2 := by
  unfold Service.retire
  rw [alone_get]
  cases hopen : Entries.get? key σ.openStories with
  | none => exact h
  | some number =>
    dsimp only
    rw [alone_bind, alone_flushStory]
    exact (h.flush hopen).drop key

theorem Kept.reconfigure (h : Kept id σ) (key : String) (config : Value) :
    Kept id ((Service.reconfigure key config).alone σ).2 := by
  unfold Service.reconfigure
  rw [alone_tryCatch]
  have hsave : Kept id ((saveConfig key config).alone σ).2 := ⟨h.once, h.works, h.inPlace⟩
  have hretire : Kept id ((discard (Service.retire key)).alone ((saveConfig key config).alone σ).2).2 := by
    rw [alone_discard]
    exact hsave.retire key
  refine alone_bind_holds hsave fun _ _ => alone_bind_holds hretire fun _ _ => ?_
  refine alone_bind_holds ?_ fun _ _ => ?_
  all_goals
    rw [alone_discard]
    exact hretire.find key

theorem Kept.flushStories (h : Kept id σ) {numbers : List Nat}
    (hopen : ∀ n ∈ numbers, ∃ key, Entries.get? key σ.openStories = some n) :
    Kept id ((Service.flushStories numbers).alone σ).2 := by
  induction numbers generalizing σ with
  | nil => exact h
  | cons number numbers ih =>
    obtain ⟨key, hnumber⟩ := hopen number List.mem_cons_self
    unfold Service.flushStories
    rw [alone_bind, alone_flushStory]
    refine ih (h.flush hnumber) fun n hn => ?_
    rw [(onlyStory_onStory (h.lt hnumber) lasts_flush).rest]
    exact hopen n (List.mem_cons_of_mem _ hn)

/-- Every errand that is sound for the story of a script keeps it. -/
theorem Kept.errand (h : Kept id σ) {e : Errand} (sound : e.Sound id σ) : Kept id (e.after σ) := by
  unfold Errand.after Errand.task
  cases e with
  | find key =>
    dsimp only
    rw [alone_discard]
    exact h.find key
  | act key x =>
    have hkept := h.find key
    refine alone_bind_holds hkept fun number hend => ?_
    have hnumber := get?_find hend
    refine hkept.onStory hnumber x.made.lasts fun hkey => ?_
    obtain ⟨fit, held⟩ := sound hkey
    subst hkey
    rw [x.alone_task]
    exact (hkept.script hnumber).act fit (held number _ hend)
  | retire key =>
    dsimp only
    rw [alone_discard]
    exact h.retire key
  | drop key => exact h.drop key
  | dropAll => exact ⟨Entries.once_nil, h.works, fun _ _ hn => nomatch hn⟩
  | reconfigure key config =>
    dsimp only
    rw [alone_discard]
    exact h.reconfigure key config
  | flushOpen =>
    refine h.flushStories fun number hnumber => ?_
    obtain ⟨⟨key, _⟩, hmem, rfl⟩ := List.mem_map.1 hnumber
    exact ⟨key, Entries.get?_of_mem h.once hmem⟩
  | surroundings history files => exact ⟨h.once, h.works, h.inPlace⟩

theorem Kept.errands (h : Kept id σ) {es : List Errand} (sound : Errand.AllSound id es σ) :
    Kept id (Errand.afterAll es σ) := by
  induction es generalizing σ with
  | nil => exact h
  | cons e es ih => exact ih (h.errand sound.1) sound.2

/-! ### Requests -/

/-- What can be asked of a service: an errand, or what takes some. -/
inductive Request where
  | errand (e : Errand)
  | openCharacter (id character : String) (config : Value)
  | stateOf (id : String) (scope : Scope)
  | describe (id : String) (scope : Scope)
  | exportState (id : String)
  | summary (id : String) (scope : Scope)
  | tryMacros (id : String) (scope : Scope) (text : String)
  | preview (id text : String)
  | process (id : String) (scope : Scope) (text : String)

namespace Request

/-- The task of a request. -/
def task : Request → ServiceTask Unit
  | .errand e => e.task
  | .openCharacter id character config => discard (Service.openCharacter id character config)
  | .stateOf id scope => discard (Service.stateOf id scope)
  | .describe id scope => discard (Service.describe id scope)
  | .exportState id => discard (Service.exportState id)
  | .summary id scope => discard (Service.summary id scope)
  | .tryMacros id scope text => discard (Service.tryMacros id scope text)
  | .preview id text => discard (Service.preview id text)
  | .process id scope text => discard (Service.process id scope text)

/-- What a request leaves behind. -/
def after (r : Request) (σ : Service) : Service := (r.task.alone σ).2

/-- What requests leave behind, one after another. -/
def afterAll (rs : List Request) (σ : Service) : Service := rs.foldl (fun σ r => r.after σ) σ

/-- Reading the macros of a text. -/
def reading (history : History) (scope : Scope) (text : String) : Act :=
  .deed (.operation (.renderMacros history scope text))

/-- The errands of a text with directives, which go on until one stops. -/
def carrying (id : String) (number : Nat) (scope : Scope) (text : String) (σ : Service) : List Errand :=
  .act id (.deed (.operation (.on scope (.applyRegistrations text)))) ::
    match (registerPart number scope text).alone σ with
    | (.error _, _) => []
    | (.ok (left, _), σ) =>
      .act id (.deed (.operation (.on scope (.applyChanges left)))) ::
        match (onStory number (Script.applyChanges scope left)).alone σ with
        | (.error _, _) => []
        | (.ok r, σ) => [.act id (reading σ.history scope r.cleanText)]

/-- The errands of a text that comes in. -/
def processing (id : String) (scope : Scope) (text : String) (σ : Service) : List Errand :=
  .find id ::
    match (Service.find id).alone σ with
    | (.error _, _) => []
    | (.ok number, σ) =>
      if Directive.occurs (σ.story number).names text then carrying id number scope text σ
      else [.act id (reading σ.history scope text)]

/-- The errands of a request. -/
def errands (σ : Service) : Request → List Errand
  | .errand e => [e]
  | .openCharacter id character config =>
    [.act id (.deed (.initialise (.character character) (Script.configOf config)))]
  | .stateOf id scope | .describe id scope | .summary id scope => [.act id (.opened scope)]
  | .exportState id => [.act id (.opened .global)]
  | .tryMacros id scope text => [.act id (reading σ.history scope text)]
  | .preview id text => [.act id (reading σ.history .global (Directive.remainder σ.names text))]
  | .process id scope text => processing id scope text σ

end Request

section Requests

variable {α β : Type} {scope : Scope} {text : String}

/-- What only changes the answer of a task leaves the same behind. -/
theorem alone_onStory_andThen {t : ScriptTask α} {f : Except Fault α → ScriptTask β}
    (hf : ∀ r, ∃ r', f r = .done r') :
    ((onStory number (t.andThen f)).alone σ).2 = ((onStory number t).alone σ).2 := by
  unfold onStory
  rw [within_andThen, alone_andThen]
  obtain ⟨r', hr'⟩ := hf ((t.within (ServiceLock.scope number) (script number) (setScript number)).alone σ).1
  rw [hr']
  rfl

theorem alone_onStory_map {t : ScriptTask α} {f : α → β} :
    ((onStory number (t >>= fun a => pure (f a))).alone σ).2 = ((onStory number t).alone σ).2 := by
  refine alone_onStory_andThen fun r => ?_
  cases r <;> exact ⟨_, rfl⟩

theorem alone_onStory_orElse {t : ScriptTask α} {a : α} :
    ((onStory number (orElse t a)).alone σ).2 = ((onStory number t).alone σ).2 := by
  refine alone_onStory_andThen fun r => ?_
  cases r <;> exact ⟨_, rfl⟩

theorem alone_onScript_congr {t : ScriptTask α} {t' : ScriptTask β}
    (h : ∀ number σ, ((onStory number t).alone σ).2 = ((onStory number t').alone σ).2) :
    ((onScript id t).alone σ).2 = ((onScript id t').alone σ).2 := by
  unfold onScript
  rw [alone_bind, alone_bind]
  rcases (Service.find id).alone σ with ⟨_ | number, σ'⟩
  · rfl
  · exact h number σ'

theorem after_deed (d : Deed) : (Errand.act id (.deed d)).after σ = ((onScript id d.task).alone σ).2 :=
  alone_onScript_congr fun _ _ => alone_onStory_map

theorem after_deed_of_isOpen (d : Deed) (hopen : Entries.get? id σ.openStories = some number) :
    (Errand.act id (.deed d)).after σ = ((onStory number d.task).alone σ).2 := by
  rw [after_deed, onScript, alone_bind, alone_find hopen]

theorem after_opened : (Errand.act id (.opened scope)).after σ = ((Service.stateOf id scope).alone σ).2 :=
  alone_onScript_congr fun _ _ => alone_onStory_map

theorem after_reading {history : History} (hopen : Entries.get? id σ.openStories = some number) :
    (Errand.act id (Request.reading history scope text)).after σ =
      ((onStory number (Script.renderMacros history scope text)).alone σ).2 :=
  (after_deed_of_isOpen _ hopen).trans alone_onStory_map

theorem isOpen_onStory {t : ScriptTask α} (hopen : Entries.get? id σ.openStories = some number) :
    Entries.get? id ((onStory number t).alone σ).2.openStories = some number := by
  refine holds_within (P := fun σ : Service => Entries.get? id σ.openStories = some number) ?_ t hopen
  exact fun _ _ h => h

theorem alone_registerPart : ((registerPart number scope text).alone σ).2 =
    ((onStory number (Script.applyRegistrations scope text)).alone σ).2 := by
  unfold registerPart
  rw [alone_tryCatch, alone_map]

theorem after_carrying (hopen : Entries.get? id σ.openStories = some number) :
    Errand.afterAll (Request.carrying id number scope text σ) σ =
      ((Service.carryOut number scope text).alone σ).2 := by
  have hregister : (Errand.act id (.deed (.operation (.on scope (.applyRegistrations text))))).after σ =
      ((registerPart number scope text).alone σ).2 := by
    rw [after_deed_of_isOpen _ hopen, alone_registerPart]
    exact alone_onStory_map
  have hopen₁ : Entries.get? id ((registerPart number scope text).alone σ).2.openStories = some number := by
    rw [alone_registerPart]
    exact isOpen_onStory hopen
  unfold Request.carrying Service.carryOut
  rw [Errand.afterAll, hregister, alone_bind]
  clear hregister
  generalize (registerPart number scope text).alone σ = p₁ at hopen₁ ⊢
  obtain ⟨e | ⟨left, logs⟩, σ₁⟩ := p₁
  · dsimp only [Errand.afterAll]
  dsimp only at hopen₁ ⊢
  have hchange : (Errand.act id (.deed (.operation (.on scope (.applyChanges left))))).after σ₁ =
      ((onStory number (Script.applyChanges scope left)).alone σ₁).2 := by
    rw [after_deed_of_isOpen _ hopen₁]
    exact alone_onStory_map
  have hopen₂ := isOpen_onStory (t := Script.applyChanges scope left) hopen₁
  rw [Errand.afterAll, hchange, alone_bind]
  clear hchange
  generalize (onStory number (Script.applyChanges scope left)).alone σ₁ = p₂ at hopen₂ ⊢
  obtain ⟨e | r, σ₂⟩ := p₂
  · dsimp only [Errand.afterAll]
  dsimp only at hopen₂ ⊢
  rw [Errand.afterAll, Errand.afterAll, after_reading hopen₂, alone_get, alone_map]

theorem after_processing : Errand.afterAll (Request.processing id scope text σ) σ =
    ((Service.process id scope text).alone σ).2 := by
  have hfind : (Errand.find id).after σ = ((Service.find id).alone σ).2 :=
    congrArg Prod.snd alone_discard
  unfold Request.processing Service.process
  rw [Errand.afterAll, hfind, alone_tryCatch, alone_bind]
  cases hend : (Service.find id).alone σ with
  | mk r σ₁ =>
    cases r with
    | error e => rfl
    | ok number =>
      have hopen := get?_find hend
      dsimp only
      rw [alone_get]
      split
      · exact after_carrying hopen
      · rw [Errand.afterAll, Errand.afterAll, after_reading hopen, alone_get, alone_map]

theorem after_macros : (Errand.act id (Request.reading σ.history scope text)).after σ =
    ((Service.tryMacros id scope text).alone σ).2 := by
  have hhistory : ((Service.find id).alone σ).2.history = σ.history := by rw [rest_find]
  unfold Service.tryMacros Service.renderMacros
  rw [alone_tryCatch, Request.reading, after_deed, onScript, alone_bind, alone_bind]
  generalize (Service.find id).alone σ = p at hhistory ⊢
  obtain ⟨e | number, σ₁⟩ := p
  · rfl
  · dsimp only at hhistory ⊢
    rw [alone_get, hhistory]
    exact alone_onStory_map

theorem after_preview :
    (Errand.act id (Request.reading σ.history .global (Directive.remainder σ.names text))).after σ =
      ((Service.preview id text).alone σ).2 := by
  rw [after_macros]
  unfold Service.preview Directive.remainder
  rw [alone_get]
  dsimp only
  split <;> rw [alone_map]

theorem after_openCharacter {character : String} {config : Value} :
    (Errand.act id (.deed (.initialise (.character character) (Script.configOf config)))).after σ =
      ((Service.openCharacter id character config).alone σ).2 := by
  rw [after_deed]
  refine alone_onScript_congr fun number σ => ?_
  unfold Script.tryOpen
  rw [alone_onStory_orElse]
  exact alone_onStory_map.trans alone_onStory_map.symm

theorem alone_describe :
    ((Service.describe id scope).alone σ).2 = ((Service.stateOf id scope).alone σ).2 := by
  unfold Service.describe
  rw [alone_tryCatch, alone_map]

theorem alone_exportState :
    ((Service.exportState id).alone σ).2 = ((Service.stateOf id .global).alone σ).2 := by
  rw [← alone_describe]
  refine alone_bind_holds (P := (· = _)) rfl fun v _ => ?_
  cases v with
  | none => rfl
  | some v => exact congrArg Prod.snd alone_map

theorem alone_summary :
    ((Service.summary id scope).alone σ).2 = ((Service.stateOf id scope).alone σ).2 := by
  refine alone_bind_holds (P := (· = _)) rfl fun s _ => ?_
  cases s <;> rfl

/-- A request leaves behind what its errands do. -/
theorem Request.after_eq (r : Request) (σ : Service) : r.after σ = Errand.afterAll (r.errands σ) σ := by
  cases r with
  | errand e => rfl
  | openCharacter id character config =>
    exact (congrArg Prod.snd alone_discard).trans after_openCharacter.symm
  | stateOf id scope => exact (congrArg Prod.snd alone_discard).trans after_opened.symm
  | describe id scope =>
    exact (congrArg Prod.snd alone_discard).trans (alone_describe.trans after_opened.symm)
  | exportState id =>
    exact (congrArg Prod.snd alone_discard).trans (alone_exportState.trans after_opened.symm)
  | summary id scope =>
    exact (congrArg Prod.snd alone_discard).trans (alone_summary.trans after_opened.symm)
  | tryMacros id scope text => exact (congrArg Prod.snd alone_discard).trans after_macros.symm
  | preview id text => exact (congrArg Prod.snd alone_discard).trans after_preview.symm
  | process id scope text => exact (congrArg Prod.snd alone_discard).trans after_processing.symm

theorem Errand.afterAll_append (es es' : List Errand) :
    afterAll (es ++ es') σ = afterAll es' (afterAll es σ) := by
  induction es generalizing σ with
  | nil => rfl
  | cons e es ih => exact ih

end Requests

end Service

end StoryState
