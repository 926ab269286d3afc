import StoryState.Proofs.Story.Alone
import StoryState.Proofs.Story.Expiring
import StoryState.Service.Response

/-!
What showing a text does to the script that it is shown for. Its directives are left out and not
carried out, but the macros of the rest are read as those of any text are, on the global scope: what is
seen may expire, and then the scope is stored. So showing leaves a script as it was just if nothing
expires and no earlier change is stored at this opportunity.
-/

namespace StoryState

/-! ### Tasks on a part of a state -/

namespace Task

variable {κ κ' σ σ' α : Type} {rename : κ → κ'} {get : σ' → σ} {put : σ → σ' → σ'}

/-- A task on a part of a state does to the part what it does alone. -/
theorem alone_within (Good : σ' → Prop) (hget : ∀ part s, Good s → get (put part s) = part)
    (hgood : ∀ part s, Good s → Good (put part s)) (t : Task κ σ α) {s : σ'} (hs : Good s) :
    ((t.within rename get put).alone s).1 = (t.alone (get s)).1 ∧
      get ((t.within rename get put).alone s).2 = (t.alone (get s)).2 := by
  induction t generalizing s with
  | done r => exact ⟨rfl, rfl⟩
  | read next ih => exact ih (get s) hs
  | write part next ih =>
    have hpart := ih (hgood part s hs)
    rw [hget part s hs] at hpart
    exact hpart
  | lock key next ih => exact ih hs
  | unlock key next ih => exact ih hs
  | rest next ih => exact ih hs

end Task

namespace Script

/-! ### Reading on the global scope -/

/-- What reading a text sees on the global scope. -/
def seen (text : String) (s : Script) : Seen String :=
  (s.memory .global).replaceMacros (s.story.defaultId .global) text

/-- What is in memory and in the store is the same. -/
def Unchanged (s s' : Script) : Prop := s'.story = s.story ∧ s'.store.payloads = s.store.payloads

/-- Only hidden variables of the global scope have expired, and at most its payload is another. -/
structure OnlyExpiry (s s' : Script) : Prop where
  expiry : Expiry (s.memory .global) (s'.memory .global)
  story : ∃ dirty, s'.story =
    { s.story with global := { s.story.global with state := s'.memory .global, isDirty := dirty } }
  payloads : s'.store.payloads = s.store.payloads ∨
    ∃ payload, (s'.memory .global).payload = .ok payload ∧
      s'.store.payloads = s.store.payloads.put Scope.global.storageKey payload.toUTF8

section Reading

variable {s : Script} {text : String} {history : History}

/-- What reading a text leaves in memory. It is marked only if the reading goes through. -/
def afterReading (text : String) (s : Script) : Script :=
  { s with
    story.global :=
      { s.story.global with
        state := (s.seen text).state
        isDirty := s.story.global.isDirty ||
          ((s.seen text).result.isOk && !(s.seen text).expired.isEmpty) } }

theorem alone_replaceMacros_global :
    (replaceMacros .global text).alone s = ((s.seen text).result, s.afterReading text) := by
  unfold replaceMacros
  rw [Task.alone_get]
  show ((modify (setState .global (s.seen text).state) >>= fun _ => _ : ScriptTask String).alone s) = _
  have hseen : s.story.global.state.replaceMacros (s.story.defaultId .global) text = s.seen text := rfl
  rw [Task.alone_modify, Task.alone_ofExcept, hseen]
  unfold afterReading
  obtain ⟨result, state, expired⟩ := s.seen text
  rcases result with e | result
  · simp [setState, Story.setCell, Story.cell, Except.isOk, Except.toBool]
  · cases expired <;> simp [setState, Story.setCell, Story.cell, Except.isOk, Except.toBool] <;> rfl

theorem alone_storeMarked_global (hdirty : s.story.global.isDirty = true) :
    ((storeMarked .global).alone s).2 = ((persist .global).alone s).2 := by
  unfold storeMarked
  rw [Task.alone_get]
  simp only [Story.cell, Story.state?, hdirty, Option.isSome_some, Bool.and_self, if_true]
  rw [Task.alone_map]

/-- What is marked is stored behind the reading, if that goes through. -/
theorem alone_renderOpen_global :
    ((renderOpen history .global text).alone s).2 =
      if (s.seen text).result.isOk && (s.afterReading text).story.global.isDirty then
        ((persist .global).alone (s.afterReading text)).2
      else s.afterReading text := by
  unfold renderOpen
  rw [Task.alone_bind, alone_replaceMacros_global]
  cases (s.seen text).result with
  | error e => rfl
  | ok result =>
    dsimp only
    rw [Task.alone_get]
    show (Task.alone (if (s.afterReading text).story.global.isDirty = true then _ else _) _).2 = _
    cases hdirty : (s.afterReading text).story.global.isDirty with
    | false => rfl
    | true =>
      show ((discard (persistIfDirty .global) >>= fun _ => _ : ScriptTask String).alone _).2 = _
      rw [Task.alone_bind, Task.alone_discard, alone_persistIfDirty]
      refine Eq.trans ?_ (alone_storeMarked_global hdirty)
      cases ((storeMarked .global).alone (s.afterReading text)).1 <;> rfl

theorem seen_of : Seen.Of (s.memory .global) (s.seen text) := State.replaceMacros_spec ..

theorem afterReading_of_nothing (hnone : (s.seen text).expired = []) : s.afterReading text = s := by
  have hseen : Seen.Of (s.memory .global) (s.seen text) := seen_of
  unfold afterReading
  rw [hseen.nothing hnone, hnone]
  simp [memory, Story.cell]

theorem memory_alone_renderOpen :
    ((renderOpen history .global text).alone s).2.memory .global = (s.seen text).state := by
  rw [alone_renderOpen_global]
  split
  · by_cases h : CanStore .global (s.afterReading text)
    · obtain ⟨payload, -, hend⟩ := alone_persist_of_canStore h
      rw [hend]
      exact memory_markStored
    · obtain ⟨e, hend⟩ := alone_persist_of_not_canStore h
      rw [hend]
      rfl
  · rfl

/-- The macros of a text leave a script as it was just if nothing expires and nothing that was marked
before is stored. -/
theorem unchanged_renderOpen_iff :
    Unchanged s ((renderOpen history .global text).alone s).2 ↔
      (s.seen text).expired = [] ∧
        (s.story.global.isDirty = true → (s.seen text).result.isOk = true → ¬ CanStore .global s) := by
  constructor
  · intro hsame
    have hnone : (s.seen text).expired = [] := by
      have hread : ((renderOpen history .global text).alone s).2.memory .global = (s.seen text).state :=
        memory_alone_renderOpen
      rw [← seen_of.state_eq_iff, ← hread, memory, hsame.1, memory]
    refine ⟨hnone, fun hdirty hok hstores => ?_⟩
    have hstory := hsame.1
    rw [alone_renderOpen_global, afterReading_of_nothing hnone, hok, hdirty] at hstory
    obtain ⟨payload, -, hend⟩ := alone_persist_of_canStore hstores
    have hclean : (((persist .global).alone s).2.story.cell .global).isDirty = false := by
      rw [hend]
      exact congrArg Cell.isDirty cell_markStored
    have hmarked : (((persist .global).alone s).2.story.cell .global).isDirty = true :=
      (congrArg (fun x : Story => x.global.isDirty) hstory).trans hdirty
    rw [hmarked] at hclean
    cases hclean
  · rintro ⟨hnone, hkept⟩
    rw [alone_renderOpen_global, afterReading_of_nothing hnone]
    split
    · rename_i hmarked
      rw [Bool.and_eq_true] at hmarked
      obtain ⟨e, hend⟩ := alone_persist_of_not_canStore (hkept hmarked.2 hmarked.1)
      rw [hend]
      exact ⟨rfl, rfl⟩
    · exact ⟨rfl, rfl⟩

/-- Whatever the macros of a text do, it is no more than expiry. -/
theorem onlyExpiry_renderOpen : OnlyExpiry s ((renderOpen history .global text).alone s).2 := by
  have hread : OnlyExpiry s (s.afterReading text) := ⟨seen_of.expiry, ⟨_, rfl⟩, .inl rfl⟩
  rw [alone_renderOpen_global]
  split
  · by_cases h : CanStore .global (s.afterReading text)
    · obtain ⟨payload, hpayload, hend⟩ := alone_persist_of_canStore h
      rw [hend]
      dsimp only
      refine ⟨?_, ?_, .inr ⟨payload, ?_, ?_⟩⟩
      · rw [memory_markStored]
        exact seen_of.expiry
      · unfold markStored
        split <;> exact ⟨_, rfl⟩
      · rw [memory_markStored]
        exact hpayload
      · unfold markStored
        split <;> rfl
    · obtain ⟨e, hend⟩ := alone_persist_of_not_canStore h
      rw [hend]
      exact hread
  · exact hread

end Reading

end Script

/-! ### Showing a text -/

namespace Directive

/-- What is left of a text that is shown: all of it unless a directive begins in it. -/
def remainder (names : TagNames) (text : String) : String :=
  if occurs names text then strip names text else text

end Directive

namespace Service

open Script

variable {σ : Service} {id text : String} {number : Nat}

theorem script_setScript {script : Script} (h : number < σ.stories.length) :
    (σ.setScript number script).script number = script := by
  obtain ⟨story, store⟩ := script
  simp [Service.script, setScript, Service.story, h, Entries.get?_put_self]

/-- A task on the story of a number does to it what it does alone. -/
theorem alone_onStory {α : Type} (h : number < σ.stories.length) (t : ScriptTask α) :
    ((onStory number t).alone σ).1 = (t.alone (σ.script number)).1 ∧
      ((onStory number t).alone σ).2.script number = (t.alone (σ.script number)).2 :=
  Task.alone_within (fun σ => number < σ.stories.length) (fun _ _ h => script_setScript h)
    (fun _ _ h => by simpa [setScript] using h) t h

theorem alone_find (hopen : Entries.get? id σ.openStories = some number) :
    (find id).alone σ = (.ok number, σ) := by
  unfold find
  rw [Task.alone_get, hopen]
  rfl

theorem lt_of_isOpen (hloaded : (σ.story number).global.isOpen = true) : number < σ.stories.length := by
  by_contra h
  unfold Service.story at hloaded
  rw [List.getElem?_eq_none (Nat.le_of_not_lt h)] at hloaded
  cases hloaded

/-- What showing a text does to its script: the macros of the remainder are read on the global scope. -/
theorem script_preview (hopen : Entries.get? id σ.openStories = some number)
    (hloaded : (σ.story number).global.isOpen = true) :
    ((preview id text).alone σ).2.script number =
      ((renderOpen σ.history .global (Directive.remainder σ.names text)).alone (σ.script number)).2 := by
  have hmacros (clean : String) : ((tryMacros id .global clean).alone σ).2.script number =
      ((renderOpen σ.history .global clean).alone (σ.script number)).2 := by
    have hcell : ((σ.script number).story.cell .global).isOpen = true := hloaded
    unfold tryMacros renderMacros
    rw [Task.alone_tryCatch, Task.alone_bind, alone_find hopen]
    dsimp only
    rw [Task.alone_get, (alone_onStory (lt_of_isOpen hloaded) _).2, alone_renderMacros, alone_ensureOpen,
      if_pos hcell]
  unfold preview Directive.remainder
  rw [Task.alone_get]
  dsimp only
  split
  · rw [← hmacros, Task.alone_map]
  · rw [← hmacros, Task.alone_map]

/-- Showing a text leaves its script as it was just if nothing expires by it and, as far as the text can
be read, no change that was marked before is stored by it. In any case only hidden variables of the global
scope expire, and only the payload of the global scope is another. -/
theorem preview_unchanged_iff (hopen : Entries.get? id σ.openStories = some number)
    (hloaded : (σ.story number).global.isOpen = true) :
    let s := σ.script number
    let s' := ((preview id text).alone σ).2.script number
    let seen := s.seen (Directive.remainder σ.names text)
    (Unchanged s s' ↔ seen.expired = [] ∧
      (s.story.global.isDirty = true → seen.result.isOk = true → ¬ CanStore .global s)) ∧
      OnlyExpiry s s' := by
  dsimp only
  rw [script_preview hopen hloaded]
  exact ⟨unchanged_renderOpen_iff, onlyExpiry_renderOpen⟩

/-! ### A hidden variable that expires on being shown -/

/-- A script whose hidden variable can be read once. -/
def fleetingService : Service where
  stories := [{ scriptId := some "s", global := { state := { hidden := [("h", fleeting)] }, isOpen := true } }]
  openStories := [("s", 0)]
  stores := [("s", {})]

/-- A text with a directive that is not carried out, and with a macro that stands for nothing. -/
theorem preview_unchanged_iff_quiet :
    Entries.get? "s" fleetingService.openStories = some 0 ∧
      (fleetingService.story 0).global.isOpen = true ∧
      Unchanged (fleetingService.script 0)
        (((preview "s" "<setVar>a=1</setVar>${a}").alone fleetingService).2.script 0) :=
  ⟨rfl, rfl, (preview_unchanged_iff rfl rfl).1.2 ⟨by decide +kernel, fun h => by cases h⟩⟩

/-- Showing a macro of a hidden variable with an expiry makes it expire. -/
theorem not_unchanged_preview_fleeting :
    Entries.get? "s" fleetingService.openStories = some 0 ∧
      (fleetingService.story 0).global.isOpen = true ∧
      ¬ Unchanged (fleetingService.script 0)
        (((preview "s" "${h}").alone fleetingService).2.script 0) := by
  refine ⟨rfl, rfl, fun hsame => ?_⟩
  rw [script_preview rfl rfl] at hsame
  have hnone := (unchanged_renderOpen_iff.1 hsame).1
  have hseen : ((fleetingService.script 0).seen (Directive.remainder fleetingService.names "${h}")).expired =
      ["h"] := by decide +kernel
  rw [hseen] at hnone
  cases hnone

end Service

end StoryState
