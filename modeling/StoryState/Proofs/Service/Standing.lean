import StoryState.Proofs.Service.Preview
import StoryState.Proofs.Story.Kept

/-!
Services whose open story of one script loses nothing when it is dropped (`Service.Kept`). A task on one story
leaves the others and their stores as they are (`onlyStory_onStory`), so only what is done to that story
matters; and a story that is opened is kept from the start (`Kept.find`).
-/

namespace StoryState

namespace Task

variable {κ σ α β : Type} {s : σ} {P : σ → Prop}

/-- What holds behind both of two tasks, however the first one ends, holds behind the two. -/
theorem alone_bind_holds {t : Task κ σ α} {f : α → Task κ σ β} (ht : P (t.alone s).2)
    (hf : ∀ a, t.alone s = (.ok a, (t.alone s).2) → P ((f a).alone (t.alone s).2).2) :
    P ((t >>= f).alone s).2 := by
  rw [alone_bind]
  generalize hend : t.alone s = p at ht hf
  obtain ⟨e | a, s'⟩ := p
  · exact ht
  · exact hf a rfl

end Task

namespace Service

open StoryState.Task Script

variable {α : Type} {number : Nat} {id : String} {σ σ' : Service}

/-- Only the story of a number, and the store of its script, have changed. -/
structure OnlyStory (number : Nat) (σ σ' : Service) : Prop where
  rest : σ' = { σ with stories := σ'.stories, stores := σ'.stores }
  length : σ'.stories.length = σ.stories.length
  scriptId : (σ'.story number).scriptId = (σ.story number).scriptId
  stories : ∀ n, n ≠ number → σ'.stories[n]? = σ.stories[n]?
  stores : ∀ key, key ≠ (σ.story number).scriptId.getD "" →
    Entries.get? key σ'.stores = Entries.get? key σ.stores

theorem OnlyStory.refl (number : Nat) (σ : Service) : OnlyStory number σ σ :=
  ⟨rfl, rfl, rfl, fun _ _ => rfl, fun _ _ => rfl⟩

theorem OnlyStory.trans {σ'' : Service} (h : OnlyStory number σ σ') (h' : OnlyStory number σ' σ'') :
    OnlyStory number σ σ'' := by
  refine ⟨?_, h'.length.trans h.length, h'.scriptId.trans h.scriptId,
    fun n hn => (h'.stories n hn).trans (h.stories n hn), fun key hkey => ?_⟩
  · rw [h'.rest, h.rest]
  · exact (h'.stores key (by rwa [h.scriptId])).trans (h.stores key hkey)

theorem onlyStory_setScript {script : Script} (hid : script.story.scriptId = (σ.story number).scriptId)
    (h : number < σ.stories.length) : OnlyStory number σ (σ.setScript number script) := by
  refine ⟨rfl, List.length_set, ?_, fun n hn => List.getElem?_set_ne (Ne.symm hn), fun key hkey => ?_⟩
  · rw [← hid]
    exact congrArg (fun s : Script => s.story.scriptId) (script_setScript h)
  · refine Entries.get?_put_of_ne ?_ _ _
    rw [hid]
    exact Ne.symm hkey

/-- A task on one story leaves the others as they are. -/
theorem onlyStory_onStory (h : number < σ.stories.length) {t : ScriptTask α} (ht : t.Along Lasts) :
    OnlyStory number σ ((onStory number t).alone σ).2 := by
  have hstep : ∀ (p : Script) (σ : Service), number < σ.stories.length → Lasts (σ.script number) p →
      OnlyStory number σ (σ.setScript number p) := fun p σ h hl => onlyStory_setScript hl.scriptId h
  have hlength : ∀ (p : Script) (σ : Service), number < σ.stories.length →
      number < (σ.setScript number p).stories.length := fun p σ h => by simpa [setScript] using h
  have hstrokes : (t.within (ServiceLock.scope number) (script number) (setScript number)).Strokes
      (OnlyStory number) σ :=
    ht.within (fun σ => number < σ.stories.length) (fun _ _ h => script_setScript h) hlength hstep h
  exact hstrokes.alone (.refl number) .trans

/-! ### Open stories -/

/-- The store of a script. -/
def storeOf (id : String) (σ : Service) : Store := (Entries.get? id σ.stores).getD {}

/-- How an open story stands: it is that of its script and has its global scope open; and the one of `id` can
be dropped without a loss. -/
structure InPlace (id key : String) (s : Script) : Prop where
  scriptId : s.story.scriptId = some key
  isOpen : s.story.global.isOpen = true
  kept : key = id → Script.Kept id s

/-- The stores work, and every open story is in place. -/
structure Kept (id : String) (σ : Service) : Prop where
  once : Entries.Once σ.openStories
  works : ∀ key, (σ.storeOf key).outage = .none
  inPlace : ∀ key number, Entries.get? key σ.openStories = some number → InPlace id key (σ.script number)

variable {key : String}

theorem story_eq_of_getElem? {n m : Nat} (h : σ'.stories[n]? = σ.stories[m]?) : σ'.story n = σ.story m := by
  rw [Service.story, Service.story, h]

theorem script_of_scriptId (h : (σ.story number).scriptId = some key) :
    σ.script number = ⟨σ.story number, σ.storeOf key⟩ := by
  rw [Service.script, h]
  rfl

theorem Kept.scriptId (h : Kept id σ) (hopen : Entries.get? key σ.openStories = some number) :
    (σ.story number).scriptId = some key := (h.inPlace key number hopen).scriptId

theorem Kept.isOpen (h : Kept id σ) (hopen : Entries.get? key σ.openStories = some number) :
    (σ.story number).global.isOpen = true := (h.inPlace key number hopen).isOpen

theorem Kept.lt (h : Kept id σ) (hopen : Entries.get? key σ.openStories = some number) :
    number < σ.stories.length := lt_of_isOpen (h.isOpen hopen)

theorem Kept.script (h : Kept id σ) (hopen : Entries.get? id σ.openStories = some number) :
    Script.Kept id (σ.script number) := (h.inPlace id number hopen).kept rfl

/-- Another story stays as it was. -/
theorem OnlyStory.script_of_ne (only : OnlyStory number σ σ') (hkey : (σ.story number).scriptId = some key)
    {key' : String} {n : Nat} (hn : (σ.story n).scriptId = some key') (hne : key' ≠ key) :
    σ'.script n = σ.script n := by
  have hnumber : n ≠ number := by
    rintro rfl
    exact hne (Option.some.inj (hn.symm.trans hkey))
  have hstory : σ'.story n = σ.story n := story_eq_of_getElem? (only.stories n hnumber)
  rw [script_of_scriptId (hstory ▸ hn), script_of_scriptId hn, hstory, storeOf, storeOf,
    only.stores key' (by rw [hkey]; exact hne)]

/-- What a task on one story leaves of the others. -/
theorem OnlyStory.others (only : OnlyStory number σ σ') (h : Kept id σ)
    (hkey : (σ.story number).scriptId = some key) (works : (σ'.script number).store.outage = .none) :
    σ'.openStories = σ.openStories ∧ (∀ key, (σ'.storeOf key).outage = .none) ∧
      ∀ key' n, key' ≠ key → Entries.get? key' σ.openStories = some n → InPlace id key' (σ'.script n) := by
  refine ⟨by rw [only.rest], fun k => ?_, fun key' n hne hopen => ?_⟩
  · by_cases hk : k = key
    · rw [script_of_scriptId (only.scriptId.trans hkey)] at works
      exact hk ▸ works
    · rw [storeOf, only.stores k (by rw [hkey]; exact hk)]
      exact h.works k
  · rw [only.script_of_ne hkey (h.scriptId hopen) hne]
    exact h.inPlace key' n hopen

/-- A task on an open story keeps the story of `id` if it does so where it works on that one. -/
theorem Kept.onStory (h : Kept id σ) (hopen : Entries.get? key σ.openStories = some number)
    {t : ScriptTask α} (ht : t.Along Lasts)
    (kept : key = id → Script.Kept id (t.alone (σ.script number)).2) :
    Kept id ((Service.onStory number t).alone σ).2 := by
  have honly := onlyStory_onStory (h.lt hopen) ht
  obtain ⟨-, hscript⟩ := alone_onStory (h.lt hopen) t
  generalize ((Service.onStory number t).alone σ).2 = σ' at honly hscript
  have hold := h.inPlace key number hopen
  have hlasts := lasts_alone ht (σ.script number)
  have hworks : (σ.script number).store.outage = .none := by
    rw [script_of_scriptId (h.scriptId hopen)]
    exact h.works key
  rw [← hscript] at hlasts kept
  obtain ⟨hstories, hworks', hothers⟩ :=
    honly.others h (h.scriptId hopen) (hlasts.outage.trans hworks)
  refine ⟨hstories ▸ h.once, hworks', fun key' n hn => ?_⟩
  rw [hstories] at hn
  by_cases hkey : key' = key
  · subst hkey
    obtain rfl := Option.some.inj (hopen.symm.trans hn)
    exact ⟨hlasts.scriptId.trans hold.scriptId, hlasts.isOpen hold.isOpen, kept⟩
  · exact hothers key' n hkey hn

/-! ### Opening -/

/-- A service with a story that nobody has opened before. -/
def added (id : String) (σ : Service) : Service :=
  addStore id { σ with stories := σ.stories ++ [{ scriptId := some id, names := σ.names }] }

/-- A script of which nothing is open, over the store of its id. -/
def untouched (id : String) (σ : Service) : Script :=
  ⟨{ scriptId := some id, names := σ.names }, σ.storeOf id⟩

theorem storeOf_added (k : String) : (σ.added key).storeOf k = σ.storeOf k := by
  unfold storeOf added addStore
  dsimp only
  by_cases hk : key = k
  · rw [hk, Entries.get?_put_self]
    rfl
  · rw [Entries.get?_put_of_ne hk]

theorem script_added_of_lt (h : number < σ.stories.length) (hkey : (σ.story number).scriptId = some key)
    (k : String) : (σ.added k).script number = σ.script number := by
  have hstory : (σ.added k).story number = σ.story number :=
    story_eq_of_getElem? (List.getElem?_append_left h)
  rw [script_of_scriptId (hstory ▸ hkey), script_of_scriptId hkey, hstory, storeOf_added]

theorem script_added : (σ.added key).script σ.stories.length = σ.untouched key := by
  have hstory : (σ.added key).story σ.stories.length = { scriptId := some key, names := σ.names } := by
    rw [Service.story]
    simp [added, addStore]
  have hkey : ((σ.added key).story σ.stories.length).scriptId = some key := by rw [hstory]
  rw [script_of_scriptId hkey, hstory, storeOf_added]
  rfl

theorem Kept.added (h : Kept id σ) (key : String) : Kept id (σ.added key) where
  once := h.once
  works k := by
    rw [storeOf_added]
    exact h.works k
  inPlace key' number hopen := by
    rw [script_added_of_lt (h.lt hopen) (h.scriptId hopen)]
    exact h.inPlace key' number hopen

/-- A script of which nothing is open is kept. -/
theorem kept_untouched (works : (σ.storeOf key).outage = .none) : Script.Kept key (σ.untouched key) where
  scriptId := rfl
  works := works
  settled := settled_fresh
  writable c m hm := by
    cases c with
    | global =>
      obtain rfl := Option.some.inj hm
      exact State.short_empty
    | character _ => cases hm

/-- The state that the configuration of a script gives, if it says anything. -/
def configured (id : String) (σ : Service) : Option (Except Fault State) :=
  match Config.load σ.configs id σ.files with
  | none | some [] => none
  | some fields => some (State.ofValue (.object fields))

theorem configured_of_load {fields : Entries Value} (h : Config.load σ.configs id σ.files = some fields)
    (hsome : fields ≠ []) : σ.configured id = some (State.ofValue (.object fields)) := by
  unfold configured
  rw [h]
  cases fields with
  | nil => exact absurd rfl hsome
  | cons _ _ => rfl

theorem alone_readConfig : (readConfig id).alone σ =
    match σ.configFault with
    | some e => (.error e, σ)
    | none => (.ok (σ.configured id), σ) := by
  unfold readConfig configured
  show (match σ.configFault with | some e => _ | none => _ : ServiceTask _).alone σ = _
  cases σ.configFault with
  | some e => rfl
  | none =>
    dsimp only
    generalize Config.load σ.configs id σ.files = found
    rcases found with _ | _ | _ <;> rfl

/-- What is true of what can be read from a document is true of a configuration. -/
theorem of_load {P : Value → Prop} (hP : Value.Inherited P) {fields : Entries Value}
    (h : Config.load σ.configs id σ.files = some fields) : P (.object fields) := by
  unfold Config.load at h
  split at h
  · split at h
    · obtain ⟨v, hread, h⟩ := Option.bind_eq_some_iff.1 h
      have hv : P v := by
        generalize hdocument : Json.read _ = r at hread
        cases r with
        | error e => cases hread
        | ok w =>
          cases hread
          exact hP.of_read hdocument
      unfold Config.unwrap at h
      split at h
      · split at h
        · cases h
          exact hP.of_get? hv ‹_›
        · cases h
          exact hv
      · cases h
    · cases h
  · cases h

/-- Configurations are read from documents, so what they give can be stored. -/
theorem goodConfig_configured : GoodConfig (σ.configured id) := by
  have hstate : ∀ m, σ.configured id = some (.ok m) → m.Storable ∧ m.Short := by
    intro m h
    unfold configured at h
    split at h
    · cases h
    · cases h
    · rename_i fields _ hload
      have hread := Option.some.inj h
      exact ⟨State.storable_of_ofValue (of_load Value.inherited_tidy hload) hread,
        State.short_of_ofValue (of_load Value.inherited_isWritable hload) hread⟩
  exact ⟨fun m h => (hstate m h).1, fun m h => (hstate m h).2⟩

/-- Opening a story that is not open, if its configuration can be read. -/
theorem alone_openNew (id : String) (hconfig : σ.configFault = none) :
    ∃ σ', (openNew id).alone σ =
        (.ok σ.stories.length, { σ' with openStories := σ'.openStories.put id σ.stories.length }) ∧
      OnlyStory σ.stories.length (σ.added id) σ' ∧
      σ'.script σ.stories.length = (σ.untouched id).begun (σ.configured id) := by
  have hlt : σ.stories.length < (σ.added id).stories.length := by simp [added, addStore]
  have hread : (readConfig id).alone (σ.added id) = (.ok (σ.configured id), σ.added id) := by
    rw [alone_readConfig, show (σ.added id).configFault = none from hconfig]
    rfl
  have honly₁ := onlyStory_onStory hlt (lasts_tryOpen (c := .global) (σ.configured id))
  obtain ⟨hok₁, hscript₁⟩ := alone_onStory hlt (tryOpen .global (σ.configured id))
  generalize hend₁ : (onStory σ.stories.length (tryOpen .global (σ.configured id))).alone (σ.added id) = p₁
    at honly₁ hok₁ hscript₁
  obtain ⟨r₁, σ₁⟩ := p₁
  have hlt₁ : σ.stories.length < σ₁.stories.length := honly₁.length ▸ hlt
  have honly₂ := onlyStory_onStory hlt₁ (lasts_tryRegistrations (c := .global) systemDirective)
  obtain ⟨hok₂, hscript₂⟩ := alone_onStory hlt₁ (tryRegistrations .global systemDirective)
  generalize hend₂ : (onStory σ.stories.length (tryRegistrations .global systemDirective)).alone σ₁ = p₂
    at honly₂ hok₂ hscript₂
  obtain ⟨r₂, σ₂⟩ := p₂
  refine ⟨σ₂, ?_, honly₁.trans honly₂, ?_⟩
  · have hgoes₁ : (tryOpen .global (σ.configured id)).alone ((σ.added id).script σ.stories.length) =
        (.ok _, _) := alone_tryCatch_ok
    have hgoes₂ : (tryRegistrations .global systemDirective).alone (σ₁.script σ.stories.length) =
        (.ok _, _) := alone_tryCatch_ok
    rw [hgoes₁] at hok₁
    rw [hgoes₂] at hok₂
    obtain rfl : r₁ = _ := hok₁
    obtain rfl : r₂ = _ := hok₂
    show (readConfig id >>= fun config => _ : ServiceTask Nat).alone (σ.added id) = _
    rw [alone_bind, hread]
    dsimp only
    rw [alone_bind, alone_discard, hend₁]
    dsimp only [Except.map]
    rw [alone_bind, alone_discard, hend₂]
    rfl
  · rw [hscript₂, hscript₁, script_added]
    rfl

theorem alone_find_closed (hclosed : Entries.get? id σ.openStories = none) :
    (find id).alone σ = (openNew id).alone σ := by
  unfold find
  rw [alone_get, hclosed]
  show (Task.holding _ _).alone σ = _
  rw [alone_holding, alone_get, hclosed]

/-- A configuration that cannot be read stops the opening behind the new story. -/
theorem alone_openNew_error {e : Fault} (hconfig : σ.configFault = some e) :
    (openNew id).alone σ = (.error e, σ.added id) := by
  show (readConfig id >>= fun config => _ : ServiceTask Nat).alone (σ.added id) = _
  rw [alone_bind, alone_readConfig, show (σ.added id).configFault = some e from hconfig]

/-- The story that is found is open then. -/
theorem get?_find (h : (find id).alone σ = (.ok number, σ')) :
    Entries.get? id σ'.openStories = some number := by
  cases hopen : Entries.get? id σ.openStories with
  | some n =>
    rw [alone_find hopen] at h
    cases h
    exact hopen
  | none =>
    rw [alone_find_closed hopen] at h
    cases hconfig : σ.configFault with
    | some e =>
      rw [alone_openNew_error hconfig] at h
      cases h
    | none =>
      obtain ⟨_, hend, -⟩ := alone_openNew id hconfig
      rw [hend] at h
      cases h
      exact Entries.get?_put_self ..

/-- Looking for a story changes no more than the stories and the stores. -/
theorem rest_find (id : String) (σ : Service) : let τ := ((find id).alone σ).2
    τ = { σ with stories := τ.stories, openStories := τ.openStories, stores := τ.stores } := by
  cases hopen : Entries.get? id σ.openStories with
  | some number => rw [alone_find hopen]
  | none =>
    rw [alone_find_closed hopen]
    rcases Option.eq_none_or_eq_some σ.configFault with hconfig | ⟨e, hconfig⟩
    · obtain ⟨σ', hend, honly, -⟩ := alone_openNew id hconfig
      rw [hend, honly.rest]
      rfl
    · rw [alone_openNew_error hconfig]
      rfl

/-- Looking for the story of a script keeps the one of `id`. -/
theorem Kept.find (h : Kept id σ) (key : String) : Kept id ((Service.find key).alone σ).2 := by
  cases hopen : Entries.get? key σ.openStories with
  | some number =>
    rw [alone_find hopen]
    exact h
  | none =>
    rw [alone_find_closed hopen]
    cases hconfig : σ.configFault with
    | some e =>
      rw [alone_openNew_error hconfig]
      exact h.added key
    | none =>
      obtain ⟨σ', hend, honly, hscript⟩ := alone_openNew key hconfig
      obtain ⟨hkept, hisOpen, -⟩ := (kept_untouched (h.works key)).begun goodConfig_configured
      rw [← hscript] at hkept hisOpen
      have hkey : ((σ.added key).story σ.stories.length).scriptId = some key :=
        honly.scriptId.symm.trans hkept.scriptId
      obtain ⟨hstories, hworks, hothers⟩ := honly.others (h.added key) hkey hkept.works
      rw [hend]
      refine ⟨Entries.Once.put (hstories ▸ h.once) _ _, hworks, fun key' n hn => ?_⟩
      by_cases hne : key' = key
      · rw [hne, Entries.get?_put_self] at hn
        cases hn
        rw [hne]
        exact ⟨hkept.scriptId, hisOpen, fun h => h ▸ hkept⟩
      · rw [Entries.get?_put_of_ne (Ne.symm hne), hstories] at hn
        exact hothers key' n hne hn

end Service

end StoryState
