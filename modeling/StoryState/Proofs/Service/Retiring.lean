import StoryState.Proofs.Service.Errand
import StoryState.Proofs.Story.Flushing

/-!
What dropping a story after storing what has changed (`retire`) does to what has changed. It goes through
whatever the store does: the story is not open any more, also where storing stopped midway. So no change is lost
just if all that is marked can be stored (`retire_spares_iff`).
-/

namespace StoryState.Service

open StoryState.Task Script

variable {id : String} {number : Nat} {σ : Service}

/-! ### Storing what has changed in a story -/

theorem story_of_le (h : σ.stories.length ≤ number) : σ.story number = { scriptId := none } := by
  rw [Service.story, List.getElem?_eq_none h, Option.getD_none]

/-- Where there is no story of a number, there is nothing to be stored. -/
theorem alone_flush_of_le (h : σ.stories.length ≤ number) :
    (Service.onStory number Script.flush).alone σ = (.ok 0, σ) ∧
      Script.flush.alone (σ.script number) = (.ok 0, σ.script number) := by
  have hclean : (σ.script number).story.dirtyScopes = [] := by
    show (σ.story number).dirtyScopes = []
    rw [story_of_le h]
    rfl
  constructor
  · show ((flushAll (σ.script number).story.dirtyScopes).within _ _ _).alone σ = _
    rw [hclean]
    rfl
  · show (flushAll (σ.script number).story.dirtyScopes).alone _ = _
    rw [hclean]
    rfl

theorem onlyStory_flush (number : Nat) (σ : Service) :
    OnlyStory number σ ((onStory number Script.flush).alone σ).2 := by
  rcases Nat.lt_or_ge number σ.stories.length with hlt | hge
  · exact onlyStory_onStory hlt lasts_flush
  · rw [(alone_flush_of_le hge).1]
    exact .refl number σ

theorem script_flush (number : Nat) (σ : Service) :
    ((onStory number Script.flush).alone σ).2.script number = (Script.flush.alone (σ.script number)).2 := by
  rcases Nat.lt_or_ge number σ.stories.length with hlt | hge
  · exact (alone_onStory hlt Script.flush).2
  · obtain ⟨hservice, hscript⟩ := alone_flush_of_le hge
    rw [hservice, hscript]

/-! ### Dropping a story -/

theorem alone_retire (hopen : Entries.get? id σ.openStories = some number) :
    (retire id).alone σ = (.ok true, { ((onStory number Script.flush).alone σ).2 with
      openStories := σ.openStories.erase id }) := by
  have hrest := (onlyStory_flush number σ).rest
  have hstories : ((onStory number Script.flush).alone σ).2.openStories = σ.openStories := by rw [hrest]
  unfold retire
  rw [alone_get, hopen]
  dsimp only
  rw [alone_bind, alone_flushStory]
  generalize ((onStory number Script.flush).alone σ).2 = σ' at hstories
  show (Except.ok (Entries.has id σ'.openStories), _) = _
  rw [hstories, Entries.has, hopen]
  rfl

/-- No story of a script is open any more; apart from that, only stories and what the stores hold may be
different. -/
structure Retired (id : String) (σ τ : Service) : Prop where
  closed : Entries.get? id τ.openStories = none
  rest : τ = { σ with stories := τ.stories, openStories := τ.openStories, stores := τ.stores }
  outage : ∀ key, (τ.storeOf key).outage = (σ.storeOf key).outage

theorem outage_flush (number : Nat) (σ : Service) (key : String) :
    (((onStory number Script.flush).alone σ).2.storeOf key).outage = (σ.storeOf key).outage := by
  have honly := onlyStory_flush number σ
  have hscript := script_flush number σ
  have hlasts := lasts_alone lasts_flush (σ.script number)
  rw [← hscript] at hlasts
  generalize ((onStory number Script.flush).alone σ).2 = σ' at honly hlasts
  by_cases hkey : key = (σ.story number).scriptId.getD ""
  · -- the store of the story itself
    have houtage : (σ'.storeOf ((σ'.story number).scriptId.getD "")).outage =
        (σ.storeOf ((σ.story number).scriptId.getD "")).outage := hlasts.outage
    rwa [honly.scriptId, ← hkey] at houtage
  · rw [storeOf, storeOf, honly.stores key hkey]

/-- Dropping a story goes through, whether it is open or not. -/
theorem exists_retired (id : String) (σ : Service) :
    ∃ b τ, (retire id).alone σ = (.ok b, τ) ∧ Retired id σ τ := by
  cases hopen : Entries.get? id σ.openStories with
  | none =>
    refine ⟨false, σ, ?_, hopen, rfl, fun _ => rfl⟩
    unfold retire
    rw [alone_get, hopen]
    rfl
  | some number =>
    refine ⟨true, _, alone_retire hopen, Entries.get?_erase_self .., ?_, outage_flush number σ⟩
    rw [(onlyStory_flush number σ).rest]

/-- The story of a script that is open is dropped, and nothing but what was marked has been stored. No change
is lost if all that is marked can be stored; and where no marked scope was already stored as it is, just then. -/
theorem retire_spares_iff (hopen : Entries.get? id σ.openStories = some number)
    (storable : MarksStorable (σ.script number)) :
    ∃ σ', (retire id).alone σ = (.ok true, σ') ∧ Entries.has id σ'.openStories = false ∧
      Stores (σ.script number) (σ'.script number) ∧
      ((∀ c, Marked c (σ.script number) → CanStore c (σ.script number)) →
        ∀ c, Marked c (σ.script number) → InStore c (σ'.script number)) ∧
      ((∀ c, Marked c (σ.script number) → ¬ InStore c (σ.script number)) →
        ((Entries.has id σ'.openStories = true ∨
            ∀ c, Marked c (σ.script number) → InStore c (σ'.script number)) ↔
          ∀ c, Marked c (σ.script number) → CanStore c (σ.script number))) := by
  have hclosed : Entries.has id (σ.openStories.erase id) = false := by
    rw [Entries.has, Entries.get?_erase_self]
    rfl
  have hscript := script_flush number σ
  refine ⟨_, alone_retire hopen, hclosed, ?_⟩
  show Stores _ (((onStory number Script.flush).alone σ).2.script number) ∧
    (_ → ∀ c, _ → InStore c (((onStory number Script.flush).alone σ).2.script number)) ∧
    (_ → ((Entries.has id (σ.openStories.erase id) = true ∨
      ∀ c, _ → InStore c (((onStory number Script.flush).alone σ).2.script number)) ↔ _))
  rw [hscript, hclosed, or_iff_right Bool.false_ne_true]
  exact ⟨(stores_flush storable).1, fun hcan c hm => inStore_flush storable hcan hm,
    inStore_flush_iff storable⟩

/-! ### A hidden variable that has expired -/

/-- A hidden variable that has been shown and will not be shown again. -/
def spent : State := { hidden := [("h", { fleeting with isExpired := true })] }

/-- A service whose story of a script has a hidden variable that has been shown since the story was stored, over
a store that behaves in some way. -/
def spentService (outage : Outage) : Service where
  stories := [{ scriptId := some "s", global := { state := spent, isOpen := true, isDirty := true } }]
  openStories := [("s", 0)]
  stores := [("s", { payloads := [("global", Act.fleetingText.toUTF8)], outage })]

theorem storable_spent : spent.Storable := by
  refine { State.storable_empty with hidden_once := ?_, hidden := ?_ }
  · simp [spent, Entries.Once]
  · rintro name h hmem
    obtain ⟨rfl, rfl⟩ : name = "h" ∧ h = { fleeting with isExpired := true } := by
      simpa [spent] using hmem
    exact ⟨trivial, trivial⟩

variable {outage : Outage}

theorem marked_spentService {c : Scope} : Marked c ((spentService outage).script 0) ↔ c = .global := by
  cases c with
  | global => exact ⟨fun _ => rfl, fun _ => ⟨rfl, rfl⟩⟩
  | character id =>
    constructor
    · rintro ⟨h, -⟩
      cases h
    · rintro ⟨⟩

theorem storedState_spentService :
    ((spentService outage).script 0).storedState .global = some Act.fleetingState :=
  Act.storedState_fleeting rfl

theorem spares_spentService :
    ∃ σ', (retire "s").alone (spentService .none) = (.ok true, σ') ∧ InStore .global (σ'.script 0) := by
  have storable : MarksStorable ((spentService .none).script 0) := fun c hc => by
    rw [marked_spentService.1 hc]
    exact storable_spent
  have hopen : Entries.get? "s" (spentService .none).openStories = some 0 := rfl
  obtain ⟨σ', hend, -, -, hall, -⟩ := retire_spares_iff hopen storable
  have hcan : ∀ c, Marked c ((spentService .none).script 0) →
      CanStore c ((spentService .none).script 0) := by
    intro c hc
    rw [marked_spentService.1 hc]
    exact ⟨rfl, rfl⟩
  exact ⟨σ', hend, hall hcan .global (marked_spentService.2 rfl)⟩

/-- Where the store does not save, the story is dropped nevertheless. The variable has not expired for the next
one. -/
theorem not_spared_spentService :
    Marked .global ((spentService .saving).script 0) ∧
      ((spentService .saving).script 0).memory .global = spent ∧
      ∃ σ', (retire "s").alone (spentService .saving) = (.ok true, σ') ∧
        Entries.has "s" σ'.openStories = false ∧
        (σ'.script 0).storedState .global = some Act.fleetingState := by
  refine ⟨⟨rfl, rfl⟩, rfl, _, alone_retire rfl, rfl, ?_⟩
  show (((onStory 0 Script.flush).alone (spentService .saving)).2.script 0).storedState .global = _
  rw [script_flush]
  have hcan : ¬ CanStore .global ((spentService .saving).script 0) := fun h => nomatch h.2
  have hstores := (stores_flush (s := (spentService .saving).script 0) fun c hc => by
    rw [marked_spentService.1 hc]
    exact storable_spent).1
  rcases hstores.scope .global with hagree | ⟨-, hcan', -⟩
  · rw [Script.storedState, ← hagree.payload]
    exact storedState_spentService
  · exact absurd hcan' hcan

end StoryState.Service
