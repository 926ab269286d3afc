import StoryState.Proofs.Directive.Renaming
import StoryState.Proofs.Service.Standing

/-!
The variables that every script has, in a story that is opened by a service whose tags have other names. They
are there whatever the script was before, just if the directive that registers them can be read by these names
(`registered_in_new_iff`).
-/

namespace StoryState.Service

open StoryState.Task Script

variable {id : String} {σ : Service}

/-- Opening a story that is not open, over a store that works: what becomes the global state, and then the
registrations of the variables that every script has. -/
theorem alone_find_new (hclosed : Entries.get? id σ.openStories = none) (hconfig : σ.configFault = none)
    (works : (σ.storeOf id).outage = .none) :
    ∃ number σ', ∃ m : State, (find id).alone σ = (.ok number, σ') ∧
      (σ'.story number).global.state = (m.applyRegistrations σ.names systemDirective).2 := by
  obtain ⟨σ', hend, -, hscript⟩ := alone_openNew id hconfig
  obtain ⟨-, -, m, hm⟩ := (kept_untouched works).begun goodConfig_configured
  rw [← hscript] at hm
  exact ⟨_, _, m, (alone_find_closed hclosed).trans hend, hm⟩

/-- Where there is nothing, opening a story leaves what the registrations leave. -/
theorem alone_find_nothing (names : TagNames) : ∃ number σ',
    (find "s").alone { names } = (.ok number, σ') ∧
      (σ'.story number).global.state = (({} : State).applyRegistrations names systemDirective).2 := by
  have hload : Config.load "scripts" "s" {} = none := by rfl
  have hconfig : configured "s" { names } = none := by
    unfold configured
    dsimp only
    rw [hload]
  obtain ⟨σ', hend, -, hscript⟩ := alone_openNew (σ := { names }) "s" rfl
  rw [hconfig] at hscript
  have hkept : Script.Kept "s" (untouched "s" { names }) := kept_untouched rfl
  obtain ⟨hm, -⟩ := known?_begun hkept rfl
  rw [← hscript] at hm
  exact ⟨_, _, (alone_find_closed rfl).trans hend, hm⟩

/-- Opening a story gives the variables of every script their first texts, whatever has been configured and
stored, just if the names of the tags are such that the directive can be read. -/
theorem registered_in_new_iff (names : TagNames) :
    (∀ (σ : Service) (id : String), σ.names = names → Entries.get? id σ.openStories = none →
        σ.configFault = none → (σ.storeOf id).outage = .none →
        ∃ number σ', (find id).alone σ = (.ok number, σ') ∧ ∀ x ∈ systemVariables,
          Entries.get? x.1 (σ'.story number).global.state.vars = some (.ofText x.2)) ↔
      names.ReadsSystem := by
  constructor
  · intro h
    obtain ⟨number, σ', hend, hall⟩ := h { names } "s" rfl rfl rfl rfl
    obtain ⟨number', σ'', hend', hstate⟩ := alone_find_nothing names
    obtain ⟨rfl, rfl⟩ : number = number' ∧ σ' = σ'' := by
      rw [hend] at hend'
      cases hend'
      exact ⟨rfl, rfl⟩
    refine TagNames.readsSystem_of_registered fun x hx => ?_
    rw [← hstate]
    by_contra hnone
    have hx := hall x hx
    rw [Entries.get?_eq_none_iff.2 hnone] at hx
    cases hx
  · rintro hnames σ id rfl hclosed hconfig works
    obtain ⟨number, σ', m, hend, hstate⟩ := alone_find_new hclosed hconfig works
    refine ⟨number, σ', hend, fun x hx => ?_⟩
    rw [hstate, State.applyRegistrations_renamed hnames]
    exact State.get?_putTexts (by decide) hx

/-- The names of tags with another one for blocks of variables. -/
def renamedBlock : TagNames := TagNames.standard.updated [("registerVars", .text "regs")]

/-- Where blocks of variables have another tag, a new story has not all of the variables. -/
theorem not_registered_renamedBlock : ∃ number σ',
    (find "s").alone { names := renamedBlock } = (.ok number, σ') ∧
      ∃ x ∈ systemVariables, Entries.get? x.1 (σ'.story number).global.state.vars = none := by
  obtain ⟨number, σ', hend, hstate⟩ := alone_find_nothing renamedBlock
  refine ⟨number, σ', hend, ?_⟩
  have hreads : ¬ renamedBlock.ReadsSystem := by
    rintro (hitem | ⟨hblock, -⟩)
    · exact absurd hitem (by decide)
    · exact absurd hblock (by decide)
  by_contra hnone
  push Not at hnone
  refine hreads (TagNames.readsSystem_of_registered fun x hx => ?_)
  rw [← hstate]
  exact Classical.byContradiction fun hx' => hnone x hx (Entries.get?_eq_none_iff.2 hx')

end StoryState.Service
