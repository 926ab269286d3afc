import StoryState.Proofs.Directive.Uniform
import StoryState.Proofs.Story.Alone

/-!
Batches without a line in their log. Whatever a batch does to a state it reports, so the state is as it
was if there is nothing in the log, and a script that does not store such a batch loses nothing
(`Script.memory_of_not_changed`).
-/

namespace StoryState

/-- A cell that is put where it is changes nothing; one that is open is among the cells. -/
theorem Story.setCell_cell {c : Scope} {s : Story} (hopen : (s.cell c).isOpen = true) :
    s.setCell c (s.cell c) = s := by
  cases c with
  | global => rfl
  | character id =>
    have hfound : Entries.get? id s.characters = some (s.cell (.character id)) := by
      have hcell : s.cell (.character id) = (Entries.get? id s.characters).getD {} := rfl
      rw [hcell] at hopen ⊢
      cases hget : Entries.get? id s.characters with
      | some cell => rfl
      | none =>
        rw [hget] at hopen
        cases hopen
    exact congrArg (fun characters => { s with characters }) (Entries.put_eq_self hfound)

namespace Script

open StoryState.Task

variable {c : Scope} {s s' : Script}

/-- A state that is put where it is changes nothing. -/
theorem setState_memory (hopen : (s.story.cell c).isOpen = true) : s.setState c (s.memory c) = s :=
  congrArg (fun story => { s with story }) (Story.setCell_cell hopen)

/-- A batch that leaves a state as it is if it reports nothing leaves a scope as it was opened then, and
the script too if nothing else was still to be stored. -/
theorem alone_carryOut_silent {run : TagNames → State → Except Fault BatchResult × State}
    (silent : ∀ names m r, (run names m).1 = .ok r → r.changed = false → (run names m).2 = m)
    {r : BatchResult} (hend : (carryOut c run).alone s = (.ok r, s')) (hr : r.changed = false) :
    ∃ s₁, (ensureOpen c).alone s = (.ok (), s₁) ∧ s'.memory c = s₁.memory c ∧
      ((s₁.story.cell c).isDirty = false → s' = s₁) := by
  obtain ⟨s₁, m, hopened, hrun, hrest⟩ := alone_carryOut_ok hend
  have hopen : (s₁.story.cell c).isOpen = true := by
    have hisOpen := isOpen_ensureOpen (c := c) (s := s) (u := ()) (by rw [hopened])
    rwa [hopened] at hisOpen
  have hsame : m = s₁.memory c := by
    have hsilent := silent s₁.story.names (s₁.memory c) r (by rw [hrun]) hr
    rwa [hrun] at hsilent
  rw [hsame, setState_memory hopen, hr, Bool.false_or] at hrest
  refine ⟨s₁, hopened, ?_, fun hclean => ?_⟩
  · split at hrest
    · rw [← memory_persist (s := s₁), hrest]
    · rw [hrest]
  · rwa [if_neg (by simp [hclean])] at hrest

/-- A text of directives that reports nothing done has done nothing: the state is the one before, both
when changes and when registrations are carried out, whatever the tags are called. So when it is carried
out on a scope, what is in memory is what the scope was opened with; and unless something else was still
to be stored the whole script is as it was then, though nothing is stored. -/
theorem memory_of_not_changed :
    (∀ names text (m m' : State) (r : BatchResult),
      m.applyChanges names text = (.ok r, m') ∨ m.applyRegistrations names text = (.ok r, m') →
        r.changed = false → m' = m) ∧
    ∀ c text (s s' : Script) (r : BatchResult),
      (applyChanges c text).alone s = (.ok r, s') ∨ (applyRegistrations c text).alone s = (.ok r, s') →
        r.changed = false → ∃ s₁, (ensureOpen c).alone s = (.ok (), s₁) ∧ s'.memory c = s₁.memory c ∧
          ((s₁.story.cell c).isDirty = false → s' = s₁) := by
  have hchanges := fun text names (m : State) => (m.applyChanges_spec names text).2
  have hregistrations := fun text names (m : State) => (m.applyRegistrations_spec names text).2
  refine ⟨fun names text m m' r hend hr => ?_, fun c text s s' r hend hr => ?_⟩
  · rcases hend with hend | hend
    · have hsame := hchanges text names m r (by rw [hend]) hr
      rwa [hend] at hsame
    · have hsame := hregistrations text names m r (by rw [hend]) hr
      rwa [hend] at hsame
  · rcases hend with hend | hend
    · exact alone_carryOut_silent (hchanges text) hend hr
    · exact alone_carryOut_silent (hregistrations text) hend hr

/-- What has gone through without a report, when only that is known of its result. -/
theorem exists_of_changed_eq_false {σ : Type} (p : Except Fault BatchResult × σ)
    (h : p.1.toOption.map (·.changed) = some false) : ∃ r, p = (.ok r, p.2) ∧ r.changed = false := by
  obtain ⟨outcome, s⟩ := p
  cases outcome with
  | error e => cases h
  | ok r => exact ⟨r, rfl, Option.some.inj h⟩

/-- A row for a table that is not there is no change, and neither is forgetting a variable that is not there. -/
theorem memory_of_not_changed_missing :
    let s : Script := { story := { scriptId := none, global := { state := State.stocked, isOpen := true } } }
    ∃ r r' : BatchResult,
      State.stocked.applyChanges .standard "<addTableRow table=\"u\">c=1</addTableRow>" =
        (.ok r, State.stocked) ∧ r.changed = false ∧
      (applyRegistrations .global "<unregisterVar name=\"y\"/>").alone s = (.ok r', s) ∧
        r'.changed = false := by
  intro s
  obtain ⟨r, hend, hr⟩ := exists_of_changed_eq_false
    (State.stocked.applyChanges .standard "<addTableRow table=\"u\">c=1</addTableRow>") (by decide +kernel)
  obtain ⟨r', hend', hr'⟩ := exists_of_changed_eq_false
    ((applyRegistrations .global "<unregisterVar name=\"y\"/>").alone s) (by decide +kernel)
  have hsame := memory_of_not_changed.1 _ _ _ _ r (.inl hend) hr
  obtain ⟨s₁, hopened, -, hkept⟩ := memory_of_not_changed.2 _ _ _ _ r' (.inr hend') hr'
  obtain rfl : s = s₁ := congrArg Prod.snd hopened
  rw [hsame] at hend
  rw [hkept rfl] at hend'
  exact ⟨r, r', hend, hr, hend', hr'⟩

end Script

end StoryState
