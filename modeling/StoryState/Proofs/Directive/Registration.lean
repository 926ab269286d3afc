import StoryState.Directive.Registration
import StoryState.Proofs.Directive.Change

/-!
What registrations do to a batch, and with it what a whole text of directives does to a state: a
sequence of edits, none if it goes through without a line in the log.
-/

namespace StoryState

open StoryState.Text

namespace Batch

/-! ### Registering -/

theorem moves_error (line : String) : Moves Advance (error line) :=
  fun _ => ⟨.refl, List.prefix_refl _, fun _ _ => rfl⟩

/-- Cases come from a literal that is read. -/
theorem exists_readBranches {literal : Option String} {bs : List Branch}
    (h : branchesOf literal = .ok (some bs)) : ∃ l, readBranches l = .ok bs := by
  unfold branchesOf at h
  split at h
  · cases h
  · cases h
  · rename_i l _
    cases hr : readBranches l with
    | error e => rw [hr] at h; cases h
    | ok bs' =>
      rw [hr] at h
      cases h
      exact ⟨l, hr⟩

theorem casesDeclared_of_branchesOf {literal : Option String} {branches : Option (List Branch)}
    (h : branchesOf literal = .ok branches) : ∀ bs, branches = some bs → CasesDeclared bs := by
  rintro bs rfl
  obtain ⟨l, hread⟩ := exists_readBranches h
  exact casesDeclared_of_readBranches hread

theorem moves_registerVariable (f : VariableFields) : Moves Advance (registerVariable f) := by
  intro b
  unfold registerVariable
  cases hb : branchesOf f.branches with
  | error e => exact composes_advance.bind (moves_error _) (fun _ => composes_advance.pure _) b
  | ok branches =>
    dsimp only
    cases hk : Kind.ofName? f.declared with
    | none =>
      refine Reports.moves (Reports.bind (moves_log _) fun _ => ?_) b
      exact composes_tells.pure _
    | some kind =>
      refine composes_advance.gives_lift _ fun value hl => ?_
      rw [gives_bind]
      refine Advance.edit (.declareVariable f.name ?_)
        (Reports.bind (moves_log _) fun _ => composes_tells.pure _)
      exact {
        kind := ⟨kind, Kind.eq_name_of_ofValue? hk, Value.fits_ofLiteral hl⟩
        conditional := rfl
        cases := casesDeclared_of_branchesOf hb
        tidy := Value.tidy_ofLiteral (Value.tidy_text _) hl }

theorem moves_registerHidden (f : HiddenFields) : Moves Advance (registerHidden f) := by
  intro b
  unfold registerHidden
  rw [gives_bind]
  refine Advance.edit (.putHidden f.name rfl (Value.tidy_text _) ⟨_, rfl⟩) ?_
  exact Reports.bind (moves_log _) fun _ => moves_log_tells _

theorem moves_registerTable (name literal : String) :
    Moves Advance (registerTable name literal) := by
  intro b
  unfold registerTable
  cases hc : readColumns literal with
  | error e => exact composes_advance.bind (moves_error _) (fun _ => composes_advance.pure _) b
  | ok columns =>
    dsimp only
    rw [gives_bind]
    refine Advance.edit (.declareTable name (declared_of_readColumns hc)) ?_
    refine Reports.bind (moves_log _) fun _ => composes_tells.bind ?_ fun _ => ?_
    · exact composes_tells.forM _ fun c _ => moves_log_tells _
    · exact composes_tells.pure _

/-! ### Unregistering -/

theorem moves_dropVariable (name : String) : Moves Advance (dropVariable name) := by
  intro b
  unfold dropVariable
  rw [gives_bind, gives_get]
  dsimp only
  split
  · rw [gives_bind]
    exact Advance.edit (.dropVariable name) (moves_log _)
  · exact composes_advance.refl _ b

theorem moves_dropTable (name : String) : Moves Advance (dropTable name) := by
  intro b
  unfold dropTable
  rw [gives_bind, gives_get]
  dsimp only
  split
  · rw [gives_bind]
    exact Advance.edit (.dropTable name) (moves_log _)
  · exact composes_advance.refl _ b

theorem moves_dropHidden (name : String) : Moves Advance (dropHidden name) := by
  intro b
  unfold dropHidden
  rw [gives_bind, gives_get]
  dsimp only
  split
  · rw [gives_bind]
    exact Advance.edit (.dropHidden name) (moves_log _)
  · exact composes_advance.refl _ b

theorem moves_register (raw : List Char) (r : Registration) : Moves Advance (register raw r) := by
  unfold register
  cases r with
  | newVariable fields => exact composes_advance.map (moves_registerVariable fields)
  | newVariables items =>
    refine composes_advance.map (composes_advance.forM _ fun fields _ => ?_)
    exact composes_advance.map (moves_registerVariable fields)
  | newHidden fields => exact composes_advance.map (moves_registerHidden fields)
  | newTable name columns => exact composes_advance.map (moves_registerTable name columns)
  | dropVariable name => exact composes_advance.map (moves_dropVariable name)
  | dropVariables names =>
    exact composes_advance.map (composes_advance.forM _ fun name _ => moves_dropVariable name)
  | dropTable name => exact composes_advance.map (moves_dropTable name)
  | dropHidden name => exact composes_advance.map (moves_dropHidden name)

/-! ### Texts -/

section Texts

variable {α : Type} {carryOut : List Char → α → BatchM (List Char)}

theorem moves_passes (h : ∀ raw a, Moves Advance (carryOut raw a)) (forms : List (Scanner α))
    (s : List Char) : Moves Advance (passes carryOut forms s) := by
  induction forms generalizing s with
  | nil => exact composes_advance.pure _
  | cons form forms ih =>
    refine composes_advance.bind ?_ fun s => ih s
    refine composes_advance.map (composes_advance.mapM _ fun segment _ => ?_)
    cases segment with
    | plain c => exact composes_advance.pure _
    | hit raw a => exact h raw a

/-- What a text does to a state, and that its log is empty only if it did nothing. -/
theorem run_spec (h : ∀ raw a, Moves Advance (carryOut raw a)) (forms : List (Scanner α))
    (text : String) (s : State) :
    Edits s (run forms carryOut text s).2 ∧
      ∀ result, (run forms carryOut text s).1 = .ok result → result.changed = false →
        (run forms carryOut text s).2 = s := by
  have hp := moves_passes h forms (decodeEntities text.toList) { state := s }
  unfold run
  unfold Gives at hp
  generalize (passes carryOut forms (decodeEntities text.toList)).run { state := s } = p at hp
  obtain ⟨outcome, b⟩ := p
  refine ⟨hp.edits, ?_⟩
  intro result hr hunchanged
  cases outcome with
  | error e => cases hr
  | ok text =>
    cases hr
    refine hp.logged rfl ?_
    simpa [BatchResult.changed] using hunchanged

end Texts

end Batch

theorem State.applyChanges_spec (names : TagNames) (text : String) (s : State) :
    Edits s (s.applyChanges names text).2 ∧
      ∀ result, (s.applyChanges names text).1 = .ok result → result.changed = false →
        (s.applyChanges names text).2 = s :=
  Batch.run_spec Batch.moves_change _ text s

theorem State.applyRegistrations_spec (names : TagNames) (text : String) (s : State) :
    Edits s (s.applyRegistrations names text).2 ∧
      ∀ result, (s.applyRegistrations names text).1 = .ok result → result.changed = false →
        (s.applyRegistrations names text).2 = s :=
  Batch.run_spec Batch.moves_register _ text s

end StoryState
