import StoryState.Proofs.Directive.Frame
import StoryState.Proofs.Directive.Refusal

/-!
Which directives have to do with a hidden variable: those that set it, register it and drop it. A
text without these leaves it as it is (`State.applyChanges_keeps`, `State.applyRegistrations_keeps`).
-/

namespace StoryState

open StoryState.Text

namespace Batch

/-- The hidden variable of a name is left as it is. -/
def KeepsHidden (name : String) (_ok : Bool) (b b' : Batch) : Prop :=
  Entries.get? name b'.state.hidden = Entries.get? name b.state.hidden

section Keeps

variable {name : String}

theorem composes_keeps : Composes (KeepsHidden name) := ⟨fun _ _ => rfl, fun h h' => h'.trans h⟩

theorem keeps_log (line : String) : Moves (KeepsHidden name) (log line) := fun _ => rfl

theorem keeps_error (line : String) : Moves (KeepsHidden name) (error line) := fun _ => rfl

theorem keeps_putVariable (other : String) (x : Variable) :
    Moves (KeepsHidden name) (putVariable other x) := fun _ => rfl

theorem keeps_putTable (other : String) (t : Table) : Moves (KeepsHidden name) (putTable other t) :=
  fun _ => rfl

theorem keeps_putHidden {other : String} (h : other ≠ name) (x : Hidden) :
    Moves (KeepsHidden name) (putHidden other x) := fun _ => Entries.get?_put_of_ne h _ _

/-- What changes write leaves the hidden variable as it is, unless it is written itself. -/
theorem frame_keeps : Frame (KeepsHidden name) (fun _ => True) (fun _ => True) (· ≠ name) where
  refl := composes_keeps.refl
  trans := composes_keeps.trans
  logs _ _ := rfl
  declares _ _ _ _ _ := rfl
  assigns _ _ _ _ _ _ := rfl
  fills _ _ _ _ _ _ := rfl
  hides _ _ x hne := Entries.get?_put_of_ne hne x _

/-! ### Registrations -/

theorem keeps_registerVariable (fields : VariableFields) :
    Moves (KeepsHidden name) (registerVariable fields) := by
  unfold registerVariable
  cases branchesOf fields.branches with
  | error e => exact composes_keeps.bind (keeps_error _) fun _ => composes_keeps.pure _
  | ok branches =>
    dsimp only
    cases Kind.ofName? fields.declared with
    | none => exact composes_keeps.bind (keeps_log _) fun _ => composes_keeps.pure _
    | some kind =>
      refine composes_keeps.bind (composes_keeps.lift _) fun value => ?_
      refine composes_keeps.bind (keeps_putVariable _ _) fun _ => ?_
      exact composes_keeps.bind (keeps_log _) fun _ => composes_keeps.pure _

theorem keeps_dropVariable (other : String) : Moves (KeepsHidden name) (dropVariable other) := by
  intro b
  unfold dropVariable
  rw [gives_bind, gives_get]
  dsimp only
  split
  · rfl
  · rfl

theorem keeps_registerTable (table literal : String) :
    Moves (KeepsHidden name) (registerTable table literal) := by
  unfold registerTable
  cases readColumns literal with
  | error e => exact composes_keeps.bind (keeps_error _) fun _ => composes_keeps.pure _
  | ok columns =>
    refine composes_keeps.bind (keeps_putTable _ _) fun _ => composes_keeps.bind (keeps_log _) fun _ => ?_
    refine composes_keeps.bind (composes_keeps.forM _ fun c _ => keeps_log _) fun _ => ?_
    exact composes_keeps.pure _

theorem keeps_dropTable (other : String) : Moves (KeepsHidden name) (dropTable other) := by
  intro b
  unfold dropTable
  rw [gives_bind, gives_get]
  dsimp only
  split
  · rfl
  · rfl

theorem keeps_registerHidden {fields : HiddenFields} (h : fields.name ≠ name) :
    Moves (KeepsHidden name) (registerHidden fields) := by
  refine composes_keeps.bind (keeps_putHidden h _) fun _ => ?_
  exact composes_keeps.bind (keeps_log _) fun _ => keeps_log _

theorem keeps_dropHidden {other : String} (h : other ≠ name) :
    Moves (KeepsHidden name) (dropHidden other) := by
  intro b
  unfold dropHidden
  rw [gives_bind, gives_get]
  dsimp only
  split
  · exact Entries.get?_erase_of_ne h _
  · rfl

end Keeps

end Batch

/-! ### Texts -/

/-- The hidden variable that a registration registers or drops. -/
def Registration.hiddenName? : Registration → Option String
  | .newHidden fields => some fields.name
  | .dropHidden name => some name
  | _ => none

/-- The hidden variables that the changes of a text set. -/
def Change.hiddenNames (names : TagNames) (text : String) : List String :=
  (Batch.agenda (fun _ => false) (Directive.changeForms names)
    (decodeEntities text.toList)).filterMap hiddenName?

/-- The hidden variables that the registrations of a text register or drop. -/
def Registration.hiddenNames (names : TagNames) (text : String) : List String :=
  (Batch.agenda Registration.stays (Directive.registrationForms names)
    (decodeEntities text.toList)).filterMap hiddenName?

section Texts

variable {name : String} {names : TagNames} {text : String}

theorem Batch.keeps_perform {c : Change} (h : c.hiddenName? ≠ some name) :
    Moves (KeepsHidden name) (perform c) := by
  refine frame_keeps.moves_perform (fun _ _ => trivial) (fun _ _ => trivial) ?_
  rintro other hother rfl
  exact h hother

theorem Batch.keeps_enroll {r : Registration} (h : r.hiddenName? ≠ some name) :
    Moves (KeepsHidden name) (enroll r) := by
  refine composes_keeps.map ?_
  cases r with
  | newVariable fields => exact composes_keeps.map (keeps_registerVariable fields)
  | newVariables items =>
    refine composes_keeps.map (composes_keeps.forM _ fun fields _ => ?_)
    exact composes_keeps.map (keeps_registerVariable fields)
  | newHidden fields => exact composes_keeps.map (keeps_registerHidden fun heq => h (congrArg some heq))
  | newTable table columns => exact composes_keeps.map (keeps_registerTable table columns)
  | dropVariable other => exact composes_keeps.map (keeps_dropVariable other)
  | dropVariables others =>
    exact composes_keeps.map (composes_keeps.forM _ fun other _ => keeps_dropVariable other)
  | dropTable table => exact composes_keeps.map (keeps_dropTable table)
  | dropHidden other => exact composes_keeps.map (keeps_dropHidden fun heq => h (congrArg some heq))

/-- What each directive leaves as it is, a batch of them leaves as it is. -/
theorem Batch.keeps_execute {α : Type} {act : α → BatchM Unit} {directives : List α}
    (h : ∀ a ∈ directives, Moves (KeepsHidden name) (act a)) (cleanText : String) (s : State) :
    Entries.get? name (execute act directives cleanText s).2.hidden = Entries.get? name s.hidden :=
  composes_keeps.forM directives h { state := s }

/-- The changes of a text leave a hidden variable as it is that none of them sets. -/
theorem State.applyChanges_keeps (h : name ∉ Change.hiddenNames names text) (s : State) :
    Entries.get? name (s.applyChanges names text).2.hidden = Entries.get? name s.hidden := by
  rw [State.applyChanges, Batch.change_eq, Batch.run_eq]
  refine Batch.keeps_execute (fun c hc => Batch.keeps_perform fun hname => h ?_) _ s
  exact List.mem_filterMap.2 ⟨c, hc, hname⟩

/-- The registrations of a text leave a hidden variable as it is that none of them registers or
drops. -/
theorem State.applyRegistrations_keeps (h : name ∉ Registration.hiddenNames names text) (s : State) :
    Entries.get? name (s.applyRegistrations names text).2.hidden = Entries.get? name s.hidden := by
  rw [State.applyRegistrations, Batch.register_eq, Batch.run_eq]
  refine Batch.keeps_execute (fun r hr => Batch.keeps_enroll fun hname => h ?_) _ s
  exact List.mem_filterMap.2 ⟨r, hr, hname⟩

end Texts

end StoryState
