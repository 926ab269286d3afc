import StoryState.Proofs.Directive.Frame
import StoryState.Proofs.Directive.Range

/-!
Changes respect what is declared. Whatever a text of changes does before it ends or stops, everything
that was there is still there, declared as it was and in its old order; what is new comes behind, and
is a variable or a hidden variable. Only a variable that a change carried out names is given another
value, and only a table that one names other rows (`State.applyChanges_grown`).
-/

namespace StoryState

open StoryState.Text

/-! ### States that grow -/

/-- A state that has grown to another: what was declared stays as it was declared, in its order, with
what is new behind it; only variables among `named` have another value, and only tables among `filled`
other rows. -/
structure State.Grown (named filled : List String) (s s' : State) : Prop where
  vars : s.vars.keys <+: s'.vars.keys
  tables : s'.tables.keys = s.tables.keys
  hidden : s.hidden.keys <+: s'.hidden.keys
  eachVariable : ∀ name x, Entries.get? name s.vars = some x →
    ∃ v, Entries.get? name s'.vars = some { x with value := v } ∧ (name ∉ named → v = x.value)
  eachTable : ∀ name t, Entries.get? name s.tables = some t →
    ∃ rows, Entries.get? name s'.tables = some { t with rows } ∧ (name ∉ filled → rows = t.rows)

namespace State.Grown

variable {named filled : List String} {s s' s'' : State}

theorem refl (s : State) : Grown named filled s s where
  vars := List.prefix_refl _
  tables := rfl
  hidden := List.prefix_refl _
  eachVariable := fun _ x found => ⟨x.value, found, fun _ => rfl⟩
  eachTable := fun _ t found => ⟨t.rows, found, fun _ => rfl⟩

theorem trans (h : Grown named filled s s') (h' : Grown named filled s' s'') :
    Grown named filled s s'' where
  vars := h.vars.trans h'.vars
  tables := h'.tables.trans h.tables
  hidden := h.hidden.trans h'.hidden
  eachVariable := by
    intro name x found
    obtain ⟨v, found', hv⟩ := h.eachVariable name x found
    obtain ⟨v', found'', hv'⟩ := h'.eachVariable name _ found'
    exact ⟨v', found'', fun hname => (hv' hname).trans (hv hname)⟩
  eachTable := by
    intro name t found
    obtain ⟨rows, found', hrows⟩ := h.eachTable name t found
    obtain ⟨rows', found'', hrows'⟩ := h'.eachTable name _ found'
    exact ⟨rows', found'', fun hname => (hrows' hname).trans (hrows hname)⟩

/-- A new variable. -/
theorem declare {name : String} (absent : Entries.get? name s.vars = none) (x : Variable) :
    Grown named filled s { s with vars := s.vars.put name x } where
  vars := by
    rw [Entries.keys_put, if_neg (Entries.get?_eq_none_iff.1 absent)]
    exact List.prefix_append _ _
  tables := rfl
  hidden := List.prefix_refl _
  eachVariable := by
    intro other y found
    have hne : name ≠ other := by
      rintro rfl
      simp [absent] at found
    exact ⟨y.value, (Entries.get?_put_of_ne hne x s.vars).trans found, fun _ => rfl⟩
  eachTable := fun _ t found => ⟨t.rows, found, fun _ => rfl⟩

/-- Another value of a variable. -/
theorem assign {name : String} (mem : name ∈ named) {x : Variable}
    (found : Entries.get? name s.vars = some x) (v : Value) :
    Grown named filled s { s with vars := s.vars.put name { x with value := v } } where
  vars := by rw [Entries.keys_put_of_get? found]
  tables := rfl
  hidden := List.prefix_refl _
  eachVariable := by
    intro other y found'
    by_cases hname : name = other
    · subst hname
      obtain rfl : x = y := by simpa [found] using found'
      exact ⟨v, Entries.get?_put_self .., fun hnamed => absurd mem hnamed⟩
    · exact ⟨y.value, (Entries.get?_put_of_ne hname _ s.vars).trans found', fun _ => rfl⟩
  eachTable := fun _ t found => ⟨t.rows, found, fun _ => rfl⟩

/-- Other rows of a table. -/
theorem fill {name : String} (mem : name ∈ filled) {t : Table}
    (found : Entries.get? name s.tables = some t) (rows : List (Entries Value)) :
    Grown named filled s { s with tables := s.tables.put name { t with rows } } where
  vars := List.prefix_refl _
  tables := Entries.keys_put_of_get? found _
  hidden := List.prefix_refl _
  eachVariable := fun _ x found => ⟨x.value, found, fun _ => rfl⟩
  eachTable := by
    intro other u found'
    by_cases hname : name = other
    · subst hname
      obtain rfl : t = u := by simpa [found] using found'
      exact ⟨rows, Entries.get?_put_self .., fun hfilled => absurd mem hfilled⟩
    · exact ⟨u.rows, (Entries.get?_put_of_ne hname _ s.tables).trans found', fun _ => rfl⟩

/-- A hidden variable, new or in the place of another one. -/
theorem hide (name : String) (h : Hidden) :
    Grown named filled s { s with hidden := s.hidden.put name h } where
  vars := List.prefix_refl _
  tables := rfl
  hidden := by
    rw [Entries.keys_put]
    split
    · exact List.prefix_refl _
    · exact List.prefix_append _ _
  eachVariable := fun _ x found => ⟨x.value, found, fun _ => rfl⟩
  eachTable := fun _ t found => ⟨t.rows, found, fun _ => rfl⟩

end State.Grown

/-- What a state has grown to goes along with all that changes write. -/
theorem Batch.frame_grown (named filled : List String) :
    Frame (fun _ b b' => b.state.Grown named filled b'.state) (· ∈ named) (· ∈ filled) (fun _ => True) where
  refl _ b := .refl b.state
  trans h h' := h.trans h'
  logs b _ := .refl b.state
  declares _ _ x _ absent := .declare absent x
  assigns _ _ _ v mem found := .assign mem found v
  fills _ _ _ rows mem found := .fill mem found rows
  hides _ name x _ := .hide name x

/-! ### Texts -/

/-- The changes of a text that are carried out on a state: those found in it, up to one that stops. -/
def Change.executed (names : TagNames) (text : String) (s : State) : List Change :=
  Batch.begun Batch.perform (Change.foundIn names text) { state := s }

theorem Change.executed_prefix (names : TagNames) (text : String) (s : State) :
    executed names text s <+: foundIn names text := Batch.begun_prefix ..

/-- If the changes of a text go through, all that are found in it are carried out. -/
theorem Change.executed_eq {names : TagNames} {text : String} {s : State}
    (h : (s.applyChanges names text).1.isOk = true) : executed names text s = foundIn names text := by
  refine Batch.begun_eq_self ?_
  rw [State.applyChanges, Batch.change_eq, Batch.run_eq, Batch.execute] at h
  rw [foundIn]
  generalize ((Batch.agenda (fun _ => false) (Directive.changeForms names)
    (decodeEntities text.toList)).forM Batch.perform).run { state := s } = p at h ⊢
  obtain ⟨outcome, b⟩ := p
  cases outcome with
  | error e => cases h
  | ok u => rfl

/-- Whatever the changes of a text do to a state, be it that they stop, it only grows, and only variables
and tables are written that changes carried out name. -/
theorem State.applyChanges_grown (names : TagNames) (text : String) (s : State) :
    let executed := Change.executed names text s
    s.Grown (executed.flatMap Change.named) (executed.filterMap Change.filled?)
      (s.applyChanges names text).2 := by
  intro executed
  have hgrows : Gives ((Change.foundIn names text).forM Batch.perform) { state := s } fun _ b' =>
      s.Grown (executed.flatMap Change.named) (executed.filterMap Change.filled?) b'.state := by
    have frame := Batch.frame_grown (executed.flatMap Change.named) (executed.filterMap Change.filled?)
    refine Batch.gives_forM_begun frame.toComposes fun c hc => frame.moves_perform ?_ ?_ ?_
    · intro name hname
      exact List.mem_flatMap.2 ⟨c, hc, hname⟩
    · intro name hname
      exact List.mem_filterMap.2 ⟨c, hc, hname⟩
    · intro name _
      trivial
  rw [State.applyChanges, Batch.change_eq, Batch.run_eq]
  exact hgrows

end StoryState
