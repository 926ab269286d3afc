import StoryState.Proofs.Directive.Range

/-!
When directives stop: a text of directives is carried out to its end just if every directive is in
range when its turn comes (`TextCall.returns_iff`). A registration with a numeral that is too long
stops those behind it.
-/

namespace StoryState

open StoryState.Text StoryState.Directive

namespace Batch

/-! ### Table rows -/

section Rows

variable {b : Batch} {β : Type} {ok : Prop} {table : String} {t : Table}

theorem goes_putTable {f : Unit → BatchM β} (hb : b.state.Showable) (table : String)
    (ht : ∀ row ∈ t.rows, (Value.object row).isWritable = true) (hf : Says (f ()) ok) :
    Goes (putTable table t >>= f) b ok := by
  unfold Goes
  rw [gives_bind]
  exact hf.goes (hb.putTable table ht)

/-- Setting a cell, which changes nothing of its table but the rows. -/
theorem gives_setCell (hb : b.state.Sound) (found : Entries.get? table b.state.tables = some t)
    (index : Nat) (column literal : String) :
    Gives (setCell table index column literal) b fun r b' =>
      (b'.state.Showable ∧ (r.isOk = true ↔ t.Legible (column, literal))) ∧
        ∃ rows, Entries.get? table b'.state.tables = some { t with rows } := by
  unfold setCell
  rw [gives_bind, gives_findTable]
  dsimp only
  rw [found]
  dsimp only
  cases hc : t.column? column with
  | none => exact ⟨⟨hb.showable, iff_of_true rfl fun c h => nomatch hc.symm.trans h⟩, t.rows, found⟩
  | some c =>
    have hrange : t.Legible (column, literal) ↔ (c.kind? = some .number → Number.Legible literal) :=
      ⟨fun h => h c hc, fun h d hd => by cases hc.symm.trans hd; exact h⟩
    dsimp only
    rw [gives_lift_bind, hrange, ← Value.isOk_ofLiteral]
    cases hl : Value.ofLiteral c.kind? (.text literal) with
    | error e => exact ⟨⟨hb.showable, Iff.rfl⟩, t.rows, found⟩
    | ok new =>
      have hnew : new.isWritable = true := Value.inherited_isWritable.of_ofLiteral rfl hl
      have hold : ((Entries.get? column (t.rows.getD index [])).getD .null).isWritable = true :=
        Value.inherited_isWritable.under (hb.showable.row found index) column
      dsimp only
      rw [gives_bind, putTable, gives_modify]
      dsimp only
      refine gives_mono (says_texts _ _) ?_
      rintro r b' ⟨hstate, hiff⟩
      refine ⟨⟨?_, hiff.trans (iff_of_true ⟨hold, hnew⟩ rfl)⟩, ?_⟩
      · rw [hstate]
        exact hb.showable.setCell found index column hnew
      · rw [hstate]
        exact ⟨_, Entries.get?_put_self _ _ _⟩

/-- The cells of a row go through just if each is legible below the columns of the table. -/
theorem goes_cells (hb : b.state.Sound) (found : Entries.get? table b.state.tables = some t)
    (index : Nat) (cells : List (String × String)) :
    Goes (cells.forM fun cell => setCell table index cell.1 cell.2) b
      (∀ cell ∈ cells, t.Legible cell) := by
  induction cells generalizing b t with
  | nil => exact (goes_pure hb.showable ()).congr (iff_of_true trivial (by simp))
  | cons cell cells ih =>
    obtain ⟨column, literal⟩ := cell
    obtain ⟨hgoes, rows, hfound⟩ := gives_setCell hb found index column literal
    have hsound := hb.along (moves_setCell table index column literal b).edits hgoes.1
    rw [List.forall_mem_cons]
    exact Goes.next hgoes (ih (t := { t with rows }) hsound hfound)

theorem isOk_rowIndex (row : String) (size : Nat) :
    (rowIndex? row size).isOk = true ↔ Number.LegibleAtHead row := by
  rw [← Value.isOk_leadingInt, rowIndex?]
  cases Value.leadingInt? row.toList with
  | error e => exact Iff.rfl
  | ok i =>
    refine iff_of_true ?_ rfl
    rcases i with _ | ⟨n | n⟩ <;> rfl

/-- A step on a table, which is not taken if there is none. -/
theorem goes_findTable (hb : b.state.Showable) {table : String} {f : Option Table → BatchM Unit}
    {ok : Table → Prop} (hnone : f none = pure ())
    (hsome : ∀ t, Entries.get? table b.state.tables = some t → Goes (f (some t)) b (ok t)) :
    Goes (findTable? table >>= f) b (∀ t, Entries.get? table b.state.tables = some t → ok t) := by
  unfold Goes
  rw [gives_bind, gives_findTable]
  dsimp only
  cases found : Entries.get? table b.state.tables with
  | none =>
    rw [hnone]
    exact (goes_pure hb ()).congr (iff_of_true trivial nofun)
  | some t =>
    simp only [Option.some.injEq, forall_eq']
    exact hsome t found

theorem goes_setCells (hb : b.state.Sound) (table row content : String) :
    Goes (setCells table row content) b ((Change.setCells table row content).InRange b) := by
  refine goes_findTable hb.showable rfl fun t found => ?_
  rw [← isOk_rowIndex row t.rows.length]
  refine Goes.congr (goes_lift_bind hb.showable fun index? _ =>
    show Goes _ b (∀ i, index? = some i → ∀ cell ∈ cells content, t.Legible cell) from ?_) ?_
  · cases index? with
    | none => exact (goes_pure hb.showable ()).congr (iff_of_true trivial (by rintro _ ⟨⟩))
    | some index => simpa only [Option.some.injEq, forall_eq'] using goes_cells hb found index _
  · cases rowIndex? row t.rows.length with
    | error e => exact iff_of_false (by rintro ⟨_, ⟨⟩, _⟩) (by rintro ⟨⟨⟩, _⟩)
    | ok index? => simp [Except.isOk, Except.toBool]

/-- The literals of a row are read just if each is legible below the columns of the table. -/
theorem isOk_rowOf (cells : List (String × String)) (row : Entries Value) :
    (rowOf t cells row).isOk = true ↔ ∀ cell ∈ cells, t.Legible cell := by
  induction cells generalizing row with
  | nil => exact iff_of_true rfl (by simp)
  | cons cell cells ih =>
    rw [rowOf, List.forall_mem_cons]
    cases hc : t.column? cell.1 with
    | none =>
      refine (ih row).trans (and_iff_right fun c h => ?_).symm
      rw [hc] at h
      cases h
    | some c =>
      have hcell : t.Legible cell ↔ (Value.ofLiteral c.kind? (.text cell.2)).isOk = true := by
        rw [Value.isOk_ofLiteral, Table.Legible, hc]
        simp only [Option.some.injEq, forall_eq']
      rw [hcell]
      dsimp only
      cases Value.ofLiteral c.kind? (.text cell.2) with
      | error e => exact iff_of_false Bool.false_ne_true fun h => Bool.false_ne_true h.1
      | ok v => exact (ih _).trans (and_iff_right rfl).symm

/-- The columns that a row lacks have names that are texts. -/
theorem texts_of_missing (row : Entries Value) {columns : List Column}
    (hcolumns : ∀ c ∈ columns, c.Declared) :
    ∃ names : List String, missing row columns = .ok (names.map .text) := by
  induction columns with
  | nil => exact ⟨[], rfl⟩
  | cons c columns ih =>
    obtain ⟨name, k, -, hname, -⟩ := hcolumns c (by simp)
    obtain ⟨names, hnames⟩ := ih fun d hd => hcolumns d (by simp [hd])
    rw [missing, hname, hnames]
    show ∃ names', (if (c.required && !row.has name) = true then _ else _) = _
    split
    · exact ⟨name :: names, rfl⟩
    · exact ⟨names, rfl⟩

theorem nameList_texts (names : List String) : ∃ line, nameList (names.map .text) = .ok line := by
  refine exists_bind_ok (exists_mapM_ok ?_) fun texts => ⟨_, rfl⟩
  rintro ⟨v, i⟩ hv
  obtain ⟨s, -, rfl⟩ := List.mem_map.1 (List.fst_mem_of_mem_zipIdx hv)
  exact ⟨s, rfl⟩

theorem goes_addRow (hb : b.state.Sound) (table content : String) :
    Goes (addRow table content) b ((Change.addRow table content).InRange b) := by
  refine goes_findTable hb.showable rfl fun t found => ?_
  unfold Goes
  rw [← isOk_rowOf (cells content) [], gives_lift_bind]
  cases hrow : rowOf t (cells content) [] with
  | error e => exact ⟨hb.showable, Iff.rfl⟩
  | ok row =>
    have hwritable : (Value.object row).isWritable = true :=
      Value.inherited_isWritable.of_rowOf hrow Value.inherited_isWritable.emptyObject
    have hcolumns := (hb.wellFormed.tables table t (Entries.mem_of_get? found)).columns
    obtain ⟨names, hnames⟩ := texts_of_missing row hcolumns
    dsimp only
    rw [hnames, gives_lift_bind]
    dsimp only
    split
    · refine (goes_putTable hb.showable table (fun row' hrow' => ?_) (says_row row _)).congr
        (iff_of_true hwritable rfl)
      rcases List.mem_append.1 hrow' with hrow' | hrow'
      · exact hb.showable.rows table t (Entries.mem_of_get? found) row' hrow'
      · exact List.mem_singleton.1 hrow' ▸ hwritable
    · obtain ⟨line, hline⟩ := nameList_texts names
      rw [hline, gives_lift_bind]
      exact ((says_log _).goes hb.showable).congr (iff_of_true trivial rfl)

theorem goes_removeRow (hb : b.state.Sound) (table row : String) :
    Goes (removeRow table row) b ((Change.removeRow table row).InRange b) := by
  refine goes_findTable hb.showable rfl fun t found => ?_
  unfold Goes
  rw [← isOk_rowIndex row t.rows.length, gives_lift_bind]
  cases rowIndex? row t.rows.length with
  | error e => exact ⟨hb.showable, Iff.rfl⟩
  | ok index? =>
    cases index? with
    | none => exact ((says_log _).goes hb.showable).congr (iff_of_true trivial rfl)
    | some index =>
      refine (goes_putTable hb.showable table (fun row' hrow' => ?_) (says_row _ _)).congr
        (iff_of_true (hb.showable.row found index) rfl)
      exact hb.showable.rows table t (Entries.mem_of_get? found) row'
        (List.mem_of_mem_eraseIdx hrow')

end Rows

/-! ### Hidden variables -/

section HiddenVariables

variable {b : Batch} {β : Type} {ok : Prop}

theorem goes_putHidden {f : Unit → BatchM β} (hb : b.state.Showable) (name : String) {h : Hidden}
    (hh : h.value.isWritable = true) (hf : Says (f ()) ok) : Goes (putHidden name h >>= f) b ok := by
  unfold Goes
  rw [gives_bind]
  exact hf.goes (hb.putHidden name hh)

theorem goes_setHidden (hb : b.state.Sound) (fields : HiddenFields) :
    Goes (setHidden fields) b True := by
  unfold setHidden Goes
  rw [gives_bind, gives_findHidden]
  dsimp only
  cases found : Entries.get? fields.name b.state.hidden with
  | some old =>
    have hold := hb.showable.hidden fields.name old (Entries.mem_of_get? found)
    exact (goes_putHidden hb.showable fields.name rfl (says_texts _)).congr
      (iff_of_true ⟨hold, rfl⟩ trivial)
  | none =>
    exact (goes_putHidden hb.showable fields.name rfl (says_text _)).congr (iff_of_true rfl trivial)

theorem goes_registerHidden (hb : b.state.Sound) (fields : HiddenFields) :
    Goes (registerHidden fields) b True :=
  goes_putHidden hb.showable fields.name rfl (Says.bind (says_log _) fun _ => says_log _)

end HiddenVariables

/-! ### Directives -/

section Directives

variable {b : Batch}

theorem goes_perform (hb : b.state.Sound) (c : Change) : Goes (perform c) b (c.InRange b) := by
  unfold perform
  cases c with
  | setVariable name value => exact (goes_setVariable hb name value).leaving
  | assign content => exact (goes_assignAll hb content).leaving
  | setCells table row content => exact (goes_setCells hb table row content).leaving
  | addRow table content => exact (goes_addRow hb table content).leaving
  | removeRow table row => exact (goes_removeRow hb table row).leaving
  | setHidden fields => exact (goes_setHidden hb fields).leaving

theorem goes_registerVariable (hb : b.state.Sound) (fields : VariableFields) :
    Goes (registerVariable fields) b fields.InRange := by
  unfold registerVariable VariableFields.InRange VariableFields.refusal?
  cases branchesOf fields.branches with
  | error e => exact ⟨hb.showable, iff_of_true rfl nofun⟩
  | ok branches =>
    dsimp only
    cases hk : Kind.ofName? fields.declared with
    | none =>
      refine ((Says.bind (says_log _) fun _ => says_pure true).goes hb.showable).congr ?_
      exact iff_of_true trivial fun _ => nofun
    | some kind =>
      have hread : (Value.ofLiteral (some kind) (.text fields.initial)).isOk = true ↔
          (some kind = some .number → Number.Legible fields.initial) := Value.isOk_ofLiteral
      rw [forall_prop_of_true rfl, ← hread, isOk_iff]
      refine (goes_lift_bind hb.showable fun value hvalue => goes_putVariable hb.showable fields.name
        (fun _ => Value.inherited_isWritable.of_ofLiteral rfl hvalue)
        (Says.bind (says_log _) fun _ => says_pure true)).congr ?_
      simp only [and_true]

theorem goes_registerTable (hb : b.state.Sound) (name literal : String) :
    Goes (registerTable name literal) b True := by
  unfold registerTable
  cases readColumns literal with
  | error e => exact ⟨hb.showable, iff_of_true rfl trivial⟩
  | ok columns =>
    have hcolumns : ∀ columns : List Column, Says (columns.forM fun c =>
        log ("   - 列: $\x7b" ++ name ++ "." ++ c.name.shown ++ "\x7d")) True := by
      intro columns
      induction columns with
      | nil => exact says_pure ()
      | cons c columns ih => exact Says.bind (says_log _) fun _ => ih
    refine goes_putTable hb.showable name (by simp) (Says.bind (says_log _) fun _ => ?_)
    exact Says.bind (hcolumns columns) fun _ => says_pure true

/-- Dropping something, and a line about it if it was there. -/
theorem goes_drop (hb : b.state.Showable) (has : State → Bool) (drop : State → State)
    (hdrop : (drop b.state).Showable) (sort name : String) :
    Goes (do
        if has (← get).state then
          modify fun b => { b with state := drop b.state }
          logDropped sort name) b True := by
  unfold Goes
  rw [gives_bind, gives_get]
  dsimp only
  split
  · rw [gives_bind, gives_modify]
    exact (says_log _).goes hdrop
  · exact goes_pure hb ()

theorem goes_dropVariable (hb : b.state.Sound) (name : String) : Goes (dropVariable name) b True :=
  goes_drop hb.showable (fun s => s.vars.has name) (fun s => { s with vars := s.vars.erase name })
    ⟨fun n x hx => hb.showable.vars n x (Entries.mem_erase hx), hb.showable.rows,
      hb.showable.hidden⟩ _ _

theorem goes_dropTable (hb : b.state.Sound) (name : String) : Goes (dropTable name) b True :=
  goes_drop hb.showable (fun s => s.tables.has name)
    (fun s => { s with tables := s.tables.erase name })
    ⟨hb.showable.vars, fun n t ht => hb.showable.rows n t (Entries.mem_erase ht),
      hb.showable.hidden⟩ _ _

theorem goes_dropHidden (hb : b.state.Sound) (name : String) : Goes (dropHidden name) b True :=
  goes_drop hb.showable (fun s => s.hidden.has name)
    (fun s => { s with hidden := s.hidden.erase name })
    ⟨hb.showable.vars, hb.showable.rows,
      fun n h hh => hb.showable.hidden n h (Entries.mem_erase hh)⟩ _ _

theorem goes_enroll (hb : b.state.Sound) (r : Registration) : Goes (enroll r) b r.InRange := by
  cases r with
  | newVariable fields =>
    rw [enroll_newVariable]
    exact (goes_registerVariable hb fields).discard
  | newVariables items =>
    rw [enroll_newVariables]
    refine (goes_forM (fun fields => ?_) (fun fields _ h => (goes_registerVariable h fields).discard)
      items hb).congr (inTurn_const items b)
    exact composes_advance.map (moves_registerVariable fields)
  | newHidden fields => exact (goes_registerHidden hb fields).leaving
  | newTable name columns =>
    rw [enroll_newTable]
    exact (goes_registerTable hb name columns).discard
  | dropVariable name => exact (goes_dropVariable hb name).leaving
  | dropVariables names =>
    refine Goes.leaving ((goes_forM moves_dropVariable (fun name _ h => goes_dropVariable h name)
      names hb).congr ((inTurn_const names b).trans ?_))
    exact iff_of_true (fun _ _ => trivial) trivial
  | dropTable name => exact (goes_dropTable hb name).leaving
  | dropHidden name => exact (goes_dropHidden hb name).leaving

/-- Carrying out directives leads to a showable state, and goes through just if each is in range when
its turn comes. -/
theorem execute_spec {α : Type} {act : α → BatchM Unit} {ok : α → Batch → Prop}
    (moves : ∀ a, Moves Advance (act a)) (goes : ∀ a b, b.state.Sound → Goes (act a) b (ok a b))
    {s : State} (hs : s.Sound) (directives : List α) (cleanText : String) :
    (execute act directives cleanText s).2.Showable ∧
      ((∃ r, (execute act directives cleanText s).1 = .ok r) ↔
        InTurn act ok directives { state := s }) := by
  obtain ⟨hshowable, hiff⟩ := goes_forM moves goes directives (b := { state := s }) hs
  refine ⟨hshowable, Iff.trans ?_ hiff⟩
  rw [← isOk_iff]
  unfold execute
  cases (directives.forM act).run { state := s } with
  | mk outcome b => cases outcome <;> exact Iff.rfl

theorem moves_perform (c : Change) : Moves Advance (perform c) :=
  composes_advance.map (moves_change [] c)

theorem moves_enroll (r : Registration) : Moves Advance (enroll r) :=
  composes_advance.map (moves_register [] r)

end Directives

end Batch

/-! ### Texts -/

section Texts

variable {s : State}

theorem State.Sound.applyChanges (hs : s.Sound) (names : TagNames) (text : String) :
    (s.applyChanges names text).2.Showable ∧ ((∃ r, (s.applyChanges names text).1 = .ok r) ↔
      Batch.InTurn Batch.perform Change.InRange (Change.foundIn names text) { state := s }) := by
  rw [State.applyChanges, Batch.change_eq, Batch.run_eq]
  exact Batch.execute_spec Batch.moves_perform (fun c _ h => Batch.goes_perform h c) hs _ _

theorem State.Sound.applyRegistrations (hs : s.Sound) (names : TagNames) (text : String) :
    (s.applyRegistrations names text).2.Showable ∧
      ((∃ r, (s.applyRegistrations names text).1 = .ok r) ↔
        ∀ r ∈ Registration.foundIn names text, r.InRange) := by
  rw [State.applyRegistrations, Batch.register_eq, Batch.run_eq]
  have goes : ∀ r b, b.state.Sound → Batch.Goes (Batch.enroll r) b r.InRange :=
    fun r _ h => Batch.goes_enroll h r
  refine (Batch.execute_spec Batch.moves_enroll goes hs _ _).imp_right fun h => ?_
  exact h.trans (Batch.inTurn_const _ _)

theorem State.sound_empty : State.Sound {} :=
  ⟨⟨by simp, by simp, by simp⟩, ⟨by simp, by simp, by simp⟩⟩

/-- A call keeps a state sound, also if it stops midway. -/
theorem State.Sound.after (hs : s.Sound) (call : TextCall) : (call.after s).Sound := by
  refine hs.along (call.edits s) ?_
  cases call with
  | register names text => exact (hs.applyRegistrations names text).1
  | change names text => exact (hs.applyChanges names text).1
  | read defaultId text depth =>
    exact (s.replaceMacros_spec defaultId text depth).expiry.showable hs.showable

theorem State.Sound.afterAll (hs : s.Sound) (calls : List TextCall) :
    (calls.foldl TextCall.after s).Sound := by
  induction calls generalizing s with
  | nil => exact hs
  | cons call calls ih => exact ih (hs.after call)

/-- After any sequence of calls on a state that began empty, the directives of a text are carried out
to the end just if each is in range: the numbers that registrations declare can be read, and each
change is in range in the batch in which its turn comes. -/
theorem TextCall.returns_iff (calls : List TextCall) (names : TagNames) (text : String) :
    let s : State := calls.foldl TextCall.after {}
    ((∃ r, (s.applyRegistrations names text).1 = .ok r) ↔
        ∀ r ∈ Registration.foundIn names text, r.InRange) ∧
      ((∃ r, (s.applyChanges names text).1 = .ok r) ↔
        Batch.InTurn Batch.perform Change.InRange (Change.foundIn names text) { state := s }) := by
  have hs := State.sound_empty.afterAll calls
  exact ⟨(hs.applyRegistrations names text).2, (hs.applyChanges names text).2⟩

end Texts

/-! A registration with a numeral that is too long, and one behind it. -/

/-- A number with a literal and a text, both to be registered. -/
def numberAndText (literal : String) : List (Segment Registration) :=
  [.hit ("<registerVar name=\"x\" type=\"number\" initVal=\"".toList ++ literal.toList ++
        "\"/>".toList)
      (.newVariable ⟨"x", "number", literal, none⟩),
    .hit "<registerVar name=\"y\" type=\"string\" initVal=\"b\"/>".toList
      (.newVariable ⟨"y", "string", "b", none⟩)]

theorem legible_numberAndText {literal : String}
    (h : '"' ∉ literal.toList ∧ Unmarked literal.toList) :
    ∀ g ∈ numberAndText literal, Legible (RegistrationText .standard) g := by
  have hends : EndText ['/', '>'] ['/', '>'] := @EndText.intro _ [] (by decide)
  have hname : AttributeText '"' "name" "x" _ := .spaced (by decide)
  have htype : AttributeText '"' "type" "number" _ := .spaced (by decide)
  have hraw : VariableText "registerVar" ⟨"x", "number", literal, none⟩ _ :=
    .intro (by simp) (by simp) hname htype (.spaced h) .absent hends
  have hx : VariableText "registerVar" ⟨"x", "number", literal, none⟩
      ("<registerVar name=\"x\" type=\"number\" initVal=\"".toList ++ literal.toList ++
        "\"/>".toList) := by
    simpa [opened] using hraw
  have hy : VariableText "registerVar" ⟨"y", "string", "b", none⟩ _ :=
    .intro (by decide) (by decide) (.spaced (by decide)) (.spaced (by decide)) (.spaced (by decide))
      .absent hends
  simp only [numberAndText, List.forall_mem_cons, List.not_mem_nil, false_implies, implies_true,
    and_true]
  exact ⟨.newVariable hx, .newVariable hy⟩

/-- A number that cannot be read stops the registrations behind it. -/
theorem applyRegistrations_numberAndText {literal : String} {e : Fault}
    (h : '"' ∉ literal.toList ∧ Unmarked literal.toList)
    (hread : Number.ofText literal.toList = .error e) :
    State.applyRegistrations .standard (String.ofList (textOf (numberAndText literal))) {} =
      (.error e, {}) := by
  have hliteral : Value.ofLiteral (some .number) (.text literal) = .error e :=
    congrArg (Except.map Value.ofNumber) hread
  have hfirst : (Batch.enroll (.newVariable ⟨"x", "number", literal, none⟩)).run { state := {} } =
      (.error e, { state := {} }) := by
    have hkind : Kind.ofName? "number" = some .number := by decide
    rw [Batch.enroll_newVariable, Batch.discard_eq, run_bind, Batch.registerVariable]
    dsimp only [Batch.branchesOf]
    rw [hkind]
    dsimp only
    rw [hliteral]
    rfl
  rw [State.applyRegistrations_eq (legible_numberAndText h)]
  have hagenda : Registration.inOrder (fieldsOf (numberAndText literal)) =
      [.newVariable ⟨"x", "number", literal, none⟩, .newVariable ⟨"y", "string", "b", none⟩] := rfl
  rw [hagenda, Batch.execute, List.forM_eq_forM, List.forM_cons, run_bind, hfirst]
  rfl

theorem applyRegistrations_longNumeral :
    State.applyRegistrations .standard (String.ofList (textOf (numberAndText longNumeral))) {} =
      (.error (.numeralTooLong (Number.digitLimit + 1)), {}) := by
  have hones : ∀ c ∈ longNumeral.toList, c = '1' := by
    rw [longNumeral, String.toList_ofList]
    exact fun c hc => List.eq_of_mem_replicate hc
  refine applyRegistrations_numberAndText ⟨fun h => ?_, fun c hc => ?_⟩ ofText_longNumeral
  · exact absurd (hones _ h) (by decide)
  · rw [hones c hc]
    decide

end StoryState
