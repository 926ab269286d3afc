import StoryState.Proofs.Directive.Repeated
import StoryState.Proofs.Directive.Returning

/-!
The row that a directive makes of a content. Under each name stands what the first column of that name makes
of the last literal that the content gives it (`reflects_rowOf`), and the row is added to its table just if
every required column has been given a literal (`State.perform_addRow`).
-/

namespace StoryState

/-- The cell that a column makes of a literal. -/
def Column.cell (c : Column) (literal : String) : Except Fault Value :=
  Value.ofLiteral c.kind? (.text literal)

/-- Under each name a row has what the column chosen for it makes of the literal that is given, and under
others nothing. -/
def Reflects (column? : String → Option Column) (given : Entries String) (row : Entries Value) : Prop :=
  ∀ name, Entries.get? name row = (Entries.get? name given).bind fun literal =>
    (column? name).bind fun c => (c.cell literal).toOption

/-- The literals that a content gives to names; of two for one name the later counts. -/
def Batch.given (content : String) : Entries String := Entries.ofList (cells content)

/-- Every required column is given a literal. -/
def Table.Covered (t : Table) (given : Entries String) : Prop :=
  ∀ c ∈ t.columns, c.required = true → ∀ name, c.name = .text name → given.has name = true

/-- The state with another row in a table, if there is one. -/
def State.withRow? (s : State) (table : String) (t : Table) : Option (Entries Value) → State
  | none => s
  | some row => { s with tables := s.tables.put table { t with rows := t.rows ++ [row] } }

/-! ### Reflecting what is given -/

section Reflects

variable {column? : String → Option Column} {given : Entries String} {row row' : Entries Value}
  {name literal : String}

theorem reflects_nil : Reflects column? [] [] := fun _ => rfl

/-- A cell is put under a name, of which alone the literal or the column is another one than before. -/
theorem Reflects.update {column?' : String → Option Column} {given' : Entries String}
    (h : Reflects column? given row)
    (others : ∀ key, name ≠ key → Entries.get? key given' = Entries.get? key given ∧ column?' key = column? key)
    (hgiven : Entries.get? name given' = some literal) {c : Column} (below : column?' name = some c) {v : Value}
    (read : c.cell literal = .ok v) : Reflects column?' given' (row.put name v) := by
  intro key
  by_cases hkey : name = key
  · subst hkey
    rw [Entries.get?_put_self, hgiven, Option.bind_some, below, Option.bind_some, read]
    rfl
  · rw [Entries.get?_put_of_ne hkey, (others key hkey).1, (others key hkey).2]
    exact h key

/-- A literal more is given, for which there is a column. -/
theorem Reflects.put (h : Reflects column? given row) {c : Column} (below : column? name = some c) {v : Value}
    (read : c.cell literal = .ok v) : Reflects column? (given.put name literal) (row.put name v) :=
  h.update (fun _ hkey => ⟨Entries.get?_put_of_ne hkey .., rfl⟩) (Entries.get?_put_self ..) below read

/-- A literal for which there is no column leaves no trace. -/
theorem Reflects.pass (h : Reflects column? given row) (stray : column? name = none) :
    Reflects column? (given.put name literal) row := by
  intro key
  by_cases hkey : name = key
  · subst hkey
    rw [h, stray, Entries.get?_put_self]
    cases Entries.get? name given <;> rfl
  · rw [Entries.get?_put_of_ne hkey]
    exact h key

/-- A cell that reflects a literal which can be read. -/
theorem Reflects.has_iff (h : Reflects column? given row) {c : Column} (below : column? name = some c)
    (legible : ∀ literal, Entries.get? name given = some literal → (c.cell literal).isOk = true) :
    row.has name = true ↔ given.has name = true := by
  unfold Entries.has
  rw [h, below]
  cases hgiven : Entries.get? name given with
  | none => rfl
  | some literal =>
    obtain ⟨v, hv⟩ := isOk_iff.1 (legible literal hgiven)
    rw [Option.bind_some, Option.bind_some, hv]
    exact iff_of_true rfl rfl

end Reflects

theorem Table.exists_column {t : Table} {c : Column} (mem : c ∈ t.columns) {name : String}
    (hname : c.name = .text name) : ∃ d, t.column? name = some d := by
  rw [← Option.isSome_iff_exists, column?, List.find?_isSome]
  exact ⟨c, mem, by rw [hname]; simp [Value.text?]⟩

/-! ### The row of a directive -/

namespace Batch

variable {t : Table} {row row' : Entries Value} {cells : List (String × String)}

theorem reflects_rowOf {given : Entries String} (h : rowOf t cells row = .ok row')
    (hrow : Reflects t.column? given row) : Reflects t.column? (Entries.putAll given cells) row' := by
  induction cells generalizing given row with
  | nil =>
    cases h
    exact hrow
  | cons cell cells ih =>
    obtain ⟨name, literal⟩ := cell
    rw [Entries.putAll_cons]
    rw [rowOf] at h
    split at h
    · exact ih h (hrow.pass ‹_›)
    · obtain ⟨v, hv, h⟩ := exists_of_bind_ok h
      exact ih h (hrow.put ‹_› hv)

/-- A row lacks nothing just if it has the required columns. -/
theorem missing_eq_nil_iff {columns : List Column} (hcolumns : ∀ c ∈ columns, c.Declared) :
    missing row columns = .ok [] ↔
      ∀ c ∈ columns, c.required = true → ∀ name, c.name = .text name → row.has name = true := by
  refine ⟨has_of_missing, fun h => ?_⟩
  induction columns with
  | nil => rfl
  | cons c columns ih =>
    obtain ⟨name, -, -, hname, -⟩ := hcolumns c (by simp)
    rw [List.forall_mem_cons] at hcolumns h
    rw [missing, hname, ih hcolumns.2 h.2]
    show (if (c.required && !row.has name) = true then _ else _ : Except Fault (List Value)) = .ok []
    cases hrequired : c.required with
    | false => rfl
    | true => simp [h.1 hrequired name hname]

theorem mem_cells_of_given {content name literal : String}
    (h : Entries.get? name (given content) = some literal) : (name, literal) ∈ Batch.cells content := by
  rcases Entries.mem_putAll (Entries.mem_of_get? h) with h | h
  · cases h
  · exact h

section Leads

variable {b : Batch} {table content : String}

/-- What only says something leads to the state that there is. -/
theorem Says.leads {m : BatchM Unit} {ok : Prop} (h : Says m ok) (hok : ok) : Leads m b b.state := by
  refine gives_mono (h b) fun r b' ⟨hstate, hiff⟩ => ⟨?_, hstate⟩
  obtain ⟨_, hr⟩ := isOk_iff.1 (hiff.2 hok)
  exact hr

/-- A row that lacks nothing is added. -/
theorem leads_addRow (found : Entries.get? table b.state.tables = some t)
    (hrow : rowOf t (Batch.cells content) [] = .ok row) (complete : missing row t.columns = .ok []) :
    Leads (addRow table content) b (b.state.withRow? table t (some row)) := by
  have hwritable : (Value.object row).isWritable = true :=
    Value.inherited_isWritable.of_rowOf hrow Value.inherited_isWritable.emptyObject
  unfold addRow
  rw [Leads, gives_bind, gives_findTable]
  dsimp only
  rw [found]
  refine leads_lift.2 ⟨row, hrow, leads_lift.2 ⟨[], complete, ?_⟩⟩
  rw [List.isEmpty_nil, if_pos rfl, Leads, gives_bind]
  exact (says_row row _).leads hwritable

/-- A row that lacks something is not added. -/
theorem leads_addRow_lacking (found : Entries.get? table b.state.tables = some t)
    (hrow : rowOf t (Batch.cells content) [] = .ok row) {name : String} {names : List String}
    (lacking : missing row t.columns = .ok (.text name :: names.map .text)) :
    Leads (addRow table content) b b.state := by
  obtain ⟨line, hline⟩ := nameList_texts (name :: names)
  unfold addRow
  rw [Leads, gives_bind, gives_findTable]
  dsimp only
  rw [found]
  refine leads_lift.2 ⟨row, hrow, leads_lift.2 ⟨_, lacking, ?_⟩⟩
  exact leads_lift.2 ⟨line, hline, leads_log.2 rfl⟩

end Leads

end Batch

/-- A content whose literals can be read makes a row by the first columns of its names. The row is added if every
required column is given a literal, and else nothing happens. -/
theorem State.perform_addRow {s : State} {table content : String} {t : Table}
    (found : Entries.get? table s.tables = some t) (hcolumns : ∀ c ∈ t.columns, c.Declared)
    (legible : ∀ cell ∈ Batch.cells content, t.Legible cell) :
    ∃ row, Reflects t.column? (Batch.given content) row ∧
      (t.Covered (Batch.given content) →
        s.perform (.addRow table content) = (.ok (), s.withRow? table t (some row))) ∧
      (¬ t.Covered (Batch.given content) → s.perform (.addRow table content) = (.ok (), s)) := by
  obtain ⟨row, hrow⟩ := isOk_iff.1 ((Batch.isOk_rowOf _ []).2 legible)
  have hreflects : Reflects t.column? (Batch.given content) row := Batch.reflects_rowOf hrow reflects_nil
  have hperform : Batch.perform (.addRow table content) = Batch.addRow table content :=
    Batch.discard_leaving _
  have hcovered : Batch.missing row t.columns = .ok [] ↔ t.Covered (Batch.given content) := by
    rw [Batch.missing_eq_nil_iff hcolumns]
    refine forall₂_congr fun c hc => forall_congr' fun _ => forall₂_congr fun name hname => ?_
    obtain ⟨d, hd⟩ := Table.exists_column hc hname
    refine hreflects.has_iff hd fun literal hliteral => ?_
    exact Value.isOk_ofLiteral.2 (legible _ (Batch.mem_cells_of_given hliteral) d hd)
  refine ⟨row, hreflects, fun h => ?_, fun h => ?_⟩
  · rw [State.perform_eq_ok, hperform]
    exact Batch.leads_addRow found hrow (hcovered.2 h)
  · rw [State.perform_eq_ok, hperform]
    obtain ⟨names, hnames⟩ := Batch.texts_of_missing row hcolumns
    cases names with
    | nil => exact absurd (hcovered.1 hnames) h
    | cons name names => exact Batch.leads_addRow_lacking found hrow hnames

end StoryState
