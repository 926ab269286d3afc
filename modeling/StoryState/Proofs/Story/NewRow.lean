import StoryState.Proofs.Directive.NewRow
import StoryState.Proofs.Story.Alone

/-!
Two ways of adding a row. A directive goes through the literals that it is given and takes the first column
of each name; a call goes through the columns, so of several columns of one name each reads the literal and
the last one's cell stays (`Script.reflects_rowOfCells`). So the two agree unless the columns of one name
read a literal in different ways (`Script.addRow_agrees`).
-/

namespace StoryState

open StoryState.Task

/-- The last column of a name. -/
def lastColumn? (columns : List Column) (name : String) : Option Column :=
  columns.reverse.find? fun c => c.name.text? = some name

/-- The entries as a map, without regard to their order. -/
def Entries.asMap {α : Type} (es : Entries α) : String → Option α := fun key => Entries.get? key es

/-- Columns of one name are of one kind. -/
def Table.OneKind (t : Table) : Prop :=
  ∀ c ∈ t.columns, ∀ d ∈ t.columns, c.name = d.name → c.kind? = d.kind?

/-- Every column can read the literal that is given for its name. -/
def Readable (columns : List Column) (given : Entries String) : Prop :=
  ∀ c ∈ columns, ∀ name, c.name = .text name → ∀ literal, Entries.get? name given = some literal →
    (c.cell literal).isOk = true

/-- Every column can read the literal that is given for its name, and of the columns of one name the first
and the last make the same cell of it. -/
structure Table.ReadsAlike (t : Table) (given : Entries String) : Prop where
  readable : Readable t.columns given
  alike : ∀ name literal first last, Entries.get? name given = some literal →
    t.column? name = some first → lastColumn? t.columns name = some last →
    first.cell literal = last.cell literal

section Columns

variable {columns : List Column} {c : Column} {name : String} {t : Table} {given : Entries String}

theorem lastColumn?_append (hname : c.name = .text name) (key : String) :
    lastColumn? (columns ++ [c]) key = if name = key then some c else lastColumn? columns key := by
  unfold lastColumn?
  rw [List.reverse_append, List.reverse_singleton, List.singleton_append, List.find?_cons, hname]
  by_cases hkey : name = key <;> simp [Value.text?, hkey]

theorem Value.text?_eq_some_iff {v : Value} {text : String} : v.text? = some text ↔ v = .text text := by
  cases v <;> simp [Value.text?]

theorem Table.name_of_column? (h : t.column? name = some c) : c.name = .text name :=
  Value.text?_eq_some_iff.1 (by simpa using List.find?_some h)

theorem name_of_lastColumn? (h : lastColumn? columns name = some c) : c.name = .text name :=
  Value.text?_eq_some_iff.1 (by simpa using List.find?_some h)

theorem mem_of_lastColumn? (h : lastColumn? columns name = some c) : c ∈ columns :=
  List.mem_reverse.1 (List.mem_of_find?_eq_some h)

/-- Of a name there are both a first and a last column, or neither. -/
theorem Table.column?_cases (t : Table) (name : String) :
    (t.column? name = none ∧ lastColumn? t.columns name = none) ∨
      ∃ first last, t.column? name = some first ∧ lastColumn? t.columns name = some last := by
  have hsome : (t.column? name).isSome = (lastColumn? t.columns name).isSome := by
    rw [Bool.eq_iff_iff, column?, lastColumn?, List.find?_isSome, List.find?_isSome]
    simp
  cases hfirst : t.column? name <;> cases hlast : lastColumn? t.columns name <;> simp_all

theorem Readable.cons {columns : List Column} : Readable (c :: columns) given ↔
    (∀ name, c.name = .text name → ∀ literal, Entries.get? name given = some literal →
      (c.cell literal).isOk = true) ∧ Readable columns given := List.forall_mem_cons

/-- If the columns of one name are of one kind, what the first of them reads they all read alike. -/
theorem Table.OneKind.readsAlike (h : t.OneKind)
    (legible : ∀ name literal, Entries.get? name given = some literal → t.Legible (name, literal)) :
    t.ReadsAlike given := by
  have hsame : ∀ c ∈ t.columns, ∀ d ∈ t.columns, ∀ name literal, c.name = .text name →
      d.name = .text name → c.cell literal = d.cell literal := by
    intro c hc d hd name literal hname hname'
    rw [Column.cell, Column.cell, h c hc d hd (hname.trans hname'.symm)]
  constructor
  · intro c hc name hname literal hgiven
    obtain ⟨d, hd⟩ := Table.exists_column hc hname
    rw [hsame c hc d (Table.mem_of_column? hd) name literal hname (Table.name_of_column? hd)]
    exact Value.isOk_ofLiteral.2 (legible name literal hgiven d hd)
  · intro name literal first last hgiven hfirst hlast
    exact hsame first (Table.mem_of_column? hfirst) last (mem_of_lastColumn? hlast) name literal
      (Table.name_of_column? hfirst) (name_of_lastColumn? hlast)

end Columns

/-! ### Rows that reflect what is given -/

section Reflects

variable {given : Entries String} {row row' : Entries Value} {columns : List Column} {c : Column}
  {name literal : String}

/-- A column behind the others makes the cell of its name anew. -/
theorem Reflects.next (h : Reflects (lastColumn? columns) given row) (hname : c.name = .text name)
    (hgiven : Entries.get? name given = some literal) {v : Value} (hv : c.cell literal = .ok v) :
    Reflects (lastColumn? (columns ++ [c])) given (row.put name v) := by
  refine h.update (fun key hkey => ⟨rfl, ?_⟩) hgiven ?_ hv
  · rw [lastColumn?_append hname, if_neg hkey]
  · rw [lastColumn?_append hname, if_pos rfl]

/-- A column for which no literal is given leaves no trace. -/
theorem Reflects.passBy (h : Reflects (lastColumn? columns) given row) (hname : c.name = .text name)
    (hgiven : Entries.get? name given = none) : Reflects (lastColumn? (columns ++ [c])) given row := by
  intro key
  rw [lastColumn?_append hname]
  by_cases hkey : name = key
  · subst hkey
    rw [h, hgiven]
    rfl
  · rw [if_neg hkey]
    exact h key

/-- Rows by the first and by the last columns are equal as maps just if these read alike. -/
theorem Reflects.asMap_eq_iff {t : Table} (h : Reflects t.column? given row)
    (h' : Reflects (lastColumn? t.columns) given row') (readable : Readable t.columns given) :
    row.asMap = row'.asMap ↔ t.ReadsAlike given := by
  constructor
  · refine fun heq => ⟨readable, fun name literal first last hgiven hfirst hlast => ?_⟩
    obtain ⟨v, hv⟩ := isOk_iff.1 (readable first (Table.mem_of_column? hfirst) name
      (Table.name_of_column? hfirst) literal hgiven)
    obtain ⟨w, hw⟩ := isOk_iff.1 (readable last (mem_of_lastColumn? hlast) name
      (name_of_lastColumn? hlast) literal hgiven)
    have hcells : Entries.get? name row = Entries.get? name row' := congrFun heq name
    rw [h, h', hgiven, hfirst, hlast] at hcells
    simp only [Option.bind_some, hv, hw, Except.toOption, Option.some.injEq] at hcells
    rw [hv, hw, hcells]
  · intro halike
    funext name
    show Entries.get? name row = Entries.get? name row'
    rw [h, h']
    cases hgiven : Entries.get? name given with
    | none => rfl
    | some literal =>
      simp only [Option.bind_some]
      rcases t.column?_cases name with ⟨hfirst, hlast⟩ | ⟨first, last, hfirst, hlast⟩
      · rw [hfirst, hlast]
      · rw [hfirst, hlast, Option.bind_some, Option.bind_some,
          halike.alike name literal first last hgiven hfirst hlast]

end Reflects

namespace Script

/-! ### The row of a call -/

section Call

variable {table : String} {given : Entries String} {row row' : Entries Value} {columns : List Column}

/-- What a column adds to the row of texts that are given. -/
theorem rowOfCells_cons {c : Column} {name : String} (hname : c.name = .text name) :
    rowOfCells table (given.mapValues .text) (c :: columns) row =
      match Entries.get? name given with
      | none =>
        if c.required then .error (.missingCell table name)
        else rowOfCells table (given.mapValues .text) columns row
      | some literal =>
        c.cell literal >>= fun v => rowOfCells table (given.mapValues .text) columns (row.put name v) := by
  have hget : Entries.get? name (given.mapValues Value.text) = (Entries.get? name given).map .text :=
    Entries.get?_mapValues ..
  have hhas : Batch.hasCell (given.mapValues Value.text) c.name = .ok (Entries.get? name given).isSome := by
    rw [hname, Batch.hasCell, Entries.has, hget, Option.isSome_map]
  have hkey : c.name.key = .ok name := by rw [hname]; rfl
  rw [rowOfCells, hhas, hkey]
  cases hgiven : Entries.get? name given with
  | none =>
    show (do
      if c.required then throw (.missingCell table (← c.name.display))
      rowOfCells table _ columns row : Except Fault (Entries Value)) = _
    rw [hname]
    cases c.required <;> rfl
  | some literal =>
    simp only [Bind.bind, Except.bind, Pure.pure, Except.pure, hget, hgiven, Option.map_some,
      Option.isSome_some, if_true]
    rfl

/-- The row of a call has what the last columns make of what is given. -/
theorem reflects_rowOfCells (hcolumns : ∀ c ∈ columns, c.Declared) {passed : List Column}
    (h : rowOfCells table (given.mapValues .text) columns row = .ok row')
    (hrow : Reflects (lastColumn? passed) given row) :
    Reflects (lastColumn? (passed ++ columns)) given row' := by
  -- what has been made so far reflects the last ones of the columns that have been passed
  induction columns generalizing passed row with
  | nil =>
    cases h
    rwa [List.append_nil]
  | cons c columns ih =>
    rw [List.forall_mem_cons] at hcolumns
    obtain ⟨⟨name, -, -, hname, -⟩, hcolumns⟩ := hcolumns
    rw [rowOfCells_cons hname] at h
    rw [← List.singleton_append, ← List.append_assoc]
    cases hgiven : Entries.get? name given with
    | none =>
      rw [hgiven] at h
      dsimp only at h
      split at h
      · cases h
      · exact ih hcolumns h (hrow.passBy hname hgiven)
    | some literal =>
      rw [hgiven] at h
      obtain ⟨v, hv, h⟩ := exists_of_bind_ok h
      exact ih hcolumns h (hrow.next hname hgiven hv)

/-- A call makes a row just if every required column is given a literal and every column can read what it is
given. -/
theorem isOk_rowOfCells (hcolumns : ∀ c ∈ columns, c.Declared) :
    (rowOfCells table (given.mapValues .text) columns row).isOk = true ↔
      (∀ c ∈ columns, c.required = true → ∀ name, c.name = .text name → given.has name = true) ∧
        Readable columns given := by
  induction columns generalizing row with
  | nil => exact iff_of_true rfl ⟨by simp, by simp [Readable]⟩
  | cons c columns ih =>
    rw [List.forall_mem_cons] at hcolumns
    obtain ⟨⟨name, -, -, hname, -⟩, hcolumns⟩ := hcolumns
    have hneeds : (c.required = true → ∀ key, c.name = .text key → given.has key = true) ↔
        (c.required = true → (Entries.get? name given).isSome = true) := by
      rw [hname]
      simp [Entries.has]
    have hreads : (∀ key, c.name = .text key → ∀ literal, Entries.get? key given = some literal →
        (c.cell literal).isOk = true) ↔
          ∀ literal, Entries.get? name given = some literal → (c.cell literal).isOk = true := by
      rw [hname]
      simp
    rw [rowOfCells_cons hname, List.forall_mem_cons, Readable.cons, hneeds, hreads]
    cases hgiven : Entries.get? name given with
    | none =>
      dsimp only
      cases hrequired : c.required with
      | true => exact iff_of_false Bool.false_ne_true (by simp)
      | false => exact (ih hcolumns).trans (by simp)
    | some literal =>
      dsimp only
      cases hcell : c.cell literal with
      | error e => exact iff_of_false Bool.false_ne_true (by simp [hcell, Except.isOk, Except.toBool])
      | ok v => exact (ih hcolumns).trans (by simp [hcell, Except.isOk, Except.toBool])

variable {t : Table}

theorem isSome_rowOfCells (hcolumns : ∀ c ∈ t.columns, c.Declared) :
    (rowOfCells table (given.mapValues .text) t.columns []).toOption.isSome = true ↔
      t.Covered given ∧ Readable t.columns given := by
  have hmade : (rowOfCells table (given.mapValues .text) t.columns []).isOk = true ↔
      t.Covered given ∧ Readable t.columns given := isOk_rowOfCells hcolumns
  rw [← hmade]
  cases rowOfCells table (given.mapValues .text) t.columns [] <;> rfl

/-- If nothing that is required lacks, a call makes a row that is equal as a map to the one by the first columns
just if every column can read what it is given and the first and last columns read alike. -/
theorem asMap_rowOfCells_iff (hcolumns : ∀ c ∈ t.columns, c.Declared) (hrow : Reflects t.column? given row)
    (covered : t.Covered given) :
    some row.asMap = (rowOfCells table (given.mapValues .text) t.columns []).toOption.map Entries.asMap ↔
      t.ReadsAlike given := by
  have hmade : (rowOfCells table (given.mapValues .text) t.columns []).toOption.isSome = true ↔
      t.Covered given ∧ Readable t.columns given := isSome_rowOfCells hcolumns
  cases hcall : rowOfCells table (given.mapValues .text) t.columns [] with
  | error e =>
    rw [hcall] at hmade
    refine iff_of_false nofun fun h => ?_
    cases hmade.2 ⟨covered, h.readable⟩
  | ok row' =>
    rw [hcall] at hmade
    have hnothing : Reflects (lastColumn? []) given [] := fun _ => by simp [lastColumn?]
    have hrow' : Reflects (lastColumn? t.columns) given row' := reflects_rowOfCells hcolumns hcall hnothing
    exact (Option.some.injEq ..).to_iff.trans (hrow.asMap_eq_iff hrow' (hmade.1 rfl).2)

end Call

/-! ### The two ways -/

section Ways

variable {c : Scope} {s s₁ : Script} {table content literal : String} {t : Table}

/-- A call adds the row that it makes, if it makes one. -/
theorem memory_addRow (opened : (ensureOpen c).alone s = (.ok (), s₁))
    (found : Entries.get? table (s₁.memory c).tables = some t) (cells : Entries Value) :
    ((addRow c table cells).alone s).2.memory c =
      (s₁.memory c).withRow? table t (rowOfCells table cells t.columns []).toOption := by
  unfold addRow
  rw [alone_editIf opened, found]
  dsimp only
  cases rowOfCells table cells t.columns [] with
  | error e => rfl
  | ok row =>
    show ((persist c >>= fun _ => pure _ : ScriptTask Nat).alone _).2.memory c = _
    rw [alone_map, memory_persist, memory_setState]
    rfl

/-- For a table with the columns of a declaration, a directive whose literals can be read and a call with what
its content gives each add a row or leave the state as it was opened: the directive adds one if every required
column is given a literal, and the call if moreover every column can read what it is given. Both add one and
the rows are equal as maps, or neither does, just if a required column is given nothing, or every column can
read what it is given and the first and the last column of a name make the same of it. So it is whenever the
columns of one name are of one kind. -/
theorem addRow_agrees (accepted : readColumns literal = .ok t.columns)
    (opened : (ensureOpen c).alone s = (.ok (), s₁))
    (found : Entries.get? table (s₁.memory c).tables = some t)
    (legible : ∀ cell ∈ Batch.cells content, t.Legible cell) :
    let given := Batch.given content
    ∃ row? row'?,
      (s₁.memory c).perform (.addRow table content) = (.ok (), (s₁.memory c).withRow? table t row?) ∧
      ((addRow c table (given.mapValues .text)).alone s).2.memory c =
        (s₁.memory c).withRow? table t row'? ∧
      (row?.isSome = true ↔ t.Covered given) ∧
      (row'?.isSome = true ↔ t.Covered given ∧ Readable t.columns given) ∧
      (row?.map Entries.asMap = row'?.map Entries.asMap ↔ (t.Covered given → t.ReadsAlike given)) ∧
      (t.OneKind → row?.map Entries.asMap = row'?.map Entries.asMap) := by
  intro given
  have hcolumns := declared_of_readColumns accepted
  obtain ⟨row, hrow, hcovered, hlacking⟩ := State.perform_addRow found hcolumns legible
  have hmemory := memory_addRow opened found (given.mapValues .text)
  have hmade : (rowOfCells table (given.mapValues .text) t.columns []).toOption.isSome = true ↔
      t.Covered given ∧ Readable t.columns given := isSome_rowOfCells hcolumns
  by_cases hcover : t.Covered given
  · have hiff : some row.asMap = (rowOfCells table (given.mapValues .text) t.columns []).toOption.map
        Entries.asMap ↔ t.ReadsAlike given := asMap_rowOfCells_iff hcolumns hrow hcover
    refine ⟨some row, _, hcovered hcover, hmemory, iff_of_true rfl hcover, hmade, ?_, fun hone => ?_⟩
    · rwa [forall_prop_of_true hcover]
    · exact hiff.2 (hone.readsAlike fun _ _ hgiven => legible _ (Batch.mem_cells_of_given hgiven))
  · have hnone : (rowOfCells table (given.mapValues .text) t.columns []).toOption = none :=
      Option.not_isSome_iff_eq_none.1 fun hsome => hcover (hmade.1 hsome).1
    rw [hnone] at hmemory hmade
    exact ⟨none, none, hlacking hcover, hmemory, iff_of_false nofun hcover, hmade,
      iff_of_true rfl fun h => absurd h hcover, fun _ => rfl⟩

/-- A script with one table, in the global scope. -/
def withTable (t : Table) : Script :=
  { story := { scriptId := none, global := { state := { tables := [("t", t)] }, isOpen := true } } }

/-- A table with one column, of numbers. -/
def single : Table where
  name := .text "t"
  columns := [{ name := .text "a", declared := .text "number" }]

/-- A literal is given twice for a column, and the second counts both ways. -/
theorem addRow_agrees_single :
    let m := (withTable single).memory .global
    ∃ row? row'?, m.perform (.addRow "t" "a=1;a=2") = (.ok (), m.withRow? "t" single row?) ∧
      ((addRow .global "t" ((Batch.given "a=1;a=2").mapValues .text)).alone (withTable single)).2.memory .global =
        m.withRow? "t" single row'? ∧
      row?.isSome = true ∧ row?.map Entries.asMap = row'?.map Entries.asMap := by
  have accepted : readColumns "[\x7b\"name\":\"a\",\"type\":\"number\"\x7d]" =
      .ok single.columns := by cbv
  have legible : ∀ cell ∈ Batch.cells "a=1;a=2", single.Legible cell :=
    (Batch.isOk_rowOf _ []).1 rfl
  have found : Entries.get? "t" ((withTable single).memory .global).tables = some single := rfl
  obtain ⟨row?, row'?, hfirst, hsecond, hadds, -, -, hone⟩ :=
    addRow_agrees (c := .global) (s := withTable single) accepted rfl found legible
  have hcovered : single.Covered (Batch.given "a=1;a=2") := by simp [Table.Covered, single]
  exact ⟨row?, row'?, hfirst, hsecond, hadds.2 hcovered, hone (by simp [Table.OneKind, single])⟩

/-- A table with two columns of one name, the first of numbers and the second of texts. -/
def twofold : Table where
  name := .text "t"
  columns := [{ name := .text "a", declared := .text "number" }, { name := .text "a", declared := .text "string" }]

/-- To a table with a column of numbers and one of texts under one name the directive adds a number, and the
call a text. -/
theorem addRow_twofold :
    let m := (withTable twofold).memory .global
    readColumns "[\x7b\"name\":\"a\",\"type\":\"number\"\x7d,\x7b\"name\":\"a\",\"type\":\"string\"\x7d]" =
        .ok twofold.columns ∧
      (ensureOpen .global).alone (withTable twofold) = (.ok (), withTable twofold) ∧
      Entries.get? "t" m.tables = some twofold ∧
      (∀ cell ∈ Batch.cells "a=1", twofold.Legible cell) ∧
      m.perform (.addRow "t" "a=1") = (.ok (), m.withRow? "t" twofold (some [("a", .int 1)])) ∧
      ((addRow .global "t" ((Batch.given "a=1").mapValues .text)).alone (withTable twofold)).2.memory .global =
        m.withRow? "t" twofold (some [("a", .text "1")]) ∧
      Entries.asMap [("a", Value.int 1)] ≠ Entries.asMap [("a", .text "1")] := by
  refine ⟨by cbv, rfl, rfl, (Batch.isOk_rowOf _ []).1 rfl, by cbv, rfl, fun h => ?_⟩
  cases congrFun h "a"

end Ways

end Script

end StoryState
