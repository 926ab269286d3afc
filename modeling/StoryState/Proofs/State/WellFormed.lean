import StoryState.Proofs.Directive.Registration
import StoryState.Proofs.Macro.Reading

/-!
States as texts make them. Whatever texts are carried out and read, in whatever order and with
whatever faults on the way, a state that began empty keeps to what its records declare
(`State.WellFormed`): every edit keeps it, and texts do nothing but edits.
-/

namespace StoryState

/-! ### Records that keep to what they declare -/

/-- A variable has one of the five kinds and holds a value of that kind. It is conditional if it has
cases, and only the last of these may lack a condition. -/
structure Variable.WellFormed (x : Variable) : Prop where
  kind : ∃ k, x.declared = .text k.name ∧ x.value.fits k = true
  conditional : x.isConditional = true ↔ ∃ bs, x.branches = some bs ∧ bs ≠ []
  cases : ∀ bs, x.branches = some bs → ∀ b ∈ bs.dropLast, b.condition.isSome = true

/-- Every row of a table has the required columns and no cell that is not below a column; a cell is
of the kind of the first column of its name. -/
structure Table.WellFormed (t : Table) : Prop where
  columns : ∀ c ∈ t.columns, c.Declared
  required : ∀ row ∈ t.rows, ∀ c ∈ t.columns, c.required = true →
    ∃ name, c.name = .text name ∧ row.has name = true
  cells : ∀ row ∈ t.rows, ∀ key v, (key, v) ∈ row →
    ∃ c k, t.column? key = some c ∧ c.kind? = some k ∧ v.fits k = true

/-- A state keeps to what its records declare. -/
structure State.WellFormed (s : State) : Prop where
  vars : ∀ name x, (name, x) ∈ s.vars → x.WellFormed
  tables : ∀ name t, (name, t) ∈ s.tables → t.WellFormed
  hidden : ∀ name h, (name, h) ∈ s.hidden → h.isExpired = true → h.hasExpiration = true

section Records

variable {x : Variable} {t : Table} {c : Column} {key : String}

theorem Variable.Declared.wellFormed (h : x.Declared) : x.WellFormed where
  kind := h.kind
  conditional := by
    rw [h.conditional, Option.isSome_iff_exists]
    refine exists_congr fun bs => ⟨fun hb => ⟨hb, (h.cases bs hb).ne_nil⟩, fun hb => hb.1⟩
  cases bs hb := (h.cases bs hb).conditions

/-- A value of its kind can take the place of a variable's value. -/
theorem Variable.WellFormed.assign (h : x.WellFormed) {v : Value}
    (fits : ∀ k, x.kind? = some k → v.fits k = true) : { x with value := v }.WellFormed where
  kind := by
    obtain ⟨k, hk, -⟩ := h.kind
    refine ⟨k, hk, fits k ?_⟩
    rw [Variable.kind?, hk, Kind.ofValue?, Kind.ofName?_name]
  conditional := h.conditional
  cases := h.cases

theorem Column.Declared.kind? (h : c.Declared) : ∃ k, c.kind? = some k := by
  obtain ⟨name, k, -, -, hk⟩ := h
  exact ⟨k, by rw [Column.kind?, hk, Kind.ofValue?, Kind.ofName?_name]⟩

theorem Table.mem_of_column? (h : t.column? key = some c) : c ∈ t.columns :=
  List.mem_of_find?_eq_some h

/-- Only the columns and the rows of a table matter, and of the rows any may be left out. -/
theorem Table.WellFormed.sublist (h : t.WellFormed) {rows : List (Entries Value)}
    (hr : ∀ row ∈ rows, row ∈ t.rows) : { t with rows }.WellFormed where
  columns := h.columns
  required row hrow := h.required row (hr row hrow)
  cells row hrow := h.cells row (hr row hrow)

theorem Table.WellFormed.addRow (h : t.WellFormed) {row : Entries Value} (ha : t.Accepts row) :
    { t with rows := t.rows ++ [row] }.WellFormed where
  columns := h.columns
  required row' hrow c hc hreq := by
    rcases List.mem_append.1 hrow with hrow | hrow
    · exact h.required row' hrow c hc hreq
    · obtain rfl := List.mem_singleton.1 hrow
      obtain ⟨name, k, -, hname, -⟩ := h.columns c hc
      exact ⟨name, hname, ha.required c hc hreq name hname⟩
  cells row' hrow key v hv := by
    rcases List.mem_append.1 hrow with hrow | hrow
    · exact h.cells row' hrow key v hv
    · obtain rfl := List.mem_singleton.1 hrow
      obtain ⟨c, hc, fits⟩ := ha.cells key v hv
      obtain ⟨k, hk⟩ := (h.columns c (mem_of_column? hc)).kind?
      exact ⟨c, k, hc, hk, fits k hk⟩

theorem Table.WellFormed.setCell (h : t.WellFormed) {i : Nat} {v : Value}
    (below : t.column? key = some c) (fits : ∀ k, c.kind? = some k → v.fits k = true) :
    { t with rows := t.rows.set i ((t.rows.getD i []).put key v) }.WellFormed := by
  by_cases hi : i < t.rows.length
  · have hold : t.rows.getD i [] ∈ t.rows := by
      rw [List.getD_eq_getElem?_getD, List.getElem?_eq_getElem hi]
      exact List.getElem_mem hi
    refine ⟨h.columns, fun row hrow d hd hreq => ?_, fun row hrow k w hw => ?_⟩
    · rcases List.mem_or_eq_of_mem_set hrow with hrow | rfl
      · exact h.required row hrow d hd hreq
      · obtain ⟨name, hname, has⟩ := h.required _ hold d hd hreq
        exact ⟨name, hname, Entries.has_iff.2 (Entries.mem_keys_put.2 (.inr (Entries.has_iff.1 has)))⟩
    · rcases List.mem_or_eq_of_mem_set hrow with hrow | rfl
      · exact h.cells row hrow k w hw
      · rcases Entries.mem_put hw with ⟨rfl, rfl⟩ | hw
        · obtain ⟨kind, hk⟩ := (h.columns c (mem_of_column? below)).kind?
          exact ⟨c, kind, below, hk, fits kind hk⟩
        · exact h.cells _ hold k w hw
  · rw [List.set_eq_of_length_le (by omega)]
    exact h

end Records

/-! ### Edits -/

/-- Every edit keeps a state well-formed. -/
theorem Edit.wellFormed {s s' : State} (h : Edit s s') (hs : s.WellFormed) : s'.WellFormed := by
  have hvar : ∀ {name x}, Entries.get? name s.vars = some x → x.WellFormed := fun found =>
    hs.vars _ _ (Entries.mem_of_get? found)
  have htable : ∀ {name t}, Entries.get? name s.tables = some t → t.WellFormed := fun found =>
    hs.tables _ _ (Entries.mem_of_get? found)
  have putVar : ∀ name {x : Variable}, x.WellFormed →
      { s with vars := s.vars.put name x }.WellFormed := by
    intro name x hx
    exact ⟨Entries.forall_put hs.vars hx, hs.tables, hs.hidden⟩
  have putTable : ∀ name {t : Table}, t.WellFormed →
      { s with tables := s.tables.put name t }.WellFormed := by
    intro name t ht
    exact ⟨hs.vars, Entries.forall_put hs.tables ht, hs.hidden⟩
  have putHidden : ∀ name {h : Hidden}, (h.isExpired = true → h.hasExpiration = true) →
      { s with hidden := s.hidden.put name h }.WellFormed := by
    intro name h hh
    exact ⟨hs.vars, hs.tables, Entries.forall_put hs.hidden hh⟩
  cases h with
  | declareVariable name declared => exact putVar name declared.wellFormed
  | assign found fits _ => exact putVar _ ((hvar found).assign fits)
  | dropVariable name => exact ⟨fun n y hy => hs.vars n y (Entries.mem_erase hy), hs.tables, hs.hidden⟩
  | declareTable name declared => exact putTable name ⟨declared, by simp, by simp⟩
  | setCell i found below fits _ => exact putTable _ ((htable found).setCell below fits)
  | addRow found accepted => exact putTable _ ((htable found).addRow accepted)
  | removeRow i found =>
    exact putTable _ ((htable found).sublist fun row hrow => List.mem_of_mem_eraseIdx hrow)
  | dropTable name => exact ⟨hs.vars, fun n y hy => hs.tables n y (Entries.mem_erase hy), hs.hidden⟩
  | putHidden name fresh _ _ => exact putHidden name fun he => by rw [fresh] at he; cases he
  | dropHidden name => exact ⟨hs.vars, hs.tables, fun n y hy => hs.hidden n y (Entries.mem_erase hy)⟩
  | expire _ expires => exact putHidden _ fun _ => expires

/-! ### Texts -/

/-- What can be done to a state with a text. -/
inductive TextCall where
  | register (names : TagNames) (text : String)
  | change (names : TagNames) (text : String)
  | read (defaultId : Option String) (text : String) (depth : Nat)

/-- The state after a call, which may have stopped midway. -/
def TextCall.after (s : State) : TextCall → State
  | .register names text => (s.applyRegistrations names text).2
  | .change names text => (s.applyChanges names text).2
  | .read defaultId text depth => (s.replaceMacros defaultId text depth).state

/-- A call does nothing but edits. -/
theorem TextCall.edits (s : State) (call : TextCall) : Edits s (call.after s) := by
  cases call with
  | register names text => exact (s.applyRegistrations_spec names text).1
  | change names text => exact (s.applyChanges_spec names text).1
  | read defaultId text depth => exact (s.replaceMacros_spec defaultId text depth).expiry.edits

/-- A state that began empty is well-formed after any sequence of calls. -/
theorem TextCall.wellFormed_of_empty (calls : List TextCall) :
    State.WellFormed (calls.foldl TextCall.after {}) := by
  have hcalls : ∀ s : State, s.WellFormed → State.WellFormed (calls.foldl TextCall.after s) := by
    induction calls with
    | nil => exact fun s hs => hs
    | cons call calls ih =>
      intro s hs
      exact ih _ (Edits.keep (fun _ _ => Edit.wellFormed) (call.edits s) hs)
  exact hcalls {} ⟨by simp, by simp, by simp⟩

end StoryState
