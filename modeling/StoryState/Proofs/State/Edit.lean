import StoryState.Proofs.Step
import StoryState.Proofs.Value.Tidy
import StoryState.State.Declaration
import Mathlib.Logic.Relation

/-!
What can be done to a state at one stroke. `Edit s s'` lists the strokes: declaring and dropping,
assigning, filling rows, and the expiry of a hidden variable. Directives and macros do nothing to a
state but a sequence of these, so a property that every edit keeps is kept by every text.
-/

namespace StoryState

/-! ### What a directive declares -/

/-- Cases as a directive declares them: there are some, and only the last may lack a condition. -/
structure CasesDeclared (bs : List Branch) : Prop where
  ne_nil : bs ≠ []
  conditions : ∀ b ∈ bs.dropLast, b.condition.isSome = true
  texts : ∀ b ∈ bs, ∀ c, b.condition = some c → ∃ s, c = .text s ∧ s ≠ ""
  tidy : ∀ b ∈ bs, b.value.Tidy

/-- A variable as a directive declares it. -/
structure Variable.Declared (x : Variable) : Prop where
  kind : ∃ k, x.declared = .text k.name ∧ x.value.fits k = true
  conditional : x.isConditional = x.branches.isSome
  cases : ∀ bs, x.branches = some bs → CasesDeclared bs
  tidy : x.value.Tidy

/-- A column as a directive declares it. -/
def Column.Declared (c : Column) : Prop :=
  ∃ name k, name ≠ "" ∧ c.name = .text name ∧ c.declared = .text (Kind.name k)

/-- A row that a directive adds to a table. -/
structure Table.Accepts (t : Table) (row : Entries Value) : Prop where
  /-- Every cell stands below a column and is of the kind of the first one of its name. -/
  cells : ∀ key v, (key, v) ∈ row →
    ∃ c, t.column? key = some c ∧ ∀ k, c.kind? = some k → v.fits k = true
  required : ∀ c ∈ t.columns, c.required = true → ∀ name, c.name = .text name → row.has name = true
  tidy : (Value.object row).Tidy

/-! ### Edits -/

/-- A state after one stroke. -/
inductive Edit (s : State) : State → Prop
  | declareVariable (name : String) {x : Variable} (declared : x.Declared) :
    Edit s { s with vars := s.vars.put name x }
  | assign {name : String} {x : Variable} {v : Value} (found : Entries.get? name s.vars = some x)
    (fits : ∀ k, x.kind? = some k → v.fits k = true) (tidy : x.value.Tidy → v.Tidy) :
    Edit s { s with vars := s.vars.put name { x with value := v } }
  | dropVariable (name : String) : Edit s { s with vars := s.vars.erase name }
  | declareTable (name : String) {columns : List Column} (declared : ∀ c ∈ columns, c.Declared) :
    Edit s { s with tables := s.tables.put name { name := .text name, columns } }
  | setCell {name column : String} {t : Table} {c : Column} {v : Value} (i : Nat)
    (found : Entries.get? name s.tables = some t) (below : t.column? column = some c)
    (fits : ∀ k, c.kind? = some k → v.fits k = true) (tidy : v.Tidy) :
    Edit s { s with
      tables := s.tables.put name
        { t with rows := t.rows.set i ((t.rows.getD i []).put column v) } }
  | addRow {name : String} {t : Table} {row : Entries Value}
    (found : Entries.get? name s.tables = some t) (accepted : t.Accepts row) :
    Edit s { s with tables := s.tables.put name { t with rows := t.rows ++ [row] } }
  | removeRow {name : String} {t : Table} (i : Nat) (found : Entries.get? name s.tables = some t) :
    Edit s { s with tables := s.tables.put name { t with rows := t.rows.eraseIdx i } }
  | dropTable (name : String) : Edit s { s with tables := s.tables.erase name }
  | putHidden (name : String) {h : Hidden} (fresh : h.isExpired = false) (tidy : h.value.Tidy)
    (text : ∃ condition, h.condition = .text condition) :
    Edit s { s with hidden := s.hidden.put name h }
  | dropHidden (name : String) : Edit s { s with hidden := s.hidden.erase name }
  | expire {name : String} {h : Hidden} (found : Entries.get? name s.hidden = some h)
    (expires : h.hasExpiration = true) :
    Edit s { s with hidden := s.hidden.put name { h with isExpired := true } }

/-- A state after some strokes. -/
abbrev Edits : State → State → Prop := Relation.ReflTransGen Edit

/-- What every edit keeps is kept by edits. -/
theorem Edits.keep {P : State → Prop} (keeps : ∀ s s', Edit s s' → P s → P s') {s s' : State}
    (h : Edits s s') (hs : P s) : P s' := by
  induction h with
  | refl => exact hs
  | tail _ he ih => exact keeps _ _ he ih

/-! ### Declarations that are read -/

/-- What a reader of items gives comes from the items. -/
theorem exists_of_mapM_ok {ε α β : Type} {f : α → Except ε β} {l : List α} {r : List β}
    (h : l.mapM f = .ok r) : r.length = l.length ∧ ∀ b ∈ r, ∃ a ∈ l, f a = .ok b := by
  induction l generalizing r with
  | nil =>
    cases h
    simp
  | cons a l ih =>
    rw [List.mapM_cons] at h
    cases ha : f a with
    | error e => rw [ha] at h; cases h
    | ok b =>
      cases hl : l.mapM f with
      | error e => rw [ha, hl] at h; cases h
      | ok bs =>
        rw [ha, hl] at h
        cases h
        obtain ⟨hlen, hmem⟩ := ih hl
        refine ⟨by simp [hlen], fun c hc => ?_⟩
        rcases List.mem_cons.1 hc with rfl | hc
        · exact ⟨a, by simp, ha⟩
        · obtain ⟨a', ha', hf⟩ := hmem c hc
          exact ⟨a', by simp [ha'], hf⟩

section Cases

variable {P : Value → Prop}

theorem Branch.of_ofDeclared (hP : Value.Inherited P) {index : Nat} {item : Value} {b : Branch}
    (hi : P item) (h : Branch.ofDeclared index item = .ok b) :
    P b.value ∧ ∀ c, b.condition = some c → ∃ s, c = .text s ∧ s ≠ "" := by
  cases item with
  | object fields =>
    simp only [ofDeclared, Value.fields?] at h
    split at h
    · cases h
    · rename_i value hv
      have hvalue : P value := hP.parts hi _ _ (Entries.mem_of_get? hv)
      split at h
      · cases h
        exact ⟨hvalue, by simp⟩
      · cases h
        exact ⟨hvalue, by simp⟩
      · rename_i condition hne hc
        cases h
        refine ⟨hvalue, fun c hc => ⟨condition, ?_, ?_⟩⟩
        · simpa using hc.symm
        · rintro rfl
          simp_all
      · cases h
  | _ => cases h

/-- The values of cases that are read have every property that documents have. -/
theorem of_readBranches (hP : Value.Inherited P) {literal : String} {bs : List Branch}
    (h : readBranches literal = .ok bs) :
    bs ≠ [] ∧ (∀ b ∈ bs.dropLast, b.condition.isSome = true) ∧
      ∀ b ∈ bs, P b.value ∧ ∀ c, b.condition = some c → ∃ s, c = .text s ∧ s ≠ "" := by
  unfold readBranches at h
  cases hd : readDeclaration literal with
  | error e => rw [hd] at h; cases h
  | ok v =>
    have hv : P v := by
      unfold readDeclaration at hd
      cases hr : Json.read literal with
      | error e => rw [hr] at hd; cases hd
      | ok w =>
        rw [hr] at hd
        cases hd
        exact hP.of_read hr
    rw [hd] at h
    simp only [bind, Except.bind] at h
    split at h
    · rename_i item items
      split at h
      · cases h
      · rename_i branches hm
        obtain ⟨hlen, hmem⟩ := exists_of_mapM_ok hm
        split at h
        · cases h
        · rename_i hall
          cases h
          refine ⟨?_, ?_, fun b hb => ?_⟩
          · rintro rfl
            simp at hlen
          · simpa [Option.isNone_iff_eq_none, Option.isSome_iff_ne_none] using hall
          · obtain ⟨⟨w, i⟩, hw, hf⟩ := hmem b hb
            exact Branch.of_ofDeclared hP (hP.list.1 hv w (List.fst_mem_of_mem_zipIdx hw)) hf
    · cases h

theorem casesDeclared_of_readBranches {literal : String} {bs : List Branch}
    (h : readBranches literal = .ok bs) : CasesDeclared bs := by
  obtain ⟨hne, hconditions, hall⟩ := of_readBranches Value.inherited_tidy h
  exact ⟨hne, hconditions, fun b hb => (hall b hb).2, fun b hb => (hall b hb).1⟩

end Cases

theorem Kind.eq_name_of_ofValue? {v : Value} {k : Kind} (h : Kind.ofValue? v = some k) :
    v = .text k.name := by
  cases v with
  | text s =>
    have hk := List.find?_some h
    simp only [decide_eq_true_eq] at hk
    rw [hk]
  | _ => cases h

theorem declared_of_readColumns {literal : String} {columns : List Column}
    (h : readColumns literal = .ok columns) : ∀ c ∈ columns, c.Declared := by
  unfold readColumns at h
  cases hd : readDeclaration literal with
  | error e => rw [hd] at h; cases h
  | ok v =>
    rw [hd] at h
    simp only [bind, Except.bind] at h
    split at h
    · intro c hc
      obtain ⟨⟨item, i⟩, -, hf⟩ := (exists_of_mapM_ok h).2 c hc
      cases item with
      | object fields =>
        simp only [Column.ofDeclared, Value.fields?] at hf
        split at hf
        · cases hf
        · cases hf
        · rename_i name hn hne
          split at hf
          · cases hf
          · rename_i hk
            cases hf
            obtain ⟨k, hk⟩ := Option.ne_none_iff_exists'.1 (by simpa using hk)
            refine ⟨name, k, ?_, rfl, ?_⟩
            · rintro rfl
              simp_all
            · exact Kind.eq_name_of_ofValue? hk
        · cases hf
      | _ => cases hf
    · cases h

end StoryState
