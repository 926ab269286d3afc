import StoryState.Directive.Change
import StoryState.Proofs.State.Edit

/-!
What directives do to a batch. Each handler edits the state, adds to the log, and leaves a line in
the log of whatever it did if it goes through (`Batch.Advance`).
-/

namespace StoryState

open StoryState.Text

/-! ### Values that come into being -/

namespace Value.Inherited

variable {P : Value → Prop}

theorem todoTemplate (h : Inherited P) : P (.object Batch.todoTemplate) := by
  refine h.object (by simp [Batch.todoTemplate, Entries.Once, Entries.keys]) ?_
  simp [Batch.todoTemplate, or_imp, forall_and, h.emptyList, h.text]

theorem rootValue (h : Inherited P) (name : String) : P (Batch.rootValue name) := by
  unfold Batch.rootValue
  split
  · exact h.todoTemplate
  · exact h.emptyObject

/-- The value of a variable that is used before it is declared. -/
theorem of_undeclared (h : Inherited P) {name literal : String} {k : Kind} {v : Value}
    (hu : Batch.undeclared name literal = .ok (k, v)) : P v := by
  unfold Batch.undeclared at hu
  split at hu
  · split at hu
    · rename_i fields hf
      cases hu
      refine h.putAll h.todoTemplate ?_
      obtain ⟨doc, hd, hv⟩ := Option.bind_eq_some_iff.1 hf
      cases hr : Json.read literal with
      | error e => rw [hr] at hd; cases hd
      | ok w =>
        rw [hr] at hd
        cases hd
        cases doc with
        | object fs =>
          cases hv
          exact h.parts (h.of_read hr)
        | _ => cases hv
    · cases hu
      exact h.todoTemplate
  · exact h.of_ofSuggested hu

/-- A row that literals make. -/
theorem of_rowOf (h : Inherited P) {t : Table} {cells : List (String × String)}
    {row row' : Entries Value} (hrow : Batch.rowOf t cells row = .ok row') (hr : P (.object row)) :
    P (.object row') := by
  induction cells generalizing row with
  | nil =>
    cases hrow
    exact hr
  | cons cell cells ih =>
    rw [Batch.rowOf] at hrow
    split at hrow
    · exact ih hrow hr
    · rename_i c hc
      cases hl : Value.ofLiteral c.kind? (.text cell.2) with
      | error e => rw [hl] at hrow; cases hrow
      | ok v =>
        rw [hl] at hrow
        exact ih hrow (h.put (h.of_ofLiteral (h.text _) hl) hr _)

end Value.Inherited

/-! ### Steps -/

/-- How a step of a batch may leave it. -/
structure Batch.Advance (ok : Bool) (b b' : Batch) : Prop where
  edits : Edits b.state b'.state
  logs : b.logs <+: b'.logs
  /-- A step that went through and logged nothing did nothing. -/
  logged : ok = true → b'.logs = b.logs → b'.state = b.state

namespace Batch

theorem composes_advance : Composes Advance where
  refl ok b := ⟨.refl, List.prefix_refl _, fun _ _ => rfl⟩
  trans := by
    rintro ok a b c hab hbc
    refine ⟨hab.edits.trans hbc.edits, hab.logs.trans hbc.logs, fun hok hl => ?_⟩
    have hb : b.logs = a.logs := (hl ▸ hbc.logs).eq_of_length_le hab.logs.length_le
    rw [hbc.logged hok (hl.trans hb.symm), hab.logged rfl hb]

/-- A step that only writes to the log, and does so if it goes through. -/
structure Reports (ok : Bool) (b b' : Batch) : Prop where
  state : b'.state = b.state
  logs : b.logs <+: b'.logs
  longer : ok = true → b'.logs ≠ b.logs

/-- A step that at most writes to the log. -/
structure Tells (ok : Bool) (b b' : Batch) : Prop where
  state : b'.state = b.state
  logs : b.logs <+: b'.logs

theorem Reports.tells {ok : Bool} {b b' : Batch} (h : Reports ok b b') : Tells ok b b' :=
  ⟨h.state, h.logs⟩

theorem Reports.advance {ok : Bool} {b b' : Batch} (h : Reports ok b b') : Advance ok b b' :=
  ⟨by rw [h.state], h.logs, fun hok hl => absurd hl (h.longer hok)⟩

section Steps

variable {α β : Type} {b : Batch}

theorem gives_findVariable {name : String} {Q : Except Fault (Option Variable) → Batch → Prop} :
    Gives (findVariable? name) b Q ↔ Q (.ok (Entries.get? name b.state.vars)) b := Iff.rfl

theorem gives_findTable {name : String} {Q : Except Fault (Option Table) → Batch → Prop} :
    Gives (findTable? name) b Q ↔ Q (.ok (Entries.get? name b.state.tables)) b := Iff.rfl

theorem gives_findHidden {name : String} {Q : Except Fault (Option Hidden) → Batch → Prop} :
    Gives (findHidden? name) b Q ↔ Q (.ok (Entries.get? name b.state.hidden)) b := Iff.rfl

/-- A step on a table, which is not taken if there is none. -/
theorem moves_findTable {R : Bool → Batch → Batch → Prop} (hR : Composes R) {table : String}
    {f : Option Table → BatchM Unit} (hnone : f none = pure ())
    (hsome : ∀ b t, Entries.get? table b.state.tables = some t →
      Gives (f (some t)) b fun r b' => R r.isOk b b') :
    Moves R (findTable? table >>= f) := by
  intro b
  rw [gives_bind, gives_findTable]
  dsimp only
  cases found : Entries.get? table b.state.tables with
  | none =>
    rw [hnone]
    exact hR.pure _ b
  | some t => exact hsome b t found

theorem moves_log (line : String) : Moves Reports (log line) := by
  intro b
  refine ⟨rfl, List.prefix_append _ _, fun _ h => ?_⟩
  have hl : (b.logs ++ [line]).length = b.logs.length := congrArg List.length h
  simp at hl

theorem Reports.lift_bind (r : Except Fault α) {f : α → BatchM β}
    (hf : ∀ a, Moves Reports (f a)) : Moves Reports (liftM r >>= f) := by
  intro b
  rw [gives_lift_bind]
  cases r with
  | ok a => exact hf a b
  | error e => exact ⟨rfl, List.prefix_refl _, fun h => nomatch h⟩

theorem composes_tells : Composes Tells where
  refl _ _ := ⟨rfl, List.prefix_refl _⟩
  trans h h' := ⟨h'.state.trans h.state, h.logs.trans h'.logs⟩

theorem moves_log_tells (line : String) : Moves Tells (log line) :=
  fun b => gives_mono (moves_log line b) fun _ _ => Reports.tells

/-- A report that is carried on. -/
theorem Reports.bind {m : BatchM α} {f : α → BatchM β} (hm : Moves Reports m)
    (hf : ∀ a, Moves Tells (f a)) : Moves Reports (m >>= f) := by
  intro b
  rw [gives_bind]
  refine gives_mono (hm b) fun r b' h => ?_
  cases r with
  | error e => exact ⟨h.state, h.logs, fun hok => nomatch hok⟩
  | ok a =>
    refine gives_mono (hf a b') fun r b'' h' => ?_
    refine ⟨h'.state.trans h.state, h.logs.trans h'.logs, fun _ hl => h.longer rfl ?_⟩
    exact (hl ▸ h'.logs).eq_of_length_le h.logs.length_le

theorem Reports.moves {m : BatchM α} (h : Moves Reports m) : Moves Advance m :=
  fun b => gives_mono (h b) fun _ _ => Reports.advance

/-- An edit and a line about it. -/
theorem Advance.edit {b : Batch} {s : State} (he : Edit b.state s) {m : BatchM α}
    (hm : Moves Reports m) :
    Gives m { b with state := s } fun r b' => Advance r.isOk b b' :=
  gives_mono (hm { b with state := s }) fun _ _ h =>
    ⟨.single (h.state ▸ he), h.logs, fun hok hl => absurd hl (h.longer hok)⟩

end Steps

/-! ### Variables -/

section Variables

theorem fits_undeclared {name literal : String} {k : Kind} {v : Value}
    (h : undeclared name literal = .ok (k, v)) : v.fits k = true := by
  unfold undeclared at h
  split at h
  · split at h <;> (cases h; rfl)
  · exact (Value.fits_ofSuggested h).1

/-- A variable that comes into being by being used. -/
theorem declared_of_undeclared {name literal : String} {k : Kind} {v : Value}
    (h : undeclared name literal = .ok (k, v)) :
    Variable.Declared { declared := .text k.name, value := v } where
  kind := ⟨k, rfl, fits_undeclared h⟩
  conditional := rfl
  cases := by simp
  tidy := Value.inherited_tidy.of_undeclared h

theorem declared_root (name : String) :
    Variable.Declared { declared := .text Kind.object.name, value := rootValue name } where
  kind := ⟨.object, rfl, rfl⟩
  conditional := rfl
  cases := by simp
  tidy := Value.inherited_tidy.rootValue name

/-- A variable that is not declared is registered, or a line says why not. -/
theorem gives_autoRegister (name literal : String) (b : Batch) :
    Gives (autoRegister name literal) b fun r b' =>
      (∃ line, r = .ok none ∧ b' = { b with logs := b.logs ++ [line] }) ∨
      ∃ k v, undeclared name literal = .ok (k, v) ∧
        r = .ok (some { declared := .text k.name, value := v }) ∧
        b' = { b with state := { b.state with
          vars := b.state.vars.put name { declared := .text k.name, value := v } } } := by
  unfold autoRegister
  cases hu : undeclared name literal with
  | error e => exact .inl ⟨_, rfl, rfl⟩
  | ok kv => exact .inr ⟨kv.1, kv.2, rfl, rfl, rfl⟩

/-- Registering a variable that is not declared, and a line about it if it could be. -/
theorem moves_autoRegister {name literal : String} {f : Option Variable → BatchM Unit}
    (hsome : ∀ x, Moves Reports (f (some x))) (hnone : f none = pure ()) :
    Moves Advance (autoRegister name literal >>= f) := by
  intro b
  rw [gives_bind]
  refine gives_mono (gives_autoRegister name literal b) ?_
  rintro r b' (⟨line, rfl, rfl⟩ | ⟨k, v, hu, rfl, rfl⟩)
  · show Gives (f none) _ _
    rw [hnone]
    exact (moves_log line b).advance
  · exact Advance.edit (.declareVariable name (declared_of_undeclared hu)) (hsome _)

/-- Assigning a value, and a line about it. -/
theorem gives_assign {β : Type} {name : String} {x : Variable} {v : Value} {b : Batch}
    {f : Unit → BatchM β} (found : Entries.get? name b.state.vars = some x)
    (fits : ∀ k, x.kind? = some k → v.fits k = true) (tidy : x.value.Tidy → v.Tidy)
    (hf : Moves Reports (f ())) :
    Gives (putVariable name { x with value := v } >>= f) b fun r b' => Advance r.isOk b b' := by
  rw [gives_bind]
  exact Advance.edit (.assign found fits tidy) hf

theorem fits_of_literal {x : Variable} {s : String} {v : Value}
    (h : Value.ofLiteral x.kind? (.text s) = .ok v) : ∀ k, x.kind? = some k → v.fits k = true := by
  intro k hk
  rw [hk] at h
  exact Value.fits_ofLiteral h

/-- The root variable of a name is there behind the step that finds it. -/
theorem gives_rootVariable (root : String) (b : Batch) :
    Gives (rootVariable root) b fun r b' =>
      ∃ x, r = .ok x ∧ Entries.get? root b'.state.vars = some x ∧ Advance true b b' := by
  unfold rootVariable
  rw [gives_bind, gives_findVariable]
  dsimp only
  cases hf : Entries.get? root b.state.vars with
  | some x => exact ⟨x, rfl, hf, composes_advance.refl _ b⟩
  | none =>
    refine ⟨_, rfl, Entries.get?_put_self _ _ _, ?_⟩
    exact Advance.edit (.declareVariable root (declared_root root)) (moves_log _)

theorem moves_setBelow (name value : String) : Moves Advance (setBelow name value) := by
  intro b
  unfold setBelow
  rw [gives_bind]
  refine gives_mono (gives_rootVariable _ b) ?_
  rintro r b' ⟨x, rfl, found, hb⟩
  refine composes_advance.follow hb ?_
  dsimp only
  split
  · exact Reports.moves (moves_log _) b'
  · rename_i hkind
    have hk : x.kind? = some .object ∨ x.kind? = some .array := by
      by_contra h
      rw [not_or] at h
      exact hkind (by simp [h.1, h.2])
    refine gives_assign found (fun k hx => ?_) (fun hx => ?_) ?_
    · rcases hk with hk | hk <;> (rw [hk] at hx; cases hx; rfl)
    · refine Value.tidy_writePath _ (Value.tidy_text _) ?_
      split
      · exact hx
      · exact Value.inherited_tidy.rootValue _
    · split <;> exact moves_log _

theorem moves_setVariable (name value : String) : Moves Advance (setVariable name value) := by
  intro b
  unfold setVariable
  split
  · exact moves_setBelow name value b
  · rw [gives_bind, gives_findVariable]
    dsimp only
    cases hf : Entries.get? name b.state.vars with
    | some x =>
      refine composes_advance.gives_lift _ fun new hl => gives_assign hf (fits_of_literal hl)
        (fun _ => Value.tidy_ofLiteral (Value.tidy_text _) hl) ?_
      exact Reports.lift_bind _ fun _ => Reports.lift_bind _ fun _ => moves_log _
    | none =>
      refine moves_autoRegister (fun x => ?_) rfl b
      exact Reports.lift_bind _ fun _ => moves_log _

/-- The variable that a step changes is there behind the step that finds it. -/
theorem gives_stepVariable (name : String) (b : Batch) :
    Gives (stepVariable? name) b fun r b' => ∃ x?, r = .ok x? ∧ Advance true b b' ∧
      ∀ x, x? = some x → Entries.get? name b'.state.vars = some x := by
  unfold stepVariable?
  rw [gives_bind, gives_findVariable]
  dsimp only
  cases hf : Entries.get? name b.state.vars with
  | some x => exact ⟨some x, rfl, composes_advance.refl _ b, fun _ h => h ▸ hf⟩
  | none =>
    dsimp only
    rw [gives_bind]
    refine gives_mono (gives_autoRegister name "0" b) ?_
    rintro r b' (⟨line, rfl, rfl⟩ | ⟨k, v, hu, rfl, rfl⟩)
    · exact ⟨none, rfl, (moves_log line b).advance, by simp⟩
    · refine ⟨some _, rfl,
        Advance.edit (.declareVariable name (declared_of_undeclared hu)) (moves_log _), ?_⟩
      rintro y ⟨⟩
      exact Entries.get?_put_self _ _ _

/-- Assigning a number that is computed, and a line about it. -/
theorem gives_compute {β : Type} {name : String} {x : Variable} {b : Batch} (r : Except Fault Number)
    {f : Number → Unit → BatchM β} (found : Entries.get? name b.state.vars = some x)
    (hk : x.kind? = some .number) (hf : ∀ n, Moves Reports (f n ())) :
    Gives (liftM r >>= fun n => putVariable name { x with value := .ofNumber n } >>= f n) b
      fun r b' => Advance r.isOk b b' := by
  refine composes_advance.gives_lift _ fun n _ => ?_
  refine gives_assign found (fun k hx => ?_) (fun _ => Value.tidy_ofNumber n) (hf n)
  rw [hk] at hx
  cases hx
  exact Value.fits_ofNumber n

theorem moves_step (name : String) (up : Bool) : Moves Advance (step name up) := by
  intro b
  unfold step
  rw [gives_bind]
  refine gives_mono (gives_stepVariable name b) ?_
  rintro r b' ⟨x?, rfl, hb, hx⟩
  refine composes_advance.follow hb ?_
  cases x? with
  | none => exact composes_advance.refl _ b'
  | some x =>
    dsimp only
    split
    · exact Reports.moves (Reports.lift_bind _ fun _ => moves_log _) b'
    · rename_i hk
      refine composes_advance.gives_lift _ fun old _ => ?_
      have hlines : ∀ new : Number, Moves Reports (do
          log ("🔄 变量 " ++ name ++ ": " ++ (← (Value.ofNumber old).format) ++ " -> " ++
            (← (Value.ofNumber new).format) ++ " (" ++ (if up then "++" else "--") ++ ")")) :=
        fun new => Reports.lift_bind _ fun _ => Reports.lift_bind _ fun _ => moves_log _
      have hnumber : x.kind? = some .number := by simpa using hk
      cases up with
      | true => exact gives_compute (old.add (.int 1)) (hx x rfl) hnumber hlines
      | false => exact gives_compute (old.sub (.int 1)) (hx x rfl) hnumber hlines

theorem moves_assign (source name : String) (op : AssignOp) (literal : String) :
    Moves Advance (assign source name op literal) := by
  intro b
  unfold assign
  rw [gives_bind, gives_findVariable]
  dsimp only
  cases hf : Entries.get? name b.state.vars with
  | none =>
    refine moves_autoRegister (fun x => ?_) rfl b
    exact Reports.lift_bind _ fun _ => moves_log _
  | some x =>
    refine composes_advance.gives_lift _ fun new hl => ?_
    split
    · refine gives_assign hf (fits_of_literal hl)
        (fun _ => Value.tidy_ofLiteral (Value.tidy_text _) hl) ?_
      exact Reports.lift_bind _ fun _ => Reports.lift_bind _ fun _ => moves_log _
    · rename_i hk
      refine composes_advance.gives_lift _ fun delta _ => composes_advance.gives_lift _ fun base _ => ?_
      split
      · refine gives_compute _ hf hk fun n => ?_
        exact Reports.lift_bind _ fun _ => Reports.lift_bind _ fun _ => moves_log _
      · refine gives_compute _ hf hk fun n => ?_
        exact Reports.lift_bind _ fun _ => Reports.lift_bind _ fun _ => moves_log _
    · rename_i hk
      refine composes_advance.gives_lift _ fun old _ => composes_advance.gives_lift _ fun added _ => ?_
      refine gives_assign hf (fun k hx => ?_) (fun _ => Value.tidy_text _) (moves_log _)
      rw [hk] at hx
      cases hx
      rfl
    · exact Reports.moves (Reports.lift_bind _ fun _ => moves_log _) b

end Variables

/-! ### Table rows -/

section Rows

variable {t : Table} {row row' : Entries Value}

theorem moves_setCell (table : String) (index : Nat) (column literal : String) :
    Moves Advance (setCell table index column literal) := by
  refine moves_findTable composes_advance rfl fun b t found => ?_
  dsimp only
  split
  · rename_i c hc
    refine composes_advance.gives_lift _ fun new hl => ?_
    rw [gives_bind]
    refine Advance.edit (.setCell index found hc (fun k hk => ?_)
      (Value.tidy_ofLiteral (Value.tidy_text _) hl)) ?_
    · rw [hk] at hl
      exact Value.fits_ofLiteral hl
    · exact Reports.lift_bind _ fun _ => Reports.lift_bind _ fun _ => moves_log _
  · exact composes_advance.refl _ b

theorem moves_setCells (table row content : String) :
    Moves Advance (setCells table row content) := by
  refine moves_findTable composes_advance rfl fun b t _ => ?_
  refine composes_advance.gives_lift _ fun index _ => ?_
  cases index with
  | none => exact composes_advance.pure _ b
  | some index => exact composes_advance.forM _ (fun cell _ => moves_setCell table index _ _) b

/-- The cells that the literals of declared columns make. -/
theorem cells_rowOf {cells : List (String × String)} (h : rowOf t cells row = .ok row')
    (hc : ∀ key v, (key, v) ∈ row →
      ∃ c, t.column? key = some c ∧ ∀ k, c.kind? = some k → v.fits k = true) :
    ∀ key v, (key, v) ∈ row' →
      ∃ c, t.column? key = some c ∧ ∀ k, c.kind? = some k → v.fits k = true := by
  induction cells generalizing row with
  | nil =>
    cases h
    exact hc
  | cons cell cells ih =>
    obtain ⟨column, literal⟩ := cell
    rw [rowOf] at h
    split at h
    · exact ih h hc
    · rename_i c hcol
      cases hl : Value.ofLiteral c.kind? (.text literal) with
      | error e => rw [hl] at h; cases h
      | ok v =>
        rw [hl] at h
        refine ih h (Entries.forall_put hc ⟨c, hcol, fun k hk => ?_⟩)
        rw [hk] at hl
        exact Value.fits_ofLiteral hl

/-- A row that lacks nothing has the required columns. -/
theorem has_of_missing {columns : List Column} (h : missing row columns = .ok []) :
    ∀ c ∈ columns, c.required = true → ∀ name, c.name = .text name → row.has name = true := by
  induction columns with
  | nil => simp
  | cons c columns ih =>
    rw [missing] at h
    cases hh : hasCell row c.name with
    | error e => rw [hh] at h; cases h
    | ok found =>
      rw [hh] at h
      simp only [bind, Except.bind] at h
      split at h
      · cases hm : missing row columns with
        | error e => rw [hm] at h; cases h
        | ok names => rw [hm] at h; cases h
      · rename_i hfound
        intro d hd hreq name hname
        rcases List.mem_cons.1 hd with rfl | hd
        · rw [hname, hasCell, Except.ok.injEq] at hh
          simpa [hreq, hh] using hfound
        · exact ih h d hd hreq name hname

theorem moves_addRow (table content : String) : Moves Advance (addRow table content) := by
  refine moves_findTable composes_advance rfl fun b t found => ?_
  refine composes_advance.gives_lift _ fun row hrow => ?_
  refine composes_advance.gives_lift _ fun lacking hlacking => ?_
  split
  · rename_i hl
    rw [List.isEmpty_iff] at hl
    rw [gives_bind]
    refine Advance.edit (.addRow found ⟨cells_rowOf hrow (by simp), has_of_missing (hl ▸ hlacking),
      Value.inherited_tidy.of_rowOf hrow Value.inherited_tidy.emptyObject⟩) ?_
    exact Reports.lift_bind _ fun _ => moves_log _
  · exact Reports.moves (Reports.lift_bind _ fun _ => moves_log _) b

theorem moves_removeRow (table row : String) : Moves Advance (removeRow table row) := by
  refine moves_findTable composes_advance rfl fun b t found => ?_
  refine composes_advance.gives_lift _ fun index _ => ?_
  cases index with
  | none => exact Reports.moves (moves_log _) b
  | some index =>
    dsimp only
    rw [gives_bind]
    refine Advance.edit (.removeRow index found) ?_
    exact Reports.lift_bind _ fun _ => moves_log _

end Rows

/-! ### Hidden variables -/

theorem moves_setHidden (f : HiddenFields) : Moves Advance (setHidden f) := by
  intro b
  unfold setHidden
  rw [gives_bind, gives_findHidden]
  dsimp only
  rw [gives_bind]
  refine Advance.edit (.putHidden f.name rfl (Value.tidy_text _) ⟨_, rfl⟩) ?_
  cases Entries.get? f.name b.state.hidden with
  | some old => exact Reports.lift_bind _ fun _ => Reports.lift_bind _ fun _ => moves_log _
  | none => exact Reports.lift_bind _ fun _ => moves_log _

/-! ### Changes -/

/-- Carries out one part of a content. -/
def statement (part : List Char) : BatchM Unit := do
  let source := Text.strip part
  if source = [] then return
  match Statement.ofText? source with
  | some (.step name up) => step name up
  | some (.assign name op literal) => assign (String.ofList source) name op literal
  | none => log ("⚠️ 忽略无法解析的赋值: " ++ String.ofList source)

theorem assignAll_eq (content : String) :
    assignAll content = (splitOn ';' content.toList).forM statement := rfl

theorem moves_statement (part : List Char) : Moves Advance (statement part) := by
  unfold statement
  dsimp only
  split
  · exact composes_advance.pure _
  · split
    · exact moves_step _ _
    · exact moves_assign _ _ _ _
    · exact Reports.moves (moves_log _)

theorem moves_assignAll (content : String) : Moves Advance (assignAll content) := by
  rw [assignAll_eq]
  exact composes_advance.forM _ fun part _ => moves_statement part

theorem moves_change (raw : List Char) (c : Change) : Moves Advance (change raw c) := by
  unfold change
  cases c with
  | setVariable name value => exact composes_advance.map (moves_setVariable name value)
  | assign content => exact composes_advance.map (moves_assignAll content)
  | setCells table row content => exact composes_advance.map (moves_setCells table row content)
  | addRow table content => exact composes_advance.map (moves_addRow table content)
  | removeRow table row => exact composes_advance.map (moves_removeRow table row)
  | setHidden fields => exact composes_advance.map (moves_setHidden fields)

end Batch

end StoryState
