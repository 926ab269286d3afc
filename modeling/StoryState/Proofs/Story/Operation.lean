import StoryState.Proofs.Directive.Registration
import StoryState.Proofs.Macro.Reading
import StoryState.Proofs.Story.Call
import StoryState.Proofs.Story.Storing

/-!
What the operations on a script do to the scopes that they work on: those on one scope
(`ScopeCall.accounts`), the reading of macros (`inside_replaceMacros`) and the storing of what is
marked (`does_storeMarked`).
-/

namespace StoryState

open Script

/-- Arguments that a document can hold. -/
def ScopeCall.Fit : ScopeCall → Prop
  | .registerVariable _ declared literal branches =>
    declared.Tidy ∧ literal.Tidy ∧ ∀ bs, branches = some bs → ∀ b ∈ bs, b.Storable
  | .registerTable _ columns => ∀ c ∈ columns, c.Storable
  | .registerHidden _ h => h.Storable
  | .setCell _ _ _ literal => literal.Tidy
  | .addRow _ cells => (Value.object cells).Tidy
  | .setVariable _ literal => literal.Tidy
  | _ => True

namespace Script

variable {α β : Type} {D : State → State → Prop} {c : Scope} {s : Script}

/-! ### Operations on one scope -/

/-- The task answers from what a task answered that held the lock of a scope and accounted for it,
or stopped. -/
def Accounts (c : Scope) (t : ScriptTask β) : Prop :=
  ∃ (α : Type) (body : ScriptTask α) (f : α → β), t = holding c body >>= (fun a => pure (f a)) ∧
    ∀ (D : State → State → Prop) (s : Script), Drift D → UpTo D c s →
      Does D c body s fun r s' => match r with
        | .ok _ => UpTo D c s'
        | .error _ => Stops c s s'

theorem accounts_onOpen {t : ScriptTask α} (f : α → β)
    (h : ∀ (D : State → State → Prop) (s : Script), Drift D → UpTo D c s →
      (s.story.cell c).isOpen = true → Does D c t s (Works D c s)) :
    Accounts c (onOpen c t >>= fun a => pure (f a)) :=
  ⟨α, _, f, rfl, fun D _ hD hs => does_onOpen hD hs fun s hs hopen => h D s hD hs hopen⟩

/-- A batch that reports nothing has done nothing, so what is marked is stored in the end. -/
theorem accounts_carryOut {run : TagNames → State → Except Fault BatchResult × State}
    (f : BatchResult → β) (storable : ∀ names state, state.Storable → (run names state).2.Storable)
    (silent : ∀ names state result, (run names state).1 = .ok result → result.changed = false →
      (run names state).2 = state) : Accounts c (carryOut c run >>= fun a => pure (f a)) := by
  refine accounts_onOpen f fun D s hD hs hopen => .get ?_
  dsimp only
  have hstorable := storable s.story.names (s.memory c)
  have hsilent := silent s.story.names (s.memory c)
  show Does D c (modify (setState c (run s.story.names (s.memory c)).2) >>= fun _ =>
    Task.ofExcept (run s.story.names (s.memory c)).1 >>= _) s _
  generalize run s.story.names (s.memory c) = p at hstorable hsilent ⊢
  obtain ⟨outcome, state⟩ := p
  refine .assume fun hmemory => .bind (does_modifySetState hstorable (.bind (.done ?_)))
  cases outcome with
  | error e => exact unsaved_setState
  | ok result =>
    refine .get ?_
    rw [cell_setState]
    dsimp only
    split
    · refine .bind ((does_persist hD).mono fun r s' hr => ?_)
      cases r with
      | error e => exact hr.1 ▸ unsaved_setState
      | ok _ =>
        refine .done (hr.upTo ?_)
        rw [memory_setState]
        exact hstorable hmemory
    · rename_i hkept
      simp only [Bool.or_eq_true, not_or, Bool.not_eq_true] at hkept
      have hstate : state = s.memory c := hsilent result rfl hkept.1
      refine .done fun _ _ => ?_
      rw [memory_setState, hstate]
      exact hs hopen hkept.2

theorem accounts_edit {g : State → Except Fault State} (f : Unit → β)
    (storable : ∀ state state', g state = .ok state' → state.Storable → state'.Storable) :
    Accounts c (edit c g >>= fun a => pure (f a)) := by
  refine accounts_onOpen f fun D s hD hs hopen => .get (.bind ?_)
  show Does D c (.done (g (s.memory c))) s _
  cases hg : g (s.memory c) with
  | error e => exact .done (.refl c s)
  | ok state =>
    refine .done (.assume fun hmemory => ?_)
    have hstate := storable _ _ hg hmemory
    exact .bind (does_modifySetState (fun _ => hstate) (does_persistChange hD hstate))

theorem accounts_editIf {otherwise : α} {g : State → Except Fault (Option (α × State))} (f : α → β)
    (storable : ∀ state a state', g state = .ok (some (a, state')) → state.Storable →
      state'.Storable) :
    Accounts c (editIf c otherwise g >>= fun a => pure (f a)) := by
  refine accounts_onOpen f fun D s hD hs hopen => .get (.bind ?_)
  show Does D c (.done (g (s.memory c))) s _
  cases hg : g (s.memory c) with
  | error e => exact .done (.refl c s)
  | ok found =>
    cases found with
    | none => exact .done (.done hs)
    | some p =>
      obtain ⟨a, state⟩ := p
      refine .done (.assume fun hmemory => ?_)
      have hstate := storable _ _ _ hg hmemory
      refine .bind (does_modifySetState (fun _ => hstate) (.bind ?_))
      refine (does_persistChange hD hstate).mono fun r s' hr => ?_
      cases r with
      | error e => exact hr
      | ok _ => exact .done hr

/-- The row that cells make is tidy. -/
theorem tidy_rowOfCells {table : String} {cells : Entries Value} (hcells : (Value.object cells).Tidy)
    {columns : List Column} {row row' : Entries Value} (hrow : (Value.object row).Tidy)
    (h : rowOfCells table cells columns row = .ok row') : (Value.object row').Tidy := by
  induction columns generalizing row with
  | nil =>
    cases h
    exact hrow
  | cons column columns ih =>
    have hskip : (do
        if column.required then throw (.missingCell table (← column.name.display))
        rowOfCells table cells columns row : Except Fault (Entries Value)) = .ok row' →
        (Value.object row').Tidy := by
      intro h
      dsimp only at h
      split at h
      · obtain ⟨_, -, h⟩ := exists_of_bind_ok h
        cases h
      · exact ih hrow h
    unfold rowOfCells at h
    obtain ⟨has, -, h⟩ := exists_of_bind_ok h
    dsimp only at h
    split at h
    · obtain ⟨key, -, h⟩ := exists_of_bind_ok h
      obtain ⟨given, hgiven, h⟩ := exists_of_bind_ok h
      cases hgiven
      split at h
      · exact hskip h
      · exact hskip h
      · rename_i literal hliteral
        obtain ⟨key', -, h⟩ := exists_of_bind_ok h
        obtain ⟨v, hv, h⟩ := exists_of_bind_ok h
        have hv : v.Tidy := Value.tidy_ofLiteral (Value.inherited_tidy.of_get? hcells hliteral) hv
        exact ih (Value.tidy_put hv hrow) h
    · exact hskip h

/-- The task answers from what a task answered that puts in the place of a scope's state another one
along `R`. If it does so silently, it puts back the same. -/
inductive Rewrites (c : Scope) (R : TagNames → State → State → Prop) : ScriptTask β → Prop
  | carryOut {run : TagNames → State → Except Fault BatchResult × State} (f : BatchResult → β)
    (along : ∀ names m, R names m (run names m).2)
    (silent : ∀ names m result, (run names m).1 = .ok result → result.changed = false →
      (run names m).2 = m) : Rewrites c R (carryOut c run >>= fun a => pure (f a))
  | edit {g : State → Except Fault State} (f : Unit → β)
    (along : ∀ names m m', g m = .ok m' → R names m m') :
    Rewrites c R (edit c g >>= fun a => pure (f a))
  | editIf {α : Type} {otherwise : α} {g : State → Except Fault (Option (α × State))} (f : α → β)
    (along : ∀ names m a m', g m = .ok (some (a, m')) → R names m m') :
    Rewrites c R (editIf c otherwise g >>= fun a => pure (f a))

theorem Rewrites.accounts {R : TagNames → State → State → Prop} {t : ScriptTask β}
    (h : Rewrites c R t) (storable : ∀ names m m', R names m m' → m.Storable → m'.Storable) :
    Accounts c t := by
  cases h with
  | carryOut f along silent =>
    exact accounts_carryOut f (fun names m => storable names _ _ (along names m)) silent
  | edit f along => exact accounts_edit f fun m m' h => storable .standard m m' (along _ _ _ h)
  | editIf f along => exact accounts_editIf f fun m a m' h => storable .standard m m' (along _ _ a _ h)

end Script

/-- What an operation does to the state of its scope. -/
inductive ScopeCall.Effect (names : TagNames) (m : State) : ScopeCall → State → Prop
  | applyChanges (text : String) :
    Effect names m (.applyChanges text) (m.applyChanges names text).2
  | applyRegistrations (text : String) :
    Effect names m (.applyRegistrations text) (m.applyRegistrations names text).2
  | registerVariable (name : String) {declared literal value : Value}
    (branches : Option (List Branch))
    (hvalue : Value.ofLiteral (Kind.ofValue? declared) literal = .ok value) :
    Effect names m (.registerVariable name declared literal branches)
      { m with
        vars := m.vars.put name
          { declared, value, isConditional := branches.isSome, branches } }
  | registerTable (name : String) (columns : List Column) :
    Effect names m (.registerTable name columns)
      { m with tables := m.tables.put name { name := .text name, columns } }
  | registerHidden (name : String) (h : Hidden) :
    Effect names m (.registerHidden name h) { m with hidden := m.hidden.put name h }
  | dropVariable (name : String) :
    Effect names m (.dropVariable name) { m with vars := m.vars.erase name }
  | dropTable (name : String) :
    Effect names m (.dropTable name) { m with tables := m.tables.erase name }
  | dropHidden (name : String) :
    Effect names m (.dropHidden name) { m with hidden := m.hidden.erase name }
  | setCell {table column : String} {row : Int} {literal value : Value} {t : Table} {x : Column}
    (i : Nat) (found : Entries.get? table m.tables = some t)
    (hvalue : Value.ofLiteral x.kind? literal = .ok value) :
    Effect names m (.setCell table row column literal)
      { m with
        tables := m.tables.put table
          { t with rows := t.rows.set i ((t.rows.getD i []).put column value) } }
  | addRow {table : String} {cells row : Entries Value} {t : Table}
    (found : Entries.get? table m.tables = some t)
    (hrow : rowOfCells table cells t.columns [] = .ok row) :
    Effect names m (.addRow table cells)
      { m with tables := m.tables.put table { t with rows := t.rows ++ [row] } }
  | removeRow {table : String} {row : Int} {t : Table} (i : Nat)
    (found : Entries.get? table m.tables = some t) :
    Effect names m (.removeRow table row)
      { m with tables := m.tables.put table { t with rows := t.rows.eraseIdx i } }
  | setVariable {name : String} {literal value : Value} {x : Variable}
    (found : Entries.get? name m.vars = some x)
    (hvalue : Value.ofLiteral x.kind? literal = .ok value) :
    Effect names m (.setVariable name literal) { m with vars := m.vars.put name { x with value } }

theorem ScopeCall.rewrites (c : Scope) (op : ScopeCall) :
    Rewrites c (fun names m m' => Effect names m op m') (op.task c) := by
  cases op with
  | applyChanges text =>
    exact .carryOut _ (fun names m => .applyChanges text) fun names m =>
      (m.applyChanges_spec names text).2
  | applyRegistrations text =>
    exact .carryOut _ (fun names m => .applyRegistrations text) fun names m =>
      (m.applyRegistrations_spec names text).2
  | registerVariable name declared literal branches =>
    refine .edit _ fun names m m' h => ?_
    obtain ⟨v, hv, h⟩ := exists_of_bind_ok h
    cases h
    exact .registerVariable name branches hv
  | registerTable name columns =>
    refine .edit _ fun names m m' h => ?_
    cases h
    exact .registerTable name columns
  | registerHidden name hidden =>
    refine .edit _ fun names m m' h => ?_
    cases h
    exact .registerHidden name hidden
  | dropVariable name =>
    refine .edit _ fun names m m' h => ?_
    cases h
    exact .dropVariable name
  | dropTable name =>
    refine .edit _ fun names m m' h => ?_
    cases h
    exact .dropTable name
  | dropHidden name =>
    refine .edit _ fun names m m' h => ?_
    cases h
    exact .dropHidden name
  | setCell table row column literal =>
    refine .editIf _ fun names m a m' h => ?_
    split at h
    · cases h
    · rename_i t ht
      split at h
      · obtain ⟨v, hv, h⟩ := exists_of_bind_ok h
        cases h
        exact .setCell _ ht hv
      · cases h
  | addRow table cells =>
    refine .editIf _ fun names m a m' h => ?_
    split at h
    · cases h
    · rename_i t ht
      obtain ⟨row, hrow, h⟩ := exists_of_bind_ok h
      cases h
      exact .addRow ht hrow
  | removeRow table row =>
    refine .editIf _ fun names m a m' h => ?_
    split at h
    · cases h
    · rename_i t ht
      split at h
      · cases h
      · cases h
        exact .removeRow _ ht
  | setVariable name literal =>
    refine .editIf _ fun names m a m' h => ?_
    split at h
    · cases h
    · rename_i x hx
      obtain ⟨v, hv, h⟩ := exists_of_bind_ok h
      cases h
      exact .setVariable hx hv

/-- With arguments that a document can hold, an operation keeps a state storable. -/
theorem ScopeCall.Effect.storable {op : ScopeCall} {names : TagNames} {m m' : State}
    (h : op.Effect names m m') (fit : op.Fit) (hm : m.Storable) : m'.Storable := by
  cases h with
  | applyChanges text => exact (m.applyChanges_spec names text).1.storable hm
  | applyRegistrations text => exact (m.applyRegistrations_spec names text).1.storable hm
  | registerVariable name branches hv =>
    obtain ⟨hdeclared, hliteral, hbranches⟩ := fit
    exact hm.putVariable ⟨hdeclared, Value.tidy_ofLiteral hliteral hv, hbranches⟩
  | registerTable name columns => exact hm.putTable ⟨trivial, .inr rfl, fit, by simp⟩
  | registerHidden name hidden => exact hm.putHidden fit
  | dropVariable name => exact hm.dropVariable
  | dropTable name => exact hm.dropTable
  | dropHidden name => exact hm.dropHidden
  | setCell i found hv =>
    have htable := hm.tables _ _ (Entries.mem_of_get? found)
    exact hm.putTable (htable.setCell (Value.tidy_ofLiteral fit hv))
  | addRow found hrow =>
    have htable := hm.tables _ _ (Entries.mem_of_get? found)
    have hempty : (Value.object []).Tidy := Value.tidy_object.2 ⟨Entries.once_nil, by simp⟩
    exact hm.putTable (htable.addRow (tidy_rowOfCells fit hempty hrow))
  | removeRow i found => exact hm.putTable ((hm.tables _ _ (Entries.mem_of_get? found)).removeRow _)
  | setVariable found hv =>
    have hvariable := hm.vars _ _ (Entries.mem_of_get? found)
    exact hm.putVariable (hvariable.assign (Value.tidy_ofLiteral fit hv))

/-- An operation that goes through accounts for its scope; one that stops has saved nothing. -/
theorem ScopeCall.accounts {c : Scope} {op : ScopeCall} (fit : op.Fit) : Accounts c (op.task c) :=
  (op.rewrites c).accounts fun _ _ _ h => h.storable fit

namespace Script

variable {D : State → State → Prop} {c d : Scope} {s s' : Script}

/-! ### Macros -/

/-- What reading macros does: hidden variables of one scope expire. -/
def Ages (c : Scope) (s s' : Script) : Prop := OnlyAt c s s' ∧ Drifts Expiry c s s'

theorem Ages.refl (c : Scope) (s : Script) : Ages c s s := ⟨.refl c s, .refl drift_expiry c s⟩

theorem Ages.trans {s'' : Script} (h : Ages c s s') (h' : Ages c s' s'') : Ages c s s'' :=
  ⟨h.1.trans h'.1, h.2.trans drift_expiry h'.2⟩

theorem ages_setState {state : State} (h : Expiry (s.memory c) state) : Ages c s (s.setState c state) := by
  refine ⟨setCell_onlyAt, ?_, ?_, ?_, rfl⟩
  · rw [memory_setState]
    exact h
  · rw [cell_setState]
  · rw [cell_setState]
    exact id

theorem ages_mark : Ages c s (s.setDirty c true) := by
  refine ⟨setCell_onlyAt, ?_, ?_, ?_, rfl⟩
  · rw [memory_setDirty]
  · rw [cell_setDirty]
  · rw [cell_setDirty]
    exact fun _ => rfl

theorem Ages.drifts (h : Ages c s s') (d : Scope) : Drifts Expiry d s s' := by
  by_cases hd : d = c
  · exact hd ▸ h.2
  · exact .of_agree drift_expiry (h.1.2 d hd)

/-- A scope that has aged is accounted for if it was and is marked or as before. -/
theorem UpTo.ages (h : UpTo D c s) (ha : Ages c s s')
    (marked : (s'.story.cell c).isDirty = false → s'.story.cell c = s.story.cell c) : UpTo D c s' := by
  intro hopen hclean
  have hcell := marked hclean
  rw [hcell] at hopen hclean
  obtain ⟨stored, hstored, hdrift⟩ := h hopen hclean
  refine ⟨stored, ha.2.storedState.trans hstored, ?_⟩
  rw [memory, hcell]
  exact hdrift

theorem memory_of_state? {state : State} (h : s.story.state? c = some state) : state = s.memory c := by
  cases c with
  | global => exact (Option.some.inj h).symm
  | character id =>
    unfold Story.state? at h
    dsimp only at h
    split at h
    · exact (Option.some.inj h).symm
    · cases h

/-- Reading macros ages a scope. If it goes through, the scope is marked or as before. -/
theorem inside_replaceMacros (Rest : Script → Script → Prop) {text : String} :
    (replaceMacros c text).Inside Rest (Ages c) s fun r s' => Ages c s s' ∧
      ∀ result, r = .ok result → (s'.story.cell c).isDirty = false →
        s'.story.cell c = s.story.cell c := by
  unfold replaceMacros
  rw [Task.inside_get]
  dsimp only
  cases hstate : s.story.state? c with
  | none => exact ⟨.refl c s, fun _ _ _ => rfl⟩
  | some state =>
    obtain rfl := memory_of_state? hstate
    have hspec := (s.memory c).replaceMacros_spec (s.story.defaultId c) text Macro.defaultDepth
    dsimp only
    generalize (s.memory c).replaceMacros (s.story.defaultId c) text = seen at hspec
    have hset : Ages c s (s.setState c seen.state) := ages_setState hspec.expiry
    rw [Task.inside_bind]
    refine ⟨hset, ?_⟩
    show Task.Inside _ _ (Task.ofExcept seen.result >>= _) _ _
    rw [Task.inside_bind]
    cases seen.result with
    | error e => exact ⟨hset, by rintro _ ⟨⟩⟩
    | ok result =>
      show Task.Inside _ _ (if !seen.expired.isEmpty then _ else _) _ _
      cases hexpired : seen.expired with
      | nil =>
        refine ⟨hset, fun _ _ _ => ?_⟩
        rw [cell_setState, hspec.nothing hexpired]
        rfl
      | cons name names =>
        refine ⟨ages_mark, hset.trans ages_mark, fun _ _ hclean => ?_⟩
        rw [cell_setDirty] at hclean
        cases hclean

/-! ### Storing what is marked -/

/-- A scope that is open is not marked behind this. -/
theorem does_storeMarked (hD : Drift D) (hs : UpTo D c s) :
    Does D c (storeMarked c) s fun r s' => match r with
      | .ok _ => UpTo D c s' ∧ D (s.memory c) (s'.memory c) ∧
          ((s'.story.cell c).isOpen = true → (s'.story.cell c).isDirty = false)
      | .error _ => s' = s ∧ Stuck c s := by
  refine .get ?_
  dsimp only
  split
  · refine .assume fun hmemory => .bind ((does_persist hD).mono fun r s' hr => ?_)
    cases r with
    | error e => exact hr
    | ok _ => exact .done ⟨hr.upTo hmemory, hr.state, fun _ => hr.unmarked⟩
  · rename_i hkept
    refine .done ⟨hs, hD.refl _, fun hopen => ?_⟩
    have hstate : (s.story.state? c).isSome = true := by
      cases c with
      | global => rfl
      | character id =>
        unfold Story.state?
        dsimp only
        rw [if_pos hopen]
        rfl
    simpa [hstate] using hkept

end Script

/-! ### Operations that may run side by side -/

/-- An operation on one scope, or on what is marked. -/
inductive Operation where
  | on (c : Scope) (call : ScopeCall)
  | readMacros (c : Scope) (text : String)
  | renderMacros (history : History) (c : Scope) (text : String)
  | flush

/-- The task of an operation. -/
def Operation.task : Operation → ScriptTask Answer
  | .on c call => call.task c
  | .readMacros c text => do return .text (← replaceMacros c text)
  | .renderMacros history c text => do return .text (← Script.renderMacros history c text)
  | .flush => do return .count (← Script.flush)

/-- Arguments that a document can hold. -/
def Operation.Fit : Operation → Prop
  | .on _ call => call.Fit
  | _ => True

end StoryState
