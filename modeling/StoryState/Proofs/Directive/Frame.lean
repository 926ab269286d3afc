import StoryState.Proofs.Directive.Change
import StoryState.Proofs.Directive.WrittenChange

/-!
What changes write. A change writes to the log, registers variables that it names, gives variables that
it names other values, tables that it names other rows, and puts hidden variables that it names. So
what all these writes go along (`Batch.Frame`), the change goes along (`Batch.Frame.moves_perform`), and a
list of changes as far as it is carried out (`Batch.gives_forM_begun`).
-/

namespace StoryState

open StoryState.Text

/-! ### What changes name -/

/-- The variable that a statement names. -/
def Batch.Statement.name : Batch.Statement → String
  | .step name _ | .assign name _ _ => name

/-- The variable that a part of a content names, if the part is a statement. -/
def Batch.statementName? (part : List Char) : Option String :=
  (Statement.ofText? (Text.strip part)).map Statement.name

namespace Change

/-- The variables that a change names; of a dotted name, the root. -/
def named : Change → List String
  | .setVariable name _ => [(Batch.rootAndPath name).1]
  | .assign content => (splitOn ';' content.toList).filterMap Batch.statementName?
  | _ => []

/-- The table that a change names. -/
def filled? : Change → Option String
  | .setCells table _ _ | .addRow table _ | .removeRow table _ => some table
  | _ => none

/-- The hidden variable that a change sets. -/
def hiddenName? : Change → Option String
  | .setHidden fields => some fields.name
  | _ => none

end Change

namespace Batch

/-! ### Writes -/

/-- A relation along which all writes go that changes make under the given names of variables, tables
and hidden variables. -/
structure Frame (R : Bool → Batch → Batch → Prop) (named filled hidden : String → Prop) : Prop
    extends Composes R where
  logs : ∀ b line, R true b { b with logs := b.logs ++ [line] }
  declares : ∀ b name x, named name → Entries.get? name b.state.vars = none →
    R true b { b with state.vars := b.state.vars.put name x }
  assigns : ∀ b name x v, named name → Entries.get? name b.state.vars = some x →
    R true b { b with state.vars := b.state.vars.put name { x with value := v } }
  fills : ∀ b name t rows, filled name → Entries.get? name b.state.tables = some t →
    R true b { b with state.tables := b.state.tables.put name { t with rows } }
  hides : ∀ b name x, hidden name → R true b { b with state.hidden := b.state.hidden.put name x }

namespace Frame

variable {R : Bool → Batch → Batch → Prop} {named filled hidden : String → Prop} {α β : Type} {b : Batch}

theorem moves_log (h : Frame R named filled hidden) (line : String) : Moves R (log line) :=
  fun b => h.logs b line

/-- A line with parts that may fail to be written. -/
theorem moves_line (h : Frame R named filled hidden) (r : Except Fault α) {f : α → BatchM β}
    (hf : ∀ a, Moves R (f a)) : Moves R (liftM r >>= f) :=
  h.bind (h.lift r) hf

theorem gives_assign (h : Frame R named filled hidden) {name : String} (mem : named name) {x : Variable}
    (found : Entries.get? name b.state.vars = some x) (v : Value) {f : Unit → BatchM β}
    (hf : Moves R (f ())) :
    Gives (putVariable name { x with value := v } >>= f) b fun r b' => R r.isOk b b' := by
  rw [gives_bind]
  exact h.follow (h.assigns b name x v mem found) (hf _)

theorem gives_fill (h : Frame R named filled hidden) {name : String} (mem : filled name) {t : Table}
    (found : Entries.get? name b.state.tables = some t) (rows : List (Entries Value))
    {f : Unit → BatchM β} (hf : Moves R (f ())) :
    Gives (putTable name { t with rows } >>= f) b fun r b' => R r.isOk b b' := by
  rw [gives_bind]
  exact h.follow (h.fills b name t rows mem found) (hf _)

/-! ### Variables -/

/-- A variable that is not declared is registered and there, or nothing is done but for a line. -/
theorem gives_autoRegister (h : Frame R named filled hidden) {name : String} (mem : named name)
    (literal : String) (absent : Entries.get? name b.state.vars = none) :
    Gives (autoRegister name literal) b fun r b' => ∃ x?, r = .ok x? ∧ R true b b' ∧
      ∀ x, x? = some x → Entries.get? name b'.state.vars = some x := by
  refine gives_mono (Batch.gives_autoRegister name literal b) ?_
  rintro r b' (⟨line, rfl, rfl⟩ | ⟨k, v, -, rfl, rfl⟩)
  · exact ⟨none, rfl, h.logs b line, by simp⟩
  · refine ⟨some _, rfl, h.declares b name _ mem absent, ?_⟩
    intro x hx
    rw [← Option.some.inj hx]
    exact Entries.get?_put_self ..

/-- A variable is registered as it is used, and a line about it. -/
theorem gives_register (h : Frame R named filled hidden) {name literal : String} (mem : named name)
    (absent : Entries.get? name b.state.vars = none) {f : Option Variable → BatchM Unit}
    (hsome : ∀ x, Moves R (f (some x))) (hnone : f none = pure ()) :
    Gives (autoRegister name literal >>= f) b fun r b' => R r.isOk b b' := by
  rw [gives_bind]
  refine gives_mono (h.gives_autoRegister mem literal absent) ?_
  rintro r b' ⟨x?, rfl, hb, -⟩
  refine h.follow hb ?_
  cases x? with
  | some x => exact hsome x b'
  | none =>
    rw [hnone]
    exact h.pure _ b'

/-- The root variable of a name is there behind the step that finds it. -/
theorem gives_rootVariable (h : Frame R named filled hidden) {root : String} (mem : named root)
    (b : Batch) :
    Gives (rootVariable root) b fun r b' => ∃ x, r = .ok x ∧ R true b b' ∧
      Entries.get? root b'.state.vars = some x := by
  unfold rootVariable
  rw [gives_bind, gives_findVariable]
  dsimp only
  cases found : Entries.get? root b.state.vars with
  | some x => exact ⟨x, rfl, h.refl _ b, found⟩
  | none =>
    exact ⟨_, rfl, h.trans (h.declares b root _ mem found) (h.logs _ _), Entries.get?_put_self ..⟩

theorem moves_setBelow (h : Frame R named filled hidden) {name : String} (mem : named (rootAndPath name).1)
    (value : String) : Moves R (setBelow name value) := by
  intro b
  unfold setBelow
  dsimp only
  rw [gives_bind]
  refine gives_mono (h.gives_rootVariable mem b) ?_
  rintro r b' ⟨x, rfl, hb, found⟩
  refine h.follow hb ?_
  split
  · exact h.moves_log _ b'
  · refine h.gives_assign mem found _ ?_
    split <;> exact h.moves_log _

end Frame

theorem rootAndPath_of_notMem {name : String} (h : '.' ∉ name.toList) : (rootAndPath name).1 = name := by
  have hcut : ∀ s : List Char, '.' ∉ s → cutAt? ['.'] s = none := by
    intro s hs
    induction s with
    | nil => rfl
    | cons c s ih =>
      rw [List.mem_cons, not_or] at hs
      rw [cutAt?, dropLead?, if_neg hs.1, ih hs.2]
      rfl
  unfold rootAndPath
  rw [hcut _ h]

namespace Frame

variable {R : Bool → Batch → Batch → Prop} {named filled hidden : String → Prop}

theorem moves_setVariable (h : Frame R named filled hidden) {name : String}
    (mem : named (rootAndPath name).1) (value : String) : Moves R (setVariable name value) := by
  intro b
  unfold setVariable
  split
  · exact h.moves_setBelow mem value b
  · rename_i hdot
    rw [rootAndPath_of_notMem (by simpa using hdot)] at mem
    rw [gives_bind, gives_findVariable]
    dsimp only
    cases found : Entries.get? name b.state.vars with
    | some x =>
      refine h.gives_lift _ fun new _ => h.gives_assign mem found new ?_
      exact h.moves_line _ fun _ => h.moves_line _ fun _ => h.moves_log _
    | none =>
      refine h.gives_register mem found (fun x => ?_) rfl
      exact h.moves_line _ fun _ => h.moves_log _

/-- The variable that a step changes is there behind the step that finds it. -/
theorem gives_stepVariable (h : Frame R named filled hidden) {name : String} (mem : named name)
    (b : Batch) :
    Gives (stepVariable? name) b fun r b' => ∃ x?, r = .ok x? ∧ R true b b' ∧
      ∀ x, x? = some x → Entries.get? name b'.state.vars = some x := by
  unfold stepVariable?
  rw [gives_bind, gives_findVariable]
  dsimp only
  cases found : Entries.get? name b.state.vars with
  | some x => exact ⟨some x, rfl, h.refl _ b, fun _ hx => hx ▸ found⟩
  | none =>
    dsimp only
    rw [gives_bind]
    refine gives_mono (h.gives_autoRegister mem "0" found) ?_
    rintro r b' ⟨x?, rfl, hb, hx⟩
    cases x? with
    | some x => exact ⟨some x, rfl, h.trans hb (h.logs b' _), hx⟩
    | none => exact ⟨none, rfl, hb, hx⟩

theorem moves_step (h : Frame R named filled hidden) {name : String} (mem : named name) (up : Bool) :
    Moves R (step name up) := by
  intro b
  unfold step
  rw [gives_bind]
  refine gives_mono (h.gives_stepVariable mem b) ?_
  rintro r b' ⟨x?, rfl, hb, found⟩
  refine h.follow hb ?_
  cases x? with
  | none => exact h.pure _ b'
  | some x =>
    have hassign : ∀ old new : Number, Gives (do
        putVariable name { x with value := .ofNumber new }
        log ("🔄 变量 " ++ name ++ ": " ++ (← (Value.ofNumber old).format) ++ " -> " ++
          (← (Value.ofNumber new).format) ++ " (" ++ (if up then "++" else "--") ++ ")")) b'
        fun r b'' => R r.isOk b' b'' := by
      intro old new
      refine h.gives_assign mem (found x rfl) _ ?_
      exact h.moves_line _ fun _ => h.moves_line _ fun _ => h.moves_log _
    dsimp only
    split
    · exact h.moves_line _ (fun _ => h.moves_log _) b'
    · refine h.gives_lift _ fun old _ => ?_
      cases up with
      | true => exact h.gives_lift _ fun new _ => hassign old new
      | false => exact h.gives_lift _ fun new _ => hassign old new

theorem moves_assign (h : Frame R named filled hidden) {name : String} (mem : named name)
    (source : String) (op : AssignOp) (literal : String) :
    Moves R (assign source name op literal) := by
  intro b
  unfold assign
  rw [gives_bind, gives_findVariable]
  dsimp only
  cases found : Entries.get? name b.state.vars with
  | none =>
    refine h.gives_register mem found (fun x => ?_) rfl
    exact h.moves_line _ fun _ => h.moves_log _
  | some x =>
    refine h.gives_lift _ fun new _ => ?_
    split
    · refine h.gives_assign mem found new ?_
      exact h.moves_line _ fun _ => h.moves_line _ fun _ => h.moves_log _
    · refine h.gives_lift _ fun delta _ => h.gives_lift _ fun base _ => ?_
      split <;>
        exact h.gives_lift _ fun sum _ =>
          h.gives_assign mem found _ (h.moves_line _ fun _ => h.moves_line _ fun _ => h.moves_log _)
    · refine h.gives_lift _ fun old _ => h.gives_lift _ fun added _ => ?_
      exact h.gives_assign mem found _ (h.moves_log _)
    · exact h.moves_line _ (fun _ => h.moves_log _) b

theorem moves_statement (h : Frame R named filled hidden) {part : List Char}
    (mem : ∀ name, statementName? part = some name → named name) : Moves R (statement part) := by
  unfold statement
  dsimp only
  split
  · exact h.pure _
  · split
    · rename_i name up hpart
      exact h.moves_step (mem name (by rw [statementName?, hpart]; rfl)) up
    · rename_i name op literal hpart
      exact h.moves_assign (mem name (by rw [statementName?, hpart]; rfl)) _ op literal
    · exact h.moves_log _

theorem moves_assignAll (h : Frame R named filled hidden) {content : String}
    (mem : ∀ name ∈ (splitOn ';' content.toList).filterMap statementName?, named name) :
    Moves R (assignAll content) := by
  rw [assignAll_eq]
  refine h.forM _ fun part hpart => h.moves_statement fun name hname => mem name ?_
  exact List.mem_filterMap.2 ⟨part, hpart, hname⟩

/-! ### Tables and hidden variables -/

variable {table : String}

theorem moves_setCell (h : Frame R named filled hidden) (mem : filled table) (index : Nat)
    (column literal : String) : Moves R (setCell table index column literal) := by
  refine moves_findTable h.toComposes rfl fun b t found => ?_
  dsimp only
  split
  · refine h.gives_lift _ fun new _ => h.gives_fill mem found _ ?_
    exact h.moves_line _ fun _ => h.moves_line _ fun _ => h.moves_log _
  · exact h.pure _ b

theorem moves_setCells (h : Frame R named filled hidden) (mem : filled table) (row content : String) :
    Moves R (setCells table row content) := by
  refine moves_findTable h.toComposes rfl fun b t found => ?_
  refine h.gives_lift _ fun index _ => ?_
  cases index with
  | none => exact h.pure _ b
  | some index => exact h.forM _ (fun cell _ => h.moves_setCell mem index _ _) b

theorem moves_addRow (h : Frame R named filled hidden) (mem : filled table) (content : String) :
    Moves R (addRow table content) := by
  refine moves_findTable h.toComposes rfl fun b t found => ?_
  refine h.gives_lift _ fun row _ => h.gives_lift _ fun lacking _ => ?_
  split
  · refine h.gives_fill mem found _ ?_
    exact h.moves_line _ fun _ => h.moves_log _
  · exact h.moves_line _ (fun _ => h.moves_log _) b

theorem moves_removeRow (h : Frame R named filled hidden) (mem : filled table) (row : String) :
    Moves R (removeRow table row) := by
  refine moves_findTable h.toComposes rfl fun b t found => ?_
  refine h.gives_lift _ fun index _ => ?_
  cases index with
  | none => exact h.moves_log _ b
  | some index =>
    refine h.gives_fill mem found _ ?_
    exact h.moves_line _ fun _ => h.moves_log _

theorem moves_setHidden (h : Frame R named filled hidden) {fields : HiddenFields} (mem : hidden fields.name) :
    Moves R (setHidden fields) := by
  intro b
  unfold setHidden
  rw [gives_bind, gives_findHidden]
  dsimp only
  rw [gives_bind]
  refine h.follow (h.hides b fields.name (hiddenOf fields) mem) ?_
  cases Entries.get? fields.name b.state.hidden with
  | some old => exact h.moves_line _ (fun _ => h.moves_line _ fun _ => h.moves_log _) _
  | none => exact h.moves_line _ (fun _ => h.moves_log _) _

/-! ### Changes -/

theorem moves_perform (h : Frame R named filled hidden) {c : Change} (hnamed : ∀ name ∈ c.named, named name)
    (hfilled : ∀ name, c.filled? = some name → filled name)
    (hhidden : ∀ name, c.hiddenName? = some name → hidden name) : Moves R (perform c) := by
  refine h.map ?_
  cases c with
  | setVariable name value => exact h.map (h.moves_setVariable (hnamed _ (List.mem_singleton_self _)) value)
  | assign content => exact h.map (h.moves_assignAll hnamed)
  | setCells name row content => exact h.map (h.moves_setCells (hfilled name rfl) row content)
  | addRow name content => exact h.map (h.moves_addRow (hfilled name rfl) content)
  | removeRow name row => exact h.map (h.moves_removeRow (hfilled name rfl) row)
  | setHidden fields => exact h.map (h.moves_setHidden (hhidden fields.name rfl))

end Frame

/-! ### What is carried out of a list -/

section Begun

variable {α : Type} {act : α → BatchM Unit}

/-- The directives of a list that are carried out from a batch on: all of them, or those up to the one
that stops, which is one of them. -/
def begun (act : α → BatchM Unit) : List α → Batch → List α
  | [], _ => []
  | a :: l, b =>
    match (act a).run b with
    | (.ok _, b') => a :: begun act l b'
    | (.error _, _) => [a]

theorem begun_prefix (act : α → BatchM Unit) (l : List α) (b : Batch) : begun act l b <+: l := by
  induction l generalizing b with
  | nil => exact List.prefix_refl _
  | cons a l ih =>
    unfold begun
    split
    · exact (List.prefix_append_right_inj [a]).2 (ih _)
    · exact List.prefix_append [a] l

/-- A list of directives that goes through is carried out as a whole. -/
theorem begun_eq_self {l : List α} {b : Batch} (h : ((l.forM act).run b).1.isOk = true) :
    begun act l b = l := by
  induction l generalizing b with
  | nil => rfl
  | cons a l ih =>
    rw [List.forM_eq_forM, List.forM_cons, run_bind] at h
    unfold begun
    rcases hrun : (act a).run b with ⟨_ | u, b'⟩
    · rw [hrun] at h
      cases h
    · rw [hrun] at h
      exact congrArg (a :: ·) (ih h)

/-- A list of directives goes along a relation if those that are carried out do. -/
theorem gives_forM_begun {R : Bool → Batch → Batch → Prop} (hR : Composes R) {l : List α} {b : Batch}
    (h : ∀ a ∈ begun act l b, Moves R (act a)) :
    Gives (l.forM act) b fun r b' => R r.isOk b b' := by
  induction l generalizing b with
  | nil => exact hR.pure _ b
  | cons a l ih =>
    rw [List.forM_eq_forM, List.forM_cons, gives_bind]
    unfold begun at h
    unfold Gives
    split at h
    · rename_i u b' hrun
      have hstep := h a (by simp) b
      unfold Gives at hstep
      rw [hrun] at hstep ⊢
      exact hR.follow hstep (ih fun a' ha' => h a' (by simp [ha']))
    · rename_i e b' hrun
      have hstep := h a (by simp) b
      unfold Gives at hstep
      rw [hrun] at hstep ⊢
      exact hstep

end Begun

end Batch

end StoryState
