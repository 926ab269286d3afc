import StoryState.Proofs.Story.Local
import StoryState.Story.Snapshot

/-!
Calls on a script: operations on one scope, each of which does all that it does while it holds the
scope's lock (`Guarded`), and snapshots.
-/

namespace StoryState

open Script

/-- What a call answers. -/
inductive Answer where
  | nothing
  | batch (result : BatchResult)
  | flag (b : Bool)
  | place (n : Nat)
  | count (n : Nat)
  | text (s : String)
  | names (n : TagNames)
  | snapshot (s : Snapshot)

/-- An operation on a scope. -/
inductive ScopeCall where
  | applyChanges (text : String)
  | applyRegistrations (text : String)
  | registerVariable (name : String) (declared literal : Value) (branches : Option (List Branch))
  | registerTable (name : String) (columns : List Column)
  | registerHidden (name : String) (h : Hidden)
  | dropVariable (name : String)
  | dropTable (name : String)
  | dropHidden (name : String)
  | setCell (table : String) (row : Int) (column : String) (literal : Value)
  | addRow (table : String) (cells : Entries Value)
  | removeRow (table : String) (row : Int)
  | setVariable (name : String) (literal : Value)

/-- The task of an operation. -/
def ScopeCall.task (c : Scope) : ScopeCall → ScriptTask Answer
  | .applyChanges text => do return .batch (← Script.applyChanges c text)
  | .applyRegistrations text => do return .batch (← Script.applyRegistrations c text)
  | .registerVariable name declared literal branches => do
    let _ ← Script.registerVariable c name declared literal branches
    return .nothing
  | .registerTable name columns => do
    let _ ← Script.registerTable c name columns
    return .nothing
  | .registerHidden name h => do
    let _ ← Script.registerHidden c name h
    return .nothing
  | .dropVariable name => do
    let _ ← Script.dropVariable c name
    return .nothing
  | .dropTable name => do
    let _ ← Script.dropTable c name
    return .nothing
  | .dropHidden name => do
    let _ ← Script.dropHidden c name
    return .nothing
  | .setCell table row column literal => do
    return .flag (← Script.setCell c table row column literal)
  | .addRow table cells => do return .place (← Script.addRow c table cells)
  | .removeRow table row => do return .flag (← Script.removeRow c table row)
  | .setVariable name literal => do return .flag (← Script.setVariable c name literal)

/-- An operation on a scope, or a snapshot. -/
inductive Call where
  | on (c : Scope) (op : ScopeCall)
  | snapshot

/-- The task of a call. -/
def Call.task : Call → ScriptTask Answer
  | .on c op => op.task c
  | .snapshot => do return .snapshot (← takeSnapshot)

/-- The scope on which a call operates. -/
def Call.scope? : Call → Option Scope
  | .on c _ => some c
  | .snapshot => none

/-! ### Operations hold the lock of their scope -/

namespace Script

variable {α β : Type} {c : Scope}

/-- The task answers from what a task answered that minds only one scope and held its lock. -/
def Guarded (c : Scope) (t : ScriptTask β) : Prop :=
  ∃ (α : Type) (body : ScriptTask α) (f : α → β),
    LocalTo c body ∧ t = holding c body >>= fun a => pure (f a)

theorem guarded_onOpen {t : ScriptTask α} (h : LocalTo c t) (f : α → β) :
    Guarded c (onOpen c t >>= fun a => pure (f a)) :=
  ⟨α, _, f, .bind local_ensureOpen fun _ => h, rfl⟩

theorem guarded_carryOut {run : TagNames → State → Except Fault BatchResult × State}
    (f : BatchResult → β) : Guarded c (carryOut c run >>= fun a => pure (f a)) := by
  refine guarded_onOpen (.get (fun s s₀ hs => ?_) fun s => ?_) f
  · dsimp only
    rw [hs.rules.names, hs.cell]
  · refine .bind (local_setState _) fun _ => .bind (.ofExcept _) fun result => ?_
    refine .get (fun s s₀ hs => ?_) fun s => ?_
    · rw [hs.cell]
    · dsimp only
      split
      · exact .bind local_persist fun _ => .pure _
      · exact .pure _

theorem guarded_edit {g : State → Except Fault State} (f : Unit → β) :
    Guarded c (edit c g >>= fun a => pure (f a)) := by
  refine guarded_onOpen (.get (fun s s₀ hs => ?_) fun s => ?_) f
  · rw [hs.cell]
  · exact .bind (.ofExcept _) fun _ => .bind (local_setState _) fun _ => local_persist

theorem guarded_editIf {otherwise : α} {g : State → Except Fault (Option (α × State))} (f : α → β) :
    Guarded c (editIf c otherwise g >>= fun a => pure (f a)) := by
  refine guarded_onOpen (.get (fun s s₀ hs => ?_) fun s => .bind (.ofExcept _) fun found => ?_) f
  · rw [hs.cell]
  · cases found with
    | none => exact .pure _
    | some p => exact .bind (local_setState _) fun _ => .bind local_persist fun _ => .pure _

end Script

/-- Every operation minds only its scope and holds its lock. -/
theorem ScopeCall.guarded (c : Scope) (op : ScopeCall) : Guarded c (op.task c) := by
  cases op with
  | applyChanges text => exact guarded_carryOut _
  | applyRegistrations text => exact guarded_carryOut _
  | registerVariable name declared literal branches => exact guarded_edit _
  | registerTable name columns => exact guarded_edit _
  | registerHidden name h => exact guarded_edit _
  | dropVariable name => exact guarded_edit _
  | dropTable name => exact guarded_edit _
  | dropHidden name => exact guarded_edit _
  | setCell table row column literal => exact guarded_editIf _
  | addRow table cells => exact guarded_editIf _
  | removeRow table row => exact guarded_editIf _
  | setVariable name literal => exact guarded_editIf _

end StoryState
