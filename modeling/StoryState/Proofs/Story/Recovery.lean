import StoryState.Proofs.Step
import StoryState.Story.Basic

/-!
Payloads that hold no state. Whatever bytes a payload consists of, reading it stops only with faults for
which it is passed over (`mends_ofBytes`); so loading a scope goes through whenever the store answers, with
the state in the payload if there is one (`Script.loadState_eq`).
-/

namespace StoryState

/-- What reads a part of a payload stops only with faults for which the payload is passed over. -/
def Mends {α : Type} (r : Except Fault α) : Prop := ∀ e, r = .error e → Script.isPassedOver e = true

namespace Mends

variable {α β : Type}

theorem ok (a : α) : Mends (.ok a) := fun _ h => nomatch h

theorem error {e : Fault} (h : Script.isPassedOver e = true) : Mends (.error e : Except Fault α) := by
  intro e' he
  cases he
  exact h

theorem bind {r : Except Fault α} {f : α → Except Fault β} (hr : Mends r) (hf : ∀ a, Mends (f a)) :
    Mends (r >>= f) := by
  cases r with
  | error e => exact error (hr e rfl)
  | ok a => exact hf a

theorem map {r : Except Fault α} (hr : Mends r) (f : α → β) : Mends (r.map f) := by
  cases r with
  | error e => exact error (hr e rfl)
  | ok a => exact ok _

theorem mapM {f : α → Except Fault β} (hf : ∀ a, Mends (f a)) (l : List α) : Mends (l.mapM f) := by
  induction l with
  | nil => exact ok _
  | cons a l ih =>
    rw [List.mapM_cons]
    exact bind (hf a) fun b => bind ih fun bs => ok _

end Mends

/-! ### Values of any shape -/

section Values

variable (key : String) (v : Value)

theorem mends_field? : Mends (v.field? key) := by
  cases v with
  | object fields => exact .ok _
  | _ => exact .error rfl

theorem mends_fieldOrNull : Mends (v.fieldOrNull key) := (mends_field? key v).map _

theorem mends_flag : Mends (v.flag key) := (mends_field? key v).map _

theorem mends_iterate : Mends v.iterate := by
  cases v with
  | list items => exact .ok _
  | object fields => exact .ok _
  | text s => exact .ok _
  | _ => exact .error rfl

theorem mends_key : Mends v.key := by
  cases v with
  | list items => exact .error rfl
  | object fields => exact .error rfl
  | _ => exact .ok _

theorem mends_pair (index : Nat) : Mends (v.pair index) := by
  unfold Value.pair
  split
  · exact .error rfl
  · rename_i k v _
    exact (mends_key k).bind fun _ => .ok _
  · exact .error rfl

theorem mends_toEntries : Mends v.toEntries := by
  unfold Value.toEntries
  split
  · exact .ok _
  · refine (mends_iterate v).bind fun items => ?_
    exact (Mends.mapM (fun p : Value × Nat => mends_pair p.1 p.2) _).bind fun _ => .ok _

theorem mends_optionalEntries : Mends v.optionalEntries := by
  unfold Value.optionalEntries
  split
  · exact .ok _
  · split
    · exact .error rfl
    · exact .ok _

end Values

/-! ### Records -/

section Records

variable (v : Value)

theorem mends_branch : Mends (Branch.ofValue v) :=
  (mends_fieldOrNull _ v).bind fun _ => (mends_fieldOrNull _ v).bind fun _ => .ok _

theorem mends_variable : Mends (Variable.ofValue v) := by
  refine (mends_fieldOrNull _ v).bind fun branches => (mends_field? _ v).bind fun _ => ?_
  refine (mends_fieldOrNull _ v).bind fun _ => (mends_flag _ v).bind fun _ => ?_
  split
  · exact .ok _
  · refine (mends_iterate _).bind fun items => ?_
    exact (Mends.mapM mends_branch items).bind fun _ => .ok _

theorem mends_column : Mends (Column.ofValue v) := by
  unfold Column.ofValue
  split
  · split
    · exact .error rfl
    · exact (mends_flag _ _).bind fun _ => .ok _
  all_goals exact .error rfl

theorem mends_table (key : String) : Mends (Table.ofValue key v) := by
  refine (mends_fieldOrNull _ v).bind fun _ => (mends_field? _ v).bind fun _ => ?_
  refine (mends_iterate _).bind fun _ => (Mends.mapM mends_column _).bind fun _ => ?_
  refine (mends_field? _ v).bind fun _ => (mends_iterate _).bind fun _ => ?_
  exact (Mends.mapM mends_toEntries _).bind fun _ => .ok _

theorem mends_hidden : Mends (Hidden.ofValue v) := by
  refine (mends_field? _ v).bind fun _ => (mends_fieldOrNull _ v).bind fun _ => ?_
  exact (mends_flag _ v).bind fun _ => (mends_flag _ v).bind fun _ => .ok _

theorem mends_state : Mends (State.ofValue v) := by
  refine (mends_fieldOrNull _ _).bind fun _ => (mends_optionalEntries _).bind fun vars => ?_
  refine (Mends.mapM (fun p => (mends_variable p.2).bind fun _ => .ok _) vars).bind fun _ => ?_
  refine (mends_fieldOrNull _ _).bind fun _ => (mends_optionalEntries _).bind fun tables => ?_
  refine (Mends.mapM (fun p => (mends_table p.2 p.1).bind fun _ => .ok _) tables).bind fun _ => ?_
  refine (mends_fieldOrNull _ _).bind fun _ => (mends_optionalEntries _).bind fun hidden => ?_
  exact (Mends.mapM (fun p => (mends_hidden p.2).bind fun _ => .ok _) hidden).bind fun _ => .ok _

end Records

/-! ### Payloads -/

theorem mends_read (document : String) : Mends (Json.read document) := by
  unfold Json.read
  cases Json.document document.toList with
  | ok v => exact .ok v
  | error stop => cases stop <;> exact .error rfl

/-- Whatever the bytes are, what reads them stops only with faults for which they are passed over. -/
theorem mends_ofBytes (payload : ByteArray) : Mends (State.ofBytes payload) := by
  unfold State.ofBytes
  split
  · exact (mends_read _).bind mends_state
  · exact .error rfl

namespace Script

/-- A payload holds a state just if it is the text of a document that does. -/
theorem readPayload_eq_some_iff {payload : ByteArray} {m : State} : readPayload payload = some m ↔
    ∃ document, String.fromUTF8? payload = some document ∧ State.ofPayload document = .ok m := by
  unfold readPayload State.ofBytes
  cases String.fromUTF8? payload with
  | none => simp [Except.toOption]
  | some document =>
    simp only [Option.some.injEq, exists_eq_left']
    cases State.ofPayload document <;> simp [Except.toOption]

theorem recoverState_eq (payload : ByteArray) : recoverState payload = .ok (readPayload payload) := by
  have hmends := mends_ofBytes payload
  unfold recoverState readPayload
  cases hread : State.ofBytes payload with
  | ok state => rfl
  | error e =>
    dsimp only
    rw [if_pos (hmends e hread)]
    rfl

/-- No payload hinders loading. -/
theorem loadState_eq (c : Scope) :
    loadState c = loadPayload c.storageKey >>= fun found => pure (found.bind readPayload) := by
  unfold loadState
  congr
  funext found
  cases found with
  | none => rfl
  | some payload =>
    dsimp only
    rw [recoverState_eq]
    rfl

end Script

end StoryState
