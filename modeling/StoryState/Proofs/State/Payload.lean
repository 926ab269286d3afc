import StoryState.Proofs.Json.Document
import StoryState.State.Payload

/-!
States that a document can hold (`State.Storable`). Their records are tidy and are read back to them,
so a storable state comes back from its payload as it was (`State.ofPayload_payload`).
-/

namespace StoryState

/-! ### What a document can hold -/

/-- A case whose record is read back to it: a condition that is false or empty would be lost. -/
structure Branch.Storable (b : Branch) : Prop where
  value : b.value.Tidy
  condition : ∀ c, b.condition = some c → c.Tidy ∧ c.truthy = true

/-- A variable whose record is read back to it. -/
structure Variable.Storable (x : Variable) : Prop where
  declared : x.declared.Tidy
  value : x.value.Tidy
  branches : ∀ bs, x.branches = some bs → ∀ b ∈ bs, b.Storable

/-- A column whose record is read back to it. -/
structure Column.Storable (c : Column) : Prop where
  name : c.name.Tidy
  declared : c.declared.Tidy

/-- A table whose record is read back to it: a name that is false or empty would give way to the key
of the table. -/
structure Table.Storable (key : String) (t : Table) : Prop where
  name : t.name.Tidy
  named : t.name.truthy = true ∨ t.name = .text key
  columns : ∀ c ∈ t.columns, c.Storable
  rows : ∀ row ∈ t.rows, (Value.object row).Tidy

/-- A hidden variable whose record is read back to it. -/
structure Hidden.Storable (h : Hidden) : Prop where
  condition : h.condition.Tidy
  value : h.value.Tidy

/-- A state that comes back from its payload as it was. -/
structure State.Storable (s : State) : Prop where
  vars_once : Entries.Once s.vars
  tables_once : Entries.Once s.tables
  hidden_once : Entries.Once s.hidden
  vars : ∀ name x, (name, x) ∈ s.vars → x.Storable
  tables : ∀ name t, (name, t) ∈ s.tables → t.Storable name
  hidden : ∀ name h, (name, h) ∈ s.hidden → h.Storable

theorem State.storable_empty : State.Storable {} where
  vars_once := Entries.once_nil
  tables_once := Entries.once_nil
  hidden_once := Entries.once_nil
  vars := by simp
  tables := by simp
  hidden := by simp

/-! ### Records are tidy -/

section Tidy

variable {b : Branch} {x : Variable} {c : Column} {t : Table} {h : Hidden} {s : State} {key : String}

theorem Value.tidy_record {fields : List (String × Value)} (once : (fields.map (·.1)).Nodup)
    (ht : ∀ f ∈ fields, f.2.Tidy) : (Value.object fields).Tidy :=
  Value.tidy_object.2 ⟨once, fun k v hv => ht (k, v) hv⟩

theorem Branch.Storable.tidy (hb : b.Storable) : b.toValue.Tidy := by
  obtain ⟨value, condition⟩ := b
  cases condition with
  | none => exact Value.tidy_record (by simp) (by simpa using hb.value)
  | some c =>
    refine Value.tidy_record (by simp) ?_
    simpa using ⟨(hb.condition c rfl).1, hb.value⟩

theorem Variable.Storable.tidy (hx : x.Storable) : x.toValue.Tidy := by
  obtain ⟨declared, value, isConditional, branches⟩ := x
  cases branches with
  | none =>
    refine Value.tidy_record (by simp) ?_
    simpa using ⟨hx.declared, hx.value⟩
  | some bs =>
    have hbs : (Value.list (bs.map Branch.toValue)).Tidy := by
      rw [Value.tidy_list]
      intro v hv
      obtain ⟨b, hb, rfl⟩ := List.mem_map.1 hv
      exact (hx.branches bs rfl b hb).tidy
    refine Value.tidy_record (by simp) ?_
    simpa using ⟨hx.declared, hx.value, hbs⟩

theorem Column.Storable.tidy (hc : c.Storable) : c.toValue.Tidy := by
  refine Value.tidy_record (by simp) ?_
  simpa using ⟨hc.name, hc.declared⟩

theorem Table.Storable.tidy (ht : t.Storable key) : t.toValue.Tidy := by
  have hcolumns : (Value.list (t.columns.map Column.toValue)).Tidy := by
    rw [Value.tidy_list]
    intro v hv
    obtain ⟨c, hc, rfl⟩ := List.mem_map.1 hv
    exact (ht.columns c hc).tidy
  have hrows : (Value.list (t.rows.map .object)).Tidy := by
    rw [Value.tidy_list]
    intro v hv
    obtain ⟨row, hrow, rfl⟩ := List.mem_map.1 hv
    exact ht.rows row hrow
  refine Value.tidy_record (by simp) ?_
  simpa using ⟨ht.name, hcolumns, hrows⟩

theorem Hidden.Storable.tidy (hh : h.Storable) : h.toValue.Tidy := by
  refine Value.tidy_record (by simp) ?_
  simpa using ⟨hh.condition, hh.value⟩

theorem Value.tidy_mapValues {α : Type} {f : α → Value} {es : Entries α} (once : Entries.Once es)
    (h : ∀ name a, (name, a) ∈ es → (f a).Tidy) : (Value.object (es.mapValues f)).Tidy := by
  rw [Value.tidy_object]
  refine ⟨by rw [Entries.Once, Entries.keys_mapValues]; exact once, fun k v hv => ?_⟩
  obtain ⟨⟨name, a⟩, ha, heq⟩ := List.mem_map.1 hv
  cases heq
  exact h _ a ha

theorem State.Storable.tidy (hs : s.Storable) : s.toValue.Tidy := by
  have hvars := Value.tidy_mapValues hs.vars_once fun name x hx => (hs.vars name x hx).tidy
  have htables := Value.tidy_mapValues hs.tables_once fun name t ht => (hs.tables name t ht).tidy
  have hhidden := Value.tidy_mapValues hs.hidden_once fun name h hh => (hs.hidden name h hh).tidy
  refine Value.tidy_record (by simp) ?_
  simpa using ⟨hvars, htables, hhidden⟩

end Tidy

/-! ### Records are read back -/

section Read

variable {α : Type} {b : Branch} {x : Variable} {c : Column} {t : Table} {h : Hidden} {s : State}
  {key : String}

/-- Items that are read back one by one are read back together. -/
theorem mapM_map_ok {f : Value → Except Fault α} {g : α → Value} {l : List α}
    (h : ∀ a ∈ l, f (g a) = .ok a) : (l.map g).mapM f = .ok l := by
  induction l with
  | nil => rfl
  | cons a l ih =>
    rw [List.map_cons, List.mapM_cons, h a (by simp), ih fun b hb => h b (List.mem_cons_of_mem a hb)]
    rfl

/-- Entries that are read back one by one are read back together. -/
theorem mapM_mapValues_ok {f : String → Value → Except Fault α} {g : α → Value} (es : Entries α)
    (h : ∀ k a, (k, a) ∈ es → f k (g a) = .ok a) :
    (es.mapValues g).mapM (fun (k, v) => do return (k, ← f k v)) = .ok es := by
  induction es with
  | nil => rfl
  | cons e es ih =>
    obtain ⟨k, a⟩ := e
    have hes := ih fun k' b hb => h k' b (List.mem_cons_of_mem _ hb)
    unfold Entries.mapValues at hes ⊢
    rw [List.map_cons, List.mapM_cons, hes]
    dsimp only
    rw [h k a (by simp)]
    rfl

theorem Branch.Storable.read (hb : b.Storable) : Branch.ofValue b.toValue = .ok b := by
  obtain ⟨value, condition⟩ := b
  cases condition with
  | none => rfl
  | some c =>
    have htruthy := (hb.condition c rfl).2
    show Except.ok (Branch.mk value (c.ifTruthy)) = _
    rw [Value.ifTruthy, if_pos htruthy]

theorem Variable.Storable.read (hx : x.Storable) : Variable.ofValue x.toValue = .ok x := by
  obtain ⟨declared, value, isConditional, branches⟩ := x
  cases branches with
  | none => rfl
  | some bs =>
    have hbs : (bs.map Branch.toValue).mapM Branch.ofValue = .ok bs :=
      mapM_map_ok fun b hb => (hx.branches bs rfl b hb).read
    show ((bs.map Branch.toValue).mapM Branch.ofValue >>= fun bs' =>
      pure (Variable.mk declared value isConditional (some bs'))) = _
    rw [hbs]
    rfl

theorem Column.read : Column.ofValue c.toValue = .ok c := rfl

theorem Table.Storable.read (ht : t.Storable key) : Table.ofValue key t.toValue = .ok t := by
  obtain ⟨name, columns, rows⟩ := t
  have hcolumns : (columns.map Column.toValue).mapM Column.ofValue = .ok columns :=
    mapM_map_ok fun c _ => Column.read
  have hrows : (rows.map Value.object).mapM Value.toEntries = .ok rows :=
    mapM_map_ok fun row _ => rfl
  have hname : name.ifTruthy.getD (.text key) = name := by
    unfold Value.ifTruthy
    rcases ht.named with htruthy | hkey
    · rw [if_pos htruthy]
      rfl
    · dsimp only at hkey
      split
      · rfl
      · exact hkey.symm
  show ((columns.map Column.toValue).mapM Column.ofValue >>= fun columns' =>
    (rows.map Value.object).mapM Value.toEntries >>= fun rows' =>
      pure (Table.mk (name.ifTruthy.getD (.text key)) columns' rows')) = _
  rw [hcolumns, hname]
  show ((rows.map Value.object).mapM Value.toEntries >>= fun rows' =>
      pure (Table.mk name columns rows')) = _
  rw [hrows]
  rfl

theorem Hidden.read : Hidden.ofValue h.toValue = .ok h := rfl

theorem State.Storable.read (hs : s.Storable) : State.ofValue s.toValue = .ok s := by
  have hvars := mapM_mapValues_ok (f := fun _ => Variable.ofValue) (g := Variable.toValue) s.vars
    fun name x hx => (hs.vars name x hx).read
  have htables := mapM_mapValues_ok (f := Table.ofValue) (g := Table.toValue) s.tables
    fun name t ht => (hs.tables name t ht).read
  have hhidden := mapM_mapValues_ok (f := fun _ => Hidden.ofValue) (g := Hidden.toValue) s.hidden
    fun _ _ _ => Hidden.read
  show ((s.vars.mapValues Variable.toValue).mapM _ >>= fun vars =>
    (s.tables.mapValues Table.toValue).mapM _ >>= fun tables =>
      (s.hidden.mapValues Hidden.toValue).mapM _ >>= fun hidden =>
        (pure ⟨vars, tables, hidden⟩ : Except Fault State)) = _
  rw [hvars]
  show ((s.tables.mapValues Table.toValue).mapM _ >>= fun tables =>
      (s.hidden.mapValues Hidden.toValue).mapM _ >>= fun hidden =>
        (pure ⟨s.vars, tables, hidden⟩ : Except Fault State)) = _
  rw [htables]
  show ((s.hidden.mapValues Hidden.toValue).mapM _ >>= fun hidden =>
        (pure ⟨s.vars, s.tables, hidden⟩ : Except Fault State)) = _
  rw [hhidden]
  rfl

/-- A storable state comes back from its payload as it was. -/
theorem State.ofPayload_payload {document : String} (hs : s.Storable) (h : s.payload = .ok document) :
    State.ofPayload document = .ok s := by
  have hread := Json.read_render Json.Layout.pretty_regular hs.tidy h
  show (Json.read document >>= State.ofValue) = _
  rw [hread]
  exact hs.read

end Read

end StoryState
