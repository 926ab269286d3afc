import StoryState.Proofs.Story.Stored
import StoryState.Proofs.Value.Writable

/-!
What is stored comes back: a state that a document can hold is read back from the bytes of its payload
as it was, in every detail and in its order, if and only if all its whole numbers are short enough to
be written (`restored_iff_short`).
-/

namespace StoryState

/-! ### States with short numbers -/

/-- A case without a long number. -/
structure Branch.Short (b : Branch) : Prop where
  value : b.value.isWritable = true
  condition : ∀ c, b.condition = some c → c.isWritable = true

/-- A variable without a long number. -/
structure Variable.Short (x : Variable) : Prop where
  declared : x.declared.isWritable = true
  value : x.value.isWritable = true
  branches : ∀ bs, x.branches = some bs → ∀ b ∈ bs, b.Short

/-- A column without a long number. -/
structure Column.Short (c : Column) : Prop where
  name : c.name.isWritable = true
  declared : c.declared.isWritable = true

/-- A table without a long number. -/
structure Table.Short (t : Table) : Prop where
  name : t.name.isWritable = true
  columns : ∀ c ∈ t.columns, c.Short
  rows : ∀ row ∈ t.rows, ∀ cell ∈ row, cell.2.isWritable = true

/-- A hidden variable without a long number. -/
structure Hidden.Short (h : Hidden) : Prop where
  condition : h.condition.isWritable = true
  value : h.value.isWritable = true

/-- A state in which every whole number is short enough to be written. -/
structure State.Short (s : State) : Prop where
  vars : ∀ name x, (name, x) ∈ s.vars → x.Short
  tables : ∀ name t, (name, t) ∈ s.tables → t.Short
  hidden : ∀ name h, (name, h) ∈ s.hidden → h.Short

section Short

variable {b : Branch} {x : Variable} {c : Column} {t : Table} {h : Hidden} {s : State}

theorem Branch.isWritable_toValue : b.toValue.isWritable = true ↔ b.Short := by
  obtain ⟨value, condition⟩ := b
  rw [toValue, Value.isWritable_object]
  constructor
  · intro hw
    refine ⟨hw ("value", value) (by simp), fun c hc => ?_⟩
    obtain rfl : condition = some c := hc
    exact hw ("condition", c) (by simp)
  · rintro ⟨hvalue, hcondition⟩
    cases condition with
    | none => simpa using hvalue
    | some c => simpa using ⟨hcondition c rfl, hvalue⟩

theorem Variable.isWritable_toValue : x.toValue.isWritable = true ↔ x.Short := by
  obtain ⟨declared, value, isConditional, branches⟩ := x
  rw [toValue, Value.isWritable_object]
  constructor
  · intro hw
    refine ⟨hw ("type", declared) (by simp), hw ("value", value) (by simp), fun bs hbs b hb => ?_⟩
    obtain rfl : branches = some bs := hbs
    have hlist := hw ("branches", .list (bs.map Branch.toValue)) (by simp)
    exact Branch.isWritable_toValue.1 (Value.isWritable_map.1 hlist b hb)
  · rintro ⟨hdeclared, hvalue, hbranches⟩
    cases branches with
    | none => simpa [Value.isWritable] using ⟨hdeclared, hvalue⟩
    | some bs =>
      have hlist : (Value.list (bs.map Branch.toValue)).isWritable = true :=
        Value.isWritable_map.2 fun b hb => Branch.isWritable_toValue.2 (hbranches bs rfl b hb)
      have hflag : (Value.bool isConditional).isWritable = true := rfl
      simpa [hflag] using ⟨hdeclared, hvalue, hlist⟩

theorem Column.isWritable_toValue : c.toValue.isWritable = true ↔ c.Short := by
  have hflag : (Value.bool c.required).isWritable = true := rfl
  rw [toValue, Value.isWritable_object]
  simp only [List.forall_mem_cons, hflag, List.not_mem_nil, false_implies, implies_true, and_true]
  exact ⟨fun h => ⟨h.1, h.2⟩, fun h => ⟨h.name, h.declared⟩⟩

theorem Table.isWritable_toValue : t.toValue.isWritable = true ↔ t.Short := by
  rw [toValue, Value.isWritable_object]
  simp only [List.forall_mem_cons, List.not_mem_nil, false_implies, implies_true, and_true,
    Value.isWritable_map, Value.isWritable_object, Column.isWritable_toValue]
  exact ⟨fun h => ⟨h.1, h.2.1, h.2.2⟩, fun h => ⟨h.name, h.columns, h.rows⟩⟩

theorem Hidden.isWritable_toValue : h.toValue.isWritable = true ↔ h.Short := by
  have hflag : ∀ b, (Value.bool b).isWritable = true := fun _ => rfl
  rw [toValue, Value.isWritable_object]
  simp only [List.forall_mem_cons, hflag, List.not_mem_nil, false_implies, implies_true, and_true]
  exact ⟨fun h => ⟨h.1, h.2⟩, fun h => ⟨h.condition, h.value⟩⟩

theorem State.isWritable_toValue : s.toValue.isWritable = true ↔ s.Short := by
  rw [toValue, Value.isWritable_object]
  simp only [List.forall_mem_cons, List.not_mem_nil, false_implies, implies_true, and_true,
    Value.isWritable_mapValues, Variable.isWritable_toValue, Table.isWritable_toValue,
    Hidden.isWritable_toValue]
  exact ⟨fun h => ⟨h.1, h.2.1, h.2.2⟩, fun h => ⟨h.vars, h.tables, h.hidden⟩⟩

/-- A state has a payload just if its numbers are short. -/
theorem State.payload_iff_short : (∃ document, s.payload = .ok document) ↔ s.Short := by
  rw [← isWritable_toValue, payload, Json.render]
  cases s.toValue.isWritable <;> simp

end Short

/-! ### Back from the store -/

namespace Script

/-- A state comes back from the bytes that are stored of it, just if its numbers are short. -/
theorem restored_iff_short {s : State} (storable : s.Storable) :
    (∃ document, s.payload = .ok document ∧ readPayload document.toUTF8 = some s) ↔ s.Short := by
  constructor
  · rintro ⟨document, hdocument, -⟩
    exact State.payload_iff_short.1 ⟨document, hdocument⟩
  · intro short
    obtain ⟨document, hdocument⟩ := State.payload_iff_short.2 short
    exact ⟨document, hdocument, readPayload_payload storable hdocument⟩

/-- A state with something of everything: cases with and without a condition, a value with numbers,
escapes and nested containers, a nameless table, and a hidden variable that has expired. -/
def keepsake : State where
  vars :=
    [("b", ⟨.text "object", .object [("z", .float Number.notANumber),
      ("a", .list [.int (-7), .null, .text "\"\\\n\u0001é"])], false, none⟩),
    ("a", ⟨.text "string", .text "", true, some [⟨.bool true, some (.text "b")⟩, ⟨.list [], none⟩]⟩)]
  tables :=
    [("", ⟨.text "", [⟨.text "n", .text "string", false⟩],
      [[("n", .float (Number.infinity true))], []]⟩)]
  hidden := [("h", ⟨.text "", .null, true, true⟩)]

theorem restored_keepsake : keepsake.Storable ∧ keepsake.Short ∧
    ∃ document, keepsake.payload = .ok document ∧ readPayload document.toUTF8 = some keepsake := by
  have storable : keepsake.Storable := by
    refine ⟨by simp [keepsake, Entries.Once], by simp [keepsake, Entries.Once],
      by simp [keepsake, Entries.Once], ?_, ?_, ?_⟩
    · rintro name x hx
      simp only [keepsake, List.mem_cons, Prod.mk.injEq, List.not_mem_nil, or_false] at hx
      rcases hx with ⟨-, rfl⟩ | ⟨-, rfl⟩
      · exact ⟨trivial, by simp [Value.tidy_object, Value.tidy_list, Entries.Once, or_imp, forall_and],
          by simp⟩
      · refine ⟨trivial, trivial, ?_⟩
        rintro bs ⟨rfl⟩ b hb
        simp only [List.mem_cons, List.not_mem_nil, or_false] at hb
        rcases hb with rfl | rfl
        · exact ⟨trivial, by rintro c ⟨rfl⟩; exact ⟨trivial, rfl⟩⟩
        · exact ⟨trivial, by simp⟩
    · rintro name t ht
      simp only [keepsake, List.mem_cons, Prod.mk.injEq, List.not_mem_nil, or_false] at ht
      obtain ⟨rfl, rfl⟩ := ht
      refine ⟨trivial, .inr rfl, ?_, ?_⟩
      · simpa using (⟨trivial, trivial⟩ : Column.Storable { name := .text "n" })
      · simp [Value.tidy_object, Entries.Once]
    · rintro name h hh
      simp only [keepsake, List.mem_cons, Prod.mk.injEq, List.not_mem_nil, or_false] at hh
      obtain ⟨-, rfl⟩ := hh
      exact ⟨trivial, trivial⟩
  have short : keepsake.Short := State.isWritable_toValue.1 rfl
  exact ⟨storable, short, (restored_iff_short storable).2 short⟩

end Script

end StoryState
