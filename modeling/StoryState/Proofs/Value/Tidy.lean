import StoryState.Proofs.Value.Inherited

/-!
Values in which every object names each key once. This is a property that a value has from its parts
(`Value.inherited_tidy`), so documents are read to such values, literals make such values, and writing
below a container keeps it such a value. The value of a literal is also of the kind that it is read by
(`Value.fits_ofLiteral`).
-/

namespace StoryState

namespace Value

mutual

/-- Every object in the value names each key once. -/
def Tidy : Value → Prop
  | .list items => AllTidy items
  | .object fields => Entries.Once fields ∧ FieldsTidy fields
  | _ => True

/-- The items are tidy. -/
def AllTidy : List Value → Prop
  | [] => True
  | v :: vs => v.Tidy ∧ AllTidy vs

/-- The values of the fields are tidy. -/
def FieldsTidy : List (String × Value) → Prop
  | [] => True
  | (_, v) :: fs => v.Tidy ∧ FieldsTidy fs

end

theorem allTidy_iff {items : List Value} : AllTidy items ↔ ∀ v ∈ items, v.Tidy := by
  induction items with
  | nil => simp [AllTidy]
  | cons v vs ih => simp [AllTidy, ih]

theorem fieldsTidy_iff {fields : Entries Value} :
    FieldsTidy fields ↔ ∀ k v, (k, v) ∈ fields → v.Tidy := by
  induction fields with
  | nil => simp [FieldsTidy]
  | cons f fs ih =>
    obtain ⟨k, v⟩ := f
    rw [FieldsTidy, ih]
    constructor
    · rintro ⟨hv, hfs⟩ k' v' h
      rcases List.mem_cons.1 h with h | h
      · simp only [Prod.mk.injEq] at h
        exact h.2 ▸ hv
      · exact hfs k' v' h
    · exact fun h => ⟨h k v (by simp), fun k' v' h' => h k' v' (List.mem_cons_of_mem _ h')⟩

theorem tidy_list {items : List Value} : (Value.list items).Tidy ↔ ∀ v ∈ items, v.Tidy := by
  rw [Tidy, allTidy_iff]

theorem tidy_object {fields : Entries Value} :
    (Value.object fields).Tidy ↔ Entries.Once fields ∧ ∀ k v, (k, v) ∈ fields → v.Tidy := by
  rw [Tidy, fieldsTidy_iff]

@[simp] theorem tidy_null : Value.null.Tidy := trivial
@[simp] theorem tidy_bool (b : Bool) : (Value.bool b).Tidy := trivial
@[simp] theorem tidy_int (n : Int) : (Value.int n).Tidy := trivial
@[simp] theorem tidy_float (x : Float) : (Value.float x).Tidy := trivial
@[simp] theorem tidy_text (s : String) : (Value.text s).Tidy := trivial

theorem tidy_ofNumber (n : Number) : (ofNumber n).Tidy := by
  cases n <;> exact trivial

theorem tidy_put {key : String} {v : Value} {fields : Entries Value} (hv : v.Tidy)
    (h : (Value.object fields).Tidy) : (Value.object (Entries.put key v fields)).Tidy := by
  rw [tidy_object] at h ⊢
  exact ⟨h.1.put key v, Entries.forall_put h.2 hv⟩

/-- A value is tidy from its parts. -/
theorem inherited_tidy : Inherited Tidy where
  scalar := by
    intro v hv _
    cases v <;> first | exact trivial | cases hv
  list := tidy_list
  parts h := (tidy_object.1 h).2
  object once h := tidy_object.2 ⟨once, h⟩
  put hv h _ := tidy_put hv h

theorem tidy_writePath {container v : Value} (path : String) (hv : v.Tidy) (h : container.Tidy) :
    (writePath container path v).1.Tidy := inherited_tidy.writePath path hv h

end Value

/-- A document is read to a tidy value. -/
theorem Json.tidy_of_read {s : String} {v : Value} (h : read s = .ok v) : v.Tidy :=
  Value.inherited_tidy.of_read h

/-! ### Kinds -/

/-- Whether a variable or a cell of a kind can hold a value. Objects and arrays hold anything that a
document denotes. -/
def Value.fits : Kind → Value → Bool
  | .number, .int _ | .number, .float _ => true
  | .boolean, .bool _ => true
  | .string, .text _ => true
  | .object, _ | .array, _ => true
  | _, _ => false

namespace Value

theorem fits_ofNumber (n : Number) : (ofNumber n).fits .number = true := by
  cases n <;> rfl

section OfLiteral

variable {kind : Option Kind} {literal v : Value}

theorem tidy_ofLiteral (hl : literal.Tidy) (h : ofLiteral kind literal = .ok v) : v.Tidy :=
  inherited_tidy.of_ofLiteral hl h

/-- A text read by a kind is a value of that kind. -/
theorem fits_ofLiteral {k : Kind} {s : String} (h : ofLiteral (some k) (.text s) = .ok v) :
    v.fits k = true := by
  cases k with
  | string =>
    simp only [ofLiteral, Except.ok.injEq] at h
    exact h ▸ rfl
  | number =>
    rw [ofLiteral] at h
    cases hn : (Value.text s).toNumber with
    | error e => rw [hn] at h; cases h
    | ok n =>
      rw [hn] at h
      cases h
      exact fits_ofNumber n
  | boolean =>
    simp only [ofLiteral, Except.ok.injEq] at h
    exact h ▸ rfl
  | object => rfl
  | array => rfl

end OfLiteral

/-- The value of a literal that suggests its kind is of that kind. -/
theorem fits_ofSuggested {s : String} {k : Kind} {v : Value}
    (h : ofSuggested (.text s) = .ok (k, v)) : v.fits k = true ∧ v.Tidy := by
  rcases ofSuggested_cases h with ⟨b, -, rfl, rfl⟩ | ⟨-, n, -, rfl, rfl⟩ | ⟨-, rfl, rfl⟩
  · exact ⟨rfl, trivial⟩
  · exact ⟨fits_ofNumber n, tidy_ofNumber n⟩
  · exact ⟨rfl, trivial⟩

end Value

end StoryState
