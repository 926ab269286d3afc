import StoryState.Proofs.Value.Inherited

/-!
Which numbers go in and out of texts. A literal is legible if it has no more digits than are read, a
value writable if no number in it has more digits than are written; whatever is read is writable.
-/

namespace StoryState

open StoryState.Text

namespace Value

/-! ### Writable values -/

theorem allWritable_iff {items : List Value} :
    allWritable items = true ↔ ∀ v ∈ items, v.isWritable = true := by
  induction items with
  | nil => simp [allWritable]
  | cons v vs ih => simp [allWritable, ih]

theorem allFieldsWritable_iff {fields : List (String × Value)} :
    allFieldsWritable fields = true ↔ ∀ f ∈ fields, f.2.isWritable = true := by
  induction fields with
  | nil => simp [allFieldsWritable]
  | cons f fs ih =>
    obtain ⟨k, v⟩ := f
    simp [allFieldsWritable, ih]

theorem isWritable_list {items : List Value} :
    (Value.list items).isWritable = true ↔ ∀ v ∈ items, v.isWritable = true := allWritable_iff

theorem isWritable_object {fields : List (String × Value)} :
    (Value.object fields).isWritable = true ↔ ∀ f ∈ fields, f.2.isWritable = true :=
  allFieldsWritable_iff

/-- The records of a list can be written just if each of them can. -/
theorem isWritable_map {α : Type} {f : α → Value} {l : List α} :
    (Value.list (l.map f)).isWritable = true ↔ ∀ a ∈ l, (f a).isWritable = true := by
  rw [isWritable_list, List.forall_mem_map]

/-- The records under the keys of an object can be written just if each of them can. -/
theorem isWritable_mapValues {α : Type} {f : α → Value} {es : Entries α} :
    (Value.object (es.mapValues f)).isWritable = true ↔
      ∀ name a, (name, a) ∈ es → (f a).isWritable = true := by
  rw [isWritable_object, Entries.mapValues, List.forall_mem_map]
  exact Prod.forall

/-- What is read can be written. -/
theorem inherited_isWritable : Inherited fun v => v.isWritable = true where
  scalar _ h := h
  list := isWritable_list
  parts h k v hkv := isWritable_object.1 h (k, v) hkv
  object _ h := isWritable_object.2 fun f hf => h f.1 f.2 hf
  put hv h key := isWritable_object.2 fun f hf => by
    rcases Entries.mem_put hf with ⟨-, hf⟩ | hf
    · exact hf ▸ hv
    · exact isWritable_object.1 h f hf

theorem isOk_render (l : Json.Layout) (v : Value) : (Json.render l v).isOk = v.isWritable := by
  unfold Json.render
  cases v.isWritable <;> rfl

theorem isOk_format (v : Value) : v.format.isOk = v.isWritable := by
  cases v with
  | int n =>
    rw [format, isWritable]
    cases Number.isWritable n <;> rfl
  | list items => exact isOk_render _ _
  | object fields => exact isOk_render _ _
  | _ => rfl

end Value

/-! ### Legible literals -/

/-- A literal that, if it is a whole number, has no more digits than are read. -/
def Number.Legible (literal : String) : Prop :=
  ∀ negative digits, wholeNumber? (strip literal.toList) = some (negative, digits) →
    digits.length ≤ digitLimit

/-- A text whose head has no more digits than are read. -/
def Number.LegibleAtHead (text : String) : Prop :=
  ((takeSign (skipBlanks text.toList)).2.takeWhile isDigit).length ≤ digitLimit

theorem Number.isOk_ofText {s : String} : (ofText s.toList).isOk = true ↔ Legible s := by
  unfold ofText Legible
  dsimp only
  split
  · rename_i hblank
    rw [hblank]
    exact iff_of_true rfl (by simp [wholeNumber?, takeSign])
  · cases wholeNumber? (strip s.toList) with
    | none =>
      refine iff_of_true ?_ nofun
      dsimp only
      cases decimal? (strip s.toList) <;> rfl
    | some found =>
      obtain ⟨negative, digits⟩ := found
      have hsame : (∀ m ds, some (negative, digits) = some (m, ds) → ds.length ≤ digitLimit) ↔
          digits.length ≤ digitLimit :=
        ⟨fun h => h negative digits rfl, fun h m ds he => by cases he; exact h⟩
      rw [hsame]
      dsimp only
      split
      · rename_i hlong
        exact iff_of_false nofun hlong.not_ge
      · rename_i hshort
        exact iff_of_true rfl (not_lt.1 hshort)

theorem Value.isOk_leadingInt {s : String} :
    (leadingInt? s.toList).isOk = true ↔ Number.LegibleAtHead s := by
  unfold leadingInt? Number.LegibleAtHead
  dsimp only
  split
  · rename_i hnone
    rw [hnone]
    exact iff_of_true rfl (Nat.zero_le _)
  · split
    · rename_i hlong
      exact iff_of_false nofun hlong.not_ge
    · rename_i hshort
      exact iff_of_true rfl (not_lt.1 hshort)

/-- Only a number can be too long to be read. -/
theorem Value.isOk_ofLiteral {kind : Option Kind} {s : String} :
    (ofLiteral kind (.text s)).isOk = true ↔ (kind = some .number → Number.Legible s) := by
  rcases kind with _ | k
  · exact iff_of_true rfl (by rintro ⟨⟩)
  · cases k with
    | number =>
      rw [← Number.isOk_ofText, ofLiteral]
      have hread : (Value.text s).toNumber = Number.ofText s.toList := rfl
      rw [hread, forall_prop_of_true rfl]
      cases Number.ofText s.toList <;> rfl
    | _ => exact iff_of_true rfl (by rintro ⟨⟩)

/-! ### A numeral that is too long -/

theorem wholeNumber?_ones {n : Nat} (h : n ≠ 0) :
    Number.wholeNumber? (List.replicate n '1') = some (false, List.replicate n '1') := by
  obtain ⟨n, rfl⟩ := Nat.exists_eq_succ_of_ne_zero h
  have hdigits : ('1' :: List.replicate n '1').all isDigit = true := by
    refine List.all_eq_true.2 fun c hc => ?_
    rw [← List.replicate_succ] at hc
    rw [List.eq_of_mem_replicate hc]
    decide
  have hsign : Number.takeSign ('1' :: List.replicate n '1') =
      (false, '1' :: List.replicate n '1') := rfl
  rw [List.replicate_succ, Number.wholeNumber?, hsign]
  dsimp only
  rw [hdigits]
  rfl

/-- One digit more than are read. -/
def longNumeral : String := String.ofList (List.replicate (Number.digitLimit + 1) '1')

theorem ofText_longNumeral :
    Number.ofText longNumeral.toList = .error (.numeralTooLong (Number.digitLimit + 1)) := by
  have hwhole : Number.wholeNumber? (List.replicate (Number.digitLimit + 1) '1') =
      some (false, List.replicate (Number.digitLimit + 1) '1') := wholeNumber?_ones (by decide)
  have hne : List.replicate (Number.digitLimit + 1) '1' ≠ [] := by
    rw [List.replicate_succ]
    exact List.cons_ne_nil _ _
  have hstrip : strip (List.replicate (Number.digitLimit + 1) '1') =
      List.replicate (Number.digitLimit + 1) '1' :=
    strip_eq_self fun c hc => by rw [List.eq_of_mem_replicate hc]; decide
  unfold Number.ofText
  rw [longNumeral, String.toList_ofList, hstrip]
  dsimp only
  rw [if_neg hne, hwhole]
  dsimp only
  rw [List.length_replicate, if_pos (Nat.lt_succ_self _)]

end StoryState
