import StoryState.Json.Writer

/-!
What a file holds of a document that could not be finished: everything before the first whole number
that is too long to be written. A number in a list is written together with what parts it from the
item before it, so that the draft ends behind that item.
-/

namespace StoryState.Json

/-- What has been written, and whether that is all. -/
structure Draft where
  text : List Char
  isWhole : Bool := true

/-- Goes on with a draft, unless it has stopped. -/
def Draft.andThen (d : Draft) (next : Unit → Draft) : Draft :=
  if d.isWhole then
    let rest := next ()
    ⟨d.text ++ rest.text, rest.isWhole⟩
  else d

/-- Whether nothing at all is written of a value, so that what stands before it is not written
either. -/
def isLongNumber : Value → Bool
  | .int n => !Number.isWritable n
  | _ => false

mutual

/-- The draft of a value at a level of nesting. -/
def draftAt (l : Layout) (level : Nat) : Value → Draft
  | .int n => if Number.isWritable n then ⟨intChars n, true⟩ else ⟨[], false⟩
  | .list (v :: vs) =>
    (draftItems l (level + 1) ('[' :: l.newLine (level + 1)) (v :: vs)).andThen fun _ =>
      ⟨l.newLine level ++ [']'], true⟩
  | .object (f :: fs) =>
    (draftFields l (level + 1) ('{' :: l.newLine (level + 1)) (f :: fs)).andThen fun _ =>
      ⟨l.newLine level ++ ['}'], true⟩
  | v => ⟨write l level v, true⟩

/-- The draft of items, with what stands before the first of them. -/
def draftItems (l : Layout) (level : Nat) (lead : List Char) : List Value → Draft
  | [] => ⟨[], true⟩
  | v :: vs =>
    if isLongNumber v then ⟨[], false⟩
    else
      (Draft.andThen ⟨lead, true⟩ fun _ => draftAt l level v).andThen fun _ =>
        draftItems l level (l.afterItem.toList ++ l.newLine level) vs

/-- The draft of fields, with what stands before the first of them. -/
def draftFields (l : Layout) (level : Nat) (lead : List Char) : List (String × Value) → Draft
  | [] => ⟨[], true⟩
  | (k, v) :: fs =>
    (Draft.andThen ⟨lead ++ quote k ++ l.afterKey.toList, true⟩ fun _ => draftAt l level v).andThen
      fun _ => draftFields l level (l.afterItem.toList ++ l.newLine level) fs

end

/-- The document of a value as far as it can be written. -/
def draft (l : Layout) (v : Value) : String := String.ofList (draftAt l 0 v).text

/-! ### Laws -/

theorem isLongNumber_of_isWritable {v : Value} (h : v.isWritable = true) : isLongNumber v = false := by
  cases v <;> simp_all [isLongNumber, Value.isWritable]

mutual

theorem draftAt_of_isWritable (l : Layout) (level : Nat) :
    ∀ v : Value, v.isWritable = true → draftAt l level v = ⟨write l level v, true⟩
  | .null, _ | .bool _, _ | .float _, _ | .text _, _ | .list [], _ | .object [], _ => rfl
  | .int n, h => by
    simp only [Value.isWritable] at h
    simp [draftAt, write, h]
  | .list (v :: vs), h => by
    simp only [Value.isWritable, Value.allWritable, Bool.and_eq_true] at h
    simp [draftAt, draftItems, isLongNumber_of_isWritable h.1, Draft.andThen, write,
      draftAt_of_isWritable l (level + 1) v h.1, draftItems_of_isWritable l (level + 1) vs h.2]
  | .object ((k, v) :: fs), h => by
    simp only [Value.isWritable, Value.allFieldsWritable, Bool.and_eq_true] at h
    simp [draftAt, draftFields, Draft.andThen, write, draftAt_of_isWritable l (level + 1) v h.1,
      draftFields_of_isWritable l (level + 1) fs h.2]

theorem draftItems_of_isWritable (l : Layout) (level : Nat) :
    ∀ vs : List Value, Value.allWritable vs = true →
      draftItems l level (l.afterItem.toList ++ l.newLine level) vs = ⟨writeItems l level vs, true⟩
  | [], _ => rfl
  | v :: vs, h => by
    simp only [Value.allWritable, Bool.and_eq_true] at h
    simp [draftItems, isLongNumber_of_isWritable h.1, Draft.andThen, writeItems,
      draftAt_of_isWritable l level v h.1, draftItems_of_isWritable l level vs h.2]

theorem draftFields_of_isWritable (l : Layout) (level : Nat) :
    ∀ fs : List (String × Value), Value.allFieldsWritable fs = true →
      draftFields l level (l.afterItem.toList ++ l.newLine level) fs = ⟨writeFields l level fs, true⟩
  | [], _ => rfl
  | (k, v) :: fs, h => by
    simp only [Value.allFieldsWritable, Bool.and_eq_true] at h
    simp [draftFields, Draft.andThen, writeFields, draftAt_of_isWritable l level v h.1,
      draftFields_of_isWritable l level fs h.2]

end

/-- A document that can be written is its own draft. -/
theorem render_eq_draft (l : Layout) {v : Value} (h : v.isWritable = true) :
    render l v = .ok (draft l v) := by
  simp [render, h, draft, draftAt_of_isWritable l 0 v h]

end StoryState.Json
