import StoryState.Lock.Lines
import Mathlib.Tactic.Common

/-!
Laws of lines: what joining and leaving do to the line at a lock, and that they leave the other
lines alone.
-/

namespace StoryState.Lines

variable {κ ι : Type}

/-- No lock has two lines. -/
def Once (ls : Lines κ ι) : Prop := (ls.map (·.1)).Nodup

@[simp] theorem once_nil : Once ([] : Lines κ ι) := List.nodup_nil

variable [DecidableEq κ] {key k : κ} {i : ι} {members : List ι} {ls : Lines κ ι}

@[simp] theorem line_nil : line key ([] : Lines κ ι) = [] := rfl

theorem line_eq_nil_of_not_mem (h : key ∉ ls.map (·.1)) : ls.line key = [] := by
  induction ls with
  | nil => rfl
  | cons l ls ih =>
    obtain ⟨k, old⟩ := l
    rw [List.map_cons, List.mem_cons, not_or] at h
    rw [line, if_neg (Ne.symm h.1)]
    exact ih h.2

theorem line_setLine_self (h : Once ls) : (ls.setLine key members).line key = members := by
  induction ls with
  | nil => cases members <;> simp [setLine, line]
  | cons l ls ih =>
    obtain ⟨k, old⟩ := l
    obtain ⟨hk, hls⟩ := List.nodup_cons.1 h
    rw [setLine]
    split
    · rename_i heq
      subst heq
      cases members with
      | nil => exact line_eq_nil_of_not_mem hk
      | cons m members => simp [line]
    · rename_i hne
      rw [line, if_neg hne]
      exact ih hls

theorem line_setLine_of_ne (h : key ≠ k) : (ls.setLine key members).line k = ls.line k := by
  induction ls with
  | nil => cases members <;> simp [setLine, line, h]
  | cons l ls ih =>
    obtain ⟨k', old⟩ := l
    rw [setLine]
    split
    · rename_i heq
      subst heq
      cases members <;> simp [line, h]
    · rw [line, line, ih]

theorem mem_keys_setLine (h : k ∈ (ls.setLine key members).map (·.1)) :
    k = key ∨ k ∈ ls.map (·.1) := by
  induction ls with
  | nil => cases members <;> simp_all [setLine]
  | cons l ls ih =>
    obtain ⟨k', old⟩ := l
    rw [setLine] at h
    split at h
    · cases members <;> simp_all
    · rw [List.map_cons, List.mem_cons] at h ⊢
      rcases h with h | h
      · exact .inr (.inl h)
      · rcases ih h with h | h
        · exact .inl h
        · exact .inr (.inr h)

theorem Once.setLine (h : Once ls) : Once (ls.setLine key members) := by
  induction ls with
  | nil => cases members <;> simp [Lines.setLine, Once]
  | cons l ls ih =>
    obtain ⟨k, old⟩ := l
    obtain ⟨hk, hls⟩ := List.nodup_cons.1 h
    rw [Lines.setLine]
    split
    · cases members
      · exact hls
      · exact List.nodup_cons.2 ⟨hk, hls⟩
    · rename_i hne
      refine List.nodup_cons.2 ⟨fun hmem => ?_, ih hls⟩
      rcases mem_keys_setLine hmem with hmem | hmem
      · exact hne hmem
      · exact hk hmem

/-! ### Holding and waiting -/

/-- The first in a line holds the lock. -/
def Holds (ls : Lines κ ι) (i : ι) (key : κ) : Prop := (ls.line key).head? = some i

/-- The others in a line wait for the lock. -/
def Waits (ls : Lines κ ι) (i : ι) (key : κ) : Prop := i ∈ (ls.line key).tail

theorem Holds.eq {j : ι} (hi : ls.Holds i key) (hj : ls.Holds j key) : i = j := by
  unfold Holds at hi hj
  rw [hi] at hj
  exact Option.some.inj hj

theorem mem_line_iff : i ∈ ls.line key ↔ ls.Holds i key ∨ ls.Waits i key := by
  unfold Holds Waits
  cases ls.line key with
  | nil => simp
  | cons j members => simp [eq_comm]

theorem holds_setLine (h : Once ls) : (ls.setLine key members).Holds i k ↔
    (k = key ∧ members.head? = some i) ∨ (k ≠ key ∧ ls.Holds i k) := by
  unfold Holds
  by_cases hk : k = key
  · subst hk
    simp [line_setLine_self h]
  · simp [line_setLine_of_ne (Ne.symm hk), hk]

theorem waits_setLine (h : Once ls) : (ls.setLine key members).Waits i k ↔
    (k = key ∧ i ∈ members.tail) ∨ (k ≠ key ∧ ls.Waits i k) := by
  unfold Waits
  by_cases hk : k = key
  · subst hk
    simp [line_setLine_self h]
  · simp [line_setLine_of_ne (Ne.symm hk), hk]

/-- A change of a line is none for those who hold its lock before and behind, or neither. -/
theorem holds_setLine_iff (h : Once ls) (same : members.head? = some i ↔ ls.Holds i key) :
    (ls.setLine key members).Holds i k ↔ ls.Holds i k := by
  rw [holds_setLine h]
  by_cases hk : k = key
  · subst hk
    simp [same]
  · simp [hk]

/-- Nor for those who wait for it before and behind, or neither. -/
theorem waits_setLine_iff (h : Once ls) (same : i ∈ members.tail ↔ ls.Waits i key) :
    (ls.setLine key members).Waits i k ↔ ls.Waits i k := by
  rw [waits_setLine h]
  by_cases hk : k = key
  · subst hk
    simp [same]
  · simp [hk]

theorem Holds.line_eq (h : ls.Holds i key) : ls.line key = i :: (ls.line key).tail := by
  unfold Holds at h
  cases hl : ls.line key with
  | nil =>
    rw [hl] at h
    cases h
  | cons j members =>
    rw [hl] at h
    cases h
    rfl

end StoryState.Lines
