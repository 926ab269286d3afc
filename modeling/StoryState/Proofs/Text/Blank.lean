import StoryState.Proofs.Text.Digit
import StoryState.Text.Word

/-!
Stripping a text. A mark that is no blank keeps the blanks at the two ends of the text apart
(`strip_append_mark`), and what has been stripped at one end can be stripped again.
-/

namespace StoryState.Text

variable {mark : Char}

/-- No blank begins a name. -/
theorem isBlank_of_isAsciiNameStart {c : Char} (h : isAsciiNameStart c = true) : isBlank c = false := by
  have hall : ∀ n ∈ pointsOf blankRanges, n < 65 ∨ 122 < n := by decide +kernel
  have hrange : 65 ≤ c.toNat ∧ c.toNat ≤ 122 := by
    simp only [isAsciiNameStart, Bool.or_eq_true, Bool.and_eq_true, decide_eq_true_eq, beq_iff_eq] at h
    rcases h with (⟨hlo, hhi⟩ | ⟨hlo, hhi⟩) | rfl
    · exact ⟨UInt32.le_iff_toNat_le.1 hlo, (UInt32.le_iff_toNat_le.1 hhi).trans (by decide)⟩
    · exact ⟨le_trans (by decide) (UInt32.le_iff_toNat_le.1 hlo), UInt32.le_iff_toNat_le.1 hhi⟩
    · decide
  by_contra hblank
  have hpoint := hall _ (mem_pointsOf (by simpa [isBlank] using hblank))
  omega

/-! ### A text with a mark in it -/

theorem takeWhile_append_mark {p : Char → Bool} (h : p mark = false) (s text : List Char) :
    (s ++ mark :: text).takeWhile p = s.takeWhile p := by
  induction s with
  | nil => simp [h]
  | cons c s ih =>
    cases hc : p c <;> simp [hc, ih]

theorem dropWhile_append_mark {p : Char → Bool} (h : p mark = false) (s text : List Char) :
    (s ++ mark :: text).dropWhile p = s.dropWhile p ++ mark :: text := by
  induction s with
  | nil => simp [h]
  | cons c s ih =>
    cases hc : p c <;> simp [hc, ih]

theorem skipBlanks_append_mark (h : isBlank mark = false) (s text : List Char) :
    skipBlanks (s ++ mark :: text) = skipBlanks s ++ mark :: text := dropWhile_append_mark h s text

theorem dropTrailingBlanks_append_mark (h : isBlank mark = false) (s text : List Char) :
    dropTrailingBlanks (s ++ mark :: text) = s ++ mark :: dropTrailingBlanks text := by
  induction s with
  | nil =>
    rw [List.nil_append, dropTrailingBlanks]
    cases dropTrailingBlanks text <;> simp [h]
  | cons c s ih =>
    rw [List.cons_append, dropTrailingBlanks, ih]
    cases s <;> rfl

theorem strip_append_mark (h : isBlank mark = false) (s text : List Char) :
    strip (s ++ mark :: text) = skipBlanks s ++ mark :: dropTrailingBlanks text := by
  rw [strip, skipBlanks_append_mark h, dropTrailingBlanks_append_mark h]

/-! ### Stripping again -/

theorem dropTrailingBlanks_append_blanks {gap : List Char} (h : ∀ c ∈ gap, isBlank c = true)
    (s : List Char) : dropTrailingBlanks (s ++ gap) = dropTrailingBlanks s := by
  have hgap : dropTrailingBlanks gap = [] := by
    induction gap with
    | nil => rfl
    | cons c gap ih =>
      rw [List.forall_mem_cons] at h
      rw [dropTrailingBlanks, ih h.2]
      exact if_pos h.1
  induction s with
  | nil => exact hgap
  | cons c s ih => rw [List.cons_append, dropTrailingBlanks, ih, dropTrailingBlanks]

theorem dropTrailingBlanks_idem (s : List Char) :
    dropTrailingBlanks (dropTrailingBlanks s) = dropTrailingBlanks s := by
  induction s with
  | nil => rfl
  | cons c s ih =>
    rw [dropTrailingBlanks]
    cases hs : dropTrailingBlanks s with
    | nil => cases hc : isBlank c <;> simp [dropTrailingBlanks, hc]
    | cons d r =>
      rw [hs] at ih
      dsimp only
      rw [dropTrailingBlanks, ih]

theorem skipBlanks_dropTrailingBlanks (s : List Char) :
    skipBlanks (dropTrailingBlanks s) = dropTrailingBlanks (skipBlanks s) := by
  induction s with
  | nil => rfl
  | cons c s ih =>
    cases hc : isBlank c with
    | true =>
      have hskip : ∀ r, skipBlanks (c :: r) = skipBlanks r := fun r => List.dropWhile_cons_of_pos hc
      rw [hskip, ← ih, dropTrailingBlanks]
      cases dropTrailingBlanks s with
      | nil => simp [hc]
      | cons d r => exact hskip _
    | false =>
      have hskip : ∀ r, skipBlanks (c :: r) = c :: r := fun r =>
        List.dropWhile_cons_of_neg (by simp [hc])
      rw [hskip, dropTrailingBlanks]
      cases dropTrailingBlanks s with
      | nil => simp [hc, hskip]
      | cons d r => exact hskip _

theorem strip_dropTrailingBlanks (s : List Char) : strip (dropTrailingBlanks s) = strip s := by
  rw [strip, skipBlanks_dropTrailingBlanks, dropTrailingBlanks_idem, strip]

end StoryState.Text
