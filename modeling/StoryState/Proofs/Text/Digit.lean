import StoryState.Text.Blank
import StoryState.Text.Digit
import Mathlib.Tactic.Common
import Mathlib.Tactic.IntervalCases
import Mathlib.Tactic.Ring

/-!
Rows of ASCII digits and the numbers they denote. The digits of a number denote it
(`readDigits_toDigits`). Digits of any script are no blanks.
-/

namespace StoryState.Text

/-- A row of ASCII digits. -/
def Digits (s : List Char) : Prop := ∀ c ∈ s, isAsciiDigit c = true

variable {c : Char} {s t : List Char} {acc n : Nat}

namespace Digits

theorem nil : Digits [] := by
  intro c hc
  cases hc

theorem cons_iff : Digits (c :: s) ↔ isAsciiDigit c = true ∧ Digits s := List.forall_mem_cons

theorem append_iff : Digits (s ++ t) ↔ Digits s ∧ Digits t := List.forall_mem_append

theorem replicate_zero : Digits (List.replicate n '0') := by
  intro c hc
  rw [List.eq_of_mem_replicate hc]
  rfl

theorem toDigits : Digits (Nat.toDigits 10 n) := by
  intro c hc
  have hdigit := Nat.isDigit_of_mem_toDigits (by omega) (by omega) hc
  simpa [Char.isDigit, isAsciiDigit, Char.le_def] using hdigit

end Digits

theorem toNat_of_ascii (h : isAsciiDigit c = true) : 48 ≤ c.toNat ∧ c.toNat ≤ 57 := by
  simp only [isAsciiDigit, Bool.and_eq_true, decide_eq_true_eq, Char.le_def] at h
  exact ⟨UInt32.le_iff_toNat_le.1 h.1, UInt32.le_iff_toNat_le.1 h.2⟩

theorem digitValue?_of_ascii (h : isAsciiDigit c = true) :
    digitValue? c = some (c.toNat - 48) ∧ c.toNat - 48 < 10 := by
  obtain ⟨hlow, hhigh⟩ := toNat_of_ascii h
  refine ⟨?_, by omega⟩
  unfold digitValue? digitRanges valueInRanges
  rw [if_neg (by omega), if_pos (by omega), Nat.mod_eq_of_lt (by omega)]

theorem isDigit_of_ascii (h : isAsciiDigit c = true) : isDigit c = true := by
  rw [isDigit, (digitValue?_of_ascii h).1]
  rfl

/-- Digits are read from the left, ten times what was read before for each. -/
theorem readDigits_eq (h : Digits s) : readDigits acc s = Nat.ofDigitChars 10 s acc := by
  induction s generalizing acc with
  | nil => rfl
  | cons c s ih =>
    obtain ⟨hc, hs⟩ := Digits.cons_iff.1 h
    rw [readDigits, (digitValue?_of_ascii hc).1, ih hs, Nat.ofDigitChars_cons]
    rfl

/-- The digits of a number denote it. -/
@[simp]
theorem readDigits_toDigits : readDigits 0 (Nat.toDigits 10 n) = n := by
  rw [readDigits_eq Digits.toDigits, Nat.ofDigitChars_ten_toDigits]

theorem readDigits_append : readDigits acc (s ++ t) = readDigits (readDigits acc s) t := by
  induction s generalizing acc with
  | nil => rfl
  | cons c s ih => exact ih

theorem readDigits_replicate_zero :
    readDigits acc (List.replicate n '0') = acc * 10 ^ n := by
  rw [readDigits_eq Digits.replicate_zero, Nat.ofDigitChars_replicate_zero, Nat.mul_comm]

/-- The digits of a positive number begin with one that is no zero. -/
theorem toDigits_cons (h : 0 < n) :
    ∃ c s, Nat.toDigits 10 n = c :: s ∧ c ≠ '0' := by
  induction n using Nat.strongRecOn with
  | _ n ih =>
    by_cases hlt : n < 10
    · refine ⟨n.digitChar, [], Nat.toDigits_of_lt_base hlt, ?_⟩
      interval_cases n <;> decide
    · obtain ⟨c, s, heq, hc⟩ := ih (n / 10) (by omega) (by omega)
      refine ⟨c, s ++ [(n % 10).digitChar], ?_, hc⟩
      rw [Nat.toDigits_of_base_le (by omega) (by omega), heq, List.cons_append]

theorem valueInRanges_lt {ranges : List (Nat × Nat)} {d : Nat}
    (h : valueInRanges ranges n = some d) : d < 10 := by
  induction ranges with
  | nil => cases h
  | cons r ranges ih =>
    obtain ⟨lo, hi⟩ := r
    rw [valueInRanges] at h
    split at h
    · cases h
    · split at h
      · cases h
        omega
      · exact ih h

/-- A row of digits, of whatever scripts, denotes a number of so many digits at most. -/
theorem readDigits_lt : readDigits acc s < (acc + 1) * 10 ^ s.length := by
  induction s generalizing acc with
  | nil => simp [readDigits]
  | cons c s ih =>
    have hlt : (digitValue? c).getD 0 < 10 := by
      cases hd : digitValue? c with
      | none => decide
      | some d => exact valueInRanges_lt hd
    rw [readDigits]
    refine ih.trans_le ?_
    rw [List.length_cons, Nat.pow_succ, ← Nat.mul_assoc, Nat.mul_right_comm]
    refine Nat.mul_le_mul_right _ ?_
    omega

theorem readDigits_eq_add (acc : Nat) (s : List Char) :
    readDigits acc s = acc * 10 ^ s.length + readDigits 0 s := by
  induction s generalizing acc with
  | nil => simp [readDigits]
  | cons c s ih =>
    rw [readDigits, ih, readDigits, ih (10 * 0 + _), List.length_cons, Nat.pow_succ]
    ring

/-! ### Digits and blanks -/

/-- The code points of ranges, one by one. -/
def pointsOf (ranges : List (Nat × Nat)) : List Nat :=
  ranges.flatMap fun (lo, hi) => List.range' lo (hi + 1 - lo)

theorem mem_pointsOf {ranges : List (Nat × Nat)} {n : Nat} (h : inRanges ranges n = true) :
    n ∈ pointsOf ranges := by
  induction ranges with
  | nil => cases h
  | cons r ranges ih =>
    obtain ⟨lo, hi⟩ := r
    rw [inRanges] at h
    rw [pointsOf, List.flatMap_cons, List.mem_append, List.mem_range'_1]
    split at h
    · cases h
    · split at h
      · exact .inl (by omega)
      · exact .inr (ih h)

/-- No blank is a digit. -/
theorem isDigit_of_isBlank (h : isBlank c = true) : isDigit c = false := by
  have hall : ∀ n ∈ pointsOf blankRanges, valueInRanges digitRanges n = none := by decide +kernel
  rw [isDigit, digitValue?, hall _ (mem_pointsOf h)]
  rfl

theorem isBlank_of_isDigit (h : isDigit c = true) : isBlank c = false := by
  by_contra hblank
  rw [isDigit_of_isBlank (by simpa using hblank)] at h
  cases h

/-- Before a digit there are no blanks to skip. -/
theorem skipBlanks_of_isDigit (h : isDigit c = true) : skipBlanks (c :: s) = c :: s := by
  rw [skipBlanks, List.dropWhile_cons_of_neg (by simp [isBlank_of_isDigit h])]

theorem dropTrailingBlanks_eq_self (h : ∀ c ∈ s, isBlank c = false) : dropTrailingBlanks s = s := by
  induction s with
  | nil => rfl
  | cons c s ih =>
    rw [List.forall_mem_cons] at h
    rw [dropTrailingBlanks, ih h.2]
    cases s with
    | nil => simp [h.1]
    | cons d s => rfl

/-- Nothing is stripped from a text without blanks. -/
theorem strip_eq_self (h : ∀ c ∈ s, isBlank c = false) : strip s = s := by
  have hskip : skipBlanks s = s := by
    cases s with
    | nil => rfl
    | cons c s => exact List.dropWhile_cons_of_neg (by simp [h c List.mem_cons_self])
  rw [strip, hskip, dropTrailingBlanks_eq_self h]

/-! ### Rows of a width -/

/-- A row of so many digits that denotes a number. -/
structure Row (width n : Nat) (s : List Char) : Prop where
  digits : Digits s
  length : s.length = width
  value : readDigits 0 s = n

theorem Row.append {a b m : Nat} (hs : Row a m s) (ht : Row b n t) :
    Row (a + b) (m * 10 ^ b + n) (s ++ t) where
  digits := Digits.append_iff.2 ⟨hs.digits, ht.digits⟩
  length := by rw [List.length_append, hs.length, ht.length]
  value := by rw [readDigits_append, readDigits_eq_add, hs.value, ht.length, ht.value]

/-- A number with zeros before it. -/
theorem row_padded {width : Nat} (hwidth : 0 < width) (h : n < 10 ^ width) :
    Row width n (List.replicate (width - (Nat.toDigits 10 n).length) '0' ++ Nat.toDigits 10 n) where
  digits := Digits.append_iff.2 ⟨Digits.replicate_zero, Digits.toDigits⟩
  length := by
    have hlength := (Nat.length_toDigits_le_iff (b := 10) (by omega) hwidth).2 h
    rw [List.length_append, List.length_replicate]
    omega
  value := by rw [readDigits_append, readDigits_replicate_zero, Nat.zero_mul, readDigits_toDigits]

/-- Of two rows of one length the one that denotes the smaller number comes first. -/
theorem Digits.lt_of_readDigits_lt (hs : Digits s) (ht : Digits t) (hlength : s.length = t.length)
    (h : readDigits acc s < readDigits acc t) : s < t := by
  induction s generalizing acc t with
  | nil =>
    obtain rfl := List.eq_nil_of_length_eq_zero hlength.symm
    exact absurd h (Nat.lt_irrefl _)
  | cons c s ih =>
    cases t with
    | nil => cases hlength
    | cons d t =>
      obtain ⟨hc, hs'⟩ := Digits.cons_iff.1 hs
      obtain ⟨hd, ht'⟩ := Digits.cons_iff.1 ht
      have hrest : s.length = t.length := Nat.succ.inj hlength
      rw [readDigits, (digitValue?_of_ascii hc).1, readDigits, (digitValue?_of_ascii hd).1,
        Option.getD_some, Option.getD_some] at h
      rw [List.cons_lt_cons_iff]
      rcases Nat.lt_trichotomy c.toNat d.toNat with hlt | heq | hgt
      · exact .inl (Char.lt_def.2 (UInt32.lt_iff_toNat_lt.2 hlt))
      · obtain rfl := Char.toNat_inj.1 heq
        exact .inr ⟨rfl, ih hs' ht' hrest h⟩
      · -- a greater digit outweighs whatever follows
        have hlow := (toNat_of_ascii hd).1
        have hdigits : 10 * acc + (d.toNat - 48) + 1 ≤ 10 * acc + (c.toNat - 48) := by omega
        have hleast : (10 * acc + (c.toNat - 48)) * 10 ^ s.length ≤
            readDigits (10 * acc + (c.toNat - 48)) s := by
          rw [readDigits_eq_add]
          exact Nat.le_add_right _ _
        have hmost : readDigits (10 * acc + (d.toNat - 48)) t <
            (10 * acc + (d.toNat - 48) + 1) * 10 ^ t.length := readDigits_lt
        rw [← hrest] at hmost
        have := Nat.mul_le_mul_right (10 ^ s.length) hdigits
        omega

theorem Row.lt {width m : Nat} (hs : Row width m s) (ht : Row width n t) (h : m < n) : s < t := by
  have hvalue : readDigits 0 s < readDigits 0 t := by
    rw [hs.value, ht.value]
    exact h
  exact hs.digits.lt_of_readDigits_lt ht.digits (hs.length.trans ht.length.symm) hvalue

end StoryState.Text
