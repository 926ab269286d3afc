import StoryState.Proofs.Number.Nearest
import StoryState.Proofs.Text.Digit

/-!
Decimals and the doubles nearest to them. The double depends on the value of the decimal only, not on
how many zeros end its digits (`Decimal.bits_congr`), and the bounds beyond which a decimal is not
computed change nothing (`ofDecimal_eq`). The decimal chosen for a double is read back as that double
(`bits_shortest`).
-/

namespace StoryState.Number

open StoryState.Text

variable {d d' : Decimal} {m : Nat} {e : Int}

/-! ### Values of decimals -/

namespace Decimal

/-- The value of a decimal. -/
def value (d : Decimal) : ℚ := d.digits * 10 ^ d.exponent

/-- The numerator and the denominator of a decimal. -/
def fraction (d : Decimal) : Nat × Nat :=
  match d.exponent with
  | .ofNat k => (d.digits * Nat.pow 10 k, 1)
  | .negSucc k => (d.digits, Nat.pow 10 (k + 1))

theorem bits_eq (d : Decimal) : d.bits = nearestBits d.fraction.1 d.fraction.2 := by
  obtain ⟨digits, exponent⟩ := d
  cases exponent <;> rfl

theorem fraction_den_pos : 0 < d.fraction.2 := by
  obtain ⟨digits, exponent⟩ := d
  cases exponent with
  | ofNat k => exact Nat.one_pos
  | negSucc k => exact Nat.pow_pos (by omega)

theorem fraction_num_pos (h : 0 < d.digits) : 0 < d.fraction.1 := by
  obtain ⟨digits, exponent⟩ := d
  cases exponent with
  | ofNat k => exact Nat.mul_pos h (Nat.pow_pos (by omega))
  | negSucc k => exact h

theorem fraction_value : (d.fraction.1 : ℚ) / d.fraction.2 = d.value := by
  obtain ⟨digits, exponent⟩ := d
  cases exponent with
  | ofNat k =>
    show ((digits * 10 ^ k : Nat) : ℚ) / (1 : Nat) = digits * 10 ^ (Int.ofNat k)
    rw [Int.ofNat_eq_natCast, zpow_natCast]
    push_cast
    rw [div_one]
  | negSucc k =>
    show (digits : ℚ) / ((10 ^ (k + 1) : Nat) : ℚ) = digits * 10 ^ (Int.negSucc k)
    rw [zpow_negSucc, div_eq_mul_inv]
    push_cast
    rfl

/-- The double nearest to a fraction of the value of the decimal. -/
theorem bits_of_value {num den : Nat} (hd : 0 < den) (h : d.value = num / den) :
    d.bits = nearestBits num den := by
  rw [bits_eq]
  refine nearestBits_congr fraction_den_pos hd ?_
  have hden : (den : ℚ) ≠ 0 := by exact_mod_cast hd.ne'
  have hden' : (d.fraction.2 : ℚ) ≠ 0 := by exact_mod_cast (fraction_den_pos (d := d)).ne'
  rw [← fraction_value, div_eq_div_iff hden' hden] at h
  exact_mod_cast h

theorem bits_congr (h : d.value = d'.value) : d.bits = d'.bits := by
  rw [bits_eq d', bits_of_value fraction_den_pos (h.trans fraction_value.symm)]

/-- Zeros at the end of the digits are worth a power of ten each. -/
theorem value_shift {digits k : Nat} :
    value ⟨digits * 10 ^ k, e⟩ = value ⟨digits, e + k⟩ := by
  show ((digits * 10 ^ k : Nat) : ℚ) * 10 ^ e = digits * 10 ^ (e + k)
  rw [zpow_add₀ (by norm_num), zpow_natCast]
  push_cast
  ring

theorem bits_shift {digits k : Nat} : bits ⟨digits * 10 ^ k, e⟩ = bits ⟨digits, e + k⟩ :=
  bits_congr value_shift

@[simp]
theorem bits_zero : bits ⟨0, e⟩ = 0 := by
  cases e with
  | ofNat k =>
    show nearestBits (0 * 10 ^ k) 1 = 0
    rw [Nat.zero_mul, nearestBits_zero]
  | negSucc k => exact nearestBits_zero

/-! ### Decimals beyond the doubles -/

theorem two_pow_lt {n k : Nat} (h : n < 3 * k) : 2 ^ n < 10 ^ k := by
  calc 2 ^ n < 2 ^ (3 * k) := Nat.pow_lt_pow_right (by omega) h
    _ = (2 ^ 3) ^ k := Nat.pow_mul 2 3 k
    _ ≤ 10 ^ k := Nat.pow_le_pow_left (by omega) k

theorem ten_pow_mul_lt {b n count k : Nat} (h : n < 3 * b) (hk : count + b ≤ k) :
    10 ^ count * 2 ^ n < 10 ^ k := by
  calc 10 ^ count * 2 ^ n < 10 ^ count * 10 ^ b :=
        Nat.mul_lt_mul_of_pos_left (two_pow_lt h) (Nat.pow_pos (by omega))
    _ = 10 ^ (count + b) := (Nat.pow_add ..).symm
    _ ≤ 10 ^ k := Nat.pow_le_pow_right (by omega) hk

theorem bits_of_large {digits : Nat} (hd : 0 < digits) (he : 400 ≤ e) :
    bits ⟨digits, e⟩ = 2047 * 2 ^ 52 := by
  rw [bits_eq]
  refine nearestBits_of_large (fraction_num_pos hd) fraction_den_pos ?_
  rw [fraction_value]
  have hone : (1 : ℚ) ≤ digits := by exact_mod_cast hd
  have hbound : ((2 ^ 1025 : Nat) : ℚ) ≤ (10 ^ 400 : Nat) := Nat.cast_le.2 (two_pow_lt (by omega)).le
  rw [Nat.cast_pow, Nat.cast_pow, ← zpow_natCast, ← zpow_natCast] at hbound
  calc (2 : ℚ) ^ (1025 : Int) ≤ 10 ^ ((400 : Nat) : Int) := hbound
    _ ≤ 10 ^ e := zpow_le_zpow_right₀ (by norm_num) he
    _ ≤ digits * 10 ^ e := le_mul_of_one_le_left (zpow_nonneg (by norm_num) e) hone

theorem nearestBits_ten_pow {k : Nat} (hk : 400 ≤ k) : nearestBits (Nat.pow 10 k) 1 = 2047 * 2 ^ 52 := by
  have hk' : (400 : Int) ≤ (k : Nat) := by omega
  rw [← bits_of_large Nat.one_pos hk', ← Nat.one_mul (Nat.pow 10 k)]
  rfl

theorem bits_of_small {digits count : Nat} (hd : digits < 10 ^ count) (he : e + count < -400) :
    bits ⟨digits, e⟩ = 0 := by
  rcases Nat.eq_zero_or_pos digits with rfl | hpos
  · exact bits_zero
  · obtain ⟨k, rfl⟩ : ∃ k, e = Int.negSucc k := by
      cases e with
      | ofNat k => exact absurd he (by rw [Int.ofNat_eq_natCast]; omega)
      | negSucc k => exact ⟨k, rfl⟩
    refine nearestBits_of_small (k := 1073) rfl hpos (Nat.pow_pos (by omega)) ?_
    calc digits * 2 ^ (1073 + 2) ≤ 10 ^ count * 2 ^ (1073 + 2) := Nat.mul_le_mul_right _ hd.le
      _ < 10 ^ (k + 1) := ten_pow_mul_lt (b := 400) (by omega) (by omega)

end Decimal

/-- The double of a sign and bits. -/
def withSign (negative : Bool) (bits : Nat) : Float :=
  Float.ofBits (UInt64.ofNat (signBit negative + bits))

theorem withSign_of_finite {x : Float} {negative : Bool} (h : parts x = .finite negative m e) :
    withSign negative (positiveBits m e) = x := by
  unfold withSign
  rw [← (toBits_of_finite h).1]
  exact (eq_of_toNat rfl).symm

/-- A decimal is read as the double nearest to it, also beyond the bounds. -/
theorem ofDecimal_eq {negative : Bool} {digits count : Nat} (h : digits < 10 ^ count) :
    ofDecimal negative digits count e = withSign negative (Decimal.bits ⟨digits, e⟩) := by
  have hnearest (num den : Nat) : nearest negative num den = withSign negative (nearestBits num den) :=
    rfl
  unfold ofDecimal
  split
  · rename_i hzero
    rw [hzero, Decimal.bits_zero, hnearest, nearestBits_zero]
  · rename_i hne
    split
    · rename_i hlarge
      unfold decimalBound at hlarge
      rw [Decimal.bits_of_large (by omega) (by omega), hnearest,
        Decimal.nearestBits_ten_pow Nat.le.refl]
    · split
      · rename_i hsmall
        unfold decimalBound at hsmall
        rw [Decimal.bits_of_small h hsmall, hnearest, nearestBits_zero]
      · cases e <;> rfl

/-- The digits before and after the point denote the double nearest to the decimal they make. -/
theorem ofDigits_eq {negative : Bool} {whole fraction : List Char} :
    ofDigits negative whole fraction e =
      withSign negative (Decimal.bits ⟨readDigits 0 (whole ++ fraction), e - fraction.length⟩) := by
  unfold ofDigits
  refine ofDecimal_eq ?_
  have hlt : readDigits 0 (whole ++ fraction) < _ := readDigits_lt
  rwa [Nat.zero_add, Nat.one_mul, List.length_append] at hlt

/-! ### The decimal of a double -/

theorem value_exact : (Decimal.exact m e).value = m * 2 ^ e := by
  cases e with
  | ofNat k =>
    show ((m * 2 ^ k : Nat) : ℚ) * 10 ^ (0 : Int) = m * 2 ^ (Int.ofNat k)
    rw [Int.ofNat_eq_natCast, zpow_natCast]
    push_cast
    ring
  | negSucc k =>
    show ((m * 5 ^ (k + 1) : Nat) : ℚ) * 10 ^ (Int.negSucc k) = m * 2 ^ (Int.negSucc k)
    rw [zpow_negSucc, zpow_negSucc, show (10 : ℚ) = 5 * 2 by norm_num, mul_pow]
    push_cast
    field_simp

theorem bits_exact (hm : 0 < m) (h : IsFinite m e) : (Decimal.exact m e).bits = positiveBits m e := by
  rw [← nearestBits_scaled hm h]
  exact Decimal.bits_of_value scaled_den_pos (value_exact.trans scaled_value.symm)

/-- Whichever grid the search ends on, its decimal is read back as the double. -/
theorem bits_searchGrids (hm : 0 < m) (h : IsFinite m e) (fuel : Nat) (grid : Int) :
    (searchGrids m e fuel grid).bits = positiveBits m e := by
  induction fuel generalizing grid with
  | zero => exact bits_exact hm h
  | succ fuel ih =>
    rw [searchGrids]
    dsimp only
    split
    · assumption
    · split
      · assumption
      · exact ih (grid - 1)

theorem bits_shortest (hm : 0 < m) (h : IsFinite m e) :
    (shortest m e).bits = positiveBits m e := bits_searchGrids hm h ..

end StoryState.Number
