import StoryState.Proofs.Number.Bits
import Mathlib.Data.Int.Log
import Mathlib.Data.Rat.Floor
import Mathlib.Tactic.FieldSimp
import Mathlib.Tactic.Positivity
import Mathlib.Tactic.Push

/-!
The double nearest to a fraction. It depends on the value of the fraction only (`nearestBits_congr`),
it is the fraction itself if that is a double (`nearestBits_of_finite`), and it is infinite or zero
beyond the doubles (`nearestBits_of_large`, `nearestBits_of_small`).
-/

namespace StoryState.Number

variable {num den : Nat} {m : Nat} {e : Int}

/-! ### The exponent of the significand -/

theorem reaches_iff (hd : 0 < den) :
    reaches num den e = true ↔ (2 : ℚ) ^ (e + 52) ≤ (num : ℚ) / den := by
  have hden : (0 : ℚ) < den := by exact_mod_cast hd
  rw [le_div_iff₀ hden, zpow_add₀ (by norm_num)]
  cases e with
  | ofNat k =>
    have hform : (2 : ℚ) ^ (Int.ofNat k) * 2 ^ (52 : Int) * den = (den * 2 ^ k * 2 ^ 52 : Nat) := by
      push_cast
      rw [Int.ofNat_eq_natCast, zpow_natCast]
      norm_cast
      ring
    rw [hform, Nat.cast_le]
    exact decide_eq_true_iff
  | negSucc k =>
    have hpow : (0 : ℚ) < 2 ^ (k + 1) := by positivity
    have hform : (2 : ℚ) ^ (Int.negSucc k) * 2 ^ (52 : Int) * den =
        (den * 2 ^ 52 : Nat) / 2 ^ (k + 1) := by
      push_cast
      rw [zpow_negSucc]
      norm_cast
      field_simp
      push_cast
      ring
    rw [hform, div_le_iff₀ hpow]
    have hcast : (num : ℚ) * 2 ^ (k + 1) = (num * 2 ^ (k + 1) : Nat) := by push_cast; ring
    rw [hcast, Nat.cast_le]
    exact decide_eq_true_iff

theorem two_zpow_sub (a b : Nat) : (2 : ℚ) ^ ((a : Int) - b) = 2 ^ a / 2 ^ b := by
  rw [zpow_sub₀ (by norm_num), zpow_natCast, zpow_natCast]

/-- The leading bit of a fraction is at the difference of those of its terms, or one place down. -/
theorem log_div (hn : 0 < num) (hd : 0 < den) :
    (num.log2 : Int) - den.log2 - 1 ≤ Int.log 2 ((num : ℚ) / den) ∧
      Int.log 2 ((num : ℚ) / den) < (num.log2 : Int) - den.log2 + 1 := by
  have hnum : (0 : ℚ) < num := by exact_mod_cast hn
  have hden : (0 : ℚ) < den := by exact_mod_cast hd
  have hpos : (0 : ℚ) < num / den := by positivity
  constructor
  · rw [← Int.zpow_le_iff_le_log (by norm_num) hpos, Nat.cast_ofNat]
    have hn' : 2 ^ num.log2 ≤ num := Nat.log2_self_le (by omega)
    have hd' : den < 2 ^ (den.log2 + 1) := Nat.lt_log2_self
    have hsum : (num.log2 : Int) - den.log2 - 1 = num.log2 - (den.log2 + 1 : Nat) := by omega
    rw [hsum, two_zpow_sub]
    exact div_le_div₀ hnum.le (by exact_mod_cast hn') hden (by exact_mod_cast hd'.le)
  · rw [← Int.lt_zpow_iff_log_lt (by norm_num) hpos, Nat.cast_ofNat]
    have hn' : num < 2 ^ (num.log2 + 1) := Nat.lt_log2_self
    have hd' : 2 ^ den.log2 ≤ den := Nat.log2_self_le (by omega)
    have hsum : (num.log2 : Int) - den.log2 + 1 = (num.log2 + 1 : Nat) - den.log2 := by omega
    rw [hsum, two_zpow_sub]
    exact div_lt_div₀ (by exact_mod_cast hn') (by exact_mod_cast hd') (by positivity) (by positivity)

/-- The exponent is that of the leading bit, 52 places down, unless that is below the least one. -/
theorem significandExponent_eq (hn : 0 < num) (hd : 0 < den) :
    significandExponent num den = max minExponent (Int.log 2 ((num : ℚ) / den) - 52) := by
  have hnum : (0 : ℚ) < num := by exact_mod_cast hn
  have hden : (0 : ℚ) < den := by exact_mod_cast hd
  have hpos : (0 : ℚ) < num / den := by positivity
  obtain ⟨hlow, hhigh⟩ := log_div hn hd
  have hreaches : reaches num den _ = true ↔ _ := reaches_iff (e := (num.log2 : Int) - den.log2 - 52) hd
  rw [sub_add_cancel, ← Nat.cast_ofNat (R := ℚ), Int.zpow_le_iff_le_log (by norm_num) hpos] at hreaches
  unfold significandExponent
  dsimp only
  congr 1
  split
  · rename_i h
    rw [hreaches] at h
    omega
  · rename_i h
    rw [hreaches] at h
    omega

/-! ### The same value, the same double -/

@[simp]
theorem nearestBits_zero : nearestBits 0 den = 0 := if_pos rfl

theorem nearestBits_of_ne_zero (hn : num ≠ 0) :
    nearestBits num den =
      min ((significandExponent num den - minExponent).toNat * 2 ^ 52 +
        significand num den (significandExponent num den)) (2047 * 2 ^ 52) := if_neg hn

section Congruence

variable {c num' den' : Nat}

theorem roundDiv_scale (hc : 0 < c) : roundDiv (c * num) (c * den) = roundDiv num den := by
  unfold roundDiv
  dsimp only
  rw [Nat.mul_div_mul_left _ _ hc, Nat.mul_mod_mul_left, Nat.mul_left_comm]
  simp only [Nat.mul_lt_mul_left hc, Nat.mul_right_inj (Nat.ne_of_gt hc)]

theorem significand_scale (hc : 0 < c) :
    significand (c * num) (c * den) e = significand num den e := by
  cases e with
  | ofNat k =>
    show roundDiv (c * num) (c * den * 2 ^ k) = roundDiv num (den * 2 ^ k)
    rw [Nat.mul_assoc, roundDiv_scale hc]
  | negSucc k =>
    show roundDiv (c * num * 2 ^ (k + 1)) (c * den) = roundDiv (num * 2 ^ (k + 1)) den
    rw [Nat.mul_assoc, roundDiv_scale hc]

theorem nearestBits_scale (hc : 0 < c) (hd : 0 < den) :
    nearestBits (c * num) (c * den) = nearestBits num den := by
  by_cases hn : num = 0
  · rw [hn, Nat.mul_zero, nearestBits_zero, nearestBits_zero]
  · have hn' : 0 < num := Nat.pos_of_ne_zero hn
    have hexponent : significandExponent (c * num) (c * den) = significandExponent num den := by
      rw [significandExponent_eq (Nat.mul_pos hc hn') (Nat.mul_pos hc hd),
        significandExponent_eq hn' hd, Nat.cast_mul, Nat.cast_mul]
      have hc' : (c : ℚ) ≠ 0 := by exact_mod_cast hc.ne'
      rw [mul_div_mul_left _ _ hc']
    rw [nearestBits_of_ne_zero hn, nearestBits_of_ne_zero (Nat.mul_ne_zero hc.ne' hn), hexponent,
      significand_scale hc]

/-- Equal fractions have the same nearest double. -/
theorem nearestBits_congr (hd : 0 < den) (hd' : 0 < den') (h : num * den' = num' * den) :
    nearestBits num den = nearestBits num' den' := by
  rw [← nearestBits_scale hd' hd, ← nearestBits_scale hd hd', Nat.mul_comm den' num, h,
    Nat.mul_comm num' den, Nat.mul_comm den' den]

end Congruence

/-! ### Fractions that are doubles -/

theorem scaled_den_pos : 0 < (scaled m e).2 := by
  cases e with
  | ofNat k => exact Nat.one_pos
  | negSucc k => exact Nat.pow_pos Nat.two_pos

theorem scaled_num_pos (hm : 0 < m) : 0 < (scaled m e).1 := by
  cases e with
  | ofNat k => exact Nat.mul_pos hm (Nat.pow_pos Nat.two_pos)
  | negSucc k => exact hm

/-- The numerator and denominator of a double make its value. -/
theorem scaled_value : ((scaled m e).1 : ℚ) / (scaled m e).2 = m * 2 ^ e := by
  cases e with
  | ofNat k =>
    show ((m * 2 ^ k : Nat) : ℚ) / (1 : Nat) = m * 2 ^ (Int.ofNat k)
    rw [Int.ofNat_eq_natCast, zpow_natCast]
    push_cast
    rw [div_one]
  | negSucc k =>
    show (m : ℚ) / ((2 ^ (k + 1) : Nat) : ℚ) = m * 2 ^ (Int.negSucc k)
    rw [zpow_negSucc, div_eq_mul_inv]
    push_cast
    rfl

theorem roundDiv_mul (hd : 0 < den) : roundDiv (m * den) den = m := by
  unfold roundDiv
  rw [Nat.mul_mod_left, Nat.mul_div_cancel _ hd, if_pos (by omega)]

theorem significand_scaled : significand (scaled m e).1 (scaled m e).2 e = m := by
  cases e with
  | ofNat k =>
    show roundDiv (m * 2 ^ k) (1 * 2 ^ k) = m
    rw [Nat.one_mul, roundDiv_mul (Nat.pow_pos Nat.two_pos)]
  | negSucc k => exact roundDiv_mul (Nat.pow_pos Nat.two_pos)

/-- A double keeps its exponent when it is read as a fraction. -/
theorem significandExponent_scaled (hm : 0 < m) (h : IsFinite m e) :
    significandExponent (scaled m e).1 (scaled m e).2 = e := by
  have hm' : (0 : ℚ) < m := by exact_mod_cast hm
  have hpos : (0 : ℚ) < m * 2 ^ e := mul_pos hm' (zpow_pos (by norm_num) e)
  have hhigh : Int.log 2 ((m : ℚ) * 2 ^ e) < 53 + e := by
    rw [← Int.lt_zpow_iff_log_lt (by norm_num) hpos, Nat.cast_ofNat, zpow_add₀ (by norm_num)]
    have hlt : (m : ℚ) < 2 ^ (53 : Int) := by exact_mod_cast h.mantissa
    exact mul_lt_mul_of_pos_right hlt (zpow_pos (by norm_num) e)
  rw [significandExponent_eq (scaled_num_pos hm) scaled_den_pos, scaled_value]
  rcases h.short with hlong | hleast
  · have hlow : 52 + e ≤ Int.log 2 ((m : ℚ) * 2 ^ e) := by
      rw [← Int.zpow_le_iff_le_log (by norm_num) hpos, Nat.cast_ofNat, zpow_add₀ (by norm_num)]
      have hle : (2 : ℚ) ^ (52 : Int) ≤ m := by exact_mod_cast hlong
      exact mul_le_mul_of_nonneg_right hle (zpow_nonneg (by norm_num) e)
    have hleast := h.least
    omega
  · omega

theorem positiveBits_lt (h : IsFinite m e) : positiveBits m e < 2047 * 2 ^ 52 := by
  have hm := h.mantissa
  have hmost := h.most
  have hleast := h.least
  show (e - minExponent).toNat * 2 ^ 52 + m < 2047 * 2 ^ 52
  unfold minExponent at *
  omega

/-- The double nearest to a double is that double. -/
theorem nearestBits_scaled (hm : 0 < m) (h : IsFinite m e) :
    nearestBits (scaled m e).1 (scaled m e).2 = positiveBits m e := by
  rw [nearestBits_of_ne_zero (scaled_num_pos hm).ne', significandExponent_scaled hm h,
    significand_scaled]
  exact Nat.min_eq_left (positiveBits_lt h).le

/-! ### Fractions beyond the doubles -/

/-- A fraction beyond the doubles is read as infinity. -/
theorem nearestBits_of_large (hn : 0 < num) (hd : 0 < den)
    (h : (2 : ℚ) ^ (1025 : Int) ≤ (num : ℚ) / den) : nearestBits num den = 2047 * 2 ^ 52 := by
  have hpos : (0 : ℚ) < (num : ℚ) / den := (zpow_pos (by norm_num) _).trans_le h
  rw [← Nat.cast_ofNat (R := ℚ), Int.zpow_le_iff_le_log (by norm_num) hpos] at h
  rw [nearestBits_of_ne_zero hn.ne', significandExponent_eq hn hd]
  refine Nat.min_eq_right ?_
  unfold minExponent
  omega

/-- A fraction below half the least double is read as zero. -/
theorem nearestBits_of_small {k : Nat} (hk : minExponent = Int.negSucc k) (hn : 0 < num)
    (hd : 0 < den) (h : num * 2 ^ (k + 2) < den) : nearestBits num den = 0 := by
  have hnum : (0 : ℚ) < num := by exact_mod_cast hn
  have hden : (0 : ℚ) < den := by exact_mod_cast hd
  have hexponent : significandExponent num den = Int.negSucc k := by
    have hlog : Int.log 2 ((num : ℚ) / den) < -((k + 2 : Nat) : Int) := by
      rw [← Int.lt_zpow_iff_log_lt (by norm_num) (div_pos hnum hden), div_lt_iff₀ hden,
        Nat.cast_ofNat, zpow_neg, ← div_eq_inv_mul, zpow_natCast, lt_div_iff₀ (by positivity)]
      have hcast : ((num * 2 ^ (k + 2) : Nat) : ℚ) < den := by exact_mod_cast h
      push_cast at hcast
      exact hcast
    rw [significandExponent_eq hn hd]
    omega
  have hzero : significand num den (Int.negSucc k) = 0 := by
    show roundDiv (num * 2 ^ (k + 1)) den = 0
    have hlt : 2 * (num * 2 ^ (k + 1)) < den := by
      rw [show 2 * (num * 2 ^ (k + 1)) = num * 2 ^ (k + 2) by ring]
      exact h
    unfold roundDiv
    dsimp only
    rw [Nat.mod_eq_of_lt (by omega), if_pos hlt, Nat.div_eq_of_lt (by omega)]
  rw [nearestBits_of_ne_zero hn.ne', hexponent, hzero, hk]
  simp

end StoryState.Number
