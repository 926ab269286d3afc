import StoryState.Proofs.Number.Decimal
import StoryState.Number.Basic

/-!
Doubles compared with each other and cut to whole numbers. A double but a NaN is equal to itself
(`beq_self`), a double above zero is not cut to a number below it (`truncate?_nonneg`), and what a double
is cut to is short enough to be written (`isWritable_of_truncate?`).
-/

namespace StoryState.Number

open StoryState.Text Float.Model Float.Model.UnpackedFloat

variable {x : Float} {n : Int} {m : Nat} {e : Int}

/-! ### Comparing -/

/-- Bits that unpack to no number are those of a NaN. -/
theorem parts_of_notANumber (h : x.toModel.unpack = .notANumber) : parts x = .nan := by
  obtain ⟨⟨bits, hvalid⟩⟩ := x
  show Parts.ofBits bits.toNat = .nan
  replace h : UnpackedFloat.unpack Format.binary64 bits.toBitVec = .notANumber := h
  rw [UnpackedFloat.unpack] at h
  split at h
  · rename_i hexponent
    split at h
    · cases h
    · rename_i hmantissa
      have hbiased : bits.toNat / Nat.pow 2 52 % 2048 = 2047 := by
        have hones := congrArg BitVec.toNat hexponent
        rw [toNat_unpackExponent] at hones
        exact hones
      have hfraction : bits.toNat % Nat.pow 2 52 ≠ 0 := by
        intro hzero
        refine hmantissa (BitVec.eq_of_toNat_eq ?_)
        rw [toNat_unpackMantissa]
        exact hzero
      unfold Parts.ofBits
      dsimp only
      rw [if_pos hbiased, if_neg hfraction]
  · split at h
    · split at h <;> cases h
    · cases h

/-- Every double but a NaN is equal to itself. -/
theorem beq_self (h : isNaN x = false) : (x == x) = true := by
  have hunpack : x.toModel.unpack ≠ .notANumber := by
    intro hnan
    rw [isNaN, parts_of_notANumber hnan] at h
    cases h
  show (x.toModel.unpack.compare x.toModel.unpack == some .eq) = true
  cases hx : x.toModel.unpack with
  | notANumber => exact absurd hx hunpack
  | infinity s => cases s <;> rfl
  | zero s => cases s <;> rfl
  | finite s m e hm => cases s <;> simp [UnpackedFloat.compare]

/-- Not above zero, as far as the sign tells. -/
def SignedBelow : UnpackedFloat → Prop
  | .infinity s | .finite s .. => s = .negative
  | .zero _ | .notANumber => True

theorem unpackSign_eq_one {b : BitVec Format.binary64.numBits} (h : b.toNat / 2 ^ 63 % 2 = 1) :
    unpackSign b = 1#1 := by
  refine BitVec.eq_of_toNat_eq ?_
  unfold unpackSign
  rw [BitVec.toNat_cast, BitVec.extractLsb_toNat, Nat.shiftRight_eq_div_pow]
  exact h

theorem signedBelow_of_negative (hx : parts x = .finite true m e) : SignedBelow x.toModel.unpack := by
  obtain ⟨⟨bits, hvalid⟩⟩ := x
  replace hx : Parts.ofBits bits.toNat = .finite true m e := hx
  have hbit : bits.toNat / Nat.pow 2 63 % 2 = 1 := by
    unfold Parts.ofBits at hx
    dsimp only at hx
    split at hx
    · split at hx <;> cases hx
    · split at hx
      all_goals
        simp only [Parts.finite.injEq, beq_iff_eq] at hx
        exact hx.1
  show SignedBelow (UnpackedFloat.unpack Format.binary64 bits.toBitVec)
  rw [UnpackedFloat.unpack, unpackSign_eq_one hbit]
  split
  · split <;> trivial
  · split
    · split <;> trivial
    · trivial

/-- A double with a negative sign is not above zero. -/
theorem not_lt_of_negative (hx : parts x = .finite true m e) : ¬(0.0 : Float) < x := by
  intro hlt
  have hbelow := signedBelow_of_negative hx
  have hzero : (0.0 : Float).toModel.unpack = .zero .positive := by rfl
  replace hlt : ((0.0 : Float).toModel.unpack.compare x.toModel.unpack == some .lt) = true :=
    of_decide_eq_true hlt
  rw [hzero] at hlt
  revert hlt hbelow
  cases x.toModel.unpack with
  | notANumber => simp [UnpackedFloat.compare]
  | infinity s => cases s <;> simp [UnpackedFloat.compare, SignedBelow]
  | zero s => simp [UnpackedFloat.compare]
  | finite s m e hm => cases s <;> simp [UnpackedFloat.compare, SignedBelow]

/-! ### Whole parts -/

/-- A double above zero is not cut to a number below it. -/
theorem truncate?_nonneg (h : truncate? x = some n) (hx : (0.0 : Float) < x) : 0 ≤ n := by
  unfold truncate? at h
  split at h
  · rename_i negative m e hparts
    cases negative with
    | true => exact absurd hx (not_lt_of_negative hparts)
    | false =>
      rw [← Option.some.inj h]
      exact Int.natCast_nonneg _
  · cases h

theorem truncate?_of_toInt? (h : toInt? x = some n) : truncate? x = some n := by
  unfold toInt? at h
  unfold truncate?
  split at h
  · dsimp only at h
    split at h
    · exact h
    · cases h
  · cases h

theorem scaled_lt (h : IsFinite m e) : (scaled m e).1 < 2 ^ (53 + e.toNat) := by
  cases e with
  | ofNat k =>
    rw [Nat.pow_add]
    exact Nat.mul_lt_mul_of_pos_right h.mantissa (Nat.two_pow_pos k)
  | negSucc k => exact h.mantissa

/-- The whole part of a double is short enough to be written. -/
theorem isWritable_of_truncate? (h : truncate? x = some n) : isWritable n = true := by
  unfold truncate? at h
  split at h
  · rename_i negative m e hx
    dsimp only at h
    have hnat : n.natAbs = (scaled m e).1 / (scaled m e).2 := by
      rw [← Option.some.inj h]
      cases negative with
      | true => exact (Int.natAbs_neg _).trans (Int.natAbs_natCast _)
      | false => exact Int.natAbs_natCast _
    have hfinite := (toBits_of_finite hx).2
    have hbits : 53 + e.toNat < 3 * digitLimit := by
      have := hfinite.most
      unfold digitLimit
      omega
    have hlt : n.natAbs < 10 ^ digitLimit := by
      calc n.natAbs ≤ (scaled m e).1 := hnat ▸ Nat.div_le_self ..
        _ < 2 ^ (53 + e.toNat) := scaled_lt hfinite
        _ < 10 ^ digitLimit := Decimal.two_pow_lt hbits
    exact decide_eq_true (Nat.toDigits_length 10 _ _ (by decide) hlt)
  · cases h

theorem isWritable_of_toInt? (h : toInt? x = some n) : isWritable n = true :=
  isWritable_of_truncate? (truncate?_of_toInt? h)

end StoryState.Number
