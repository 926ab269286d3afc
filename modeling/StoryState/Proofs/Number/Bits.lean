import StoryState.Number.Numeral
import StoryState.Number.Shortest
import Mathlib

/-!
Doubles and their bits. A double is made of its bits again (`ofBits_toBits`), and the parts of a
double say what its bits are (`toBits_of_finite`).
-/

namespace StoryState.Number

open Float.Model Float.Model.UnpackedFloat

/-! ### Packing and unpacking -/

section Packing

variable {b : BitVec Format.binary64.numBits}

theorem toBitVec_ofBitVec (v : BitVec 1) : (Sign.ofBitVec v).toBitVec = v := by
  revert v
  decide

/-- The bits of a double are a sign, an exponent and a fraction. -/
theorem join_parts (b : BitVec Format.binary64.numBits) :
    packComponents Format.binary64 (Sign.ofBitVec (unpackSign b)) (unpackExponent b)
      (unpackMantissa b) = b := by
  unfold packComponents
  rw [toBitVec_ofBitVec]
  refine BitVec.eq_of_getLsbD_eq fun i hi => ?_
  have hi : i < 64 := hi
  rw [BitVec.getLsbD_append, BitVec.getLsbD_append]
  simp only [unpackSign, unpackExponent, unpackMantissa, BitVec.getLsbD_cast,
    BitVec.getLsbD_extractLsb]
  by_cases hm : i < 52
  · simp [hm]
  · by_cases he : i - 52 < 11
    · have hplace : 52 + (i - 52) = i := by omega
      rw [if_neg hm, if_pos he, hplace]
      simp [show i - 52 < 11 from he]
    · have hplace : 52 + 11 + (i - 52 - 11) = i := by omega
      rw [if_neg hm, if_neg he, hplace]
      simp [show i - 52 - 11 = 0 by omega]

/-- A double below the normal ones is packed with a zero exponent. -/
theorem pack_subnormal (sign : Sign) (v : BitVec 52) (hv : 0 < v.toNat) :
    UnpackedFloat.pack Format.binary64 (.finite sign v.toNat (-1074) hv) =
      packComponents Format.binary64 sign 0#_ v := by
  have hbiased : ((-1074 : Int) + Format.binary64.exponentBias +
      Format.binary64.mantissaBitsWithoutImplicit).toNat = 1 := by decide
  have hshort : ¬ v.toNat.log2 + 1 = Format.binary64.mantissaBits := by
    have hlt : v.toNat.log2 < 52 := (Nat.log2_lt (by omega)).2 v.isLt
    have hbits : Format.binary64.mantissaBits = 53 := by decide
    omega
  simp only [UnpackedFloat.pack, hbiased]
  rw [if_neg (by decide), if_neg hshort, BitVec.ofNat_toNat, BitVec.setWidth_eq]

/-- A normal double is packed without the first bit of its significand. -/
theorem pack_normal (sign : Sign) (e : BitVec 11) (v : BitVec 52) (hone : e.toNat < 2047)
    (hv : 0 < (1#1 ++ v).toNat) :
    UnpackedFloat.pack Format.binary64
        (.finite sign (1#1 ++ v).toNat ((e.toNat : Int) - (1023 + 52)) hv) =
      packComponents Format.binary64 sign e v := by
  have hvalue : (1#1 ++ v).toNat = 2 ^ 52 + v.toNat := by
    rw [BitVec.toNat_append, ← Nat.shiftLeft_add_eq_or_of_lt v.isLt]
    simp [Nat.shiftLeft_eq]
  have hbias : Format.binary64.exponentBias = 1023 := by decide
  have hbiased : ((e.toNat : Int) - (1023 + 52) + Format.binary64.exponentBias +
      Format.binary64.mantissaBitsWithoutImplicit).toNat = e.toNat := by
    have hwidth : ((Format.binary64.mantissaBitsWithoutImplicit : Nat) : Int) = 52 := rfl
    rw [hbias, hwidth]
    omega
  have hlong : (1#1 ++ v).toNat.log2 + 1 = Format.binary64.mantissaBits := by
    have hlog : (1#1 ++ v).toNat.log2 = 52 := by
      rw [Nat.log2_eq_iff (by omega), hvalue]
      have := v.isLt
      omega
    rw [hlog]
    decide
  have hfits : ¬ 2 ^ Format.binary64.exponentBits ≤ e.toNat + 1 := by
    show ¬ 2 ^ 11 ≤ e.toNat + 1
    omega
  simp only [UnpackedFloat.pack, hbiased]
  rw [if_neg hfits, if_pos hlong, BitVec.ofNat_toNat, BitVec.setWidth_eq]
  congr 1
  refine BitVec.eq_of_toNat_eq ?_
  rw [BitVec.toNat_ofNat, hvalue]
  show (2 ^ 52 + v.toNat) % 2 ^ 52 = v.toNat
  rw [Nat.add_mod_left, Nat.mod_eq_of_lt v.isLt]

/-- Unpacking valid bits and packing them gives the same bits. -/
theorem pack_unpack (h : Format.binary64.Valid b) :
    UnpackedFloat.pack Format.binary64 (UnpackedFloat.unpack Format.binary64 b) = b := by
  have hjoin := join_parts b
  have hnan := h.eq_packedNaN
  rw [UnpackedFloat.unpack]
  split
  · rename_i he
    split
    · rename_i hm
      rw [he, hm] at hjoin
      exact hjoin
    · rename_i hm
      exact (hnan he hm).symm
  · rename_i hne
    split
    · rename_i he
      split
      · rename_i hm
        rw [he, hm] at hjoin
        exact hjoin
      · rename_i hm
        have hpos : 0 < (unpackMantissa b).toNat := by
          rw [BitVec.toNat_pos]
          exact (BitVec.pos_iff_ne_zero _).2 hm
        have hexp : ((unpackExponent b).toNat : Int) - (Format.binary64.exponentBias +
            Format.binary64.mantissaBitsWithoutImplicit) + 1 = -1074 := by
          rw [he]
          decide
        simp only [hexp]
        rw [he] at hjoin
        exact (pack_subnormal _ _ hpos).trans hjoin
    · have hlt : (unpackExponent b).toNat < 2047 := by
        have hle : (unpackExponent b).toNat < 2 ^ 11 := (unpackExponent b).isLt
        have hne' : (unpackExponent b).toNat ≠ 2047 := fun heq =>
          hne (BitVec.eq_of_toNat_eq heq)
        omega
      exact (pack_normal _ _ _ hlt _).trans hjoin

end Packing

/-- A double is made of its bits. -/
theorem ofBits_toBits (x : Float) : Float.ofBits x.toBits = x := by
  obtain ⟨⟨bits, hvalid⟩⟩ := x
  have hbits := pack_unpack hvalid
  show Float.ofModel ⟨UInt64.ofBitVec (UnpackedFloat.pack Format.binary64
    (UnpackedFloat.unpack Format.binary64 bits.toBitVec)), _⟩ = _
  simp only [hbits]

/-! ### Parts -/

section Parts

variable {x : Float} {negative : Bool} {m : Nat} {e : Int}

/-- The weight of the sign bit. -/
def signBit (negative : Bool) : Nat := if negative then Nat.pow 2 63 else 0

/-- The significands and exponents of the doubles. -/
structure IsFinite (m : Nat) (e : Int) : Prop where
  mantissa : m < 2 ^ 53
  least : minExponent ≤ e
  most : e ≤ 971
  /-- A significand is short only at the least exponent. -/
  short : 2 ^ 52 ≤ m ∨ e = minExponent

theorem toNat_lt (x : Float) : x.toBits.toNat < 2 ^ 64 := x.toBits.toNat_lt

/-- The sign bit as it stands at the top of the bits. -/
theorem signBit_top {bits : Nat} (hlt : bits < 2 ^ 64) :
    signBit (bits / 9223372036854775808 % 2 == 1) =
      bits / 9223372036854775808 * 9223372036854775808 := by
  have h63 : Nat.pow 2 63 = 9223372036854775808 := by decide
  unfold signBit
  rw [h63]
  split
  · rename_i hb
    simp only [beq_iff_eq] at hb
    omega
  · rename_i hb
    simp only [beq_iff_eq] at hb
    omega

theorem toBits_of_finite (h : parts x = .finite negative m e) :
    x.toBits.toNat = signBit negative + positiveBits m e ∧ IsFinite m e := by
  have hlt := toNat_lt x
  unfold parts Parts.ofBits at h
  generalize x.toBits.toNat = bits at h hlt
  have h52 : Nat.pow 2 52 = 4503599627370496 := by decide
  have h63 : Nat.pow 2 63 = 9223372036854775808 := by decide
  simp only [h52, h63] at h
  have hsign := signBit_top hlt
  split at h
  · split at h <;> cases h
  · split at h
    · cases h
      rw [hsign]
      refine ⟨?_, ?_, ?_, ?_, ?_⟩
      · simp only [positiveBits, minExponent, h52]
        omega
      · omega
      · simp [minExponent]
      · simp [minExponent]
      · exact .inr rfl
    · cases h
      rw [hsign]
      refine ⟨?_, ?_, ?_, ?_, ?_⟩
      · simp only [positiveBits, minExponent, h52]
        omega
      · omega
      · omega
      · simp only [minExponent]
        omega
      · left
        omega

/-- A double is determined by the number its bits make. -/
theorem eq_of_toNat {n : Nat} (h : x.toBits.toNat = n) : x = Float.ofBits (UInt64.ofNat n) := by
  rw [← h, UInt64.ofNat_toNat, ofBits_toBits]

theorem toBits_of_infinite (h : parts x = .infinite negative) :
    x.toBits.toNat = signBit negative + 2047 * Nat.pow 2 52 := by
  have hlt := toNat_lt x
  unfold parts Parts.ofBits at h
  generalize x.toBits.toNat = bits at h hlt
  have h52 : Nat.pow 2 52 = 4503599627370496 := by decide
  have h63 : Nat.pow 2 63 = 9223372036854775808 := by decide
  simp only [h52, h63] at h
  split at h
  · rename_i hbiased
    split at h
    · rename_i hfraction
      cases h
      rw [signBit_top hlt, h52]
      omega
    · cases h
  · split at h <;> cases h

theorem eq_of_infinite (h : parts x = .infinite negative) : x = infinity negative := by
  rw [eq_of_toNat (toBits_of_infinite h)]
  cases negative
  · decide +kernel
  · decide +kernel

/-- The bits of a NaN have all exponent bits and a fraction. -/
theorem toBits_of_nan (h : parts x = .nan) :
    x.toBits.toNat / 2 ^ 52 % 2 ^ 11 = 2047 ∧ x.toBits.toNat % 2 ^ 52 ≠ 0 := by
  unfold parts Parts.ofBits at h
  generalize x.toBits.toNat = bits at h ⊢
  have h52 : Nat.pow 2 52 = 2 ^ 52 := rfl
  simp only [h52] at h
  split at h
  · rename_i hbiased
    split at h
    · cases h
    · rename_i hfraction
      exact ⟨hbiased, hfraction⟩
  · split at h <;> cases h

theorem toNat_unpackExponent (b : BitVec Format.binary64.numBits) :
    (unpackExponent b).toNat = b.toNat / 2 ^ 52 % 2 ^ 11 := by
  unfold unpackExponent
  rw [BitVec.toNat_cast, BitVec.extractLsb_toNat, Nat.shiftRight_eq_div_pow]
  rfl

theorem toNat_unpackMantissa (b : BitVec Format.binary64.numBits) :
    (unpackMantissa b).toNat = b.toNat % 2 ^ 52 := by
  unfold unpackMantissa
  rw [BitVec.toNat_cast, BitVec.extractLsb_toNat, Nat.shiftRight_zero]
  rfl

/-- All the NaNs are one. -/
theorem eq_of_nan (h : parts x = .nan) : x = notANumber := by
  obtain ⟨hexponent, hfraction⟩ := toBits_of_nan h
  obtain ⟨⟨bits, hvalid⟩⟩ := x
  have hpacked : bits.toBitVec = packedNaN Format.binary64 := by
    refine hvalid.eq_packedNaN (BitVec.eq_of_toNat_eq ?_) fun hzero => hfraction ?_
    · rw [toNat_unpackExponent]
      exact hexponent
    · have hmantissa := congrArg BitVec.toNat hzero
      rw [toNat_unpackMantissa] at hmantissa
      exact hmantissa
  have hbits : (Float.toBits ⟨⟨bits, hvalid⟩⟩).toNat = 2047 * 2 ^ 52 + 2 ^ 51 := by
    show bits.toBitVec.toNat = _
    rw [hpacked]
    decide +kernel
  rw [eq_of_toNat hbits]
  decide +kernel

end Parts

/-! ### Zero -/

/-- Nothing is taken away with the double for zero. -/
theorem sub_ofInt_zero (x : Float) : ofInt? 0 = some (Float.ofBits 0) ∧ x - Float.ofBits 0 = x := by
  have hzero : (Float.ofBits 0).toModel.unpack = .zero .positive := by rfl
  have hsub : ∀ u : UnpackedFloat, u.sub Format.binary64 (.zero .positive) = u := by
    intro u
    cases u with
    | zero s => cases s <;> rfl
    | infinity s => rfl
    | notANumber => rfl
    | finite s m e h => rfl
  refine ⟨rfl, ?_⟩
  show Float.ofModel (Float.Model.pack (UnpackedFloat.sub Format.binary64 x.toModel.unpack _)) = x
  rw [hzero, hsub]
  exact ofBits_toBits x

end StoryState.Number
