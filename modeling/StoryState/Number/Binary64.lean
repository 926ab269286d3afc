/-!
Double-precision numbers as exact fractions. A finite double is `± m · 2 ^ e` with `m < 2 ^ 53`;
`nearest` goes the other way, from a fraction to the double closest to it, a tie going to the even
significand.
-/

namespace StoryState.Number

/-- A double taken apart. -/
inductive Parts where
  | nan
  | infinite (negative : Bool)
  /-- The value `± mantissa · 2 ^ exponent`. -/
  | finite (negative : Bool) (mantissa : Nat) (exponent : Int)
deriving Repr, DecidableEq

/-- The exponent of the smallest positive double. -/
def minExponent : Int := -1074

/-- The parts of a double with the given bits. -/
def Parts.ofBits (bits : Nat) : Parts :=
  let negative := bits / Nat.pow 2 63 % 2 == 1
  let biased := bits / Nat.pow 2 52 % 2048
  let fraction := bits % Nat.pow 2 52
  if biased = 2047 then
    if fraction = 0 then .infinite negative else .nan
  else if biased = 0 then .finite negative fraction minExponent
  else .finite negative (Nat.pow 2 52 + fraction) (minExponent + (biased - 1 : Nat))

/-- The parts of a double. -/
def parts (x : Float) : Parts := Parts.ofBits x.toBits.toNat

/-- The fraction `mantissa · 2 ^ exponent` as numerator and denominator. -/
def scaled (mantissa : Nat) (exponent : Int) : Nat × Nat :=
  match exponent with
  | .ofNat k => (mantissa * Nat.pow 2 k, 1)
  | .negSucc k => (mantissa, Nat.pow 2 (k + 1))

/-- Whether `num / den` has 53 bits or more before the place `2 ^ exponent`. -/
def reaches (num den : Nat) (exponent : Int) : Bool :=
  match exponent with
  | .ofNat k => den * Nat.pow 2 k * Nat.pow 2 52 ≤ num
  | .negSucc k => den * Nat.pow 2 52 ≤ num * Nat.pow 2 (k + 1)

/-- The exponent `e ≥ -1074` at which the significand of `num / den` has 53 bits, or the least
one if it has fewer there. -/
def significandExponent (num den : Nat) : Int :=
  let guess : Int := (Nat.log2 num : Int) - (Nat.log2 den : Int) - 52
  max minExponent (if reaches num den guess then guess else guess - 1)

/-- The whole number nearest to `num / den`, a tie going to the even one. -/
def roundDiv (num den : Nat) : Nat :=
  let q := num / den
  let r := num % den
  if 2 * r < den then q
  else if 2 * r = den then q + q % 2
  else q + 1

/-- The multiple of `2 ^ exponent` nearest to `num / den`. -/
def significand (num den : Nat) (exponent : Int) : Nat :=
  match exponent with
  | .ofNat k => roundDiv num (den * Nat.pow 2 k)
  | .negSucc k => roundDiv (num * Nat.pow 2 (k + 1)) den

/-- The bits of the positive double nearest to `num / den`; too large a fraction gives the bits of
infinity. -/
def nearestBits (num den : Nat) : Nat :=
  if num = 0 then 0
  else
    let e := significandExponent num den
    min ((e - minExponent).toNat * Nat.pow 2 52 + significand num den e) (2047 * Nat.pow 2 52)

/-- The double nearest to `± num / den`. -/
def nearest (negative : Bool) (num den : Nat) : Float :=
  Float.ofBits (UInt64.ofNat ((if negative then Nat.pow 2 63 else 0) + nearestBits num den))

/-- The largest exponent of ten for which a decimal is not at once too large, and the negative of
the smallest for which it is not at once too small. -/
def decimalBound : Int := 400

/-- The double nearest to `± digits · 10 ^ exponent`, where `digits` has `count` digits at most. -/
def ofDecimal (negative : Bool) (digits count : Nat) (exponent : Int) : Float :=
  if digits = 0 then nearest negative 0 1
  else if decimalBound < exponent then nearest negative (Nat.pow 10 400) 1
  else if exponent + count < -decimalBound then nearest negative 0 1
  else
    match exponent with
    | .ofNat k => nearest negative (digits * Nat.pow 10 k) 1
    | .negSucc k => nearest negative digits (Nat.pow 10 (k + 1))

/-- Neither an infinity nor a NaN. -/
def isFinite (x : Float) : Bool :=
  match parts x with
  | .finite .. => true
  | _ => false

/-- A NaN. -/
def isNaN (x : Float) : Bool := parts x == .nan

/-- The whole part of a finite double, cut toward zero. -/
def truncate? (x : Float) : Option Int :=
  match parts x with
  | .finite negative mantissa exponent =>
    let (num, den) := scaled mantissa exponent
    let n : Int := (num / den : Nat)
    some (if negative then -n else n)
  | _ => none

/-- The whole number that a finite double is equal to. -/
def toInt? (x : Float) : Option Int :=
  match parts x with
  | .finite negative mantissa exponent =>
    let (num, den) := scaled mantissa exponent
    if num % den = 0 then
      let n : Int := (num / den : Nat)
      some (if negative then -n else n)
    else none
  | _ => none

/-- The double nearest to a whole number, unless that is beyond the finite ones. -/
def ofInt? (n : Int) : Option Float :=
  let x := nearest (n < 0) n.natAbs 1
  if isFinite x then some x else none

/-- Exact comparison of a whole number with a finite double. -/
def compareInt (n : Int) (negative : Bool) (mantissa : Nat) (exponent : Int) : Ordering :=
  let (num, den) := scaled mantissa exponent
  compare (n * den) (if negative then -(num : Int) else num)

end StoryState.Number
