import StoryState.Number.Binary64

/-!
Doubles with a given number of digits, exactly rounded; a tie goes to the even digit.
-/

namespace StoryState.Number

/-- Digits with so many of them behind the point; `mark` says that a point is written even if none
are. -/
def withPoint (n places : Nat) (mark : Bool) : List Char :=
  let digits := Nat.toDigits 10 n
  let digits := List.replicate (places + 1 - digits.length) '0' ++ digits
  let whole := digits.take (digits.length - places)
  let fraction := digits.drop (digits.length - places)
  if places = 0 then (if mark then whole ++ ['.'] else whole) else whole ++ '.' :: fraction

/-- A fraction with so many places. -/
def fixedText (num den places : Nat) (mark : Bool) : List Char :=
  withPoint (roundDiv (num * Nat.pow 10 places) den) places mark

/-- The whole number nearest to `num / den · 10 ^ -power`. -/
def roundAtPower (num den : Nat) : Int → Nat
  | .ofNat k => roundDiv num (den * Nat.pow 10 k)
  | .negSucc k => roundDiv (num * Nat.pow 10 (k + 1)) den

/-- The power of ten of the leading digit of a positive fraction. -/
def leadingPowerOf (num den : Nat) : Int :=
  let guess : Int :=
    ((Nat.toDigits 10 num).length : Int) - ((Nat.toDigits 10 den).length : Int)
  let reaches : Bool :=
    match guess with
    | .ofNat k => den * Nat.pow 10 k ≤ num
    | .negSucc k => den ≤ num * Nat.pow 10 (k + 1)
  if reaches then guess else guess - 1

/-- The digits of a fraction, `places + 1` of them, and the power of ten of the first. -/
def significant (num den places : Nat) : Nat × Int :=
  if num = 0 then (0, 0)
  else
    let power := leadingPowerOf num den
    let n := roundAtPower num den (power - places)
    if n = Nat.pow 10 (places + 1) then (Nat.pow 10 places, power + 1) else (n, power)

/-- An exponent with a mark, a sign and two digits at least. -/
def exponentText (mark : Char) (power : Int) : List Char :=
  let size := Nat.toDigits 10 power.natAbs
  mark :: (if power < 0 then '-' else '+') :: (List.replicate (2 - size.length) '0' ++ size)

/-- A fraction with one digit before the point, so many behind it, and an exponent. -/
def scientificText (num den places : Nat) (mark : Bool) (letter : Char) : List Char :=
  let (n, power) := significant num den places
  withPoint n places mark ++ exponentText letter power

/-- The text without the zeros at the end of its fraction, and without a point that would be last. -/
def dropFractionZeros (s : List Char) : List Char :=
  if s.contains '.' then
    let r := s.reverse.dropWhile (· == '0')
    (if r.head? = some '.' then r.drop 1 else r).reverse
  else s

/-- A fraction with so many digits in all, written with an exponent if that is below -4 or not below
their number; zeros at the end are dropped unless `mark` keeps them. -/
def generalText (num den digits : Nat) (mark : Bool) (letter : Char) : List Char :=
  let digits := max digits 1
  let (n, power) := significant num den (digits - 1)
  let trim (s : List Char) : List Char := if mark then s else dropFractionZeros s
  if -4 ≤ power && power < digits then
    trim (fixedText num den (digits - 1 - power).toNat mark)
  else trim (withPoint n (digits - 1) mark) ++ exponentText letter power

end StoryState.Number
