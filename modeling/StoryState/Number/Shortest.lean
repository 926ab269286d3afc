import StoryState.Number.Binary64

/-!
The fewest decimal digits that read back to the same double, and the text made of them.
-/

namespace StoryState.Number

/-- A decimal `digits · 10 ^ exponent`. -/
structure Decimal where
  digits : Nat
  exponent : Int
deriving Repr, DecidableEq

/-- The bits of the double nearest to a positive decimal. -/
def Decimal.bits (d : Decimal) : Nat :=
  match d.exponent with
  | .ofNat k => nearestBits (d.digits * Nat.pow 10 k) 1
  | .negSucc k => nearestBits d.digits (Nat.pow 10 (k + 1))

/-- The decimal equal to `mantissa · 2 ^ exponent`. -/
def Decimal.exact (mantissa : Nat) (exponent : Int) : Decimal :=
  match exponent with
  | .ofNat k => ⟨mantissa * Nat.pow 2 k, 0⟩
  | .negSucc k => ⟨mantissa * Nat.pow 5 (k + 1), .negSucc k⟩

/-- The value's two neighbours among the multiples of `10 ^ exponent`, the nearer one first, and of
two equally near the one with an even last digit. -/
def gridNeighbours (num den : Nat) (exponent : Int) : Decimal × Decimal :=
  let (num, den) :=
    match exponent with
    | .ofNat k => (num, den * Nat.pow 10 k)
    | .negSucc k => (num * Nat.pow 10 (k + 1), den)
  let below : Decimal := ⟨num / den, exponent⟩
  let above : Decimal := ⟨num / den + 1, exponent⟩
  if roundDiv num den = num / den then (below, above) else (above, below)

/-- The bits of the positive double `mantissa · 2 ^ exponent`. -/
def positiveBits (mantissa : Nat) (exponent : Int) : Nat :=
  (exponent - minExponent).toNat * Nat.pow 2 52 + mantissa

/-- Looks for a decimal that reads back to `mantissa · 2 ^ exponent` on grids that get finer by a
factor of ten; `fuel` grids are tried before the exact decimal is taken. -/
def searchGrids (mantissa : Nat) (exponent : Int) : Nat → Int → Decimal
  | 0, _ => .exact mantissa exponent
  | fuel + 1, grid =>
    let (num, den) := scaled mantissa exponent
    let (first, second) := gridNeighbours num den grid
    if first.bits = positiveBits mantissa exponent then first
    else if second.bits = positiveBits mantissa exponent then second
    else searchGrids mantissa exponent fuel (grid - 1)

/-- The number of decimal digits of a positive number. -/
def digitCount (n : Nat) : Nat := (Nat.toDigits 10 n).length

/-- The power of ten of the leading digit of `num / den`, or one more than that. -/
def leadingPower (num den : Nat) : Int := (digitCount num : Int) - (digitCount den : Int)

/-- The decimal with the fewest digits that reads back to the positive double
`mantissa · 2 ^ exponent`. -/
def shortest (mantissa : Nat) (exponent : Int) : Decimal :=
  let (num, den) := scaled mantissa exponent
  searchGrids mantissa exponent 19 (leadingPower num den)

/-- The digits without the zeros at their end, and how many zeros there were. -/
def dropTrailingZeros (digits : List Char) : List Char × Nat :=
  let zeros := digits.reverse.takeWhile (· == '0')
  (digits.take (digits.length - zeros.length), zeros.length)

/-- How a finite double is written: positionally with at least one digit after the point while
the point stands from 3 places before to 16 places behind the first digit, otherwise with an exponent
of two digits at least. -/
def layout (digits : List Char) (point : Int) : List Char :=
  if -4 < point && point ≤ 16 then
    if point ≤ 0 then
      '0' :: '.' :: (List.replicate (-point).toNat '0' ++ digits)
    else
      let k := point.toNat
      if k < digits.length then digits.take k ++ '.' :: digits.drop k
      else digits ++ List.replicate (k - digits.length) '0' ++ ['.', '0']
  else
    let e := point - 1
    let significand :=
      match digits with
      | [] => []
      | [d] => [d]
      | d :: ds => d :: '.' :: ds
    let size := Nat.toDigits 10 e.natAbs
    significand ++ 'e' :: (if e < 0 then '-' else '+') ::
      (List.replicate (2 - size.length) '0' ++ size)

/-- The text of the double `mantissa · 2 ^ exponent`. -/
def positiveText (mantissa : Nat) (exponent : Int) : List Char :=
  if mantissa = 0 then "0.0".toList
  else
    let d := shortest mantissa exponent
    let all := Nat.toDigits 10 d.digits
    let (digits, _) := dropTrailingZeros all
    layout digits (all.length + d.exponent)

/-- The text of a double: its shortest digits, `nan`, `inf` or `-inf`. -/
def floatText (x : Float) : String :=
  match parts x with
  | .nan => "nan"
  | .infinite negative => if negative then "-inf" else "inf"
  | .finite negative mantissa exponent =>
    let body := positiveText mantissa exponent
    String.ofList (if negative then '-' :: body else body)

end StoryState.Number
