import StoryState.Condition.Object
import StoryState.Condition.Syntax

/-!
The arithmetic of conditions. Whole numbers are exact; a double on either side makes the other
operand a double, a complex number makes it complex. An operation that has no result gives none.
-/

namespace StoryState.Condition

open Object (Numeric)

/-! ### Doubles -/

/-- Whether the sign of a double is a minus, also that of a zero. -/
def isNegative (x : Float) : Bool := x.toBits ≥ (0x8000000000000000 : UInt64)

/-- A zero with the sign of another double. -/
def zeroLike (x : Float) : Float := if isNegative x then -0.0 else 0.0

/-- The remainder of a division toward zero, exactly. -/
def remainder (x y : Float) : Float :=
  match Number.parts x, Number.parts y with
  | .nan, _ | _, .nan | .infinite _, _ => Number.notANumber
  | .finite .., .infinite _ => x
  | .finite negative m e, .finite _ n f =>
    if n = 0 then Number.notANumber
    else
      let low := min e f
      let r := (m * Nat.pow 2 (e - low).toNat) % (n * Nat.pow 2 (f - low).toNat)
      let (num, den) := Number.scaled r low
      Number.nearest negative num den

/-- The greatest whole double that is not above. -/
def floorFloat (x : Float) : Float :=
  match Number.parts x with
  | .finite negative m e =>
    let (num, den) := Number.scaled m e
    let n := num / den
    if negative then
      let up := if num % den = 0 then n else n + 1
      Number.nearest true up 1
    else Number.nearest false n 1
  | _ => x

/-- The remainder with the sign of the divisor, which is not zero. -/
def modFloat (x y : Float) : Float :=
  let r := remainder x y
  if r != 0.0 then
    if (y < 0.0) != (r < 0.0) then r + y else r
  else zeroLike y

/-- The quotient rounded down, of a divisor that is not zero. -/
def floorDivFloat (x y : Float) : Float :=
  let r := remainder x y
  let q := (x - r) / y
  let q := if r != 0.0 && (y < 0.0) != (r < 0.0) then q - 1.0 else q
  if q != 0.0 then
    let down := floorFloat q
    if q - down > 0.5 then down + 1.0 else down
  else zeroLike (x / y)

/-- The double nearest to the quotient of whole numbers, unless it is beyond the doubles. -/
def divInts? (a b : Int) : Option Float :=
  if b = 0 then none
  else
    let x := Number.nearest ((a < 0) != (b < 0)) a.natAbs b.natAbs
    if Number.isFinite x then some x else none

/-! ### Complex numbers -/

/-- The product. -/
def mulComplex (a b c d : Float) : Float × Float := (a * c - b * d, a * d + b * c)

/-- The quotient, computed from the ratio of the parts of the divisor. -/
def divComplex? (a b c d : Float) : Option (Float × Float) :=
  let absRe := if c < 0.0 then -c else c
  let absIm := if d < 0.0 then -d else d
  if absRe ≥ absIm then
    if absRe == 0.0 then none
    else
      let ratio := d / c
      let den := c + d * ratio
      some ((a + b * ratio) / den, (b - a * ratio) / den)
  else if absIm ≥ absRe then
    let ratio := c / d
    let den := c * ratio + d
    some ((a * ratio + b) / den, (b * ratio - a) / den)
  else some (Number.notANumber, Number.notANumber)

/-! ### Operations on numbers -/

/-- A number as a double, unless it is beyond the doubles. -/
def toFloat? : Numeric → Option Float
  | .int n => Number.ofInt? n
  | .float x => some x
  | .complex .. => none

/-- A number as a complex one, unless it is beyond the doubles. -/
def toComplex? : Numeric → Option (Float × Float)
  | .complex a b => some (a, b)
  | x => (toFloat? x).map (·, 0.0)

/-- An operation with a case for each sort of number. -/
def arithmetic? (onInts : Int → Int → Option Numeric) (onFloats : Float → Float → Option Float)
    (onComplex : Float → Float → Float → Float → Option (Float × Float)) (x y : Numeric) :
    Option Numeric :=
  match x, y with
  | .int a, .int b => onInts a b
  | .complex .., _ | _, .complex .. => do
    let (a, b) ← toComplex? x
    let (c, d) ← toComplex? y
    let (re, im) ← onComplex a b c d
    return .complex re im
  | x, y => do return .float (← onFloats (← toFloat? x) (← toFloat? y))

/-- The result of an operation on numbers. -/
def numericOp? : BinaryOp → Numeric → Numeric → Option Numeric
  | .add => arithmetic? (fun a b => some (.int (a + b))) (fun x y => some (x + y))
      (fun a b c d => some (a + c, b + d))
  | .sub => arithmetic? (fun a b => some (.int (a - b))) (fun x y => some (x - y))
      (fun a b c d => some (a - c, b - d))
  | .mult => arithmetic? (fun a b => some (.int (a * b))) (fun x y => some (x * y))
      (fun a b c d => some (mulComplex a b c d))
  | .div => arithmetic? (fun a b => (divInts? a b).map .float)
      (fun x y => if y == 0.0 then none else some (x / y)) divComplex?
  | .floorDiv => arithmetic? (fun a b => if b = 0 then none else some (.int (a.fdiv b)))
      (fun x y => if y == 0.0 then none else some (floorDivFloat x y)) (fun _ _ _ _ => none)
  | .mod => arithmetic? (fun a b => if b = 0 then none else some (.int (a.fmod b)))
      (fun x y => if y == 0.0 then none else some (modFloat x y)) (fun _ _ _ _ => none)
  | _ => fun _ _ => none

/-- A number as an object. -/
def objectOf (origin : Origin) : Numeric → Object
  | .int n => .int origin n
  | .float x => .float origin x
  | .complex a b => .complex origin a b

/-! ### Operations on rows -/

/-- The longest row that a repetition makes. -/
def rowLimit : Nat := Nat.pow 10 8

/-- The bound of the counts that an index can hold. -/
def indexLimit : Nat := Nat.pow 2 63

/-- A row after itself so many times. -/
def repeatRow? {α : Type} (row : List α) (count : Int) : Option (List α) :=
  let n := count.toNat
  if count ≥ indexLimit || count < -indexLimit then none
  else if row.isEmpty then some []
  else if row.length * n > rowLimit then none
  else some (List.replicate n row).flatten

/-- A row repeated; once gives the same object, except for a list. -/
def repeated? (origin : Origin) (a : Object) (count : Int) : Option Object :=
  match a with
  | .text _ s =>
    if count = 1 then some a
    else (repeatRow? s.toList count).map fun cs => .text origin (String.ofList cs)
  | .bytes _ bs => if count = 1 then some a else (repeatRow? bs count).map (.bytes origin)
  | .tuple _ items => if count = 1 then some a else (repeatRow? items count).map (.tuple origin)
  | .list _ items => (repeatRow? items count).map (.list origin)
  | _ => none

/-- Two rows of one sort joined; joining with nothing gives the same object, except for lists. -/
def joined? (origin : Origin) (a b : Object) : Option Object :=
  match a, b with
  | .text _ s, .text _ t =>
    if s = "" then some b else if t = "" then some a else some (.text origin (s ++ t))
  | .bytes _ s, .bytes _ t =>
    if s.isEmpty then some b else if t.isEmpty then some a else some (.bytes origin (s ++ t))
  | .tuple _ xs, .tuple _ ys =>
    if xs.isEmpty then some b else if ys.isEmpty then some a else some (.tuple origin (xs ++ ys))
  | .list _ xs, .list _ ys => some (.list origin (xs ++ ys))
  | _, _ => none

/-! ### Operations with one operand -/

/-- The result of a prefix operator. -/
def unaryOp? (origin : Origin) (op : UnaryOp) (a : Object) : Option Object :=
  match op with
  | .not => some (.bool !a.truthy)
  | .minus =>
    match a.numeric? with
    | some (.int n) => some (.int origin (-n))
    | some (.float x) => some (.float origin (-x))
    | some (.complex x y) => some (.complex origin (-x) (-y))
    | none => none
  | .plus =>
    match a with
    | .bool b => some (.int origin (if b then 1 else 0))
    | .int .. | .float .. | .complex .. => some a
    | _ => none
  | .invert => none

end StoryState.Condition
