import StoryState.Number.Binary64
import StoryState.Text.Blank
import StoryState.Text.Digit

/-!
Numbers in texts: which texts are whole numbers, which are decimals, and the doubles they denote.
-/

namespace StoryState.Number

open StoryState.Text

/-- The longest whole number, in digits, that is read from or written to a text. -/
def digitLimit : Nat := 4300

/-- Whether a whole number is short enough to be written. -/
def isWritable (n : Int) : Bool := (Nat.toDigits 10 n.natAbs).length ≤ digitLimit

/-- A leading sign: whether it is a minus, and the rest. -/
def takeSign : List Char → Bool × List Char
  | '-' :: s => (true, s)
  | '+' :: s => (false, s)
  | s => (false, s)

/-- The sign and digits of a text that is a whole number. -/
def wholeNumber? (s : List Char) : Option (Bool × List Char) :=
  let (negative, digits) := takeSign s
  if digits ≠ [] && digits.all isDigit then some (negative, digits) else none

/-- The number with the given sign and digits. -/
def signed (negative : Bool) (digits : List Char) : Int :=
  let n : Int := readDigits 0 digits
  if negative then -n else n

/-- The double denoted by digits before and after the point and a power of ten. -/
def ofDigits (negative : Bool) (whole fraction : List Char) (exponent : Int) : Float :=
  ofDecimal negative (readDigits 0 (whole ++ fraction)) (whole.length + fraction.length)
    (exponent - fraction.length)

/-- The text with the digits of every script as ASCII digits. -/
def plainDigits (s : List Char) : List Char :=
  s.map fun c =>
    match digitValue? c with
    | some d => Char.ofNat (48 + d)
    | none => c

/-- Drops low lines, each of which must stand between two digits. -/
def dropLowLines? (afterDigit : Bool) : List Char → Option (List Char)
  | [] => some []
  | c :: s =>
    if c = '_' then
      if afterDigit && (s.head?.map isAsciiDigit).getD false then dropLowLines? false s else none
    else (dropLowLines? (isAsciiDigit c) s).map (c :: ·)

/-- The text in ASCII lower case. -/
def lowerAscii (s : List Char) : List Char := s.map Char.toLower

/-- The exponent at the end of a decimal: nothing, or a mark, a sign and digits. -/
def exponentPart? : List Char → Option Int
  | [] => some 0
  | c :: s =>
    if c = 'e' || c = 'E' then (wholeNumber? s).map fun (negative, digits) => signed negative digits
    else none

/-- The double denoted by an unsigned decimal. -/
def unsignedDecimal? (negative : Bool) (s : List Char) : Option Float :=
  let whole := s.takeWhile isAsciiDigit
  let rest := s.dropWhile isAsciiDigit
  let (fraction, rest) :=
    match rest with
    | '.' :: r => (r.takeWhile isAsciiDigit, r.dropWhile isAsciiDigit)
    | r => ([], r)
  if whole = [] && fraction = [] then none
  else (exponentPart? rest).map fun e => ofDigits negative whole fraction e

/-- The infinities. -/
def infinity (negative : Bool) : Float := if negative then -1.0 / 0.0 else 1.0 / 0.0

/-- The quiet NaN. -/
def notANumber : Float := 0.0 / 0.0

/-- The double that a text denotes: a decimal, or a spelling of infinity or NaN in any case. -/
def decimal? (s : List Char) : Option Float :=
  (dropLowLines? false (plainDigits s)).bind fun s =>
    let (negative, body) := takeSign s
    let word := lowerAscii body
    if word = "inf".toList || word = "infinity".toList then some (infinity negative)
    else if word = "nan".toList then some notANumber
    else unsignedDecimal? negative body

end StoryState.Number
