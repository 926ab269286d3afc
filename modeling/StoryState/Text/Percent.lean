import StoryState.Text.Digit

/-!
Texts in which bytes are written as a percent sign and two hexadecimal digits. Bytes that are no text
become replacement characters, one for each run that could have begun a character.
-/

namespace StoryState.Text

/-- The bytes that a text stands for. -/
def percentBytes : List Char → List UInt8
  | '%' :: a :: b :: s =>
    match hexValue? a, hexValue? b with
    | some hi, some lo => (16 * hi + lo).toUInt8 :: percentBytes s
    | _, _ => '%'.toUInt8 :: percentBytes (a :: b :: s)
  | c :: s => (String.ofList [c]).toUTF8.toList ++ percentBytes s
  | [] => []
termination_by s => s.length

/-- The number of bytes that follow a leading byte, and the range of the first of them. -/
def following (lead : UInt8) : Option (Nat × UInt8 × UInt8) :=
  if lead < 0x80 then some (0, 0x80, 0xbf)
  else if 0xc2 ≤ lead && lead ≤ 0xdf then some (1, 0x80, 0xbf)
  else if lead = 0xe0 then some (2, 0xa0, 0xbf)
  else if lead = 0xed then some (2, 0x80, 0x9f)
  else if 0xe1 ≤ lead && lead ≤ 0xef then some (2, 0x80, 0xbf)
  else if lead = 0xf0 then some (3, 0x90, 0xbf)
  else if lead = 0xf4 then some (3, 0x80, 0x8f)
  else if 0xf1 ≤ lead && lead ≤ 0xf3 then some (3, 0x80, 0xbf)
  else none

/-- How many of the bytes behind a leading byte go on with its character. -/
def matched : Nat → UInt8 → UInt8 → List UInt8 → Nat
  | 0, _, _, _ | _, _, _, [] => 0
  | n + 1, lo, hi, b :: bs => if lo ≤ b && b ≤ hi then 1 + matched n 0x80 0xbf bs else 0

/-- The character that a leading byte and the bytes behind it make. -/
def codePoint (lead : UInt8) (more : List UInt8) : Char :=
  let bits :=
    match more.length with
    | 0 => lead.toNat
    | 1 => lead.toNat % 0x20
    | 2 => lead.toNat % 0x10
    | _ => lead.toNat % 0x08
  Char.ofNat (more.foldl (fun n b => 64 * n + b.toNat % 64) bits)

/-- What stands for bytes that are no character. -/
def replacement : Char := '\ufffd'

/-- The characters that bytes make. -/
def ofBytes : List UInt8 → List Char
  | [] => []
  | lead :: bs =>
    match following lead with
    | none => replacement :: ofBytes bs
    | some (n, lo, hi) =>
      let k := matched n lo hi bs
      (if k = n then codePoint lead (bs.take k) else replacement) :: ofBytes (bs.drop k)
termination_by bs => bs.length
decreasing_by all_goals simp only [List.length_drop, List.length_cons]; omega

/-- The text that a text with written bytes stands for. -/
def percentDecode (s : List Char) : List Char := ofBytes (percentBytes s)

end StoryState.Text
