import StoryState.Condition.Object
import StoryState.Json.Reader
import StoryState.Number.Fixed

/-!
Texts and bytes with places for values: a percent sign, perhaps a key, flags, a width, a precision,
and a letter that says how the value is written.
-/

namespace StoryState.Condition

/-- What stands between the percent sign and the letter of a place. -/
structure Place where
  left : Bool := false
  plus : Bool := false
  blank : Bool := false
  alternate : Bool := false
  zero : Bool := false
  width : Option Nat := none
  precision : Option Nat := none

/-- The values that are still to be placed. -/
structure Supply where
  /-- The values, in order. -/
  values : List Object
  /-- Where keys are looked up, if values can be named. -/
  mapping : Option Object

/-- The widest place. -/
def widthLimit : Nat := Nat.pow 10 7

/-- The next value. -/
def Supply.next? (s : Supply) : Option (Object × Supply) :=
  match s.values with
  | v :: vs => some (v, { s with values := vs })
  | [] => none

/-- The key in parentheses, which may be nested, from behind the opening one. -/
def placeKey? : Nat → List Char → Option (List Char × List Char)
  | _, [] => none
  | depth, c :: s =>
    if c = ')' then
      match depth with
      | 0 => some ([], s)
      | depth + 1 => (placeKey? depth s).map fun (key, rest) => (c :: key, rest)
    else (placeKey? (if c = '(' then depth + 1 else depth) s).map fun (key, rest) => (c :: key, rest)

/-- The flags at the head. -/
def placeFlags (p : Place) : List Char → Place × List Char
  | '-' :: s => placeFlags { p with left := true } s
  | '+' :: s => placeFlags { p with plus := true } s
  | ' ' :: s => placeFlags { p with blank := true } s
  | '#' :: s => placeFlags { p with alternate := true } s
  | '0' :: s => placeFlags { p with zero := true } s
  | s => (p, s)

/-- A size at the head: digits, or a star that takes it from the values. -/
def placeSize? (supply : Supply) (s : List Char) : Option (Option Int × Supply × List Char) :=
  match s with
  | '*' :: s => do
    let (v, supply) ← supply.next?
    match v with
    | .bool _ | .int .. => some (v.int?, supply, s)
    | _ => none
  | s =>
    let digits := s.takeWhile Text.isAsciiDigit
    if digits.isEmpty then some (none, supply, s)
    else some (some (Text.readDigits 0 digits), supply, s.dropWhile Text.isAsciiDigit)

/-- The place at the head, from behind the percent sign, its letter, and what is behind it. -/
def place? (supply : Supply) (bytes : Bool) (s : List Char) :
    Option (Place × Char × Supply × List Char) := do
  let (supply, s) ←
    match s with
    | '(' :: s => do
      let (key, s) ← placeKey? 0 s
      match supply.mapping with
      | some (.dict _ fields) =>
        if bytes then none
        else some ({ supply with values := [← fields.lookup (String.ofList key)] }, s)
      | _ => none
    | s => some (supply, s)
  let (p, s) := placeFlags {} s
  let (width, supply, s) ← placeSize? supply s
  let p :=
    match width with
    | some (.negSucc n) => { p with left := true, width := some (n + 1) }
    | some (.ofNat n) => { p with width := some n }
    | none => p
  let (p, supply, s) ←
    match s with
    | '.' :: s => do
      let (precision, supply, s) ← placeSize? supply s
      some ({ p with precision := some ((precision.getD 0).toNat) }, supply, s)
    | s => some (p, supply, s)
  let s := if s.head? = some 'h' || s.head? = some 'l' || s.head? = some 'L' then s.drop 1 else s
  if p.width.getD 0 > widthLimit || p.precision.getD 0 > widthLimit then none
  else
    match s with
    | letter :: s => some (p, letter, supply, s)
    | [] => none

/-! ### Values in places -/

/-- Fills a place with a text that has a sign and perhaps a prefix of two characters. -/
def fillNumber (p : Place) (hasPrefix : Bool) (s : List Char) : List Char :=
  let (sign, s) :=
    match s with
    | '-' :: s => (['-'], s)
    | s => (if p.plus then ['+'] else if p.blank then [' '] else [], s)
  let lead := if hasPrefix then s.take 2 else []
  let body := if hasPrefix then s.drop 2 else s
  let pad := p.width.getD 0 - (sign.length + lead.length + body.length)
  if p.left then sign ++ lead ++ body ++ List.replicate pad ' '
  else if p.zero then sign ++ lead ++ List.replicate pad '0' ++ body
  else List.replicate pad ' ' ++ sign ++ lead ++ body

/-- Fills a place with a text. -/
def fillText (p : Place) (s : List Char) : List Char :=
  let pad := p.width.getD 0 - s.length
  if p.left then s ++ List.replicate pad ' ' else List.replicate pad ' ' ++ s

/-- The text of a whole number in a base. -/
def placeInt? (p : Place) (letter : Char) (n : Int) : Option (List Char) :=
  let base := if letter = 'o' then 8 else if letter = 'x' || letter = 'X' then 16 else 10
  if base = 10 && !Number.isWritable n then none
  else
    let digits := Nat.toDigits base n.natAbs
    let digits := List.replicate (p.precision.getD 0 - digits.length) '0' ++ digits
    let digits := if letter = 'X' then digits.map Char.toUpper else digits
    let hasPrefix := p.alternate && base ≠ 10
    let all := if hasPrefix then '0' :: letter :: digits else digits
    some (fillNumber p hasPrefix (if n < 0 then '-' :: all else all))

/-- The text of a double. -/
def placeFloat (p : Place) (letter : Char) (x : Float) : List Char :=
  let precision := p.precision.getD 6
  let upper := letter.isUpper
  let (negative, body) :=
    match Number.parts x with
    | .nan => (false, (if upper then "NAN" else "nan").toList)
    | .infinite negative => (negative, (if upper then "INF" else "inf").toList)
    | .finite negative m e =>
      let (num, den) := Number.scaled m e
      (negative,
        match letter.toLower with
        | 'e' => Number.scientificText num den precision p.alternate letter
        | 'f' => Number.fixedText num den precision p.alternate
        | _ =>
          Number.generalText num den precision p.alternate (if upper then 'E' else 'e'))
  fillNumber p false (if negative then '-' :: body else body)

/-- A text with the characters beyond ASCII escaped. -/
def asciiOnly (s : List Char) : List Char :=
  s.flatMap fun c =>
    if c.toNat < 128 then [c]
    else if c.toNat < 0x100 then '\\' :: 'x' :: Text.hexDigits 2 c.toNat
    else if c.toNat < 0x10000 then '\\' :: 'u' :: Text.hexDigits 4 c.toNat
    else '\\' :: 'U' :: Text.hexDigits 8 c.toNat

/-- The whole number that a letter for decimals takes from a value; a double is cut toward zero. -/
def placedInt? (v : Object) : Option Int :=
  match v with
  | .float _ x => Number.truncate? x
  | v => v.int?

/-- The text of a value in a place. -/
def placeValue? (p : Place) (bytes : Bool) (letter : Char) (v : Object) : Option (List Char) :=
  let cut (s : List Char) : List Char :=
    match p.precision with
    | some n => s.take n
    | none => s
  match letter with
  | 's' =>
    if bytes then
      match v with
      | .bytes _ bs => some (fillText p (cut (bs.map Char.ofNat)))
      | _ => none
    else v.display?.map fun s => fillText p (cut s)
  | 'b' =>
    match bytes, v with
    | true, .bytes _ bs => some (fillText p (cut (bs.map Char.ofNat)))
    | _, _ => none
  | 'r' => v.inner?.map fun s => fillText p (cut (if bytes then asciiOnly s else s))
  | 'a' => v.inner?.map fun s => fillText p (cut (asciiOnly s))
  | 'd' | 'i' | 'u' => (placedInt? v).bind (placeInt? p letter)
  | 'o' | 'x' | 'X' => v.int?.bind (placeInt? p letter)
  | 'e' | 'E' | 'f' | 'F' | 'g' | 'G' =>
    match v.numeric? with
    | some (.int n) => (Number.ofInt? n).map (placeFloat p letter)
    | some (.float x) => some (placeFloat p letter x)
    | _ => none
  | 'c' =>
    match bytes, v with
    | false, .text _ s => if s.length = 1 then some (fillText p s.toList) else none
    | true, .bytes _ [b] => some (fillText p [Char.ofNat b])
    | _, v =>
      match v.int? with
      | some (.ofNat n) =>
        if n < (if bytes then 256 else 0x110000) then some (fillText p [Json.unitChar n]) else none
      | _ => none
  | _ => none

/-! ### Templates -/

/-- Fills the places of a template; `fuel` bounds the steps. -/
def fillPlaces? (bytes : Bool) : Nat → Supply → List Char → Option (List Char × Supply)
  | 0, _, _ => none
  | _ + 1, supply, [] => some ([], supply)
  | fuel + 1, supply, c :: s =>
    if c ≠ '%' then (fillPlaces? bytes fuel supply s).map fun (r, left) => (c :: r, left)
    else
      match s with
      | '%' :: s => (fillPlaces? bytes fuel supply s).map fun (r, left) => ('%' :: r, left)
      | s => do
        let (p, letter, supply, s) ← place? supply bytes s
        let (v, supply) ← supply.next?
        let shown ← placeValue? p bytes letter v
        let (r, left) ← fillPlaces? bytes fuel supply s
        some (shown ++ r, left)

/-- The values that an operand supplies: the items of a tuple, or the operand alone. Keys can be
looked up in an operand that has parts and is no tuple. -/
def supplyOf (bytes : Bool) (operand : Object) : Supply :=
  match operand with
  | .tuple _ items => ⟨items, none⟩
  | .dict .. | .list .. => ⟨[operand], some operand⟩
  | .bytes .. => ⟨[operand], if bytes then none else some operand⟩
  | operand => ⟨[operand], none⟩

/-- A template filled from an operand. All values must be placed, unless keys could be looked up. -/
def fill? (bytes : Bool) (template : List Char) (operand : Object) : Option (List Char) :=
  match fillPlaces? bytes (template.length + 1) (supplyOf bytes operand) template with
  | some (s, left) => if left.values.isEmpty || left.mapping.isSome then some s else none
  | none => none

end StoryState.Condition
