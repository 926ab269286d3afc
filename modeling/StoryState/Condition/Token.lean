import StoryState.Condition.Literal
import StoryState.Text.Compatibility
import StoryState.Text.Digit

/-!
The tokens of a condition. Blanks separate them, a number sign begins a remark, and line breaks count
only outside brackets, which must match.
-/

namespace StoryState.Condition

open StoryState.Text

/-- A token. -/
inductive Token where
  | keyword (word : String)
  | name (id : String)
  | number (c : Constant)
  | quoted (q : QuotedLiteral)
  | mark (sign : String)
  | lineEnd

/-- The words that are no names. -/
def keywords : List String :=
  ["False", "None", "True", "and", "as", "assert", "async", "await", "break", "class", "continue",
    "def", "del", "elif", "else", "except", "finally", "for", "from", "global", "if", "import", "in",
    "is", "lambda", "nonlocal", "not", "or", "pass", "raise", "return", "try", "while", "with",
    "yield"]

/-- The signs, longer ones before those with which they begin. -/
def marks : List String :=
  ["**=", "//=", ">>=", "<<=", "...", "**", "//", ">>", "<<", "<=", ">=", "==", "!=", "<>", "->",
    "+=", "-=", "*=", "/=", "%=", "&=", "|=", "^=", "@=", ":=", "+", "-", "*", "/", "%", "@", "&",
    "|", "^", "~", "<", ">", "(", ")", "[", "]", "\x7b", "\x7d", ",", ":", ".", ";", "="]

/-! ### Names -/

/-- A character that may begin a name: an ASCII letter, the low line, or any character beyond
ASCII. -/
def mayStartName (c : Char) : Bool :=
  ('A' ≤ c && c ≤ 'Z') || ('a' ≤ c && c ≤ 'z') || c == '_' || c.toNat ≥ 128

/-- A character that may continue a name, as far as ASCII decides. -/
def mayContinueName (c : Char) : Bool := mayStartName c || isAsciiDigit c

/-- The token of a word. -/
def wordToken? (word : List Char) : Option Token :=
  if keywords.contains (String.ofList word) then some (.keyword (String.ofList word))
  else if word.all (·.toNat < 128) || isIdentifier word then
    some (.name (String.ofList (compatibilityForm word)))
  else none

/-! ### Quoted literals -/

/-- The body of a literal in single quote marks and the rest; a line break ends it badly. -/
def shortBody? (quote : Char) : List Char → Option (List Char × List Char)
  | [] => none
  | '\\' :: c :: s => (shortBody? quote s).map fun (body, rest) => ('\\' :: c :: body, rest)
  | c :: s =>
    if c = quote then some ([], s)
    else if c = '\n' || c = '\\' then none
    else (shortBody? quote s).map fun (body, rest) => (c :: body, rest)

/-- The body of a literal in triple quote marks and the rest. -/
def longBody? (quote : Char) : List Char → Option (List Char × List Char)
  | [] => none
  | '\\' :: c :: s => (longBody? quote s).map fun (body, rest) => ('\\' :: c :: body, rest)
  | c :: s =>
    match dropLead? [quote, quote, quote] (c :: s) with
    | some rest => some ([], rest)
    | none => if c = '\\' then none else (longBody? quote s).map fun (body, rest) => (c :: body, rest)

/-- The body of a literal whose quote marks are at the head. -/
def quotedBodyAt? (s : List Char) : Option (List Char × List Char) :=
  match s with
  | [] => none
  | quote :: r =>
    match dropLead? [quote, quote] r with
    | some r => longBody? quote r
    | none => shortBody? quote r

/-! ### Numbers -/

/-- Digits with single low lines between them, and the rest; a low line must be followed by a
digit. -/
def digitRun? (isDigit : Char → Bool) : List Char → Option (List Char × List Char)
  | [] => some ([], [])
  | '_' :: s =>
    match s with
    | c :: _ => if isDigit c then digitRun? isDigit s else none
    | [] => none
  | c :: s =>
    if isDigit c then (digitRun? isDigit s).map fun (ds, rest) => (c :: ds, rest)
    else some ([], c :: s)

/-- Whether a number may end here: not in front of a letter or digit, except where a word that goes
on with the expression begins. -/
def numberEnds (s : List Char) : Bool :=
  match s with
  | [] => true
  | c :: _ =>
    !mayContinueName c ||
      ["and", "else", "for", "if", "in", "is", "or", "not"].any fun word =>
        (dropLead? word.toList s).isSome

/-- A number whose end has been found. -/
def ended? (c : Constant) (s : List Char) : Option (Token × List Char) :=
  if numberEnds s then some (.number c, s) else none

/-- The number that digits of a base denote. -/
def digitsOfBase (base : Nat) (s : List Char) : Nat :=
  s.foldl (fun acc c => base * acc + (Text.hexValue? c).getD 0) 0

/-- A whole number of another base, from behind its two signs. -/
def based? (base : Nat) (isDigit : Char → Bool) (s : List Char) : Option (Token × List Char) :=
  let s := if s.head? = some '_' then s.drop 1 else s
  match s with
  | [] => none
  | c :: _ =>
    if !isDigit c then none
    else
      (digitRun? isDigit s).bind fun (digits, rest) =>
        if (rest.head?.map isAsciiDigit).getD false then none
        else ended? (.int (digitsOfBase base digits)) rest

/-- What follows the digits of an exponent: nothing or the sign of the imaginary unit. -/
def suffixed? (x : Float) (s : List Char) : Option (Token × List Char) :=
  match s with
  | c :: r => if c = 'j' || c = 'J' then ended? (.imaginary x) r else ended? (.float x) s
  | [] => ended? (.float x) s

/-- The exponent at the head: a mark, a sign and digits. No digits behind the mark mean that there
is no exponent; none behind a sign is an error. -/
def exponentAt? (s : List Char) : Option (Option (Int × List Char)) :=
  match s with
  | [] => some none
  | c :: r =>
    if c = 'e' || c = 'E' then
      match r with
      | [] => some none
      | sign :: r' =>
        let (negative, digits, signed) :=
          if sign = '-' then (true, r', true) else if sign = '+' then (false, r', true)
          else (false, r, false)
        if (digits.head?.map isAsciiDigit).getD false then
          (digitRun? isAsciiDigit digits).map fun (ds, rest) =>
            some (Number.signed negative ds, rest)
        else if signed then none
        else some none
    else some none

/-- A number without an exponent: whole, unless it has a point. -/
def wholeOrFloat? (whole fraction : List Char) (pointed : Bool) (rest : List Char) :
    Option (Token × List Char) :=
  if pointed then ended? (.float (Number.ofDigits false whole fraction 0)) rest
  else if whole.head? = some '0' && whole.any (· ≠ '0') then none
  else if Number.digitLimit < whole.length then none
  else ended? (.int (readDigits 0 whole)) rest

/-- A decimal from behind its whole digits. -/
def decimalTail? (whole : List Char) (s : List Char) : Option (Token × List Char) := do
  let (fraction, rest, pointed) ←
    match s with
    | '.' :: r =>
      if (r.head?.map isAsciiDigit).getD false then
        (digitRun? isAsciiDigit r).map fun (ds, rest) => (ds, rest, true)
      else some ([], r, true)
    | s => some ([], s, false)
  match ← exponentAt? rest with
  | some (e, rest) => suffixed? (Number.ofDigits false whole fraction e) rest
  | none =>
    match rest with
    | c :: r =>
      if c = 'j' || c = 'J' then ended? (.imaginary (Number.ofDigits false whole fraction 0)) r
      else wholeOrFloat? whole fraction pointed rest
    | [] => wholeOrFloat? whole fraction pointed rest

/-- A number at the head. -/
def numberAt? (s : List Char) : Option (Token × List Char) :=
  match s with
  | '0' :: c :: r =>
    if c = 'x' || c = 'X' then based? 16 (fun c => (Text.hexValue? c).isSome) r
    else if c = 'o' || c = 'O' then based? 8 (fun c => '0' ≤ c && c ≤ '7') r
    else if c = 'b' || c = 'B' then based? 2 (fun c => c == '0' || c == '1') r
    else (digitRun? isAsciiDigit s).bind fun (whole, rest) => decimalTail? whole rest
  | s => (digitRun? isAsciiDigit s).bind fun (whole, rest) => decimalTail? whole rest

/-! ### The token at the head of a text -/

/-- The bracket that closes one. -/
def closer? : String → Option String
  | "(" => some ")"
  | "[" => some "]"
  | "\x7b" => some "\x7d"
  | _ => none

/-- Whether a sign closes brackets. -/
def isCloser (sign : String) : Bool := sign == ")" || sign == "]" || sign == "\x7d"

/-- A sign at the head. -/
def markAt? (s : List Char) : Option (Token × List Char) :=
  marks.findSome? fun sign => (dropLead? sign.toList s).map fun rest => (.mark sign, rest)

/-- A word at the head, or a quoted literal if the word is the letters of one. -/
def wordAt? (s : List Char) : Option (Token × List Char) :=
  let word := s.takeWhile mayContinueName
  let rest := s.dropWhile mayContinueName
  match rest.head?, Letters.ofPrefix? word with
  | some '"', some letters | some '\'', some letters =>
    (quotedBodyAt? rest).map fun (body, rest) => (.quoted ⟨letters, body⟩, rest)
  | _, _ => (wordToken? word).map fun t => (t, rest)

/-- The token at the head, which is no blank. -/
def tokenAt? (s : List Char) : Option (Token × List Char) :=
  match s with
  | [] => none
  | c :: r =>
    if mayStartName c then wordAt? s
    else if isAsciiDigit c then numberAt? s
    else if c = '.' && (r.head?.map isAsciiDigit).getD false then decimalTail? [] s
    else if c = '"' || c = '\'' then
      (quotedBodyAt? s).map fun (body, rest) => (.quoted ⟨{}, body⟩, rest)
    else markAt? s

/-! ### All tokens -/

/-- Blanks between tokens. -/
def isGap (c : Char) : Bool := c == ' ' || c == '\t' || c == '\x0c'

/-- The column behind the blanks at the head of a line, and the rest of the line. Where lines are
joined by a back slash, the first column above zero counts, which `held` keeps. -/
def indentation (held column : Nat) : List Char → Nat × List Char
  | [] => (if held = 0 then column else held, [])
  | '\\' :: '\n' :: s => indentation (if held = 0 then column else held) column s
  | c :: s =>
    if c = ' ' then indentation held (column + 1) s
    else if c = '\t' then indentation held ((column / 8 + 1) * 8) s
    else if c = '\x0c' then indentation held 0 s
    else (if held = 0 then column else held, c :: s)

/-- The rest of a text behind the current line, from its line break on. -/
def skipRemark (s : List Char) : List Char := s.dropWhile (· ≠ '\n')

/-- The most brackets that may be open at once. -/
def bracketLimit : Nat := 200

/-- The tokens of a text. `opened` holds the brackets that must still be closed, and `fresh` says
that a line begins here; `fuel` bounds the steps. -/
def tokensFrom? : Nat → List String → Bool → List Char → Option (List Token)
  | 0, _, _, _ => none
  | fuel + 1, opened, fresh, s =>
    if fresh then
      let (column, s) := indentation 0 0 s
      match s with
      | [] => some []
      | '\n' :: s => tokensFrom? fuel opened true s
      | '#' :: s => tokensFrom? fuel opened true (skipRemark s |>.drop 1)
      | s => if column > 0 then none else tokensFrom? fuel opened false s
    else
      match s with
      | [] => if opened.isEmpty then some [] else none
      | c :: r =>
        if isGap c then tokensFrom? fuel opened false r
        else if c = '#' then tokensFrom? fuel opened false (skipRemark r)
        else if c = '\n' then
          if opened.isEmpty then (tokensFrom? fuel opened true r).map (.lineEnd :: ·)
          else tokensFrom? fuel opened false r
        else if c = '\\' then
          match r with
          | '\n' :: r => if r.isEmpty then none else tokensFrom? fuel opened false r
          | _ => none
        else
          match tokenAt? s with
          | none => none
          | some (.mark sign, rest) =>
            match closer? sign, opened with
            | some close, opened =>
              if opened.length ≥ bracketLimit then none
              else (tokensFrom? fuel (close :: opened) false rest).map (.mark sign :: ·)
            | none, close :: opened =>
              if isCloser sign then
                if sign = close then (tokensFrom? fuel opened false rest).map (.mark sign :: ·)
                else none
              else (tokensFrom? fuel (close :: opened) false rest).map (.mark sign :: ·)
            | none, [] =>
              if isCloser sign then none
              else (tokensFrom? fuel [] false rest).map (.mark sign :: ·)
          | some (t, rest) => (tokensFrom? fuel opened false rest).map (t :: ·)

/-- The text with every line break as one line feed. -/
def unifyLineBreaks : List Char → List Char
  | [] => []
  | '\r' :: '\n' :: s => '\n' :: unifyLineBreaks s
  | '\r' :: s => '\n' :: unifyLineBreaks s
  | c :: s => c :: unifyLineBreaks s

/-- The tokens of a condition; a null character has no place in one. -/
def tokens? (s : List Char) : Option (List Token) :=
  if s.contains '\x00' then none
  else
    let s := unifyLineBreaks s
    tokensFrom? (2 * s.length + 2) [] true s

end StoryState.Condition
