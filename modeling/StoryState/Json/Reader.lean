import StoryState.Text.Basic
import StoryState.Value.Basic

/-!
JSON documents read to values. What cannot be read is reported by its cause and by the text that is
left there, from which the line, the column and the offset in characters follow.
-/

namespace StoryState.Json

open StoryState.Text (hexValue? isAsciiDigit)

/-- Why a document is refused. -/
inductive Cause where
  | value
  | propertyName
  | colon
  | comma
  | unterminated
  | control
  | escape
  | unicodeEscape
  | extra
  | byteOrderMark
deriving Repr, DecidableEq

/-- The wording of a cause. -/
def Cause.message : Cause → String
  | .value => "Expecting value"
  | .propertyName => "Expecting property name enclosed in double quotes"
  | .colon => "Expecting ':' delimiter"
  | .comma => "Expecting ',' delimiter"
  | .unterminated => "Unterminated string starting at"
  | .control => "Invalid control character at"
  | .escape => "Invalid \\escape"
  | .unicodeEscape => "Invalid \\uXXXX escape"
  | .extra => "Extra data"
  | .byteOrderMark => "Unexpected UTF-8 BOM (decode using utf-8-sig)"

/-- What stops a reader: a cause and the text that is left there, or a numeral that is too long. -/
inductive Stop where
  | cause (why : Cause) (rest : List Char)
  | numeral (digits : Nat)

/-- A reader gives what it read and the rest of the text. -/
abbrev Reader (α : Type) := List Char → Except Stop (α × List Char)

/-- The four characters that may stand between tokens. -/
def isSpace (c : Char) : Bool := c == ' ' || c == '\t' || c == '\n' || c == '\r'

/-- The text after the white space at its head. -/
def skipSpace (s : List Char) : List Char := s.dropWhile isSpace

/-! ### Texts -/

/-- The number that four hexadecimal digits denote. -/
def hex4? : List Char → Option Nat
  | [a, b, c, d] => do
    return (← hexValue? a) * 4096 + (← hexValue? b) * 256 + (← hexValue? c) * 16 + (← hexValue? d)
  | _ => none

/-- The character of a one-letter escape. -/
def escaped? : Char → Option Char
  | '"' => some '"'
  | '\\' => some '\\'
  | '/' => some '/'
  | 'b' => some '\x08'
  | 'f' => some '\x0c'
  | 'n' => some '\n'
  | 'r' => some '\r'
  | 't' => some '\t'
  | _ => none

/-- The character of a code unit; half of a surrogate pair has none and gives the replacement
character. -/
def unitChar (n : Nat) : Char := if 0xd800 ≤ n && n < 0xe000 then '\ufffd' else Char.ofNat n

/-- The low half of a surrogate pair, written as an escape at the head of the text, which must go
on behind it. -/
def lowSurrogate? (s : List Char) : Except Stop (Option (Nat × List Char)) :=
  match s with
  | '\\' :: 'u' :: r =>
    if r.length ≤ 4 then .ok none
    else
      match hex4? (r.take 4) with
      | none => .error (.cause .unicodeEscape (s.drop 1))
      | some n => .ok (if 0xdc00 ≤ n && n < 0xe000 then some (n, r.drop 4) else none)
  | _ => .ok none

/-- Reads an escape from behind its `\u`; `start` is the text from the back slash on. -/
def readUnicodeEscape (start s : List Char) : Except Stop (Char × List Char) :=
  if s.length ≤ 4 then .error (.cause .unicodeEscape (start.drop 1))
  else
    match hex4? (s.take 4) with
    | none => .error (.cause .unicodeEscape (start.drop 1))
    | some n =>
      let rest := s.drop 4
      if 0xd800 ≤ n && n < 0xdc00 then
        match lowSurrogate? rest with
        | .error e => .error e
        | .ok (some (m, rest)) =>
          .ok (Char.ofNat (0x10000 + (n - 0xd800) * 1024 + (m - 0xdc00)), rest)
        | .ok none => .ok (unitChar n, rest)
      else .ok (unitChar n, rest)

/-- Reads a text from behind its opening quote, at which `start` begins. -/
def readText (start : List Char) : Nat → List Char → Except Stop (List Char × List Char)
  | 0, _ => .error (.cause .unterminated start)
  | fuel + 1, s =>
    match s with
    | [] => .error (.cause .unterminated start)
    | '"' :: r => .ok ([], r)
    | '\\' :: r =>
      match r with
      | [] => .error (.cause .unterminated start)
      | 'u' :: r' => do
        let (c, rest) ← readUnicodeEscape s r'
        let (cs, rest) ← readText start fuel rest
        return (c :: cs, rest)
      | c :: r' =>
        match escaped? c with
        | none => .error (.cause .escape s)
        | some c => do
          let (cs, rest) ← readText start fuel r'
          return (c :: cs, rest)
    | c :: r =>
      if c.toNat < 32 then .error (.cause .control s)
      else do
        let (cs, rest) ← readText start fuel r
        return (c :: cs, rest)

/-- Reads a text whose opening quote is at the head. -/
def quoted (s : List Char) : Except Stop (String × List Char) := do
  let (cs, rest) ← readText s s.length (s.drop 1)
  return (String.ofList cs, rest)

/-! ### Numbers -/

/-- The digits of the whole part: a zero alone, or digits that begin with another one. -/
def wholeDigits? (s : List Char) : Option (List Char × List Char) :=
  match s with
  | '0' :: r => some (['0'], r)
  | c :: _ => if isAsciiDigit c then some (s.takeWhile isAsciiDigit, s.dropWhile isAsciiDigit) else none
  | [] => none

/-- The digits of the fraction, if a point and a digit are at the head. -/
def fractionDigits (s : List Char) : List Char × List Char :=
  match s with
  | '.' :: c :: r =>
    if isAsciiDigit c then ((c :: r).takeWhile isAsciiDigit, (c :: r).dropWhile isAsciiDigit)
    else ([], s)
  | _ => ([], s)

/-- The power of ten, if a mark and digits are at the head. -/
def exponent? (s : List Char) : Option (Int × List Char) :=
  match s with
  | c :: r =>
    if c = 'e' || c = 'E' then
      let (negative, r) := Number.takeSign r
      let digits := r.takeWhile isAsciiDigit
      if digits = [] then none else some (Number.signed negative digits, r.dropWhile isAsciiDigit)
    else none
  | [] => none

/-- Reads a number. -/
def number (s : List Char) : Except Stop (Value × List Char) :=
  let negative := s.head? = some '-'
  match wholeDigits? (if negative then s.drop 1 else s) with
  | none => .error (.cause .value s)
  | some (whole, rest) =>
    let (fraction, rest) := fractionDigits rest
    match exponent? rest with
    | some (e, rest) => .ok (.float (Number.ofDigits negative whole fraction e), rest)
    | none =>
      if fraction ≠ [] then .ok (.float (Number.ofDigits negative whole fraction 0), rest)
      else if Number.digitLimit < whole.length then .error (.numeral whole.length)
      else .ok (.int (Number.signed negative whole), rest)

/-! ### Values -/

/-- The words that stand for values. -/
def words : List (List Char × Value) :=
  [("null".toList, .null), ("true".toList, .bool true), ("false".toList, .bool false),
    ("NaN".toList, .float Number.notANumber), ("Infinity".toList, .float (Number.infinity false)),
    ("-Infinity".toList, .float (Number.infinity true))]

/-- Reads a word or a number. -/
def scalar (s : List Char) : Except Stop (Value × List Char) :=
  match words.findSome? fun (word, v) => (Text.dropLead? word s).map (v, ·) with
  | some found => .ok found
  | none => number s

mutual

/-- Reads a value; `fuel` bounds the calls. -/
def value : Nat → List Char → Except Stop (Value × List Char)
  | 0, s => .error (.cause .value s)
  | fuel + 1, s =>
    match s with
    | '"' :: _ => do
      let (t, rest) ← quoted s
      return (.text t, rest)
    | '[' :: r =>
      match skipSpace r with
      | ']' :: rest => .ok (.list [], rest)
      | r => do
        let (vs, rest) ← items fuel r
        return (.list vs, rest)
    | '\x7b' :: r =>
      match skipSpace r with
      | '\x7d' :: rest => .ok (.object [], rest)
      | r => do
        let (fs, rest) ← fields fuel r
        return (.object (Entries.ofList fs), rest)
    | s => scalar s

/-- Reads items up to the closing bracket. -/
def items : Nat → List Char → Except Stop (List Value × List Char)
  | 0, s => .error (.cause .value s)
  | fuel + 1, s => do
    let (v, rest) ← value fuel s
    match skipSpace rest with
    | ']' :: rest => return ([v], rest)
    | ',' :: rest =>
      let (vs, rest) ← items fuel (skipSpace rest)
      return (v :: vs, rest)
    | rest => .error (.cause .comma rest)

/-- Reads fields up to the closing brace. -/
def fields : Nat → List Char → Except Stop (List (String × Value) × List Char)
  | 0, s => .error (.cause .propertyName s)
  | fuel + 1, s =>
    match s with
    | '"' :: _ => do
      let (k, rest) ← quoted s
      match skipSpace rest with
      | ':' :: rest =>
        let (v, rest) ← value fuel (skipSpace rest)
        match skipSpace rest with
        | '\x7d' :: rest => return ([(k, v)], rest)
        | ',' :: rest =>
          let (fs, rest) ← fields fuel (skipSpace rest)
          return ((k, v) :: fs, rest)
        | rest => .error (.cause .comma rest)
      | rest => .error (.cause .colon rest)
    | s => .error (.cause .propertyName s)

end

/-- Reads a document: one value and nothing else. -/
def document (s : List Char) : Except Stop Value :=
  match s with
  | '\ufeff' :: _ => .error (.cause .byteOrderMark s)
  | s =>
    match value (s.length + 1) (skipSpace s) with
    | .error e => .error e
    | .ok (v, rest) =>
      match skipSpace rest with
      | [] => .ok v
      | rest => .error (.cause .extra rest)

/-- The place of a stop in a document, as a message shows it. -/
def place (s rest : List Char) : String :=
  let before := s.take (s.length - rest.length)
  let line := before.count '\n' + 1
  let column := (before.reverse.takeWhile (· ≠ '\n')).length + 1
  "line " ++ toString line ++ " column " ++ toString column ++ " (char " ++
    toString before.length ++ ")"

/-- The fault of a stop in a document. -/
def Stop.fault (s : List Char) : Stop → Fault
  | .cause why rest => .notJson (why.message ++ ": " ++ place s rest)
  | .numeral digits => .numeralTooLong digits

/-- The value of a document. -/
def read (s : String) : Except Fault Value :=
  (document s.toList).mapError (Stop.fault s.toList)

end StoryState.Json
