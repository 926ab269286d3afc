import StoryState.Condition.Syntax
import StoryState.Json.Reader

/-!
Quoted literals of conditions: their letters, their escapes, and the joining of neighbours.
-/

namespace StoryState.Condition

open StoryState.Text (hexValue?)

/-- The letters in front of a quoted literal. -/
structure Letters where
  bytes : Bool := false
  raw : Bool := false
  interpolated : Bool := false
deriving DecidableEq, Repr

/-- A quoted literal: its letters and what stands between its quotes. -/
structure QuotedLiteral where
  letters : Letters
  body : List Char

/-- The letters in lower case as marks, if they may stand in front of a quote. -/
def Letters.ofPrefix? (word : List Char) : Option Letters :=
  match word.map Char.toLower with
  | [] | ['u'] => some {}
  | ['b'] => some { bytes := true }
  | ['r'] => some { raw := true }
  | ['f'] => some { interpolated := true }
  | ['b', 'r'] | ['r', 'b'] => some { bytes := true, raw := true }
  | ['f', 'r'] | ['r', 'f'] => some { interpolated := true, raw := true }
  | _ => none

/-! ### Escapes -/

/-- A number of exactly so many hexadecimal digits, and the rest. -/
def hexNumber? : Nat → Nat → List Char → Option (Nat × List Char)
  | 0, acc, s => some (acc, s)
  | _ + 1, _, [] => none
  | count + 1, acc, c :: s => (hexValue? c).bind fun d => hexNumber? count (16 * acc + d) s

/-- Up to so many octal digits, and the rest. -/
def octalNumber : Nat → Nat → List Char → Nat × List Char
  | 0, acc, s => (acc, s)
  | _ + 1, acc, [] => (acc, [])
  | count + 1, acc, c :: s =>
    if '0' ≤ c && c ≤ '7' then octalNumber count (8 * acc + (c.toNat - 48)) s else (acc, c :: s)

/-- The character of an escape with one letter. -/
def simpleEscape? : Char → Option Nat
  | '\\' => some 92
  | '\'' => some 39
  | '"' => some 34
  | 'a' => some 7
  | 'b' => some 8
  | 'f' => some 12
  | 'n' => some 10
  | 'r' => some 13
  | 't' => some 9
  | 'v' => some 11
  | _ => none

/-- What an escape stands for, from behind its back slash: code points, and the rest. An unknown
escape stands for itself with its back slash. -/
def escape? (bytes : Bool) (s : List Char) : Option (List Nat × List Char) :=
  match s with
  | [] => none
  | '\n' :: s => some ([], s)
  | 'x' :: s => (hexNumber? 2 0 s).map fun (n, s) => ([n], s)
  | c :: r =>
    match simpleEscape? c with
    | some n => some ([n], r)
    | none =>
      if '0' ≤ c && c ≤ '7' then
        let (n, rest) := octalNumber 3 0 s
        some ([if bytes then n % 256 else n], rest)
      else if bytes then some ([92, c.toNat], r)
      else
        match c with
        | 'u' => (hexNumber? 4 0 r).map fun (n, s) => ([n], s)
        | 'U' => (hexNumber? 8 0 r).bind fun (n, s) => if n < 0x110000 then some ([n], s) else none
        | 'N' => none
        | c => some ([92, c.toNat], r)

/-- The code points of a body with escapes; `fuel` bounds the steps. -/
def unescape? (bytes : Bool) : Nat → List Char → Option (List Nat)
  | _, [] => some []
  | 0, _ => none
  | fuel + 1, c :: s =>
    if c = '\\' then
      (escape? bytes s).bind fun (ns, s) => (unescape? bytes fuel s).map (ns ++ ·)
    else (unescape? bytes fuel s).map (c.toNat :: ·)

/-- The code points of a literal; one of bytes holds ASCII characters only. -/
def QuotedLiteral.codePoints? (q : QuotedLiteral) : Option (List Nat) :=
  if q.letters.bytes && q.body.any (·.toNat ≥ 128) then none
  else if q.letters.raw then some (q.body.map Char.toNat)
  else unescape? q.letters.bytes q.body.length q.body

/-- The text of code points. -/
def textOf (ns : List Nat) : String := String.ofList (ns.map Json.unitChar)

/-- The constant of neighbouring literals, none of which is interpolated: all of texts, or all of
bytes. -/
def joinLiterals? (qs : List QuotedLiteral) : Option Constant :=
  let anyBytes := qs.any (·.letters.bytes)
  if anyBytes && !(qs.all (·.letters.bytes)) then none
  else do
    let parts ← qs.mapM QuotedLiteral.codePoints?
    return if anyBytes then .bytes parts.flatten else .text (textOf parts.flatten)

end StoryState.Condition
