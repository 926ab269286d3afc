import StoryState.Condition.Literal

/-!
Interpolated literals. A condition may not hold one, but whether it is well formed decides how the
condition is refused; so the expressions inside are found here, and the parser reads them.
-/

namespace StoryState.Condition

/-- Where an expression inside braces ends: the expression and the text from its end mark on.
`quote` is the kind of literal in which the place lies, if any, with the number of its quote marks,
and `opened` are the brackets to be closed. -/
def insideBraces? : Nat → Option (Char × Nat) → List Char → List Char →
    Option (List Char × List Char)
  | 0, _, _, _ => none
  | _ + 1, _, _, [] => none
  | fuel + 1, quote, opened, c :: s =>
    let go (quote : Option (Char × Nat)) (opened taken rest : List Char) :=
      (insideBraces? fuel quote opened rest).map fun (e, rest) => (taken ++ e, rest)
    if c = '\\' then none
    else
      match quote with
      | some (q, 3) =>
        match if c = q then Text.dropLead? [q, q] s else none with
        | some rest => go none opened [q, q, q] rest
        | none => go quote opened [c] s
      | some (q, _) => go (if c = q then none else quote) opened [c] s
      | none =>
        if c = '"' || c = '\'' then
          match Text.dropLead? [c, c] s with
          | some rest => go (some (c, 3)) opened [c, c, c] rest
          | none => go (some (c, 1)) opened [c] s
        else if c = '(' then go none (')' :: opened) [c] s
        else if c = '[' then go none (']' :: opened) [c] s
        else if c = '\x7b' then go none ('\x7d' :: opened) [c] s
        else if c = '#' then none
        else
          match opened with
          | close :: opened =>
            if c = ')' || c = ']' || c = '\x7d' then
              if c = close then go none opened [c] s else none
            else go none (close :: opened) [c] s
          | [] =>
            if (c = '!' || c = '=' || c = '<' || c = '>') && s.head? = some '=' then
              go none [] [c, '='] (s.drop 1)
            else if c = '<' || c = '>' then go none [] [c] s
            else if c = '!' || c = ':' || c = '\x7d' || c = '=' then some ([], c :: s)
            else if c = ')' || c = ']' then none
            else go none [] [c] s

/-- Whether a text is blank, which an expression may not be. -/
def isEmptyExpression (s : List Char) : Bool :=
  s.all fun c => c == ' ' || c == '\t' || c == '\n' || c == '\x0c' || c == '\r'

/-- The letters between expressions, and the text from the next brace on; doubled braces are letters
outside of format parts. A back slash in front of a brace stands for itself. -/
def lettersOf (raw nested : Bool) : Nat → List Char → Option (List Char × List Char)
  | 0, _ => none
  | _ + 1, [] => some ([], [])
  | fuel + 1, c :: s =>
    let go (taken rest : List Char) := (lettersOf raw nested fuel rest).map fun (l, r) => (taken ++ l, r)
    if c = '\\' && !raw then
      match s with
      | [] => some ([c, c], [])
      | d :: r => if d = '\x7b' || d = '\x7d' then go [c, c] s else go [c, d] r
    else if c = '\x7b' || c = '\x7d' then
      if !nested && s.head? = some c then go [c] (s.drop 1)
      else if c = '\x7d' && !nested then none
      else some ([], c :: s)
    else go [c] s

/-- The expressions of an interpolated body from a place on, and what is left; `level` counts the
format parts around it. -/
def expressionsFrom? (raw : Bool) : Nat → Nat → List Char → Option (List (List Char) × List Char)
  | 0, _, _ => none
  | fuel + 1, level, s => do
    let (letters, rest) ← lettersOf raw (level > 0) (s.length + 1) s
    if !raw then
      let _ ← unescape? false letters.length letters
    match rest with
    | '\x7b' :: r =>
      if level ≥ 2 then none
      else
        let (e, r) ← insideBraces? (r.length + 1) none [] r
        if isEmptyExpression e then none
        else
          let r := if r.head? = some '=' then r.drop 1 else r
          let r := if r.head? = some '!' || r.head? = some ':' then r else r.dropWhile (· = ' ')
          let r ←
            match r with
            | '!' :: c :: r => if c = 's' || c = 'r' || c = 'a' then some r else none
            | r => some r
          let (inner, r) ←
            match r with
            | ':' :: r => expressionsFrom? raw fuel (level + 1) r
            | r => some ([], r)
          match r with
          | '\x7d' :: r =>
            let (more, r) ← expressionsFrom? raw fuel level r
            return (e :: inner ++ more, r)
          | _ => none
    | rest => return ([], rest)

/-- The expressions of an interpolated literal. -/
def QuotedLiteral.expressions? (q : QuotedLiteral) : Option (List (List Char)) := do
  let (es, rest) ← expressionsFrom? q.letters.raw (q.body.length + 1) 0 q.body
  if rest.isEmpty then return es else none

end StoryState.Condition
