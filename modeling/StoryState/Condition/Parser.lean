import StoryState.Condition.Interpolation
import StoryState.Condition.Token

/-!
Conditions read to expressions. Operators bind, from weakest to tightest: `or`, `and`, `not`,
comparisons, the bitwise operators, shifts, sums, products, signs, powers. A form that no condition
may hold is read as well, so that it can be told from an error of syntax.
-/

namespace StoryState.Condition

/-- What a parser reads and the tokens behind it. -/
abbrev Parsed := Option (Expr × List Token)

/-- The tokens behind a sign. -/
def sign? (sign : String) : List Token → Option (List Token)
  | .mark s :: ts => if s = sign then some ts else none
  | _ => none

/-- The tokens behind a keyword. -/
def word? (word : String) : List Token → Option (List Token)
  | .keyword w :: ts => if w = word then some ts else none
  | _ => none

/-- The comparison at the head. -/
def comparison? : List Token → Option (CompareOp × List Token)
  | .mark "==" :: ts => some (.eq, ts)
  | .mark "!=" :: ts => some (.notEq, ts)
  | .mark "<" :: ts => some (.lt, ts)
  | .mark "<=" :: ts => some (.ltE, ts)
  | .mark ">" :: ts => some (.gt, ts)
  | .mark ">=" :: ts => some (.gtE, ts)
  | .keyword "is" :: .keyword "not" :: ts => some (.isNot, ts)
  | .keyword "is" :: ts => some (.is, ts)
  | .keyword "in" :: ts => some (.in, ts)
  | .keyword "not" :: .keyword "in" :: ts => some (.notIn, ts)
  | _ => none

/-- The infix operators by how tightly they bind, the weakest first. -/
def binaryLevels : List (List (String × BinaryOp)) :=
  [[("|", .bitOr)], [("^", .bitXor)], [("&", .bitAnd)], [("<<", .leftShift), (">>", .rightShift)],
    [("+", .add), ("-", .sub)],
    [("*", .mult), ("/", .div), ("//", .floorDiv), ("%", .mod), ("@", .matMult)]]

/-- The infix operator at the head, if it is one of those given. -/
def binaryOp? (ops : List (String × BinaryOp)) : List Token → Option (BinaryOp × List Token)
  | .mark s :: ts => (ops.lookup s).map fun op => (op, ts)
  | _ => none

/-- The prefix sign at the head. -/
def unarySign? : List Token → Option (UnaryOp × List Token)
  | .mark "-" :: ts => some (.minus, ts)
  | .mark "+" :: ts => some (.plus, ts)
  | .mark "~" :: ts => some (.invert, ts)
  | _ => none

mutual

/-- Whether values may be bound to an expression. -/
def Expr.isTarget : Expr → Bool
  | .name _ => true
  | .other node => node == "Attribute" || node == "Subscript"
  | .tuple items | .list items => allTargets items
  | _ => false

/-- Whether values may be bound to expressions, some of them starred. -/
def allTargets : List Expr → Bool
  | [] => true
  | .starred inner :: es => inner.isTarget && allTargets es
  | e :: es => e.isTarget && allTargets es

end

/-- The neighbouring literals at the head. -/
def literalsAt : List Token → List QuotedLiteral × List Token
  | .quoted q :: ts =>
    let (qs, rest) := literalsAt ts
    (q :: qs, rest)
  | ts => ([], ts)

/-- Where a parameter list stands: whether a default, a slash and a star have been seen, and whether a
bare star still waits for a name. -/
structure ParameterState where
  any : Bool := false
  defaulted : Bool := false
  slash : Bool := false
  star : Bool := false
  waiting : Bool := false

/-- Which arguments may still follow in a call. -/
inductive ArgumentState where
  | positional
  | named
  | unpacked
deriving DecidableEq

mutual

/-- An expression: alternatives, perhaps chosen by a condition, or a function. -/
def expression : Nat → List Token → Parsed
  | 0, _ => none
  | fuel + 1, ts =>
    match word? "lambda" ts with
    | some ts => parameters fuel {} ts
    | none => do
      let (e, rest) ← disjunction fuel ts
      let chosen := do
        let (_, rest) ← disjunction fuel (← word? "if" rest)
        let (_, rest) ← expression fuel (← word? "else" rest)
        some (Expr.other "IfExp", rest)
      return chosen.getD (e, rest)

/-- Alternatives joined by `or`. -/
def disjunction : Nat → List Token → Parsed
  | 0, _ => none
  | fuel + 1, ts => do
    let (e, rest) ← conjunction fuel ts
    let (es, rest) ← moreAlternatives fuel rest
    return (if es.isEmpty then e else .boolean .or (e :: es), rest)

/-- The alternatives behind the first one. -/
def moreAlternatives : Nat → List Token → Option (List Expr × List Token)
  | 0, _ => none
  | fuel + 1, ts =>
    match word? "or" ts with
    | none => some ([], ts)
    | some ts => do
      let (e, rest) ← conjunction fuel ts
      let (es, rest) ← moreAlternatives fuel rest
      return (e :: es, rest)

/-- Demands joined by `and`. -/
def conjunction : Nat → List Token → Parsed
  | 0, _ => none
  | fuel + 1, ts => do
    let (e, rest) ← inversion fuel ts
    let (es, rest) ← moreDemands fuel rest
    return (if es.isEmpty then e else .boolean .and (e :: es), rest)

/-- The demands behind the first one. -/
def moreDemands : Nat → List Token → Option (List Expr × List Token)
  | 0, _ => none
  | fuel + 1, ts =>
    match word? "and" ts with
    | none => some ([], ts)
    | some ts => do
      let (e, rest) ← inversion fuel ts
      let (es, rest) ← moreDemands fuel rest
      return (e :: es, rest)

/-- A comparison behind any number of `not`. -/
def inversion : Nat → List Token → Parsed
  | 0, _ => none
  | fuel + 1, ts =>
    match word? "not" ts with
    | some ts => (inversion fuel ts).map fun (e, rest) => (.unary .not e, rest)
    | none => do
      let (e, rest) ← binary fuel binaryLevels ts
      let (es, rest) ← moreCompared fuel rest
      return (if es.isEmpty then e else .compare e es, rest)

/-- The operands that are compared with the first one. -/
def moreCompared : Nat → List Token → Option (List (CompareOp × Expr) × List Token)
  | 0, _ => none
  | fuel + 1, ts =>
    match comparison? ts with
    | none => some ([], ts)
    | some (op, ts) => do
      let (e, rest) ← binary fuel binaryLevels ts
      let (es, rest) ← moreCompared fuel rest
      return ((op, e) :: es, rest)

/-- Operands joined by the infix operators of the given levels. -/
def binary : Nat → List (List (String × BinaryOp)) → List Token → Parsed
  | 0, _, _ => none
  | fuel + 1, [], ts => factor fuel ts
  | fuel + 1, ops :: tighter, ts => do
    let (e, rest) ← binary fuel tighter ts
    binaryTail fuel ops tighter e rest

/-- The operands behind the first one, joined to it from left to right. -/
def binaryTail : Nat → List (String × BinaryOp) → List (List (String × BinaryOp)) → Expr →
    List Token → Parsed
  | 0, _, _, _, _ => none
  | fuel + 1, ops, tighter, e, ts =>
    match binaryOp? ops ts with
    | none => some (e, ts)
    | some (op, ts) => do
      let (right, rest) ← binary fuel tighter ts
      binaryTail fuel ops tighter (.binary op e right) rest

/-- A power behind any number of signs. -/
def factor : Nat → List Token → Parsed
  | 0, _ => none
  | fuel + 1, ts =>
    match unarySign? ts with
    | some (op, ts) => (factor fuel ts).map fun (e, rest) => (.unary op e, rest)
    | none => do
      let (e, rest) ← awaited fuel ts
      match sign? "**" rest with
      | none => return (e, rest)
      | some rest =>
        let (right, rest) ← factor fuel rest
        return (.binary .pow e right, rest)

/-- A primary, perhaps awaited. -/
def awaited : Nat → List Token → Parsed
  | 0, _ => none
  | fuel + 1, ts =>
    match word? "await" ts with
    | some ts => (primary fuel ts).map fun (_, rest) => (.other "Await", rest)
    | none => primary fuel ts

/-- An atom with members, calls and subscripts. -/
def primary : Nat → List Token → Parsed
  | 0, _ => none
  | fuel + 1, ts => do
    let (e, rest) ← atom fuel ts
    trailers fuel e rest

/-- The members, calls and subscripts behind an expression. -/
def trailers : Nat → Expr → List Token → Parsed
  | 0, _, _ => none
  | fuel + 1, e, ts =>
    match ts with
    | .mark "." :: .name _ :: ts => trailers fuel (.other "Attribute") ts
    | .mark "." :: _ => none
    | .mark "(" :: ts => do trailers fuel (.other "Call") (← arguments fuel .positional true ts)
    | .mark "[" :: ts => do trailers fuel (.other "Subscript") (← subscripts fuel ts)
    | ts => some (e, ts)

/-- A name, a constant, or an expression in brackets. -/
def atom : Nat → List Token → Parsed
  | 0, _ => none
  | fuel + 1, ts =>
    match ts with
    | .name id :: ts => some (.name id, ts)
    | .number c :: ts => some (.constant c, ts)
    | .keyword "None" :: ts => some (.constant .none, ts)
    | .keyword "True" :: ts => some (.constant (.bool true), ts)
    | .keyword "False" :: ts => some (.constant (.bool false), ts)
    | .mark "..." :: ts => some (.constant .ellipsis, ts)
    | .quoted q :: ts =>
      let (qs, rest) := literalsAt (.quoted q :: ts)
      if qs.any (·.letters.interpolated) then
        if qs.any (·.letters.bytes) then none
        else (interpolated fuel qs).map fun _ => (.other "JoinedStr", rest)
      else (joinLiterals? qs).map fun c => (.constant c, rest)
    | .mark "(" :: ts => parenthesized fuel ts
    | .mark "[" :: ts =>
      match sign? "]" ts with
      | some ts => some (.list [], ts)
      | none => do
        let (e, rest) ← item fuel ts
        match clauses fuel rest with
        | some rest => if e matches .starred _ then none else return (.other "ListComp", ← sign? "]" rest)
        | none =>
          let (es, rest) ← moreItems fuel "]" rest
          return (.list (e :: es), rest)
    | .mark "\x7b" :: ts => (braced fuel ts).map fun (node, rest) => (.other node, rest)
    | _ => none

/-- Checks interpolated literals among neighbours. -/
def interpolated : Nat → List QuotedLiteral → Option Unit
  | 0, _ => none
  | _ + 1, [] => some ()
  | fuel + 1, q :: qs => do
    if q.letters.interpolated then
      (← q.expressions?).forM fun e => do
        let (_, rest) ← itemList fuel (← tokens? ('(' :: (e ++ [')'])))
        if rest.isEmpty then some () else none
    else
      let _ ← q.codePoints?
    interpolated fuel qs

/-- What stands in parentheses, from behind the opening one. -/
def parenthesized : Nat → List Token → Parsed
  | 0, _ => none
  | fuel + 1, ts =>
    match sign? ")" ts with
    | some ts => some (.tuple [], ts)
    | none =>
      match word? "yield" ts with
      | some ts => do
        let (node, rest) ← yielded fuel ts
        return (.other node, ← sign? ")" rest)
      | none => do
        let (e, rest) ← item fuel ts
        match clauses fuel rest with
        | some rest =>
          if e matches .starred _ then none else return (.other "GeneratorExp", ← sign? ")" rest)
        | none =>
          match sign? ")" rest with
          | some rest => if e matches .starred _ then none else return (e, rest)
          | none =>
            let (es, rest) ← moreItems fuel ")" rest
            return (.tuple (e :: es), rest)

/-- What is yielded, by the name of its node. -/
def yielded : Nat → List Token → Option (String × List Token)
  | 0, _ => none
  | fuel + 1, ts =>
    match word? "from" ts with
    | some ts => (expression fuel ts).map fun (_, rest) => ("YieldFrom", rest)
    | none =>
      match sign? ")" ts with
      | some _ => some ("Yield", ts)
      | none => (itemList fuel ts).map fun (_, rest) => ("Yield", rest)

/-- A list of expressions, some of them starred, without brackets. -/
def itemList : Nat → List Token → Parsed
  | 0, _ => none
  | fuel + 1, ts => do
    let (e, rest) ← starredOr fuel ts
    itemListTail fuel e rest

/-- The expressions behind the first one of a list without brackets. -/
def itemListTail : Nat → Expr → List Token → Parsed
  | 0, _, _ => none
  | fuel + 1, e, ts =>
    match sign? "," ts with
    | none => some (e, ts)
    | some ts =>
      match starredOr fuel ts with
      | none => some (.tuple [e], ts)
      | some (_, rest) => itemListTail fuel (.tuple [e]) rest

/-- An expression, or a starred one. -/
def starredOr : Nat → List Token → Parsed
  | 0, _ => none
  | fuel + 1, ts =>
    match sign? "*" ts with
    | some ts => (binary fuel binaryLevels ts).map fun (e, rest) => (.starred e, rest)
    | none => expression fuel ts

/-- An item in brackets: a starred expression, a bound name, or an expression. -/
def item : Nat → List Token → Parsed
  | 0, _ => none
  | fuel + 1, ts =>
    match sign? "*" ts with
    | some ts => (binary fuel binaryLevels ts).map fun (e, rest) => (.starred e, rest)
    | none => bound fuel ts

/-- An expression, perhaps bound to a name. -/
def bound : Nat → List Token → Parsed
  | 0, _ => none
  | fuel + 1, ts =>
    match ts with
    | .name _ :: .mark ":=" :: ts =>
      (expression fuel ts).map fun (_, rest) => (.other "NamedExpr", rest)
    | ts => do
      let (e, rest) ← expression fuel ts
      match sign? ":=" rest with
      | some _ => none
      | none => return (e, rest)

/-- The items behind the first one, up to the closing bracket. -/
def moreItems : Nat → String → List Token → Option (List Expr × List Token)
  | 0, _, _ => none
  | fuel + 1, close, ts =>
    match sign? close ts with
    | some ts => some ([], ts)
    | none => do
      let ts ← sign? "," ts
      match sign? close ts with
      | some ts => return ([], ts)
      | none =>
        let (e, rest) ← item fuel ts
        let (es, rest) ← moreItems fuel close rest
        return (e :: es, rest)

/-- What stands in braces, by the name of its node, from behind the opening one. -/
def braced : Nat → List Token → Option (String × List Token)
  | 0, _ => none
  | fuel + 1, ts =>
    match sign? "\x7d" ts with
    | some ts => some ("Dict", ts)
    | none =>
      match sign? "**" ts with
      | some ts => do
        let (_, rest) ← binary fuel binaryLevels ts
        return ("Dict", ← morePairs fuel rest)
      | none => do
        let (e, rest) ← item fuel ts
        match sign? ":" rest with
        | some rest =>
          if (e matches .starred _) || (ts.drop 1).head? matches some (.mark ":=") then none
          else
            let (_, rest) ← expression fuel rest
            match clauses fuel rest with
            | some rest => return ("DictComp", ← sign? "\x7d" rest)
            | none => return ("Dict", ← morePairs fuel rest)
        | none =>
          match clauses fuel rest with
          | some rest =>
            if e matches .starred _ then none else return ("SetComp", ← sign? "\x7d" rest)
          | none => (moreItems fuel "\x7d" rest).map fun (_, rest) => ("Set", rest)

/-- The pairs behind the first one, up to the closing brace. -/
def morePairs : Nat → List Token → Option (List Token)
  | 0, _ => none
  | fuel + 1, ts =>
    match sign? "\x7d" ts with
    | some ts => some ts
    | none => do
      let ts ← sign? "," ts
      match sign? "\x7d" ts with
      | some ts => some ts
      | none =>
        match sign? "**" ts with
        | some ts => do
          let (_, rest) ← binary fuel binaryLevels ts
          morePairs fuel rest
        | none => do
          let (_, rest) ← expression fuel ts
          let (_, rest) ← expression fuel (← sign? ":" rest)
          morePairs fuel rest

/-- One or more clauses of a comprehension. -/
def clauses : Nat → List Token → Option (List Token)
  | 0, _ => none
  | fuel + 1, ts => do
    let ts ← word? "for" ((word? "async" ts).getD ts)
    let (_, rest) ← target fuel ts
    let (_, rest) ← disjunction fuel (← word? "in" rest)
    let rest ← filters fuel rest
    if (word? "for" rest).isSome || (word? "async" rest).isSome then clauses fuel rest
    else some rest

/-- The conditions of a clause. -/
def filters : Nat → List Token → Option (List Token)
  | 0, _ => none
  | fuel + 1, ts =>
    match word? "if" ts with
    | none => some ts
    | some ts => do
      let (_, rest) ← disjunction fuel ts
      filters fuel rest

/-- The targets of a clause. -/
def target : Nat → List Token → Parsed
  | 0, _ => none
  | fuel + 1, ts => do
    let (e, rest) ← primary fuel ((sign? "*" ts).getD ts)
    if !e.isTarget then none
    else
      match sign? "," rest with
      | none => return (e, rest)
      | some rest => if (word? "in" rest).isSome then return (e, rest) else target fuel rest

/-- The arguments of a call, up to and with the closing parenthesis; `first` says that none has come
yet. -/
def arguments : Nat → ArgumentState → Bool → List Token → Option (List Token)
  | 0, _, _, _ => none
  | fuel + 1, state, first, ts =>
    match sign? ")" ts with
    | some ts => some ts
    | none =>
      match ts with
      | .name _ :: .mark "=" :: ts => do
        let (_, rest) ← expression fuel ts
        moreArguments fuel (if state = .unpacked then .unpacked else .named) rest
      | .mark "**" :: ts => do
        let (_, rest) ← expression fuel ts
        moreArguments fuel .unpacked rest
      | .mark "*" :: ts => do
        if state = .unpacked then none
        else
          let (_, rest) ← expression fuel ts
          moreArguments fuel state rest
      | ts => do
        if state ≠ .positional then none
        else
          let (_, rest) ← bound fuel ts
          match clauses fuel rest with
          | some rest => if first then sign? ")" rest else none
          | none => if (sign? "=" rest).isSome then none else moreArguments fuel state rest

/-- What follows an argument. -/
def moreArguments : Nat → ArgumentState → List Token → Option (List Token)
  | 0, _, _ => none
  | fuel + 1, state, ts =>
    match sign? ")" ts with
    | some ts => some ts
    | none => do arguments fuel state false (← sign? "," ts)

/-- The subscripts up to and with the closing bracket. -/
def subscripts : Nat → List Token → Option (List Token)
  | 0, _ => none
  | fuel + 1, ts => do
    let rest ← subscript fuel ts
    match sign? "]" rest with
    | some rest => return rest
    | none =>
      let rest ← sign? "," rest
      match sign? "]" rest with
      | some rest => return rest
      | none => subscripts fuel rest

/-- One subscript: an expression, a starred one, or a slice. -/
def subscript : Nat → List Token → Option (List Token)
  | 0, _ => none
  | fuel + 1, ts =>
    match sign? "*" ts with
    | some ts => (expression fuel ts).map (·.2)
    | none => do
      let rest ←
        match sign? ":" ts with
        | some _ => some ts
        | none => (bound fuel ts).map (·.2)
      match sign? ":" rest with
      | none => return rest
      | some rest =>
        if (ts.drop 1).head? matches some (.mark ":=") then none
        else
          let rest := ((expression fuel rest).map (·.2)).getD rest
          match sign? ":" rest with
          | none => return rest
          | some rest => return ((expression fuel rest).map (·.2)).getD rest

/-- The parameters and the body of a function. -/
def parameters : Nat → ParameterState → List Token → Parsed
  | 0, _, _ => none
  | fuel + 1, st, ts =>
    match ts with
    | .mark ":" :: ts =>
      if st.waiting then none else (expression fuel ts).map fun (_, rest) => (.other "Lambda", rest)
    | .name _ :: .mark "=" :: ts => do
      let (_, rest) ← expression fuel ts
      moreParameters fuel { st with any := true, defaulted := st.defaulted || !st.star, waiting := false } rest
    | .name _ :: ts =>
      if st.defaulted && !st.star then none
      else moreParameters fuel { st with any := true, waiting := false } ts
    | .mark "/" :: ts =>
      if !st.any || st.slash || st.star then none else moreParameters fuel { st with slash := true } ts
    | .mark "*" :: .name _ :: ts =>
      if st.star then none else moreParameters fuel { st with star := true } ts
    | .mark "*" :: .mark "," :: ts =>
      if st.star then none else parameters fuel { st with star := true, waiting := true } ts
    | .mark "**" :: .name _ :: ts =>
      if st.waiting then none
      else do
        let ts ← sign? ":" ((sign? "," ts).getD ts)
        (expression fuel ts).map fun (_, rest) => (.other "Lambda", rest)
    | _ => none

/-- What follows a parameter. -/
def moreParameters : Nat → ParameterState → List Token → Parsed
  | 0, _, _ => none
  | fuel + 1, st, ts =>
    match sign? "," ts with
    | some ts => parameters fuel st ts
    | none => if (sign? ":" ts).isSome then parameters fuel st ts else none

end

/-- Whether only line ends are left. -/
def isLineEnds : List Token → Bool
  | [] => true
  | .lineEnd :: ts => isLineEnds ts
  | _ => false

/-- The expressions behind the first one of a condition. -/
def moreExpressions : Nat → List Token → Option (List Expr × List Token)
  | 0, _ => none
  | fuel + 1, ts =>
    match sign? "," ts with
    | none => some ([], ts)
    | some ts =>
      if isLineEnds ts then some ([], ts)
      else do
        let (e, rest) ← expression (30 * ts.length + 30) ts
        let (es, rest) ← moreExpressions fuel rest
        return (e :: es, rest)

/-- The expression of a text. -/
def parse? (s : List Char) : Option Expr := do
  let ts ← tokens? s
  let (e, rest) ← expression (30 * s.length + 30) ts
  let (es, left) ← moreExpressions (ts.length + 1) rest
  if !isLineEnds left then none
  else return if (sign? "," rest).isSome then .tuple (e :: es) else e

end StoryState.Condition
