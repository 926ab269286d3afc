/-!
The syntax of conditions: constants, names, the operators that a condition may use, and every other
form of expression by the name of its node.
-/

namespace StoryState.Condition

/-- A constant in a condition. -/
inductive Constant where
  | none
  | ellipsis
  | bool (b : Bool)
  | int (n : Nat)
  | float (x : Float)
  | imaginary (x : Float)
  | text (s : String)
  | bytes (bs : List Nat)

/-- The connectives. -/
inductive BoolOp where
  | and
  | or
deriving DecidableEq, Repr

/-- The prefix operators. -/
inductive UnaryOp where
  | not
  | minus
  | plus
  | invert
deriving DecidableEq, Repr

/-- The infix operators on values. -/
inductive BinaryOp where
  | add
  | sub
  | mult
  | div
  | floorDiv
  | mod
  | pow
  | matMult
  | leftShift
  | rightShift
  | bitOr
  | bitXor
  | bitAnd
deriving DecidableEq, Repr

/-- The comparisons. -/
inductive CompareOp where
  | eq
  | notEq
  | lt
  | ltE
  | gt
  | gtE
  | is
  | isNot
  | in
  | notIn
deriving DecidableEq, Repr

/-- An expression. -/
inductive Expr where
  | constant (c : Constant)
  | name (id : String)
  | boolean (op : BoolOp) (operands : List Expr)
  | unary (op : UnaryOp) (operand : Expr)
  | binary (op : BinaryOp) (left right : Expr)
  | compare (first : Expr) (rest : List (CompareOp × Expr))
  | tuple (items : List Expr)
  | list (items : List Expr)
  | starred (inner : Expr)
  /-- Any other form, by the name of its node. -/
  | other (node : String)
deriving Inhabited

/-! ### Forms that are not allowed -/

/-- The name of an operator that a condition may not use. -/
def UnaryOp.refused? : UnaryOp → Option String
  | .invert => some "Invert"
  | _ => none

/-- The name of an operator that a condition may not use. -/
def BinaryOp.refused? : BinaryOp → Option String
  | .pow => some "Pow"
  | .matMult => some "MatMult"
  | .leftShift => some "LShift"
  | .rightShift => some "RShift"
  | .bitOr => some "BitOr"
  | .bitXor => some "BitXor"
  | .bitAnd => some "BitAnd"
  | _ => none

/-- A node of the tree of an expression: an expression, or an operator that may be refused. -/
inductive Node where
  | expr (e : Expr)
  | operator (refused : Option String)

/-- The name of the node, if a condition may not hold it. -/
def Node.refused? : Node → Option String
  | .expr (.other node) => some node
  | .expr (.starred _) => some "Starred"
  | .expr _ => none
  | .operator refused => refused

/-- The nodes directly below a node, from left to right. -/
def Node.children : Node → List Node
  | .expr (.boolean _ operands) => operands.map .expr
  | .expr (.unary op operand) => [.operator op.refused?, .expr operand]
  | .expr (.binary op left right) => [.expr left, .operator op.refused?, .expr right]
  | .expr (.compare first rest) => .expr first :: rest.map fun (_, e) => .expr e
  | .expr (.tuple items) | .expr (.list items) => items.map .expr
  | .expr (.starred inner) => [.expr inner]
  | _ => []

mutual

/-- The number of levels of an expression. -/
def Expr.depth : Expr → Nat
  | .boolean _ operands => depthOfAll operands + 1
  | .unary _ operand => operand.depth + 1
  | .binary _ left right => max left.depth right.depth + 1
  | .compare first rest => max first.depth (depthOfCompared rest) + 1
  | .tuple items | .list items => depthOfAll items + 1
  | .starred inner => inner.depth + 1
  | _ => 1

/-- The greatest number of levels among expressions. -/
def depthOfAll : List Expr → Nat
  | [] => 0
  | e :: es => max e.depth (depthOfAll es)

/-- The greatest number of levels among compared expressions. -/
def depthOfCompared : List (CompareOp × Expr) → Nat
  | [] => 0
  | (_, e) :: es => max e.depth (depthOfCompared es)

end

/-- The first refused node, level by level and from left to right. -/
def firstRefused? : Nat → List Node → Option String
  | 0, _ => none
  | levels + 1, nodes =>
    match nodes.findSome? Node.refused? with
    | some node => some node
    | none => firstRefused? levels (nodes.flatMap Node.children)

/-- The first node that a condition may not hold, level by level and from left to right. -/
def Expr.refused? (e : Expr) : Option String := firstRefused? (e.depth + 1) [.expr e]

end StoryState.Condition
