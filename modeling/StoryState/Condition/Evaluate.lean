import StoryState.Condition.Arithmetic
import StoryState.Condition.Template

/-!
The evaluation of expressions. Connectives stop at the first operand that decides, chains of
comparisons at the first that fails. What has no result gives none.
-/

namespace StoryState.Condition

/-- What the names of a condition stand for. -/
abbrev Names := String → Option Object

/-- The object of a constant. -/
def Constant.object : Constant → Object
  | .none => .none
  | .ellipsis => .ellipsis
  | .bool b => .bool b
  | .int n => .int .literal n
  | .float x => .float .literal x
  | .imaginary x => .complex .literal 0.0 x
  | .text s => .text .literal s
  | .bytes bs => .bytes .literal bs

/-- The name that is a constant: whether checks are on, which they are. -/
def debugName : String := "__debug__"

mutual

/-- Whether an expression is made of constants only, so that its result is a constant too. -/
def Expr.isConstant : Expr → Bool
  | .constant _ => true
  | .name id => id == debugName
  | .unary _ operand => operand.isConstant
  | .binary op left right =>
    left.isConstant && right.isConstant &&
      (match op, left with
        | .mod, .constant (.text _) | .mod, .constant (.bytes _) => false
        | _, _ => true)
  | .tuple items => allConstant items
  | _ => false

/-- Whether all expressions are made of constants only. -/
def allConstant : List Expr → Bool
  | [] => true
  | e :: es => e.isConstant && allConstant es

end

/-- The origin of the result of an expression. -/
def Expr.origin (e : Expr) : Origin := if e.isConstant then .literal else .made

/-- The result of an infix operator. -/
def binaryOp2? (origin : Origin) (op : BinaryOp) (a b : Object) : Option Object :=
  match a.numeric?, b.numeric? with
  | some x, some y => (numericOp? op x y).map (objectOf origin)
  | x?, y? =>
    match op with
    | .add => joined? origin a b
    | .mult =>
      match x?, y? with
      | _, some (.int n) => repeated? origin a n
      | some (.int n), _ => repeated? origin b n
      | _, _ => none
    | .mod =>
      match a with
      | .text _ s => (fill? false s.toList b).map fun cs => .text origin (String.ofList cs)
      | .bytes _ bs =>
        (fill? true (bs.map Char.ofNat) b).map fun cs => .bytes origin (cs.map Char.toNat)
      | _ => none
    | _ => none

/-- The outcome of a comparison. -/
def compareOp? (op : CompareOp) (a b : Object) : Option Bool :=
  match op with
  | .eq => some (a.eq b)
  | .notEq => some (!a.eq b)
  | .lt => (a.order? b).map fun o => o == some .lt
  | .ltE => (a.order? b).map fun o => o == some .lt || o == some .eq
  | .gt => (a.order? b).map fun o => o == some .gt
  | .gtE => (a.order? b).map fun o => o == some .gt || o == some .eq
  | .is => some (a.same b)
  | .isNot => some (!a.same b)
  | .in => a.member? b
  | .notIn => (a.member? b).map (!·)

mutual

/-- The object of an expression. -/
def Expr.eval (names : Names) : Expr → Option Object
  | .constant c => some c.object
  | .name id => if id = debugName then some (.bool true) else names id
  | .boolean op operands => evalBoolean names op operands
  | .unary op operand =>
    (operand.eval names).bind (unaryOp? (if operand.isConstant then .literal else .made) op)
  | .binary op left right => do
    let a ← left.eval names
    let b ← right.eval names
    binaryOp2? (Expr.binary op left right).origin op a b
  | .compare first rest => do evalCompare names (← first.eval names) rest
  | .tuple items =>
    (evalItems names items).map (.tuple (if allConstant items then .literal else .made))
  | .list items => (evalItems names items).map (.list .made)
  | .starred _ => none
  | .other _ => none

/-- The first operand that decides, or the last one. -/
def evalBoolean (names : Names) (op : BoolOp) : List Expr → Option Object
  | [] => none
  | [e] => e.eval names
  | e :: es => do
    let a ← e.eval names
    if a.truthy == (op == .or) then return a else evalBoolean names op es

/-- A chain of comparisons that begins with an object. -/
def evalCompare (names : Names) (a : Object) : List (CompareOp × Expr) → Option Object
  | [] => some (.bool true)
  | (op, e) :: rest => do
    let b ← e.eval names
    if ← compareOp? op a b then evalCompare names b rest else return .bool false

/-- The objects of items. -/
def evalItems (names : Names) : List Expr → Option (List Object)
  | [] => some []
  | e :: es => do
    let a ← e.eval names
    return a :: (← evalItems names es)

end

end StoryState.Condition
