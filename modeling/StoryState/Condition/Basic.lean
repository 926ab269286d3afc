import StoryState.Condition.Evaluate
import StoryState.Condition.Parser
import StoryState.Condition.Spelling

/-!
Conditions on the variables of a scope. A condition that is malformed, that uses a form it may not
use, or whose evaluation has no result counts as false.
-/

namespace StoryState.Condition

/-- Why a text is no condition. -/
inductive Refusal where
  | empty
  | malformed
  /-- A form that a condition may not use, by the name of its node. -/
  | form (node : String)
  /-- A name that looks like a constant only in its compatibility form. -/
  | constantName (id : String)
deriving DecidableEq, Repr

/-- The wording of a refusal. -/
def Refusal.message : Refusal → String
  | .empty => "空表达式"
  | .malformed => "语法错误"
  | .form node => "不允许的表达式元素: " ++ node
  | .constantName id => "identifier field can't represent '" ++ id ++ "' constant"

mutual

/-- The first name in an expression that is the word of a constant. -/
def Expr.constantName? : Expr → Option String
  | .name id => if id = "None" || id = "True" || id = "False" then some id else none
  | .boolean _ operands => constantNameIn? operands
  | .unary _ operand => operand.constantName?
  | .binary _ left right => left.constantName?.or right.constantName?
  | .compare first rest => first.constantName?.or (constantNameCompared? rest)
  | .tuple items | .list items => constantNameIn? items
  | _ => none

/-- The first such name among expressions. -/
def constantNameIn? : List Expr → Option String
  | [] => none
  | e :: es => e.constantName?.or (constantNameIn? es)

/-- The first such name among compared expressions. -/
def constantNameCompared? : List (CompareOp × Expr) → Option String
  | [] => none
  | (_, e) :: es => e.constantName?.or (constantNameCompared? es)

end

/-- The expression of a condition. -/
def read (s : String) : Except Refusal Expr :=
  let spelled := normalize s.toList
  if spelled.isEmpty then .error .empty
  else
    match parse? spelled with
    | none => .error .malformed
    | some e =>
      match e.refused? with
      | some node => .error (.form node)
      | none =>
        match e.constantName? with
        | some id => .error (.constantName id)
        | none => .ok e

/-- The words for truth values and nothing, which no variable can take. -/
def aliases : List (String × Object) :=
  [("true", .bool true), ("false", .bool false), ("null", .none), ("undefined", .none),
    ("True", .bool true), ("False", .bool false), ("None", .none)]

/-- What the names of a condition stand for: the words first, then the variables. One name beside
these stands for an empty record. -/
def namesOf (values : Entries Value) : Names := fun id =>
  match aliases.lookup id with
  | some a => some a
  | none =>
    match Entries.get? id values with
    | some v => some (Object.ofValue id [] v)
    | none => if id = "__builtins__" then some (Object.ofValue id [] (.object [])) else none

/-- Whether a condition holds. -/
def holds (s : String) (values : Entries Value) : Bool :=
  match read s with
  | .error _ => false
  | .ok e => ((e.eval (namesOf values)).map Object.truthy).getD false

/-- Whether a condition of any shape holds. What is false or empty does not hold; anything else that
is no text has no condition in it. -/
def check (condition : Value) (values : Entries Value) : Except Fault Bool :=
  match condition with
  | .text s => .ok (holds s values)
  | v => if v.truthy then .error (.noMember v.typeName "strip") else .ok false

end StoryState.Condition
