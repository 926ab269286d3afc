import StoryState.State.Basic

/-!
Declarations written as JSON inside directives: the cases of a conditional variable and the columns
of a table.
-/

namespace StoryState

/-- Why a declaration is refused. -/
inductive DeclarationFault where
  | notJson (cause : Fault)
  | branchesNotList
  | branchWithoutValue (index : Nat)
  | branchCondition (index : Nat)
  | elseNotLast
  | columnsNotList
  | columnWithoutName (index : Nat)
  | columnKind (name display : String)

/-- The wording of a refusal. -/
def DeclarationFault.message : DeclarationFault → String
  | .notJson cause => "JSON 解析失败: " ++ cause.message
  | .branchesNotList => "条件分支必须是非空数组"
  | .branchWithoutValue index => "第 " ++ toString index ++ " 个分支缺少 value"
  | .branchCondition index => "第 " ++ toString index ++ " 个分支的 condition 必须是字符串"
  | .elseNotLast => "没有条件的分支必须放在最后"
  | .columnsNotList => "列定义必须是数组"
  | .columnWithoutName index => "第 " ++ toString index ++ " 列缺少 name"
  | .columnKind name display => "列 " ++ name ++ " 的类型 " ++ display ++ " 不受支持"

/-- The document of a declaration. -/
def readDeclaration (literal : String) : Except DeclarationFault Value :=
  (Json.read literal).mapError .notJson

/-! ### Cases -/

/-- One case, at its place in the list. -/
def Branch.ofDeclared (index : Nat) (item : Value) : Except DeclarationFault Branch :=
  match item.fields? with
  | none => .error (.branchWithoutValue index)
  | some fields =>
    match Entries.get? "value" fields with
    | none => .error (.branchWithoutValue index)
    | some value =>
      match (Entries.get? "condition" fields).getD .null with
      | .null | .text "" => .ok ⟨value, none⟩
      | .text condition => .ok ⟨value, some (.text condition)⟩
      | _ => .error (.branchCondition index)

/-- The cases of a literal; only the last one may do without a condition. -/
def readBranches (literal : String) : Except DeclarationFault (List Branch) := do
  match ← readDeclaration literal with
  | .list (item :: items) =>
    let branches ← (item :: items).zipIdx.mapM fun (item, index) => Branch.ofDeclared index item
    if branches.dropLast.any (·.condition.isNone) then .error .elseNotLast else return branches
  | _ => .error .branchesNotList

/-! ### Columns -/

/-- One column, at its place in the list. -/
def Column.ofDeclared (index : Nat) (item : Value) : Except DeclarationFault Column :=
  match item.fields? with
  | none => .error (.columnWithoutName index)
  | some fields =>
    match Entries.get? "name" fields with
    | none | some (.text "") => .error (.columnWithoutName index)
    | some (.text name) =>
      let declared := (Entries.get? "type" fields).getD (.text "string")
      if (Kind.ofValue? declared).isNone then .error (.columnKind name declared.shown)
      else
        .ok ⟨.text name, declared, ((Entries.get? "required" fields).map Value.truthy).getD false⟩
    | some _ => .error (.columnWithoutName index)

/-- The columns of a literal. -/
def readColumns (literal : String) : Except DeclarationFault (List Column) := do
  match ← readDeclaration literal with
  | .list items => items.zipIdx.mapM fun (item, index) => Column.ofDeclared index item
  | _ => .error .columnsNotList

end StoryState
