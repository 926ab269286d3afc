import StoryState.State.Basic
import StoryState.Value.Format

/-!
A summary of a state in Markdown: variables, conditional variables, tables and hidden variables, of
the latter only under which condition they are seen.
-/

namespace StoryState

/-- A heading, its lines or the line that says there are none, and an empty line. -/
def summarySection (heading none : String) (lines : List String) : List String :=
  heading :: ((if lines.isEmpty then [none] else lines) ++ [""])

/-- The line of a plain variable. -/
def Variable.summary (name : String) (x : Variable) : Except Fault String := do
  return "- " ++ name ++ ": " ++ (← x.value.format) ++ " (" ++ (← x.declared.display) ++ ")"

/-- The line of a conditional variable. -/
def Variable.conditionalSummary (name : String) (x : Variable) : Except Fault String := do
  let cases := (x.branches.getD []).length
  return "- " ++ name ++ ": " ++ (← x.value.format) ++
    (if cases = 0 then "" else " (条件分支: " ++ toString cases ++ "个)")

/-- The line of a row at its place. -/
def rowSummary (index : Nat) (row : Entries Value) : Except Fault String := do
  let cells ← row.mapM fun (k, v) => do return k ++ "=" ++ (← v.format)
  return "  行" ++ toString index ++ ": " ++ ", ".intercalate cells

/-- The lines of a table. -/
def Table.summary (name : String) (t : Table) : Except Fault (List String) := do
  let rows ← t.rows.zipIdx.mapM fun (row, index) => rowSummary index row
  return ("**表格: " ++ name ++ "**") :: (if rows.isEmpty then ["  无数据行"] else rows)

/-- The line of a hidden variable, which does not show its value. -/
def Hidden.summary (name : String) (h : Hidden) : Except Fault String := do
  return "- " ++ name ++ ": [条件: " ++ (← h.condition.display) ++ "]" ++
    (if h.hasExpiration then " (有期限)" else "")

/-- The summary of a state. -/
def State.summary (s : State) : Except Fault String := do
  let plain ← (s.vars.filter fun (_, x) => !x.isConditional).mapM fun (k, x) => x.summary k
  let conditional ←
    (s.vars.filter fun (_, x) => x.isConditional).mapM fun (k, x) => x.conditionalSummary k
  let tables ← s.tables.mapM fun (k, t) => t.summary k
  let hidden ← s.hidden.mapM fun (k, h) => h.summary k
  return "\n".intercalate <|
    summarySection "#### 普通变量：" "暂无普通变量。" plain ++
    summarySection "#### 条件变量：" "暂无条件变量。" conditional ++
    summarySection "#### 表格数据：" "暂无表格数据。" tables.flatten ++
    summarySection "#### 隐藏变量：" "暂无隐藏变量。" hidden

end StoryState
