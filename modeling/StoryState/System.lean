import StoryState.Macro.Basic

/-!
The variables that every script has from the start, and the directive that registers them.
-/

namespace StoryState

/-- The names of the variables that every script has, with their texts. -/
def systemVariables : List (String × String) :=
  [("scriptSummary", "剧本摘要待生成"), ("privateSummary", "私聊摘要待生成"),
    ("guidanceCurrentChat", "当前聊天指导待设置"), ("guidanceCurrentScript", "当前剧本指导待设置"),
    (Feed.script.macroName, Feed.script.emptyText), (Feed.chat.macroName, Feed.chat.emptyText)]

/-- The item of a block that registers a string. -/
def stringItem (name text : String) : String :=
  "  <var name=\"" ++ name ++ "\" type=\"string\" initVal=\"" ++ text ++ "\" />"

/-- The directive that registers the variables of every script. -/
def systemDirective : String :=
  "<registerVars>\n" ++
    "\n".intercalate (systemVariables.map fun (name, text) => stringItem name text) ++
    "\n</registerVars>"

end StoryState
