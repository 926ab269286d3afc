import StoryState.Condition.Basic
import Mathlib.Tactic.Common

/-!
What a condition depends on. An expression comes to the same object wherever its names stand for the
same objects (`Expr.eval_congr`), for there is no other way to a variable than its name. So a condition
holds alike on maps that agree on the names in it, but for the words that no variable can take
(`holds_congr`).
-/

namespace StoryState.Condition

/-! ### Names -/

mutual

/-- The names in an expression. -/
def Expr.names : Expr → List String
  | .name id => [id]
  | .boolean _ operands => namesOfAll operands
  | .unary _ operand => operand.names
  | .binary _ left right => left.names ++ right.names
  | .compare first rest => first.names ++ namesOfCompared rest
  | .tuple items | .list items => namesOfAll items
  | .starred inner => inner.names
  | .constant _ | .other _ => []

/-- The names in expressions. -/
def namesOfAll : List Expr → List String
  | [] => []
  | e :: es => e.names ++ namesOfAll es

/-- The names in compared expressions. -/
def namesOfCompared : List (CompareOp × Expr) → List String
  | [] => []
  | (_, e) :: es => e.names ++ namesOfCompared es

end

/-! ### Evaluation -/

/-- The names stand for the same objects. -/
def Agree (ids : List String) (names names' : Names) : Prop := ∀ id ∈ ids, names id = names' id

theorem agree_append {ids ids' : List String} {names names' : Names} :
    Agree (ids ++ ids') names names' ↔ Agree ids names names' ∧ Agree ids' names names' := by
  simp only [Agree, List.forall_mem_append]

section Eval

variable {names names' : Names}

mutual

/-- An expression comes to the same object, or to none, where its names stand for the same objects. -/
theorem Expr.eval_congr : ∀ {e : Expr}, Agree e.names names names' → e.eval names = e.eval names'
  | .constant _, _ => rfl
  | .name id, h => by
    have hid : names id = names' id := h id List.mem_cons_self
    rw [Expr.eval, Expr.eval, hid]
  | .boolean op operands, h => by
    rw [Expr.eval, Expr.eval]
    exact evalBoolean_congr h
  | .unary op operand, h => by
    rw [Expr.eval, Expr.eval, Expr.eval_congr (e := operand) h]
  | .binary op left right, h => by
    obtain ⟨hleft, hright⟩ := agree_append.1 h
    rw [Expr.eval, Expr.eval, Expr.eval_congr hleft, Expr.eval_congr hright]
  | .compare first rest, h => by
    obtain ⟨hfirst, hrest⟩ := agree_append.1 h
    rw [Expr.eval, Expr.eval, Expr.eval_congr hfirst]
    exact Option.bind_congr fun a _ => evalCompare_congr a hrest
  | .tuple items, h => by
    have hitems : evalItems names items = evalItems names' items := evalItems_congr h
    rw [Expr.eval, Expr.eval, hitems]
  | .list items, h => by
    have hitems : evalItems names items = evalItems names' items := evalItems_congr h
    rw [Expr.eval, Expr.eval, hitems]
  | .starred _, _ => rfl
  | .other _, _ => rfl

theorem evalBoolean_congr {op : BoolOp} :
    ∀ {es : List Expr}, Agree (namesOfAll es) names names' →
      evalBoolean names op es = evalBoolean names' op es
  | [], _ => rfl
  | [e], h => by
    rw [evalBoolean, evalBoolean]
    exact Expr.eval_congr (agree_append.1 h).1
  | e :: e' :: es, h => by
    obtain ⟨hfirst, hrest⟩ := agree_append.1 h
    have hnext : evalBoolean names op (e' :: es) = evalBoolean names' op (e' :: es) :=
      evalBoolean_congr hrest
    unfold evalBoolean
    rw [Expr.eval_congr hfirst, hnext]

theorem evalCompare_congr (a : Object) :
    ∀ {rest : List (CompareOp × Expr)}, Agree (namesOfCompared rest) names names' →
      evalCompare names a rest = evalCompare names' a rest
  | [], _ => rfl
  | (op, e) :: rest, h => by
    obtain ⟨hfirst, hrest⟩ := agree_append.1 h
    have hnext (b : Object) := evalCompare_congr b hrest
    simp only [evalCompare, Expr.eval_congr hfirst, hnext]

theorem evalItems_congr :
    ∀ {es : List Expr}, Agree (namesOfAll es) names names' → evalItems names es = evalItems names' es
  | [], _ => rfl
  | e :: es, h => by
    obtain ⟨hfirst, hrest⟩ := agree_append.1 h
    rw [evalItems, evalItems, Expr.eval_congr hfirst, evalItems_congr hrest]

end

end Eval

/-! ### Conditions -/

/-- A name stands for the same in maps that agree on it, and a word in all maps. -/
theorem namesOf_congr {values values' : Entries Value} {id : String}
    (h : id ∉ aliases.map (·.1) → Entries.get? id values = Entries.get? id values') :
    namesOf values id = namesOf values' id := by
  unfold namesOf
  cases hword : aliases.lookup id with
  | some a => rfl
  | none =>
    have hnot : id ∉ aliases.map (·.1) := by
      intro hmem
      obtain ⟨⟨word, a⟩, ha, rfl⟩ := List.mem_map.1 hmem
      exact absurd rfl (bne_iff_ne.1 (List.lookup_eq_none_iff.1 hword _ ha))
    rw [h hnot]

/-- A condition depends only on the variables that it names: it holds on both of two maps or on neither,
if they agree on every name in its expression that is not a word of its own. Whatever else the maps hold,
also under such a word, does not matter. -/
theorem holds_congr {s : String} {values values' : Entries Value}
    (agree : ∀ e, read s = .ok e → ∀ id ∈ e.names, id ∉ aliases.map (·.1) →
      Entries.get? id values = Entries.get? id values') :
    holds s values = holds s values' := by
  unfold holds
  cases hread : read s with
  | error r => rfl
  | ok e =>
    have hnames : Agree e.names (namesOf values) (namesOf values') :=
      fun id hid => namesOf_congr (agree e hread id hid)
    dsimp only
    rw [Expr.eval_congr hnames]

/-- Two maps that agree on the level, one with a variable called `true`, and a map of another level. -/
theorem holds_congr_level :
    let s := "1 < level <= 9 && !(level in [2, 3]) && true"
    let values : Entries Value := [("level", .int 7), ("secret", .text "a"), ("true", .bool false)]
    let values' : Entries Value := [("secret", .list []), ("level", .int 7)]
    (∀ e, read s = .ok e → ∀ id ∈ e.names, id ∉ aliases.map (·.1) →
        Entries.get? id values = Entries.get? id values') ∧
      holds s values = true ∧ holds s values' = true ∧ holds s [("level", .int 3)] = false := by
  intro s values values'
  have hnames : (read s).toOption.map Expr.names = some ["level", "level", "true"] := by decide +kernel
  have agree : ∀ e, read s = .ok e → ∀ id ∈ e.names, id ∉ aliases.map (·.1) →
      Entries.get? id values = Entries.get? id values' := by
    intro e hread id hid hword
    rw [hread] at hnames
    rw [Option.some.inj hnames] at hid
    have hlevel : id = "level" := by
      rcases List.mem_cons.1 hid with h | h
      · exact h
      · refine (List.mem_cons.1 h).resolve_right fun h => hword ?_
        rw [List.mem_singleton.1 h]
        decide
    rw [hlevel]
    rfl
  have hvalues : holds s values = true := by decide +kernel
  have hsame := holds_congr agree
  rw [hvalues] at hsame
  exact ⟨agree, hvalues, hsame.symm, by decide +kernel⟩

end StoryState.Condition
