import StoryState.Proofs.Condition.Parsing

/-!
What formulas mean as conditions. However the operators of a formula are written, the text is read to the
expression of the formula, which has no form that a condition may not use and evaluates to the value of
the formula (`holds_text`). Two names do not stand for the variables called so: that of a constant, and
that of an empty record (`not_holds_text_debug`).
-/

namespace StoryState.Condition

open StoryState.Text

/-! ### Forms -/

/-- A node that a condition may hold: a formula, or an operator that is not refused. -/
def Node.Allowed (n : Node) : Prop := n = .operator none ∨ ∃ f : Formula, n = .expr f.expr

theorem Node.Allowed.refused? {n : Node} (h : n.Allowed) : n.refused? = none := by
  rcases h with rfl | ⟨f, rfl⟩
  · rfl
  · rcases f with ⟨_ | _ | _⟩ | _ | _ | _ <;> rfl

theorem Node.Allowed.children {n : Node} (h : n.Allowed) : ∀ m ∈ n.children, m.Allowed := by
  have hatom (a : Atom) : Node.Allowed (.expr a.expr) := .inr ⟨.atom a, rfl⟩
  rcases h with rfl | ⟨f, rfl⟩
  · rintro m ⟨⟩
  · cases f with
    | atom a => rcases a with _ | _ | _ <;> rintro m ⟨⟩
    | compare c a b =>
      intro m hm
      have hmem : m = .expr a.expr ∨ m = .expr b.expr := by simpa [Formula.expr, Node.children] using hm
      rcases hmem with rfl | rfl <;> exact hatom _
    | join op f g =>
      intro m hm
      have hmem : m = .expr f.expr ∨ m = .expr g.expr := by simpa [Formula.expr, Node.children] using hm
      rcases hmem with rfl | rfl <;> exact .inr ⟨_, rfl⟩
    | not f =>
      intro m hm
      have hmem : m = .operator none ∨ m = .expr f.expr := by
        simpa [Formula.expr, Node.children, UnaryOp.refused?] using hm
      rcases hmem with rfl | rfl
      · exact .inl rfl
      · exact .inr ⟨f, rfl⟩

theorem firstRefused?_of_allowed (levels : Nat) {nodes : List Node} (h : ∀ n ∈ nodes, n.Allowed) :
    firstRefused? levels nodes = none := by
  induction levels generalizing nodes with
  | zero => rfl
  | succ levels ih =>
    have hnone : nodes.findSome? Node.refused? = none :=
      List.findSome?_eq_none_iff.2 fun n hn => (h n hn).refused?
    rw [firstRefused?, hnone]
    refine ih fun m hm => ?_
    obtain ⟨n, hn, hm⟩ := List.mem_flatMap.1 hm
    exact (h n hn).children m hm

theorem refused?_expr (f : Formula) : f.expr.refused? = none :=
  firstRefused?_of_allowed _ fun _ hn => .inr ⟨f, List.mem_singleton.1 hn⟩

theorem constantName?_expr (f : Formula) : f.expr.constantName? = none := by
  have hatom (a : Atom) : a.expr.constantName? = none := by
    cases a with
    | name id =>
      have hkeyword := (isName_iff.1 id.2).2.2
      have hne {word : String} (hword : word ∈ keywords) : String.ofList id ≠ word := by
        rintro heq
        exact hkeyword (heq ▸ hword)
      simp [Atom.expr, Expr.constantName?, hne (show "None" ∈ keywords by decide),
        hne (show "True" ∈ keywords by decide), hne (show "False" ∈ keywords by decide)]
    | number | quoted => rfl
  induction f with
  | atom a => exact hatom a
  | compare c a b => simp [Formula.expr, Expr.constantName?, constantNameCompared?, hatom]
  | join op f g hf hg => simp [Formula.expr, Expr.constantName?, constantNameIn?, hf, hg]
  | not f hf => simp [Formula.expr, Expr.constantName?, hf]

theorem read_text {style : Style} {f : Formula} {s : List Char} (hnormal : normalize (f.print style) = s)
    (htokens : tokens? s = some f.tokens) (hlength : 2 * f.nesting ≤ s.length) (hne : s ≠ []) :
    read (f.text style) = .ok f.expr := by
  rw [read, Formula.text, String.toList_ofList, hnormal]
  simp [hne, parse?_of_tokens htokens hlength, refused?_expr, constantName?_expr]

theorem read_signs {f : Formula} (h : f.nesting ≤ bracketLimit) : read (f.text .signs) = .ok f.expr := by
  have hlength := length_print .respelled f
  refine read_text (normalize_signs f) (tokens?_respelled f h) ?_ ?_
  · cases f with
    | not f =>
      have hinside := length_print .respelled f
      simp only [Formula.respelled, Formula.nesting, bracketed, List.length_append, List.length_cons]
      omega
    | _ => exact hlength
  · obtain ⟨r, c, hends, -⟩ := endsFirm_print .respelled f
    cases f with
    | not f => exact List.cons_ne_nil _ _
    | _ => 
      rw [Formula.respelled, hends]
      · simp
      · rintro _ ⟨⟩

theorem read_words {f : Formula} (h : f.nesting ≤ bracketLimit) : read (f.text .words) = .ok f.expr := by
  refine read_text (normalize_words f) (tokens?_words f h) (length_print _ f) ?_
  have hbegins : Begins (f.print .words) := begins_print ⟨'n', _, rfl, rfl⟩ f
  obtain ⟨c, r, hprint, -⟩ := hbegins
  simp [hprint]

/-! ### Values -/

/-- What names stand for in an evaluation, in which the name of a constant is that constant. -/
def withDebug (names : Names) : Names := fun id => if id = debugName then some (.bool true) else names id

theorem eval_expr (names : Names) (f : Formula) : f.expr.eval names = f.value (withDebug names) := by
  have hatom (a : Atom) : a.expr.eval names = a.value (withDebug names) := by
    cases a <;> simp [Atom.expr, Atom.value, Expr.eval, withDebug, Constant.object]
  induction f with
  | atom a => exact hatom a
  | compare c a b =>
    simp only [Formula.expr, Expr.eval, evalCompare, hatom, Formula.value]
    cases a.value (withDebug names) with
    | none => rfl
    | some x =>
      cases b.value (withDebug names) with
      | none => rfl
      | some y =>
        simp only [Option.bind_eq_bind, Option.bind_some]
        rcases compareOp? c.op x y with _ | _ | _ <;> rfl
  | join op f g hf hg =>
    cases op with
    | and =>
      simp only [Formula.expr, Expr.eval, evalBoolean, hf, hg, Formula.value]
      cases f.value (withDebug names) with
      | none => rfl
      | some x => cases h : x.truthy <;> simp [h]
    | or =>
      simp only [Formula.expr, Expr.eval, evalBoolean, hf, hg, Formula.value]
      cases f.value (withDebug names) with
      | none => rfl
      | some x => cases h : x.truthy <;> simp [h]
  | not f hf =>
    simp only [Formula.expr, Expr.eval, hf, Formula.value]
    cases f.value (withDebug names) <;> rfl

theorem value_congr {names names' : Names} {f : Formula} (h : ∀ id ∈ f.names, names id = names' id) :
    f.value names = f.value names' := by
  have hatom {a : Atom} (h : ∀ id ∈ a.names, names id = names' id) : a.value names = a.value names' := by
    cases a with
    | name id => exact h _ (by simp [Atom.names])
    | number | quoted => rfl
  induction f with
  | atom a => exact hatom h
  | compare c a b =>
    rw [Formula.value, Formula.value, hatom fun id hid => h id (by simp [Formula.names, hid]),
      hatom fun id hid => h id (by simp [Formula.names, hid])]
  | join op f g hf hg =>
    have hfirst := hf fun id hid => h id (by simp [Formula.names, hid])
    have hsecond := hg fun id hid => h id (by simp [Formula.names, hid])
    cases op <;> rw [Formula.value, Formula.value, hfirst, hsecond]
  | not f hf => rw [Formula.value, Formula.value, hf h]

/-! ### Conditions -/

/-- What names stand for: the words first, then the variables. -/
def variablesOf (values : Entries Value) : Names := fun id =>
  (aliases.lookup id).or ((Entries.get? id values).map (Object.ofValue id []))

/-- A name stands for what it is in the map, unless it is the name of a constant, or that of an empty
record and not in the map. -/
theorem withDebug_namesOf {values : Entries Value} {id : String} (hdebug : id ≠ debugName)
    (hbuiltins : id = "__builtins__" → Entries.get? id values ≠ none) :
    withDebug (namesOf values) id = variablesOf values id := by
  rw [withDebug, if_neg hdebug, namesOf, variablesOf]
  cases aliases.lookup id with
  | some a => rfl
  | none =>
    cases hget : Entries.get? id values with
    | some v => rfl
    | none => exact if_neg fun heq => hbuiltins heq hget

theorem holds_of_read {s : String} {f : Formula} (h : read s = .ok f.expr) (values : Entries Value) :
    holds s values = ((f.value (withDebug (namesOf values))).map Object.truthy).getD false := by
  rw [holds, h, ← eval_expr]

/-- A formula, its brackets nested no deeper than they may, means the same in both spellings. It holds just
if its value is true, unless it has the name of a constant, or the name of an empty record without a
variable of that name. -/
theorem holds_text {f : Formula} (nesting : f.nesting ≤ bracketLimit) (values : Entries Value) :
    holds (f.text .signs) values = holds (f.text .words) values ∧
      (debugName ∉ f.names →
        ("__builtins__" ∈ f.names → Entries.get? "__builtins__" values ≠ none) →
        (holds (f.text .words) values = true ↔
          ∃ o, f.value (variablesOf values) = some o ∧ o.truthy = true)) := by
  rw [holds_of_read (read_signs nesting), holds_of_read (read_words nesting)]
  refine ⟨rfl, fun hdebug hbuiltins => ?_⟩
  have hnames : ∀ id ∈ f.names, withDebug (namesOf values) id = variablesOf values id := fun id hid =>
    withDebug_namesOf (fun heq => hdebug (heq ▸ hid)) fun heq => by
      rw [heq] at hid ⊢
      exact hbuiltins hid
  rw [value_congr hnames]
  cases f.value (variablesOf values) <;> simp

/-- The formula `(level >= 5) and (not (name == 'a && !b'))`. -/
def levelFormula : Formula :=
  .join .and (.compare .atLeast (.name ⟨"level".toList, by decide⟩) (.number ⟨5, by decide⟩))
    (.not (.compare .equal (.name ⟨"name".toList, by decide⟩)
      (.quoted .single ⟨"a && !b".toList, by decide⟩)))

theorem holds_text_level :
    levelFormula.nesting ≤ bracketLimit ∧ debugName ∉ levelFormula.names ∧
      "__builtins__" ∉ levelFormula.names ∧
      holds "(level >= 5) && (!(name === 'a && !b'))" [("level", .int 7), ("name", .text "c")] = true ∧
      holds "(level >= 5) and (not (name == 'a && !b'))" [("level", .int 7), ("name", .text "c")] = true := by
  have hnesting : levelFormula.nesting ≤ bracketLimit := by decide
  have hdebug : debugName ∉ levelFormula.names := by decide
  have hbuiltins : "__builtins__" ∉ levelFormula.names := by decide
  have hvalue :
      (levelFormula.value (variablesOf [("level", .int 7), ("name", .text "c")])).map Object.truthy =
        some true := by decide +kernel
  obtain ⟨o, ho, htrue⟩ := Option.map_eq_some_iff.1 hvalue
  obtain ⟨hsame, hholds⟩ := holds_text hnesting [("level", .int 7), ("name", .text "c")]
  have hwords := (hholds hdebug fun h => absurd h hbuiltins).2 ⟨o, ho, htrue⟩
  have hsigns : levelFormula.text .signs = "(level >= 5) && (!(name === 'a && !b'))" := by decide +kernel
  have hspelled : levelFormula.text .words = "(level >= 5) and (not (name == 'a && !b'))" := by decide +kernel
  rw [hsigns, hwords] at hsame
  rw [hspelled] at hwords
  exact ⟨hnesting, hdebug, hbuiltins, hsame, hwords⟩

/-- The formula `__debug__ == 0`. -/
def debugFormula : Formula :=
  .compare .equal (.name ⟨"__debug__".toList, by decide⟩) (.number ⟨0, by decide⟩)

/-- A variable with the name of a constant is not read: the formula is true of it, and the condition does
not hold. -/
theorem not_holds_text_debug :
    debugFormula.text .words = "__debug__ == 0" ∧
      ¬ (holds (debugFormula.text .words) [("__debug__", .int 0)] = true ↔
        ∃ o, debugFormula.value (variablesOf [("__debug__", .int 0)]) = some o ∧ o.truthy = true) := by
  have hvalue : (debugFormula.value (variablesOf [("__debug__", .int 0)])).map Object.truthy = some true := by
    decide +kernel
  have hholds : holds (debugFormula.text .words) [("__debug__", .int 0)] = false := by decide +kernel
  refine ⟨by decide +kernel, fun hiff => ?_⟩
  have htrue := hiff.2 (Option.map_eq_some_iff.1 hvalue)
  rw [hholds] at htrue
  cases htrue

end StoryState.Condition
