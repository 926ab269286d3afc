import StoryState.Proofs.Directive.Change
import StoryState.Proofs.Macro.Reading
import StoryState.Proofs.Text.Segments
import StoryState.Proofs.Value.Path

/-!
Setting a variable under a dotted name, and the macro of that name. If the directive reports that the value
was set, the macro stands for the value (`Batch.resolveMacro_of_reported`).
-/

namespace StoryState

open StoryState.Text

/-! ### Reading below a variable -/

/-- The macro of a dotted name stands for the place below the variable, if no table has the name. -/
theorem State.resolveMacro_dotted {s : State} {root path : String} {x : Variable}
    (defaultId : Option String) (hroot : '.' ∉ root.toList)
    (htable : Entries.get? root s.tables = none) (hx : Entries.get? root s.vars = some x) :
    (s.resolveMacro defaultId (root ++ "." ++ path)).result =
      x.value.follow (splitOn '.' path.toList) := by
  have hname : (root ++ "." ++ path).toList = root.toList ++ '.' :: path.toList := by simp
  have hsplit : splitOn '.' (root ++ "." ++ path).toList = root.toList :: splitOn '.' path.toList := by
    rw [hname, splitOn_append, splitOn_of_not_mem hroot]
    rfl
  obtain ⟨segment, rest, hrest⟩ := List.exists_cons_of_ne_nil (splitOn_ne_nil '.' path.toList)
  have hcell : Macro.isCell s (splitOn '.' (root ++ "." ++ path).toList) = false := by
    rw [hsplit, hrest]
    unfold Macro.isCell Macro.tableOf?
    dsimp only
    rw [String.ofList_toList, htable]
    rfl
  have hfound : Macro.rootOf? s (splitOn '.' (root ++ "." ++ path).toList) = some x := by
    rw [hsplit, hrest]
    unfold Macro.rootOf?
    dsimp only
    rw [String.ofList_toList]
    exact hx
  refine Macro.gives_resolve (r := { state := s }) (Q := fun o _ => o = _) hcell ?_
  rw [hfound, hsplit]
  rfl

namespace Batch

/-! ### Setting below a variable -/

theorem overlooks_dot {s : List Char} (h : '.' ∉ s) :
    Overlooks (fun s => (dropLead? ['.'] s).map fun rest => ((), rest)) s := by
  induction s with
  | nil => trivial
  | cons c s ih =>
    have hc : '.' ≠ c := fun hc => h (hc ▸ List.mem_cons_self)
    refine ⟨fun rest => ?_, ih fun hs => h (List.mem_cons_of_mem _ hs)⟩
    dsimp only
    rw [dropLead?, if_neg hc]
    rfl

theorem rootAndPath_eq {root path : String} (h : '.' ∉ root.toList) :
    rootAndPath (root ++ "." ++ path) = (root, path) := by
  have hname : (root ++ "." ++ path).toList = root.toList ++ (['.'] ++ path.toList) := by simp
  have hcut : cutAt? ['.'] (root ++ "." ++ path).toList = some (root.toList, path.toList) := by
    rw [hname]
    exact cutAt?_append (List.cons_ne_nil _ _) (overlooks_dot h) _
  unfold rootAndPath
  rw [hcut]
  dsimp only
  rw [String.ofList_toList, String.ofList_toList]

/-- The line that says that a value was set below a variable. -/
def reportOf (name value : String) : String :=
  "🔄 点号路径设置: " ++ name ++ " -> " ++ value ++ " (属性格式)"

/-- A text begins as its first part does. -/
theorem head?_append {s : String} {c : Char} (h : s.toList.head? = some c) (t : String) :
    (s ++ t).toList.head? = some c := by
  rw [String.toList_append, List.head?_append, h]
  rfl

theorem ne_reportOf {line name value : String} (h : line.toList.head? = some '❌') :
    line ≠ reportOf name value := by
  rintro rfl
  have hhead : (reportOf name value).toList.head? = some '🔄' := by
    unfold reportOf
    iterate 4 apply head?_append
    decide
  rw [hhead] at h
  exact absurd h (by decide)

/-- The root variable is found or made, and the tables stay. -/
theorem gives_rootVariable_tables (root : String) (b : Batch) :
    Gives (rootVariable root) b fun r b' => ∃ x, r = .ok x ∧
      Entries.get? root b'.state.vars = some x ∧ b'.state.tables = b.state.tables := by
  unfold rootVariable
  rw [gives_bind, gives_findVariable]
  dsimp only
  cases hfound : Entries.get? root b.state.vars with
  | some x => exact ⟨x, rfl, hfound, rfl⟩
  | none => exact ⟨_, rfl, Entries.get?_put_self _ _ _, rfl⟩

/-- Behind a report that a value was set, it is found at its path below the root variable. -/
theorem gives_setBelow {root : String} (path value : String) (hroot : '.' ∉ root.toList) (b : Batch) :
    Gives (setBelow (root ++ "." ++ path) value) b fun _ b' => b'.state.tables = b.state.tables ∧
      ∃ x, Entries.get? root b'.state.vars = some x ∧
        (b'.logs.getLast? = some (reportOf (root ++ "." ++ path) value) →
          x.value.follow (splitOn '.' path.toList) = .ok (Value.stored (.text value))) := by
  unfold setBelow
  rw [rootAndPath_eq hroot]
  dsimp only
  rw [gives_bind]
  refine gives_mono (gives_rootVariable_tables root b) ?_
  rintro r b' ⟨x, rfl, hfound, htables⟩
  dsimp only
  split
  · refine ⟨htables, x, hfound, fun hlast => ?_⟩
    have hline := Option.some.inj ((List.getLast?_concat ..).symm.trans hlast)
    exact absurd hline (ne_reportOf (head?_append (head?_append (by decide) _) _))
  · obtain ⟨segment, rest, hsplit⟩ := List.exists_cons_of_ne_nil (splitOn_ne_nil '.' path.toList)
    generalize (if x.value.isContainer then x.value else rootValue root) = container
    obtain ⟨written, outcome, hwrite⟩ : ∃ written outcome,
      container.write (.text value) (splitOn '.' path.toList) = (written, outcome) := ⟨_, _, rfl⟩
    rw [Value.writePath, hwrite]
    cases outcome with
    | none =>
      refine ⟨htables, _, Entries.get?_put_self _ _ _, fun _ => ?_⟩
      rw [hsplit] at hwrite ⊢
      exact Value.follow_write (Value.stored_text_ne_null value) hwrite
    | some e =>
      refine ⟨htables, _, Entries.get?_put_self _ _ _, fun hlast => ?_⟩
      have hline := Option.some.inj ((List.getLast?_concat ..).symm.trans hlast)
      exact absurd hline
        (ne_reportOf (head?_append (head?_append (head?_append (by decide) _) _) _))

/-- If setting a variable under a dotted name is reported as done, the macro of that name stands for the
value, or for the document that it is the text of. -/
theorem resolveMacro_of_reported {root path value : String} {b : Batch} (defaultId : Option String)
    (source : List Char) (hroot : '.' ∉ root.toList) (htable : Entries.get? root b.state.tables = none)
    (hreport : ((change source (.setVariable (root ++ "." ++ path) value)).run b).2.logs.getLast? =
      some (reportOf (root ++ "." ++ path) value)) :
    (((change source (.setVariable (root ++ "." ++ path) value)).run b).2.state.resolveMacro defaultId
      (root ++ "." ++ path)).result = .ok (Value.stored (.text value)) := by
  have hdotted : (root ++ "." ++ path).toList.contains '.' = true := by simp
  have hrun : ((change source (.setVariable (root ++ "." ++ path) value)).run b).2 =
      ((setBelow (root ++ "." ++ path) value).run b).2 := by
    unfold change
    dsimp only
    rw [run_bind, setVariable, if_pos hdotted]
    cases ((setBelow (root ++ "." ++ path) value).run b).1 <;> rfl
  rw [hrun] at hreport ⊢
  obtain ⟨htables, x, hx, hvalue⟩ := gives_setBelow path value hroot b
  rw [← htables] at htable
  rw [State.resolveMacro_dotted defaultId hroot htable hx]
  exact hvalue hreport

/-- A batch on a state with a variable that holds an object below an object. -/
def keyed : Batch :=
  { state := { vars :=
      [("a", { declared := .text "object", value := .object [("b", .object [("0", .text "x")])] })] } }

/-- The lower object is made a list, filled up, and the list that the text is the document of is read at its
place. -/
theorem resolveMacro_of_reported_keyed :
    '.' ∉ "a".toList ∧ Entries.get? "a" keyed.state.tables = none ∧
      ((change [] (.setVariable ("a" ++ "." ++ "b.2") "[1]")).run keyed).2.logs.getLast? =
        some (reportOf ("a" ++ "." ++ "b.2") "[1]") ∧
      (((change [] (.setVariable ("a" ++ "." ++ "b.2") "[1]")).run keyed).2.state.resolveMacro none
        ("a" ++ "." ++ "b.2")).result = .ok (.list [.int 1]) := by
  have hroot : '.' ∉ "a".toList := by decide
  have hreport : ((change [] (.setVariable ("a" ++ "." ++ "b.2") "[1]")).run keyed).2.logs.getLast? =
      some (reportOf ("a" ++ "." ++ "b.2") "[1]") := by decide +kernel
  exact ⟨hroot, rfl, hreport, resolveMacro_of_reported none [] hroot rfl hreport⟩

end Batch

end StoryState
