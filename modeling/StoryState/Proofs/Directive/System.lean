import StoryState.Proofs.Directive.Refusal
import StoryState.System

/-!
The directive that registers the variables of every script: how it is written (`toList_systemDirective`), and
the state that it leaves by the names that it is written with (`State.putTexts`).
-/

namespace StoryState

open StoryState.Text StoryState.Directive

/-- A variable that holds a text. -/
def Variable.ofText (text : String) : Variable := { declared := .text "string", value := .text text }

/-- The registration of a variable that holds a text. -/
def VariableFields.ofText (x : String × String) : VariableFields := ⟨x.1, "string", x.2, none⟩

/-- A state with variables put into it that hold texts. -/
def State.putTexts (s : State) (xs : List (String × String)) : State :=
  { s with vars := xs.foldl (fun vars x => vars.put x.1 (.ofText x.2)) s.vars }

/-! ### How it is written -/

/-- A name and a text that can stand in quotes. -/
def Quotable (x : String × String) : Prop :=
  x.1 ≠ "" ∧ ('"' ∉ x.1.toList ∧ Unmarked x.1.toList) ∧ '"' ∉ x.2.toList ∧ Unmarked x.2.toList

instance (x : String × String) : Decidable (Quotable x) := inferInstanceAs (Decidable (_ ∧ _))

/-- An attribute behind a space. -/
def spaced (key value : String) : List Char := ' ' :: (key.toList ++ '=' :: '"' :: (value.toList ++ ['"']))

/-- The item that registers a variable with a text. -/
def textItem (x : String × String) : List Char :=
  opened itemTag (spaced "name" x.1 ++
    (spaced "type" "string" ++ (spaced "initVal" x.2 ++ ([] ++ [' ', '/', '>']))))

/-- The items of the block, each on a line of its own. -/
def systemItems : List (Segment VariableFields) :=
  .plain '\n' :: systemVariables.flatMap fun x =>
    [.plain ' ', .plain ' ', .hit (textItem x) (.ofText x), .plain '\n']

/-- The directive as a text of one registration. -/
def systemSegments : List (Segment Registration) :=
  [.hit (opened "registerVars" ('>' :: (textOf systemItems ++ closing "registerVars")))
    (.newVariables (fieldsOf systemItems))]

theorem variableText_textItem {x : String × String} (h : Quotable x) :
    VariableText itemTag (.ofText x) (textItem x) := by
  obtain ⟨named, hname, htext⟩ := h
  have typed : "string" ≠ "" ∧ '"' ∉ "string".toList ∧ Unmarked "string".toList := by decide
  exact .intro named typed.1 (.spaced hname) (.spaced typed.2) (.spaced htext) .absent
    (@EndText.intro _ [' '] (by decide))

theorem legible_systemItems : ∀ g ∈ systemItems, Legible (VariableText itemTag) g := by
  have hquotable : ∀ x ∈ systemVariables, Quotable x := by decide +kernel
  have hplain : ∀ c ∈ ['\n', ' '], c ≠ '<' ∧ c ≠ '&' := by simp
  simp only [systemItems, List.forall_mem_cons, List.forall_mem_flatMap]
  refine ⟨hplain '\n' (by simp), fun x hx => ?_⟩
  exact ⟨hplain ' ' (by simp), hplain ' ' (by simp), variableText_textItem (hquotable x hx),
    hplain '\n' (by simp), by simp⟩

theorem fieldsOf_systemItems : fieldsOf systemItems = systemVariables.map .ofText := by decide +kernel

theorem toList_stringItem (name text : String) :
    (stringItem name text).toList = ' ' :: ' ' :: textItem (name, text) := by
  simp [stringItem, textItem, spaced, opened, itemTag, String.toList_append]

/-- Texts on lines of their own. -/
theorem toList_lines {α : Type} (f : α → String) (x : α) (xs : List α) :
    ("\n".intercalate ((x :: xs).map f)).toList ++ ['\n'] =
      (x :: xs).flatMap fun x => (f x).toList ++ ['\n'] := by
  induction xs generalizing x with
  | nil => simp
  | cons y ys ih =>
    rw [List.flatMap_cons, ← ih y, List.map_cons, List.map_cons, String.intercalate_cons_cons,
      ← List.map_cons]
    simp [String.toList_append]

theorem textOf_systemItems : textOf systemItems =
    '\n' :: (("\n".intercalate (systemVariables.map fun (name, text) => stringItem name text)).toList ++
      ['\n']) := by
  obtain ⟨x, xs, hxs⟩ : ∃ x xs, systemVariables = x :: xs := ⟨_, _, rfl⟩
  rw [hxs, toList_lines, ← hxs]
  simp [systemItems, textOf, List.flatMap_assoc, toList_stringItem, Segment.raw]

theorem toList_systemDirective : systemDirective.toList = textOf systemSegments := by
  simp [systemDirective, systemSegments, textOf_systemItems, Segment.raw, opened, closing,
    String.toList_append]

theorem headed_systemSegments : Headed .standard ⟨.registerVars, true⟩ (textOf systemSegments) := by
  rw [systemSegments, textOf_cons, textOf_nil, List.append_nil]
  exact headed_registration TagNames.plain_standard standard_ne_itemTag (.newVariables legible_systemItems)

theorem decodeEntities_systemDirective :
    decodeEntities systemDirective.toList = textOf systemSegments := by
  rw [toList_systemDirective]
  exact decodeEntities_of_notMem headed_systemSegments.plain

/-- It is short enough for whatever it registers to be stored. -/
theorem brief_systemDirective : (decodeEntities systemDirective.toList).length ≤ Number.digitLimit := by
  rw [decodeEntities_systemDirective]
  decide +kernel

/-! ### What it does -/

open StoryState.Batch

theorem gives_registerTexts (xs : List (String × String)) (b : Batch) :
    Gives ((xs.map VariableFields.ofText).forM fun f => discard (registerVariable f)) b fun _ b' =>
      b'.state = b.state.putTexts xs := by
  induction xs generalizing b with
  | nil => rfl
  | cons x xs ih =>
    -- registering the first leaves a state with it, from which the others are registered
    exact ih ((registerVariable (.ofText x)).run b).2

/-! ### The variables afterwards -/

variable {s : State} {xs : List (String × String)} {name : String}

/-- No other variable changes. -/
theorem State.get?_putTexts_of_notMem (h : name ∉ xs.map Prod.fst) :
    Entries.get? name (s.putTexts xs).vars = Entries.get? name s.vars := by
  induction xs generalizing s with
  | nil => rfl
  | cons x xs ih =>
    rw [List.map_cons, List.mem_cons, not_or] at h
    exact (ih (s := { s with vars := s.vars.put x.1 (.ofText x.2) }) h.2).trans
      (Entries.get?_put_of_ne (Ne.symm h.1) _ _)

theorem State.get?_putTexts (once : (xs.map Prod.fst).Nodup) {x : String × String} (h : x ∈ xs) :
    Entries.get? x.1 (s.putTexts xs).vars = some (.ofText x.2) := by
  induction xs generalizing s with
  | nil => cases h
  | cons y xs ih =>
    obtain ⟨fresh, once⟩ := List.nodup_cons.1 once
    rcases List.mem_cons.1 h with rfl | h
    · exact (State.get?_putTexts_of_notMem (s := { s with vars := s.vars.put x.1 (.ofText x.2) }) fresh).trans
        (Entries.get?_put_self ..)
    · exact ih (s := { s with vars := s.vars.put y.1 (.ofText y.2) }) once h

end StoryState
