import StoryState.Directive.Change
import StoryState.Proofs.Directive.Agenda
import StoryState.Proofs.Directive.Head

/-!
Changes as they are written, and that they are carried out as written: for any plain tag names, a
text of written changes with other text between them does what the handlers do for these changes,
group by group, and only the other text is left (`State.applyChanges_textOf`).
-/

namespace StoryState

open StoryState.Text StoryState.Directive

namespace Directive

/-! ### Hidden variables -/

/-- The expiry of a hidden variable as it is written, or nothing for none. -/
inductive ExpiryText : Bool → List Char → Prop
  | absent : ExpiryText false []
  | given {expires : Bool} {s : List Char}
    (text : AttributeText '"' "hasExpiration" (if expires then "true" else "false") s) : ExpiryText expires s

/-- A hidden variable as it is written under a tag. -/
inductive HiddenText (tag : String) (fields : HiddenFields) : List Char → Prop
  | intro {a b x e : List Char} (named : fields.name ≠ "") (conditioned : fields.condition ≠ "")
    (name : AttributeText '"' "name" fields.name a)
    (condition : AttributeText '"' "condition" fields.condition b)
    (expiry : ExpiryText fields.hasExpiration x) (ends : EndText ['>'] e)
    (content : Unmarked fields.content.toList) :
    HiddenText tag fields
      (opened tag (a ++ (b ++ (x ++ (e ++ (fields.content.toList ++ closing tag))))))

theorem isMark_close : IsMark ['>'] := ⟨_, _, rfl, by decide⟩

theorem isMark_slash : IsMark ['/', '>'] := ⟨_, _, rfl, by decide⟩

theorem unmarked_close : Unmarked ['>'] := by decide

theorem unmarked_slash : Unmarked ['/', '>'] := by decide

theorem isKey_name : IsKey "name" := by decide

theorem isKey_value : IsKey "value" := by decide

theorem isKey_table : IsKey "table" := by decide

theorem isKey_row : IsKey "row" := by decide

theorem isKey_condition : IsKey "condition" := by decide

theorem isKey_hasExpiration : IsKey "hasExpiration" := by decide

section Hidden

variable {names : TagNames} {tag : Tag} {fields : HiddenFields} {raw x e : List Char}

theorem ExpiryText.unmarked {expires : Bool} (h : ExpiryText expires x) : Unmarked x := by
  cases h with
  | absent => exact fun c hc => nomatch hc
  | given text => exact text.unmarked isKey_hasExpiration (by decide)

theorem finds_hiddenFields {tag : String} (h : HiddenText tag fields raw) :
    Finds (hiddenFields? tag) raw fields := by
  obtain ⟨_, _, expires, _⟩ := fields
  cases h with
  | @intro a b x e named conditioned name condition expiry ends content =>
    refine ⟨opened_ne_nil _ _, fun rest => ?_⟩
    have htail (rest : List Char) : tagEnd? ['>'] (e ++ rest) = some rest :=
      ends.reads isMark_close rest
    simp only [opened_append, List.append_assoc, hiddenFields?, opening?_opened, bind,
      Option.bind_some, name.readsNonEmpty isKey_name named,
      condition.readsNonEmpty isKey_condition conditioned]
    cases expiry with
    | absent =>
      have hnone (rest : List Char) : attribute? "hasExpiration" (e ++ rest) = none := by
        rw [attribute?, ends.noAttribute (by decide) rfl (by decide)]
        rfl
      simp [hnone, htail, content?_of_unmarked content]
    | given text =>
      cases expires <;> simp [text.reads isKey_hasExpiration, htail, content?_of_unmarked content]

theorem headed_hiddenFields (plain : names.Plain) (h : HiddenText (names tag) fields raw) :
    Headed names ⟨tag, false⟩ raw := by
  cases h with
  | @intro a b x e named conditioned name condition expiry ends content =>
    have htail : Unmarked (a ++ (b ++ (x ++ (e ++ fields.content.toList)))) := by
      simp only [unmarked_append]
      exact ⟨name.unmarked isKey_name (by decide), condition.unmarked isKey_condition (by decide),
        expiry.unmarked, ends.unmarked unmarked_close, content⟩
    simpa only [List.append_assoc] using headed_filled plain name htail

theorem heeds_hiddenFields {tag : String} : Heeds (hiddenFields? tag) tag false :=
  heeds_attributes fun t h => by simp [attributeNonEmpty?_of_none h]

end Hidden

/-! ### Changes -/

end Directive

/-- The head of a change. -/
def Change.head : Change → Head
  | .setVariable .. => ⟨.setVar, false⟩
  | .assign _ => ⟨.setVar, true⟩
  | .setCells .. => ⟨.setTable, false⟩
  | .addRow .. => ⟨.addTableRow, false⟩
  | .removeRow .. => ⟨.removeTableRow, false⟩
  | .setHidden _ => ⟨.setHiddenVar, false⟩

namespace Directive

/-- The heads of changes, in the order in which they are carried out. -/
def changeHeads : List Head :=
  [⟨.setVar, false⟩, ⟨.setVar, true⟩, ⟨.setTable, false⟩, ⟨.addTableRow, false⟩,
    ⟨.removeTableRow, false⟩, ⟨.setHiddenVar, false⟩]

/-- A change as it is written. -/
inductive ChangeText (names : TagNames) : Change → List Char → Prop
  | setVariable {name value : String} {a b e : List Char} (named : name ≠ "")
    (ha : AttributeText '"' "name" name a) (hb : AttributeText '"' "value" value b)
    (he : EndText ['/', '>'] e) :
    ChangeText names (.setVariable name value) (opened (names .setVar) (a ++ (b ++ e)))
  | assign {content : String} (unmarked : Unmarked content.toList) :
    ChangeText names (.assign content)
      (opened (names .setVar) ('>' :: (content.toList ++ closing (names .setVar))))
  | setCells {table row content : String} {a b e : List Char} (tabled : table ≠ "") (rowed : row ≠ "")
    (ha : AttributeText '"' "table" table a) (hb : AttributeText '"' "row" row b)
    (he : EndText ['>'] e) (unmarked : Unmarked content.toList) :
    ChangeText names (.setCells table row content)
      (opened (names .setTable) (a ++ (b ++ (e ++ (content.toList ++ closing (names .setTable))))))
  | addRow {table content : String} {a e : List Char} (tabled : table ≠ "")
    (ha : AttributeText '"' "table" table a) (he : EndText ['>'] e)
    (unmarked : Unmarked content.toList) :
    ChangeText names (.addRow table content)
      (opened (names .addTableRow) (a ++ (e ++ (content.toList ++ closing (names .addTableRow)))))
  | removeRow {table row : String} {a b e : List Char} (tabled : table ≠ "") (rowed : row ≠ "")
    (ha : AttributeText '"' "table" table a) (hb : AttributeText '"' "row" row b)
    (he : EndText ['/', '>'] e) :
    ChangeText names (.removeRow table row) (opened (names .removeTableRow) (a ++ (b ++ e)))
  | setHidden {fields : HiddenFields} {raw : List Char}
    (text : HiddenText (names .setHiddenVar) fields raw) :
    ChangeText names (.setHidden fields) raw

section Changes

variable {names : TagNames} {c : Change} {raw : List Char}

theorem headed_change (plain : names.Plain) (h : ChangeText names c raw) :
    Headed names c.head raw := by
  cases h with
  | setVariable named ha hb he =>
    refine headed_selfClosed plain (.intro ha ?_)
    simp only [unmarked_append]
    exact ⟨ha.unmarked isKey_name (by decide), hb.unmarked isKey_value (by decide),
      he.unmarked unmarked_slash⟩
  | assign unmarked => exact headed_bare plain (fun heeds => heeds.atTags.overlooks unmarked) unmarked.notMem
  | @setCells _ _ content a b e tabled rowed ha hb he unmarked =>
    have htext : Unmarked (a ++ (b ++ (e ++ content.toList))) := by
      simp only [unmarked_append]
      exact ⟨ha.unmarked isKey_table (by decide), hb.unmarked isKey_row (by decide),
        he.unmarked unmarked_close, unmarked⟩
    simpa only [List.append_assoc, Change.head] using headed_filled plain ha htext
  | @addRow _ content a e tabled ha he unmarked =>
    have htext : Unmarked (a ++ (e ++ content.toList)) := by
      simp only [unmarked_append]
      exact ⟨ha.unmarked isKey_table (by decide), he.unmarked unmarked_close, unmarked⟩
    simpa only [List.append_assoc, Change.head] using headed_filled plain ha htext
  | removeRow tabled rowed ha hb he =>
    refine headed_selfClosed plain (.intro ha ?_)
    simp only [unmarked_append]
    exact ⟨ha.unmarked isKey_table (by decide), hb.unmarked isKey_row (by decide),
      he.unmarked unmarked_slash⟩
  | setHidden text => exact headed_hiddenFields plain text

theorem finds_setVariable {name value : String} (h : ChangeText names (.setVariable name value) raw) :
    Finds (setVariable? (names .setVar)) raw (.setVariable name value) := by
  cases h with
  | setVariable named ha hb he =>
    refine ⟨opened_ne_nil _ _, fun rest => ?_⟩
    simp [setVariable?, ha.readsNonEmpty isKey_name named, hb.reads isKey_value, he.ignoring]

theorem finds_assign {content : String} (h : ChangeText names (.assign content) raw) :
    Finds (assign? (names .setVar)) raw (.assign content) := by
  cases h with
  | assign unmarked =>
    refine ⟨opened_ne_nil _ _, fun rest => ?_⟩
    simp [assign?, block?_opened ((atTags_closer _).overlooks unmarked)]

theorem finds_setCells {table row content : String}
    (h : ChangeText names (.setCells table row content) raw) :
    Finds (setCells? (names .setTable)) raw (.setCells table row content) := by
  cases h with
  | setCells tabled rowed ha hb he unmarked =>
    refine ⟨opened_ne_nil _ _, fun rest => ?_⟩
    simp [setCells?, ha.readsNonEmpty isKey_table tabled, hb.readsNonEmpty isKey_row rowed,
      he.reads isMark_close, content?_of_unmarked unmarked]

theorem finds_addRow {table content : String} (h : ChangeText names (.addRow table content) raw) :
    Finds (addRow? (names .addTableRow)) raw (.addRow table content) := by
  cases h with
  | addRow tabled ha he unmarked =>
    refine ⟨opened_ne_nil _ _, fun rest => ?_⟩
    simp [addRow?, ha.readsNonEmpty isKey_table tabled, he.reads isMark_close,
      content?_of_unmarked unmarked]

theorem finds_removeRow {table row : String} (h : ChangeText names (.removeRow table row) raw) :
    Finds (removeRow? (names .removeTableRow)) raw (.removeRow table row) := by
  cases h with
  | removeRow tabled rowed ha hb he =>
    refine ⟨opened_ne_nil _ _, fun rest => ?_⟩
    simp [removeRow?, ha.readsNonEmpty isKey_table tabled, hb.readsNonEmpty isKey_row rowed,
      he.reads isMark_slash]

theorem finds_setHidden {fields : HiddenFields} (h : ChangeText names (.setHidden fields) raw) :
    Finds (setHidden? (names .setHiddenVar)) raw (.setHidden fields) := by
  cases h with
  | setHidden text => exact (finds_hiddenFields text).map

theorem heeds_setVariable {tag : String} : Heeds (setVariable? tag) tag false :=
  heeds_attributes fun t h => by simp [attributeNonEmpty?_of_none h]

theorem heeds_setCells {tag : String} : Heeds (setCells? tag) tag false :=
  heeds_attributes fun t h => by simp [attributeNonEmpty?_of_none h]

theorem heeds_addRow {tag : String} : Heeds (addRow? tag) tag false :=
  heeds_attributes fun t h => by simp [attributeNonEmpty?_of_none h]

theorem heeds_removeRow {tag : String} : Heeds (removeRow? tag) tag false :=
  heeds_attributes fun t h => by simp [attributeNonEmpty?_of_none h]

theorem heeds_setHidden {tag : String} : Heeds (setHidden? tag) tag false :=
  heeds_hiddenFields.map

/-- Each form of a change reads the written changes under its head and no other ones. -/
theorem changeForms_read (plain : names.Plain) :
    List.Forall₂ (fun form k => ∀ g, Legible (ChangeText names) g →
      g.ReadBy form fun c => c.head = k) (changeForms names) changeHeads := by
  have headed : ∀ c raw, ChangeText names c raw → Headed names c.head raw :=
    fun _ _ => headed_change plain
  refine .cons (readBy_of_heeds heeds_setVariable ?_ headed) <|
    .cons (readBy_of_heeds heeds_block.map ?_ headed) <|
    .cons (readBy_of_heeds heeds_setCells ?_ headed) <|
    .cons (readBy_of_heeds heeds_addRow ?_ headed) <|
    .cons (readBy_of_heeds heeds_removeRow ?_ headed) <|
    .cons (readBy_of_heeds heeds_setHidden ?_ headed) .nil
  · intro c raw h hc
    cases c <;> first | exact finds_setVariable h | cases hc
  · intro c raw h hc
    cases c <;> first | exact finds_assign h | cases hc
  · intro c raw h hc
    cases c <;> first | exact finds_setCells h | cases hc
  · intro c raw h hc
    cases c <;> first | exact finds_addRow h | cases hc
  · intro c raw h hc
    cases c <;> first | exact finds_removeRow h | cases hc
  · intro c raw h hc
    cases c <;> first | exact finds_setHidden h | cases hc

end Changes

end Directive

/-! ### Carried out as written -/

/-- Changes in the order in which a batch carries them out: group by group, in text order within each
group. -/
def Change.inOrder (changes : List Change) : List Change :=
  Batch.inOrder Change.head changeHeads changes

/-- Carries out a change by itself. -/
def Batch.perform (c : Change) : BatchM Unit := discard (change [] c)

/-- A step of which nothing is left in the text. -/
theorem Batch.discard_leaving (m : BatchM Unit) : discard (do m; return ([] : List Char)) = m := by
  simp [discard, map_const]

/-- A change is performed and leaves nothing in the text. -/
theorem Batch.change_eq :
    change = fun raw c => do perform c; return dropUnless (fun _ => false) raw c := by
  funext raw c
  cases c <;> simp [change, perform, dropUnless, discard, map_const]

/-- A text of written changes does what the handlers do for the changes in their order, and leaves what
stands between them. -/
theorem State.applyChanges_textOf {names : TagNames} (plain : names.Plain)
    {segs : List (Segment Change)} (legible : ∀ g ∈ segs, Legible (ChangeText names) g)
    (s : State) :
    s.applyChanges names (String.ofList (textOf segs)) =
      Batch.execute Batch.perform (Change.inOrder (fieldsOf segs)) (String.ofList (between segs)) s := by
  have headed : ∀ c raw, ChangeText names c raw → Headed names c.head raw :=
    fun _ _ => headed_change plain
  have hall : ∀ c : Change, c.head ∈ changeHeads := by
    intro c
    cases c <;> simp [Change.head, changeHeads]
  rw [State.applyChanges, Batch.change_eq, Batch.run_textOf (changeForms_read plain) (by decide) hall legible
    (notMem_textOf (fun c raw h => (headed c raw h).plain) legible), textOf_kept_false]
  rfl

/-! A text in which the directives stand in another order than that of their groups. -/

/-- A hidden variable, an assignment and a variable set by attributes, with text around them. -/
def mixedChanges : List (Segment Change) :=
  [.plain 'a', .hit ("<setHiddenVar name=\"h\" condition=\"x > 1\" hasExpiration=\"true\">v" ++
      "</setHiddenVar>").toList (.setHidden ⟨"h", "x > 1", true, "v"⟩),
    .plain 'b', .hit "<setVar>x += 1</setVar>".toList (.assign "x += 1"),
    .hit "<setVar\n name=\"x\" value=\"\" />".toList (.setVariable "x" ""), .plain 'c']

theorem legible_mixedChanges : ∀ g ∈ mixedChanges, Legible (ChangeText .standard) g := by
  simp only [mixedChanges, List.forall_mem_cons, List.not_mem_nil, false_implies, implies_true,
    and_true]
  have close : EndText ['>'] ['>'] := @EndText.intro _ [] (by decide)
  have slash : EndText ['/', '>'] [' ', '/', '>'] := @EndText.intro _ [' '] (by decide)
  have line : AttributeText '"' "name" "x" ('\n' :: ' ' :: "name=\"x\"".toList) :=
    @AttributeText.intro _ _ _ ['\n', ' '] (by decide) (by decide) (by decide) (by decide)
  refine ⟨⟨by decide, by decide⟩, ?_, ⟨by decide, by decide⟩, ?_, ?_, ⟨by decide, by decide⟩⟩
  · exact .setHidden (.intro (by decide) (by decide) (.spaced (by decide)) (.spaced (by decide))
      (.given (.spaced (by decide))) close (by decide))
  · exact .assign (by decide)
  · exact .setVariable (by decide) line (.spaced (by decide)) slash

theorem applyChanges_mixedChanges :
    TagNames.standard.Plain ∧ (∀ g ∈ mixedChanges, Legible (ChangeText .standard) g) ∧
      State.applyChanges .standard (String.ofList (textOf mixedChanges)) {} =
        Batch.execute Batch.perform
          [.setVariable "x" "", .assign "x += 1", .setHidden ⟨"h", "x > 1", true, "v"⟩] "abc" {} :=
  ⟨TagNames.plain_standard, legible_mixedChanges,
    State.applyChanges_textOf TagNames.plain_standard legible_mixedChanges {}⟩

end StoryState
