import StoryState.Proofs.Directive.WrittenChange

/-!
Registrations as they are written, alone or as items of a block, and that each form reads in a text
of written registrations those under its own head and no other ones (`registrationForms_read`).
-/

namespace StoryState

open StoryState.Text StoryState.Directive

/-- The head of a registration. -/
def Registration.head : Registration → Head
  | .newVariable _ => ⟨.registerVar, false⟩
  | .newVariables _ => ⟨.registerVars, true⟩
  | .newHidden _ => ⟨.registerHiddenVar, false⟩
  | .newTable .. => ⟨.registerTable, false⟩
  | .dropVariable _ => ⟨.unregisterVar, false⟩
  | .dropVariables _ => ⟨.unregisterVars, true⟩
  | .dropTable _ => ⟨.unregisterTable, false⟩
  | .dropHidden _ => ⟨.unregisterHiddenVar, false⟩

namespace Directive

/-! ### Variables and names -/

/-- The cases of a variable as they are written, or nothing for none. -/
inductive CasesText : Option String → List Char → Prop
  | absent : CasesText none []
  | given {literal : String} {s : List Char} (text : AttributeText '\'' "conditional" literal s) :
    CasesText (some literal) s

/-- A new variable as it is written under a tag. -/
inductive VariableText (tag : String) (fields : VariableFields) : List Char → Prop
  | intro {a b i x e : List Char} (named : fields.name ≠ "") (typed : fields.declared ≠ "")
    (name : AttributeText '"' "name" fields.name a)
    (declared : AttributeText '"' "type" fields.declared b)
    (initial : AttributeText '"' "initVal" fields.initial i)
    (branches : CasesText fields.branches x) (ends : EndText ['/', '>'] e) :
    VariableText tag fields (opened tag (a ++ (b ++ (i ++ (x ++ e)))))

/-- A name as it is written under a tag. -/
inductive NameText (tag name : String) : List Char → Prop
  | intro {a e : List Char} (named : name ≠ "") (key : AttributeText '"' "name" name a)
    (ends : EndText ['/', '>'] e) : NameText tag name (opened tag (a ++ e))

theorem isKey_type : IsKey "type" := by decide

theorem isKey_initVal : IsKey "initVal" := by decide

theorem isKey_conditional : IsKey "conditional" := by decide

theorem isKey_columns : IsKey "columns" := by decide

section Variables

variable {tag name : String} {fields : VariableFields} {raw x : List Char}

theorem CasesText.unmarked {literal : Option String} (h : CasesText literal x) : Unmarked x := by
  cases h with
  | absent => exact fun c hc => nomatch hc
  | given text => exact text.unmarked isKey_conditional (by decide)

theorem VariableText.selfClosed (h : VariableText tag fields raw) : SelfClosed tag raw := by
  obtain ⟨-, -, name, declared, initial, branches, ends⟩ := h
  refine .intro name ?_
  simp only [unmarked_append]
  exact ⟨name.unmarked isKey_name (by decide), declared.unmarked isKey_type (by decide),
    initial.unmarked isKey_initVal (by decide), branches.unmarked, ends.unmarked unmarked_slash⟩

theorem NameText.selfClosed (h : NameText tag name raw) : SelfClosed tag raw := by
  obtain ⟨-, key, ends⟩ := h
  refine .intro key (unmarked_append.2 ⟨?_, ends.unmarked unmarked_slash⟩)
  exact key.unmarked isKey_name (by decide)

theorem finds_variableFields (h : VariableText tag fields raw) :
    Finds (variableFields? tag) raw fields := by
  obtain ⟨_, _, _, literal⟩ := fields
  cases h with
  | @intro a b i x e named typed name declared initial branches ends =>
    refine ⟨opened_ne_nil _ _, fun rest => ?_⟩
    simp only [opened_append, List.append_assoc, variableFields?, opening?_opened, bind,
      Option.bind_some, name.readsNonEmpty isKey_name named,
      declared.readsNonEmpty isKey_type typed, initial.reads isKey_initVal]
    cases branches with
    | absent =>
      have hnone (rest : List Char) : attributeEither? "conditional" quoted? (e ++ rest) = none := by
        rw [attributeEither?, ends.noAttribute (by decide) rfl (by decide)]
        rfl
      simp [hnone, ends.reads isMark_slash]
    | given text => simp [text.readsEither isKey_conditional, ends.reads isMark_slash]

theorem finds_nameOnly (h : NameText tag name raw) : Finds (nameOnly? tag) raw name := by
  cases h with
  | intro named key ends =>
    refine ⟨opened_ne_nil _ _, fun rest => ?_⟩
    simp [nameOnly?, key.readsNonEmpty isKey_name named, ends.reads isMark_slash]

theorem heeds_variableFields : Heeds (variableFields? tag) tag false :=
  heeds_attributes fun t h => by simp [attributeNonEmpty?_of_none h]

theorem heeds_nameOnly : Heeds (nameOnly? tag) tag false :=
  heeds_attributes fun t h => by simp [attributeNonEmpty?_of_none h]

end Variables

/-! ### Blocks of items -/

theorem plainName_item : PlainName itemTag := ⟨by decide, List.all_eq_true.1 (by decide +kernel)⟩

/-- No tag's own name is that of an item. -/
theorem standard_ne_itemTag (t : Tag) : TagNames.standard t ≠ itemTag := by
  cases t <;> decide

section Items

variable {α : Type} {written : α → List Char → Prop} {segs : List (Segment α)}

theorem SelfClosed.notMem {raw : List Char} (h : SelfClosed itemTag raw) : '&' ∉ raw := by
  cases h with
  | intro first unmarked => exact plainName_item.notMem_opened unmarked.notMem

theorem Heeds.overlooks_item {scan : Scanner α} {tag : String} {bare : Bool}
    (heeds : Heeds scan tag bare) (htag : PlainName tag) (hne : tag ≠ itemTag) {raw : List Char}
    (h : SelfClosed itemTag raw) : Overlooks scan raw := by
  cases h with
  | @intro key value a u first unmarked =>
    obtain ⟨c, t, htext, hc⟩ := first.exists_marks u
    rw [htext] at unmarked ⊢
    exact heeds.overlooks_opened htag plainName_item hc (fun h => absurd h.symm hne)
      (heeds.atTags.overlooks unmarked)

/-- A scanner of items reads all items of a block. -/
theorem hits_items {scan : Scanner α} {tag : String} {bare : Bool} (heeds : Heeds scan tag bare)
    (finds : ∀ a raw, written a raw → Finds scan raw a) (h : ∀ g ∈ segs, Legible written g) :
    hits scan (textOf segs) = fieldsOf segs := by
  refine hits_textOf fun g hg => ?_
  have hlegible := h g hg
  cases g with
  | plain c => exact heeds.atTags.overlooks_plain hlegible
  | hit raw a => exact finds a raw hlegible

/-- Items of a block are overlooked by what overlooks each of them. -/
theorem overlooks_items {β : Type} {scan : Scanner β} (atTags : AtTags scan)
    (hitem : ∀ raw, SelfClosed itemTag raw → Overlooks scan raw)
    (hclosed : ∀ a raw, written a raw → SelfClosed itemTag raw)
    (h : ∀ g ∈ segs, Legible written g) : Overlooks scan (textOf segs) := by
  refine Overlooks.flatMap fun g hg => ?_
  have hlegible := h g hg
  cases g with
  | plain c => exact atTags.overlooks_plain hlegible
  | hit raw a => exact hitem raw (hclosed a raw hlegible)

end Items

/-! ### Registrations -/

/-- The heads of registrations, in the order in which they are carried out. -/
def registrationHeads : List Head :=
  [⟨.registerVar, false⟩, ⟨.registerVars, true⟩, ⟨.registerHiddenVar, false⟩, ⟨.registerTable, false⟩,
    ⟨.unregisterVar, false⟩, ⟨.unregisterVars, true⟩, ⟨.unregisterTable, false⟩,
    ⟨.unregisterHiddenVar, false⟩]

/-- A registration as it is written. -/
inductive RegistrationText (names : TagNames) : Registration → List Char → Prop
  | newVariable {fields : VariableFields} {raw : List Char}
    (text : VariableText (names .registerVar) fields raw) :
    RegistrationText names (.newVariable fields) raw
  | newVariables {items : List (Segment VariableFields)}
    (legible : ∀ g ∈ items, Legible (VariableText itemTag) g) :
    RegistrationText names (.newVariables (fieldsOf items))
      (opened (names .registerVars) ('>' :: (textOf items ++ closing (names .registerVars))))
  | newHidden {fields : HiddenFields} {raw : List Char}
    (text : HiddenText (names .registerHiddenVar) fields raw) :
    RegistrationText names (.newHidden fields) raw
  | newTable {name columns : String} {a b e : List Char} (named : name ≠ "") (columned : columns ≠ "")
    (ha : AttributeText '"' "name" name a) (hb : AttributeText '\'' "columns" columns b)
    (he : EndText ['/', '>'] e) :
    RegistrationText names (.newTable name columns) (opened (names .registerTable) (a ++ (b ++ e)))
  | dropVariable {name : String} {raw : List Char}
    (text : NameText (names .unregisterVar) name raw) :
    RegistrationText names (.dropVariable name) raw
  | dropVariables {items : List (Segment String)}
    (legible : ∀ g ∈ items, Legible (NameText itemTag) g) :
    RegistrationText names (.dropVariables (fieldsOf items))
      (opened (names .unregisterVars) ('>' :: (textOf items ++ closing (names .unregisterVars))))
  | dropTable {name : String} {raw : List Char}
    (text : NameText (names .unregisterTable) name raw) :
    RegistrationText names (.dropTable name) raw
  | dropHidden {name : String} {raw : List Char}
    (text : NameText (names .unregisterHiddenVar) name raw) :
    RegistrationText names (.dropHidden name) raw

section Registrations

variable {names : TagNames} {r : Registration} {raw : List Char}

theorem headed_registration (plain : names.Plain) (noItem : ∀ t, names t ≠ itemTag)
    (h : RegistrationText names r raw) : Headed names r.head raw := by
  have hblock {tag : Tag} {α : Type} {written : α → List Char → Prop} {items : List (Segment α)}
      (hclosed : ∀ a raw, written a raw → SelfClosed itemTag raw)
      (legible : ∀ g ∈ items, Legible written g) : Headed names ⟨tag, true⟩
        (opened (names tag) ('>' :: (textOf items ++ closing (names tag)))) :=
    headed_bare plain (fun heeds => overlooks_items heeds.atTags
      (fun _ hitem => heeds.overlooks_item (plain.name _) (noItem _) hitem) hclosed legible)
      (notMem_textOf (fun a raw h => (hclosed a raw h).notMem) legible)
  cases h with
  | newVariable text => exact headed_selfClosed plain text.selfClosed
  | newVariables legible => exact hblock (fun _ _ => VariableText.selfClosed) legible
  | newHidden text => exact headed_hiddenFields plain text
  | newTable named columned ha hb he =>
    refine headed_selfClosed plain (.intro ha ?_)
    simp only [unmarked_append]
    exact ⟨ha.unmarked isKey_name (by decide), hb.unmarked isKey_columns (by decide),
      he.unmarked unmarked_slash⟩
  | dropVariable text => exact headed_selfClosed plain text.selfClosed
  | dropVariables legible => exact hblock (fun _ _ => NameText.selfClosed) legible
  | dropTable text => exact headed_selfClosed plain text.selfClosed
  | dropHidden text => exact headed_selfClosed plain text.selfClosed

theorem overlooks_closer_item {tag : String} (h : SelfClosed itemTag raw) :
    Overlooks (closer tag) raw := by
  cases h with
  | intro first unmarked => exact overlooks_closer plainName_item ((atTags_closer _).overlooks unmarked)

theorem finds_newVariable {fields : VariableFields}
    (h : RegistrationText names (.newVariable fields) raw) :
    Finds (newVariable? (names .registerVar)) raw (.newVariable fields) := by
  cases h with
  | newVariable text => exact (finds_variableFields text).map

theorem finds_newVariables {items : List VariableFields}
    (h : RegistrationText names (.newVariables items) raw) :
    Finds (newVariables? (names .registerVars)) raw (.newVariables items) := by
  cases h with
  | newVariables legible =>
    refine ⟨opened_ne_nil _ _, fun rest => ?_⟩
    have hblock := overlooks_items (atTags_closer (names .registerVars))
      (fun _ => overlooks_closer_item) (fun _ _ => VariableText.selfClosed) legible
    have hitems := hits_items heeds_variableFields (fun _ _ => finds_variableFields) legible
    simp [newVariables?, block?_opened hblock, hitems]

theorem finds_newHidden {fields : HiddenFields}
    (h : RegistrationText names (.newHidden fields) raw) :
    Finds (newHidden? (names .registerHiddenVar)) raw (.newHidden fields) := by
  cases h with
  | newHidden text => exact (finds_hiddenFields text).map

theorem finds_newTable {name columns : String}
    (h : RegistrationText names (.newTable name columns) raw) :
    Finds (newTable? (names .registerTable)) raw (.newTable name columns) := by
  cases h with
  | newTable named columned ha hb he =>
    refine ⟨opened_ne_nil _ _, fun rest => ?_⟩
    simp [newTable?, ha.readsNonEmpty isKey_name named,
      hb.readsEitherNonEmpty isKey_columns columned, he.reads isMark_slash]

theorem finds_dropVariable {name : String} (h : RegistrationText names (.dropVariable name) raw) :
    Finds (dropVariable? (names .unregisterVar)) raw (.dropVariable name) := by
  cases h with
  | dropVariable text => exact (finds_nameOnly text).map

theorem finds_dropVariables {items : List String}
    (h : RegistrationText names (.dropVariables items) raw) :
    Finds (dropVariables? (names .unregisterVars)) raw (.dropVariables items) := by
  cases h with
  | dropVariables legible =>
    refine ⟨opened_ne_nil _ _, fun rest => ?_⟩
    have hblock := overlooks_items (atTags_closer (names .unregisterVars))
      (fun _ => overlooks_closer_item) (fun _ _ => NameText.selfClosed) legible
    have hitems := hits_items heeds_nameOnly (fun _ _ => finds_nameOnly) legible
    simp [dropVariables?, block?_opened hblock, hitems]

theorem finds_dropTable {name : String} (h : RegistrationText names (.dropTable name) raw) :
    Finds (dropTable? (names .unregisterTable)) raw (.dropTable name) := by
  cases h with
  | dropTable text => exact (finds_nameOnly text).map

theorem finds_dropHidden {name : String} (h : RegistrationText names (.dropHidden name) raw) :
    Finds (dropHidden? (names .unregisterHiddenVar)) raw (.dropHidden name) := by
  cases h with
  | dropHidden text => exact (finds_nameOnly text).map

theorem heeds_newTable {tag : String} : Heeds (newTable? tag) tag false :=
  heeds_attributes fun t h => by simp [attributeNonEmpty?_of_none h]

/-- Each form of a registration reads the written registrations under its head and no other ones. -/
theorem registrationForms_read (plain : names.Plain) (noItem : ∀ t, names t ≠ itemTag) :
    List.Forall₂ (fun form k => ∀ g, Legible (RegistrationText names) g →
      g.ReadBy form fun r => r.head = k) (registrationForms names) registrationHeads := by
  have headed : ∀ r raw, RegistrationText names r raw → Headed names r.head raw :=
    fun _ _ => headed_registration plain noItem
  refine .cons (readBy_of_heeds heeds_variableFields.map ?_ headed) <|
    .cons (readBy_of_heeds heeds_block.map ?_ headed) <|
    .cons (readBy_of_heeds heeds_hiddenFields.map ?_ headed) <|
    .cons (readBy_of_heeds heeds_newTable ?_ headed) <|
    .cons (readBy_of_heeds heeds_nameOnly.map ?_ headed) <|
    .cons (readBy_of_heeds heeds_block.map ?_ headed) <|
    .cons (readBy_of_heeds heeds_nameOnly.map ?_ headed) <|
    .cons (readBy_of_heeds heeds_nameOnly.map ?_ headed) .nil
  · intro r raw h hr
    cases r <;> first | exact finds_newVariable h | cases hr
  · intro r raw h hr
    cases r <;> first | exact finds_newVariables h | cases hr
  · intro r raw h hr
    cases r <;> first | exact finds_newHidden h | cases hr
  · intro r raw h hr
    cases r <;> first | exact finds_newTable h | cases hr
  · intro r raw h hr
    cases r <;> first | exact finds_dropVariable h | cases hr
  · intro r raw h hr
    cases r <;> first | exact finds_dropVariables h | cases hr
  · intro r raw h hr
    cases r <;> first | exact finds_dropTable h | cases hr
  · intro r raw h hr
    cases r <;> first | exact finds_dropHidden h | cases hr

end Registrations

end Directive

end StoryState
