import StoryState.Proofs.Directive.Brief
import StoryState.Proofs.Directive.System

/-!
The directive that registers the variables of every script, where tags have other names. It is written with
fixed tags but read by the names of the tags, so it registers all of them just under some names
(`State.applyRegistrations_renamed_iff`): where a single variable has the tag of an item of the block, or
where the block has its own tag and no part of the directive is taken for a single variable.

Under other names too few variables are registered. What is read costs tags: an opening bracket of the
directive belongs to one match only, a match for a single variable has two of them unless its tag is that of
an item, and a match for a block has two more than there are items in it. There are eight in all.
-/

namespace StoryState

open StoryState.Text StoryState.Directive

namespace Directive

/-! ### What is read behind an opening -/

section Reading

variable {α : Type} {tag key value : String} {s u r : List Char}

theorem suffix_of_skipBlanks1? (h : skipBlanks1? s = some r) : r <:+ s := by
  cases s with
  | nil => cases h
  | cons c s =>
    rw [skipBlanks1?] at h
    split at h
    · cases h
      exact (List.dropWhile_suffix _).trans (List.suffix_cons c s)
    · cases h

theorem mem_of_attributeNonEmpty? (h : attributeNonEmpty? key s = some (value, r)) : '=' ∈ s := by
  obtain ⟨t, hname, -⟩ := Option.bind_eq_some_iff.1 h
  obtain ⟨u, hblanks, hkey⟩ := Option.bind_eq_some_iff.1 hname
  refine (suffix_of_skipBlanks1? hblanks).mem ?_
  rw [dropLead?_eq_some_iff.1 hkey]
  simp

/-- What has an attribute behind the opening of its tag is not read where there is none. -/
theorem mem_of_opening? {next : String × List Char → Option α} {a : α}
    (h : (opening? tag s).bind (fun t => (attributeNonEmpty? key t).bind next) = some a) : '=' ∈ s := by
  obtain ⟨t, hopening, h⟩ := Option.bind_eq_some_iff.1 h
  obtain ⟨⟨value, u⟩, hkey, -⟩ := Option.bind_eq_some_iff.1 h
  rw [dropLead?_eq_some_iff.1 hopening]
  exact List.mem_append_right _ (mem_of_attributeNonEmpty? hkey)

/-- A variable is read behind the opening of its tag, whatever the tag is. -/
theorem variableFields?_eq (tag : String) (s : List Char) : variableFields? tag s =
    (opening? tag s).bind fun u => variableFields? "" (opened "" u) := by
  unfold variableFields?
  cases opening? tag s with
  | none => rfl
  | some u =>
    rw [Option.bind_some, opening?_opened]

theorem length_of_attributeEither? (h : attributeEither? key quoted? s = some (value, r)) :
    r.length ≤ s.length := by
  obtain ⟨t, hname, hquoted⟩ := Option.bind_eq_some_iff.1 h
  obtain ⟨u, hblanks, hkey⟩ := Option.bind_eq_some_iff.1 hname
  have hlen := (length_of_dropLead? hkey).trans (length_of_skipBlanks1? hblanks)
  refine Nat.le_trans ?_ hlen
  cases hdouble : quoted? '"' t with
  | some found =>
    rw [hdouble] at hquoted
    cases hquoted
    exact (Nat.le_add_left ..).trans (length_of_quoted? hdouble)
  | none =>
    rw [hdouble] at hquoted
    exact (Nat.le_add_left ..).trans (length_of_quoted? hquoted)

theorem length_conditional (s : List Char) :
    (match attributeEither? key quoted? s with
      | some (literal, rest) => (some literal, rest)
      | none => (none, s) : Option String × List Char).2.length ≤ s.length := by
  split
  · exact length_of_attributeEither? ‹_›
  · exact Nat.le_refl _

/-- A variable is read from the opening of its tag on, and beyond. -/
theorem opened_of_variableFields? {fields : VariableFields} (h : variableFields? tag s = some (fields, r)) :
    ∃ u, s = opened tag u ∧ variableFields? "" (opened "" u) = some (fields, r) ∧ r.length ≤ u.length := by
  rw [variableFields?_eq] at h
  obtain ⟨u, hopening, hread⟩ := Option.bind_eq_some_iff.1 h
  refine ⟨u, dropLead?_eq_some_iff.1 hopening, hread, ?_⟩
  unfold variableFields? at hread
  simp only [Option.bind_eq_bind, Option.bind_eq_some_iff, Option.pure_def, opening?_opened] at hread
  obtain ⟨s₁, h₁, ⟨name, s₂⟩, h₂, ⟨declared, s₃⟩, h₃, ⟨initial, s₄⟩, h₄, s₅, h₅, heq⟩ := hread
  cases h₁
  cases heq
  have := length_of_attributeNonEmpty? h₂
  have := length_of_attributeNonEmpty? h₃
  have := length_of_attribute? h₄
  have := ((length_of_dropLead? h₅).trans (length_skipBlanks _)).trans (length_conditional s₄)
  dsimp only at *
  omega

end Reading

/-! ### Matches and their brackets -/

section Brackets

variable {tag : String} {raw s u rest : List Char} {r : Registration}

/-- What is read from the opening of a tag on, and beyond, has the brackets of the opening. -/
theorem count_le_of_opened (tag : String) (h : rest.length ≤ u.length) :
    tag.toList.count '<' + 1 ≤ ((opened tag u).take ((opened tag u).length - rest.length)).count '<' := by
  have hlead : opened tag u = opened tag [] ++ u := by simp [opened]
  have hsize : (opened tag []).length ≤ (opened tag u).length - rest.length := by
    rw [hlead, List.length_append]
    omega
  have hprefix : opened tag [] <+: (opened tag u).take ((opened tag u).length - rest.length) := by
    rw [hlead] at hsize ⊢
    rw [List.take_append, List.take_of_length_le hsize]
    exact List.prefix_append ..
  have hcount := hprefix.sublist.count_le '<'
  simpa [opened] using hcount

theorem length_hits_variableFields? (tag : String) (s : List Char) :
    (hits (variableFields? tag) s).length ≤ s.count '<' := by
  have hsum := count_substitute_add_sum (variableFields? tag) (fun _ => false) (fun _ => 1) s '<'
    fun raw fields hraw => by
      obtain ⟨t, rest, -, hread, rfl⟩ := exists_of_hit_mem hraw
      obtain ⟨u, rfl, -, hlen⟩ := opened_of_variableFields? hread
      exact ⟨rfl, (Nat.le_add_left ..).trans (count_le_of_opened tag hlen)⟩
  rw [List.map_const', List.sum_replicate] at hsum
  simp only [smul_eq_mul, mul_one] at hsum
  omega

/-- A block has two brackets more than items. -/
theorem newVariables_of_hit (h : .hit raw r ∈ segments (newVariables? tag) s) :
    ∃ items, r = .newVariables items ∧ items.length + 2 ≤ raw.count '<' := by
  obtain ⟨t, rest, -, hread, rfl⟩ := exists_of_hit_mem h
  obtain ⟨⟨content, rest'⟩, hblock, heq⟩ := Option.map_eq_some_iff.1 hread
  cases heq
  refine ⟨_, rfl, ?_⟩
  have hitems := length_hits_variableFields? itemTag content.toList
  have hraw : t = opened tag ('>' :: (content.toList ++ closing tag)) ++ rest := by
    rw [eq_of_block? hblock]
    simp [opened]
  rw [hraw, List.length_append, Nat.add_sub_cancel, List.take_left]
  simp only [opened, closing, List.count_cons, List.count_append, beq_self_eq_true, if_true]
  omega

end Brackets

end Directive

/-! ### What registrations do to the names of variables -/

/-- The names of the variables that a registration registers. -/
def Registration.variableNames : Registration → List String
  | .newVariable fields => [fields.name]
  | .newVariables items => items.map (·.name)
  | _ => []

namespace Batch

variable {P : String → Prop}

/-- Only variables with some names are new. -/
def OnlyNames (P : String → Prop) (_ : Bool) (b b' : Batch) : Prop :=
  ∀ name ∈ Entries.keys b'.state.vars, name ∈ Entries.keys b.state.vars ∨ P name

theorem composes_onlyNames (P : String → Prop) : Composes (OnlyNames P) where
  refl _ _ _ h := .inl h
  trans h h' name hname := (h' name hname).elim (h name) .inr

theorem onlyNames_modify {g : Batch → Batch}
    (h : ∀ b, ∀ name ∈ Entries.keys (g b).state.vars, name ∈ Entries.keys b.state.vars ∨ P name) :
    Moves (OnlyNames P) (modify g : BatchM Unit) := h

theorem onlyNames_log (line : String) : Moves (OnlyNames P) (log line) :=
  onlyNames_modify fun _ _ h => .inl h

theorem onlyNames_error (line : String) : Moves (OnlyNames P) (error line) :=
  onlyNames_modify fun _ _ h => .inl h

theorem onlyNames_registerVariable {fields : VariableFields} (h : P fields.name) :
    Moves (OnlyNames P) (registerVariable fields) := by
  have hP := composes_onlyNames P
  unfold registerVariable
  cases branchesOf fields.branches with
  | error e => exact hP.bind (onlyNames_error _) fun _ => hP.pure _
  | ok branches =>
    dsimp only
    cases Kind.ofName? fields.declared with
    | none => exact hP.bind (onlyNames_log _) fun _ => hP.pure _
    | some kind =>
      refine hP.bind (hP.lift _) fun value => hP.bind ?_ fun _ => hP.bind (onlyNames_log _) fun _ => hP.pure _
      refine onlyNames_modify fun b name hname => ?_
      rcases Entries.mem_keys_put.1 hname with rfl | hname
      · exact .inr h
      · exact .inl hname

theorem onlyNames_registerHidden (fields : HiddenFields) : Moves (OnlyNames P) (registerHidden fields) := by
  have hP := composes_onlyNames P
  refine hP.bind (onlyNames_modify fun _ _ h => .inl h) fun _ => ?_
  exact hP.bind (onlyNames_log _) fun _ => onlyNames_log _

theorem onlyNames_registerTable (name literal : String) :
    Moves (OnlyNames P) (registerTable name literal) := by
  have hP := composes_onlyNames P
  unfold registerTable
  cases readColumns literal with
  | error e => exact hP.bind (onlyNames_error _) fun _ => hP.pure _
  | ok columns =>
    refine hP.bind (onlyNames_modify fun _ _ h => .inl h) fun _ => hP.bind (onlyNames_log _) fun _ => ?_
    exact hP.bind (hP.forM _ fun _ _ => onlyNames_log _) fun _ => hP.pure _

/-- Dropping something leaves no variable that was not there. -/
theorem onlyNames_drop (has : State → Bool) (drop : State → State) (sort name : String)
    (h : ∀ s, ∀ name ∈ Entries.keys (drop s).vars, name ∈ Entries.keys s.vars) :
    Moves (OnlyNames P) (do
      if has (← get).state then
        modify fun b => { b with state := drop b.state }
        logDropped sort name) := by
  have hP := composes_onlyNames P
  intro b
  rw [gives_bind, gives_get]
  dsimp only
  split
  · exact hP.bind (onlyNames_modify fun b name hname => .inl (h b.state name hname))
      (fun _ => onlyNames_log _) b
  · exact hP.refl true b

theorem onlyNames_dropVariable (name : String) : Moves (OnlyNames P) (dropVariable name) := by
  refine onlyNames_drop (fun s => s.vars.has name) (fun s => { s with vars := s.vars.erase name }) "变量" name
    fun s k hk => ?_
  rw [Entries.keys_erase] at hk
  exact List.mem_of_mem_filter hk

theorem onlyNames_enroll {r : Registration} (h : ∀ name ∈ r.variableNames, P name) :
    Moves (OnlyNames P) (enroll r) := by
  have hP := composes_onlyNames P
  have hdone {m : BatchM Unit} (hm : Moves (OnlyNames P) m) :
      Moves (OnlyNames P) (discard (do m; return [] : BatchM (List Char)) : BatchM Unit) := by
    rw [discard_eq]
    exact hP.map (hP.map hm)
  cases r with
  | newVariable fields =>
    rw [enroll_newVariable, discard_eq]
    exact hP.map (onlyNames_registerVariable (h _ List.mem_cons_self))
  | newVariables items =>
    rw [enroll_newVariables]
    refine hP.forM items fun fields hfields => ?_
    rw [discard_eq]
    exact hP.map (onlyNames_registerVariable (h _ (List.mem_map_of_mem hfields)))
  | newHidden fields => exact hdone (onlyNames_registerHidden fields)
  | newTable name columns =>
    rw [enroll_newTable, discard_eq]
    exact hP.map (onlyNames_registerTable name columns)
  | dropVariable name => exact hdone (onlyNames_dropVariable name)
  | dropVariables names => exact hdone (hP.forM names fun name _ => onlyNames_dropVariable name)
  | dropTable name =>
    exact hdone (onlyNames_drop (fun s => s.tables.has name)
      (fun s => { s with tables := s.tables.erase name }) "表格" name fun _ _ => id)
  | dropHidden name =>
    exact hdone (onlyNames_drop (fun s => s.hidden.has name)
      (fun s => { s with hidden := s.hidden.erase name }) "隐变量" name fun _ _ => id)

end Batch

/-- The state behind the registrations of a text. -/
theorem State.applyRegistrations_eq_forM (names : TagNames) (text : String) (s : State) :
    (s.applyRegistrations names text).2 =
      (((Registration.foundIn names text).forM Batch.enroll).run { state := s }).2.state := by
  rw [State.applyRegistrations, Batch.register_eq, Batch.run_eq, Batch.execute, Registration.foundIn]
  generalize Batch.agenda _ _ _ = found
  rfl

/-- A text registers no variables but those of the registrations found in it. -/
theorem State.keys_applyRegistrations {names : TagNames} {text : String} {s : State} {name : String}
    (h : name ∈ Entries.keys (s.applyRegistrations names text).2.vars) :
    name ∈ Entries.keys s.vars ∨
      name ∈ (Registration.foundIn names text).flatMap Registration.variableNames := by
  rw [State.applyRegistrations_eq_forM] at h
  generalize Registration.foundIn names text = found at h ⊢
  have honly : Moves (Batch.OnlyNames (· ∈ found.flatMap Registration.variableNames))
      (found.forM Batch.enroll) :=
    (Batch.composes_onlyNames _).forM found fun r hr => Batch.onlyNames_enroll fun name hname =>
      List.mem_flatMap.2 ⟨r, hr, hname⟩
  exact honly { state := s } name h

/-! ### The directive by other names -/

/-- The directive as a text. -/
def systemText : List Char := textOf systemSegments

/-- What is left of the directive when single variables have been registered. -/
def systemRest (names : TagNames) : List Char :=
  substitute (newVariable? (names .registerVar)) (dropUnless Registration.stays) systemText

theorem foundIn_systemDirective (names : TagNames) : Registration.foundIn names systemDirective =
    hits (newVariable? (names .registerVar)) systemText ++
      Batch.agenda Registration.stays (registrationForms names).tail (systemRest names) := by
  rw [Registration.foundIn, decodeEntities_systemDirective]
  rfl

section Facts

/-- What is read from any place of the directive on is one of its items; what is read behind a bracket, with no
other bracket between, follows the tag of an item; and the only closing tag is that of the block. -/
theorem suffixes_systemText : ∀ v ∈ systemText.tails,
    (∀ x ∈ variableFields? "" (opened "" v), x.1 ∈ systemVariables.map .ofText) ∧
      (v.head? = some '<' → ∀ n ≤ (v.tail.takeWhile (· ≠ '<')).length,
        (variableFields? "" (opened "" (v.tail.drop n))).isSome = true → v.tail.take n = itemTag.toList) ∧
      (['<', '/'] <+: v → v = closing "registerVars") := by
  decide +kernel

/-- How many brackets there are; the items as single variables, and that nothing of them is left. -/
theorem items_systemText : systemText.count '<' = 8 ∧
    hits (newVariable? itemTag) systemText = systemVariables.map (fun x => .newVariable (.ofText x)) ∧
      '=' ∉ substitute (newVariable? itemTag) (dropUnless Registration.stays) systemText := by
  decide +kernel

/-- The block by its own tag. -/
theorem finds_systemText :
    Finds (newVariables? "registerVars") systemText (.newVariables (systemVariables.map .ofText)) := by
  rw [← fieldsOf_systemItems, systemText, systemSegments, textOf_cons, textOf_nil, List.append_nil]
  have htext : RegistrationText .standard (.newVariables (fieldsOf systemItems)) _ :=
    .newVariables legible_systemItems
  have hfinds := finds_newVariables htext
  exact hfinds

end Facts

variable {names : TagNames}

/-- A match for a single variable is an item with its text, and has two brackets unless the tag is that of an
item. -/
theorem newVariable_of_hit {tag : String} {raw : List Char} {r : Registration}
    (h : .hit raw r ∈ segments (newVariable? tag) systemText) :
    ∃ x ∈ systemVariables, r = .newVariable (.ofText x) ∧ (tag ≠ itemTag → 2 ≤ raw.count '<') := by
  obtain ⟨t, rest, hend, hread, rfl⟩ := exists_of_hit_mem h
  obtain ⟨⟨fields, rest'⟩, hfields, heq⟩ := Option.map_eq_some_iff.1 hread
  cases heq
  obtain ⟨u, rfl, hbehind, hlen⟩ := opened_of_variableFields? hfields
  have hu : u <:+ opened tag u := ⟨opened tag [], by simp [opened]⟩
  obtain ⟨x, hx, rfl⟩ := List.mem_map.1
    ((suffixes_systemText u ((List.mem_tails _ _).2 (hu.trans hend))).1 _ hbehind)
  refine ⟨x, hx, rfl, fun hne => ?_⟩
  have hcount := count_le_of_opened tag hlen
  have htag : '<' ∈ tag.toList := by
    by_contra hnone
    have hpos : ∀ c ∈ tag.toList, decide (c ≠ '<') = true := fun c hc =>
      decide_eq_true fun h => hnone (h ▸ hc)
    have hbound : tag.toList.length ≤ ((tag.toList ++ u).takeWhile (· ≠ '<')).length := by
      rw [List.takeWhile_append_of_pos hpos, List.length_append]
      exact Nat.le_add_right ..
    obtain ⟨-, hbracket, -⟩ := suffixes_systemText (opened tag u) ((List.mem_tails _ _).2 hend)
    have htake := hbracket rfl _ hbound (by
      show (variableFields? "" (opened "" ((tag.toList ++ u).drop tag.toList.length))).isSome = true
      rw [List.drop_left, hbehind]
      rfl)
    rw [show (opened tag u).tail = tag.toList ++ u from rfl, List.take_left] at htake
    exact hne (String.toList_inj.1 htake)
  have := List.count_pos_iff.2 htag
  omega

/-- A block in the directive has the tag of its own. -/
theorem tag_of_mem_hits {tag : String} {r : Registration} (h : r ∈ hits (newVariables? tag) systemText) :
    tag = "registerVars" := by
  obtain ⟨t, rest, hend, hread⟩ := exists_of_mem_hits h
  obtain ⟨⟨content, rest'⟩, hblock, -⟩ := Option.map_eq_some_iff.1 hread
  have hclosing : closing tag ++ rest' <:+ systemText := by
    refine List.IsSuffix.trans ⟨opened tag ('>' :: content.toList), ?_⟩ hend
    rw [eq_of_block? hblock]
    simp [opened]
  obtain ⟨-, -, hclose⟩ := suffixes_systemText _ ((List.mem_tails _ _).2 hclosing)
  have heq := hclose ⟨tag.toList ++ '>' :: rest', by simp [closing]⟩
  have hnames : tag.toList ++ '>' :: rest' = "registerVars".toList ++ ['>'] := by
    simpa [closing] using heq
  have hnone : '>' ∉ "registerVars".toList := by decide
  rcases List.append_eq_append_iff.1 hnames with ⟨behind, hregister, hrest⟩ | ⟨behind, htag, hrest⟩
  · cases behind with
    | nil => exact (String.toList_inj.1 (by simpa using hregister)).symm
    | cons c behind =>
      obtain rfl : '>' = c := (List.cons.inj hrest).1
      exact absurd (hregister ▸ by simp) hnone
  · cases behind with
    | nil => exact String.toList_inj.1 (by simpa using htag)
    | cons c behind =>
      have hlength := congrArg List.length hrest
      simp at hlength

/-- The forms behind those of variables register none. -/
theorem variableNames_of_form {form : Scanner Registration} (h : form ∈ (registrationForms names).drop 2)
    {s rest : List Char} {r : Registration} (hread : form s = some (r, rest)) : r.variableNames = [] := by
  have hmap {α : Type} {scan : Scanner α} {f : α → Registration} (hf : ∀ a, (f a).variableNames = [])
      (hread : ((scan s).map fun found => (f found.1, found.2)) = some (r, rest)) : r.variableNames = [] := by
    obtain ⟨⟨a, t⟩, -, heq⟩ := Option.map_eq_some_iff.1 hread
    cases heq
    exact hf a
  simp only [registrationForms, List.drop, List.mem_cons, List.not_mem_nil, or_false] at h
  rcases h with rfl | rfl | rfl | rfl | rfl | rfl
  · exact hmap (fun _ => rfl) hread
  · unfold newTable? at hread
    simp only [Option.bind_eq_bind, Option.bind_eq_some_iff, Option.pure_def] at hread
    obtain ⟨_, -, _, -, _, -, _, -, heq⟩ := hread
    cases heq
    rfl
  · exact hmap (fun _ => rfl) hread
  · exact hmap (f := fun content : String => .dropVariables (hits (nameOnly? itemTag) content.toList))
      (fun _ => rfl) hread
  · exact hmap (fun _ => rfl) hread
  · exact hmap (fun _ => rfl) hread

/-- Where a single variable has not the tag of an item, six names cannot be read but from the block by its own
tag, and with nothing read from it before. -/
theorem readable_of_names (hne : names .registerVar ≠ itemTag)
    (h : 6 ≤ ((Registration.foundIn names systemDirective).flatMap Registration.variableNames).length) :
    names .registerVars = "registerVars" ∧ hits (newVariable? (names .registerVar)) systemText = [] := by
  set single := hits (newVariable? (names .registerVar)) systemText with hsingle
  set blocks := hits (newVariables? (names .registerVars)) (systemRest names) with hblocks
  have hlater : ∀ s, (Batch.agenda Registration.stays ((registrationForms names).drop 2) s).flatMap
      Registration.variableNames = [] := fun s =>
    List.flatMap_eq_nil_iff.2 <| Batch.of_mem_agenda (Q := fun _ => True) (fun _ => id)
      (fun _ hform _ _ _ _ hread => variableNames_of_form hform hread) trivial
  have hfound : (Registration.foundIn names systemDirective).flatMap Registration.variableNames =
      single.flatMap Registration.variableNames ++ blocks.flatMap Registration.variableNames := by
    have htail : Batch.agenda Registration.stays (registrationForms names).tail (systemRest names) =
        blocks ++ Batch.agenda Registration.stays ((registrationForms names).drop 2) _ := rfl
    rw [foundIn_systemDirective, htail, List.flatMap_append, List.flatMap_append, hlater, List.append_nil]
  have hnames : (single.flatMap Registration.variableNames).length = single.length := by
    rw [List.length_flatMap, List.map_congr_left (g := fun _ => 1), List.map_const', List.sum_replicate]
    · simp
    · intro r hr
      obtain ⟨raw, hraw⟩ := mem_hits_iff.1 hr
      obtain ⟨x, -, rfl, -⟩ := newVariable_of_hit hraw
      rfl
  have hfirst : (systemRest names).count '<' + 2 * single.length ≤ 8 := by
    have hsum := count_substitute_add_sum (newVariable? (names .registerVar)) Registration.stays (fun _ => 2)
      systemText '<' fun raw r hraw => by
        obtain ⟨x, -, rfl, hcount⟩ := newVariable_of_hit hraw
        exact ⟨rfl, hcount hne⟩
    rw [List.map_const', List.sum_replicate, smul_eq_mul, items_systemText.1, Nat.mul_comm] at hsum
    exact hsum
  have hsecond : (blocks.flatMap Registration.variableNames).length + 2 * blocks.length ≤
      (systemRest names).count '<' := by
    have hsum := count_substitute_add_sum (newVariables? (names .registerVars)) Registration.stays
      (fun r => r.variableNames.length + 2) (systemRest names) '<' fun raw r hraw => by
        obtain ⟨items, rfl, hcount⟩ := newVariables_of_hit hraw
        exact ⟨rfl, by simpa [Registration.variableNames] using hcount⟩
    rw [← hblocks, List.sum_map_add, List.map_const', List.sum_replicate, smul_eq_mul] at hsum
    rw [List.length_flatMap]
    omega
  rw [hfound, List.length_append] at h
  have hsome : blocks ≠ [] := by
    intro hnone
    rw [hnone, List.flatMap_nil, List.length_nil] at h
    omega
  have hpos := List.length_pos_iff.2 hsome
  have hnil : single = [] := List.length_eq_zero_iff.1 (by omega)
  refine ⟨?_, hnil⟩
  obtain ⟨r, hr⟩ := List.exists_mem_of_ne_nil _ hsome
  rw [hblocks, systemRest, substitute_of_hits_eq_nil (hsingle.symm.trans hnil)] at hr
  exact tag_of_mem_hits hr

/-! ### Where nothing more is registered -/

/-- A block without items. -/
def Registration.Idle (r : Registration) : Prop := r = .newVariables [] ∨ r = .dropVariables []

theorem Registration.Idle.run_enroll {r : Registration} (h : r.Idle) (b : Batch) :
    (Batch.enroll r).run b = (.ok (), b) := by
  rcases h with rfl | rfl <;> rfl

theorem run_forM_idle {l : List Registration} (h : ∀ r ∈ l, r.Idle) (b : Batch) :
    (l.forM Batch.enroll).run b = (.ok (), b) := by
  induction l with
  | nil => rfl
  | cons r l ih =>
    rw [List.forM_eq_forM, List.forM_cons, run_bind, (h r List.mem_cons_self).run_enroll]
    exact ih fun r hr => h r (List.mem_cons_of_mem _ hr)

/-- Without attributes there are no items. -/
theorem hits_eq_nil_of_notMem {α : Type} {scan : Scanner α} {s : List Char}
    (named : ∀ t a rest, scan t = some (a, rest) → '=' ∈ t) (h : '=' ∉ s) : hits scan s = [] := by
  refine List.eq_nil_iff_forall_not_mem.2 fun a ha => ?_
  obtain ⟨t, rest, hend, hread⟩ := exists_of_mem_hits ha
  exact h (hend.mem (named t a rest hread))

theorem mem_of_variableFields? {tag : String} {s rest : List Char} {fields : VariableFields}
    (h : variableFields? tag s = some (fields, rest)) : '=' ∈ s := mem_of_opening? h

theorem mem_of_nameOnly? {tag name : String} {s rest : List Char} (h : nameOnly? tag s = some (name, rest)) :
    '=' ∈ s := mem_of_opening? h

/-- In a text without attributes only empty blocks are read. -/
theorem idle_of_form {form : Scanner Registration} (h : form ∈ registrationForms names) {s rest : List Char}
    {r : Registration} (hnone : '=' ∉ s) (hread : form s = some (r, rest)) : r.Idle := by
  have hblock {tag content : String} {t : List Char} (h : block? tag s = some (content, t)) :
      '=' ∉ content.toList := by
    intro hmem
    refine hnone ?_
    rw [eq_of_block? h]
    simp [opened, hmem]
  simp only [registrationForms, List.mem_cons, List.not_mem_nil, or_false] at h
  rcases h with rfl | rfl | rfl | rfl | rfl | rfl | rfl | rfl
  · obtain ⟨⟨fields, t⟩, hfields, -⟩ := Option.map_eq_some_iff.1 hread
    exact absurd (mem_of_variableFields? hfields) hnone
  · obtain ⟨⟨content, t⟩, hcontent, heq⟩ := Option.map_eq_some_iff.1 hread
    cases heq
    exact .inl (congrArg _ (hits_eq_nil_of_notMem (fun _ _ _ => mem_of_variableFields?) (hblock hcontent)))
  · obtain ⟨⟨fields, t⟩, hfields, -⟩ := Option.map_eq_some_iff.1 hread
    exact absurd (mem_of_opening? hfields) hnone
  · exact absurd (mem_of_opening? hread) hnone
  · obtain ⟨⟨name, t⟩, hname, -⟩ := Option.map_eq_some_iff.1 hread
    exact absurd (mem_of_nameOnly? hname) hnone
  · obtain ⟨⟨content, t⟩, hcontent, heq⟩ := Option.map_eq_some_iff.1 hread
    cases heq
    exact .inr (congrArg _ (hits_eq_nil_of_notMem (fun _ _ _ => mem_of_nameOnly?) (hblock hcontent)))
  · obtain ⟨⟨name, t⟩, hname, -⟩ := Option.map_eq_some_iff.1 hread
    exact absurd (mem_of_nameOnly? hname) hnone
  · obtain ⟨⟨name, t⟩, hname, -⟩ := Option.map_eq_some_iff.1 hread
    exact absurd (mem_of_nameOnly? hname) hnone

/-! ### Names under which all is registered -/

/-- By these names all variables of the directive are registered: a single variable has the tag of an item,
or a block has its own tag and no part of the directive is taken for a single variable. -/
def TagNames.ReadsSystem (names : TagNames) : Prop :=
  names .registerVar = itemTag ∨
    names .registerVars = "registerVars" ∧
      hits (newVariable? (names .registerVar)) systemDirective.toList = []

/-- A row of variables with texts, and then empty blocks. -/
theorem state_of_found {l idle : List Registration}
    (hfound : Registration.foundIn names systemDirective = l ++ idle)
    (hl : l.forM Batch.enroll =
      (systemVariables.map VariableFields.ofText).forM fun f => discard (Batch.registerVariable f))
    (hidle : ∀ r ∈ idle, r.Idle) (s : State) :
    (s.applyRegistrations names systemDirective).2 = s.putTexts systemVariables := by
  have hgives : Gives (l.forM Batch.enroll >>= fun _ => idle.forM Batch.enroll) { state := s }
      fun _ b => b.state = s.putTexts systemVariables := by
    rw [gives_bind, hl]
    refine gives_mono (gives_registerTexts systemVariables { state := s }) fun r b hb => ?_
    cases r with
    | error e => exact hb
    | ok u =>
      show ((idle.forM Batch.enroll).run b).2.state = _
      rw [run_forM_idle hidle]
      exact hb
  rw [State.applyRegistrations_eq_forM, hfound, List.forM_eq_forM, List.forM_append]
  exact hgives

theorem State.applyRegistrations_renamed (h : names.ReadsSystem) (s : State) :
    (s.applyRegistrations names systemDirective).2 = s.putTexts systemVariables := by
  have hidle : ∀ rest, '=' ∉ rest → ∀ r ∈ Batch.agenda Registration.stays (registrationForms names).tail rest,
      r.Idle := fun rest hrest =>
    Batch.of_mem_agenda (Q := ('=' ∉ ·)) (fun hleft hnone hmem => hnone (hleft.mem hmem))
      (fun form hform _ _ _ hs hread => idle_of_form (List.mem_of_mem_tail hform) hs hread) hrest
  rcases h with hitem | ⟨hblock, hnone⟩
  · -- the items are single variables, and the empty block is left
    have hfound := foundIn_systemDirective names
    rw [hitem, items_systemText.2.1] at hfound
    refine state_of_found hfound ?_ (hidle _ ?_) s
    · simp [List.forM_map, Batch.enroll_newVariable, List.forM_eq_forM]
    · rw [systemRest, hitem]
      exact items_systemText.2.2
  · -- the block is read as a whole, and nothing is left
    rw [toList_systemDirective] at hnone
    have hrest : systemRest names = systemText ++ [] := by
      rw [systemRest, List.append_nil]
      exact substitute_of_hits_eq_nil hnone
    have htail : Batch.agenda Registration.stays (registrationForms names).tail (systemRest names) =
        hits (newVariables? (names .registerVars)) (systemRest names) ++
          Batch.agenda Registration.stays ((registrationForms names).drop 2)
            (substitute (newVariables? (names .registerVars)) (dropUnless Registration.stays)
              (systemRest names)) := rfl
    have hfound := foundIn_systemDirective names
    rw [htail, hblock, hrest, hits_found finds_systemText, substitute_found finds_systemText] at hfound
    rw [show hits (newVariable? (names .registerVar)) systemText = [] from hnone] at hfound
    refine state_of_found (l := [.newVariables (systemVariables.map .ofText)]) hfound ?_ ?_ s
    · simp [Batch.enroll_newVariables, List.forM_eq_forM]
    · refine Batch.of_mem_agenda (Q := ('=' ∉ ·)) (fun hleft hnone hmem => hnone (hleft.mem hmem))
        (fun form hform _ _ _ hs hread => idle_of_form (List.mem_of_mem_drop hform) hs hread) ?_
      exact List.not_mem_nil

/-- Where all variables of the directive are there behind it, though none was before, the names are such. -/
theorem TagNames.readsSystem_of_registered
    (h : ∀ x ∈ systemVariables,
      x.1 ∈ Entries.keys (({} : State).applyRegistrations names systemDirective).2.vars) :
    names.ReadsSystem := by
  by_cases hitem : names .registerVar = itemTag
  · exact .inl hitem
  · have honce : (systemVariables.map Prod.fst).Nodup := by decide
    have hsub : systemVariables.map Prod.fst ⊆
        (Registration.foundIn names systemDirective).flatMap Registration.variableNames := by
      intro name hname
      obtain ⟨x, hx, rfl⟩ := List.mem_map.1 hname
      rcases State.keys_applyRegistrations (h x hx) with hold | hnew
      · cases hold
      · exact hnew
    have hlength := (honce.subperm hsub).length_le
    rw [List.length_map] at hlength
    obtain ⟨hblock, hnone⟩ := readable_of_names hitem hlength
    refine .inr ⟨hblock, ?_⟩
    rw [toList_systemDirective]
    exact hnone

/-- By some names the directive gives the variables of every script their first texts and changes nothing
else, whatever the state; by all others it leaves out some of them where none is there. -/
theorem State.applyRegistrations_renamed_iff (names : TagNames) :
    (∀ s : State, (s.applyRegistrations names systemDirective).2 = s.putTexts systemVariables) ↔
      names.ReadsSystem := by
  refine ⟨fun h => TagNames.readsSystem_of_registered fun x hx => ?_, fun h => applyRegistrations_renamed h⟩
  rw [h]
  refine Classical.byContradiction fun hnone => ?_
  have honce : (systemVariables.map Prod.fst).Nodup := by decide
  have hget := State.get?_putTexts (s := {}) honce hx
  rw [Entries.get?_eq_none_iff.2 hnone] at hget
  cases hget

theorem TagNames.readsSystem_standard : standard.ReadsSystem := by
  have hoverlooks : Overlooks (newVariable? (standard .registerVar)) (textOf systemSegments) :=
    headed_systemSegments.overlooked (k := ⟨.registerVar, false⟩) heeds_variableFields.map (by decide)
  refine .inr ⟨rfl, ?_⟩
  rw [toList_systemDirective, ← List.append_nil (textOf systemSegments), hits_overlooked hoverlooks]
  rfl

/-- By the usual names the variables of every script have their first texts again. -/
theorem State.applyRegistrations_systemDirective (s : State) :
    (s.applyRegistrations .standard systemDirective).2 = s.putTexts systemVariables :=
  applyRegistrations_renamed TagNames.readsSystem_standard s

end StoryState
