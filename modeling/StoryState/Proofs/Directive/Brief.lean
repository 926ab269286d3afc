import StoryState.Proofs.Directive.Returning
import StoryState.Proofs.Story.Short

/-!
Registrations of a brief text: one with no more characters than a numeral may have digits. Whatever the
tags are called, it has no numeral that is too long, so its registrations go through from any state, and
they leave a state with short numbers (`State.Short.applyRegistrations`).
-/

namespace StoryState

open StoryState.Text StoryState.Directive

/-! ### Lengths of what is read -/

namespace Text

section Lengths

variable {α : Type} {scan : Scanner α} {n s r : List Char}

theorem length_of_dropLead? (h : dropLead? n s = some r) : r.length ≤ s.length := by
  rw [dropLead?_eq_some_iff.1 h, List.length_append]
  omega

theorem length_skipBlanks (s : List Char) : (skipBlanks s).length ≤ s.length :=
  (List.dropWhile_sublist _).length_le

theorem length_of_skipBlanks1? (h : skipBlanks1? s = some r) : r.length ≤ s.length := by
  cases s with
  | nil => cases h
  | cons c s =>
    rw [skipBlanks1?] at h
    split at h
    · cases h
      exact (length_skipBlanks s).trans (Nat.le_succ _)
    · cases h

theorem length_dropTrailingBlanks (s : List Char) : (dropTrailingBlanks s).length ≤ s.length := by
  induction s with
  | nil => exact Nat.le_refl _
  | cons c s ih =>
    unfold dropTrailingBlanks
    split
    · split <;> simp
    · rw [List.length_cons, List.length_cons]
      omega

theorem length_strip (s : List Char) : (strip s).length ≤ s.length :=
  (length_dropTrailingBlanks _).trans (length_skipBlanks s)

theorem eq_of_cutAt? {before after : List Char} (h : cutAt? n s = some (before, after)) :
    s = before ++ (n ++ after) := by
  induction s generalizing before with
  | nil =>
    unfold cutAt? at h
    split at h
    · rename_i hn
      cases h
      rw [hn]
      rfl
    · cases h
  | cons c s ih =>
    unfold cutAt? at h
    split at h
    · rename_i rest hlead
      cases h
      rw [List.nil_append]
      exact dropLead?_eq_some_iff.1 hlead
    · cases hcut : cutAt? n s with
      | none => rw [hcut] at h; cases h
      | some found =>
        rw [hcut] at h
        cases h
        exact congrArg (c :: ·) (ih hcut)

end Lengths

end Text

namespace Directive

variable {quote : Char} {key tag value : String} {s r : List Char}

/-- A field in quotes stands between them. -/
theorem eq_of_quoted? (h : quoted? quote s = some (value, r)) :
    ∃ c, s = quote :: (value.toList ++ c :: r) := by
  unfold quoted? at h
  cases hlead : dropLead? [quote] s with
  | none => rw [hlead] at h; cases h
  | some t =>
    rw [hlead] at h
    dsimp only at h
    split at h
    · rename_i c rest hdrop
      cases h
      refine ⟨c, (dropLead?_eq_some_iff.1 hlead).trans ?_⟩
      rw [String.toList_ofList, ← hdrop, List.takeWhile_append_dropWhile]
      rfl
    · cases h

theorem length_of_quoted? (h : quoted? quote s = some (value, r)) :
    value.length + r.length ≤ s.length := by
  obtain ⟨c, rfl⟩ := eq_of_quoted? h
  simp only [List.length_cons, List.length_append, String.length_toList]
  omega

theorem length_of_attribute? (h : attribute? key s = some (value, r)) :
    value.length + r.length ≤ s.length := by
  obtain ⟨t, ht, hq⟩ := Option.bind_eq_some_iff.1 h
  obtain ⟨u, hu, ht⟩ := Option.bind_eq_some_iff.1 ht
  exact (length_of_quoted? hq).trans ((length_of_dropLead? ht).trans (length_of_skipBlanks1? hu))

theorem length_of_attributeNonEmpty? (h : attributeNonEmpty? key s = some (value, r)) :
    r.length ≤ s.length := by
  obtain ⟨t, ht, hq⟩ := Option.bind_eq_some_iff.1 h
  have hquoted : quoted? '"' t = some (value, r) := by
    unfold quotedNonEmpty? at hq
    split at hq
    · cases hq
    · cases hq
    · exact Option.some.inj hq ▸ ‹_›
  exact (Nat.le_add_left ..).trans (length_of_attribute? (Option.bind_eq_some_iff.2 ⟨t, ht, hquoted⟩))

theorem length_of_variableFields? {fields : VariableFields}
    (h : variableFields? tag s = some (fields, r)) : fields.initial.length ≤ s.length := by
  unfold variableFields? at h
  simp only [Option.bind_eq_bind, Option.bind_eq_some_iff, Option.pure_def] at h
  obtain ⟨s₁, h₁, ⟨name, s₂⟩, h₂, ⟨declared, s₃⟩, h₃, ⟨initial, s₄⟩, h₄, s₅, -, heq⟩ := h
  cases heq
  have := length_of_dropLead? h₁
  have := length_of_attributeNonEmpty? h₂
  have := length_of_attributeNonEmpty? h₃
  have := length_of_attribute? h₄
  dsimp only at *
  omega

theorem eq_of_block? (h : block? tag s = some (value, r)) :
    s = opened tag ('>' :: (value.toList ++ (closing tag ++ r))) := by
  unfold block? content? at h
  simp only [Option.bind_eq_bind, Option.bind_eq_some_iff, Option.map_eq_some_iff] at h
  obtain ⟨s₁, h₁, s₂, h₂, ⟨content, rest⟩, h₃, heq⟩ := h
  cases heq
  rw [String.toList_ofList, dropLead?_eq_some_iff.1 h₁, dropLead?_eq_some_iff.1 h₂, eq_of_cutAt? h₃]
  rfl

theorem length_of_block? (h : block? tag s = some (value, r)) : value.length ≤ s.length := by
  rw [eq_of_block? h, ← String.length_toList]
  simp only [opened, List.length_cons, List.length_append]
  omega

end Directive

/-! ### Registrations in range -/

/-- A literal with no more characters than a numeral may have digits is legible. -/
theorem Number.legible_of_length {s : String} (h : s.length ≤ digitLimit) : Legible s := by
  intro negative digits hwhole
  have hsign : ∀ t, (takeSign t).2.length ≤ t.length := by
    intro t
    unfold takeSign
    split <;> simp
  unfold wholeNumber? at hwhole
  dsimp only at hwhole
  split at hwhole
  · cases hwhole
    exact (hsign _).trans ((length_strip _).trans h)
  · cases hwhole

theorem VariableFields.inRange_of_length {f : VariableFields}
    (h : f.initial.length ≤ Number.digitLimit) : f.InRange :=
  fun _ _ => Number.legible_of_length h

namespace Registration

/-- Whatever the tag is called, what a form reads from a brief text is in range. -/
theorem inRange_of_form {names : TagNames} {form : Scanner Registration}
    (hform : form ∈ registrationForms names) {s rest : List Char} {r : Registration}
    (hread : form s = some (r, rest)) (hs : s.length ≤ Number.digitLimit) : r.InRange := by
  -- only variables have numerals to be read
  have htrivial : ∀ {α : Type} {scan : Scanner α} {f : α → Registration},
      ((scan s).map fun found => (f found.1, found.2)) = some (r, rest) → (∀ a, (f a).InRange) → r.InRange := by
    intro α scan f hmap hf
    obtain ⟨⟨a, t⟩, -, heq⟩ := Option.map_eq_some_iff.1 hmap
    cases heq
    exact hf a
  simp only [registrationForms, List.mem_cons, List.not_mem_nil, or_false] at hform
  rcases hform with rfl | rfl | rfl | rfl | rfl | rfl | rfl | rfl
  · obtain ⟨⟨fields, t⟩, hfields, heq⟩ := Option.map_eq_some_iff.1 hread
    cases heq
    exact VariableFields.inRange_of_length ((length_of_variableFields? hfields).trans hs)
  · obtain ⟨⟨content, t⟩, hblock, heq⟩ := Option.map_eq_some_iff.1 hread
    cases heq
    intro fields hfields
    obtain ⟨t, rest, hend, hfound⟩ := exists_of_mem_hits hfields
    refine VariableFields.inRange_of_length ((length_of_variableFields? hfound).trans ?_)
    refine hend.length_le.trans ?_
    exact (length_of_block? hblock).trans hs
  · exact htrivial hread fun _ => trivial
  · unfold newTable? at hread
    simp only [Option.bind_eq_bind, Option.bind_eq_some_iff, Option.pure_def] at hread
    obtain ⟨_, -, _, -, _, -, _, -, heq⟩ := hread
    cases heq
    trivial
  · exact htrivial hread fun _ => trivial
  · obtain ⟨_, -, heq⟩ := Option.map_eq_some_iff.1 hread
    cases heq
    trivial
  · exact htrivial hread fun _ => trivial
  · exact htrivial hread fun _ => trivial

theorem inRange_of_brief {names : TagNames} {text : String}
    (h : (decodeEntities text.toList).length ≤ Number.digitLimit) :
    ∀ r ∈ foundIn names text, r.InRange :=
  Batch.of_mem_agenda (Q := fun s => s.length ≤ Number.digitLimit) (fun hleft => hleft.length_le.trans)
    (fun _ hform _ _ _ hs hread => inRange_of_form hform hread hs) h

end Registration

/-! ### Registering -/

/-- Cases that are read from a literal have short numbers. -/
theorem short_of_branchesOf {literal : Option String} {branches : Option (List Branch)}
    (h : Batch.branchesOf literal = .ok branches) : ∀ bs, branches = some bs → ∀ b ∈ bs, b.Short := by
  rintro bs rfl b hb
  obtain ⟨literal, hread⟩ := Batch.exists_readBranches h
  obtain ⟨hvalue, htexts⟩ := (of_readBranches Value.inherited_isWritable hread).2.2 b hb
  refine ⟨hvalue, fun c hc => ?_⟩
  obtain ⟨t, rfl, -⟩ := htexts c hc
  rfl

theorem Column.Declared.short {c : Column} (h : c.Declared) : c.Short := by
  obtain ⟨name, k, -, hname, hdeclared⟩ := h
  exact ⟨by rw [hname]; rfl, by rw [hdeclared]; rfl⟩

namespace Batch

/-- The step goes through, and leads from states with short numbers to such states. -/
def Runs {α : Type} (m : BatchM α) : Prop :=
  ∀ b, Gives m b fun r b' => r.isOk = true ∧ (b.state.Short → b'.state.Short)

section Runs

variable {α β : Type} {m : BatchM α} {f : α → BatchM β}

theorem runs_pure (a : α) : Runs (pure a : BatchM α) := fun _ => ⟨rfl, id⟩

/-- A step that only writes to the log or to the errors. -/
theorem runs_modify {g : Batch → Batch} (h : ∀ b, b.state.Short → (g b).state.Short) :
    Runs (modify g : BatchM Unit) := fun b => ⟨rfl, h b⟩

theorem runs_log (line : String) : Runs (log line) := runs_modify fun _ => id

theorem runs_error (line : String) : Runs (error line) := runs_modify fun _ => id

theorem Runs.bind (hm : Runs m) (hf : ∀ a, Runs (f a)) : Runs (m >>= f) := by
  intro b
  rw [gives_bind]
  refine gives_mono (hm b) ?_
  rintro r b' ⟨hr, hshort⟩
  obtain ⟨a, rfl⟩ := isOk_iff.1 hr
  exact gives_mono (hf a b') fun _ _ h => ⟨h.1, h.2 ∘ hshort⟩

theorem Runs.discard (hm : Runs m) : Runs (Functor.discard m) := by
  rw [discard_eq]
  exact hm.bind fun _ => runs_pure ()

theorem runs_lift_bind {r : Except Fault α} (hr : r.isOk = true) (hf : ∀ a, r = .ok a → Runs (f a)) :
    Runs (liftM r >>= f) := by
  intro b
  obtain ⟨a, rfl⟩ := isOk_iff.1 hr
  rw [gives_lift_bind]
  exact hf a rfl b

theorem runs_forM {act : α → BatchM Unit} (l : List α) (h : ∀ a ∈ l, Runs (act a)) :
    Runs (l.forM act) := by
  induction l with
  | nil => exact runs_pure ()
  | cons a l ih =>
    rw [List.forall_mem_cons] at h
    exact h.1.bind fun _ => ih h.2

end Runs

theorem runs_registerVariable {fields : VariableFields} (h : fields.InRange) :
    Runs (registerVariable fields) := by
  unfold VariableFields.InRange VariableFields.refusal? at h
  unfold registerVariable
  cases hb : branchesOf fields.branches with
  | error e => exact (runs_error _).bind fun _ => runs_pure _
  | ok branches =>
    rw [hb] at h
    dsimp only
    cases hk : Kind.ofName? fields.declared with
    | none => exact (runs_log _).bind fun _ => runs_pure _
    | some kind =>
      refine runs_lift_bind (Value.isOk_ofLiteral.2 fun hnumber => h rfl (hk.trans hnumber)) ?_
      intro value hvalue
      refine (runs_modify fun b hs => hs.putVariable ⟨rfl, ?_, short_of_branchesOf hb⟩).bind fun _ => ?_
      · exact Value.inherited_isWritable.of_ofLiteral rfl hvalue
      · exact (runs_log _).bind fun _ => runs_pure _

theorem runs_registerHidden (fields : HiddenFields) : Runs (registerHidden fields) :=
  (runs_modify fun _ hs => hs.putHidden ⟨rfl, rfl⟩).bind fun _ => (runs_log _).bind fun _ => runs_log _

theorem runs_registerTable (name literal : String) : Runs (registerTable name literal) := by
  unfold registerTable
  cases hc : readColumns literal with
  | error e => exact (runs_error _).bind fun _ => runs_pure _
  | ok columns =>
    have hshort : Table.Short { name := .text name, columns } :=
      ⟨rfl, fun c h => (declared_of_readColumns hc c h).short, by simp⟩
    refine (runs_modify fun b hs => hs.putTable hshort).bind fun _ => ?_
    exact (runs_log _).bind fun _ => (runs_forM _ fun c _ => runs_log _).bind fun _ => runs_pure _

/-- Dropping something, and a line about it if it was there. -/
theorem runs_drop (has : State → Bool) (drop : State → State) (h : ∀ s, s.Short → (drop s).Short)
    (sort name : String) : Runs (do
      if has (← get).state then
        modify fun b => { b with state := drop b.state }
        logDropped sort name) := by
  intro b
  rw [gives_bind, gives_get]
  dsimp only
  split
  · exact ((runs_modify fun b => h b.state).bind fun _ => runs_log _) b
  · exact runs_pure () b

theorem runs_dropVariable (name : String) : Runs (dropVariable name) :=
  runs_drop (fun s => s.vars.has name) (fun s => { s with vars := s.vars.erase name })
    (fun _ hs => ⟨fun n x hx => hs.vars n x (Entries.mem_erase hx), hs.tables, hs.hidden⟩) _ _

theorem runs_dropTable (name : String) : Runs (dropTable name) :=
  runs_drop (fun s => s.tables.has name) (fun s => { s with tables := s.tables.erase name })
    (fun _ hs => ⟨hs.vars, fun n t ht => hs.tables n t (Entries.mem_erase ht), hs.hidden⟩) _ _

theorem runs_dropHidden (name : String) : Runs (dropHidden name) :=
  runs_drop (fun s => s.hidden.has name) (fun s => { s with hidden := s.hidden.erase name })
    (fun _ hs => ⟨hs.vars, hs.tables, fun n h hh => hs.hidden n h (Entries.mem_erase hh)⟩) _ _

theorem runs_enroll {r : Registration} (h : r.InRange) : Runs (enroll r) := by
  cases r with
  | newVariable fields =>
    rw [enroll_newVariable]
    exact (runs_registerVariable h).discard
  | newVariables items =>
    rw [enroll_newVariables]
    exact runs_forM items fun fields hf => (runs_registerVariable (h fields hf)).discard
  | newTable name columns =>
    rw [enroll_newTable]
    exact (runs_registerTable name columns).discard
  | newHidden fields => exact ((runs_registerHidden fields).bind fun _ => runs_pure _).discard
  | dropVariable name => exact ((runs_dropVariable name).bind fun _ => runs_pure _).discard
  | dropVariables names =>
    exact ((runs_forM names fun name _ => runs_dropVariable name).bind fun _ => runs_pure _).discard
  | dropTable name => exact ((runs_dropTable name).bind fun _ => runs_pure _).discard
  | dropHidden name => exact ((runs_dropHidden name).bind fun _ => runs_pure _).discard

end Batch

/-- The registrations of a brief text go through from any state, and keep its numbers short. -/
theorem State.Short.applyRegistrations {s : State} (hs : s.Short) (names : TagNames) {text : String}
    (brief : (decodeEntities text.toList).length ≤ Number.digitLimit) :
    (∃ result, (s.applyRegistrations names text).1 = .ok result) ∧
      (s.applyRegistrations names text).2.Short := by
  have hruns := Batch.runs_forM (Registration.foundIn names text)
    (fun r hr => Batch.runs_enroll (Registration.inRange_of_brief brief r hr)) { state := s }
  rw [State.applyRegistrations, Batch.register_eq, Batch.run_eq]
  unfold Batch.execute
  unfold Gives Registration.foundIn at hruns
  generalize (List.forM _ Batch.enroll).run { state := s } = p at hruns
  obtain ⟨hok, hshort⟩ := hruns
  obtain ⟨u, hu⟩ := isOk_iff.1 hok
  exact ⟨⟨_, congrArg (Except.map _) hu⟩, hshort hs⟩

end StoryState
