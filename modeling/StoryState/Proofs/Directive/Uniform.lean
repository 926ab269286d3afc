import StoryState.Proofs.Directive.Level
import StoryState.Proofs.Entries

/-!
What the registrations of a text do is settled by the text alone: with one and the same outcome they
put the same entries into every state and then erase the same names, since whatever drops comes after
all that registers (`State.applyRegistrations_uniform`). So a text that is carried out again changes
nothing more (`State.applyRegistrations_again`), and what is left of a text tells nothing about the
state (`State.cleanText_alike`).
-/

namespace StoryState

open StoryState.Text StoryState.Directive

/-! ### Putting and erasing in a state -/

namespace State

/-- Puts the entries of another state. -/
def putAll (s news : State) : State :=
  ⟨s.vars.putAll news.vars, s.tables.putAll news.tables, s.hidden.putAll news.hidden⟩

/-- The entries of two states, one after the other. -/
def append (s s' : State) : State :=
  ⟨s.vars ++ s'.vars, s.tables ++ s'.tables, s.hidden ++ s'.hidden⟩

/-- Names of variables, of tables and of hidden variables. -/
structure Names where
  vars : List String := []
  tables : List String := []
  hidden : List String := []

/-- The names of two lists of each sort. -/
def Names.append (gone gone' : Names) : Names :=
  ⟨gone.vars ++ gone'.vars, gone.tables ++ gone'.tables, gone.hidden ++ gone'.hidden⟩

/-- The state without what has one of the names. -/
def eraseAll (s : State) (gone : Names) : State :=
  ⟨s.vars.eraseAll gone.vars, s.tables.eraseAll gone.tables, s.hidden.eraseAll gone.hidden⟩

theorem putAll_empty (s : State) : s.putAll {} = s := rfl

theorem putAll_append (s news news' : State) :
    s.putAll (news.append news') = (s.putAll news).putAll news' := by
  simp [putAll, append, Entries.putAll_append]

theorem eraseAll_none (s : State) : s.eraseAll {} = s := by simp [eraseAll, Entries.eraseAll_nil]

theorem eraseAll_append (s : State) (gone gone' : Names) :
    s.eraseAll (gone.append gone') = (s.eraseAll gone).eraseAll gone' := by
  simp [eraseAll, Names.append, Entries.eraseAll_eraseAll]

/-- Putting and then erasing once more leaves a state as it was after the first time. -/
theorem eraseAll_putAll_again (s news : State) (gone : Names) :
    (((s.putAll news).eraseAll gone).putAll news).eraseAll gone = (s.putAll news).eraseAll gone := by
  simp [putAll, eraseAll, Entries.eraseAll_putAll_again]

end State

namespace Batch

/-! ### Steps that do the same in every state -/

/-- A change that puts entries, the same into every state. -/
def Puts (g : State → State) : Prop := ∃ news, ∀ s, g s = s.putAll news

/-- A change that erases names, the same from every state. -/
def Erases (g : State → State) : Prop := ∃ gone, ∀ s, g s = s.eraseAll gone

/-- A change that puts entries and then erases names, the same in every state. -/
def Settles (g : State → State) : Prop := ∃ news gone, ∀ s, g s = (s.putAll news).eraseAll gone

/-- A sort of changes of which some can be made one after another, or none. -/
structure Chains (C : (State → State) → Prop) : Prop where
  idle : C id
  next : ∀ {g g'}, C g → C g' → C (g' ∘ g)

theorem chains_puts : Chains Puts where
  idle := ⟨{}, fun s => s.putAll_empty.symm⟩
  next := by
    rintro g g' ⟨news, h⟩ ⟨news', h'⟩
    refine ⟨news.append news', fun s => ?_⟩
    rw [Function.comp_apply, h, h', State.putAll_append]

theorem chains_erases : Chains Erases where
  idle := ⟨{}, fun s => s.eraseAll_none.symm⟩
  next := by
    rintro g g' ⟨gone, h⟩ ⟨gone', h'⟩
    refine ⟨gone.append gone', fun s => ?_⟩
    rw [Function.comp_apply, h, h', State.eraseAll_append]

theorem Puts.settles {g : State → State} (h : Puts g) : Settles g := by
  obtain ⟨news, h⟩ := h
  exact ⟨news, {}, fun s => by rw [h, State.eraseAll_none]⟩

theorem Puts.erases {g g' : State → State} (h : Puts g) (h' : Erases g') : Settles (g' ∘ g) := by
  obtain ⟨news, h⟩ := h
  obtain ⟨gone, h'⟩ := h'
  exact ⟨news, gone, fun s => by rw [Function.comp_apply, h, h']⟩

/-- From every batch the step has one and the same outcome, makes one and the same change, which is in
`C`, and adds the same errors. -/
def Acts {α : Type} (C : (State → State) → Prop) (m : BatchM α) : Prop :=
  ∃ outcome g errors, C g ∧ ∀ b, Gives m b fun r b' =>
    r = outcome ∧ b'.state = g b.state ∧ b'.errors = b.errors ++ errors

section Rules

variable {α β : Type} {C C' D : (State → State) → Prop}

theorem Chains.lift (hC : Chains C) (r : Except Fault α) : Acts C (liftM r : BatchM α) :=
  ⟨r, id, [], hC.idle, fun _ => ⟨rfl, rfl, (List.append_nil _).symm⟩⟩

theorem Chains.pure (hC : Chains C) (a : α) : Acts C (Pure.pure a : BatchM α) := hC.lift (.ok a)

theorem Chains.log (hC : Chains C) (line : String) : Acts C (log line) :=
  ⟨.ok (), id, [], hC.idle, fun _ => ⟨rfl, rfl, (List.append_nil _).symm⟩⟩

theorem Chains.error (hC : Chains C) (line : String) : Acts C (error line) :=
  ⟨.ok (), id, [line], hC.idle, fun _ => ⟨rfl, rfl, rfl⟩⟩

theorem acts_modify {g : State → State} (h : C g) :
    Acts C (modify fun b => { b with state := g b.state } : BatchM Unit) :=
  ⟨.ok (), g, [], h, fun _ => ⟨rfl, rfl, (List.append_nil _).symm⟩⟩

/-- A step with the steps behind it, which are not taken if it stops. -/
theorem Acts.followed {m : BatchM α} {f : α → BatchM β} (hm : Acts C m) (hf : ∀ a, Acts C' (f a))
    (stopped : ∀ g, C g → D g) (next : ∀ g g', C g → C' g' → D (g' ∘ g)) : Acts D (m >>= f) := by
  obtain ⟨outcome, g, errors, hg, h⟩ := hm
  cases outcome with
  | error e =>
    refine ⟨.error e, g, errors, stopped g hg, fun b => ?_⟩
    rw [gives_bind]
    refine gives_mono (h b) ?_
    rintro r b' ⟨rfl, hb'⟩
    exact ⟨rfl, hb'⟩
  | ok a =>
    obtain ⟨outcome', g', errors', hg', h'⟩ := hf a
    refine ⟨outcome', g' ∘ g, errors ++ errors', next g g' hg hg', fun b => ?_⟩
    rw [gives_bind]
    refine gives_mono (h b) ?_
    rintro r b' ⟨rfl, hstate, herrors⟩
    refine gives_mono (h' b') ?_
    rintro r' b'' ⟨hr', hstate', herrors'⟩
    refine ⟨hr', ?_, ?_⟩
    · rw [hstate', hstate, Function.comp_apply]
    · rw [herrors', herrors, List.append_assoc]

theorem Chains.bind (hC : Chains C) {m : BatchM α} {f : α → BatchM β} (hm : Acts C m)
    (hf : ∀ a, Acts C (f a)) : Acts C (m >>= f) :=
  hm.followed hf (fun _ hg => hg) fun _ _ => hC.next

theorem Chains.mapM (hC : Chains C) {f : α → BatchM β} (l : List α) (h : ∀ a ∈ l, Acts C (f a)) :
    Acts C (l.mapM f) := by
  induction l with
  | nil => exact hC.pure []
  | cons a l ih =>
    have hl : Acts C (l.mapM f) := ih fun a' ha' => h a' (by simp [ha'])
    rw [List.mapM_cons]
    exact hC.bind (h a (by simp)) fun b => hC.bind hl fun bs => hC.pure (b :: bs)

theorem Chains.forM (hC : Chains C) {f : α → BatchM PUnit} (l : List α) (h : ∀ a, Acts C (f a)) :
    Acts C (l.forM f) := by
  induction l with
  | nil => exact hC.pure _
  | cons a l ih => exact hC.bind (h a) fun _ => ih

theorem Chains.discard (hC : Chains C) {m : BatchM α} (hm : Acts C m) :
    Acts C (Functor.discard m : BatchM Unit) := by
  rw [discard_eq]
  exact hC.bind hm fun _ => hC.pure _

end Rules

/-! ### Registering -/

theorem acts_putVariable (name : String) (x : Variable) : Acts Puts (putVariable name x) :=
  acts_modify (g := fun s => { s with vars := s.vars.put name x })
    ⟨{ vars := [(name, x)] }, fun _ => rfl⟩

theorem acts_putTable (name : String) (t : Table) : Acts Puts (putTable name t) :=
  acts_modify (g := fun s => { s with tables := s.tables.put name t })
    ⟨{ tables := [(name, t)] }, fun _ => rfl⟩

theorem acts_putHidden (name : String) (h : Hidden) : Acts Puts (putHidden name h) :=
  acts_modify (g := fun s => { s with hidden := s.hidden.put name h })
    ⟨{ hidden := [(name, h)] }, fun _ => rfl⟩

theorem acts_registerVariable (fields : VariableFields) : Acts Puts (registerVariable fields) := by
  unfold registerVariable
  cases branchesOf fields.branches with
  | error e => exact chains_puts.bind (chains_puts.error _) fun _ => chains_puts.pure _
  | ok branches =>
    dsimp only
    cases Kind.ofName? fields.declared with
    | none => exact chains_puts.bind (chains_puts.log _) fun _ => chains_puts.pure _
    | some kind =>
      refine chains_puts.bind (chains_puts.lift _) fun value => ?_
      refine chains_puts.bind (acts_putVariable _ _) fun _ => ?_
      exact chains_puts.bind (chains_puts.log _) fun _ => chains_puts.pure _

theorem acts_registerHidden (fields : HiddenFields) : Acts Puts (registerHidden fields) := by
  refine chains_puts.bind (acts_putHidden _ _) fun _ => ?_
  exact chains_puts.bind (chains_puts.log _) fun _ => chains_puts.log _

theorem acts_registerTable (name literal : String) : Acts Puts (registerTable name literal) := by
  unfold registerTable
  cases readColumns literal with
  | error e => exact chains_puts.bind (chains_puts.error _) fun _ => chains_puts.pure _
  | ok columns =>
    refine chains_puts.bind (acts_putTable _ _) fun _ => ?_
    refine chains_puts.bind (chains_puts.log _) fun _ => ?_
    refine chains_puts.bind (chains_puts.forM columns fun c => chains_puts.log _) fun _ => ?_
    exact chains_puts.pure _

/-! ### Dropping -/

/-- What drops a name that is there does the same where it is not. -/
theorem acts_drop (has : State → Bool) (drop : State → State) (gone : State.Names)
    (sort name : String) (hdrop : ∀ s, drop s = s.eraseAll gone)
    (absent : ∀ s, has s = false → drop s = s) :
    Acts Erases (do
      if has (← get).state then
        modify fun b => { b with state := drop b.state }
        logDropped sort name) := by
  refine ⟨.ok (), drop, [], ⟨gone, hdrop⟩, fun b => ?_⟩
  rw [gives_bind, gives_get, List.append_nil]
  dsimp only
  split
  · exact ⟨rfl, rfl, rfl⟩
  · rename_i h
    rw [absent b.state (eq_false_of_ne_true h)]
    exact ⟨rfl, rfl, rfl⟩

theorem acts_dropVariable (name : String) : Acts Erases (dropVariable name) := by
  refine acts_drop (fun s => s.vars.has name) (fun s => { s with vars := s.vars.erase name })
    { vars := [name] } "变量" name (fun s => ?_) fun s h => ?_
  · simp [State.eraseAll, Entries.eraseAll_nil, Entries.eraseAll_singleton]
  · simp [Entries.erase_of_not_has h]

theorem acts_dropTable (name : String) : Acts Erases (dropTable name) := by
  refine acts_drop (fun s => s.tables.has name) (fun s => { s with tables := s.tables.erase name })
    { tables := [name] } "表格" name (fun s => ?_) fun s h => ?_
  · simp [State.eraseAll, Entries.eraseAll_nil, Entries.eraseAll_singleton]
  · simp [Entries.erase_of_not_has h]

theorem acts_dropHidden (name : String) : Acts Erases (dropHidden name) := by
  refine acts_drop (fun s => s.hidden.has name) (fun s => { s with hidden := s.hidden.erase name })
    { hidden := [name] } "隐变量" name (fun s => ?_) fun s h => ?_
  · simp [State.eraseAll, Entries.eraseAll_nil, Entries.eraseAll_singleton]
  · simp [Entries.erase_of_not_has h]

/-! ### Forms that register and forms that drop -/

end Batch

/-- Whether a registration registers; else it drops. -/
def Registration.isNew : Registration → Bool
  | .newVariable _ | .newVariables _ | .newHidden _ | .newTable .. => true
  | .dropVariable _ | .dropVariables _ | .dropTable _ | .dropHidden _ => false

namespace Batch

theorem acts_register_new {r : Registration} (h : r.isNew = true) (raw : List Char) :
    Acts Puts (register raw r) := by
  cases r with
  | newVariable fields =>
    exact chains_puts.bind (acts_registerVariable fields) fun accepted => chains_puts.pure _
  | newVariables items =>
    refine chains_puts.bind (chains_puts.forM items fun fields => ?_) fun _ => chains_puts.pure _
    exact chains_puts.discard (acts_registerVariable fields)
  | newHidden fields =>
    exact chains_puts.bind (acts_registerHidden fields) fun _ => chains_puts.pure _
  | newTable name columns =>
    exact chains_puts.bind (acts_registerTable name columns) fun accepted => chains_puts.pure _
  | dropVariable name | dropVariables names | dropTable name | dropHidden name =>
    simp [Registration.isNew] at h

theorem acts_register_drop {r : Registration} (h : r.isNew = false) (raw : List Char) :
    Acts Erases (register raw r) := by
  cases r with
  | newVariable fields | newVariables items | newHidden fields | newTable name columns =>
    simp [Registration.isNew] at h
  | dropVariable name =>
    exact chains_erases.bind (acts_dropVariable name) fun _ => chains_erases.pure _
  | dropVariables names =>
    refine chains_erases.bind ?_ fun _ => chains_erases.pure _
    exact chains_erases.forM names acts_dropVariable
  | dropTable name => exact chains_erases.bind (acts_dropTable name) fun _ => chains_erases.pure _
  | dropHidden name => exact chains_erases.bind (acts_dropHidden name) fun _ => chains_erases.pure _

theorem isNew_of_map {β : Type} {scan : Scanner β} {f : β → Registration} {new : Bool}
    (hf : ∀ a, (f a).isNew = new) {s rest : List Char} {r : Registration}
    (h : (scan s).map (fun (a, rest) => (f a, rest)) = some (r, rest)) : r.isNew = new := by
  obtain ⟨⟨a, rest'⟩, -, heq⟩ := Option.map_eq_some_iff.1 h
  cases heq
  exact hf a

/-- The forms are those of what registers, and behind them those of what drops. -/
theorem reads_registrationForms (names : TagNames) :
    ∃ news drops, registrationForms names = news ++ drops ∧
      (∀ form ∈ news, ∀ s r rest, form s = some (r, rest) → r.isNew = true) ∧
      ∀ form ∈ drops, ∀ s r rest, form s = some (r, rest) → r.isNew = false := by
  refine ⟨(registrationForms names).take 4, (registrationForms names).drop 4, rfl, ?_, ?_⟩
  · simp only [registrationForms, List.take, List.forall_mem_cons]
    refine ⟨?_, ?_, ?_, ?_, by simp⟩
    · intro s r rest h
      exact isNew_of_map (f := .newVariable) (fun _ => rfl) h
    · intro s r rest h
      exact isNew_of_map (f := fun s : String => .newVariables (hits (variableFields? itemTag) s.toList))
        (fun _ => rfl) h
    · intro s r rest h
      exact isNew_of_map (f := .newHidden) (fun _ => rfl) h
    · intro s r rest h
      obtain ⟨_, -, h⟩ := Option.bind_eq_some_iff.1 h
      obtain ⟨_, -, h⟩ := Option.bind_eq_some_iff.1 h
      obtain ⟨_, -, h⟩ := Option.bind_eq_some_iff.1 h
      obtain ⟨_, -, h⟩ := Option.bind_eq_some_iff.1 h
      cases h
      rfl
  · simp only [registrationForms, List.drop, List.forall_mem_cons]
    refine ⟨?_, ?_, ?_, ?_, by simp⟩
    · intro s r rest h
      exact isNew_of_map (f := .dropVariable) (fun _ => rfl) h
    · intro s r rest h
      exact isNew_of_map (f := fun s : String => .dropVariables (hits (nameOnly? itemTag) s.toList))
        (fun _ => rfl) h
    · intro s r rest h
      exact isNew_of_map (f := .dropTable) (fun _ => rfl) h
    · intro s r rest h
      exact isNew_of_map (f := .dropHidden) (fun _ => rfl) h

section Passes

variable {α : Type} {C : (State → State) → Prop} {carryOut : List Char → α → BatchM (List Char)}

theorem passes_append (forms forms' : List (Scanner α)) (s : List Char) :
    passes carryOut (forms ++ forms') s =
      passes carryOut forms s >>= fun s => passes carryOut forms' s := by
  induction forms generalizing s with
  | nil => simp [passes]
  | cons form forms ih => simp [passes, ih]

/-- Forms of directives that all act in one way. -/
theorem Chains.passes (hC : Chains C) {forms : List (Scanner α)}
    (h : ∀ form ∈ forms, ∀ s a rest, form s = some (a, rest) → ∀ raw, Acts C (carryOut raw a))
    (s : List Char) : Acts C (passes carryOut forms s) := by
  induction forms generalizing s with
  | nil => exact hC.pure s
  | cons form forms ih =>
    have hforms : ∀ s, Acts C (Batch.passes carryOut forms s) :=
      ih fun form' hform' => h form' (by simp [hform'])
    refine hC.bind ?_ hforms
    refine hC.bind (hC.mapM _ fun segment hsegment => ?_) fun pieces => hC.pure _
    cases segment with
    | plain c => exact hC.pure [c]
    | hit raw a =>
      obtain ⟨t, rest, -, hread, -⟩ := exists_of_hit_mem hsegment
      exact h form (by simp) t a rest hread raw

end Passes

theorem acts_registrations (names : TagNames) (s : List Char) :
    Acts Settles (passes register (registrationForms names) s) := by
  obtain ⟨news, drops, hforms, hnews, hdrops⟩ := reads_registrationForms names
  have hput : Acts Puts (passes register news s) :=
    chains_puts.passes (fun form hform s r rest hread =>
      acts_register_new (hnews form hform s r rest hread)) s
  have herase : ∀ s, Acts Erases (passes register drops s) :=
    chains_erases.passes fun form hform s r rest hread =>
      acts_register_drop (hdrops form hform s r rest hread)
  -- nothing is put behind the first name that is erased, so one erasure at the end says it all
  rw [hforms, passes_append]
  exact hput.followed herase (fun _ => Puts.settles) fun _ _ => Puts.erases

end Batch

/-! ### Texts -/

/-- What a result says besides its log: the text that is left, and the errors. -/
def BatchResult.report (r : BatchResult) : String × List String := (r.cleanText, r.errors)

namespace State

/-- The registrations of a text put the same entries into every state, then erase the same names, and
have the same outcome but for the log. -/
theorem applyRegistrations_uniform (names : TagNames) (text : String) :
    ∃ outcome news gone, ∀ s : State,
      (s.applyRegistrations names text).1.map BatchResult.report = outcome ∧
        (s.applyRegistrations names text).2 = (s.putAll news).eraseAll gone := by
  obtain ⟨outcome, g, errors, ⟨news, gone, hg⟩, h⟩ :=
    Batch.acts_registrations names (decodeEntities text.toList)
  refine ⟨outcome.map fun s => (String.ofList s, errors), news, gone, fun s => ?_⟩
  have hrun := h { state := s }
  unfold Gives at hrun
  rw [applyRegistrations, Batch.run]
  generalize (Batch.passes Batch.register (registrationForms names)
    (decodeEntities text.toList)).run { state := s } = p at hrun ⊢
  obtain ⟨r, b⟩ := p
  obtain ⟨rfl, hstate, herrors⟩ := hrun
  constructor
  · cases r with
    | error e => rfl
    | ok chars =>
      have herrors : b.errors = errors := herrors
      simp [Except.map, BatchResult.report, herrors]
  · exact hstate.trans (hg s)

/-- A text of registrations that is carried out again finds nothing to change: the state stays as it was
after the first time, and what is left of the text, the errors and a fault are the same. -/
theorem applyRegistrations_again (names : TagNames) (text : String) (s : State) :
    let first := s.applyRegistrations names text
    let again := first.2.applyRegistrations names text
    again.2 = first.2 ∧ again.1.map BatchResult.report = first.1.map BatchResult.report := by
  obtain ⟨outcome, news, gone, h⟩ := applyRegistrations_uniform names text
  intro first again
  have hfirst : first.2 = (s.putAll news).eraseAll gone := (h s).2
  have hagain : again.2 = (first.2.putAll news).eraseAll gone := (h first.2).2
  constructor
  · rw [hagain, hfirst, eraseAll_putAll_again]
  · exact (h first.2).1.trans (h s).1.symm

/-- What is left of a text does not depend on the state in which its directives are carried out, and
neither do the errors of registrations. -/
theorem cleanText_alike (names : TagNames) (text : String) (s s' : State) :
    (∀ r r', (s.applyChanges names text).1 = .ok r → (s'.applyChanges names text).1 = .ok r' →
      r.cleanText = r'.cleanText) ∧
    (s.applyRegistrations names text).1.map BatchResult.report =
      (s'.applyRegistrations names text).1.map BatchResult.report := by
  constructor
  · intro r r' h h'
    rw [applyChanges, Batch.change_eq] at h h'
    rw [Batch.cleanText_of_run h, Batch.cleanText_of_run h']
  · obtain ⟨outcome, news, gone, h⟩ := applyRegistrations_uniform names text
    rw [(h s).1, (h s').1]

/-- A variable that cannot be subtracted from, and a table that wants another column. -/
def stocked : State where
  vars := [("x", { declared := .text "string", value := .text "u" })]
  tables := [("t", { name := .text "t", columns := [{ name := .text "c", required := true }] })]

/-- A text whose directives go other ways in a state with nothing in it. -/
def probe : String :=
  "a<setVar>x -= 1</setVar>b<addTableRow table=\"t\">d=1</addTableRow><unregisterVar name=\"x\"/>"

theorem cleanText_alike_probe :
    ∃ r r', (applyChanges .standard probe {}).1 = .ok r ∧
      (applyChanges .standard probe stocked).1 = .ok r' ∧
      r.logs ≠ r'.logs ∧ r.cleanText = r'.cleanText ∧
      (applyRegistrations .standard probe {}).1.map BatchResult.report =
        (applyRegistrations .standard probe stocked).1.map BatchResult.report := by
  obtain ⟨r, hr, -⟩ := exists_of_cleanText (applyChanges .standard probe {}).1
    "ab<unregisterVar name=\"x\"/>" (by decide +kernel)
  obtain ⟨r', hr', -⟩ := exists_of_cleanText (applyChanges .standard probe stocked).1
    "ab<unregisterVar name=\"x\"/>" (by decide +kernel)
  have hlogs : (applyChanges .standard probe {}).1.toOption.map (·.logs) ≠
      (applyChanges .standard probe stocked).1.toOption.map (·.logs) := by decide +kernel
  rw [hr, hr'] at hlogs
  obtain ⟨htext, hreport⟩ := cleanText_alike .standard probe {} stocked
  exact ⟨r, r', hr, hr', fun h => hlogs (congrArg some h), htext r r' hr hr', hreport⟩

end State

end StoryState
