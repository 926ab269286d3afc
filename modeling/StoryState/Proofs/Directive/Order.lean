import StoryState.Proofs.Directive.Frame

/-!
In which order the directives for variables count. A write, which is a setting by attributes or one part
of a content, goes by the variable that it names and changes no other (`Batch.Write.localAt`), so lists of
writes that are the same under each name lead to the same variables (`Batch.through_congr`). The
settings by attributes of a text are carried out before its contents; this makes a difference to the order
of the text only where one of the former stands behind one of the latter for the same variable
(`State.applyChanges_settings`).
-/

namespace StoryState

open StoryState.Text Directive

namespace Batch

/-! ### Steps that go by one variable -/

/-- The variable of a name is the same. -/
def SameAt (name : String) (b c : Batch) : Prop :=
  Entries.get? name b.state.vars = Entries.get? name c.state.vars

/-- What comes of a step, and what it makes of the variable of a name, goes by that variable only. -/
def LocalAt {α : Type} (name : String) (m : BatchM α) : Prop :=
  ∀ b c, SameAt name b c → InStep (SameAt name) m b m c

section LocalAt

variable {α β : Type} {name : String}

theorem localAt_pure (a : α) : LocalAt name (pure a) := fun _ _ h => .pure h a

theorem localAt_lift (r : Except Fault α) : LocalAt name (liftM r) := fun _ _ h => .done h r

theorem localAt_log (line : String) : LocalAt name (log line) := fun _ _ h => ⟨rfl, h⟩

theorem localAt_find : LocalAt name (findVariable? name) := fun _ _ h => ⟨congrArg Except.ok h, h⟩

theorem localAt_put (x : Variable) : LocalAt name (putVariable name x) := fun _ _ _ =>
  ⟨rfl, (Entries.get?_put_self ..).trans (Entries.get?_put_self ..).symm⟩

theorem LocalAt.bind {m : BatchM α} {f : α → BatchM β} (hm : LocalAt name m)
    (hf : ∀ a, LocalAt name (f a)) : LocalAt name (m >>= f) :=
  fun b c h => .bind (hm b c h) fun a b' c' h' => hf a b' c' h'

/-- A line with a part that may fail to be written. -/
theorem localAt_line (r : Except Fault α) {f : α → BatchM β} (hf : ∀ a, LocalAt name (f a)) :
    LocalAt name (liftM r >>= f) := (localAt_lift r).bind hf

/-- A value is assigned, and a line about it. -/
theorem localAt_assigned (x : Variable) {m : BatchM β} (hm : LocalAt name m) :
    LocalAt name (putVariable name x >>= fun _ => m) := (localAt_put x).bind fun _ => hm

theorem localAt_autoRegister (literal : String) : LocalAt name (autoRegister name literal) := by
  unfold autoRegister
  cases undeclared name literal with
  | error e => exact (localAt_log _).bind fun _ => localAt_pure none
  | ok found => exact localAt_assigned _ (localAt_pure _)

theorem localAt_rootVariable : LocalAt name (rootVariable name) := by
  refine localAt_find.bind fun x? => ?_
  cases x? with
  | some x => exact localAt_pure x
  | none => exact localAt_assigned _ ((localAt_log _).bind fun _ => localAt_pure _)

theorem localAt_setBelow (name value : String) :
    LocalAt (rootAndPath name).1 (setBelow name value) := by
  refine localAt_rootVariable.bind fun x => ?_
  dsimp only
  split
  · exact localAt_log _
  · refine localAt_assigned _ ?_
    split <;> exact localAt_log _

theorem localAt_setVariable (name value : String) :
    LocalAt (rootAndPath name).1 (setVariable name value) := by
  unfold setVariable
  split
  · exact localAt_setBelow name value
  · rename_i hdot
    rw [rootAndPath_of_notMem (by simpa using hdot)]
    refine localAt_find.bind fun x? => ?_
    cases x? with
    | some x =>
      refine localAt_line _ fun new => localAt_assigned _ ?_
      exact localAt_line _ fun _ => localAt_line _ fun _ => localAt_log _
    | none =>
      refine (localAt_autoRegister value).bind fun x? => ?_
      cases x? with
      | some x => exact localAt_line _ fun _ => localAt_log _
      | none => exact localAt_pure ()

theorem localAt_stepVariable : LocalAt name (stepVariable? name) := by
  refine localAt_find.bind fun x? => ?_
  cases x? with
  | some x => exact localAt_pure _
  | none =>
    refine (localAt_autoRegister "0").bind fun x? => ?_
    cases x? with
    | some x => exact (localAt_log _).bind fun _ => localAt_pure _
    | none => exact localAt_pure _

theorem localAt_step (up : Bool) : LocalAt name (step name up) := by
  refine localAt_stepVariable.bind fun x? => ?_
  cases x? with
  | none => exact localAt_pure ()
  | some x =>
    dsimp only
    split
    · exact localAt_line _ fun _ => localAt_log _
    · refine localAt_line _ fun old => ?_
      cases up with
      | true =>
        refine localAt_line _ fun new => localAt_assigned _ ?_
        exact localAt_line _ fun _ => localAt_line _ fun _ => localAt_log _
      | false =>
        refine localAt_line _ fun new => localAt_assigned _ ?_
        exact localAt_line _ fun _ => localAt_line _ fun _ => localAt_log _

theorem localAt_assign (source : String) (op : AssignOp) (literal : String) :
    LocalAt name (assign source name op literal) := by
  refine localAt_find.bind fun x? => ?_
  cases x? with
  | none =>
    refine (localAt_autoRegister literal).bind fun x? => ?_
    cases x? with
    | some x => exact localAt_line _ fun _ => localAt_log _
    | none => exact localAt_pure ()
  | some x =>
    refine localAt_line _ fun new => ?_
    dsimp only
    split
    · refine localAt_assigned _ ?_
      exact localAt_line _ fun _ => localAt_line _ fun _ => localAt_log _
    · refine localAt_line _ fun delta => localAt_line _ fun base => ?_
      split <;>
        exact localAt_line _ fun sum => localAt_assigned _ <|
          localAt_line _ fun _ => localAt_line _ fun _ => localAt_log _
    · exact localAt_line _ fun old => localAt_line _ fun added => localAt_assigned _ (localAt_log _)
    · exact localAt_line _ fun _ => localAt_log _

end LocalAt

/-! ### Writes -/

/-- A write to variables: a setting by attributes, or one part of a content. -/
inductive Write where
  | setting (name value : String)
  | part (s : List Char)

namespace Write

/-- The variable that a write names, if it names one. -/
def name? : Write → Option String
  | setting name _ => some (rootAndPath name).1
  | part s => statementName? s

/-- Carries out a write. -/
def carryOut : Write → BatchM Unit
  | setting name value => setVariable name value
  | part s => statement s

variable {w : Write} {name : String} {b b' c : Batch}

/-- A write goes by the variable that it names. -/
theorem localAt (h : w.name? = some name) : LocalAt name w.carryOut := by
  cases w with
  | setting other value =>
    obtain rfl := Option.some.inj h
    exact localAt_setVariable other value
  | part s =>
    obtain ⟨st, hst, rfl⟩ := Option.map_eq_some_iff.1 h
    unfold carryOut statement
    dsimp only
    split
    · exact localAt_pure ()
    · rw [hst]
      cases st with
      | step name up => exact localAt_step up
      | assign name op literal => exact localAt_assign _ op literal

/-- A write that names no variable goes through. -/
theorem exists_run_of_unnamed (h : w.name? = none) (b : Batch) :
    ∃ b', w.carryOut.run b = (.ok (), b') := by
  cases w with
  | setting name value => cases h
  | part s =>
    have hst : Statement.ofText? (strip s) = none := by simpa [name?, statementName?] using h
    unfold carryOut statement
    dsimp only
    split
    · exact ⟨_, rfl⟩
    · rw [hst]
      exact ⟨_, rfl⟩

end Write

/-- Only variables of the given names may have changed. -/
structure WritesOnly (named : String → Prop) (_ok : Bool) (b b' : Batch) : Prop where
  others : ∀ name, ¬named name → SameAt name b' b
  tables : b'.state.tables = b.state.tables
  hidden : b'.state.hidden = b.state.hidden

theorem writesOnly_put {named : String → Prop} {name : String} (mem : named name) (b : Batch)
    (x : Variable) :
    WritesOnly named true b { b with state.vars := b.state.vars.put name x } where
  others other hother := by
    refine Entries.get?_put_of_ne ?_ x _
    rintro rfl
    exact hother mem
  tables := rfl
  hidden := rfl

theorem composes_writesOnly (named : String → Prop) : Composes (WritesOnly named) where
  refl _ _ := ⟨fun _ _ => rfl, rfl, rfl⟩
  trans h h' := ⟨fun name hname => (h'.others name hname).trans (h.others name hname),
    h'.tables.trans h.tables, h'.hidden.trans h.hidden⟩

theorem frame_writesOnly (named : String → Prop) :
    Frame (WritesOnly named) named (fun _ => False) (fun _ => False) where
  refl := (composes_writesOnly named).refl
  trans := (composes_writesOnly named).trans
  logs _ _ := ⟨fun _ _ => rfl, rfl, rfl⟩
  declares b _ x mem _ := writesOnly_put mem b x
  assigns b _ _ _ mem _ := writesOnly_put mem b _
  fills _ _ _ _ h _ := h.elim
  hides _ _ _ h := h.elim

/-- A write changes the variable that it names at most. -/
theorem Write.moves (w : Write) : Moves (WritesOnly fun name => w.name? = some name) w.carryOut := by
  have frame := frame_writesOnly fun name => w.name? = some name
  cases w with
  | setting name value => exact frame.moves_setVariable rfl value
  | part s => exact frame.moves_statement fun _ h => h

/-! ### Lists of writes -/

/-- The writes of a list go through one after another, from one batch to another. -/
inductive Through : List Write → Batch → Batch → Prop
  | nil (b : Batch) : Through [] b b
  | cons {w : Write} {l : List Write} {b c d : Batch} (first : w.carryOut.run b = (.ok (), c))
    (rest : Through l c d) : Through (w :: l) b d

/-- The writes of a list that name a variable. -/
def under (name : String) (l : List Write) : List Write := l.filter fun w => w.name? = some name

section Through

variable {l l' : List Write} {w : Write} {name : String} {b b' c d d' : Batch}

theorem through_iff : Through l b b' ↔ (l.forM Write.carryOut).run b = (.ok (), b') := by
  induction l generalizing b with
  | nil =>
    constructor
    · rintro ⟨⟩
      rfl
    · rintro ⟨⟩
      exact .nil _
  | cons w l ih =>
    rw [List.forM_eq_forM, List.forM_cons, run_bind]
    constructor
    · rintro (_ | ⟨first, rest⟩)
      rw [first]
      exact ih.1 rest
    · intro h
      rcases hfirst : w.carryOut.run b with ⟨_ | u, c⟩
      · rw [hfirst] at h
        cases h
      · rw [hfirst] at h
        exact .cons hfirst (ih.2 h)

/-- Writes that go through do so in one way. -/
theorem Through.unique (h : Through l b d) (h' : Through l b d') : d = d' :=
  congrArg Prod.snd ((through_iff.1 h).symm.trans (through_iff.1 h'))

theorem under_cons_of_named (h : w.name? = some name) : under name (w :: l) = w :: under name l :=
  List.filter_cons_of_pos (by simpa using h)

theorem under_cons_of_other (h : w.name? ≠ some name) : under name (w :: l) = under name l :=
  List.filter_cons_of_neg (by simpa using h)

theorem under_append : under name (l ++ l') = under name l ++ under name l' := List.filter_append ..

/-- A write does the same to the variable that it names wherever this is the same. -/
theorem Write.run_sameAt (hname : w.name? = some name) (same : SameAt name b c)
    (h : w.carryOut.run b = (.ok (), b')) :
    ∃ c', w.carryOut.run c = (.ok (), c') ∧ SameAt name b' c' := by
  obtain ⟨hresult, hstate⟩ := localAt hname b c same
  rw [h] at hresult hstate
  exact ⟨(w.carryOut.run c).2, Prod.ext hresult.symm rfl, hstate⟩

theorem Write.writesOnly_of_run (h : w.carryOut.run b = (.ok (), b')) :
    WritesOnly (fun name => w.name? = some name) true b b' := by
  have hmoves := w.moves b
  unfold Gives at hmoves
  rw [h] at hmoves
  exact hmoves

/-- Writes under other names leave a variable as it is. -/
theorem Write.sameAt_of_run (h : w.carryOut.run b = (.ok (), b')) (hother : w.name? ≠ some name) :
    SameAt name b' b := (writesOnly_of_run h).others name hother

/-- Of writes that go through, those under a name do so by themselves, and make of its variable what all
make of it. -/
theorem Through.under (h : Through l b d) (same : SameAt name b c) :
    ∃ d', Through (under name l) c d' ∧ SameAt name d d' := by
  induction h generalizing c with
  | nil b => exact ⟨c, .nil c, same⟩
  | @cons w l b b' d first rest ih =>
    by_cases hname : w.name? = some name
    · obtain ⟨c', hfirst, hsame⟩ := Write.run_sameAt hname same first
      obtain ⟨d', hrest, hd⟩ := ih hsame
      rw [under_cons_of_named hname]
      exact ⟨d', .cons hfirst hrest, hd⟩
    · rw [under_cons_of_other hname]
      exact ih ((Write.sameAt_of_run first hname).trans same)

/-- Writes go through together if those under each name do so by themselves. -/
theorem through_of_under (h : ∀ name, ∃ d, Through (Batch.under name l) b d) : ∃ d, Through l b d := by
  induction l generalizing b with
  | nil => exact ⟨b, .nil b⟩
  | cons w l ih =>
    -- the first write goes through, and those behind it do so under each name from where it leads
    obtain ⟨b', hfirst, hrest⟩ : ∃ b', w.carryOut.run b = (.ok (), b') ∧
        ∀ name, w.name? = some name → ∃ d, Through (Batch.under name l) b' d := by
      cases hname : w.name? with
      | none =>
        obtain ⟨b', hfirst⟩ := Write.exists_run_of_unnamed hname b
        exact ⟨b', hfirst, nofun⟩
      | some name =>
        obtain ⟨d, hd⟩ := h name
        rw [under_cons_of_named hname] at hd
        cases hd with
        | cons hfirst hrest =>
          refine ⟨_, hfirst, ?_⟩
          rintro _ ⟨rfl⟩
          exact ⟨d, hrest⟩
    obtain ⟨d, hd⟩ := ih fun name => by
      by_cases hname : w.name? = some name
      · exact hrest name hname
      · obtain ⟨d, hd⟩ := h name
        rw [under_cons_of_other hname] at hd
        have hself : Batch.under name (Batch.under name l) = Batch.under name l := by
          simp [Batch.under, List.filter_filter]
        obtain ⟨d', hd', -⟩ := hd.under (Write.sameAt_of_run hfirst hname).symm
        rw [hself] at hd'
        exact ⟨d', hd'⟩
    exact ⟨d, .cons hfirst hd⟩

/-- Lists of writes that are the same under each name go through from the same batches, and lead to the
same variables. -/
theorem through_congr (h : ∀ name, under name l = under name l') (hl : Through l b d) :
    ∃ d', Through l' b d' ∧ ∀ name, SameAt name d d' := by
  have hunder : ∀ name, ∃ e, Through (under name l') b e ∧ SameAt name d e := by
    intro name
    rw [← h name]
    exact hl.under rfl
  obtain ⟨d', hd'⟩ := through_of_under fun name => (hunder name).imp fun _ => And.left
  refine ⟨d', hd', fun name => ?_⟩
  obtain ⟨e, he, hsame⟩ := hunder name
  obtain ⟨e', he', hsame'⟩ := hd'.under (rfl : SameAt name b b)
  rw [he.unique he'] at hsame
  exact hsame.trans hsame'.symm

/-- Writes leave tables and hidden variables as they are. -/
theorem Through.rest (h : Through l b d) :
    d.state.tables = b.state.tables ∧ d.state.hidden = b.state.hidden := by
  induction h with
  | nil b => exact ⟨rfl, rfl⟩
  | @cons w l b c d first rest ih =>
    have hfirst := Write.writesOnly_of_run first
    exact ⟨ih.1.trans hfirst.tables, ih.2.trans hfirst.hidden⟩

end Through

end Batch

/-! ### Directives for variables -/

namespace Change

/-- The writes of a directive for variables. -/
def writes : Change → List Batch.Write
  | .setVariable name value => [.setting name value]
  | .assign content => (splitOn ';' content.toList).map .part
  | _ => []

/-- The settings by attributes, and then the contents, each in their order. -/
def inPasses (changes : List Change) : List Change :=
  changes.filter (·.head = ⟨.setVar, false⟩) ++ changes.filter (·.head = ⟨.setVar, true⟩)

/-- The one change is a content and the other a setting by attributes of a variable that it names. -/
def Crosses (c d : Change) : Prop :=
  c.head = ⟨.setVar, true⟩ ∧ d.head = ⟨.setVar, false⟩ ∧ ∃ name ∈ c.named, name ∈ d.named

variable {c : Change} {changes : List Change} {name : String}

theorem filterMap_writes (h : c.head.tag = .setVar) : c.writes.filterMap Batch.Write.name? = c.named := by
  cases c with
  | setVariable name value => rfl
  | assign content =>
    rw [writes, named, List.filterMap_map]
    rfl
  | _ => cases h

theorem under_writes_of_notMem (h : c.head.tag = .setVar) (hname : name ∉ c.named) :
    Batch.under name c.writes = [] := by
  rw [← filterMap_writes h, List.mem_filterMap] at hname
  refine List.filter_eq_nil_iff.2 fun w hw hnamed => hname ⟨w, hw, by simpa using hnamed⟩

theorem under_flatMap_of_notMem (h : ∀ c ∈ changes, c.head.tag = .setVar ∧ name ∉ c.named) :
    Batch.under name (changes.flatMap writes) = [] := by
  induction changes with
  | nil => rfl
  | cons c changes ih =>
    rw [List.forall_mem_cons] at h
    rw [List.flatMap_cons, Batch.under_append, under_writes_of_notMem h.1.1 h.1.2, ih h.2]
    rfl

theorem head_cases (h : c.head.tag = .setVar) :
    c.head = ⟨.setVar, false⟩ ∨ c.head = ⟨.setVar, true⟩ := by
  cases c with
  | setVariable name value => exact .inl rfl
  | assign content => exact .inr rfl
  | _ => cases h

/-- Under each name the writes stand in the order of the text, if no setting by attributes stands behind
a content that names the same variable. -/
theorem under_inPasses (sets : ∀ c ∈ changes, c.head.tag = .setVar)
    (apart : changes.Pairwise fun c d => ¬c.Crosses d) :
    Batch.under name ((inPasses changes).flatMap writes) = Batch.under name (changes.flatMap writes) := by
  induction changes with
  | nil => rfl
  | cons c changes ih =>
    rw [List.forall_mem_cons] at sets
    rw [List.pairwise_cons] at apart
    have hrest := ih sets.2 apart.2
    unfold inPasses at hrest ⊢
    rw [List.flatMap_append, Batch.under_append] at hrest ⊢
    rw [List.flatMap_cons, Batch.under_append, ← hrest]
    rcases head_cases sets.1 with hc | hc
    · rw [List.filter_cons_of_pos (by simpa using hc), List.filter_cons_of_neg (by simp [hc]),
        List.flatMap_cons, Batch.under_append, List.append_assoc]
    · rw [List.filter_cons_of_neg (by simp [hc]), List.filter_cons_of_pos (by simpa using hc),
        List.flatMap_cons, Batch.under_append]
      by_cases hname : name ∈ c.named
      · -- the settings behind the content are of other variables
        have hnone : Batch.under name ((changes.filter (·.head = ⟨.setVar, false⟩)).flatMap writes) = [] := by
          refine under_flatMap_of_notMem fun d hd => ?_
          obtain ⟨hmem, hhead⟩ := List.mem_filter.1 hd
          exact ⟨sets.2 d hmem, fun hnamed => apart.1 d hmem ⟨hc, by simpa using hhead, name, hname, hnamed⟩⟩
        rw [hnone]
        rfl
      · rw [under_writes_of_notMem sets.1 hname]
        rfl

end Change

namespace Batch

/-- A directive for variables carries out its writes. -/
theorem perform_eq_writes {c : Change} (h : c.head.tag = .setVar) :
    perform c = c.writes.forM Write.carryOut := by
  cases c with
  | setVariable name value =>
    have hwrites : (Change.writes (.setVariable name value)).forM Write.carryOut = (do
        setVariable name value
        pure ()) := rfl
    rw [hwrites, bind_pure_unit]
    exact discard_leaving _
  | assign content =>
    have hwrites : (Change.writes (.assign content)).forM Write.carryOut = assignAll content := by
      rw [Change.writes, assignAll_eq, List.forM_eq_forM, List.forM_map]
      rfl
    rw [hwrites]
    exact discard_leaving _
  | _ => cases h

theorem forM_perform {changes : List Change} (sets : ∀ c ∈ changes, c.head.tag = .setVar) :
    changes.forM perform = (changes.flatMap Change.writes).forM Write.carryOut := by
  simp only [List.forM_eq_forM]
  induction changes with
  | nil => rfl
  | cons c changes ih =>
    rw [List.forall_mem_cons] at sets
    rw [List.flatMap_cons, List.forM_cons, List.forM_append, perform_eq_writes sets.1, ih sets.2,
      List.forM_eq_forM]

/-- What is carried out goes through its writes. -/
theorem execute_eq_ok {changes : List Change} (sets : ∀ c ∈ changes, c.head.tag = .setVar)
    (cleanText : String) {s t : State} :
    (∃ r, execute perform changes cleanText s = (.ok r, t)) ↔
      ∃ b, Through (changes.flatMap Change.writes) { state := s } b ∧ b.state = t := by
  unfold execute
  rw [forM_perform sets]
  simp only [through_iff]
  rcases ((changes.flatMap Change.writes).forM Write.carryOut).run { state := s } with ⟨e | u, b⟩
  · exact iff_of_false (by rintro ⟨r, hr⟩; cases hr) (by rintro ⟨b', hb', -⟩; cases hb')
  · constructor
    · rintro ⟨r, hr⟩
      cases hr
      exact ⟨b, rfl, rfl⟩
    · rintro ⟨b', hb', rfl⟩
      cases hb'
      exact ⟨_, rfl⟩

end Batch

/-! ### Texts of directives for variables -/

section Texts

variable {names : TagNames} {segs : List (Segment Change)}

/-- A text of directives for variables is carried out in two passes. -/
theorem State.applyChanges_eq_inPasses (plain : names.Plain)
    (legible : ∀ g ∈ segs, Legible (ChangeText names) g)
    (sets : ∀ c ∈ fieldsOf segs, c.head.tag = .setVar) (s : State) :
    s.applyChanges names (String.ofList (textOf segs)) =
      Batch.execute Batch.perform (Change.inPasses (fieldsOf segs)) (String.ofList (between segs)) s := by
  have headed : ∀ c raw, ChangeText names c raw → Headed names c.head raw :=
    fun _ _ => headed_change plain
  have hall : ∀ c : Change, c.head ∈ changeHeads := by
    intro c
    cases c <;> simp [Change.head, changeHeads]
  have hnone : ∀ k : Head, k.tag ≠ .setVar → (fieldsOf segs).filter (·.head = k) = [] := by
    refine fun k hk => List.filter_eq_nil_iff.2 fun c hc hhead => hk ?_
    rw [← of_decide_eq_true hhead]
    exact sets c hc
  have hpasses : Batch.inOrder Change.head changeHeads (fieldsOf segs) =
      Change.inPasses (fieldsOf segs) := by
    simp [Batch.inOrder, changeHeads, Change.inPasses, hnone]
  rw [State.applyChanges, Batch.change_eq, Batch.run_textOf (changeForms_read plain) (by decide) hall
    legible (notMem_textOf (fun c raw h => (headed c raw h).plain) legible), textOf_kept_false, hpasses]

/-- A text of directives for variables is carried out in two passes, the settings by attributes before the
contents, each in the order of the text. If no setting by attributes stands behind a content that names
the same variable, then the directives go through in the order of the text too, and lead to the same
variables, tables and hidden variables. -/
theorem State.applyChanges_settings (plain : names.Plain)
    (legible : ∀ g ∈ segs, Legible (ChangeText names) g)
    (sets : ∀ c ∈ fieldsOf segs, c.head.tag = .setVar) :
    (∀ s : State, s.applyChanges names (String.ofList (textOf segs)) =
      Batch.execute Batch.perform (Change.inPasses (fieldsOf segs)) (String.ofList (between segs)) s) ∧
    ((fieldsOf segs).Pairwise (fun c d => ¬c.Crosses d) → ∀ (s t : State) (r : BatchResult),
      s.applyChanges names (String.ofList (textOf segs)) = (.ok r, t) →
        ∃ r' t', Batch.execute Batch.perform (fieldsOf segs) (String.ofList (between segs)) s = (.ok r', t') ∧
          (∀ name, Entries.get? name t'.vars = Entries.get? name t.vars) ∧
          t'.tables = t.tables ∧ t'.hidden = t.hidden) := by
  refine ⟨State.applyChanges_eq_inPasses plain legible sets, fun apart s t r h => ?_⟩
  rw [State.applyChanges_eq_inPasses plain legible sets] at h
  have hpasses : ∀ c ∈ Change.inPasses (fieldsOf segs), c.head.tag = .setVar := by
    intro c hc
    rcases List.mem_append.1 hc with hc | hc <;> exact sets c (List.mem_of_mem_filter hc)
  obtain ⟨b, hb, rfl⟩ := (Batch.execute_eq_ok hpasses _).1 ⟨r, h⟩
  obtain ⟨b', hb', hsame⟩ := Batch.through_congr (fun _ => Change.under_inPasses sets apart) hb
  obtain ⟨r', hr'⟩ := (Batch.execute_eq_ok sets (String.ofList (between segs))).2
    ⟨b', hb', rfl⟩
  refine ⟨r', b'.state, hr', fun name => (hsame name).symm, ?_, ?_⟩
  · exact hb'.rest.1.trans hb.rest.1.symm
  · exact hb'.rest.2.trans hb.rest.2.symm

/-- A content, and behind it a setting by attributes of another variable. -/
def apartSettings : List (Segment Change) :=
  [.hit "<setVar>y = 3; y += 4</setVar>".toList (.assign "y = 3; y += 4"), .plain 'a',
    .hit "<setVar name=\"x\" value=\"2\" />".toList (.setVariable "x" "2")]

/-- A content, and behind it a setting by attributes of the same variable. -/
def crossedSettings : List (Segment Change) :=
  [.hit "<setVar>x = 1</setVar>".toList (.assign "x = 1"),
    .hit "<setVar name=\"x\" value=\"2\" />".toList (.setVariable "x" "2")]

theorem changeText_setting : ChangeText .standard (.setVariable "x" "2")
    "<setVar name=\"x\" value=\"2\" />".toList :=
  .setVariable (by decide) (.spaced (by decide)) (.spaced (by decide)) (@EndText.intro _ [' '] (by decide))

theorem State.applyChanges_settings_apart : ∃ r t r' t',
    State.applyChanges .standard (String.ofList (textOf apartSettings)) {} = (.ok r, t) ∧
      Batch.execute Batch.perform (fieldsOf apartSettings) "a" {} = (.ok r', t') ∧
      ∀ name, Entries.get? name t'.vars = Entries.get? name t.vars := by
  have legible : ∀ g ∈ apartSettings, Legible (ChangeText .standard) g := by
    simp only [apartSettings, List.forall_mem_cons, List.not_mem_nil, false_implies, implies_true,
      and_true]
    exact ⟨.assign (by decide), ⟨by decide, by decide⟩, changeText_setting⟩
  have sets : ∀ c ∈ fieldsOf apartSettings, c.head.tag = .setVar := by
    simp [apartSettings, fieldsOf, Change.head]
  have apart : (fieldsOf apartSettings).Pairwise fun c d => ¬c.Crosses d := by
    have hcontent : Change.named (.assign "y = 3; y += 4") = ["y", "y"] := by decide +kernel
    have hsetting : Change.named (.setVariable "x" "2") = ["x"] := by decide
    simp [apartSettings, fieldsOf, Change.Crosses, hcontent, hsetting]
  have hpasses : Change.inPasses (fieldsOf apartSettings) =
      [.setVariable "x" "2", .assign "y = 3; y += 4"] := rfl
  obtain ⟨hrun, horder⟩ := State.applyChanges_settings TagNames.plain_standard legible sets
  have hok : (State.applyChanges .standard (String.ofList (textOf apartSettings)) {}).1.isOk = true := by
    rw [hrun, hpasses]
    decide +kernel
  have hbetween : String.ofList (between apartSettings) = "a" := by decide
  rcases h : State.applyChanges .standard (String.ofList (textOf apartSettings)) {} with ⟨e | r, t⟩
  · rw [h] at hok
    cases hok
  · obtain ⟨r', t', hexecute, hsame, -, -⟩ := horder apart {} t r h
    rw [hbetween] at hexecute
    exact ⟨r, t, r', t', rfl, hexecute, hsame⟩

/-- The variables of a state and their values as texts. -/
def State.texts (s : State) : List (String × Option String) :=
  s.vars.map fun (name, x) => (name, x.value.format.toOption)

/-- The content of the crossed settings has the last word, though the order of the text gives it to the
setting by attributes. -/
theorem State.applyChanges_crossedSettings :
    (State.applyChanges .standard (String.ofList (textOf crossedSettings)) {}).1.isOk = true ∧
      State.texts (State.applyChanges .standard (String.ofList (textOf crossedSettings)) {}).2 =
        [("x", some "1")] ∧
      (Batch.execute Batch.perform (fieldsOf crossedSettings) "" {}).1.isOk = true ∧
      State.texts (Batch.execute Batch.perform (fieldsOf crossedSettings) "" {}).2 = [("x", some "2")] := by
  have legible : ∀ g ∈ crossedSettings, Legible (ChangeText .standard) g := by
    simp only [crossedSettings, List.forall_mem_cons, List.not_mem_nil, false_implies, implies_true,
      and_true]
    exact ⟨.assign (by decide), changeText_setting⟩
  have sets : ∀ c ∈ fieldsOf crossedSettings, c.head.tag = .setVar := by
    simp [crossedSettings, fieldsOf, Change.head]
  have hpasses : Change.inPasses (fieldsOf crossedSettings) =
      [.setVariable "x" "2", .assign "x = 1"] := rfl
  have hfields : fieldsOf crossedSettings = [.assign "x = 1", .setVariable "x" "2"] := rfl
  have hbetween : between crossedSettings = [] := rfl
  rw [State.applyChanges_eq_inPasses TagNames.plain_standard legible sets, hpasses, hfields, hbetween]
  exact ⟨by decide +kernel, by decide +kernel, by decide +kernel, by decide +kernel⟩

end Texts

end StoryState
