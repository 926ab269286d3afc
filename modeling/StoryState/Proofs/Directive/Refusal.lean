import StoryState.Directive.Registration
import StoryState.Proofs.Step
import StoryState.Proofs.Directive.WrittenRegistration

/-!
Registrations are carried out as written, but for those with a declaration that is refused: in a text
of written registrations with other text between them, the accepted ones do what their handlers do,
group by group, a refused variable or table stays in the text and does nothing, and each refused
declaration, an item of a block or not, is one error (`State.applyRegistrations_textOf`).
-/

namespace StoryState

open StoryState.Text StoryState.Directive

/-! ### What is refused -/

/-- The error if the cases of a variable are refused. -/
def VariableFields.refusal? (f : VariableFields) : Option String :=
  match Batch.branchesOf f.branches with
  | .error e => some ("变量 " ++ f.name ++ " 的条件分支解析失败: " ++ e.message)
  | .ok _ => none

namespace Registration

/-- The error if the columns of a table are refused. -/
def columnsRefusal? (name literal : String) : Option String :=
  match readColumns literal with
  | .error e => some ("表格 " ++ name ++ " 的列定义解析失败: " ++ e.message)
  | .ok _ => none

/-- The errors of a registration, one for each declaration in it that is refused. -/
def refusals : Registration → List String
  | .newVariable fields => fields.refusal?.toList
  | .newVariables items => items.filterMap VariableFields.refusal?
  | .newTable name columns => (columnsRefusal? name columns).toList
  | _ => []

/-- Whether a registration stays in the text: a variable or a table that is refused does. -/
def stays : Registration → Bool
  | .newVariable fields => fields.refusal?.isSome
  | .newTable name columns => (columnsRefusal? name columns).isSome
  | _ => false

/-- What of a registration is accepted: of a block, the items that are. -/
def accepted? : Registration → Option Registration
  | .newVariables items => some (.newVariables (items.filter fun fields => fields.refusal?.isNone))
  | r => if r.stays then none else some r

/-- Registrations in the order in which a batch carries them out: group by group, in text order
within each group. -/
def inOrder (registrations : List Registration) : List Registration :=
  Batch.inOrder head registrationHeads registrations

end Registration

/-- The same result with other errors. -/
def BatchResult.withErrors (errors : List String) (r : BatchResult) : BatchResult := { r with errors }

namespace Batch

/-- Carries out a registration by itself. -/
def enroll (r : Registration) : BatchM Unit := discard (register [] r)

/-! ### Steps that add errors -/

/-- Batches that differ in their errors at most. -/
structure Like (b b' : Batch) : Prop where
  state : b.state = b'.state
  logs : b.logs = b'.logs

/-- From batches that are alike `m` does what `m'` does, and if it goes through it has added these
errors while `m'` has added none. -/
def Adds {α : Type} (errors : List String) (m m' : BatchM α) : Prop :=
  ∀ b b', Like b b' → (m.run b).1 = (m'.run b').1 ∧ Like (m.run b).2 (m'.run b').2 ∧
    ((m.run b).1.isOk = true →
      (m.run b).2.errors = b.errors ++ errors ∧ (m'.run b').2.errors = b'.errors)

section Rules

variable {α β : Type} {es es' : List String} {m m' : BatchM α} {f f' : α → BatchM β}

theorem adds_pure (a : α) : Adds [] (pure a) (pure a) :=
  fun _ _ h => ⟨rfl, h, fun _ => ⟨(List.append_nil _).symm, rfl⟩⟩

theorem adds_lift (r : Except Fault α) : Adds [] (liftM r : BatchM α) (liftM r) :=
  fun _ _ h => ⟨rfl, h, fun _ => ⟨(List.append_nil _).symm, rfl⟩⟩

theorem adds_log (line : String) : Adds [] (log line) (log line) :=
  fun _ _ h => ⟨rfl, ⟨h.state, congrArg (· ++ [line]) h.logs⟩,
    fun _ => ⟨(List.append_nil _).symm, rfl⟩⟩

theorem adds_error (line : String) : Adds [line] (error line) (pure ()) :=
  fun _ _ h => ⟨rfl, ⟨h.state, h.logs⟩, fun _ => ⟨rfl, rfl⟩⟩

/-- A change of the state. -/
theorem adds_modify (g : State → State) :
    Adds [] (modify fun b => { b with state := g b.state } : BatchM Unit)
      (modify fun b => { b with state := g b.state }) :=
  fun _ _ h => ⟨rfl, ⟨congrArg g h.state, h.logs⟩, fun _ => ⟨(List.append_nil _).symm, rfl⟩⟩

theorem Adds.bind (hm : Adds es m m') (hf : ∀ a, Adds es' (f a) (f' a)) :
    Adds (es ++ es') (m >>= f) (m' >>= f') := by
  intro b b' h
  obtain ⟨hout, hlike, herrors⟩ := hm b b' h
  rw [run_bind, run_bind, ← hout]
  cases hr : (m.run b).1 with
  | error e => exact ⟨rfl, hlike, fun hok => nomatch hok⟩
  | ok a =>
    obtain ⟨herr, herr'⟩ := herrors (by rw [hr]; rfl)
    obtain ⟨hout, hlike, herrors⟩ := hf a _ _ hlike
    refine ⟨hout, hlike, fun hok => ?_⟩
    rw [(herrors hok).1, (herrors hok).2, herr, herr']
    exact ⟨List.append_assoc .., rfl⟩

theorem Adds.get {f f' : Batch → BatchM β} (h : ∀ b b', Like b b' → Adds es (f b) (f' b')) :
    Adds es (MonadState.get >>= f) (MonadState.get >>= f') :=
  fun b b' hb => h b b' hb b b' hb

/-- Adding nothing first. -/
theorem Adds.next (hm : Adds [] m m') (hf : ∀ a, Adds es' (f a) (f' a)) :
    Adds es' (m >>= f) (m' >>= f') := hm.bind hf

theorem discard_eq (m : BatchM α) : discard m = (do let _ ← m; return () : BatchM Unit) := by
  rw [discard, map_const]
  exact (bind_pure_comp (fun _ => PUnit.unit) m).symm

theorem discard_pure (a : α) : discard (pure a : BatchM α) = pure () := by
  rw [discard_eq, pure_bind]

theorem Adds.discard (hm : Adds es m m') :
    Adds es (Functor.discard m : BatchM Unit) (Functor.discard m') := by
  rw [discard_eq, discard_eq, ← List.append_nil es]
  exact hm.bind fun _ => adds_pure ()

/-- A list of steps, each of which does what those steps do that are kept of it. -/
theorem adds_forM {act : α → BatchM Unit} {act' : β → BatchM Unit} {keep? : α → Option β}
    {errors : α → List String} (h : ∀ a, Adds (errors a) (act a) ((keep? a).toList.forM act'))
    (l : List α) : Adds (l.flatMap errors) (l.forM act) ((l.filterMap keep?).forM act') := by
  induction l with
  | nil => exact adds_pure _
  | cons a l ih =>
    have hstep := (h a).bind fun _ => ih
    cases hk : keep? a with
    | none => simpa [hk] using hstep
    | some a' => simpa [hk] using hstep

theorem adds_forM_nil {act : α → BatchM Unit} (l : List α) (h : ∀ a, Adds [] (act a) (act a)) :
    Adds [] (l.forM act) (l.forM act) := by
  induction l with
  | nil => exact adds_pure _
  | cons a l ih => exact (h a).next fun _ => ih

end Rules

/-! ### The handlers -/

section Handlers

theorem adds_putVariable (name : String) (x : Variable) :
    Adds [] (putVariable name x) (putVariable name x) :=
  adds_modify fun s => { s with vars := s.vars.put name x }

theorem adds_putTable (name : String) (t : Table) : Adds [] (putTable name t) (putTable name t) :=
  adds_modify fun s => { s with tables := s.tables.put name t }

theorem adds_putHidden (name : String) (h : Hidden) :
    Adds [] (putHidden name h) (putHidden name h) :=
  adds_modify fun s => { s with hidden := s.hidden.put name h }

/-- An error, and an answer that is not looked at. -/
theorem adds_refusal {α : Type} (line : String) (a : α) :
    Adds [line] (discard (do error line; return a : BatchM α)) (pure ()) := by
  have h := ((adds_error line).bind fun _ => adds_pure a).discard
  rwa [pure_bind, discard_pure, List.append_nil] at h

theorem adds_registerVariable {fields : VariableFields} (h : fields.refusal? = none) :
    Adds [] (registerVariable fields) (registerVariable fields) := by
  unfold registerVariable
  cases hb : branchesOf fields.branches with
  | error e => simp [VariableFields.refusal?, hb] at h
  | ok branches =>
    dsimp only
    cases hk : Kind.ofName? fields.declared with
    | none => exact (adds_log _).next fun _ => adds_pure _
    | some kind =>
      refine (adds_lift _).next fun value => (adds_putVariable _ _).next fun _ => ?_
      exact (adds_log _).next fun _ => adds_pure _

theorem adds_registerVariable_refused {fields : VariableFields} {line : String}
    (h : fields.refusal? = some line) :
    Adds [line] (discard (registerVariable fields)) (pure ()) := by
  unfold registerVariable
  cases hb : branchesOf fields.branches with
  | error e =>
    simp only [VariableFields.refusal?, hb, Option.some.injEq] at h
    dsimp only
    rw [h]
    exact adds_refusal line false
  | ok branches => simp [VariableFields.refusal?, hb] at h

theorem adds_registerTable {name literal : String}
    (h : Registration.columnsRefusal? name literal = none) :
    Adds [] (registerTable name literal) (registerTable name literal) := by
  unfold registerTable
  cases hc : readColumns literal with
  | error e => simp [Registration.columnsRefusal?, hc] at h
  | ok columns =>
    dsimp only
    refine (adds_putTable _ _).next fun _ => (adds_log _).next fun _ => ?_
    exact (adds_forM_nil columns fun c => adds_log _).next fun _ => adds_pure _

theorem adds_registerTable_refused {name literal line : String}
    (h : Registration.columnsRefusal? name literal = some line) :
    Adds [line] (discard (registerTable name literal)) (pure ()) := by
  unfold registerTable
  cases hc : readColumns literal with
  | error e =>
    simp only [Registration.columnsRefusal?, hc, Option.some.injEq] at h
    dsimp only
    rw [h]
    exact adds_refusal line false
  | ok columns => simp [Registration.columnsRefusal?, hc] at h

/-- What is dropped is dropped whatever the errors are. -/
theorem adds_drop (has : State → Bool) (drop : State → State) (sort name : String) :
    Adds [] (do
        if has (← get).state then
          modify fun b => { b with state := drop b.state }
          logDropped sort name)
      (do
        if has (← get).state then
          modify fun b => { b with state := drop b.state }
          logDropped sort name) := by
  refine Adds.get fun b b' hb => ?_
  rw [hb.state]
  split
  · exact (adds_modify drop).next fun _ => adds_log _
  · exact adds_pure _

theorem adds_dropVariable (name : String) : Adds [] (dropVariable name) (dropVariable name) :=
  adds_drop (fun s => s.vars.has name) (fun s => { s with vars := s.vars.erase name }) "变量" name

theorem adds_dropTable (name : String) : Adds [] (dropTable name) (dropTable name) :=
  adds_drop (fun s => s.tables.has name) (fun s => { s with tables := s.tables.erase name }) "表格" name

theorem adds_dropHidden (name : String) : Adds [] (dropHidden name) (dropHidden name) :=
  adds_drop (fun s => s.hidden.has name) (fun s => { s with hidden := s.hidden.erase name }) "隐变量"
    name

theorem adds_registerHidden (fields : HiddenFields) :
    Adds [] (registerHidden fields) (registerHidden fields) :=
  (adds_putHidden _ _).next fun _ => (adds_log _).next fun _ => adds_log _

/-- A block does what its accepted items do, and each refused one is an error. -/
theorem adds_items (items : List VariableFields) :
    Adds (items.filterMap VariableFields.refusal?)
      (items.forM fun fields => discard (registerVariable fields))
      ((items.filter fun fields => fields.refusal?.isNone).forM fun fields =>
        discard (registerVariable fields)) := by
  rw [List.filterMap_eq_flatMap_toList, ← List.filterMap_eq_filter]
  refine adds_forM (fun fields => ?_) items
  cases h : fields.refusal? with
  | none =>
    have hguard : Option.guard (fun f : VariableFields => f.refusal?.isNone) fields = some fields := by
      simp [h]
    rw [hguard]
    simpa using (adds_registerVariable h).discard
  | some line =>
    have hguard : Option.guard (fun f : VariableFields => f.refusal?.isNone) fields = none := by
      simp [h]
    rw [hguard]
    exact adds_registerVariable_refused h

theorem enroll_newVariable (fields : VariableFields) :
    enroll (.newVariable fields) = discard (registerVariable fields) := by
  simp [enroll, register, discard_eq]

theorem enroll_newVariables (items : List VariableFields) :
    enroll (.newVariables items) = items.forM fun fields => discard (registerVariable fields) := by
  simp [enroll, register, discard_eq]

theorem enroll_newTable (name columns : String) :
    enroll (.newTable name columns) = discard (registerTable name columns) := by
  simp [enroll, register, discard_eq]

/-- A registration does what is accepted of it, and adds an error for each refusal. -/
theorem adds_enroll (r : Registration) :
    Adds r.refusals (enroll r) (r.accepted?.toList.forM enroll) := by
  have hself {r : Registration} (h : Adds [] (enroll r) (enroll r)) :
      Adds [] (enroll r) ([r].forM enroll) := by simpa using h
  cases r with
  | newVariable fields =>
    have henroll := enroll_newVariable fields
    cases h : fields.refusal? with
    | none =>
      simp only [Registration.refusals, Registration.accepted?, Registration.stays, h]
      exact hself (henroll ▸ (adds_registerVariable h).discard)
    | some line =>
      simp only [Registration.refusals, Registration.accepted?, Registration.stays, h]
      exact henroll ▸ adds_registerVariable_refused h
  | newVariables items =>
    simp only [Registration.refusals, Registration.accepted?, Option.toList_some,
      List.forM_eq_forM, List.forM_cons, List.forM_nil, enroll_newVariables, bind_pure_unit]
    exact adds_items items
  | newHidden fields => exact hself ((adds_registerHidden fields).next fun _ => adds_pure _).discard
  | newTable name columns =>
    have henroll := enroll_newTable name columns
    cases h : Registration.columnsRefusal? name columns with
    | none =>
      simp only [Registration.refusals, Registration.accepted?, Registration.stays, h]
      exact hself (henroll ▸ (adds_registerTable h).discard)
    | some line =>
      simp only [Registration.refusals, Registration.accepted?, Registration.stays, h]
      exact henroll ▸ adds_registerTable_refused h
  | dropVariable name => exact hself ((adds_dropVariable name).next fun _ => adds_pure _).discard
  | dropVariables names =>
    exact hself ((adds_forM_nil names adds_dropVariable).next fun _ => adds_pure _).discard
  | dropTable name => exact hself ((adds_dropTable name).next fun _ => adds_pure _).discard
  | dropHidden name => exact hself ((adds_dropHidden name).next fun _ => adds_pure _).discard

end Handlers

/-- Carrying out registrations is carrying out what is accepted of them, but for the errors. -/
theorem execute_enroll (registrations : List Registration) (cleanText : String) (s : State) :
    execute enroll registrations cleanText s =
      Prod.map (Except.map (BatchResult.withErrors (registrations.flatMap Registration.refusals))) id
        (execute enroll (registrations.filterMap Registration.accepted?) cleanText s) := by
  obtain ⟨hout, hlike, herrors⟩ := adds_forM adds_enroll registrations { state := s } _ ⟨rfl, rfl⟩
  unfold execute
  revert hout hlike herrors
  generalize (registrations.forM enroll).run { state := s } = p
  generalize ((registrations.filterMap Registration.accepted?).forM enroll).run { state := s } = p'
  obtain ⟨outcome, b⟩ := p
  obtain ⟨outcome', b'⟩ := p'
  rintro rfl ⟨hstate, hlogs⟩ herrors
  cases outcome with
  | error e => exact congrArg (Prod.mk _) hstate
  | ok =>
    have herr : b.errors = registrations.flatMap Registration.refusals := (herrors rfl).1
    have hstate : b.state = b'.state := hstate
    have hlogs : b.logs = b'.logs := hlogs
    simp [Prod.map, Except.map, BatchResult.withErrors, hstate, hlogs, herr]

theorem registerVariable_eq (fields : VariableFields) :
    registerVariable fields = do
      discard (registerVariable fields)
      return fields.refusal?.isNone := by
  unfold registerVariable
  cases hb : branchesOf fields.branches with
  | error e => simp [discard_eq, VariableFields.refusal?, hb]
  | ok branches =>
    cases hk : Kind.ofName? fields.declared <;> simp [discard_eq, VariableFields.refusal?, hb]

theorem registerTable_eq (name literal : String) :
    registerTable name literal = do
      discard (registerTable name literal)
      return (Registration.columnsRefusal? name literal).isNone := by
  unfold registerTable
  cases hc : readColumns literal <;> simp [discard_eq, Registration.columnsRefusal?, hc]

/-- What a registration leaves in the text depends on its declaration only. -/
theorem register_eq :
    register = fun raw r => do enroll r; return dropUnless Registration.stays raw r := by
  funext raw r
  cases r with
  | newVariable fields =>
    rw [enroll_newVariable, register, registerVariable_eq]
    cases h : fields.refusal? <;> simp [dropUnless, Registration.stays, h, discard_eq]
  | newTable name columns =>
    rw [enroll_newTable, register, registerTable_eq]
    cases h : Registration.columnsRefusal? name columns <;>
      simp [dropUnless, Registration.stays, h, discard_eq]
  | _ => simp [register, enroll, discard_eq, dropUnless, Registration.stays]

end Batch

/-- A text of written registrations does what the handlers do for them in their order. -/
theorem State.applyRegistrations_eq {segs : List (Segment Registration)}
    (legible : ∀ g ∈ segs, Legible (RegistrationText .standard) g) (s : State) :
    s.applyRegistrations .standard (String.ofList (textOf segs)) =
      Batch.execute Batch.enroll (Registration.inOrder (fieldsOf segs))
        (String.ofList (textOf (kept Registration.stays segs))) s := by
  have headed : ∀ r raw, RegistrationText .standard r raw → Headed .standard r.head raw :=
    fun _ _ => headed_registration TagNames.plain_standard standard_ne_itemTag
  have hall : ∀ r : Registration, r.head ∈ registrationHeads := by
    intro r
    cases r <;> simp [Registration.head, registrationHeads]
  rw [State.applyRegistrations, Batch.register_eq,
    Batch.run_textOf (registrationForms_read TagNames.plain_standard standard_ne_itemTag) (by decide) hall legible
      (notMem_textOf (fun r raw h => (headed r raw h).plain) legible)]
  rfl

/-- A text of written registrations does what the handlers do for the accepted ones in their order, has
one error for each refused declaration, and leaves what stands between them and the refused
variables and tables. -/
theorem State.applyRegistrations_textOf {segs : List (Segment Registration)}
    (legible : ∀ g ∈ segs, Legible (RegistrationText .standard) g) (s : State) :
    s.applyRegistrations .standard (String.ofList (textOf segs)) =
      let registrations := Registration.inOrder (fieldsOf segs)
      Prod.map (Except.map (BatchResult.withErrors (registrations.flatMap Registration.refusals))) id
        (Batch.execute Batch.enroll (registrations.filterMap Registration.accepted?)
          (String.ofList (textOf (kept Registration.stays segs))) s) := by
  rw [State.applyRegistrations_eq legible]
  exact Batch.execute_enroll _ _ s

/-! A text with a refused variable, and a block with a refused item. -/

/-- Two items of a block, of which the second has cases that are no list. -/
def mixedItems : List (Segment VariableFields) :=
  [.hit "<var name=\"y\" type=\"string\" initVal=\"\"/>".toList ⟨"y", "string", "", none⟩, .plain '\n',
    .hit "<var name=\"z\" type=\"number\" initVal=\"2\" conditional='1'/>".toList
      ⟨"z", "number", "2", some "1"⟩]

/-- A variable to be dropped, a variable with cases that are no list, and the block, with text
around them. -/
def mixedRegistrations : List (Segment Registration) :=
  [.plain 'a', .hit "<unregisterVar name=\"q\"/>".toList (.dropVariable "q"),
    .hit "<registerVar name=\"x\" type=\"number\" initVal=\"1\" conditional='1'/>".toList
      (.newVariable ⟨"x", "number", "1", some "1"⟩),
    .plain 'b',
    .hit ("<registerVars>".toList ++ textOf mixedItems ++ "</registerVars>".toList)
      (.newVariables (fieldsOf mixedItems))]

theorem legible_mixedRegistrations :
    ∀ g ∈ mixedRegistrations, Legible (RegistrationText .standard) g := by
  have slash : EndText ['/', '>'] ['/', '>'] := @EndText.intro _ [] (by decide)
  have hone : CasesText (some "1") " conditional='1'".toList := .given (.spaced (by decide))
  have hx : VariableText "registerVar" ⟨"x", "number", "1", some "1"⟩ _ :=
    .intro (by decide) (by decide) (.spaced (by decide)) (.spaced (by decide)) (.spaced (by decide))
      hone slash
  have hy : VariableText itemTag ⟨"y", "string", "", none⟩ _ :=
    .intro (by decide) (by decide) (.spaced (by decide)) (.spaced (by decide)) (.spaced (by decide))
      .absent slash
  have hz : VariableText itemTag ⟨"z", "number", "2", some "1"⟩ _ :=
    .intro (by decide) (by decide) (.spaced (by decide)) (.spaced (by decide)) (.spaced (by decide))
      hone slash
  have hitems : ∀ g ∈ mixedItems, Legible (VariableText itemTag) g := by
    simp only [mixedItems, List.forall_mem_cons, List.not_mem_nil, false_implies, implies_true,
      and_true]
    exact ⟨hy, ⟨by decide, by decide⟩, hz⟩
  simp only [mixedRegistrations, List.forall_mem_cons, List.not_mem_nil, false_implies, implies_true,
    and_true]
  refine ⟨⟨by decide, by decide⟩, ?_, .newVariable hx, ⟨by decide, by decide⟩, .newVariables hitems⟩
  exact .dropVariable (.intro (by decide) (.spaced (by decide)) slash)

theorem applyRegistrations_mixedRegistrations :
    (∀ g ∈ mixedRegistrations, Legible (RegistrationText .standard) g) ∧
      State.applyRegistrations .standard (String.ofList (textOf mixedRegistrations)) {} =
        Prod.map (Except.map (BatchResult.withErrors
            ["变量 x 的条件分支解析失败: 条件分支必须是非空数组",
              "变量 z 的条件分支解析失败: 条件分支必须是非空数组"])) id
          (Batch.execute Batch.enroll
            [.newVariables [⟨"y", "string", "", none⟩], .dropVariable "q"]
            "a<registerVar name=\"x\" type=\"number\" initVal=\"1\" conditional='1'/>b" {}) := by
  refine ⟨legible_mixedRegistrations, ?_⟩
  rw [State.applyRegistrations_textOf legible_mixedRegistrations]
  rfl

end StoryState
