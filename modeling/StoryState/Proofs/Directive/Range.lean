import StoryState.Proofs.Directive.Level
import StoryState.Proofs.State.WellFormed
import StoryState.Proofs.Value.Writable

/-!
The range of a directive: what it asks of the numbers in it, and of those that it makes or shows, so
that it goes through (`Registration.InRange`, `Change.InRange`). In a state that has been made by
texts alone only the numbers of number variables, which arithmetic can lead anywhere, may be too long
to be shown (`State.Sound`); there assignments go through just if they are in range
(`Batch.goes_assignAll`).
-/

namespace StoryState

open StoryState.Text

/-! ### Ranges -/

/-- A number that is no whole number beyond the doubles. -/
def Number.HasDouble : Number → Prop
  | .int n => (ofInt? n).isSome = true
  | .float _ => True

/-- The numbers on which an assignment goes through: the old one and the new one are short enough to
be shown, and if one of the two that are added is a double, the other has one. -/
def Batch.AssignOp.InRange : Batch.AssignOp → Number → Number → Prop
  | .set, old, _ => (Value.ofNumber old).isWritable = true
  | .add, .int a, .int b => Number.isWritable a = true ∧ Number.isWritable (a + b) = true
  | .subtract, .int a, .int b => Number.isWritable a = true ∧ Number.isWritable (a - b) = true
  | _, a, b => (Value.ofNumber a).isWritable = true ∧ a.HasDouble ∧ b.HasDouble

/-- A variable of a name holds a number. -/
def State.HoldsNumber (s : State) (name : String) (a : Number) : Prop :=
  ∃ x, Entries.get? name s.vars = some x ∧ x.kind? = some .number ∧ x.value = .ofNumber a

/-- What a statement asks of the number that it changes; nothing if it changes none. -/
def Batch.Statement.InRange (s : State) : Batch.Statement → Prop
  | .step name up => ∀ a, s.HoldsNumber name a →
    (if up then Batch.AssignOp.add else .subtract).InRange a (.int 1)
  | .assign name op literal => ∀ a, s.HoldsNumber name a → Number.Legible literal ∧
    ∀ b, Number.ofText literal.toList = .ok b → op.InRange a b

/-- A cell of which the literal can be read, if it stands below a column of numbers. -/
def Table.Legible (t : Table) (cell : String × String) : Prop :=
  ∀ c, t.column? cell.1 = some c → c.kind? = some .number → Number.Legible cell.2

/-- A declaration of which the initial value can be read, unless it is refused. -/
def VariableFields.InRange (f : VariableFields) : Prop :=
  f.refusal? = none → Kind.ofName? f.declared = some .number → Number.Legible f.initial

/-- A registration of which the numbers can be read. -/
def Registration.InRange : Registration → Prop
  | .newVariable fields => fields.InRange
  | .newVariables items => ∀ fields ∈ items, fields.InRange
  | _ => True

namespace Batch

/-- Each of the steps on a list satisfies `ok` in the batch in which its turn comes. -/
def InTurn {α : Type} (act : α → BatchM Unit) (ok : α → Batch → Prop) : List α → Batch → Prop
  | [], _ => True
  | a :: l, b => ok a b ∧ InTurn act ok l ((act a).run b).2

/-- The statement that a part of a content makes, if any, is in range. -/
def PartInRange (part : List Char) (b : Batch) : Prop :=
  ∀ s, Statement.ofText? (Text.strip part) = some s → s.InRange b.state

end Batch

/-- A change that goes through: its literals can be read and its statements are in range, in turn. -/
def Change.InRange (c : Change) (b : Batch) : Prop :=
  match c with
  | .setVariable name value => '.' ∉ name.toList →
    (Batch.Statement.assign name .set value).InRange b.state
  | .assign content => Batch.InTurn Batch.statement Batch.PartInRange (splitOn ';' content.toList) b
  | .setCells table row content => ∀ t, Entries.get? table b.state.tables = some t →
    Number.LegibleAtHead row ∧ ∀ i, Batch.rowIndex? row t.rows.length = .ok (some i) →
      ∀ cell ∈ Batch.cells content, t.Legible cell
  | .addRow table content => ∀ t, Entries.get? table b.state.tables = some t →
    ∀ cell ∈ Batch.cells content, t.Legible cell
  | .removeRow table row => ∀ t, Entries.get? table b.state.tables = some t → Number.LegibleAtHead row
  | .setHidden _ => True

/-- The changes that are found in a text. -/
def Change.foundIn (names : TagNames) (text : String) : List Change :=
  Batch.agenda (fun _ => false) (Directive.changeForms names) (decodeEntities text.toList)

/-! ### Sound states -/

/-- A state of which everything but the number variables can be shown. -/
structure State.Showable (s : State) : Prop where
  vars : ∀ name x, (name, x) ∈ s.vars → x.kind? ≠ some .number → x.value.isWritable = true
  rows : ∀ name t, (name, t) ∈ s.tables → ∀ row ∈ t.rows, (Value.object row).isWritable = true
  hidden : ∀ name h, (name, h) ∈ s.hidden → h.value.isWritable = true

/-- A state as texts make it. -/
structure State.Sound (s : State) : Prop where
  wellFormed : s.WellFormed
  showable : s.Showable

section Showable

variable {s s' : State} {name : String}

/-- Edits keep a state sound if it stays showable. -/
theorem State.Sound.along (hs : s.Sound) (h : Edits s s') (hs' : s'.Showable) : s'.Sound :=
  ⟨h.keep (fun _ _ => Edit.wellFormed) hs.wellFormed, hs'⟩

theorem State.Showable.putVariable (hs : s.Showable) (name : String) {x : Variable}
    (hx : x.kind? ≠ some .number → x.value.isWritable = true) :
    { s with vars := s.vars.put name x }.Showable where
  vars := Entries.forall_put hs.vars hx
  rows := hs.rows
  hidden := hs.hidden

theorem State.Showable.putTable (hs : s.Showable) (name : String) {t : Table}
    (ht : ∀ row ∈ t.rows, (Value.object row).isWritable = true) :
    { s with tables := s.tables.put name t }.Showable where
  vars := hs.vars
  rows := Entries.forall_put hs.rows ht
  hidden := hs.hidden

theorem State.Showable.putHidden (hs : s.Showable) (name : String) {h : Hidden}
    (hh : h.value.isWritable = true) : { s with hidden := s.hidden.put name h }.Showable where
  vars := hs.vars
  rows := hs.rows
  hidden := Entries.forall_put hs.hidden hh

theorem State.Showable.row (hs : s.Showable) {t : Table} (found : Entries.get? name s.tables = some t)
    (i : Nat) : (Value.object (t.rows.getD i [])).isWritable = true :=
  getD_of_forall (P := fun row => (Value.object row).isWritable = true)
    (hs.rows name t (Entries.mem_of_get? found)) Value.inherited_isWritable.emptyObject i

theorem State.Showable.setCell (hs : s.Showable) {t : Table}
    (found : Entries.get? name s.tables = some t) (i : Nat) (column : String) {v : Value}
    (hv : v.isWritable = true) :
    { s with
      tables := s.tables.put name
        { t with rows := t.rows.set i ((t.rows.getD i []).put column v) } }.Showable := by
  refine hs.putTable name fun row hrow => ?_
  rcases List.mem_or_eq_of_mem_set hrow with hrow | rfl
  · exact hs.rows name t (Entries.mem_of_get? found) row hrow
  · exact Value.inherited_isWritable.put hv (hs.row found i) column

theorem Expiry.showable (h : Expiry s s') (hs : s.Showable) : s'.Showable := by
  induction h with
  | refl => exact hs
  | tail _ he ih =>
    cases he with
    | flag found _ _ =>
      have hold := ih.hidden _ _ (Entries.mem_of_get? found)
      exact ih.putHidden _ hold

end Showable

/-! ### Steps that go through -/

namespace Batch

/-- The step leads to a showable state, and it goes through just if `ok` holds. -/
def Goes {α : Type} (m : BatchM α) (b : Batch) (ok : Prop) : Prop :=
  Gives m b fun r b' => b'.state.Showable ∧ (r.isOk = true ↔ ok)

/-- The step only writes to the log, and it goes through just if `ok` holds. -/
def Says {α : Type} (m : BatchM α) (ok : Prop) : Prop :=
  ∀ b, Gives m b fun r b' => b'.state = b.state ∧ (r.isOk = true ↔ ok)

section Steps

variable {α β : Type} {b : Batch} {m : BatchM α} {ok ok' : Prop}

theorem says_pure (a : α) : Says (pure a) True := fun _ => ⟨rfl, iff_of_true rfl trivial⟩

theorem says_log (line : String) : Says (log line) True := fun _ => ⟨rfl, iff_of_true rfl trivial⟩

theorem Says.lift_bind {r : Except Fault α} {f : α → BatchM β} (hf : ∀ a, Says (f a) ok) :
    Says (liftM r >>= f) (r.isOk = true ∧ ok) := by
  intro b
  rw [gives_lift_bind]
  cases r with
  | error e => exact ⟨rfl, iff_of_false nofun fun h => nomatch h.1⟩
  | ok a => exact gives_mono (hf a b) fun _ _ h => ⟨h.1, h.2.trans (and_iff_right rfl).symm⟩

theorem Says.bind {f : α → BatchM β} (hm : Says m True) (hf : ∀ a, Says (f a) ok) :
    Says (m >>= f) ok := by
  intro b
  rw [gives_bind]
  refine gives_mono (hm b) fun r b' h => ?_
  cases r with
  | error e => exact nomatch h.2.2 trivial
  | ok a => exact gives_mono (hf a b') fun _ _ h' => ⟨h'.1.trans h.1, h'.2⟩

theorem Says.congr (h : Says m ok) (hiff : ok ↔ ok') : Says m ok' :=
  fun b => gives_mono (h b) fun _ _ h => ⟨h.1, h.2.trans hiff⟩

/-- A report on a state. -/
theorem Says.goes (h : Says m ok) (hb : b.state.Showable) : Goes m b ok :=
  gives_mono (h b) fun _ _ h => ⟨h.1 ▸ hb, h.2⟩

theorem Goes.congr (h : Goes m b ok) (hiff : ok ↔ ok') : Goes m b ok' :=
  gives_mono h fun _ _ h => ⟨h.1, h.2.trans hiff⟩

theorem goes_pure (hb : b.state.Showable) (a : α) : Goes (pure a) b True := (says_pure a).goes hb

theorem goes_lift_bind {r : Except Fault α} {f : α → BatchM β} {ok : α → Prop}
    (hb : b.state.Showable) (hf : ∀ a, r = .ok a → Goes (f a) b (ok a)) :
    Goes (liftM r >>= f) b (∃ a, r = .ok a ∧ ok a) := by
  unfold Goes
  rw [gives_lift_bind]
  cases r with
  | error e => exact ⟨hb, iff_of_false nofun fun ⟨_, h, _⟩ => nomatch h⟩
  | ok a => exact (hf a rfl).congr ⟨fun h => ⟨a, rfl, h⟩, fun ⟨_, h, hok⟩ => by cases h; exact hok⟩

/-- Two steps, the first of which goes through. -/
theorem goes_bind {f : α → BatchM β} {Q : α → Batch → Prop}
    (hm : Gives m b fun r b' => ∃ a, r = .ok a ∧ Q a b') (hf : ∀ a b', Q a b' → Goes (f a) b' ok) :
    Goes (m >>= f) b ok := by
  unfold Goes
  rw [gives_bind]
  refine gives_mono hm ?_
  rintro r b' ⟨a, rfl, h⟩
  exact hf a b' h

/-- A step and what follows it. -/
theorem Goes.next {rest : BatchM β} (h : Goes m b ok) (hrest : Goes rest (m.run b).2 ok') :
    Goes (m >>= fun _ => rest) b (ok ∧ ok') := by
  obtain ⟨hshowable, hiff⟩ := h
  unfold Goes
  rw [gives_bind]
  unfold Gives
  cases hr : (m.run b).1 with
  | error e =>
    rw [hr] at hiff
    exact ⟨hshowable, iff_of_false nofun fun h => nomatch hiff.2 h.1⟩
  | ok a =>
    rw [hr] at hiff
    exact hrest.congr (and_iff_right (hiff.1 rfl)).symm

theorem Goes.discard (h : Goes m b ok) : Goes (Functor.discard m) b ok := by
  unfold Goes
  rw [discard_eq, gives_bind]
  refine gives_mono h fun r b' h => ?_
  cases r <;> exact h

/-- A step of which nothing is left. -/
theorem Goes.leaving {m : BatchM Unit} (h : Goes m b ok) :
    Goes (Functor.discard (do m; return ([] : List Char))) b ok := by
  rw [discard_leaving]
  exact h

/-- Texts of values, and a line of them. -/
theorem says_texts {v w : Value} (line : String → String → String) :
    Says (do log (line (← v.format) (← w.format))) (v.isWritable = true ∧ w.isWritable = true) := by
  refine (Says.lift_bind fun _ => Says.lift_bind fun _ => says_log _).congr ?_
  rw [Value.isOk_format, Value.isOk_format, and_true]

theorem says_text {v : Value} (line : String → String) :
    Says (do log (line (← v.format))) (v.isWritable = true) := by
  refine (Says.lift_bind fun _ => says_log _).congr ?_
  rw [Value.isOk_format, and_true]

theorem says_row (row : Entries Value) (line : String → String) :
    Says (do log (line (← rowText row))) ((Value.object row).isWritable = true) := by
  refine (Says.lift_bind fun _ => says_log _).congr ?_
  rw [rowText, Value.isOk_render, and_true]

/-- The text of a declaration, and a line with it. -/
theorem says_declared {v : Value} {s : String} (h : v = .text s) (line : String → String) :
    Says (do log (line (← v.display))) True := by
  refine (Says.lift_bind fun _ => says_log _).congr ?_
  rw [h]
  exact iff_of_true ⟨rfl, trivial⟩ trivial

/-- A list of steps goes through just if each is in range when its turn comes. -/
theorem goes_forM {act : α → BatchM Unit} {ok : α → Batch → Prop} (moves : ∀ a, Moves Advance (act a))
    (goes : ∀ a b, b.state.Sound → Goes (act a) b (ok a b)) (l : List α) (hb : b.state.Sound) :
    Goes (l.forM act) b (InTurn act ok l b) := by
  induction l generalizing b with
  | nil => exact goes_pure hb.showable ()
  | cons a l ih =>
    exact (goes a b hb).next (ih (hb.along (moves a b).edits (goes a b hb).1))

theorem inTurn_const {act : α → BatchM Unit} {p : α → Prop} (l : List α) (b : Batch) :
    InTurn act (fun a _ => p a) l b ↔ ∀ a ∈ l, p a := by
  induction l generalizing b with
  | nil => simp [InTurn]
  | cons a l ih => rw [InTurn, ih, List.forall_mem_cons]

end Steps

/-! ### Numbers -/

section Numbers

variable {a c : Number}

theorem isOk_toFloat : a.toFloat.isOk = true ↔ a.HasDouble := by
  cases a with
  | float x => exact iff_of_true rfl trivial
  | int n =>
    unfold Number.toFloat Number.HasDouble
    dsimp only
    cases Number.ofInt? n with
    | none => exact iff_of_false nofun nofun
    | some x => exact iff_of_true rfl rfl

/-- An operation on doubles goes through on numbers that have one. -/
theorem exists_float {f : Float → Float → Float} :
    (∃ new, (do return .float (f (← a.toFloat) (← c.toFloat)) : Except Fault Number) = .ok new ∧
      (Value.ofNumber a).isWritable = true ∧ (Value.ofNumber new).isWritable = true) ↔
      (Value.ofNumber a).isWritable = true ∧ a.HasDouble ∧ c.HasDouble := by
  rw [← isOk_toFloat, ← isOk_toFloat]
  cases ha : a.toFloat with
  | error e => exact iff_of_false (fun ⟨_, h, _⟩ => nomatch h) fun h => nomatch h.2.1
  | ok x =>
    cases hc : c.toFloat with
    | error e => exact iff_of_false (fun ⟨_, h, _⟩ => nomatch h) fun h => nomatch h.2.2
    | ok y => exact ⟨fun ⟨_, _, h, _⟩ => ⟨h, rfl, rfl⟩, fun h => ⟨_, rfl, h.1, rfl⟩⟩

theorem exists_int {n : Int} {p : Prop} :
    (∃ new, Except.ok (.int n) = (.ok new : Except Fault Number) ∧ p ∧
      (Value.ofNumber new).isWritable = true) ↔ p ∧ Number.isWritable n = true :=
  ⟨fun ⟨_, h, hp, hn⟩ => by cases h; exact ⟨hp, hn⟩, fun h => ⟨_, rfl, h⟩⟩

theorem exists_add : (∃ new, a.add c = .ok new ∧ (Value.ofNumber a).isWritable = true ∧
    (Value.ofNumber new).isWritable = true) ↔ AssignOp.InRange .add a c := by
  cases a with
  | float x => exact exists_float
  | int m =>
    cases c with
    | float y => exact exists_float
    | int n => exact exists_int

theorem exists_sub : (∃ new, a.sub c = .ok new ∧ (Value.ofNumber a).isWritable = true ∧
    (Value.ofNumber new).isWritable = true) ↔ AssignOp.InRange .subtract a c := by
  cases a with
  | float x => exact exists_float
  | int m =>
    cases c with
    | float y => exact exists_float
    | int n => exact exists_int

theorem exists_ofNumber {v : Value} (h : v.fits .number = true) : ∃ a, v = .ofNumber a := by
  cases v with
  | int n => exact ⟨.int n, rfl⟩
  | float x => exact ⟨.float x, rfl⟩
  | _ => cases h

theorem operand_ofNumber (a : Number) : operand (.ofNumber a) = .ok a := by cases a <;> rfl

theorem ofNumber_inj (h : Value.ofNumber a = .ofNumber c) : a = c := by
  cases a <;> cases c <;> cases h <;> rfl

end Numbers

/-! ### Variables -/

section Variables

variable {b : Batch} {β : Type} {ok : Prop} {name literal : String} {x : Variable}

theorem goes_putVariable {f : Unit → BatchM β} (hb : b.state.Showable) (name : String)
    (hx : x.kind? ≠ some .number → x.value.isWritable = true) (hf : Says (f ()) ok) :
    Goes (putVariable name x >>= f) b ok := by
  unfold Goes
  rw [gives_bind]
  exact hf.goes (hb.putVariable name hx)

theorem holdsNumber_iff {s : State} (found : Entries.get? name s.vars = some x) {a : Number} :
    s.HoldsNumber name a ↔ x.kind? = some .number ∧ x.value = .ofNumber a := by
  constructor
  · rintro ⟨y, hy, h⟩
    obtain rfl : x = y := Option.some.inj (found.symm.trans hy)
    exact h
  · exact fun h => ⟨x, found, h⟩

theorem not_holdsNumber {s : State} (found : Entries.get? name s.vars = none) (a : Number) :
    ¬ s.HoldsNumber name a := fun ⟨_, hx, _⟩ => nomatch found.symm.trans hx

/-- A sound variable holds a number, or can be shown. -/
theorem number_or_other {s : State} (hs : s.Sound) (found : Entries.get? name s.vars = some x) :
    (x.kind? = some .number ∧ ∃ a, x.value = .ofNumber a) ∨
      x.kind? ≠ some .number ∧ x.value.isWritable = true := by
  have hmem := Entries.mem_of_get? found
  by_cases hk : x.kind? = some .number
  · obtain ⟨k, hdeclared, hfits⟩ := (hs.wellFormed.vars name x hmem).kind
    obtain rfl : k = .number := by
      simpa [Variable.kind?, hdeclared, Kind.ofValue?] using hk
    exact .inl ⟨hk, exists_ofNumber hfits⟩
  · exact .inr ⟨hk, hs.showable.vars name x hmem hk⟩

/-- A statement that finds no number is in range. -/
theorem inRange_of_none {s : State} {op : AssignOp} (h : ∀ a, ¬ s.HoldsNumber name a) :
    (Statement.assign name op literal).InRange s := fun a ha => absurd ha (h a)

theorem inRange_of_number {s : State} {op : AssignOp} {a : Number}
    (found : Entries.get? name s.vars = some x) (hk : x.kind? = some .number)
    (hv : x.value = .ofNumber a) :
    (Statement.assign name op literal).InRange s ↔
      Number.Legible literal ∧ ∀ c, Number.ofText literal.toList = .ok c → op.InRange a c := by
  constructor
  · exact fun h => h a ((holdsNumber_iff found).2 ⟨hk, hv⟩)
  · rintro h a' ha'
    obtain rfl := ofNumber_inj (hv.symm.trans ((holdsNumber_iff found).1 ha').2)
    exact h

/-- Registering a variable that is not declared, and a line about it if it could be. -/
theorem goes_autoRegister {f : Option Variable → BatchM Unit} (hb : b.state.Showable)
    (name literal : String)
    (hsome : ∀ k v, Says (f (some ⟨.text (Kind.name k), v, false, none⟩)) True)
    (hnone : f none = pure ()) : Goes (autoRegister name literal >>= f) b True := by
  unfold Goes
  rw [gives_bind]
  refine gives_mono (gives_autoRegister name literal b) ?_
  rintro r b' (⟨line, rfl, rfl⟩ | ⟨k, v, hu, rfl, rfl⟩)
  · show Goes (f none) { b with logs := b.logs ++ [line] } True
    rw [hnone]
    exact goes_pure hb ()
  · exact (hsome k v).goes
      (hb.putVariable name fun _ => Value.inherited_isWritable.of_undeclared hu)

/-- Setting a variable to what a literal is read to, and a line about it. -/
theorem goes_set (hb : b.state.Sound) (found : Entries.get? name b.state.vars = some x)
    (literal : String) (line : String → String → String) :
    Goes (do
        let new ← Value.ofLiteral x.kind? (.text literal)
        putVariable name { x with value := new }
        log (line (← x.value.format) (← new.format))) b
      ((Statement.assign name .set literal).InRange b.state) := by
  have hnew : ∀ new, Value.ofLiteral x.kind? (.text literal) = .ok new → new.isWritable = true :=
    fun _ h => Value.inherited_isWritable.of_ofLiteral rfl h
  refine (goes_lift_bind hb.showable fun new h =>
    goes_putVariable hb.showable name (fun _ => hnew new h) (says_texts line)).congr ?_
  have hread : (∃ new, Value.ofLiteral x.kind? (.text literal) = .ok new ∧ x.value.isWritable = true ∧
      new.isWritable = true) ↔
      (x.kind? = some .number → Number.Legible literal) ∧ x.value.isWritable = true := by
    rw [← Value.isOk_ofLiteral, isOk_iff]
    constructor
    · rintro ⟨new, h, hold, -⟩
      exact ⟨⟨new, h⟩, hold⟩
    · rintro ⟨⟨new, h⟩, hold⟩
      exact ⟨new, h, hold, hnew new h⟩
  rw [hread]
  rcases number_or_other hb found with ⟨hk, a, hv⟩ | ⟨hk, hw⟩
  · rw [inRange_of_number found hk hv, hv, forall_prop_of_true hk]
    refine and_congr_right fun hlegible => ⟨fun h _ _ => h, fun h => ?_⟩
    obtain ⟨c, hc⟩ := isOk_iff.1 (Number.isOk_ofText.2 hlegible)
    exact h c hc
  · exact iff_of_true ⟨fun h => absurd h hk, hw⟩
      (inRange_of_none fun a ha => hk ((holdsNumber_iff found).1 ha).1)

theorem goes_setBelow (hb : b.state.Sound) (name value : String) :
    Goes (setBelow name value) b True := by
  have hroot : ∀ root, Gives (rootVariable root) b fun r b' => ∃ x, r = .ok x ∧
      (b'.state.Showable ∧ (x.kind? ≠ some .number → x.value.isWritable = true)) := by
    intro root
    unfold rootVariable
    rw [gives_bind, gives_findVariable]
    dsimp only
    cases found : Entries.get? root b.state.vars with
    | some x => exact ⟨x, rfl, hb.showable, hb.showable.vars root x (Entries.mem_of_get? found)⟩
    | none =>
      have hvalue := Value.inherited_isWritable.rootValue root
      exact ⟨_, rfl, hb.showable.putVariable root fun _ => hvalue, fun _ => hvalue⟩
  unfold setBelow
  refine goes_bind (hroot _) fun x b' ⟨hshowable, hx⟩ => ?_
  dsimp only
  split
  · exact (says_log _).goes hshowable
  · rename_i hkind
    have hk : x.kind? ≠ some .number := by
      intro hk
      simp [hk] at hkind
    refine goes_putVariable hshowable _ (fun _ => ?_) (by split <;> exact says_log _)
    refine Value.inherited_isWritable.writePath _ rfl ?_
    split
    · exact hx hk
    · exact Value.inherited_isWritable.rootValue _

theorem goes_setVariable (hb : b.state.Sound) (name value : String) :
    Goes (setVariable name value) b
      ('.' ∉ name.toList → (Statement.assign name .set value).InRange b.state) := by
  unfold setVariable
  split
  · rename_i hdot
    have hname : '.' ∈ name.toList := by simpa using hdot
    exact (goes_setBelow hb name value).congr (iff_of_true trivial fun h => absurd hname h)
  · rename_i hdot
    have hname : '.' ∉ name.toList := by simpa using hdot
    rw [forall_prop_of_true hname]
    unfold Goes
    rw [gives_bind, gives_findVariable]
    dsimp only
    cases found : Entries.get? name b.state.vars with
    | some x => exact goes_set hb found value _
    | none =>
      have hnone : (Statement.assign name .set value).InRange b.state :=
        inRange_of_none (not_holdsNumber found)
      exact (goes_autoRegister hb.showable name value (fun k v => says_declared rfl _) rfl).congr
        (iff_of_true trivial hnone)

theorem undeclared_zero (name : String) :
    undeclared name "0" = .ok (.number, .int 0) ∨ ∃ v, undeclared name "0" = .ok (.object, v) := by
  unfold undeclared
  by_cases h : name = todoList
  · rw [if_pos h]
    right
    split <;> exact ⟨_, rfl⟩
  · rw [if_neg h]
    left
    rfl

/-- Assigning a number that is computed from another one, and a line about both. -/
theorem goes_compute (hb : b.state.Showable) (name : String) (hk : x.kind? = some .number)
    (r : Except Fault Number) (a : Number) (line : String → String → String) :
    Goes (do
        let new ← r
        putVariable name { x with value := .ofNumber new }
        log (line (← (Value.ofNumber a).format) (← (Value.ofNumber new).format))) b
      (∃ new, r = .ok new ∧ (Value.ofNumber a).isWritable = true ∧
        (Value.ofNumber new).isWritable = true) :=
  goes_lift_bind hb fun _ _ => goes_putVariable hb name (fun h => absurd hk h) (says_texts line)

/-- A variable that a step finds, and what its number says about the range of the step. -/
structure Steps (s : State) (name : String) (up : Bool) (x : Variable) : Prop where
  declared : ∃ kind, x.declared = .text kind
  number : x.kind? = some .number → ∃ a, x.value = .ofNumber a
  inRange : (Statement.step name up).InRange s ↔ ∀ a, x.kind? = some .number → x.value = .ofNumber a →
    (if up then AssignOp.add else .subtract).InRange a (.int 1)

/-- A step finds the variable of its name, or registers one that holds zero or no number. -/
theorem finds_stepVariable (hb : b.state.Sound) (name : String) (up : Bool) :
    Gives (stepVariable? name) b fun r b' => ∃ x?, r = .ok x? ∧ b'.state.Showable ∧
      (x? = none → (Statement.step name up).InRange b.state) ∧
      ∀ x, x? = some x → Steps b.state name up x := by
  unfold stepVariable?
  rw [gives_bind, gives_findVariable]
  dsimp only
  cases found : Entries.get? name b.state.vars with
  | some x =>
    refine ⟨some x, rfl, hb.showable, nofun, ?_⟩
    rintro y ⟨⟩
    obtain ⟨k, hdeclared, -⟩ := (hb.wellFormed.vars name x (Entries.mem_of_get? found)).kind
    refine ⟨⟨_, hdeclared⟩, fun hk => ?_, forall_congr' fun a => ?_⟩
    · exact ((number_or_other hb found).resolve_right fun h => h.1 hk).2
    · rw [holdsNumber_iff found, and_imp]
  | none =>
    have hrange : (Statement.step name up).InRange b.state :=
      fun a ha => absurd ha (not_holdsNumber found a)
    dsimp only
    rw [gives_bind]
    refine gives_mono (gives_autoRegister name "0" b) ?_
    rintro r b' (⟨line, rfl, rfl⟩ | ⟨k, v, hu, rfl, rfl⟩)
    · exact ⟨none, rfl, hb.showable, fun _ => hrange, nofun⟩
    · refine ⟨some _, rfl, hb.showable.putVariable name fun _ =>
        Value.inherited_isWritable.of_undeclared hu, nofun, ?_⟩
      rintro x ⟨⟩
      have hzero : k = .number → v = .ofNumber (.int 0) := by
        rintro rfl
        rcases undeclared_zero name with h | ⟨w, h⟩ <;> (rw [h] at hu; cases hu)
        rfl
      have hkind : Variable.kind? ⟨.text k.name, v, false, none⟩ = some k := Kind.ofName?_name k
      refine ⟨⟨_, rfl⟩, fun hk => ⟨_, hzero ?_⟩, iff_of_true hrange fun a hk hv => ?_⟩
      · exact Option.some.inj (hkind.symm.trans hk)
      · obtain rfl := ofNumber_inj ((hzero (Option.some.inj (hkind.symm.trans hk))).symm.trans hv)
        cases up <;> exact ⟨by decide, by decide⟩

theorem goes_step (hb : b.state.Sound) (name : String) (up : Bool) :
    Goes (step name up) b ((Statement.step name up).InRange b.state) := by
  unfold step
  refine goes_bind (finds_stepVariable hb name up) fun x? b' ⟨hshowable, hnone, hsome⟩ => ?_
  cases x? with
  | none => exact (goes_pure hshowable ()).congr (iff_of_true trivial (hnone rfl))
  | some x =>
    obtain ⟨⟨kind, hdeclared⟩, hnumber, hrange⟩ := hsome x rfl
    rw [hrange]
    dsimp only
    split
    · rename_i hk
      exact ((says_declared hdeclared _).goes hshowable).congr
        (iff_of_true trivial fun _ h => absurd h hk)
    · rename_i hk
      have hk : x.kind? = some .number := by simpa using hk
      obtain ⟨a, hv⟩ := hnumber hk
      have hone : (∀ a', x.kind? = some .number → x.value = .ofNumber a' →
          (if up then AssignOp.add else .subtract).InRange a' (.int 1)) ↔
          (if up then AssignOp.add else .subtract).InRange a (.int 1) :=
        ⟨fun h => h a hk hv, fun h a' _ hv' => ofNumber_inj (hv.symm.trans hv') ▸ h⟩
      rw [hone, hv, operand_ofNumber]
      cases up with
      | true => exact (goes_compute hshowable name hk _ a _).congr exists_add
      | false => exact (goes_compute hshowable name hk _ a _).congr exists_sub

/-- An assignment to a number. -/
theorem goes_assign_number (hb : b.state.Sound) (found : Entries.get? name b.state.vars = some x)
    (hk : x.kind? = some .number) {a : Number} (hv : x.value = .ofNumber a) (source : String)
    (op : AssignOp) (literal : String) :
    Goes (assign source name op literal) b ((Statement.assign name op literal).InRange b.state) := by
  have hliteral : Value.ofLiteral x.kind? (.text literal) =
      (Number.ofText literal.toList).map Value.ofNumber := by
    rw [hk]
    rfl
  unfold assign Goes
  rw [gives_bind, gives_findVariable]
  dsimp only
  rw [found]
  dsimp only
  by_cases hop : op = .set
  · subst hop
    exact goes_set hb found literal _
  rw [inRange_of_number found hk hv, ← Number.isOk_ofText, hliteral]
  cases Number.ofText literal.toList with
  | error e => exact ⟨hb.showable, iff_of_false nofun fun h => nomatch h.1⟩
  | ok c =>
    have hrange : ((Except.ok c : Except Fault Number).isOk = true ∧
        ∀ c', (Except.ok c : Except Fault Number) = .ok c' → op.InRange a c') ↔ op.InRange a c :=
      ⟨fun h => h.2 c rfl, fun h => ⟨rfl, fun c' hc' => by cases hc'; exact h⟩⟩
    rw [hrange, hk, Except.map, gives_lift_bind]
    cases op with
    | set => exact absurd rfl hop
    | add =>
      dsimp only
      rw [operand_ofNumber, hv, operand_ofNumber]
      exact (goes_compute hb.showable name hk _ a _).congr exists_add
    | subtract =>
      dsimp only
      rw [operand_ofNumber, hv, operand_ofNumber]
      exact (goes_compute hb.showable name hk _ a _).congr exists_sub

/-- An assignment to something else than a number. -/
theorem goes_assign_other (hb : b.state.Sound) (found : Entries.get? name b.state.vars = some x)
    (hk : x.kind? ≠ some .number) (source : String) (op : AssignOp) (literal : String) :
    Goes (assign source name op literal) b True := by
  have hmem := Entries.mem_of_get? found
  obtain ⟨k, hdeclared, -⟩ := (hb.wellFormed.vars name x hmem).kind
  have hkind : x.kind? = some k := by rw [Variable.kind?, hdeclared, Kind.ofValue?, Kind.ofName?_name]
  obtain ⟨new, hnew⟩ := isOk_iff.1 (Value.isOk_ofLiteral (s := literal).2 fun h => absurd h hk)
  have hwnew : new.isWritable = true := Value.inherited_isWritable.of_ofLiteral rfl hnew
  have hw : x.value.isWritable = true := hb.showable.vars name x hmem hk
  have hlog : ∀ line : String → String, Goes (do log (line (← x.declared.display))) b True :=
    fun line => (says_declared hdeclared line).goes hb.showable
  unfold assign Goes
  rw [gives_bind, gives_findVariable]
  dsimp only
  rw [found]
  dsimp only
  rw [hnew, hkind, gives_lift_bind]
  cases op with
  | set =>
    refine (goes_putVariable hb.showable name (fun _ => hwnew) (says_texts _)).congr ?_
    exact iff_of_true ⟨hw, hwnew⟩ trivial
  | subtract =>
    cases k with
    | number => exact absurd hkind hk
    | _ => exact hlog _
  | add =>
    cases k with
    | number => exact absurd hkind hk
    | string =>
      obtain ⟨old, hold⟩ := isOk_iff.1 ((Value.isOk_format x.value).trans hw)
      obtain ⟨added, hadded⟩ := isOk_iff.1 ((Value.isOk_format new).trans hwnew)
      dsimp only
      rw [hold, gives_lift_bind]
      dsimp only
      rw [hadded, gives_lift_bind]
      exact goes_putVariable hb.showable name (fun _ => rfl) (says_log _)
    | _ => exact hlog _

theorem goes_assign (hb : b.state.Sound) (source name : String) (op : AssignOp) (literal : String) :
    Goes (assign source name op literal) b ((Statement.assign name op literal).InRange b.state) := by
  cases found : Entries.get? name b.state.vars with
  | none =>
    unfold assign Goes
    rw [gives_bind, gives_findVariable]
    dsimp only
    rw [found]
    exact (goes_autoRegister hb.showable name literal (fun k v => says_declared rfl _) rfl).congr
      (iff_of_true trivial (inRange_of_none (not_holdsNumber found)))
  | some x =>
    rcases number_or_other hb found with ⟨hk, a, hv⟩ | ⟨hk, -⟩
    · exact goes_assign_number hb found hk hv source op literal
    · exact (goes_assign_other hb found hk source op literal).congr (iff_of_true trivial
        (inRange_of_none fun a ha => hk ((holdsNumber_iff found).1 ha).1))

theorem goes_statement (hb : b.state.Sound) (part : List Char) :
    Goes (statement part) b (PartInRange part b) := by
  unfold statement PartInRange
  dsimp only
  split
  · rename_i hblank
    rw [hblank]
    exact (goes_pure hb.showable ()).congr (iff_of_true trivial nofun)
  · cases Statement.ofText? (Text.strip part) with
    | none => exact ((says_log _).goes hb.showable).congr (iff_of_true trivial nofun)
    | some s =>
      have hsame : (∀ s', some s = some s' → s'.InRange b.state) ↔ s.InRange b.state :=
        ⟨fun h => h s rfl, fun h s' hs' => by cases hs'; exact h⟩
      rw [hsame]
      cases s with
      | step name up => exact goes_step hb name up
      | assign name op literal => exact goes_assign hb _ name op literal

theorem goes_assignAll (hb : b.state.Sound) (content : String) :
    Goes (assignAll content) b (InTurn statement PartInRange (splitOn ';' content.toList) b) := by
  rw [assignAll_eq]
  exact goes_forM moves_statement (fun part _ h => goes_statement h part) _ hb

end Variables

end Batch

end StoryState
