import StoryState.Proofs.State.Edit
import StoryState.Proofs.State.Payload

/-!
Where storable states come from. Every edit keeps a state storable (`Edit.storable`). What values inherit
from their parts, the values of a state have from the record it is read from
(`Value.Inherited.drawn_state`); so a state that is read from a record is storable
(`State.storable_of_ofValue`).
-/

namespace StoryState

/-! ### Putting and dropping -/

section Change

variable {s : State} {name : String}

theorem State.Storable.putVariable (hs : s.Storable) {x : Variable} (hx : x.Storable) :
    { s with vars := s.vars.put name x }.Storable where
  vars_once := hs.vars_once.put name x
  tables_once := hs.tables_once
  hidden_once := hs.hidden_once
  vars := Entries.forall_put hs.vars hx
  tables := hs.tables
  hidden := hs.hidden

theorem State.Storable.putTable (hs : s.Storable) {t : Table} (ht : t.Storable name) :
    { s with tables := s.tables.put name t }.Storable where
  vars_once := hs.vars_once
  tables_once := hs.tables_once.put name t
  hidden_once := hs.hidden_once
  vars := hs.vars
  tables := Entries.forall_put hs.tables ht
  hidden := hs.hidden

theorem State.Storable.putHidden (hs : s.Storable) {h : Hidden} (hh : h.Storable) :
    { s with hidden := s.hidden.put name h }.Storable where
  vars_once := hs.vars_once
  tables_once := hs.tables_once
  hidden_once := hs.hidden_once.put name h
  vars := hs.vars
  tables := hs.tables
  hidden := Entries.forall_put hs.hidden hh

theorem State.Storable.dropVariable (hs : s.Storable) :
    { s with vars := s.vars.erase name }.Storable where
  vars_once := hs.vars_once.erase name
  tables_once := hs.tables_once
  hidden_once := hs.hidden_once
  vars n y hy := hs.vars n y (Entries.mem_erase hy)
  tables := hs.tables
  hidden := hs.hidden

theorem State.Storable.dropTable (hs : s.Storable) :
    { s with tables := s.tables.erase name }.Storable where
  vars_once := hs.vars_once
  tables_once := hs.tables_once.erase name
  hidden_once := hs.hidden_once
  vars := hs.vars
  tables n y hy := hs.tables n y (Entries.mem_erase hy)
  hidden := hs.hidden

theorem State.Storable.dropHidden (hs : s.Storable) :
    { s with hidden := s.hidden.erase name }.Storable where
  vars_once := hs.vars_once
  tables_once := hs.tables_once
  hidden_once := hs.hidden_once.erase name
  vars := hs.vars
  tables := hs.tables
  hidden n y hy := hs.hidden n y (Entries.mem_erase hy)

theorem Variable.Storable.assign {x : Variable} (hx : x.Storable) {v : Value} (hv : v.Tidy) :
    { x with value := v }.Storable := ⟨hx.declared, hv, hx.branches⟩

theorem Table.Storable.sublist {t : Table} (ht : t.Storable name) {rows : List (Entries Value)}
    (hr : ∀ row ∈ rows, (Value.object row).Tidy) : { t with rows }.Storable name :=
  ⟨ht.name, ht.named, ht.columns, hr⟩

theorem Table.Storable.addRow {t : Table} (ht : t.Storable name) {row : Entries Value}
    (hrow : (Value.object row).Tidy) : { t with rows := t.rows ++ [row] }.Storable name := by
  refine ht.sublist fun row' hrow' => ?_
  rcases List.mem_append.1 hrow' with hrow' | hrow'
  · exact ht.rows row' hrow'
  · exact List.mem_singleton.1 hrow' ▸ hrow

theorem Table.Storable.removeRow {t : Table} (ht : t.Storable name) (i : Nat) :
    { t with rows := t.rows.eraseIdx i }.Storable name :=
  ht.sublist fun row hrow => ht.rows row (List.mem_of_mem_eraseIdx hrow)

theorem Table.Storable.setCell {t : Table} (ht : t.Storable name) {i : Nat} {column : String}
    {v : Value} (hv : v.Tidy) :
    { t with rows := t.rows.set i ((t.rows.getD i []).put column v) }.Storable name := by
  refine ht.sublist fun row hrow => ?_
  rcases List.mem_or_eq_of_mem_set hrow with hrow | rfl
  · exact ht.rows row hrow
  · exact Value.tidy_put hv (getD_of_forall (P := fun row => (Value.object row).Tidy) ht.rows
      Value.inherited_tidy.emptyObject i)

end Change

/-! ### Edits -/

theorem Variable.Declared.storable {x : Variable} (h : x.Declared) : x.Storable where
  declared := by
    obtain ⟨k, hk, -⟩ := h.kind
    rw [hk]
    exact trivial
  value := h.tidy
  branches bs hbs b hb := by
    refine ⟨(h.cases bs hbs).tidy b hb, fun c hc => ?_⟩
    obtain ⟨t, rfl, hne⟩ := (h.cases bs hbs).texts b hb c hc
    exact ⟨trivial, by simpa [Value.truthy] using hne⟩

theorem Column.Declared.storable {c : Column} (h : c.Declared) : c.Storable := by
  obtain ⟨name, k, -, hname, hk⟩ := h
  exact ⟨by rw [hname]; exact trivial, by rw [hk]; exact trivial⟩

/-- Every edit keeps a state storable. -/
theorem Edit.storable {s s' : State} (h : Edit s s') (hs : s.Storable) : s'.Storable := by
  cases h with
  | declareVariable name declared => exact hs.putVariable declared.storable
  | assign found _ tidy =>
    have hx := hs.vars _ _ (Entries.mem_of_get? found)
    exact hs.putVariable (hx.assign (tidy hx.value))
  | dropVariable name => exact hs.dropVariable
  | declareTable name declared =>
    exact hs.putTable ⟨trivial, .inr rfl, fun c hc => (declared c hc).storable, by simp⟩
  | setCell i found _ _ tidy =>
    exact hs.putTable ((hs.tables _ _ (Entries.mem_of_get? found)).setCell tidy)
  | addRow found accepted =>
    exact hs.putTable ((hs.tables _ _ (Entries.mem_of_get? found)).addRow accepted.tidy)
  | removeRow i found =>
    exact hs.putTable ((hs.tables _ _ (Entries.mem_of_get? found)).removeRow i)
  | dropTable name => exact hs.dropTable
  | putHidden name _ tidy text =>
    obtain ⟨condition, hc⟩ := text
    exact hs.putHidden ⟨by rw [hc]; exact trivial, tidy⟩
  | dropHidden name => exact hs.dropHidden
  | expire found _ =>
    have hh := hs.hidden _ _ (Entries.mem_of_get? found)
    exact hs.putHidden ⟨hh.condition, hh.value⟩

/-- Texts keep a state storable. -/
theorem Edits.storable {s s' : State} (h : Edits s s') (hs : s.Storable) : s'.Storable :=
  Edits.keep (fun _ _ => Edit.storable) h hs

/-! ### Records of any shape -/

namespace Value.Inherited

variable {P : Value → Prop} {v w : Value} {key : String}

theorem of_get? (h : Inherited P) {fields : Entries Value} (hv : P (.object fields))
    (hw : Entries.get? key fields = some w) : P w :=
  h.parts hv _ _ (Entries.mem_of_get? hw)

theorem of_field? (h : Inherited P) {o : Option Value} (hv : P v) (hf : v.field? key = .ok o) :
    ∀ w, o = some w → P w := by
  rintro w rfl
  cases v with
  | object fields => exact h.of_get? hv (Except.ok.inj hf)
  | _ => cases hf

theorem of_getD {o : Option Value} (h : ∀ w, o = some w → P w) (hd : P w) : P (o.getD w) := by
  cases o with
  | none => exact hd
  | some v => exact h v rfl

theorem of_fieldOrNull (h : Inherited P) (hv : P v) (hf : v.fieldOrNull key = .ok w) : P w := by
  unfold Value.fieldOrNull at hf
  cases hfound : v.field? key with
  | error e => rw [hfound] at hf; cases hf
  | ok o =>
    rw [hfound] at hf
    cases hf
    exact of_getD (h.of_field? hv hfound) h.null

theorem of_iterate (h : Inherited P) {items : List Value} (hv : P v) (hi : v.iterate = .ok items) :
    ∀ w ∈ items, P w := by
  cases v with
  | list vs =>
    cases hi
    exact h.list.1 hv
  | object fields =>
    cases hi
    intro w hw
    obtain ⟨f, -, rfl⟩ := List.mem_map.1 hw
    exact h.text _
  | text t =>
    cases hi
    intro w hw
    obtain ⟨c, -, rfl⟩ := List.mem_map.1 hw
    exact h.text _
  | _ => cases hi

theorem of_pair (h : Inherited P) {index : Nat} {p : String × Value} (hv : P v)
    (hp : v.pair index = .ok p) : P p.2 := by
  unfold Value.pair at hp
  cases hi : v.iterate with
  | error e => rw [hi] at hp; cases hp
  | ok items =>
    have hitems := h.of_iterate hv hi
    rw [hi] at hp
    split at hp
    · cases hp
    · rename_i k w heq
      cases heq
      obtain ⟨key, -, hkey⟩ := exists_of_bind_ok hp
      cases hkey
      exact hitems w (by simp)
    · cases hp

theorem of_toEntries (h : Inherited P) {es : Entries Value} (hv : P v) (he : v.toEntries = .ok es) :
    P (.object es) := by
  have hpairs : ∀ w : Value, P w → (w.iterate >>= fun items =>
      (items.zipIdx.mapM fun item => item.1.pair item.2) >>= fun pairs =>
        pure (Entries.ofList pairs)) = .ok es → P (.object es) := by
    intro w hw hread
    obtain ⟨items, hitems, hread⟩ := exists_of_bind_ok hread
    obtain ⟨pairs, hpairs, hread⟩ := exists_of_bind_ok hread
    cases hread
    refine h.ofList fun k u hu => ?_
    obtain ⟨⟨item, index⟩, hmem, hpair⟩ := (exists_of_mapM_ok hpairs).2 (k, u) hu
    exact h.of_pair (h.of_iterate hw hitems item (List.fst_mem_of_mem_zipIdx hmem)) hpair
  cases v with
  | object fields =>
    cases he
    exact hv
  | _ => exact hpairs _ hv he

theorem of_optionalEntries (h : Inherited P) {es : Entries Value} (hv : P v)
    (he : v.optionalEntries = .ok es) : P (.object es) := by
  unfold Value.optionalEntries at he
  split at he
  · cases he
    exact hv
  · split at he
    · cases he
    · cases he
      exact h.emptyObject

theorem of_ifTruthy (hv : P v) (h : v.ifTruthy = some w) : P w ∧ w.truthy = true := by
  unfold Value.ifTruthy at h
  split at h
  · rename_i ht
    cases h
    exact ⟨hv, ht⟩
  · cases h

end Value.Inherited

/-! ### Records that are read -/

/-- A case whose values have a property. A condition that is false or empty is dropped. -/
structure Branch.Drawn (P : Value → Prop) (b : Branch) : Prop where
  value : P b.value
  condition : ∀ c, b.condition = some c → P c ∧ c.truthy = true

/-- A variable whose values have a property. -/
structure Variable.Drawn (P : Value → Prop) (x : Variable) : Prop where
  declared : P x.declared
  value : P x.value
  branches : ∀ bs, x.branches = some bs → ∀ b ∈ bs, b.Drawn P

/-- A column whose values have a property. -/
structure Column.Drawn (P : Value → Prop) (c : Column) : Prop where
  name : P c.name
  declared : P c.declared

/-- A table whose values have a property. A name that is false or empty gives way to the key. -/
structure Table.Drawn (P : Value → Prop) (key : String) (t : Table) : Prop where
  name : P t.name
  named : t.name.truthy = true ∨ t.name = .text key
  columns : ∀ c ∈ t.columns, c.Drawn P
  rows : ∀ row ∈ t.rows, P (.object row)

/-- A hidden variable whose values have a property. -/
structure Hidden.Drawn (P : Value → Prop) (h : Hidden) : Prop where
  condition : P h.condition
  value : P h.value

/-- A state whose values have a property, with the keys of records that have it. -/
structure State.Drawn (P : Value → Prop) (s : State) : Prop where
  vars_keys : ∃ es, P (.object es) ∧ Entries.keys s.vars = Entries.keys es
  tables_keys : ∃ es, P (.object es) ∧ Entries.keys s.tables = Entries.keys es
  hidden_keys : ∃ es, P (.object es) ∧ Entries.keys s.hidden = Entries.keys es
  vars : ∀ name x, (name, x) ∈ s.vars → x.Drawn P
  tables : ∀ name t, (name, t) ∈ s.tables → t.Drawn P name
  hidden : ∀ name h, (name, h) ∈ s.hidden → h.Drawn P

/-- Entries that are read one by one keep their keys. -/
theorem entries_of_mapM_ok {α : Type} {f : String → Value → Except Fault α} {es : Entries Value}
    {r : Entries α} (h : es.mapM (fun (k, v) => do return (k, ← f k v)) = .ok r) :
    Entries.keys r = Entries.keys es ∧ ∀ k a, (k, a) ∈ r → ∃ v, (k, v) ∈ es ∧ f k v = .ok a := by
  induction es generalizing r with
  | nil =>
    cases h
    simp
  | cons e es ih =>
    obtain ⟨k, v⟩ := e
    rw [List.mapM_cons] at h
    obtain ⟨p, hp, h⟩ := exists_of_bind_ok h
    obtain ⟨rs, hrs, h⟩ := exists_of_bind_ok h
    obtain ⟨a, ha, hp⟩ := exists_of_bind_ok hp
    cases hp
    cases h
    obtain ⟨hkeys, hmem⟩ := ih hrs
    refine ⟨by simp [hkeys], fun k' b hb => ?_⟩
    rcases List.mem_cons.1 hb with hb | hb
    · cases hb
      exact ⟨v, by simp, ha⟩
    · obtain ⟨w, hw, hf⟩ := hmem k' b hb
      exact ⟨w, List.mem_cons_of_mem _ hw, hf⟩

namespace Value.Inherited

variable {P : Value → Prop} {v : Value} {key : String}

theorem drawn_branch (hP : Inherited P) {b : Branch} (hv : P v) (h : Branch.ofValue v = .ok b) :
    b.Drawn P := by
  obtain ⟨value, hvalue, h⟩ := exists_of_bind_ok h
  obtain ⟨condition, hcondition, h⟩ := exists_of_bind_ok h
  cases h
  exact ⟨hP.of_fieldOrNull hv hvalue, fun c hc => of_ifTruthy (hP.of_fieldOrNull hv hcondition) hc⟩

theorem drawn_variable (hP : Inherited P) {x : Variable} (hv : P v) (h : Variable.ofValue v = .ok x) :
    x.Drawn P := by
  obtain ⟨branches, hbranches, h⟩ := exists_of_bind_ok h
  obtain ⟨declared, hdeclared, h⟩ := exists_of_bind_ok h
  obtain ⟨value, hvalue, h⟩ := exists_of_bind_ok h
  obtain ⟨isConditional, -, h⟩ := exists_of_bind_ok h
  have hd : P (declared.getD (.text "string")) := of_getD (hP.of_field? hv hdeclared) (hP.text _)
  have hw := hP.of_fieldOrNull hv hvalue
  split at h
  · cases h
    exact ⟨hd, hw, by simp⟩
  · obtain ⟨items, hitems, h⟩ := exists_of_bind_ok h
    obtain ⟨bs, hbs, h⟩ := exists_of_bind_ok h
    cases h
    refine ⟨hd, hw, ?_⟩
    rintro bs' ⟨rfl⟩ b hb
    obtain ⟨item, hmem, hb⟩ := (exists_of_mapM_ok hbs).2 b hb
    exact hP.drawn_branch (hP.of_iterate (hP.of_fieldOrNull hv hbranches) hitems item hmem) hb

theorem drawn_column (hP : Inherited P) {c : Column} (hv : P v) (h : Column.ofValue v = .ok c) :
    c.Drawn P := by
  unfold Column.ofValue at h
  split at h
  · split at h
    · cases h
    · rename_i name hname
      obtain ⟨required, -, h⟩ := exists_of_bind_ok h
      cases h
      exact ⟨hP.of_get? hv hname, of_getD (fun w hw => hP.of_get? hv hw) (hP.text _)⟩
  · cases h
  · cases h
  · cases h

theorem drawn_table (hP : Inherited P) {t : Table} (hv : P v) (h : Table.ofValue key v = .ok t) :
    t.Drawn P key := by
  obtain ⟨name, hname, h⟩ := exists_of_bind_ok h
  obtain ⟨columns, hcolumns, h⟩ := exists_of_bind_ok h
  obtain ⟨columnItems, hcolumnItems, h⟩ := exists_of_bind_ok h
  obtain ⟨cs, hcs, h⟩ := exists_of_bind_ok h
  obtain ⟨rows, hrows, h⟩ := exists_of_bind_ok h
  obtain ⟨rowItems, hrowItems, h⟩ := exists_of_bind_ok h
  obtain ⟨rs, hrs, h⟩ := exists_of_bind_ok h
  cases h
  have hnamed : ∀ w, name.ifTruthy = some w → P w ∧ w.truthy = true := fun w =>
    of_ifTruthy (hP.of_fieldOrNull hv hname)
  have hcolumnList := of_getD (hP.of_field? hv hcolumns) hP.emptyList
  have hrowList := of_getD (hP.of_field? hv hrows) hP.emptyList
  refine ⟨of_getD (fun w hw => (hnamed w hw).1) (hP.text _), ?_, fun c hc => ?_, fun row hrow => ?_⟩
  · cases hn : name.ifTruthy with
    | none => exact .inr rfl
    | some w => exact .inl (hnamed w hn).2
  · obtain ⟨item, hmem, hc⟩ := (exists_of_mapM_ok hcs).2 c hc
    exact hP.drawn_column (hP.of_iterate hcolumnList hcolumnItems item hmem) hc
  · obtain ⟨item, hmem, hrow⟩ := (exists_of_mapM_ok hrs).2 row hrow
    exact hP.of_toEntries (hP.of_iterate hrowList hrowItems item hmem) hrow

theorem drawn_hidden (hP : Inherited P) {hd : Hidden} (hv : P v) (h : Hidden.ofValue v = .ok hd) :
    hd.Drawn P := by
  obtain ⟨condition, hcondition, h⟩ := exists_of_bind_ok h
  obtain ⟨value, hvalue, h⟩ := exists_of_bind_ok h
  obtain ⟨hasExpiration, -, h⟩ := exists_of_bind_ok h
  obtain ⟨isExpired, -, h⟩ := exists_of_bind_ok h
  cases h
  exact ⟨of_getD (hP.of_field? hv hcondition) (hP.text _), hP.of_fieldOrNull hv hvalue⟩

/-- A state that is read from a record has the properties that are inherited from the record. -/
theorem drawn_state (hP : Inherited P) {s : State} (hv : P v) (h : State.ofValue v = .ok s) :
    s.Drawn P := by
  have hrecord : P (v.ifTruthy.getD (.object [])) :=
    of_getD (fun w hw => (of_ifTruthy hv hw).1) hP.emptyObject
  obtain ⟨vars, hvars, h⟩ := exists_of_bind_ok h
  obtain ⟨varEntries, hvarEntries, h⟩ := exists_of_bind_ok h
  obtain ⟨vs, hvs, h⟩ := exists_of_bind_ok h
  obtain ⟨tables, htables, h⟩ := exists_of_bind_ok h
  obtain ⟨tableEntries, htableEntries, h⟩ := exists_of_bind_ok h
  obtain ⟨ts, hts, h⟩ := exists_of_bind_ok h
  obtain ⟨hidden, hhidden, h⟩ := exists_of_bind_ok h
  obtain ⟨hiddenEntries, hhiddenEntries, h⟩ := exists_of_bind_ok h
  obtain ⟨hs, hhs, h⟩ := exists_of_bind_ok h
  cases h
  have hvarRecord := hP.of_optionalEntries (hP.of_fieldOrNull hrecord hvars) hvarEntries
  have htableRecord := hP.of_optionalEntries (hP.of_fieldOrNull hrecord htables) htableEntries
  have hhiddenRecord := hP.of_optionalEntries (hP.of_fieldOrNull hrecord hhidden) hhiddenEntries
  obtain ⟨hvarKeys, hvarMem⟩ := entries_of_mapM_ok (f := fun _ => Variable.ofValue) hvs
  obtain ⟨htableKeys, htableMem⟩ := entries_of_mapM_ok (f := Table.ofValue) hts
  obtain ⟨hhiddenKeys, hhiddenMem⟩ := entries_of_mapM_ok (f := fun _ => Hidden.ofValue) hhs
  refine ⟨⟨_, hvarRecord, hvarKeys⟩, ⟨_, htableRecord, htableKeys⟩, ⟨_, hhiddenRecord, hhiddenKeys⟩,
    fun name x hx => ?_, fun name t ht => ?_, fun name hd hhd => ?_⟩
  · obtain ⟨w, hw, hread⟩ := hvarMem name x hx
    exact hP.drawn_variable (hP.parts hvarRecord name w hw) hread
  · obtain ⟨w, hw, hread⟩ := htableMem name t ht
    exact hP.drawn_table (hP.parts htableRecord name w hw) hread
  · obtain ⟨w, hw, hread⟩ := hhiddenMem name hd hhd
    exact hP.drawn_hidden (hP.parts hhiddenRecord name w hw) hread

end Value.Inherited

section Read

variable {s : State}

theorem Variable.Drawn.storable {x : Variable} (h : x.Drawn Value.Tidy) : x.Storable :=
  ⟨h.declared, h.value, fun bs hbs b hb =>
    ⟨(h.branches bs hbs b hb).value, (h.branches bs hbs b hb).condition⟩⟩

theorem Table.Drawn.storable {key : String} {t : Table} (h : t.Drawn Value.Tidy key) : t.Storable key :=
  ⟨h.name, h.named, fun c hc => ⟨(h.columns c hc).name, (h.columns c hc).declared⟩, h.rows⟩

/-- The keys of a tidy record stand in it once, and so do those of what is read from it. -/
theorem Entries.once_of_tidy {α : Type} {r : Entries α}
    (h : ∃ es, (Value.object es).Tidy ∧ Entries.keys r = Entries.keys es) : Entries.Once r := by
  obtain ⟨es, htidy, hkeys⟩ := h
  rw [Entries.Once, hkeys]
  exact (Value.tidy_object.1 htidy).1

theorem State.Drawn.storable (h : s.Drawn Value.Tidy) : s.Storable where
  vars_once := Entries.once_of_tidy h.vars_keys
  tables_once := Entries.once_of_tidy h.tables_keys
  hidden_once := Entries.once_of_tidy h.hidden_keys
  vars name x hx := (h.vars name x hx).storable
  tables name t ht := (h.tables name t ht).storable
  hidden name hd hhd := ⟨(h.hidden name hd hhd).condition, (h.hidden name hd hhd).value⟩

/-- A state that is read from a record is storable. -/
theorem State.storable_of_ofValue {v : Value} (hv : v.Tidy) (h : State.ofValue v = .ok s) :
    s.Storable := (Value.inherited_tidy.drawn_state hv h).storable

/-- A stored state is storable. -/
theorem State.storable_of_ofPayload {document : String}
    (h : State.ofPayload document = .ok s) : s.Storable := by
  obtain ⟨v, hv, h⟩ := exists_of_bind_ok h
  exact State.storable_of_ofValue (Json.tidy_of_read hv) h

end Read

end StoryState
