import StoryState.Proofs.Story.Payload

/-!
Where states with short numbers come from: what is read from a document can be written again
(`State.short_of_ofPayload`), so every stored state is one (`Script.short_of_storedState`), and expiry
keeps it one.
-/

namespace StoryState

/-! ### Changes -/

section Change

variable {s s' : State} {name : String}

theorem State.Short.putVariable (hs : s.Short) {x : Variable} (hx : x.Short) :
    { s with vars := s.vars.put name x }.Short where
  vars := Entries.forall_put hs.vars hx
  tables := hs.tables
  hidden := hs.hidden

theorem State.Short.putTable (hs : s.Short) {t : Table} (ht : t.Short) :
    { s with tables := s.tables.put name t }.Short where
  vars := hs.vars
  tables := Entries.forall_put hs.tables ht
  hidden := hs.hidden

theorem State.Short.putHidden (hs : s.Short) {h : Hidden} (hh : h.Short) :
    { s with hidden := s.hidden.put name h }.Short where
  vars := hs.vars
  tables := hs.tables
  hidden := Entries.forall_put hs.hidden hh

theorem State.short_empty : State.Short {} := ⟨by simp, by simp, by simp⟩

theorem Expiry.short (h : Expiry s s') (hs : s.Short) : s'.Short := by
  induction h with
  | refl => exact hs
  | tail _ he ih =>
    cases he with
    | flag found _ _ =>
      have hold := ih.hidden _ _ (Entries.mem_of_get? found)
      exact ih.putHidden ⟨hold.condition, hold.value⟩

end Change

/-! ### Records that are read -/

section Read

open Value Inherited

variable {v : Value} {key : String}

theorem Variable.Drawn.short {x : Variable} (h : x.Drawn fun v => v.isWritable = true) : x.Short :=
  ⟨h.declared, h.value, fun bs hbs b hb => ⟨(h.branches bs hbs b hb).value,
    fun c hc => ((h.branches bs hbs b hb).condition c hc).1⟩⟩

theorem Table.Drawn.short {t : Table} (h : t.Drawn (fun v => v.isWritable = true) key) : t.Short :=
  ⟨h.name, fun c hc => ⟨(h.columns c hc).name, (h.columns c hc).declared⟩,
    fun row hrow => isWritable_object.1 (h.rows row hrow)⟩

/-- A state that is read from a value that can be written has short numbers. -/
theorem State.short_of_ofValue {s : State} (hv : v.isWritable = true) (h : State.ofValue v = .ok s) :
    s.Short := by
  have hdrawn := inherited_isWritable.drawn_state hv h
  exact ⟨fun name x hx => (hdrawn.vars name x hx).short,
    fun name t ht => (hdrawn.tables name t ht).short,
    fun name hd hhd => ⟨(hdrawn.hidden name hd hhd).condition, (hdrawn.hidden name hd hhd).value⟩⟩

theorem Json.isWritable_of_read {document : String} (h : Json.read document = .ok v) :
    v.isWritable = true := inherited_isWritable.of_read h

theorem State.short_of_ofPayload {document : String} {s : State} (h : State.ofPayload document = .ok s) :
    s.Short := by
  obtain ⟨v, hv, h⟩ := exists_of_bind_ok h
  exact State.short_of_ofValue (Json.isWritable_of_read hv) h

end Read

/-- A stored state has short numbers. -/
theorem Script.short_of_storedState {c : Scope} {s : Script} {m : State}
    (h : s.storedState c = some m) : m.Short := by
  obtain ⟨payload, -, h⟩ := Option.bind_eq_some_iff.1 h
  obtain ⟨document, -, hread⟩ := readPayload_eq_some_iff.1 h
  exact State.short_of_ofPayload hread

end StoryState
