import StoryState.Macro.Resolve
import StoryState.Proofs.State.Expiry

/-!
What reading macros does to a state. Only a macro that stands for a hidden variable (`Macro.hiddenOf?`)
changes anything: when the variable is seen (`Macro.Sight`) it may expire, and then its name is
remembered (`Reading.Advance`).
-/

namespace StoryState

open StoryState.Text

namespace Macro

/-- How a step of reading may leave a state. -/
structure Reading.Advance (_ok : Bool) (r r' : Reading) : Prop where
  expiry : Expiry r.state r'.state
  expired : r.expired <+: r'.expired
  /-- If nothing has expired, nothing has happened. -/
  nothing : r'.expired = r.expired → r'.state = r.state
  /-- What is remembered has expired just now. -/
  count : r'.state.freshCount + r'.expired.length = r.state.freshCount + r.expired.length

theorem composes_advance : Composes Reading.Advance where
  refl _ _ := ⟨.refl, List.prefix_refl _, fun _ => rfl, rfl⟩
  trans := by
    rintro ok a b c hab hbc
    refine ⟨hab.expiry.trans hbc.expiry, hab.expired.trans hbc.expired, fun hl => ?_,
      hbc.count.trans hab.count⟩
    have hb : b.expired = a.expired := (hl ▸ hbc.expired).eq_of_length_le hab.expired.length_le
    rw [hbc.nothing (hl.trans hb.symm), hab.nothing hb]

/-- A hidden variable that expires is remembered. -/
theorem moves_expire {r : Reading} {name : String} {h : Hidden}
    (found : Entries.get? name r.state.hidden = some h) (expires : h.hasExpiration = true)
    (fresh : h.isExpired = false) :
    Reading.Advance true r
      { state := { r.state with hidden := r.state.hidden.put name { h with isExpired := true } }
        expired := r.expired ++ [name] } where
  expiry := .single (.flag found expires fresh)
  expired := List.prefix_append _ _
  nothing := fun hl => by simp at hl
  count := by
    rw [← (Expire.flag found expires fresh).freshCount, List.length_append]
    exact (Nat.add_assoc ..).symm.trans (Nat.add_right_comm ..)

/-! ### Hidden variables that are seen -/

/-- How a hidden variable is seen: not at all, without a change, or as it expires. -/
inductive Sight (name : String) (h : Hidden) (r : Reading) : Except Fault Value → Reading → Prop
  | nothing : Sight name h r (.ok (.text "")) r
  | fault (e : Fault) : Sight name h r (.error e) r
  | lasting (lasts : h.hasExpiration = false) : Sight name h r (.ok h.value) r
  | last (expires : h.hasExpiration = true) (fresh : h.isSpent = false) :
    Sight name h r (.ok h.value)
      { state := { r.state with hidden := r.state.hidden.put name { h with isExpired := true } }
        expired := r.expired ++ [name] }

theorem sight_seeHidden (name : String) (h : Hidden) (r : Reading) :
    Gives (seeHidden name h) r (Sight name h r) := by
  unfold seeHidden
  split
  · exact .nothing
  · rename_i unspent
    rw [gives_bind, gives_get]
    dsimp only
    rw [gives_lift_bind]
    cases r.state.meets h.condition with
    | error e => exact .fault e
    | ok met =>
      dsimp only
      split
      · split
        · rename_i expires
          rw [gives_bind, gives_modify]
          exact .last expires (by simpa using unspent)
        · rename_i lasts
          exact .lasting (by simpa using lasts)
      · exact .nothing

theorem gives_seeHidden {r : Reading} {name : String} {h : Hidden}
    (found : Entries.get? name r.state.hidden = some h) :
    Gives (seeHidden name h) r fun o r' => Reading.Advance o.isOk r r' := by
  refine gives_mono (sight_seeHidden name h r) fun o r' hsight => ?_
  cases hsight with
  | last expires fresh => exact moves_expire found expires (by simpa [Hidden.isSpent, expires] using fresh)
  | _ => exact composes_advance.refl _ r

/-! ### What a macro stands for -/

/-- Whether segments name a cell of a table. -/
def isCell (s : State) (parts : List (List Char)) : Bool :=
  (tableOf? s parts).isSome && (parts.length = 2 || parts.length = 3)

/-- The hidden variable that a body stands for, if it stands for one. -/
def hiddenOf? (s : State) (body : List Char) : Option Hidden :=
  let parts := splitOn '.' body
  if isCell s parts || (rootOf? s parts).isSome then none
  else Entries.get? (String.ofList body) s.hidden

theorem get?_of_hiddenOf? {s : State} {body : List Char} {x : Hidden}
    (found : hiddenOf? s body = some x) : Entries.get? (String.ofList body) s.hidden = some x := by
  unfold hiddenOf? at found
  dsimp only at found
  split at found
  · cases found
  · exact found

section Resolve

variable {defaultId : Option String} {body : List Char} {r : Reading}

/-- A step that changes nothing. -/
theorem composes_idle : Composes fun (_ : Bool) (r r' : Reading) => r' = r :=
  ⟨fun _ _ => rfl, fun h h' => h'.trans h⟩

/-- Reading a cell of a table changes nothing. -/
theorem gives_resolve_cell (hcell : isCell r.state (splitOn '.' body) = true) :
    Gives (resolve defaultId body) r fun _ r' => r' = r := by
  unfold isCell at hcell
  unfold resolve
  rw [gives_bind, gives_get]
  dsimp only
  generalize splitOn '.' body = parts at hcell
  cases htable : tableOf? r.state parts with
  | none => simp [htable] at hcell
  | some t =>
    match parts, hcell with
    | [_, _], _ => exact composes_idle.refl true r
    | [_, _, _], _ => exact composes_idle.map (composes_idle.lift _) r
    | [], h | [_], h | _ :: _ :: _ :: _ :: _, h => simp at h

/-- A body that does not name a cell stands for a place below a variable, or for a name. -/
theorem gives_resolve {Q : Except Fault Value → Reading → Prop}
    (hcell : isCell r.state (splitOn '.' body) = false)
    (hQ : Gives (match rootOf? r.state (splitOn '.' body) with
      | some x => liftM (x.value.follow ((splitOn '.' body).drop 1))
      | none => resolveName defaultId body) r Q) : Gives (resolve defaultId body) r Q := by
  unfold isCell at hcell
  unfold resolve
  rw [gives_bind, gives_get]
  dsimp only
  generalize splitOn '.' body = parts at hcell hQ
  cases htable : tableOf? r.state parts with
  | none => exact hQ
  | some t =>
    match parts, hcell, hQ with
    | [_, _], h, _ | [_, _, _], h, _ => simp [htable] at h
    | [], _, hQ | [_], _, hQ | _ :: _ :: _ :: _ :: _, _, hQ => exact hQ

/-- A body that stands for a hidden variable is evaluated by seeing it. -/
theorem gives_resolve_hidden {h : Hidden} {Q : Except Fault Value → Reading → Prop}
    (found : hiddenOf? r.state body = some h) (hQ : Gives (seeHidden (String.ofList body) h) r Q) :
    Gives (resolve defaultId body) r Q := by
  have hname := get?_of_hiddenOf? found
  unfold hiddenOf? at found
  obtain ⟨hcell, hroot⟩ : isCell r.state (splitOn '.' body) = false ∧
      rootOf? r.state (splitOn '.' body) = none := by
    simpa using (Option.ite_none_left_eq_some.1 found).1
  refine gives_resolve hcell ?_
  rw [hroot]
  unfold resolveName
  dsimp only
  rw [gives_bind, gives_get]
  dsimp only
  rw [hname]
  exact hQ

/-- A body that stands for anything else changes nothing. -/
theorem gives_resolve_other (found : hiddenOf? r.state body = none) :
    Gives (resolve defaultId body) r fun _ r' => r' = r := by
  cases hcell : isCell r.state (splitOn '.' body) with
  | true => exact gives_resolve_cell hcell
  | false =>
    refine gives_resolve hcell ?_
    cases hroot : rootOf? r.state (splitOn '.' body) with
    | some x => exact composes_idle.lift _ r
    | none =>
      have hname : Entries.get? (String.ofList body) r.state.hidden = none := by
        simpa [hiddenOf?, hcell, hroot] using found
      unfold resolveName
      dsimp only
      rw [gives_bind, gives_get]
      dsimp only
      rw [hname]
      dsimp only
      split
      · exact composes_idle.map (composes_idle.lift _) r
      · split
        · exact composes_idle.lift _ r
        · exact composes_idle.refl true r

end Resolve

theorem moves_resolve (defaultId : Option String) (body : List Char) :
    Moves Reading.Advance (resolve defaultId body) := by
  intro r
  cases found : hiddenOf? r.state body with
  | some h => exact gives_resolve_hidden found (gives_seeHidden (get?_of_hiddenOf? found))
  | none =>
    refine gives_mono (gives_resolve_other found) fun o r' hr => ?_
    rw [hr]
    exact composes_advance.refl _ r

theorem moves_replacement (defaultId : Option String) (body : List Char) :
    Moves Reading.Advance (replacement defaultId body) :=
  composes_advance.bind (moves_resolve defaultId body) fun _ =>
    composes_advance.map (composes_advance.lift _)

theorem moves_rounds (defaultId : Option String) (depth : Nat) (s : List Char) :
    Moves Reading.Advance (rounds defaultId depth s) := by
  induction depth generalizing s with
  | zero => exact composes_advance.pure _
  | succ depth ih =>
    unfold rounds
    split
    · exact composes_advance.pure _
    · refine composes_advance.bind ?_ fun s => ih s
      refine composes_advance.map (composes_advance.mapM _ fun segment _ => ?_)
      cases segment with
      | plain c => exact composes_advance.pure _
      | hit raw body => exact moves_replacement defaultId body

end Macro

/-- What reading a text does to a state. -/
structure Seen.Of {α : Type} (s : State) (seen : Seen α) : Prop where
  expiry : Expiry s seen.state
  nothing : seen.expired = [] → seen.state = s
  count : seen.state.freshCount + seen.expired.length = s.freshCount

/-- Reading leaves a state as it is just if nothing expires. -/
theorem Seen.Of.state_eq_iff {α : Type} {s : State} {seen : Seen α} (h : Seen.Of s seen) :
    seen.state = s ↔ seen.expired = [] := by
  refine ⟨fun heq => ?_, h.nothing⟩
  have hcount := h.count
  rw [heq] at hcount
  exact List.eq_nil_of_length_eq_zero (by omega)

/-- Replacing the macros of a text changes nothing but that hidden variables expire. -/
theorem State.replaceMacros_spec (s : State) (defaultId : Option String) (text : String)
    (depth : Nat) : Seen.Of s (s.replaceMacros defaultId text depth) := by
  have h := Macro.composes_advance.map (f := String.ofList)
    (Macro.moves_rounds defaultId depth text.toList) { state := s }
  exact ⟨h.expiry, h.nothing, h.count⟩

end StoryState
