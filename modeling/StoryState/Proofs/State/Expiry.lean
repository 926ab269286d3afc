import StoryState.Proofs.State.Edit
import StoryState.Proofs.State.Storable

/-!
Expiry of hidden variables: the one thing that reading does to a state. What expires stays what it
was but for its flag, so states that differ by expiry are equal as soon as their flags are
(`Expiry.eq_iff`).
-/

namespace StoryState

/-- A hidden variable with an expiry that has not expired yet expires. -/
inductive Expire (s : State) : State → Prop
  | flag {name : String} {h : Hidden} (found : Entries.get? name s.hidden = some h)
    (expires : h.hasExpiration = true) (fresh : h.isExpired = false) :
    Expire s { s with hidden := s.hidden.put name { h with isExpired := true } }

/-- Some hidden variables expire. -/
abbrev Expiry : State → State → Prop := Relation.ReflTransGen Expire

/-- Which hidden variables have expired, in order. -/
def State.expiryFlags (s : State) : Entries Bool := s.hidden.mapValues (·.isExpired)

/-- How many hidden variables have not expired. -/
def State.freshCount (s : State) : Nat := s.hidden.countP fun e => !e.2.isExpired

/-- A hidden variable as it was, or expired. -/
def Hidden.Older (a b : String × Hidden) : Prop :=
  b.1 = a.1 ∧ b.2 = { a.2 with isExpired := b.2.isExpired }

section Expiry

variable {s s' s'' : State}

theorem Expire.edit (h : Expire s s') : Edit s s' := by
  cases h with
  | flag found expires _ => exact .expire found expires

theorem Expiry.edits (h : Expiry s s') : Edits s s' :=
  Relation.ReflTransGen.mono (fun _ _ => Expire.edit) s s' h

theorem Expiry.storable (h : Expiry s s') (hs : s.Storable) : s'.Storable := h.edits.storable hs

theorem older_put {name : String} {h : Hidden} {es : Entries Hidden}
    (found : Entries.get? name es = some h) :
    List.Forall₂ Hidden.Older es (es.put name { h with isExpired := true }) := by
  induction es with
  | nil => cases found
  | cons e es ih =>
    obtain ⟨k, v⟩ := e
    by_cases hk : k = name
    · obtain rfl : v = h := by simpa [Entries.get?, hk] using found
      rw [Entries.put, if_pos hk]
      exact .cons ⟨rfl, rfl⟩ (List.forall₂_same.2 fun e _ => ⟨rfl, rfl⟩)
    · rw [Entries.put, if_neg hk]
      exact .cons ⟨rfl, rfl⟩ (ih (by simpa [Entries.get?, hk] using found))

theorem older_trans {es es' es'' : Entries Hidden} (h : List.Forall₂ Hidden.Older es es')
    (h' : List.Forall₂ Hidden.Older es' es'') : List.Forall₂ Hidden.Older es es'' := by
  induction h generalizing es'' with
  | nil =>
    cases h'
    exact .nil
  | cons hab _ ih =>
    cases h' with
    | cons hbc htail =>
      refine .cons ⟨hbc.1.trans hab.1, ?_⟩ (ih htail)
      rw [hbc.2, hab.2]

/-- Expiry changes nothing but flags. -/
theorem Expiry.older (h : Expiry s s') :
    s'.vars = s.vars ∧ s'.tables = s.tables ∧ List.Forall₂ Hidden.Older s.hidden s'.hidden := by
  induction h with
  | refl => exact ⟨rfl, rfl, List.forall₂_same.2 fun e _ => ⟨rfl, rfl⟩⟩
  | tail _ he ih =>
    obtain ⟨hvars, htables, hhidden⟩ := ih
    cases he with
    | flag found _ _ => exact ⟨hvars, htables, older_trans hhidden (older_put found)⟩

/-- States that differ by expiry are equal as soon as their flags are. -/
theorem Expiry.eq_iff (h : Expiry s s') : s = s' ↔ s.expiryFlags = s'.expiryFlags := by
  refine ⟨fun heq => heq ▸ rfl, fun hflags => ?_⟩
  obtain ⟨hvars, htables, hhidden⟩ := h.older
  have heq : s.hidden = s'.hidden := by
    unfold State.expiryFlags Entries.mapValues at hflags
    generalize s.hidden = es at hhidden hflags
    generalize s'.hidden = es' at hhidden hflags
    induction hhidden with
    | nil => rfl
    | @cons a b as bs hab _ ih =>
      obtain ⟨k, x⟩ := a
      obtain ⟨k', x'⟩ := b
      obtain ⟨hkey, hvalue⟩ := hab
      rw [List.map_cons, List.map_cons, List.cons.injEq, Prod.mk.injEq] at hflags
      obtain ⟨⟨-, hflag⟩, htail⟩ := hflags
      dsimp only at hkey hvalue hflag
      rw [ih htail, hkey, hvalue, ← hflag]
  obtain ⟨vars, tables, hidden⟩ := s
  obtain ⟨vars', tables', hidden'⟩ := s'
  dsimp only at hvars htables heq
  rw [hvars, htables, heq]

theorem countP_put_expired {name : String} {h : Hidden} {es : Entries Hidden}
    (found : Entries.get? name es = some h) (fresh : h.isExpired = false) :
    (es.put name { h with isExpired := true }).countP (fun e => !e.2.isExpired) + 1 =
      es.countP fun e => !e.2.isExpired := by
  induction es with
  | nil => cases found
  | cons e es ih =>
    obtain ⟨k, v⟩ := e
    by_cases hk : k = name
    · obtain rfl : v = h := by simpa [Entries.get?, hk] using found
      simp [Entries.put, hk, fresh]
    · have hrest := ih (by simpa [Entries.get?, hk] using found)
      rw [Entries.put, if_neg hk, List.countP_cons, List.countP_cons, ← hrest]
      omega

/-- One fewer is left with each that expires. -/
theorem Expire.freshCount (h : Expire s s') : s'.freshCount + 1 = s.freshCount := by
  cases h with
  | flag found _ fresh => exact countP_put_expired found fresh

end Expiry

end StoryState
