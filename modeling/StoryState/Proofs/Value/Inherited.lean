import StoryState.Proofs.Entries
import StoryState.Proofs.Text.Digit
import StoryState.Value.Kind
import StoryState.Value.Path
import Mathlib.Data.Nat.Digits.Defs

/-!
Properties that a value has if its parts have them (`Value.Inherited`). What is read from a document
or a literal has every such property, and so has a container below which such a value is written.
-/

namespace StoryState

open StoryState.Text

/-! ### Numbers that are read -/

/-- A whole number that few enough digits denote is short enough to be written. -/
theorem Number.isWritable_signed {negative : Bool} {digits : List Char} (hne : digits ≠ [])
    (h : ¬digitLimit < digits.length) : isWritable (signed negative digits) = true := by
  have hpos : 0 < digits.length := List.length_pos_iff.2 hne
  have hlt : (signed negative digits).natAbs < 10 ^ digits.length := by
    have hread : readDigits 0 digits < (0 + 1) * 10 ^ digits.length := readDigits_lt
    cases negative <;> simpa [signed] using hread
  have hlen : (Nat.toDigits 10 (signed negative digits).natAbs).length ≤ digits.length :=
    Nat.toDigits_length 10 _ _ hpos hlt
  unfold isWritable
  exact decide_eq_true (by omega)

namespace Value

/-! ### Keys of items -/

theorem toString_inj {i j : Nat} (h : toString i = toString j) : i = j := by
  have hd : ∀ n : Nat, (toString n).toList = Nat.toDigits 10 n := fun n => by
    rw [Nat.toString_eq_ofList_toDigits, String.toList_ofList]
  have he : Nat.toDigits 10 i = Nat.toDigits 10 j := by rw [← hd, h, hd]
  rw [← Nat.ofDigitChars_ten_toDigits (n := i), he, Nat.ofDigitChars_ten_toDigits]

theorem once_fieldsOfItems (items : List Value) : Entries.Once (fieldsOfItems items) := by
  have hk : Entries.keys (fieldsOfItems items) = (List.range items.length).map toString := by
    unfold Entries.keys fieldsOfItems
    rw [List.map_map, List.range_eq_range', ← List.zipIdx_map_snd 0 items, List.map_map]
    rfl
  unfold Entries.Once
  rw [hk]
  exact List.nodup_range.map fun i j h => toString_inj h

/-! ### Literals that suggest their kind -/

/-- A literal that suggests its kind is a truth value, else a number, else a text. -/
theorem ofSuggested_cases {s : String} {k : Kind} {v : Value}
    (h : ofSuggested (.text s) = .ok (k, v)) :
    (∃ b, truthWord? s.toList = some b ∧ k = .boolean ∧ v = .bool b) ∨
      (truthWord? s.toList = none ∧ ∃ n, Number.ofText s.toList = .ok n ∧ k = .number ∧
        v = ofNumber n) ∨
      (truthWord? s.toList = none ∧ k = .string ∧ v = .text s) := by
  have hdisplay : (Value.text s).display = .ok s := rfl
  rw [ofSuggested, hdisplay] at h
  simp only [bind, Except.bind, suggestedKind] at h
  cases ht : truthWord? s.toList with
  | some b =>
    rw [ht] at h
    cases h
    cases b <;> exact .inl ⟨_, rfl, rfl, rfl⟩
  | none =>
    rw [ht] at h
    cases hlooks : looksNumeric (strip s.toList) with
    | true =>
      rw [hlooks] at h
      cases hn : Number.ofText s.toList with
      | error e => rw [hn] at h; cases h
      | ok n =>
        rw [hn] at h
        cases h
        exact .inr (.inl ⟨rfl, n, rfl, rfl, rfl⟩)
    | false =>
      rw [hlooks] at h
      cases h
      exact .inr (.inr ⟨rfl, rfl, rfl⟩)

/-! ### Inheriting -/

/-- A property that a value has if its parts have it: texts, truth values and short numbers have it,
lists and objects have it from what they hold. -/
structure Inherited (P : Value → Prop) : Prop where
  scalar : ∀ {v}, v.isContainer = false → v.isWritable = true → P v
  list : ∀ {items}, P (.list items) ↔ ∀ v ∈ items, P v
  parts : ∀ {fields : Entries Value}, P (.object fields) → ∀ k v, (k, v) ∈ fields → P v
  object : ∀ {fields : Entries Value}, Entries.Once fields → (∀ k v, (k, v) ∈ fields → P v) →
    P (.object fields)
  put : ∀ {fields : Entries Value} {v}, P v → P (.object fields) → ∀ key,
    P (.object (fields.put key v))

/-- Every value has the property that asks for nothing. -/
theorem inherited_true : Inherited fun _ => True where
  scalar _ _ := trivial
  list := by simp
  parts _ _ _ _ := trivial
  object _ _ := trivial
  put _ _ _ := trivial

namespace Inherited

variable {P : Value → Prop}

theorem null (h : Inherited P) : P .null := h.scalar rfl rfl

theorem text (h : Inherited P) (s : String) : P (.text s) := h.scalar rfl rfl

theorem emptyObject (h : Inherited P) : P (.object []) := h.object Entries.once_nil (by simp)

theorem emptyList (h : Inherited P) : P (.list []) := h.list.2 (by simp)

theorem putAll (h : Inherited P) {es news : Entries Value} (hes : P (.object es))
    (hnews : ∀ k v, (k, v) ∈ news → P v) : P (.object (Entries.putAll es news)) := by
  induction news generalizing es with
  | nil => exact hes
  | cons n news ih =>
    exact ih (h.put (hnews n.1 n.2 (by simp)) hes n.1) fun k v hv => hnews k v (by simp [hv])

theorem ofList (h : Inherited P) {pairs : List (String × Value)}
    (hpairs : ∀ k v, (k, v) ∈ pairs → P v) : P (.object (Entries.ofList pairs)) :=
  h.putAll h.emptyObject hpairs

/-! ### Documents -/

theorem of_number (h : Inherited P) {s rest : List Char} {v : Value}
    (hr : Json.number s = .ok (v, rest)) : P v := by
  have hwhole : ∀ {t whole r : List Char}, Json.wholeDigits? t = some (whole, r) → whole ≠ [] := by
    intro t whole r ht
    unfold Json.wholeDigits? at ht
    split at ht
    · cases ht
      exact List.cons_ne_nil _ _
    · split at ht
      · rename_i hc
        cases ht
        rw [List.takeWhile_cons_of_pos hc]
        exact List.cons_ne_nil _ _
      · cases ht
    · cases ht
  unfold Json.number at hr
  dsimp only at hr
  split at hr
  · cases hr
  · rename_i whole rest' hw
    split at hr
    · cases hr
      exact h.scalar rfl rfl
    · split at hr
      · cases hr
        exact h.scalar rfl rfl
      · split at hr
        · cases hr
        · rename_i hshort
          cases hr
          exact h.scalar rfl (Number.isWritable_signed (hwhole hw) hshort)

theorem of_scalar (h : Inherited P) {s rest : List Char} {v : Value}
    (hr : Json.scalar s = .ok (v, rest)) : P v := by
  unfold Json.scalar at hr
  split at hr
  · rename_i found hf
    obtain ⟨⟨word, w⟩, hw, hd⟩ := List.exists_of_findSome?_eq_some hf
    obtain ⟨r, -, hword⟩ := Option.map_eq_some_iff.1 hd
    simp only [Except.ok.injEq] at hr
    obtain ⟨rfl, -⟩ : w = v ∧ r = rest := by simpa using hword.trans hr
    unfold Json.words at hw
    simp only [List.mem_cons, Prod.mk.injEq, List.not_mem_nil, or_false] at hw
    rcases hw with ⟨-, rfl⟩ | ⟨-, rfl⟩ | ⟨-, rfl⟩ | ⟨-, rfl⟩ | ⟨-, rfl⟩ | ⟨-, rfl⟩ <;>
      exact h.scalar rfl rfl
  · exact h.of_number hr

mutual

theorem of_value (h : Inherited P) : ∀ {fuel : Nat} {s rest : List Char} {v : Value},
    Json.value fuel s = .ok (v, rest) → P v
  | 0, _, _, _, hr => nomatch hr
  | fuel + 1, s, rest, v, hr => by
    unfold Json.value at hr
    split at hr
    · cases hq : Json.quoted _ with
      | error e => rw [hq] at hr; cases hr
      | ok r =>
        rw [hq] at hr
        cases hr
        exact h.text _
    · split at hr
      · cases hr
        exact h.emptyList
      · cases hi : Json.items fuel (Json.skipSpace _) with
        | error e => rw [hi] at hr; cases hr
        | ok r =>
          rw [hi] at hr
          cases hr
          exact h.list.2 (h.of_items hi)
    · split at hr
      · cases hr
        exact h.emptyObject
      · cases hf : Json.fields fuel (Json.skipSpace _) with
        | error e => rw [hf] at hr; cases hr
        | ok r =>
          rw [hf] at hr
          cases hr
          exact h.ofList (h.of_fields hf)
    · exact h.of_scalar hr

theorem of_items (h : Inherited P) : ∀ {fuel : Nat} {s rest : List Char} {vs : List Value},
    Json.items fuel s = .ok (vs, rest) → ∀ v ∈ vs, P v
  | 0, _, _, _, hr => nomatch hr
  | fuel + 1, s, rest, vs, hr => by
    unfold Json.items at hr
    cases hv : Json.value fuel s with
    | error e => rw [hv] at hr; cases hr
    | ok r =>
      rw [hv] at hr
      simp only [bind, Except.bind] at hr
      split at hr
      · cases hr
        simpa using h.of_value hv
      · cases hi : Json.items fuel (Json.skipSpace _) with
        | error e => rw [hi] at hr; cases hr
        | ok r' =>
          rw [hi] at hr
          cases hr
          exact List.forall_mem_cons.2 ⟨h.of_value hv, h.of_items hi⟩
      · cases hr

theorem of_fields (h : Inherited P) : ∀ {fuel : Nat} {s rest : List Char}
    {fs : List (String × Value)}, Json.fields fuel s = .ok (fs, rest) → ∀ k v, (k, v) ∈ fs → P v
  | 0, _, _, _, hr => nomatch hr
  | fuel + 1, s, rest, fs, hr => by
    unfold Json.fields at hr
    split at hr
    · cases hq : Json.quoted _ with
      | error e => rw [hq] at hr; cases hr
      | ok r =>
        rw [hq] at hr
        simp only [bind, Except.bind] at hr
        split at hr
        · cases hv : Json.value fuel (Json.skipSpace _) with
          | error e => rw [hv] at hr; cases hr
          | ok r' =>
            rw [hv] at hr
            simp only at hr
            split at hr
            · cases hr
              intro k v hkv
              simp only [List.mem_singleton, Prod.mk.injEq] at hkv
              exact hkv.2 ▸ h.of_value hv
            · cases hf : Json.fields fuel (Json.skipSpace _) with
              | error e => rw [hf] at hr; cases hr
              | ok r'' =>
                rw [hf] at hr
                cases hr
                intro k v hkv
                rcases List.mem_cons.1 hkv with hkv | hkv
                · simp only [Prod.mk.injEq] at hkv
                  exact hkv.2 ▸ h.of_value hv
                · exact h.of_fields hf k v hkv
            · cases hr
        · cases hr
    · cases hr

end

/-- What a document is read to. -/
theorem of_read (h : Inherited P) {s : String} {v : Value} (hr : Json.read s = .ok v) : P v := by
  unfold Json.read at hr
  cases hd : Json.document s.toList with
  | error e => rw [hd] at hr; cases hr
  | ok w =>
    rw [hd] at hr
    cases hr
    unfold Json.document at hd
    split at hd
    · cases hd
    · split at hd
      · cases hd
      · rename_i hv
        split at hd
        · cases hd
          exact h.of_value hv
        · cases hd

/-! ### Literals -/

theorem of_ofText (h : Inherited P) {s : List Char} {n : Number} (hn : Number.ofText s = .ok n) :
    P (ofNumber n) := by
  unfold Number.ofText at hn
  dsimp only at hn
  split at hn
  · cases hn
    exact h.scalar rfl (by decide)
  · split at hn
    · rename_i negative digits hw
      have hne : digits ≠ [] := by
        unfold Number.wholeNumber? at hw
        dsimp only at hw
        split at hw
        · rename_i hdigits
          cases hw
          rw [Bool.and_eq_true] at hdigits
          simpa using hdigits.1
        · cases hw
      split at hn
      · cases hn
      · rename_i hshort
        cases hn
        exact h.scalar rfl (Number.isWritable_signed hne hshort)
    · split at hn
      · cases hn
        exact h.scalar rfl rfl
      · cases hn
        exact h.scalar rfl rfl

theorem of_toNumber (h : Inherited P) {literal : Value} (hl : P literal) {n : Number}
    (hn : literal.toNumber = .ok n) : P (ofNumber n) := by
  have hread : ∀ {v : Value}, v.readNumber = .ok n → P (ofNumber n) := by
    intro v hv
    unfold readNumber at hv
    cases hd : v.display with
    | error e => rw [hd] at hv; cases hv
    | ok t =>
      rw [hd] at hv
      exact h.of_ofText hv
  cases literal with
  | bool b =>
    cases hn
    cases b <;> exact h.scalar rfl (by decide)
  | int k =>
    cases hn
    exact hl
  | float x =>
    cases hn
    exact hl
  | null => exact hread hn
  | text s => exact hread hn
  | list items => exact hread hn
  | object fields => exact hread hn

theorem of_readOr (h : Inherited P) {fallback v : Value} (hf : P fallback) (hv : P v) :
    P (readOr fallback v) := by
  cases v with
  | text s =>
    rw [readOr]
    cases hr : Json.read s with
    | error e => exact hf
    | ok w => exact h.of_read hr
  | list items => exact hv
  | object fields => exact hv
  | _ => exact hf

/-- What a literal is read to. -/
theorem of_ofLiteral (h : Inherited P) {kind : Option Kind} {literal v : Value} (hl : P literal)
    (hv : ofLiteral kind literal = .ok v) : P v := by
  rcases kind with _ | k
  · simp only [ofLiteral, Except.ok.injEq] at hv
    exact hv ▸ hl
  · cases k with
    | string =>
      simp only [ofLiteral, Except.ok.injEq] at hv
      exact hv ▸ hl
    | number =>
      rw [ofLiteral] at hv
      cases hn : literal.toNumber with
      | error e => rw [hn] at hv; cases hv
      | ok n =>
        rw [hn] at hv
        cases hv
        exact h.of_toNumber hl hn
    | boolean =>
      have hbool : ∀ b, P (.bool b) := fun b => h.scalar rfl rfl
      cases literal <;> cases hv <;> exact hbool _
    | object =>
      simp only [ofLiteral, Except.ok.injEq] at hv
      exact hv ▸ h.of_readOr h.emptyObject hl
    | array =>
      simp only [ofLiteral, Except.ok.injEq] at hv
      exact hv ▸ h.of_readOr h.emptyList hl

/-- What a literal is read to that suggests its kind. -/
theorem of_ofSuggested (h : Inherited P) {s : String} {k : Kind} {v : Value}
    (hv : ofSuggested (.text s) = .ok (k, v)) : P v := by
  rcases ofSuggested_cases hv with ⟨b, -, -, rfl⟩ | ⟨-, n, hn, -, rfl⟩ | ⟨-, -, rfl⟩
  · exact h.scalar rfl rfl
  · exact h.of_ofText hn
  · exact h.text s

/-! ### Paths -/

theorem setItem (h : Inherited P) {items : List Value} {v : Value} (i : Nat) (hv : P v)
    (hi : ∀ w ∈ items, P w) : ∀ w ∈ setItem items i v, P w := by
  intro w hw
  unfold Value.setItem at hw
  rcases List.mem_or_eq_of_mem_set hw with hw | rfl
  · rcases List.mem_append.1 hw with hw | hw
    · exact hi w hw
    · rw [List.eq_of_mem_replicate hw]
      exact h.null
  · exact hv

/-- The value under a key, or null. -/
theorem under (h : Inherited P) {fields : Entries Value} (hf : P (.object fields)) (key : String) :
    P ((Entries.get? key fields).getD .null) := by
  cases hg : Entries.get? key fields with
  | none => exact h.null
  | some w => exact h.parts hf _ w (Entries.mem_of_get? hg)

theorem child (h : Inherited P) {container v : Value} {segment : List Char} (hc : P container)
    (hv : Value.child container segment = .ok v) : P v := by
  cases container with
  | list items =>
    simp only [Value.child] at hv
    cases hi : index segment with
    | error e => rw [hi] at hv; cases hv
    | ok i =>
      rw [hi] at hv
      cases hv
      exact getD_of_forall (h.list.1 hc) h.null i
  | object fields =>
    simp only [Value.child, Except.ok.injEq] at hv
    exact hv ▸ h.under hc _
  | _ => cases hv

theorem setChild (h : Inherited P) {container v c : Value} {segment : List Char} (hv : P v)
    (hc : P container) (hs : Value.setChild container segment v = .ok c) : P c := by
  cases container with
  | list items =>
    simp only [Value.setChild] at hs
    cases hi : index segment with
    | error e => rw [hi] at hs; cases hs
    | ok i =>
      rw [hi] at hs
      cases hs
      exact h.list.2 (h.setItem i hv (h.list.1 hc))
  | object fields =>
    simp only [Value.setChild, Except.ok.injEq] at hs
    exact hs ▸ h.put hv hc _
  | _ => cases hs

theorem itemsOfFields (h : Inherited P) {fields : Entries Value} {items vs : List Value}
    (hf : ∀ k v, (k, v) ∈ fields → P v) (hi : ∀ v ∈ items, P v)
    (hvs : Value.itemsOfFields items fields = .ok vs) : ∀ v ∈ vs, P v := by
  induction fields generalizing items with
  | nil =>
    simp only [Value.itemsOfFields, Except.ok.injEq] at hvs
    exact hvs ▸ hi
  | cons f fs ih =>
    obtain ⟨k, v⟩ := f
    have hfs : ∀ k v, (k, v) ∈ fs → P v := fun k v hm => hf k v (List.mem_cons_of_mem _ hm)
    rw [Value.itemsOfFields] at hvs
    split at hvs
    · cases hx : index k.toList with
      | error e => rw [hx] at hvs; cases hvs
      | ok i =>
        rw [hx] at hvs
        exact ih hfs (h.setItem i (hf k v (by simp)) hi) hvs
    · exact ih hfs hi hvs

theorem fieldsOfItems (h : Inherited P) {items : List Value} (hi : ∀ v ∈ items, P v) :
    P (.object (Value.fieldsOfItems items)) := by
  refine h.object (once_fieldsOfItems items) fun k v hm => ?_
  obtain ⟨⟨w, i⟩, hw, he⟩ := List.mem_map.1 hm
  simp only [Prod.mk.injEq] at he
  exact he.2 ▸ hi w (List.fst_mem_of_mem_zipIdx hw)

theorem fitting (h : Inherited P) {wantsList : Bool} {v c : Value} (hv : P v)
    (hc : Value.fitting wantsList v = .ok c) : P c := by
  cases v with
  | list items =>
    simp only [Value.fitting, Except.ok.injEq] at hc
    subst hc
    cases wantsList
    · exact h.fieldsOfItems (h.list.1 hv)
    · exact hv
  | object fields =>
    cases wantsList with
    | false =>
      simp only [Value.fitting, Bool.false_eq_true, if_false, Except.ok.injEq] at hc
      exact hc ▸ hv
    | true =>
      simp only [Value.fitting, if_true] at hc
      cases hi : Value.itemsOfFields [] fields with
      | error e => rw [hi] at hc; cases hc
      | ok vs =>
        rw [hi] at hc
        cases hc
        exact h.list.2 (h.itemsOfFields (h.parts hv) (by simp) hi)
  | _ =>
    simp only [Value.fitting, Except.ok.injEq] at hc
    subst hc
    cases wantsList
    · exact h.emptyObject
    · exact h.emptyList

theorem stored (h : Inherited P) {v : Value} (hv : P v) : P (Value.stored v) := by
  cases v with
  | text s =>
    rw [Value.stored]
    split
    · cases hr : Json.read s with
      | error e => exact hv
      | ok w => exact h.of_read hr
    · exact hv
  | _ => exact hv

/-- Writing below a container, also if it stops on the way. -/
theorem write (h : Inherited P) {v : Value} (hv : P v) :
    ∀ {path : List (List Char)} {container : Value}, P container →
      P (Value.write container v path).1
  | [], _, hc => hc
  | [last], container, hc => by
    rw [Value.write]
    split
    · exact hc
    · cases hs : Value.setChild container last (Value.stored v) with
      | error e => exact hc
      | ok c => exact h.setChild (h.stored hv) hc hs
  | segment :: next :: rest, container, hc => by
    rw [Value.write]
    cases hold : Value.child container segment with
    | error e => exact hc
    | ok old =>
      cases hf : Value.fitting (isIndex next) old with
      | error e => simpa [hold, hf, bind, Except.bind] using hc
      | ok c =>
        have hfit : P c := h.fitting (h.child hc hold) hf
        cases hs : Value.setChild container segment c with
        | error e => simpa [hold, hf, hs, bind, Except.bind] using hc
        | ok fitted =>
          have hfitted : P fitted := h.setChild hfit hc hs
          simp only [hf, hs, bind, Except.bind, pure, Except.pure]
          have hwritten : P (Value.write c v (next :: rest)).1 := h.write hv hfit
          cases hs' : Value.setChild fitted segment (Value.write c v (next :: rest)).1 with
          | error e => exact hfitted
          | ok c' => exact h.setChild hwritten hfitted hs'

theorem writePath (h : Inherited P) {container v : Value} (path : String) (hv : P v)
    (hc : P container) : P (Value.writePath container path v).1 := h.write hv hc

end Inherited

end Value

end StoryState
