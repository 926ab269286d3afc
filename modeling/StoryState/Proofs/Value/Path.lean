import StoryState.Proofs.Entries
import StoryState.Proofs.Step
import StoryState.Proofs.Text.Digit
import StoryState.Proofs.Text.Pieces
import StoryState.Value.Path

/-!
Writing at a dotted path, and following such a path. What is written is found again at its path
(`follow_write`). Off the path nothing changes (`writePath_frame`): a writing that stops leaves the
container as it was, and one that goes through, without converting a container on its way, is not
seen by a path that leaves the written one.
-/

namespace StoryState

open Text

namespace Json

/-- What begins like an object or a list is read to one. -/
theorem isContainer_of_value {fuel : Nat} {s rest : List Char} {v : Value}
    (h : value (fuel + 1) s = .ok (v, rest)) (hs : s.head? = some '\x7b' ∨ s.head? = some '[') :
    v.isContainer = true := by
  obtain ⟨r, rfl | rfl⟩ : ∃ r, s = '\x7b' :: r ∨ s = '[' :: r := by
    cases s with
    | nil => simp at hs
    | cons c r => exact ⟨r, by simpa using hs⟩
  · rw [value] at h
    split at h
    · cases h
      rfl
    · obtain ⟨_, -, hv⟩ := exists_of_bind_ok h
      cases hv
      rfl
  · rw [value] at h
    split at h
    · cases h
      rfl
    · obtain ⟨_, -, hv⟩ := exists_of_bind_ok h
      cases hv
      rfl

theorem isContainer_of_read {s : String} {v : Value} (h : read s = .ok v)
    (hs : s.toList.head? = some '\x7b' ∨ s.toList.head? = some '[') : v.isContainer = true := by
  have hdocument : document s.toList = .ok v := by
    unfold read at h
    cases hd : document s.toList with
    | error e =>
      rw [hd] at h
      cases h
    | ok w =>
      rw [hd] at h
      exact congrArg Except.ok (Except.ok.inj h)
  generalize s.toList = cs at hdocument hs
  have hskip : skipSpace cs = cs := by
    rcases cs with _ | ⟨c, cs⟩
    · rfl
    · rcases hs with hs | hs <;> (cases hs; rfl)
  unfold document at hdocument
  split at hdocument
  · cases hdocument
  · rw [hskip] at hdocument
    cases hv : value (cs.length + 1) cs with
    | error e =>
      rw [hv] at hdocument
      cases hdocument
    | ok found =>
      obtain ⟨w, rest⟩ := found
      rw [hv] at hdocument
      dsimp only at hdocument
      split at hdocument
      · cases hdocument
        exact isContainer_of_value hv hs
      · cases hdocument

end Json

namespace Value

variable {container c written v w : Value} {segment other : List Char} {path : List (List Char)}

/-! ### Indices -/

theorem indexDigits?_eq_some {digits : List Char} (h : indexDigits? segment = some digits) :
    digits ≠ [] ∧ (∀ d ∈ digits, isDigit d = true) ∧ (segment = digits ∨ segment = digits ++ ['\n']) := by
  obtain ⟨ds, hds⟩ : ∃ ds, ds = if segment.getLast? = some '\n' then segment.dropLast else segment :=
    ⟨_, rfl⟩
  have hif : (if ds ≠ [] && ds.all isDigit then some ds else none) = some digits := by
    rw [hds]
    exact h
  split at hif
  · rename_i hdigits
    obtain rfl := Option.some.inj hif
    simp only [Bool.and_eq_true, decide_eq_true_eq, List.all_eq_true] at hdigits
    refine ⟨hdigits.1, hdigits.2, ?_⟩
    rw [hds]
    split
    · rename_i hlast
      exact .inr (List.dropLast_append_getLast? '\n' hlast).symm
    · exact .inl rfl
  · cases hif

/-- An index is read as the number at which it was written. -/
theorem leadingInt?_of_index {i : Nat} (h : index segment = .ok i) :
    leadingInt? segment = .ok (some i) := by
  unfold index at h
  cases hdigits : indexDigits? segment with
  | none =>
    rw [hdigits] at h
    cases h
  | some digits =>
    rw [hdigits] at h
    obtain ⟨hne, hall, hsegment⟩ := indexDigits?_eq_some hdigits
    have htake : segment.takeWhile isDigit = digits := by
      have hbreak : isDigit '\n' = false := by decide
      rcases hsegment with rfl | rfl
      · rw [← List.append_nil segment, List.takeWhile_append_of_pos hall, List.takeWhile_nil,
          List.append_nil]
      · rw [List.takeWhile_append_of_pos hall, List.takeWhile_cons_of_neg (by simp [hbreak]),
          List.append_nil]
    obtain ⟨d, rest, rfl⟩ : ∃ d rest, segment = d :: rest := by
      refine List.exists_cons_of_ne_nil fun hnil => hne ?_
      rw [← htake, hnil]
      rfl
    have hd : isDigit d = true := by
      cases hdigit : isDigit d with
      | true => rfl
      | false =>
        rw [List.takeWhile_cons_of_neg (by simp [hdigit])] at htake
        exact absurd htake.symm hne
    have hsign : Number.takeSign (d :: rest) = (false, d :: rest) := by
      have hminus : d ≠ '-' := by
        rintro rfl
        exact absurd hd (by decide)
      have hplus : d ≠ '+' := by
        rintro rfl
        exact absurd hd (by decide)
      unfold Number.takeSign
      split <;> simp_all
    unfold leadingInt?
    rw [skipBlanks_of_isDigit hd, hsign]
    dsimp only at h ⊢
    rw [htake, if_neg hne]
    split at h
    · cases h
    · rename_i hshort
      cases h
      rw [if_neg hshort]
      rfl

/-- A segment that, if it is an index, has no more digits than are read. -/
def ShortIndex (segment : List Char) : Prop :=
  ∀ digits, indexDigits? segment = some digits → digits.length ≤ Number.digitLimit

theorem ShortIndex.exists_index (h : ShortIndex segment) (hindex : isIndex segment = true) :
    ∃ i, index segment = .ok i := by
  obtain ⟨digits, hdigits⟩ := Option.isSome_iff_exists.1 hindex
  refine ⟨readDigits 0 digits, ?_⟩
  unfold index
  rw [hdigits]
  exact if_neg (Nat.not_lt.2 (h digits hdigits))

/-! ### Items of a list -/

theorem item?_setItem_self (items : List Value) (i : Nat) (v : Value) :
    item? (setItem items i v) (.ofNat i) = some v := by
  have hlength : i < (items ++ List.replicate (i + 1 - items.length) Value.null).length := by
    rw [List.length_append, List.length_replicate]
    omega
  exact List.getElem?_set_self hlength

/-- Nulls that fill a list up are like items that are not there. -/
theorem getD_item?_setItem {i : Nat} {j : Int} (h : j ≠ .ofNat i) (items : List Value) (v : Value) :
    (item? (setItem items i v) j).getD .null = (item? items j).getD .null := by
  cases j with
  | negSucc n => rfl
  | ofNat n =>
    have hne : i ≠ n := fun heq => h (congrArg Int.ofNat heq.symm)
    show ((setItem items i v)[n]?).getD .null = (items[n]?).getD .null
    unfold setItem
    rw [List.getElem?_set_ne hne]
    by_cases hn : n < items.length
    · rw [List.getElem?_append_left hn]
    · rw [List.getElem?_append_right (Nat.le_of_not_lt hn), List.getElem?_replicate,
        List.getElem?_eq_none (Nat.le_of_not_lt hn)]
      split <;> rfl

theorem setItem_setItem (items : List Value) (i : Nat) (v w : Value) :
    setItem (setItem items i v) i w = setItem items i w := by
  have hlength : i + 1 ≤ (setItem items i v).length := by
    unfold setItem
    rw [List.length_set, List.length_append, List.length_replicate]
    omega
  rw [setItem, Nat.sub_eq_zero_of_le hlength, List.replicate_zero, List.append_nil]
  unfold setItem
  exact List.set_set ..

/-! ### One segment -/

/-- What is found at a segment when a path is followed; null stands for what is not there. -/
def lookup (c : Value) (segment : List Char) : Except Fault Value :=
  match c with
  | .list items => do
    match ← leadingInt? segment with
    | none => return .null
    | some i => return (item? items i).getD .null
  | .object fields => return (Entries.get? (String.ofList segment) fields).getD .null
  | _ => return .null

/-- Follows the rest of a path from what was found. -/
def followFrom : Value → List (List Char) → Except Fault Value
  | .null, _ => .ok (.text "")
  | v, path => follow v path

theorem followFrom_of_ne (h : v ≠ .null) (path : List (List Char)) : followFrom v path = follow v path := by
  cases v <;> first | rfl | exact absurd rfl h

theorem follow_cons (c : Value) (segment : List Char) (path : List (List Char)) :
    follow c (segment :: path) = lookup c segment >>= fun v => followFrom v path := by
  cases c with
  | list items =>
    rw [follow, lookup]
    cases leadingInt? segment with
    | error e => rfl
    | ok i =>
      rcases i with _ | i
      · rfl
      · simp only [bind, Except.bind]
        rcases item? items i with _ | v
        · rfl
        · cases v <;> rfl
  | object fields =>
    rw [follow, lookup]
    rcases Entries.get? (String.ofList segment) fields with _ | v
    · rfl
    · cases v <;> rfl
  | _ => rfl

/-- The reader finds what the writer finds. -/
theorem lookup_of_child (h : child c segment = .ok v) : lookup c segment = .ok v := by
  cases c with
  | list items =>
    obtain ⟨i, hi, hitem⟩ := exists_of_bind_ok h
    obtain rfl := Except.ok.inj hitem
    rw [lookup, leadingInt?_of_index hi, List.getD_eq_getElem?_getD]
    rfl
  | object fields =>
    obtain rfl := Except.ok.inj h
    rfl
  | _ => cases h

/-- And it finds what the writer has put there. -/
theorem lookup_setChild (h : setChild c segment v = .ok written) : lookup written segment = .ok v := by
  cases c with
  | list items =>
    obtain ⟨i, hi, hitem⟩ := exists_of_bind_ok h
    obtain rfl := Except.ok.inj hitem
    rw [lookup, leadingInt?_of_index hi]
    exact congrArg (fun o => Except.ok (Option.getD o .null)) (item?_setItem_self items i v)
  | object fields =>
    obtain rfl := Except.ok.inj h
    rw [lookup, Entries.get?_put_self]
    rfl
  | _ => cases h

/-- What is put at a segment replaces what was put there before. -/
theorem setChild_setChild (h : setChild c segment v = .ok written) (w : Value) :
    setChild written segment w = setChild c segment w := by
  cases c with
  | list items =>
    obtain ⟨i, hi, hitem⟩ := exists_of_bind_ok h
    obtain rfl := Except.ok.inj hitem
    rw [setChild, setChild, hi]
    exact congrArg (fun vs => Except.ok (Value.list vs)) (setItem_setItem items i v w)
  | object fields =>
    obtain rfl := Except.ok.inj h
    rw [setChild, setChild, Entries.put_put]
  | _ => cases h

theorem isContainer_of_setChild (h : setChild c segment v = .ok written) : written.isContainer = true := by
  cases c with
  | list items =>
    obtain ⟨i, -, hitem⟩ := exists_of_bind_ok h
    obtain rfl := Except.ok.inj hitem
    rfl
  | object fields =>
    obtain rfl := Except.ok.inj h
    rfl
  | _ => cases h

theorem ne_null_of_isContainer (h : v.isContainer = true) : v ≠ .null := by
  rintro rfl
  cases h

/-- What is stored for a text is never nothing, which could not be told from what is not there. -/
theorem stored_text_ne_null (s : String) : stored (.text s) ≠ .null := by
  rw [stored]
  split
  · rename_i hs
    cases hread : Json.read s with
    | error e => simp [Except.toOption]
    | ok v =>
      refine ne_null_of_isContainer (Json.isContainer_of_read hread ?_)
      simpa using hs
  · simp

/-! ### Writing, segment by segment -/

/-- Where a child can be looked up, one can be put. -/
theorem exists_setChild (h : child c segment = .ok w) (v : Value) :
    ∃ written, setChild c segment v = .ok written := by
  cases c with
  | list items =>
    obtain ⟨i, hi, -⟩ := exists_of_bind_ok h
    exact ⟨.list (setItem items i v), by rw [setChild, hi]; rfl⟩
  | object fields => exact ⟨_, rfl⟩
  | _ => cases h

theorem write_last (h : write c v [segment] = (written, none)) :
    setChild c segment (stored v) = .ok written := by
  rw [write] at h
  split at h
  · cases h
  · cases hset : setChild c segment (stored v) with
    | error e =>
      rw [hset] at h
      cases h
    | ok d =>
      rw [hset] at h
      cases h
      rfl

/-- A writing goes on below the container that fits the next segment, and ends as the writing there. -/
theorem write_below {old fitted : Value} {next : List Char} (hold : child c segment = .ok old)
    (hfitting : fitting (isIndex next) old = .ok fitted) (v : Value) (path : List (List Char)) :
    ∃ written, setChild c segment (write fitted v (next :: path)).1 = .ok written ∧
      write c v (segment :: next :: path) = (written, (write fitted v (next :: path)).2) := by
  obtain ⟨opened, hopened⟩ := exists_setChild hold fitted
  obtain ⟨written, hwritten⟩ := exists_setChild hold (write fitted v (next :: path)).1
  refine ⟨written, hwritten, ?_⟩
  rw [write]
  simp only [hold, hfitting, hopened, bind, Except.bind, pure, Except.pure]
  rw [setChild_setChild hopened, hwritten]

/-- Or there is no such container, and nothing is done. -/
theorem write_stuck {next : List Char} (h : ∀ old fitted, child c segment = .ok old →
    fitting (isIndex next) old ≠ .ok fitted) (v : Value) (path : List (List Char)) :
    ∃ e, write c v (segment :: next :: path) = (c, some e) := by
  rw [write]
  cases hold : child c segment with
  | error e => exact ⟨e, rfl⟩
  | ok old =>
    cases hfitting : fitting (isIndex next) old with
    | error e => exact ⟨e, by simp only [hfitting, bind, Except.bind]⟩
    | ok fitted => exact absurd hfitting (h old fitted hold)

/-- What became of a writing that goes through. -/
theorem write_cons {next : List Char} (h : write c v (segment :: next :: path) = (written, none)) :
    ∃ old fitted new, child c segment = .ok old ∧ fitting (isIndex next) old = .ok fitted ∧
      write fitted v (next :: path) = (new, none) ∧ setChild c segment new = .ok written := by
  by_cases hfits : ∃ old fitted, child c segment = .ok old ∧ fitting (isIndex next) old = .ok fitted
  · obtain ⟨old, fitted, hold, hfitting⟩ := hfits
    obtain ⟨d, hset, hd⟩ := write_below hold hfitting v path
    rw [hd] at h
    obtain ⟨rfl, hnone⟩ := Prod.mk.inj h
    exact ⟨old, fitted, _, hold, hfitting, Prod.ext rfl hnone, hset⟩
  · obtain ⟨e, he⟩ := write_stuck (fun old fitted hold hfitting => hfits ⟨old, fitted, hold, hfitting⟩)
      v path
    rw [he] at h
    cases h

theorem isContainer_of_write (h : write c v (segment :: path) = (written, none)) :
    written.isContainer = true := by
  cases path with
  | nil => exact isContainer_of_setChild (write_last h)
  | cons next path =>
    obtain ⟨_, _, _, -, -, -, hset⟩ := write_cons h
    exact isContainer_of_setChild hset

/-- What is written is found at its path. -/
theorem follow_write (hv : stored v ≠ .null) (h : write c v (segment :: path) = (written, none)) :
    follow written (segment :: path) = .ok (stored v) := by
  induction path generalizing segment c written with
  | nil =>
    rw [follow_cons, lookup_setChild (write_last h)]
    exact followFrom_of_ne hv []
  | cons next path ih =>
    obtain ⟨old, fitted, new, -, -, hnew, hset⟩ := write_cons h
    have hcontainer := isContainer_of_write hnew
    rw [follow_cons, lookup_setChild hset]
    exact (followFrom_of_ne (ne_null_of_isContainer hcontainer) _).trans (ih hnew)

/-! ### Containers that fit -/

/-- The value is the container that a segment asks for: a list if it is an index, else an object. -/
def suits (segment : List Char) : Value → Bool
  | .list _ => isIndex segment
  | .object _ => !isIndex segment
  | _ => false

theorem isList_of_suits (h : c.suits segment = true) : c.isList = isIndex segment := by
  cases c <;> simp_all [suits, isList]

theorem fitting_of_suits (h : c.suits segment = true) : fitting (isIndex segment) c = .ok c := by
  cases c <;> simp_all [suits, fitting]

theorem suits_of_fitting (h : fitting (isIndex segment) w = .ok c) : c.suits segment = true := by
  cases hindex : isIndex segment with
  | true =>
    rw [hindex] at h
    cases w with
    | object fields =>
      simp only [fitting, if_true] at h
      cases hitems : itemsOfFields [] fields with
      | error e =>
        rw [hitems] at h
        cases h
      | ok items =>
        rw [hitems] at h
        cases h
        exact hindex
    | _ =>
      cases h
      exact hindex
  | false =>
    rw [hindex] at h
    cases w <;> cases h <;> simp [suits, hindex]

/-- Every container on the way is the one that the next segment asks for, unless there is none yet. -/
def SuitsAlong (c : Value) : List (List Char) → Prop
  | segment :: next :: path => ∀ old, child c segment = .ok old → old ≠ .null →
      old.suits next = true ∧ old.SuitsAlong (next :: path)
  | _ => True

/-- The container that is made where there is none. -/
def empty (segment : List Char) : Value := if isIndex segment then .list [] else .object []

theorem isList_empty (segment : List Char) : (empty segment).isList = isIndex segment := by
  unfold empty
  cases isIndex segment <;> rfl

theorem child_empty (h : child (empty segment) other = .ok w) : w = .null := by
  unfold empty at h
  cases hindex : isIndex segment with
  | true =>
    rw [hindex] at h
    obtain ⟨i, -, hitem⟩ := exists_of_bind_ok h
    exact (Except.ok.inj hitem).symm
  | false =>
    rw [hindex] at h
    exact (Except.ok.inj h).symm

theorem suitsAlong_empty (segment : List Char) (path : List (List Char)) :
    (empty segment).SuitsAlong path := by
  match path with
  | [] | [_] => trivial
  | _ :: _ :: _ =>
    intro old hold hne
    exact absurd (child_empty hold) hne

/-! ### Off the path -/

/-- Two segments name different children of a list, or of an object. -/
def Apart (inList : Bool) (segment other : List Char) : Prop :=
  if inList then
    ∃ i j, leadingInt? segment = .ok (some i) ∧ leadingInt? other = .ok j ∧ j ≠ some i
  else segment ≠ other

/-- Two segments name the same child of a list, or of an object. -/
def SameChild (inList : Bool) (segment other : List Char) : Prop :=
  if inList then ∃ i, leadingInt? segment = .ok (some i) ∧ leadingInt? other = .ok (some i)
  else segment = other

/-- A path leaves another at a container on its way, the head of which is a list or an object and the
others of which are what the next segments ask for. -/
inductive Leaves : Bool → List (List Char) → List (List Char) → Prop
  | here {inList : Bool} {segment other : List Char} {path rest : List (List Char)} :
      Apart inList segment other → Leaves inList (segment :: path) (other :: rest)
  | deeper {inList : Bool} {segment next other : List Char} {path rest : List (List Char)} :
      SameChild inList segment other → Leaves (isIndex next) (next :: path) rest →
      Leaves inList (segment :: next :: path) (other :: rest)

theorem isList_of_setChild (h : setChild c segment v = .ok written) : written.isList = c.isList := by
  cases c with
  | list items =>
    obtain ⟨i, -, hitem⟩ := exists_of_bind_ok h
    obtain rfl := Except.ok.inj hitem
    rfl
  | object fields =>
    obtain rfl := Except.ok.inj h
    rfl
  | _ => cases h

theorem lookup_of_same (h : SameChild c.isList segment other) : lookup c segment = lookup c other := by
  cases c with
  | list items =>
    obtain ⟨i, hsegment, hother⟩ := h
    rw [lookup, lookup, hsegment, hother]
  | object fields =>
    obtain rfl : segment = other := h
    rfl
  | _ => rfl

/-- Nothing else is found where something was not put. -/
theorem lookup_setChild_of_apart (hset : setChild c segment v = .ok written)
    (h : Apart c.isList segment other) : lookup written other = lookup c other := by
  cases c with
  | list items =>
    obtain ⟨i, hi, hitem⟩ := exists_of_bind_ok hset
    obtain rfl := Except.ok.inj hitem
    obtain ⟨k, j, hk, hj, hne⟩ := h
    rw [leadingInt?_of_index hi] at hk
    cases hk
    rw [lookup, lookup, hj]
    cases j with
    | none => rfl
    | some j =>
      have hji : j ≠ .ofNat i := fun heq => hne (congrArg some heq)
      exact congrArg Except.ok (getD_item?_setItem hji items v)
  | object fields =>
    obtain rfl := Except.ok.inj hset
    have hkeys : String.ofList segment ≠ String.ofList other := fun heq => h (String.ofList_inj.1 heq)
    rw [lookup, lookup, Entries.get?_put_of_ne hkeys]
  | _ => cases hset

/-- In an empty container there is nothing to be found. -/
theorem follow_empty {next : List Char} {rest : List (List Char)}
    (h : Leaves (isIndex next) (segment :: path) rest) : follow (empty next) rest = .ok (.text "") := by
  have hnothing : ∀ {other rest}, (isIndex next = true → ∃ j, leadingInt? other = .ok j) →
      follow (empty next) (other :: rest) = .ok (.text "") := by
    intro other rest hother
    rw [follow_cons, empty]
    cases hindex : isIndex next with
    | true =>
      obtain ⟨j, hj⟩ := hother hindex
      show (lookup (.list []) other >>= fun v => followFrom v rest) = _
      rw [lookup, hj]
      rcases j with _ | _ | _ <;> rfl
    | false => rfl
  cases h with
  | here hapart =>
    refine hnothing fun hindex => ?_
    rw [hindex] at hapart
    obtain ⟨_, j, -, hj, -⟩ := hapart
    exact ⟨j, hj⟩
  | deeper hsame =>
    refine hnothing fun hindex => ?_
    rw [hindex] at hsame
    obtain ⟨i, -, hi⟩ := hsame
    exact ⟨some i, hi⟩

/-- A path that leaves the written one leads where it led before. -/
theorem follow_write_of_leaves {q : List (List Char)} (h : write c v (segment :: path) = (written, none))
    (hsuits : c.SuitsAlong (segment :: path)) (hleaves : Leaves c.isList (segment :: path) q) :
    follow written q = follow c q := by
  induction path generalizing segment c written q with
  | nil =>
    cases hleaves with
    | here hapart => rw [follow_cons, follow_cons, lookup_setChild_of_apart (write_last h) hapart]
  | cons next path ih =>
    obtain ⟨old, fitted, new, hold, hfitting, hnew, hset⟩ := write_cons h
    cases hleaves with
    | here hapart => rw [follow_cons, follow_cons, lookup_setChild_of_apart hset hapart]
    | deeper hsame hbelow =>
      have hwritten := lookup_of_same ((isList_of_setChild hset).symm ▸ hsame)
      rw [follow_cons, follow_cons, ← hwritten, lookup_setChild hset, ← lookup_of_same hsame,
        lookup_of_child hold]
      show followFrom new _ = followFrom old _
      rw [followFrom_of_ne (ne_null_of_isContainer (isContainer_of_write hnew))]
      by_cases hnull : old = .null
      · obtain rfl : empty next = fitted := by
          rw [hnull] at hfitting
          exact Except.ok.inj hfitting
        rw [hnull, ih hnew (suitsAlong_empty _ _) (isList_empty next ▸ hbelow), follow_empty hbelow]
        rfl
      · obtain ⟨hfits, halong⟩ := hsuits old hold hnull
        obtain rfl : old = fitted := by
          rw [fitting_of_suits hfits] at hfitting
          exact Except.ok.inj hfitting
        rw [followFrom_of_ne hnull]
        exact ih hnew halong (isList_of_suits hfits ▸ hbelow)

/-! ### Writings that stop -/

/-- Every key of an object in the value that is an index has no more digits than are read. -/
inductive ShortKeys : Value → Prop
  | plain {v : Value} (h : v.isContainer = false) : ShortKeys v
  | list {items : List Value} (h : ∀ w ∈ items, ShortKeys w) : ShortKeys (.list items)
  | object {fields : Entries Value} (keys : ∀ e ∈ fields, ShortIndex e.1.toList)
      (h : ∀ e ∈ fields, ShortKeys e.2) : ShortKeys (.object fields)

theorem shortKeys_null : ShortKeys .null := .plain rfl

/-- The children of a value have short keys. -/
def ShortBelow (c : Value) : Prop := ∀ segment w, child c segment = .ok w → w.ShortKeys

theorem shortBelow_list {items : List Value} (h : ∀ w ∈ items, w.ShortKeys) :
    ShortBelow (.list items) := by
  intro segment w hw
  obtain ⟨i, -, hitem⟩ := exists_of_bind_ok hw
  obtain rfl := Except.ok.inj hitem
  exact getD_of_forall h shortKeys_null i

theorem shortBelow_object {fields : Entries Value} (h : ∀ e ∈ fields, ShortKeys e.2) :
    ShortBelow (.object fields) := by
  intro segment w hw
  obtain rfl := Except.ok.inj hw
  cases hget : Entries.get? (String.ofList segment) fields with
  | none => exact shortKeys_null
  | some w => exact h _ (Entries.mem_of_get? hget)

theorem ShortKeys.shortBelow (h : c.ShortKeys) : c.ShortBelow := by
  cases h with
  | plain hplain =>
    intro segment w hw
    cases c with
    | list _ | object _ => cases hplain
    | _ => cases hw
  | list hitems => exact shortBelow_list hitems
  | object _ hfields => exact shortBelow_object hfields

theorem shortKeys_setItem {items : List Value} (h : ∀ w ∈ items, w.ShortKeys) (hv : v.ShortKeys)
    (i : Nat) : ∀ w ∈ setItem items i v, w.ShortKeys := by
  intro w hw
  rcases List.mem_or_eq_of_mem_set hw with hw | rfl
  · rcases List.mem_append.1 hw with hw | hw
    · exact h w hw
    · rw [List.eq_of_mem_replicate hw]
      exact shortKeys_null
  · exact hv

/-- Fields with short keys can become the items of a list. -/
theorem exists_itemsOfFields {fields : Entries Value} (items : List Value)
    (keys : ∀ e ∈ fields, ShortIndex e.1.toList) (hfields : ∀ e ∈ fields, e.2.ShortKeys)
    (hitems : ∀ w ∈ items, w.ShortKeys) :
    ∃ new, itemsOfFields items fields = .ok new ∧ ∀ w ∈ new, w.ShortKeys := by
  induction fields generalizing items with
  | nil => exact ⟨items, rfl, hitems⟩
  | cons e fields ih =>
    obtain ⟨key, u⟩ := e
    have hrest := fun items => ih items (fun e he => keys e (List.mem_cons_of_mem _ he))
      fun e he => hfields e (List.mem_cons_of_mem _ he)
    rw [itemsOfFields]
    split
    · rename_i hindex
      obtain ⟨i, hi⟩ := (keys (key, u) List.mem_cons_self).exists_index hindex
      rw [hi]
      exact hrest _ (shortKeys_setItem hitems (hfields (key, u) List.mem_cons_self) i)
    · exact hrest items hitems

/-- A child with short keys can be made to fit any segment. -/
theorem exists_fitting (h : w.ShortKeys) (segment : List Char) :
    ∃ fitted, fitting (isIndex segment) w = .ok fitted ∧ fitted.ShortBelow := by
  have hempty : (empty segment).ShortBelow := by
    intro other u hu
    rw [child_empty hu]
    exact shortKeys_null
  cases h with
  | plain hplain =>
    refine ⟨empty segment, ?_, hempty⟩
    cases w <;> first | rfl | cases hplain
  | @list items hitems =>
    cases hindex : isIndex segment with
    | true => exact ⟨.list items, rfl, shortBelow_list hitems⟩
    | false =>
      refine ⟨.object (fieldsOfItems items), rfl, shortBelow_object fun e he => ?_⟩
      obtain ⟨⟨u, i⟩, hu, rfl⟩ := List.mem_map.1 he
      exact hitems u (List.fst_mem_of_mem_zipIdx hu)
  | @object fields keys hfields =>
    cases hindex : isIndex segment with
    | true =>
      obtain ⟨items, hitems, hshort⟩ := exists_itemsOfFields [] keys hfields (by simp)
      refine ⟨.list items, ?_, shortBelow_list hshort⟩
      simp only [fitting, if_true, hitems]
      rfl
    | false => exact ⟨.object fields, rfl, shortBelow_object hfields⟩

/-- In the container that a segment asks for there is a place for its child. -/
theorem exists_child (hsuits : c.suits segment = true) (hshort : ShortIndex segment) :
    ∃ w, child c segment = .ok w := by
  cases c with
  | list items =>
    obtain ⟨i, hi⟩ := hshort.exists_index hsuits
    exact ⟨items.getD i .null, by rw [child, hi]; rfl⟩
  | object fields => exact ⟨_, rfl⟩
  | _ => cases hsuits

/-- From the container that the first segment asks for a writing goes through: what comes back from the
conversions on its way always fits. -/
theorem write_goes_through (hsuits : c.suits segment = true)
    (segments : ∀ s ∈ segment :: path, ShortIndex s) (hbelow : c.ShortBelow) :
    (write c v (segment :: path)).2 = none := by
  have hshort : ShortIndex segment := segments segment List.mem_cons_self
  obtain ⟨old, hold⟩ := exists_child hsuits hshort
  induction path generalizing segment c old with
  | nil =>
    obtain ⟨written, hwritten⟩ := exists_setChild hold (stored v)
    rw [write, if_neg (by simp [isList_of_suits hsuits]), hwritten]
  | cons next path ih =>
    obtain ⟨fitted, hfitting, hfitted⟩ := exists_fitting (hbelow segment old hold) next
    obtain ⟨written, -, hwrite⟩ := write_below hold hfitting v path
    have hnext := suits_of_fitting hfitting
    have hnexts : ∀ s ∈ next :: path, ShortIndex s := fun s hs => segments s (List.mem_cons_of_mem _ hs)
    obtain ⟨deeper, hdeeper⟩ := exists_child hnext (hnexts next List.mem_cons_self)
    rw [hwrite]
    exact ih hnext hnexts hfitted (hnexts next List.mem_cons_self) deeper hdeeper

/-- So it stops at its first segment, before anything is done, or not at all. -/
theorem write_of_stop (segments : ∀ s ∈ path, ShortIndex s) (keys : c.ShortKeys)
    (h : (write c v path).2 ≠ none) : (write c v path).1 = c := by
  match path with
  | [] => rfl
  | [last] =>
    rw [write] at h ⊢
    split
    · rfl
    · rename_i hfits
      rw [if_neg hfits] at h
      cases hset : setChild c last (stored v) with
      | error e => rfl
      | ok written =>
        rw [hset] at h
        exact absurd rfl h
  | segment :: next :: path =>
    by_cases hfits : ∃ old fitted, child c segment = .ok old ∧ fitting (isIndex next) old = .ok fitted
    · obtain ⟨old, fitted, hold, hfitting⟩ := hfits
      obtain ⟨written, -, hwrite⟩ := write_below hold hfitting v path
      obtain ⟨fitted', hfitting', hbelow⟩ := exists_fitting (keys.shortBelow segment old hold) next
      obtain rfl : fitted = fitted' := Except.ok.inj (hfitting.symm.trans hfitting')
      have hgoes := write_goes_through (v := v) (suits_of_fitting hfitting)
        (fun s hs => segments s (List.mem_cons_of_mem _ hs)) hbelow
      rw [hwrite] at h
      exact absurd hgoes h
    · obtain ⟨e, he⟩ := write_stuck
        (fun old fitted hold hfitting => hfits ⟨old, fitted, hold, hfitting⟩) v path
      rw [he]

/-- A writing at a dotted path that fails leaves the container as it was. One that succeeds, and meets on
its way only containers that fit, is not seen by a path that leaves its own. -/
theorem writePath_frame {path : String} (segments : ∀ s ∈ splitOn '.' path.toList, ShortIndex s)
    (keys : container.ShortKeys) :
    ((writePath container path v).2 ≠ none → (writePath container path v).1 = container) ∧
      ((writePath container path v).2 = none → container.SuitsAlong (splitOn '.' path.toList) →
        ∀ q, Leaves container.isList (splitOn '.' path.toList) q →
          follow (writePath container path v).1 q = follow container q) := by
  obtain ⟨segment, rest, hsplit⟩ := List.exists_cons_of_ne_nil (splitOn_ne_nil '.' path.toList)
  obtain ⟨written, outcome, hwrite⟩ :
      ∃ written outcome, write container v (splitOn '.' path.toList) = (written, outcome) := ⟨_, _, rfl⟩
  have hpath : writePath container path v = (written, outcome.map (·.message path)) := by
    rw [writePath, hwrite]
  rw [hpath]
  dsimp only
  constructor
  · intro hfails
    have hstop := write_of_stop (v := v) segments keys
    rw [hwrite] at hstop
    exact hstop fun hnone => hfails (congrArg _ hnone)
  · intro hgoes hsuits q hleaves
    rw [Option.map_eq_none_iff.1 hgoes] at hwrite
    rw [hsplit] at hwrite hsuits hleaves
    exact follow_write_of_leaves hwrite hsuits hleaves

/-- An object below an object. -/
def nested : Value := .object [("a", .object [("x", .int 1)])]

/-- A writing that makes a list beside a field and fills it up is not seen at that field. -/
theorem writePath_frame_nested :
    (∀ s ∈ splitOn '.' "a.b.1".toList, ShortIndex s) ∧ nested.ShortKeys ∧
      (writePath nested "a.b.1" (.text "v")).2 = none ∧
      nested.SuitsAlong (splitOn '.' "a.b.1".toList) ∧
      Leaves nested.isList (splitOn '.' "a.b.1".toList) [['a'], ['x']] ∧
      follow (writePath nested "a.b.1" (.text "v")).1 [['a'], ['x']] =
        follow nested [['a'], ['x']] := by
  have hsplit : splitOn '.' "a.b.1".toList = [['a'], ['b'], ['1']] := by decide
  have segments : ∀ s ∈ splitOn '.' "a.b.1".toList, ShortIndex s := by
    rw [hsplit]
    intro s hs digits hdigits
    have hsome : ∀ s ∈ [['a'], ['b'], ['1']], ∀ ds ∈ indexDigits? s, ds.length ≤ Number.digitLimit := by
      decide
    exact hsome s hs digits hdigits
  have hplain : ∀ name ∈ [['a'], ['x']], ShortIndex name := by
    intro name hname digits hdigits
    have hnone : ∀ name ∈ [['a'], ['x']], indexDigits? name = none := by decide
    rw [hnone name hname] at hdigits
    cases hdigits
  have keys : nested.ShortKeys := by
    refine .object (List.forall_mem_singleton.2 (hplain ['a'] (by simp))) ?_
    refine List.forall_mem_singleton.2 (.object ?_ ?_)
    · exact List.forall_mem_singleton.2 (hplain ['x'] (by simp))
    · exact List.forall_mem_singleton.2 (.plain rfl)
  have goes : (writePath nested "a.b.1" (.text "v")).2 = none := rfl
  have suits : nested.SuitsAlong (splitOn '.' "a.b.1".toList) := by
    rw [hsplit]
    rintro _ ⟨⟩ -
    refine ⟨rfl, ?_⟩
    rintro _ ⟨⟩ hne
    exact absurd rfl hne
  have leaves : Leaves nested.isList (splitOn '.' "a.b.1".toList) [['a'], ['x']] := by
    rw [hsplit]
    exact .deeper rfl (.here (show ['b'] ≠ ['x'] by decide))
  exact ⟨segments, keys, goes, suits, leaves, (writePath_frame segments keys).2 goes suits _ leaves⟩

end Value

end StoryState
