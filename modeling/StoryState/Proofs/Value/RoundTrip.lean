import StoryState.Value.Format
import StoryState.Value.Kind
import StoryState.Proofs.Entries
import StoryState.Proofs.Number.Whole
import StoryState.Proofs.Value.Writable
import StoryState.Proofs.Value.Tidy
import StoryState.Proofs.Json.Proper
import StoryState.Proofs.Json.Document
import StoryState.Proofs.Json.Literal

/-!
Values shown and read again. Every value of a literal is shown as a text that is read again; that gives
an equal value, except where documents are read and the value is shown as no document shows it, which
are nothing, the texts and the infinities (`isBare`).

Values are equal if they denote the same: numbers are compared by what they denote, whether they are integers,
doubles or truth values, lists item by item, and objects by what stands under their keys, in whatever order. A
NaN counts as equal to a NaN, so every value whose objects repeat no key is equal to itself
(`Value.equals_self`).
-/

namespace StoryState

open StoryState.Text

/-! ### Equality -/

/-- Equality of numbers by what they denote; a NaN is equal to a NaN. -/
def Number.equals : Number → Number → Bool
  | .int a, .int b => a == b
  | .int a, .float y => toInt? y == some a
  | .float x, .int b => toInt? x == some b
  | .float x, .float y => x == y || (isNaN x && isNaN y)

theorem Number.equals_self (n : Number) : n.equals n = true := by
  cases n with
  | int n => exact beq_self_eq_true n
  | float x =>
    cases hx : isNaN x with
    | true => simp [equals, hx]
    | false => simp [equals, beq_self hx]

namespace Value

/-- The number that a value is; a truth value is zero or one. -/
def number? : Value → Option Number
  | .bool b => some (.int (if b then 1 else 0))
  | .int n => some (.int n)
  | .float x => some (.float x)
  | _ => none

mutual

/-- Equality of values at every depth: numbers by what they denote, lists item by item, and objects
by what stands under their keys. -/
def equals : Value → Value → Bool
  | .null, .null => true
  | .text s, .text t => s == t
  | .list vs, .list ws => itemsEqual vs ws
  | .object es, .object fs => es.length == fs.length && fieldsEqual es fs
  | v, w =>
    match v.number?, w.number? with
    | some a, some b => a.equals b
    | _, _ => false

/-- Equality of lists, item by item. -/
def itemsEqual : List Value → List Value → Bool
  | [], [] => true
  | v :: vs, w :: ws => v.equals w && itemsEqual vs ws
  | _, _ => false

/-- Whether the value of every field is equal to what stands under its key among others. -/
def fieldsEqual : List (String × Value) → Entries Value → Bool
  | [], _ => true
  | (k, v) :: es, fs =>
    (match Entries.get? k fs with
      | some w => v.equals w
      | none => false) && fieldsEqual es fs

end

mutual

/-- A tidy value is equal to itself. -/
theorem equals_self : ∀ {v : Value}, v.Tidy → v.equals v = true
  | .null, _ => by simp [equals]
  | .text s, _ => by simp [equals]
  | .bool b, _ => by simp [equals, number?, Number.equals]
  | .int n, _ => by simp [equals, number?, Number.equals]
  | .float x, _ => Number.equals_self (.float x)
  | .list vs, h => by
    rw [equals]
    exact itemsEqual_self h
  | .object es, h => by
    rw [equals, fieldsEqual_self h.2 fun k v hv => Entries.get?_of_mem h.1 hv]
    simp

theorem itemsEqual_self : ∀ {vs : List Value}, AllTidy vs → itemsEqual vs vs = true
  | [], _ => by simp [itemsEqual]
  | v :: vs, h => by rw [itemsEqual, equals_self h.1, itemsEqual_self h.2]; rfl

theorem fieldsEqual_self : ∀ {es : List (String × Value)} {fs : Entries Value}, FieldsTidy es →
    (∀ k v, (k, v) ∈ es → Entries.get? k fs = some v) → fieldsEqual es fs = true
  | [], _, _, _ => by simp [fieldsEqual]
  | (k, v) :: es, fs, h, hfs => by
    rw [fieldsEqual, hfs k v List.mem_cons_self]
    dsimp only
    rw [equals_self h.1, fieldsEqual_self h.2 fun k v hv => hfs k v (List.mem_cons_of_mem _ hv)]
    rfl

end

end Value

/-! ### Showing and reading -/

namespace Value

/-- What a value is shown as: a double that is a whole number is shown as that. -/
def whole : Value → Value
  | .float x =>
    match Number.toInt? x with
    | some n => .int n
    | none => .float x
  | v => v

theorem whole_float {x : Float} {n : Int} (h : Number.toInt? x = some n) :
    whole (.float x) = .int n := by
  rw [whole, h]

theorem whole_float_of_none {x : Float} (h : Number.toInt? x = none) :
    whole (.float x) = .float x := by
  rw [whole, h]

/-- A value at the top that is shown otherwise than in a document: nothing, a text, an infinity. -/
def isBare : Value → Bool
  | .null | .text _ => true
  | .float x => !Number.isFinite x && !Number.isNaN x
  | _ => false

theorem equals_whole {v : Value} (hv : v.Tidy) : v.whole.equals v = true := by
  unfold whole
  split
  · split
    · rename_i n hn
      simp [equals, number?, Number.equals, hn]
    · exact equals_self hv
  · exact equals_self hv

theorem tidy_whole {v : Value} (hv : v.Tidy) : v.whole.Tidy := by
  unfold whole
  split
  · split <;> exact trivial
  · exact hv

theorem isWritable_whole {v : Value} (hv : v.isWritable = true) : v.whole.isWritable = true := by
  unfold whole
  split
  · split
    · rename_i n hn
      exact Number.isWritable_of_toInt? hn
    · rfl
  · exact hv

/-- Every other value is shown as a document of what it is shown as. -/
theorem format_eq_render {v : Value} (hbare : v.isBare = false) (hv : v.isWritable = true) :
    v.format = Json.render .compact v.whole := by
  have hw := isWritable_whole hv
  cases v with
  | null => cases hbare
  | text s => cases hbare
  | bool b => cases b <;> rfl
  | int n =>
    have hn : Number.isWritable n = true := hv
    rw [format, Json.render, if_pos hn, if_pos hw]
    rfl
  | list vs => rfl
  | object es => rfl
  | float x =>
    rw [Json.render, if_pos hw, format]
    refine congrArg Except.ok ?_
    unfold formatFloat
    cases hparts : Number.parts x with
    | nan =>
      have hnan : Number.isNaN x = true := by rw [Number.isNaN, hparts]; rfl
      have hwhole : Number.toInt? x = none := by rw [Number.toInt?, hparts]
      rw [if_pos hnan, whole_float_of_none hwhole, Json.write, Json.floatChars, hparts]
      rfl
    | infinite negative => simp [isBare, Number.isFinite, Number.isNaN, hparts] at hbare
    | finite negative m e =>
      have hnan : ¬Number.isNaN x = true := by simp [Number.isNaN, hparts]
      rw [if_neg hnan]
      cases hwhole : Number.toInt? x with
      | some n => rw [whole_float hwhole, Json.write]
      | none =>
        rw [whole_float_of_none hwhole, Json.write, Json.floatChars, hparts]
        exact String.ofList_toList.symm

/-! ### Numbers -/

theorem ofLiteral_number (s : String) :
    ofLiteral (some .number) (.text s) = (Number.ofText s.toList).map ofNumber := rfl

/-- What is written as a number of a document is read as a number. -/
theorem ofLiteral_of_number {s : List Char} {v : Value} (h : Json.number (s ++ []) = .ok (v, [])) :
    ofLiteral (some .number) (.text (String.ofList s)) = .ok v := by
  rw [List.append_nil] at h
  obtain ⟨n, hn, rfl⟩ := Number.ofText_of_number h
  rw [ofLiteral_number, String.toList_ofList, hn]
  rfl

/-- A number is read back from its text. -/
theorem ofLiteral_format {v : Value} (hv : v.fits .number = true) (hw : v.isWritable = true) :
    ∃ text, v.format = .ok text ∧ ofLiteral (some .number) (.text text) = .ok v.whole := by
  cases v with
  | int n =>
    have hn : Number.isWritable n = true := hw
    exact ⟨_, if_pos hn, ofLiteral_of_number (Json.number_intChars hn Json.Ended.nil)⟩
  | float x =>
    refine ⟨_, rfl, ?_⟩
    unfold formatFloat
    cases hparts : Number.parts x with
    | nan =>
      obtain rfl := Number.eq_of_nan hparts
      rfl
    | infinite negative =>
      obtain rfl := Number.eq_of_infinite hparts
      cases negative <;> rfl
    | finite negative m e =>
      have hnan : ¬Number.isNaN x = true := by simp [Number.isNaN, hparts]
      rw [if_neg hnan]
      cases hwhole : Number.toInt? x with
      | some n =>
        rw [whole_float hwhole]
        exact ofLiteral_of_number
          (Json.number_intChars (Number.isWritable_of_toInt? hwhole) Json.Ended.nil)
      | none =>
        rw [whole_float_of_none hwhole]
        have hread := Json.number_floatText hparts Json.Ended.nil
        have hlist := ofLiteral_of_number hread
        rwa [String.ofList_toList] at hlist
  | _ => cases hv

/-! ### Documents -/

/-- A value that is not bare is read back from its text as a document. -/
theorem read_format {v : Value} (hbare : v.isBare = false) (hv : v.Tidy) (hw : v.isWritable = true) :
    ∃ text, v.format = .ok text ∧ Json.read text = .ok v.whole := by
  have hrender : Json.render .compact v.whole = .ok _ := if_pos (isWritable_whole hw)
  exact ⟨_, (format_eq_render hbare hw).trans hrender,
    Json.read_render Json.Layout.compact_regular (tidy_whole hv) hrender⟩

theorem eq_of_equals_text {v : Value} {s : String} (h : v.equals (.text s) = true) : v = .text s := by
  cases v with
  | text t => rw [equals, beq_iff_eq] at h; rw [h]
  | _ => simp [equals, number?] at h

/-- Nothing, a text or an infinity is not read back as a document. -/
theorem not_equals_readOr {v fallback : Value} (hbare : v.isBare = true)
    (hfallback : fallback.isContainer = true) :
    ∃ text, v.format = .ok text ∧ (readOr fallback (.text text)).equals v = false := by
  have hdistinct : ∀ w : Value, w.isContainer = false → fallback.equals w = false := by
    intro w hw
    cases fallback <;> cases w <;> simp_all [isContainer, equals, number?]
  cases v with
  | null => exact ⟨"", rfl, hdistinct .null rfl⟩
  | text s =>
    refine ⟨s, rfl, Bool.eq_false_iff.2 fun hequals => ?_⟩
    have htext := eq_of_equals_text hequals
    rw [readOr] at htext
    cases hread : Json.read s with
    | error e =>
      rw [hread] at htext
      replace htext : fallback = .text s := htext
      rw [htext] at hfallback
      cases hfallback
    | ok w =>
      rw [hread] at htext
      replace htext : w = .text s := htext
      exact Json.read_ne_self s (hread.trans (congrArg Except.ok htext))
  | float x =>
    cases hparts : Number.parts x with
    | infinite negative =>
      obtain rfl := Number.eq_of_infinite hparts
      cases negative
      · exact ⟨"inf", rfl, hdistinct _ rfl⟩
      · exact ⟨"-inf", rfl, hdistinct _ rfl⟩
    | _ => simp [isBare, Number.isFinite, Number.isNaN, hparts] at hbare
  | _ => cases hbare

/-- Read again as a document, the text of a value gives an equal value just if that is not bare. -/
theorem equals_readOr_iff {v : Value} (fallback : Value) (hv : v.Tidy) (hw : v.isWritable = true)
    (hfallback : fallback.isContainer = true) :
    ∃ text, v.format = .ok text ∧
      ((readOr fallback (.text text)).equals v = true ↔ v.isBare = false) := by
  cases hbare : v.isBare with
  | true =>
    obtain ⟨text, htext, hequals⟩ := not_equals_readOr hbare hfallback
    exact ⟨text, htext, by simp [hequals]⟩
  | false =>
    obtain ⟨text, htext, hread⟩ := read_format hbare hv hw
    refine ⟨text, htext, iff_of_true ?_ rfl⟩
    rw [readOr, hread]
    exact equals_whole hv

/-! ### Round trips -/

/-- A literal of a kind is read, its value is shown, and the text is read again, always; the value
that comes back is equal to the first one just if that is not bare where documents are read. -/
theorem equals_ofLiteral_format_iff (kind : Kind) {literal : String}
    (legible : kind = .number → Number.Legible literal) :
    ∃ v text w, ofLiteral (some kind) (.text literal) = .ok v ∧ v.format = .ok text ∧
      ofLiteral (some kind) (.text text) = .ok w ∧
      (w.equals v = true ↔ (kind = .object ∨ kind = .array → v.isBare = false)) := by
  obtain ⟨v, hv⟩ : ∃ v, ofLiteral (some kind) (.text literal) = .ok v :=
    isOk_iff.1 (isOk_ofLiteral.2 fun h => legible (Option.some.inj h))
  have htidy : v.Tidy := tidy_ofLiteral (tidy_text literal) hv
  have hwritable : v.isWritable = true := inherited_isWritable.of_ofLiteral rfl hv
  have hfits : v.fits kind = true := fits_ofLiteral hv
  cases kind with
  | string =>
    cases v with
    | text s => exact ⟨_, s, _, hv, rfl, rfl, iff_of_true (equals_self htidy) (by simp)⟩
    | _ => cases hfits
  | boolean =>
    cases v with
    | bool b =>
      refine ⟨_, _, .bool b, hv, rfl, ?_, iff_of_true (equals_self htidy) (by simp)⟩
      cases b <;> rfl
    | _ => cases hfits
  | number =>
    obtain ⟨text, htext, hread⟩ := ofLiteral_format hfits hwritable
    exact ⟨v, text, v.whole, hv, htext, hread, iff_of_true (equals_whole htidy) (by simp)⟩
  | object =>
    obtain ⟨text, htext, hequals⟩ := equals_readOr_iff (.object []) htidy hwritable rfl
    exact ⟨v, text, _, hv, htext, rfl, by simpa using hequals⟩
  | array =>
    obtain ⟨text, htext, hequals⟩ := equals_readOr_iff (.list []) htidy hwritable rfl
    exact ⟨v, text, _, hv, htext, rfl, by simpa using hequals⟩

theorem equals_ofLiteral_format_iff_thousand :
    Number.Legible "1e3" ∧ ∃ v text w, ofLiteral (some .number) (.text "1e3") = .ok v ∧
      v.format = .ok text ∧ ofLiteral (some .number) (.text text) = .ok w ∧
      (w.equals v = true ↔ (Kind.number = .object ∨ Kind.number = .array → v.isBare = false)) := by
  have hlegible : Number.Legible "1e3" := by
    intro negative digits h
    have hnone : Number.wholeNumber? (strip "1e3".toList) = none := by decide
    rw [hnone] at h
    cases h
  exact ⟨hlegible, equals_ofLiteral_format_iff .number fun _ => hlegible⟩

/-- A document that is an infinity is shown as `inf`, which is no document. -/
theorem not_equals_ofLiteral_format_infinity :
    ∃ v w, ofLiteral (some .object) (.text "Infinity") = .ok v ∧ v.format = .ok "inf" ∧
      ofLiteral (some .object) (.text "inf") = .ok w ∧ w.equals v = false := by
  have hparts : Number.parts (Number.infinity false) = .infinite false := by decide +kernel
  have hwritable : (Value.float (Number.infinity false)).isWritable = true := rfl
  have hread : Json.read "Infinity" = .ok (.float (Number.infinity false)) := by
    refine Json.read_render Json.Layout.compact_regular (tidy_float _) ?_
    rw [Json.render, if_pos hwritable, Json.write, Json.floatChars, hparts]
    rfl
  have hformat : format (.float (Number.infinity false)) = .ok "inf" := by
    rw [format, formatFloat, Number.isNaN, Number.toInt?, Number.floatText, hparts]
    rfl
  refine ⟨.float (Number.infinity false), .object [], ?_, hformat, rfl, by simp [equals, number?]⟩
  rw [ofLiteral, readOr, hread]
  rfl

end Value

end StoryState
